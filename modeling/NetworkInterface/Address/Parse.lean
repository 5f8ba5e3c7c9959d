import NetworkInterface.Address.Object

/-!
# Address — Parse

`utils::tokenizeString`, `utils::convertFromString` and the constructor
`IPAddress(std::string const&)`, with every way they can leave the ordinary path (`Failure`).

Positions and sizes are natural numbers; where the source subtracts below zero or narrows a
value, the reduction modulo `2 ^ 64` (`size_t`) or `2 ^ 32` (`unsigned int`) is written out.
A loop counter of the source wraps only at `2 ^ 32` tokens, which a string shorter than
`2 ^ 32` characters does not have once the token before a leading `::` is erased.
-/

namespace NetworkInterface
open Support

/-- How a call can end other than by returning. -/
inductive Failure where
  /-- `throw std::invalid_argument(what)`. -/
  | invalidArgument (what : String)
  /-- An element outside a buffer or a vector is read: undefined behaviour. -/
  | outOfBounds (index size : Nat)
  /-- `substr` from beyond the end, which throws out of a `noexcept` function. -/
  | outOfRange (pos size : Nat)
  /-- `assert(what)` does not hold. -/
  | assertion (what : String)
  /-- A word is shifted by its width or more: undefined behaviour. -/
  | undefinedShift (count : Nat)
  /-- A loop did not end in the turns the model gives it. -/
  | stalled
  deriving DecidableEq, Repr

/-- What a call does: it returns a value, or ends in a failure. -/
abbrev Outcome (α : Type) := Except Failure α

theorem Outcome.bind_eq_ok {α β : Type} {x : Outcome α} {f : α → Outcome β} {b : β} :
    x >>= f = .ok b ↔ ∃ a, x = .ok a ∧ f a = .ok b := by
  cases x with
  | error e => exact ⟨nofun, nofun⟩
  | ok a => exact ⟨fun h => ⟨a, rfl, h⟩, fun ⟨_, rfl, h⟩ => h⟩

/-- A difference of two `size_t`. -/
def sizeSub (a b : Nat) : Nat := (a + 2 ^ 64 - b) % 2 ^ 64

/-! ### tokenizeString -/

/-- `str[i]`, in the buffer `c_str()` gives: the characters, then a NUL. -/
def charAt (s : Text) (i : Nat) : Outcome Char :=
  match (s ++ ['\x00'])[i]? with
  | some c => .ok c
  | none => .error (.outOfBounds i (s.length + 1))

/-- `s.substr(pos, count)`. -/
def substr (s : Text) (pos count : Nat) : Outcome Text :=
  if pos ≤ s.length then .ok ((s.drop pos).take count) else .error (.outOfRange pos s.length)

/-- The variables of `tokenizeString`. -/
structure TokenizeState where
  startPos : Nat
  currentPos : Nat
  tokensArray : List Text

/-- The innermost loop: `while (str[currentPos] == separator) currentPos++`. -/
def skipSeparators (s : Text) (separator : Char) : (turns currentPos : Nat) → Outcome Nat
  | 0, _ => .error .stalled
  | turns + 1, currentPos => do
      let c ← charAt s currentPos
      if c = separator then skipSeparators s separator turns (currentPos + 1)
      else return currentPos

/-- The middle loop, entered at each character: one turn for each separator found. -/
def takeTokens (s : Text) (separator : Char) (emptyIsToken : Bool) :
    (turns : Nat) → TokenizeState → Outcome TokenizeState
  | 0, _ => .error .stalled
  | turns + 1, st => do
      let c ← charAt s st.currentPos
      if c = separator ∧ st.currentPos < s.length then
        let foundPos := st.currentPos
        let currentPos ←
          if !emptyIsToken then skipSeparators s separator (s.length + 1) st.currentPos
          else pure (st.currentPos + 1)
        let subStr ← substr s st.startPos (foundPos - st.startPos)
        takeTokens s separator emptyIsToken turns
          { startPos := currentPos, currentPos := currentPos
            tokensArray :=
              if !subStr.isEmpty || emptyIsToken then st.tokensArray ++ [subStr]
              else st.tokensArray }
      else return st

/-- The outer loop. -/
def tokenizeLoop (s : Text) (separator : Char) (emptyIsToken : Bool) :
    (turns : Nat) → TokenizeState → Outcome TokenizeState
  | 0, _ => .error .stalled
  | turns + 1, st =>
      if st.currentPos < s.length then do
        let st ← takeTokens s separator emptyIsToken (s.length + 1) st
        tokenizeLoop s separator emptyIsToken turns { st with currentPos := st.currentPos + 1 }
      else .ok st

/-- `utils::tokenizeString`. -/
def tokenizeString (s : Text) (separator : Char) (emptyIsToken : Bool) : Outcome (List Text) := do
  let st ← tokenizeLoop s separator emptyIsToken (s.length + 1) ⟨0, 0, []⟩
  let subStr ← substr s st.startPos (s.length - st.startPos)
  return if !subStr.isEmpty || emptyIsToken then st.tokensArray ++ [subStr] else st.tokensArray

/-! ### convertFromString -/

/-- The characters a function that is given `s.c_str()` sees. -/
def cStr (s : Text) : Text := s.takeWhile (· ≠ '\x00')

/-- `utils::convertFromString<std::uint16_t>`, on the text before the NUL. -/
def convertFromString (str : Text) : Outcome UInt16 :=
  if str.take 2 = ['0', 'b'] then
    match Numeral.strtoll 2 (str.drop 2) with
    | (c, []) => .ok (UInt16.ofInt c)
    | (_, _ :: _) => .error (.invalidArgument (String.ofList str))
  else
    let base := if str.take 2 = ['0', 'x'] ∨ str.take 2 = ['0', 'X'] then 16 else 10
    match Numeral.readUnsigned base 16 str with
    | some out => .ok (UInt16.ofNat out)
    | none => .error (.invalidArgument (String.ofList str))

/-! ### IPv4 -/

/-- The body of the loop of `parseIPV4`. -/
def parseOctet (token : Text) : Outcome UInt8 := do
  let tokenValue ← convertFromString (cStr token)
  if tokenValue > 255 then throw (.invalidArgument "Invalid IPV4 value")
  return tokenValue.toUInt8

/-- The `parseIPV4` lambda. -/
def parseIPV4 (ipString : Text) : Outcome ValueTypeV4 := do
  let tokens ← tokenizeString ipString '.' false
  match tokens with
  | [t₀, t₁, t₂, t₃] => do
      let b₀ ← parseOctet t₀
      let b₁ ← parseOctet t₁
      let b₂ ← parseOctet t₂
      let b₃ ← parseOctet t₃
      return #v[b₀, b₁, b₂, b₃]
  | _ => throw (.invalidArgument "Invalid IPV4 format")

/-! ### IPv6 -/

def maxTokensV6 : Nat := 8

def invalidV6 : Failure := .invalidArgument "Invalid IPV6 format"

/-- The `packValue` lambda. -/
def packValue (packedIP : ValueTypePackedV6) (value : UInt16) (index : Nat) :
    Outcome ValueTypePackedV6 :=
  if index ≥ maxTokensV6 then .error invalidV6
  else if index < 4 then
    .ok (packedIP.1 ||| value.toUInt64 <<< UInt64.ofNat (48 - index * 16), packedIP.2)
  else .ok (packedIP.1, packedIP.2 ||| value.toUInt64 <<< UInt64.ofNat (48 - (index - 4) * 16))

/-- `tokensV6[index]`. -/
def tokenAt (tokensV6 : List Text) (index : Nat) : Outcome Text :=
  match tokensV6[index]? with
  | some token => .ok token
  | none => .error (.outOfBounds index tokensV6.length)

/-- The first special case: `::xxx` starts with two empty tokens, of which one goes. -/
def eraseFirstToken (tokensV6 : List Text) : Outcome (List Text) := do
  if (← tokenAt tokensV6 0).isEmpty then
    if (← tokenAt tokensV6 1).isEmpty then return tokensV6.tail
  return tokensV6

/-- The second special case: `xxx::` ends with two empty tokens, of which one goes. -/
def eraseLastToken (tokensV6 : List Text) : Outcome (List Text) := do
  if (← tokenAt tokensV6 (sizeSub tokensV6.length 1)).isEmpty then
    if (← tokenAt tokensV6 (sizeSub tokensV6.length 2)).isEmpty then return tokensV6.dropLast
  return tokensV6

/-- What the scan of the tokens finds out. -/
structure TokenScan where
  emptyTokenCount : Nat := 0
  /-- The index of the empty token, and how many zero groups it stands for. -/
  emptyTokens : Option (Nat × Nat) := none
  isLastTokenIPv4 : Bool := false

/-- The body of the scan, at token `i` of `size`. -/
def scanToken (size i : Nat) (token : Text) (scan : TokenScan) : Outcome TokenScan :=
  let scan :=
    if token.isEmpty then
      { scan with
        emptyTokenCount := scan.emptyTokenCount + 1
        emptyTokens := some (i, (sizeSub maxTokensV6 size + 1) % 2 ^ 64) }
    else scan
  if '.' ∈ token then
    if i = sizeSub size 1 then
      -- an IPv4 counts as two tokens
      .ok { scan with
        isLastTokenIPv4 := true
        emptyTokens := scan.emptyTokens.map fun (first, length) => (first, sizeSub length 1) }
    else .error invalidV6
  else .ok scan

/-- The scan, from token `i` of `size` on. -/
def scanTokens (size : Nat) : Nat → List Text → TokenScan → Outcome TokenScan
  | _, [], scan => .ok scan
  | i, token :: rest, scan => do
      let scan ← scanToken size i token scan
      scanTokens size (i + 1) rest scan

/-- The sanity checks. -/
def checkTokens (size : Nat) (scan : TokenScan) : Outcome Unit := do
  if scan.emptyTokenCount > 1 then throw invalidV6
  if scan.emptyTokens.isNone then
    if !scan.isLastTokenIPv4 ∧ size ≠ maxTokensV6 then throw invalidV6
    if scan.isLastTokenIPv4 ∧ size ≠ maxTokensV6 - 1 then throw invalidV6

/-- The packing loop, from token `i` of `size` on. -/
def packTokens (size : Nat) (scan : TokenScan) :
    (i : Nat) → List Text → (packPosition : Nat) → ValueTypePackedV6 → Outcome ValueTypePackedV6
  | _, [], _, ip => .ok ip
  | i, token :: rest, packPosition, ip =>
      if scan.emptyTokens.map Prod.fst = some i then
        let length := (scan.emptyTokens.map Prod.snd).getD 0
        packTokens size scan (i + 1) rest ((packPosition + length % 2 ^ 32) % 2 ^ 32) ip
      else if i = sizeSub size 1 ∧ scan.isLastTokenIPv4 then
        if packPosition = maxTokensV6 - 2 then do
          let ipv4 := packV4 (← parseIPV4 token)
          let ip ← packValue ip (ipv4 >>> 16).toUInt16 packPosition
          let ip ← packValue ip (ipv4 &&& 0xFFFF).toUInt16 ((packPosition + 1) % 2 ^ 32)
          packTokens size scan (i + 1) rest ((packPosition + 2) % 2 ^ 32) ip
        else .error (.assertion "packPosition == MaxTokensV6 - 2")
      else do
        let tokenValue ← convertFromString (cStr ('0' :: 'x' :: token))
        let ip ← packValue ip tokenValue packPosition
        packTokens size scan (i + 1) rest ((packPosition + 1) % 2 ^ 32) ip

/-- The branch of the constructor for at least two tokens, once the special cases are done. -/
def parseTokensV6 (tokensV6 : List Text) : Outcome ValueTypePackedV6 := do
  let scan ← scanTokens tokensV6.length 0 tokensV6 {}
  checkTokens tokensV6.length scan
  packTokens tokensV6.length scan 0 tokensV6 0 (0, 0)

/-- `IPAddress(std::string const&)`. -/
def IPAddress.ofString (ipString : Text) : Outcome IPAddress := do
  let tokensV6 ← tokenizeString ipString ':' true
  if tokensV6.length ≥ 2 then
    let tokensV6 ← eraseFirstToken tokensV6
    let tokensV6 ← eraseLastToken tokensV6
    return blank.setValuePackedV6 (← parseTokensV6 tokensV6)
  else
    return blank.setValueV4 (← parseIPV4 ipString)

end NetworkInterface
