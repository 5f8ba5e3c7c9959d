import NetworkInterface.Support.Words
import NetworkInterface.Support.Numeral
import NetworkInterface.Support.OutStream
import NetworkInterface.Support.Positional
import NetworkInterface.Support.Blocks
import NetworkInterface.Support.KeyOrder
import NetworkInterface.Support.LongestRun
import NetworkInterface.Support.Pieces
import NetworkInterface.Support.Feed
import NetworkInterface.Support.Related
import NetworkInterface.Support.Runs
import NetworkInterface.Support.History
import NetworkInterface.Support.RecursiveMutex
import NetworkInterface.Support.Publication
import NetworkInterface.Support.Separation
import NetworkInterface.Address.Print
import NetworkInterface.Address.Arithmetic
import NetworkInterface.Address.Tokenizer
import NetworkInterface.Address.Placement
import NetworkInterface.Address.Structure
import NetworkInterface.Address.DottedQuad
import NetworkInterface.Address.Conversion
import NetworkInterface.Address.PackPosition
import NetworkInterface.Address.Canonical
import NetworkInterface.Address.Order
import NetworkInterface.Address.Validators
import NetworkInterface.Address.Subnet
import NetworkInterface.Address.PrivateNetwork
import NetworkInterface.Address.Walk
import NetworkInterface.Address.Embedding
import NetworkInterface.Address.Reachable
import NetworkInterface.Helper.MacAddress
import NetworkInterface.Helper.Replica
import NetworkInterface.Helper.Reentrancy
import NetworkInterface.Helper.Body
import NetworkInterface.Helper.ReadBack
import NetworkInterface.Helper.Threads
import NetworkInterface.Helper.Serial
import NetworkInterface.Helper.Window
import NetworkInterface.Helper.Destruction
import NetworkInterface.Delegate.Unix
import NetworkInterface.Delegate.MacChanges
import NetworkInterface.Delegate.MacAgreement
import NetworkInterface.Delegate.Keyed
import NetworkInterface.Delegate.Wmi
import NetworkInterface.Delegate.Ios
import NetworkInterface.Monitor.LifeCycle
import NetworkInterface.Monitor.Freshness
import NetworkInterface.Monitor.Polling
import NetworkInterface.Monitor.Win32
import NetworkInterface.Monitor.Waiters
import NetworkInterface.Monitor.MacOS
import NetworkInterface.Monitor.Blocking
import NetworkInterface.Monitor.Orderly
import NetworkInterface.Monitor.Progress
import NetworkInterface.Monitor.Loops
import NetworkInterface.Bindings.Texts
