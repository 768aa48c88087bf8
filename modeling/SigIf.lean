import SigIf.Runs
import SigIf.JsonValue
import SigIf.Constants
import SigIf.Request
import SigIf.Acceptor
import SigIf.Delivery
import SigIf.Demultiplexing
import SigIf.MachineLists
import SigIf.NonblockingReads
import SigIf.RealConnections
import SigIf.RequestVerdict
import SigIf.Stranding
import SigIf.TcpStatus
import SigIf.AddressCheck
import SigIf.ArrayChecks
import SigIf.ConnectOutcome
import SigIf.DescriptorLeaks
import SigIf.FieldAgreement
import SigIf.Insertions
import SigIf.Leader
import SigIf.ListenAddress
import SigIf.ReadsAsWrites
import SigIf.Workers
import SigIf.Chains
import SigIf.Draining
import SigIf.FailedLoads
import SigIf.MachineLoop
import SigIf.Reassembly
