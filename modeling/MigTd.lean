import MigTd.Crypto.TlsDelivery
import MigTd.Crypto.TlsInput
import MigTd.Crypto.TlsOutput
import MigTd.Measurement.EventBounds
import MigTd.Measurement.HashTool
import MigTd.Measurement.WriteAtomicity
import MigTd.Migration.AttrFlows
import MigTd.Migration.HobList
import MigTd.Migration.LogLevels
import MigTd.Migration.LogTolerance
import MigTd.Migration.MainLoop
import MigTd.Migration.MskAgreement
import MigTd.Migration.PeerDataCodec
import MigTd.Migration.PreSessionAgreement
import MigTd.Migration.RebindWrites
import MigTd.Migration.ServiceBuffers
import MigTd.Migration.TlsStatus
import MigTd.Migration.TransportContexts
import MigTd.Pci.AllocationRuns
import MigTd.Policy.HexStrings
import MigTd.Policy.Succession
import MigTd.Policy.TcbLookup
import MigTd.PolicyV1.SelfReference
import MigTd.Spdm.AttestWire
import MigTd.Spdm.Disclosure
import MigTd.Spdm.FlowSeparation
import MigTd.Spdm.SessionBinding
import MigTd.Spdm.SessionErrors
import MigTd.Spdm.VmcallTransport
import MigTd.VmcallRaw.Stream
import MigTd.Vsock.ConnectionTable
import MigTd.Vsock.Credit
import MigTd.Vsock.DmaRuns
import MigTd.Vsock.ReceiveWindow
import MigTd.AsyncRuntime.Executor
import MigTd.Pci.BarTable
import MigTd.SysTime.Rtc
import MigTd.Serial.Ports
