import Chrysopolis.ArmTimer.DriverProperties
import Chrysopolis.Abi.SpecRecoveryProperties
import Chrysopolis.Blk.VirtProperties
import Chrysopolis.Blk.RecoveryProperties
import Chrysopolis.Codegen.CheckersProperties
import Chrysopolis.Control.RestartProperties
import Chrysopolis.System.ContractProperties
import Chrysopolis.Beam.CondProperties
import Chrysopolis.Beam.CtlDeviceProperties
import Chrysopolis.Beam.EpollProperties
import Chrysopolis.Beam.FutexProperties
import Chrysopolis.Beam.IdleAgesProperties
import Chrysopolis.Beam.LocksProperties
import Chrysopolis.Beam.PollProperties
import Chrysopolis.Beam.ReplayProperties
import Chrysopolis.Beam.RwLocksProperties
import Chrysopolis.Beam.TimerProperties
import Chrysopolis.Beam.TlsProperties
import Chrysopolis.Beam.TraceProperties
import Chrysopolis.Framing.BufferProperties
import Chrysopolis.Framing.MissingProperties
import Chrysopolis.Framing.NoiseProperties
import Chrysopolis.Framing.ResyncProperties
import Chrysopolis.Virtio.EthernetProperties
import Chrysopolis.Root.AtMostOnceProperties
import Chrysopolis.Root.BucketProperties
import Chrysopolis.Root.CeilingProperties
import Chrysopolis.Root.GoneProperties
import Chrysopolis.Root.ModelProperties
import Chrysopolis.Root.NoninterferenceProperties
import Chrysopolis.Root.SpecChannelProperties
import Chrysopolis.Root.WindowProperties
import Chrysopolis.Tcp.LeakProperties
import Chrysopolis.Tcp.OwnershipProperties
import Chrysopolis.Tcp.ReceiveRingProperties
import Chrysopolis.Testbed.RootlogProperties
import Chrysopolis.Codegen.CodecProperties
import Chrysopolis.Codegen.CoverageProperties
import Chrysopolis.Codegen.LayoutDigestProperties
import Chrysopolis.Codegen.SealProperties
import Chrysopolis.Codegen.ValidateProperties
import Chrysopolis.Beam.WakePipeProperties
import Chrysopolis.Testbed.AvailabilityProperties
import Chrysopolis.Testbed.ChartObjectsProperties
import Chrysopolis.Testbed.ConsoleProperties
import Chrysopolis.Testbed.CrashcheckProperties
import Chrysopolis.Testbed.LdfiProperties
import Chrysopolis.Testbed.LineageProperties
import Chrysopolis.Testbed.ReachProperties
