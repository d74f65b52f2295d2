import Netanvil.Udp.LossAccounting
import Netanvil.Agent.Exclusivity
import Netanvil.Agent.Recovery
import Netanvil.Distributed.Stop
import Netanvil.Distributed.RateShare
import Netanvil.Distributed.Window
import Netanvil.Distributed.Interference
import Netanvil.Distributed.Totals
import Netanvil.Distributed.Acknowledge
import Netanvil.Distributed.CrashSafety
import Netanvil.Distributed.QueueInvariant
import Netanvil.Distributed.Cancellation
import Netanvil.Distributed.Deadlock
import Netanvil.Distributed.ControllerUpdate
import Netanvil.Core.Warmup
import Netanvil.Core.TimerEnd
import Netanvil.Core.TimerStop
import Netanvil.Core.RateChange
import Netanvil.Core.Engine
import Netanvil.Core.Shutdown
import Netanvil.Core.RequestIdentity
import Netanvil.Core.Controller.Restraint
import Netanvil.Core.Controller.WarmupEnd
import Netanvil.Redis.Affinity
import Netanvil.Core.MidTestUpdates
import Netanvil.Udp.Executor
import Netanvil.TestServer.Progress
import Netanvil.Redis.Pairing
import Netanvil.TestServer.PoolPointer
import Netanvil.TestServer.Pacing
import Netanvil.Config.Panics
import Netanvil.Config.Hex
import Netanvil.Tcp.Synchrony
import Netanvil.Core.Controller.MissingSignal
import Netanvil.Core.Controller.KnownGood
import Netanvil.Core.Controller.PidIntegral
import Netanvil.Core.Controller.Bumpless
import Netanvil.Core.Controller.Setpoint
import Netanvil.Core.Controller.AutoTuning
import Netanvil.Core.Controller.RecoverySampling
import Netanvil.Core.Controller.AdditiveIncrease
import Netanvil.Core.Controller.CohenCoon
import Netanvil.Core.Controller.ExplorationBound
import Netanvil.Core.Controller.StepRate
import Netanvil.Tcp.FrameRoundTrip
import Netanvil.Core.Verdicts
import Netanvil.Core.Dropping
import Netanvil.Dns.Executor
import Netanvil.Types.Sampler
import Netanvil.Core.Lifetime
import Netanvil.Distributed.TestIds
