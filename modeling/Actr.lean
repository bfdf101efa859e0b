import Actr.Proof.Ais.AclAgreement
import Actr.Proof.Ais.AclReplacement
import Actr.Proof.Ais.CredentialLifetime
import Actr.Proof.Ais.KeyRefresh
import Actr.Proof.Ais.RegistrationReplay
import Actr.Proof.Ais.RenewalChain
import Actr.Proof.Ais.SerialNumber
import Actr.Proof.Cli.Fingerprints
import Actr.Proof.Config.Inheritance
import Actr.Proof.Dispatch.ConflictKeyScanner
import Actr.Proof.Dispatch.SchedulerIsolation
import Actr.Proof.Executor.FailClosed
import Actr.Proof.Inbound.ExactlyOnce
import Actr.Proof.Lifecycle.CallerIsolation
import Actr.Proof.Lifecycle.ConnectionSupervisor
import Actr.Proof.Lifecycle.InflightLeak
import Actr.Proof.Lifecycle.RealmUnavailable
import Actr.Proof.Lifecycle.Shutdown
import Actr.Proof.Lifecycle.WireError
import Actr.Proof.Mailbox.Queue
import Actr.Proof.Mfr.Publishing
import Actr.Proof.Outbound.PendingRequests
import Actr.Proof.Outbound.Recovery
import Actr.Proof.Pack.RoundTrip
import Actr.Proof.Platform.Nonce
import Actr.Proof.Platform.RealmCreation
import Actr.Proof.Protocol.ActrUri
import Actr.Proof.Signaling.ExpiryCleanup
import Actr.Proof.Signaling.LoadBalancer
import Actr.Proof.Signaling.Relay
import Actr.Proof.Signaling.Sessions
import Actr.Proof.Transport.Correlation
import Actr.Proof.Transport.DestTransport
import Actr.Proof.Transport.GuardedClose
import Actr.Proof.Transport.LaneRoundTrip
import Actr.Proof.Transport.Orphans
import Actr.Proof.Turn.Authenticator
import Actr.Proof.Wasm.FuelBudget
import Actr.Proof.Wasm.RuntimeLimits
import Actr.Proof.Wire.InboundSinks
