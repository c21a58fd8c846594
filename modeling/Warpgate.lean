import Warpgate.Approvals.Ledger
import Warpgate.Auth.Policies
import Warpgate.Browser.Runs
import Warpgate.Cluster.Reaper
import Warpgate.Encryption.Envelopes
import Warpgate.Encryption.Rotation
import Warpgate.Http.SsoRequests
import Warpgate.Http.Upstream
import Warpgate.Kubernetes.Correlator
import Warpgate.Login.Advertised
import Warpgate.Login.OwnApproval
import Warpgate.LoginProtection.Escalation
import Warpgate.LoginProtection.Mirror
import Warpgate.Postgres.CancelKeys
import Warpgate.RateLimiting.Stream
import Warpgate.Recordings.Terminal
import Warpgate.Sessions.Admission
import Warpgate.Sessions.Expiry
import Warpgate.Sessions.Logout
import Warpgate.Ssh.Authentication
import Warpgate.Ssh.CommandDetector
import Warpgate.Ssh.Ordering
import Warpgate.Ssh.Stalls
import Warpgate.Ssh.StepUp
import Warpgate.Storage.Removal
import Warpgate.Streams.Reauthorization
import Warpgate.TicketRequests.Decided
