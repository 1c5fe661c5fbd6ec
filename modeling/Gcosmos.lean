import Gcosmos.Go
import Gcosmos.Time.Civil
import Gcosmos.Time.Rfc3339
import Gcosmos.Gsi.Types
import Gcosmos.Gsi.Voting
import Gcosmos.Gsi.Consider
import Gcosmos.Gsi.EnterRound
import Gcosmos.Gsi.Hooks
import Gcosmos.Gsi.Network
import Gcosmos.Ggrpc.Server
import Gcosmos.Gserver.Component
