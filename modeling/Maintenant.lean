import Maintenant.Alert.Silence
import Maintenant.Alert.Recovery
import Maintenant.Escalation.Terminal
import Maintenant.Escalation.InFlight
import Maintenant.Escalation.Progress
import Maintenant.Escalation.Acknowledge
import Maintenant.Push.Accounting
import Maintenant.Push.Order
import Maintenant.Push.Close
import Maintenant.Push.AckSafety
import Maintenant.Push.Budget
import Maintenant.Container.Paths
import Maintenant.Container.Slices
import Maintenant.Container.Retention
import Maintenant.Container.Deletion
import Maintenant.Container.Down
import Maintenant.Container.Inventory
import Maintenant.Resource.Daily
import Maintenant.App.Tracking
import Maintenant.App.Restarts
import Maintenant.Endpoint.Sweep
import Maintenant.Endpoint.Targets
import Maintenant.Heartbeat.Timing
import Maintenant.Heartbeat.Paused
import Maintenant.Heartbeat.Race
import Maintenant.Certificate.Thresholds
import Maintenant.Certificate.Labels
import Maintenant.App.Quotas
import Maintenant.Update.Selection
import Maintenant.Update.Fixes
import Maintenant.Update.Digests
import Maintenant.Update.Failures
import Maintenant.Update.Alerts
import Maintenant.Update.Summary
import Maintenant.AgentServer.Announcements
import Maintenant.AgentServer.Teardown
import Maintenant.AgentServer.Redelivery
import Maintenant.AgentServer.Auth
import Maintenant.OAuth.Replay
import Maintenant.Store.Shutdown
import Maintenant.License.Grace
import Maintenant.Security.Posture
import Maintenant.Security.Insights
import Maintenant.Swarm.Alerts
import Maintenant.RateLimit.ClientIP
