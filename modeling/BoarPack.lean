import BoarPack.Auth.SingleUse
import BoarPack.Auth.Family
import BoarPack.Auth.Deletion
import BoarPack.Auth.Passwords
import BoarPack.JwtAuth.Guard
import BoarPack.Users.EditingGuard
import BoarPack.Users.Seeding
import BoarPack.EventLogs.Service
import BoarPack.EventLogs.Masking
import BoarPack.Cluster.AtMostOne
import BoarPack.Cluster.StopSticky
import BoarPack.Timeline.Conservation
import BoarPack.Timeline.Statements
import BoarPack.Table.BulkEditing
import BoarPack.Table.Columns
import BoarPack.Table.ColumnsSets
import BoarPack.Table.Keyword
import BoarPack.Table.QueryParams
import BoarPack.Table.ImportExport
import BoarPack.ChangesModal.Commit
import BoarPack.WebsocketClient.Delivery
import BoarPack.WebsocketClient.OneSocket
import BoarPack.Websockets.CloseFinal
import BoarPack.WsAuth.Tracking
import BoarPack.AuditLogs.Trail
import BoarPack.Library.Precedence
import BoarPack.Casl.Packing
import BoarPack.Casl.Definers
import BoarPack.Casl.FieldsPermission
import BoarPack.ProviderMonitoring.Service
import BoarPack.ProviderMonitoring.Periods
import BoarPack.Library.Backoff
import BoarPack.Library.Outbox
import BoarPack.ProviderMonitoring.Alerts
import BoarPack.Statistics.Conservation
import BoarPack.EventLogs.Buffer
import BoarPack.Library.FirstAppearance
import BoarPack.Tools.VirtualColumn
import BoarPack.JwtAuth.Modes
import BoarPack.AuditLogs.Atomicity
import BoarPack.Websockets.SendReports
import BoarPack.Websockets.CloseOnce
import BoarPack.WebsocketClient.Frames
import BoarPack.WsAuth.Liveness
import BoarPack.ProviderMonitoring.Agreement
import BoarPack.ProviderMonitoring.Outages
import BoarPack.ProviderMonitoring.Toggle
import BoarPack.ApiStatistics.Service
import BoarPack.Table.Filters
import BoarPack.Table.FiltersUsable
import BoarPack.Table.FiltersWellFormed
import BoarPack.Scrypt.Service
import BoarPack.Settings.Events
import BoarPack.Users.PermissionsDto
import BoarPack.Tools.VirtualColumnMetadata
import BoarPack.Library.Base64
import BoarPack.Table.ImportDiff
import BoarPack.Descriptions.Sections
import BoarPack.Descriptions.Errors
import BoarPack.Lists.Saving
import BoarPack.Inputs.SearchSelect
import BoarPack.ApiClient.CancelablePromise
import BoarPack.ApiClient.Request
import BoarPack.ApiClient.QueryString
import BoarPack.ApiClient.Url
import BoarPack.Telegraf.Service
import BoarPack.Telegraf.Delivery
import BoarPack.Casl.PoliciesGuard
import BoarPack.AuditLogs.Controller
import BoarPack.Auth.Cookies
import BoarPack.Auth.Browser
import BoarPack.Auth.Continuity
import BoarPack.Cluster.Config
import BoarPack.Tokens.Lifetime
import BoarPack.Timeline.Chart
import BoarPack.Auth.SocialLogin
import BoarPack.Users.PermissionsList
import BoarPack.EventLogs.Recording
import BoarPack.WsAuth.Guard
import BoarPack.Library.Retention
import BoarPack.ProviderMonitoring.LatestQuotes
