import Outpost.BroadcastDelivery
import Outpost.DeviceRequests
import Outpost.SyncRevocation
import Outpost.ZtnaPeers
import Outpost.UserAccess
import Outpost.Administrators
import Outpost.SessionActivity
import Outpost.RefreshOnce
import Outpost.BackupCodes
import Outpost.MfaLockout
import Outpost.PeerCoverage
import Outpost.SmartRouteRefresh
import Outpost.S2SSync
import Outpost.SessionRevocation
import Outpost.SessionStores
import Outpost.Bandwidth
import Outpost.Compliance
import Outpost.RevokedKeys
import Outpost.MailedConfig
import Outpost.DevicePrivacy
import Outpost.AuditLog
import Outpost.LeaderLock
import Outpost.SystemGroups
import Outpost.Webhooks
import Outpost.SiemExport
import Outpost.FailClosed
import Outpost.ConntrackFlush
import Outpost.ChainWiring
import Outpost.AddressAllocation
import Outpost.TrustMonotone
import Outpost.OidcScopes
import Outpost.ResetTokens
import Outpost.LoginFailures
import Outpost.Tenants
import Outpost.DeviceKeys
import Outpost.TokenSpelling
import Outpost.ScimPatch
import Outpost.PostureCheck
import Outpost.S2SRouteHistory
import Outpost.S2SHealth
import Outpost.S2SConnectivity
import Outpost.RateLimiter
import Outpost.RateLimiterRedis
import Outpost.ClientTunnel
import Outpost.GatewayMode
import Outpost.NatDiscovery
import Outpost.Mailer
import Outpost.Pagination
