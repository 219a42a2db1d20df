import Portus.ActingForUsers
import Portus.AllowedKinds
import Portus.Attempts
import Portus.AuthFailClosed
import Portus.BackendTls
import Portus.BodyEncodings
import Portus.BodyScans
import Portus.BreakerRecovery
import Portus.BudgetChecks
import Portus.CachedTokens
import Portus.ClientAddresses
import Portus.CompileLoop
import Portus.ConcurrentAdmission
import Portus.Distribution
import Portus.EndpointAggregation
import Portus.EndpointHealth
import Portus.FingerprintStability
import Portus.FrontendMtls
import Portus.GrantEnforcement
import Portus.GrpcMatching
import Portus.IpAllowlists
import Portus.Isolation
import Portus.IssuerSources
import Portus.KeyDistribution
import Portus.LeaderElection
import Portus.LedgerEvents
import Portus.LimitScope
import Portus.ListenerConflicts
import Portus.ListenerIsolation
import Portus.MatchFidelity
import Portus.OrderIndependence
import Portus.OwnedHeaders
import Portus.PathElements
import Portus.PolicyConvergence
import Portus.PolicyCoverage
import Portus.PolicyRejection
import Portus.ProbeReports
import Portus.ProgrammedStatus
import Portus.RateBounds
import Portus.RefusalEffects
import Portus.Slices
import Portus.SpecChanges
import Portus.StoredLists
import Portus.StreamWinners
import Portus.TlsListeners
import Portus.TriggerCompleteness
import Portus.Turns
import Portus.UsageAccounting
import Portus.UsageExport
import Portus.UsageOnce
import Portus.WindowAttribution
import Portus.WindowCalendar
