import SocFabric.Lib.Lts
import SocFabric.Lib.BoundedQueue
import SocFabric.Lib.DirGraph
import SocFabric.Lib.Joined
import SocFabric.Lib.Mealy
import SocFabric.Lib.Text
import SocFabric.Lib.Sha256
import SocFabric.Lib.Slots
import SocFabric.Lib.Json
import SocFabric.Lib.Time
import SocFabric.Lib.Regex
import SocFabric.Lib.FieldLine
import SocFabric.Lib.GoValue
import SocFabric.Lib.GoJson
import SocFabric.Lib.KeyedStore
import SocFabric.Lib.RaisingLoop
import SocFabric.Lib.Weighted
import SocFabric.Lib.PyNum
import SocFabric.Lib.PyNumber
import SocFabric.Lib.ExactReal
import SocFabric.Lib.Float64
import SocFabric.Lib.Url
import SocFabric.Lib.Substitution
import SocFabric.Lib.PercentFormat
import SocFabric.Lib.Masked
import SocFabric.Lib.Uuid
import SocFabric.Lib.RoseTree
import SocFabric.Lib.Search
import SocFabric.Lib.Newest
import SocFabric.Lib.GroupBy
import SocFabric.Lib.Decimal
import SocFabric.Enrollment
import SocFabric.EnrollmentCap
import SocFabric.LegacyEnrollment
import SocFabric.TenantContext
import SocFabric.TenantIsolation
import SocFabric.InternalAuth
import SocFabric.DbPool
import SocFabric.GoogleAuth
import SocFabric.OauthState
import SocFabric.SignIn
import SocFabric.ConsoleTab
import SocFabric.Credentials
import SocFabric.CredentialRotation
import SocFabric.Governance
import SocFabric.ActionApi
import SocFabric.TwoKeyGate
import SocFabric.TwoKeyConsole
import SocFabric.PlaybookConsole
import SocFabric.Playbooks
import SocFabric.InvestigationView
import SocFabric.InvestigationGraph
import SocFabric.AsyncState
import SocFabric.WebSocketStream
import SocFabric.InvestigationStream
import SocFabric.TriageFeed
import SocFabric.CommandCenter
import SocFabric.CommandChat
import SocFabric.AlertRules
import SocFabric.AgentExecutor
import SocFabric.AgentTasks
import SocFabric.TaskDelivery
import SocFabric.IngestServer
import SocFabric.TenantCache
import SocFabric.Provisioning
import SocFabric.FlowForensics
import SocFabric.Triage
import SocFabric.AgentBootstrap
import SocFabric.AgentEvents
import SocFabric.LiveSockets
import SocFabric.OverviewChat
import SocFabric.Polling
import SocFabric.AgentIdentity
import SocFabric.AgentStream
import SocFabric.AgentFeed
import SocFabric.ChatRateLimit
import SocFabric.FindingLifecycle
import SocFabric.MetricsOverview
import SocFabric.IntelligenceEngine
import SocFabric.IntelligenceAlerts
import SocFabric.TriageProposals
import SocFabric.TriageTargets
import SocFabric.Telemetry
import SocFabric.BatchEnvelope
import SocFabric.TelemetryBus
import SocFabric.CdmParser
import SocFabric.CdmGraph
import SocFabric.QualifiedEvents
import SocFabric.EventStreams
import SocFabric.LogStore
import SocFabric.LogAccounting
import SocFabric.DeadLetter
import SocFabric.NetworkAdapter
import SocFabric.AgentPushFlow
import SocFabric.LogQueries
import SocFabric.NoveltyCache
import SocFabric.CdmEnrichment
import SocFabric.CdmTenants
import SocFabric.EvidenceStream
import SocFabric.EvidenceFirewall
import SocFabric.EvidenceCompleteness
import SocFabric.DDoSDetector
import SocFabric.DDoSIsolation
import SocFabric.DDoSTriggers
import SocFabric.DDoSTarget
import SocFabric.DDoSSustained
import SocFabric.DDoSEvidence
import SocFabric.EwmaBaseline
import SocFabric.DDoSOrder
import SocFabric.RatDetector
import SocFabric.BeaconDetection
import SocFabric.RatChecks
import SocFabric.BeaconTimestamps
import SocFabric.RatScores
import SocFabric.RatOrder
import SocFabric.CoverTraffic
import SocFabric.ContainmentVocabulary
import SocFabric.UnknownBinary
import SocFabric.ExfiltrationRisk
import SocFabric.NetworkEvidence
import SocFabric.DomainTable
import SocFabric.TriageTrace
import SocFabric.EvidenceFrames
import SocFabric.DnsAssociation
import SocFabric.CdmNodes
import SocFabric.BatchBodies
import SocFabric.SyslogRoundTrip
import SocFabric.DnsEvents
import SocFabric.PortNarrowing
import SocFabric.NetworkAggregation
import SocFabric.NetworkMap
import SocFabric.InvestigationDetails
import SocFabric.EndpointConsoles
import SocFabric.FindingOverlay
import SocFabric.LateralMovement
import SocFabric.ScriptFeatures
import SocFabric.ScriptPadding
import SocFabric.LanDiscovery
import SocFabric.BulkUpdate
import SocFabric.AccessLogFilter
import SocFabric.AccessLogMasking
import SocFabric.AccessLogRequests
