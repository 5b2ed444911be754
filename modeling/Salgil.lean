import Salgil.RouteMonotone
import Salgil.RefusalReasons
import Salgil.RawGraph
import Salgil.ContractDistance
import Salgil.ContractClosures
import Salgil.SyntheticGate
import Salgil.PredictedArea
import Salgil.ApprovalHistory
import Salgil.RoundInterleavings
import Salgil.AuditReplay
import Salgil.DrillSafety
import Salgil.Converse
import Salgil.ShelterUse
import Salgil.SpreadIsolation
import Salgil.SpreadAgreement
import Salgil.PredictionIds
import Salgil.Broker
import Salgil.Cache
import Salgil.SingleFlight
import Salgil.DurationLimit
import Salgil.PlainSearch
import Salgil.ReportedRisk
import Salgil.ShelterOrder
import Salgil.FieldReports
import Salgil.MlEngine
import Salgil.RiskLookups
import Salgil.DeclaredErrors
import Salgil.NearestExact
import Salgil.ContractAnchors
import Salgil.UnreachableTasks
import Salgil.ReplanCause
import Salgil.ContactRollup
import Salgil.IncidentCodes
import Salgil.PredictionFailures
import Salgil.CacheKeys
import Salgil.Security
import Salgil.GbSafe
import Salgil.PublicStatus
import Salgil.Overview
import Salgil.RowMajor
import Salgil.ChannelSlice
import Salgil.Passability
import Salgil.GridLookup
import Salgil.PushAccounting
import Salgil.Weather
import Salgil.WeatherHeadline
import Salgil.ChatProtocol
import Salgil.DrillRetries
import Salgil.GraphCache
import Salgil.FeatureFiles
import Salgil.KeyedList
import Salgil.JsonWriter
import Salgil.EventSource
import Salgil.LiveUpdates
import Salgil.ChatStream
import Salgil.GraphMemory
import Salgil.RoadExport
import Salgil.Base64
import Salgil.Binary32
import Salgil.FrameWire
import Salgil.PushLifecycle
import Salgil.ProductionStart
import Salgil.Ranking
import Salgil.StubMode
import Salgil.PercentEncoding
import Salgil.ActorName
import Salgil.ServedRequests
import Salgil.SignedRecords
import Salgil.FieldKeys
import Salgil.Paging
import Salgil.Listings
import Salgil.DemoSeed
