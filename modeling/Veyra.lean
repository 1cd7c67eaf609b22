import Veyra.Domain.Validation
import Veyra.Singbox.Ownership
import Veyra.Lib.Codec
import Veyra.Lib.Strict
import Veyra.Lib.JsonTree
import Veyra.Storage.Schema
import Veyra.Storage.Migration
import Veyra.Lib.Disk
import Veyra.Storage.Store
import Veyra.Storage.Durability
import Veyra.Storage.Meaning
import Veyra.Lib.Ip
import Veyra.Subscription.Draft
import Veyra.Subscription.Entry
import Veyra.Subscription.Fields
import Veyra.Subscription.Uri
import Veyra.Subscription.Checked
import Veyra.Singbox.NodeCheck
import Veyra.Subscription.Normalize
import Veyra.Application.Content
import Veyra.Singbox.Agreement
import Veyra.Application.Replacement
import Veyra.Application.SubscriptionManagement
import Veyra.Application.CommitEffect
import Veyra.Application.Documents
import Veyra.Application.Projection
import Veyra.Application.ProxyRouting
import Veyra.Application.ActivationRequest
import Veyra.Application.Generation
import Veyra.Singbox.Compiler
import Veyra.Singbox.DocumentWire
import Veyra.Singbox.Closed
import Veyra.Singbox.FinalDocuments
import Veyra.Lib.FirstMatch
import Veyra.Singbox.RoutingMeaning
import Veyra.Application.ProjectionClosure
import Veyra.Application.Observability
import Veyra.Application.Publication
import Veyra.Application.RoutingSnapshot
import Veyra.Application.ManagedRuntime
import Veyra.Application.SelectorIndex
import Veyra.Application.ApplyState
import Veyra.Application.SwitchProgress
import Veyra.Application.ActivationOutcome
import Veyra.Application.RoutingManager
import Veyra.Singbox.Acceptance
import Veyra.Application.RoutingAcceptance
import Veyra.Application.Programs
import Veyra.Application.NoLostUpdate
import Veyra.Lib.Effect
import Veyra.Platform.SystemProxy
import Veyra.Platform.ProxyOutcomes
import Veyra.Platform.ProxyRecovery
import Veyra.Application.RuntimeSupervisor
import Veyra.Lib.FileTree
import Veyra.Platform.PrivateRuntime
import Veyra.Platform.CrashRecovery
import Veyra.Platform.ManagedSidecarPort
import Veyra.Platform.PortOwnership
import Veyra.Platform.PortRuns
import Veyra.Lib.Browser
import Veyra.Application.SubscriptionResponses
import Veyra.Frontend.Subscriptions
import Veyra.Application.SubscriptionOrigins
import Veyra.Frontend.SubscriptionAgreement
import Veyra.Frontend.SubscriptionRuns
import Veyra.Application.RuntimeShown
import Veyra.Application.DocumentOutcome
import Veyra.Lib.PercentEncoding
import Veyra.Subscription.PercentDecoding
import Veyra.Application.RouteOrder
import Veyra.Application.UnchangedSave
import Veyra.Subscription.ValidDrafts
import Veyra.Lib.Base64
import Veyra.Subscription.Base64Wrapping
import Veyra.Platform.ProxyRetry
import Veyra.Subscription.Aliases
import Veyra.Frontend.RoutingOrder
import Veyra.Application.ObservationRecords
import Veyra.Application.ObservationResponses
import Veyra.Frontend.Observability
import Veyra.Application.Controller
import Veyra.Application.ControllerThreads
import Veyra.Application.NodeIdentity
import Veyra.Application.ProgramRuns
import Veyra.Singbox.StorageOrder
import Veyra.Application.Deletion
import Veyra.Subscription.Headers
import Veyra.Subscription.Redirects
import Veyra.Application.HttpMetadata
import Veyra.Application.ReplacementFrame
import Veyra.Subscription.LegacyVmess
import Veyra.Application.ConditionalRequests
import Veyra.Application.DueTimes
import Veyra.Application.SubscriptionScheduler
import Veyra.Application.TrafficHistory
import Veyra.Lib.Utf16
import Veyra.Frontend.PoolPreview
import Veyra.Lib.Url
import Veyra.Frontend.ProbeUrls
import Veyra.Platform.SubscriptionProxy
import Veyra.Application.RoutingWire
import Veyra.Frontend.RoutingRequests
import Veyra.Application.RoutingAnswers
import Veyra.Application.RuntimeAnswers
import Veyra.Frontend.RoutingResponses
import Veyra.Application.Presentable
import Veyra.Frontend.RoutingAgreement
import Veyra.Frontend.RoutingShown
import Veyra.Application.DocumentWork
import Veyra.Application.WindowFeed
import Veyra.Frontend.HomePage
import Veyra.Application.StoredSelection
import Veyra.Application.ControllerRules
import Veyra.Application.ManagerRules
import Veyra.Application.LoopRules
import Veyra.Application.Shutdown
import Veyra.Application.RunningSelection
