import VeritasOs.ApprovalQuorum
import VeritasOs.ArtifactLinkage
import VeritasOs.AuthReplay
import VeritasOs.BackwardLines
import VeritasOs.BindAdjudication
import VeritasOs.BindLineage
import VeritasOs.BindRegulated
import VeritasOs.CandidatePromotion
import VeritasOs.CanonicalPolicy
import VeritasOs.CompiledPolicy
import VeritasOs.ContinuationBurden
import VeritasOs.CosineIndex
import VeritasOs.DecisionArtifact
import VeritasOs.Encryption
import VeritasOs.EvaluationErrors
import VeritasOs.EvidenceBundle
import VeritasOs.FailedAppends
import VeritasOs.FujiReload
import VeritasOs.FujiUnread
import VeritasOs.GateOrder
import VeritasOs.GovernanceMerge
import VeritasOs.GovernanceStores
import VeritasOs.HumanReview
import VeritasOs.KeyOrder
import VeritasOs.LogBackends
import VeritasOs.LogCrash
import VeritasOs.LogVerify
import VeritasOs.MemoryFiles
import VeritasOs.MemoryParity
import VeritasOs.MemoryRoute
import VeritasOs.MemoryRuns
import VeritasOs.Migration
import VeritasOs.PersistedDecisions
import VeritasOs.PipelineBridge
import VeritasOs.PipelineResponse
import VeritasOs.PolicyAuthoring
import VeritasOs.PolicyCompiler
import VeritasOs.PolicyEvaluator
import VeritasOs.PolicyOrder
import VeritasOs.PolicyReadings
import VeritasOs.PostgresChain
import VeritasOs.ReplayedIntent
import VeritasOs.RwLock
import VeritasOs.SelfHealing
import VeritasOs.SignedLog
import VeritasOs.SignedRuns
import VeritasOs.UrlParse
import VeritasOs.WatAnswers
import VeritasOs.WatEvents
import VeritasOs.WatReplay
import VeritasOs.WatRetention
import VeritasOs.WebhookAdapter
import VeritasOs.WebhookUrl
import VeritasOs.WormMirror
import VeritasOs.ApiKeys
import VeritasOs.Throttle
import VeritasOs.PiiMask
import VeritasOs.BundleTimeRange
import VeritasOs.CanaryGate
import VeritasOs.MemoryKeys
import VeritasOs.SecretRedaction
import VeritasOs.BindReadmission
import VeritasOs.Authority
import VeritasOs.AuthorityProof
import VeritasOs.HumanApproval
import VeritasOs.ReplaySemantics
