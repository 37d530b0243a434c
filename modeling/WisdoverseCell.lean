import WisdoverseCell.Bitable.Denials
import WisdoverseCell.Bitable.SingleUse
import WisdoverseCell.ControlPlane.ActiveBudgets
import WisdoverseCell.ControlPlane.AuditRedaction
import WisdoverseCell.ControlPlane.Charging
import WisdoverseCell.ControlPlane.CompanyIsolation
import WisdoverseCell.ControlPlane.Completion
import WisdoverseCell.ControlPlane.DeniedClaims
import WisdoverseCell.ControlPlane.RepeatedRequest
import WisdoverseCell.ControlPlane.RowLocks
import WisdoverseCell.Coordinator.Handling
import WisdoverseCell.DevAgent.Capacity
import WisdoverseCell.DevAgent.QaDecisions
import WisdoverseCell.DevAgent.ReconcileLock
import WisdoverseCell.DevAgent.Replanning
import WisdoverseCell.DevAgent.RunOnce
import WisdoverseCell.DevAgent.StatusLifecycle
import WisdoverseCell.EventBus.NoSilentLoss
import WisdoverseCell.Evolution.EvaluationBatch
import WisdoverseCell.Evolution.GuardRollback
import WisdoverseCell.Evolution.RolloutStates
import WisdoverseCell.Gateway.RateLimit
import WisdoverseCell.Gateway.SessionHistory
import WisdoverseCell.Infra.AgentMemory
import WisdoverseCell.Infra.ConversationEngine
import WisdoverseCell.Infra.InputValidator
import WisdoverseCell.Infra.LoopBreaker
import WisdoverseCell.LlmGateway.MessageConversion
import WisdoverseCell.LlmGateway.RecoveryBounds
import WisdoverseCell.LlmGateway.Spend
import WisdoverseCell.NativeExecutor.ExactReplay
import WisdoverseCell.QaAgent.Replay
import WisdoverseCell.RequirementManager.HandoffOnce
import WisdoverseCell.RequirementManager.MeetingIngest
import WisdoverseCell.Retention.AuditOnce
import WisdoverseCell.Retention.KnowledgeLifecycle
import WisdoverseCell.Sync.Locking
import WisdoverseCell.Sync.OneRecord
import WisdoverseCell.Sync.Subtasks
import WisdoverseCell.Templates.References
import WisdoverseCell.WeCom.Callbacks
import WisdoverseCell.WeCom.Messages
