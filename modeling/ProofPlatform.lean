import ProofPlatform.Executor.ReplayRefinement
import ProofPlatform.Operator.Conservation
import ProofPlatform.Operator.Fencing
import ProofPlatform.Operator.StrictUtc
import ProofPlatform.Operator.Permanence
import ProofPlatform.AgentStore.LiveHistories
import ProofPlatform.Auth.Honoured
import ProofPlatform.Storage.Retention
import ProofPlatform.AgentStore.Handover
import ProofPlatform.Domain.TamperEvidence
import ProofPlatform.Domain.WorkflowProgress
import ProofPlatform.Cli.Rotation
import ProofPlatform.Kernel.Lifecycle
import ProofPlatform.Kernel.CanonicalNumbers
import ProofPlatform.Operator.Answers
import ProofPlatform.Control.RateLimits
import ProofPlatform.Executor.Evidenced
import ProofPlatform.Trace.Presentation
import ProofPlatform.Runtime.DurationBudget
