import CloudOpsAgent.Recovery.Approvals
import CloudOpsAgent.Recovery.Unknown
import CloudOpsAgent.Safety.Duplicates
import CloudOpsAgent.Recovery.LocalProgress
import CloudOpsAgent.Safety.Outcome
import CloudOpsAgent.Flow.Requests
import CloudOpsAgent.Lib.Prog
import CloudOpsAgent.Recovery.Coordinator
import CloudOpsAgent.Agent.LocalHitl
import CloudOpsAgent.Nz.Sha256
import CloudOpsAgent.Recovery.Challenges
import CloudOpsAgent.Recovery.ApprovalRequests
import CloudOpsAgent.Recovery.LocalApprovals
import CloudOpsAgent.Safety.ModelCircuit
import CloudOpsAgent.Deployment.Quota
import CloudOpsAgent.Remediation.Executor
import CloudOpsAgent.Cloudops.LocalStore
import CloudOpsAgent.Cloudops.Planning
import CloudOpsAgent.Safety.Denial
import CloudOpsAgent.Safety.Preservation
import CloudOpsAgent.Safety.Binding
import CloudOpsAgent.Deployment.Auth
import CloudOpsAgent.Persistence.Integrity
import CloudOpsAgent.Persistence.Records
import CloudOpsAgent.Release.Cleanup
import CloudOpsAgent.Release.ChangeSetReview
import CloudOpsAgent.Release.Iac
import CloudOpsAgent.Cloudops.Utilization
import CloudOpsAgent.Agent.Hitl
import CloudOpsAgent.Agent.InvestigationBudget
import CloudOpsAgent.Recovery.Terminal
import CloudOpsAgent.LocalApi.Gate
import CloudOpsAgent.Safety.Freshness
import CloudOpsAgent.Persistence.LocalFile
import CloudOpsAgent.Persistence.DynamoRecords
import CloudOpsAgent.Safety.DynamoRuns
