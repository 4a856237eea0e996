import MultiAgents.Properties.ActiveSpecialists
import MultiAgents.Properties.ActivityLogs
import MultiAgents.Properties.AnalysisVerdict
import MultiAgents.Properties.AnswerParts
import MultiAgents.Properties.ApprovalLogs
import MultiAgents.Properties.BufferedRecords
import MultiAgents.Properties.Bypass
import MultiAgents.Properties.CallOrders
import MultiAgents.Properties.ClearedQueues
import MultiAgents.Properties.ConnectionRetries
import MultiAgents.Properties.ContextCaches
import MultiAgents.Properties.EarlyIdle
import MultiAgents.Properties.EnqueuedJob
import MultiAgents.Properties.EnvFile
import MultiAgents.Properties.ExfiltrationSignals
import MultiAgents.Properties.ExportedWorkspaces
import MultiAgents.Properties.FinalStatus
import MultiAgents.Properties.FinishedExecutions
import MultiAgents.Properties.FixOutcomes
import MultiAgents.Properties.GlobalScans
import MultiAgents.Properties.HumanGate
import MultiAgents.Properties.IssueNumbers
import MultiAgents.Properties.JobArguments
import MultiAgents.Properties.JudgeVerdict
import MultiAgents.Properties.LoggedOnce
import MultiAgents.Properties.MergeErrors
import MultiAgents.Properties.ModifiedFiles
import MultiAgents.Properties.NormalizedEvents
import MultiAgents.Properties.PlanningVerdict
import MultiAgents.Properties.PushedRecords
import MultiAgents.Properties.QueuedStatus
import MultiAgents.Properties.QuotedWords
import MultiAgents.Properties.ReadWrites
import MultiAgents.Properties.RejectedChanges
import MultiAgents.Properties.Restart
import MultiAgents.Properties.ReviewedCommits
import MultiAgents.Properties.SessionCounts
import MultiAgents.Properties.SessionRequests
import MultiAgents.Properties.SessionWaits
import MultiAgents.Properties.SettingsUpdates
import MultiAgents.Properties.SpyExports
import MultiAgents.Properties.SpyIds
import MultiAgents.Properties.StatusListing
import MultiAgents.Properties.StoredCosts
import MultiAgents.Properties.StoryIds
import MultiAgents.Properties.StoryResults
import MultiAgents.Properties.TaskBranch
import MultiAgents.Properties.TrainingTurns
import MultiAgents.Properties.WorkingDirectory
import MultiAgents.Properties.WorkspaceContainment
