import EdfKernel.Proofs.Moves
import EdfKernel.Proofs.TableChange
import EdfKernel.Proofs.SectionWork
import EdfKernel.Proofs.TableInvariant
import EdfKernel.Proofs.PassExclusion
import EdfKernel.Proofs.WorkOwnership
import EdfKernel.Proofs.Withdrawal
import EdfKernel.Proofs.GentleRuns
import EdfKernel.Proofs.TimelyTasks
import EdfKernel.Proofs.Wakeups
import EdfKernel.Proofs.Lapses
import EdfKernel.Proofs.Candidates
import EdfKernel.Proofs.LostWakeups
import EdfKernel.Proofs.LineChanges
import EdfKernel.Proofs.PassRequests
import EdfKernel.Proofs.ExclusiveExecution
import EdfKernel.Proofs.Timeliness
import EdfKernel.Proofs.Stack
import EdfKernel.Proofs.CopyHomes
import EdfKernel.Proofs.PipelineStops
import EdfKernel.Proofs.Scenes
import EdfKernel.Proofs.Deeds
import EdfKernel.Proofs.Deliveries
import EdfKernel.Proofs.LonePasses
import EdfKernel.Proofs.PeriodicCopies
import EdfKernel.Proofs.PeriodKeeping
import EdfKernel.Proofs.OpenWindows
import EdfKernel.Proofs.LockedSections
import EdfKernel.Proofs.Refusals
import EdfKernel.Proofs.IdlePasses
import EdfKernel.Proofs.Handles
import EdfKernel.Proofs.PassSections
import EdfKernel.Proofs.Choices
import EdfKernel.Proofs.Performances
import EdfKernel.Proofs.DueQueues
import EdfKernel.Proofs.Draining
import EdfKernel.Proofs.SectionTables
import EdfKernel.Proofs.AdmissionOrder
import EdfKernel.Proofs.LateTasks
import EdfKernel.Proofs.Selections
import EdfKernel.Proofs.Trails
import EdfKernel.Proofs.SectionCounts
import EdfKernel.Proofs.PassCalls
import EdfKernel.Proofs.Counters
import EdfKernel.Proofs.MissedDeadlines
import EdfKernel.Proofs.EventAccounts
import EdfKernel.Proofs.CallControl
import EdfKernel.Proofs.Masking
import EdfKernel.Proofs.TaskStates
import EdfKernel.Proofs.TaskEvents
import EdfKernel.Proofs.MissReports
import EdfKernel.Proofs.PipelineChanges
import EdfKernel.Proofs.PipelineTasks
import EdfKernel.Proofs.PipelineRequests
import EdfKernel.Proofs.PipelinePersistence
import EdfKernel.Proofs.OverrunReports
import EdfKernel.Proofs.Labels
import EdfKernel.Proofs.LabelledTables
import EdfKernel.Proofs.LabelledSections
import EdfKernel.Proofs.LabelledDeliveries
import EdfKernel.Proofs.LabelledSteps
import EdfKernel.Proofs.LabelIndependence
import EdfKernel.Proofs.Realignments
import EdfKernel.Proofs.SectionEffects
import EdfKernel.Proofs.Revisions
import EdfKernel.Proofs.Admissions
import EdfKernel.Proofs.SettledScans
import EdfKernel.Proofs.LentTasks
import EdfKernel.Proofs.WholePasses
import EdfKernel.Proofs.StepOutcomes
import EdfKernel.Proofs.CallerSections
import EdfKernel.Proofs.OverrunsOnce
import EdfKernel.Proofs.FailedCommands
import EdfKernel.Proofs.DispatchSteps
import EdfKernel.Proofs.HandlerStarts
import EdfKernel.Proofs.RaisedLines
import EdfKernel.Proofs.QuietSteps
import EdfKernel.Proofs.TimerUses
import EdfKernel.Proofs.TimerFaces
import EdfKernel.Proofs.Armings
import EdfKernel.Proofs.LogLines
