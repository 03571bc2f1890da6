import JobControl.Control.Dispatch
import JobControl.Control.Setup
import JobControl.Main
import JobControl.Proofs.Allotments
import JobControl.Proofs.Atomicity
import JobControl.Proofs.BackupWindow
import JobControl.Proofs.Codecs
import JobControl.Proofs.CompareAndSwap
import JobControl.Proofs.CronManagement
import JobControl.Proofs.CronStarts
import JobControl.Proofs.EarliestRuns
import JobControl.Proofs.EventWindow
import JobControl.Proofs.Histories
import JobControl.Proofs.HostMaintenance
import JobControl.Proofs.JobListing
import JobControl.Proofs.LateWrites
import JobControl.Proofs.LoadedSettings
import JobControl.Proofs.LockProtection
import JobControl.Proofs.LockSecrecy
import JobControl.Proofs.LockSeparation
import JobControl.Proofs.Messages
import JobControl.Proofs.NewTasks
import JobControl.Proofs.QuotedTexts
import JobControl.Proofs.Records
import JobControl.Proofs.Recovery
import JobControl.Proofs.Repetition
import JobControl.Proofs.Representation
import JobControl.Proofs.RewriteBatches
import JobControl.Proofs.RewrittenTasks
import JobControl.Proofs.RoleIsolation
import JobControl.Proofs.Schedules
import JobControl.Proofs.Selections
import JobControl.Proofs.SettingsFiles
import JobControl.Proofs.SignedTokens
import JobControl.Proofs.SingleActive
import JobControl.Proofs.Snapshots
import JobControl.Proofs.Stability
import JobControl.Proofs.Summaries
import JobControl.Proofs.TemplateRuns
import JobControl.Proofs.TextBytes
import JobControl.Proofs.TokenIssue
import JobControl.Settings.Loading
import JobControl.Wire.Event
import JobControl.Wire.Request
import JobControl.Wire.Response
import JobControl.Wire.Settings
