import JobControl.Proofs.Descriptions
import JobControl.Proofs.Runs

/-!
# A sanitized job is settled

To sanitize a job is to check it, to put the name and the owner of the job
in place of those of its task, and to fill what was left open. The checks
of the task come last: they see the job's own name and owner, and what the
author wrote there instead is never looked at, whether the job is accepted
or refused. What is filled in passes the checks that come before it. So a
job that has been accepted is accepted again as it is, with the same
warnings, and whoever sanitizes a stored job once more, as a run of a
template does, launches what was stored.
-/

namespace JobControl

/-- The job with another name and owner written in its task. -/
def Job.renamed (j : Job) (owner : Identity) (environment jobName : String) : Job :=
  { j with
    task := { j.task with owner := owner, environment := environment, jobName := jobName } }

/-- What a task has of its own, apart from the name and the owner, and from
what may be left open. -/
def TaskSpec.rest (t : TaskSpec) :
    Float × Int64 × Int64 × Option String × Names × Option Executor :=
  (t.numCpus, t.ramMb, t.diskMb, t.contactEmail, t.requestedPorts, t.executor)

namespace Sanitized

variable {j : Job} {s : Sanitized}

/-- How a sanitized job comes from what its author wrote: it is the same job,
its task has the job's name and owner, and what was left open is filled. -/
structure Settles (s : Sanitized) (j : Job) : Prop where
  job : s.job = { j with task := s.job.task }
  owner : s.job.task.owner = s.job.owner
  environment : s.job.task.environment = s.job.key.environment
  jobName : s.job.task.jobName = s.job.key.name
  jobKey : s.job.task.jobKey = s.job.key
  priority : s.job.task.priority = some (j.task.priority.getD 0)
  maxTaskFailures : s.job.task.maxTaskFailures = some (j.task.maxTaskFailures.getD 1)
  isService : s.job.task.isService = some (j.task.isService.getD false)
  production : s.job.task.production = some (j.task.production.getD false)
  rest : s.job.task.rest = j.task.rest

theorem settles_of_ofJob (hs : ofJob j = .ok s) : s.Settles j := by
  have hsanitize := sanitize_of_ofJob hs
  have hkey := Job.taskKey_of_sanitize hsanitize
  obtain ⟨-, task, htask, hjob⟩ := Job.sanitize_eq_ok.mp hsanitize
  obtain ⟨-, rfl⟩ := TaskSpec.sanitize_eq_ok.mp htask
  obtain ⟨job, start, warnings⟩ := s
  cases hjob
  constructor
  case jobKey => exact hkey
  all_goals rfl

theorem ofJob_of_ofJob (hs : ofJob j = .ok s) : ofJob s.job = .ok s := by
  obtain ⟨hsanitize, hstart⟩ := ofJob_eq_ok.mp hs
  exact ofJob_eq_ok.mpr ⟨Job.sanitize_of_sanitize hsanitize, hstart⟩

/-- The instances are numbered from zero on, in order. -/
theorem map_toInt_tasks : s.tasks.map (·.1.toInt)
    = (List.range s.job.instanceCount.toInt.toNat).map Int.ofNat := by
  rw [tasks, instanceIds, List.map_map, List.map_map]
  refine List.map_congr_left fun n hn => ?_
  have hlt := s.job.instanceCount.toInt_lt
  rw [List.mem_range] at hn
  exact Int32.toInt_ofNat_of_lt (by omega)

theorem ofJob_renamed {owner : Identity} {environment jobName : String} :
    ofJob (j.renamed owner environment jobName) = ofJob j := by
  have hdefect : (j.renamed owner environment jobName).defect? = j.defect? := rfl
  have htask : (j.renamed owner environment jobName).ownTask = j.ownTask := rfl
  have hsanitize : (j.renamed owner environment jobName).sanitize = j.sanitize := by
    rw [Job.sanitize, Job.sanitize, hdefect, htask]
    rfl
  rw [ofJob, ofJob, hsanitize]

/-- **Sanitizing settles a job.** A job that is accepted is accepted again
with the same result. Its instances are numbered from zero on and run its
task, which has the job's name and owner and lacks nothing; what the author
filled in is kept. The name and the owner that the author wrote in the task
make no difference, not even to what is refused and why. -/
theorem ofJob_settles (j : Job) :
    (∀ s, ofJob j = .ok s → ofJob s.job = .ok s ∧ s.Settles j
        ∧ (∃ n : Nat, j.instanceCount.toInt = n
          ∧ s.tasks.map (·.1.toInt) = (List.range n).map Int.ofNat)
        ∧ ∀ x ∈ s.tasks, x.2 = s.job.task)
      ∧ ∀ owner environment jobName, ofJob (j.renamed owner environment jobName) = ofJob j := by
  refine ⟨fun s hs => ⟨ofJob_of_ofJob hs, settles_of_ofJob hs, ?_, fun x hx => ?_⟩,
    fun _ _ _ => ofJob_renamed⟩
  · have hsanitize := sanitize_of_ofJob hs
    have hpos := Job.instanceCount_pos_of_sanitize hsanitize
    refine ⟨s.job.instanceCount.toInt.toNat, ?_, map_toInt_tasks⟩
    rw [← Job.instanceCount_of_sanitize hsanitize]
    omega
  · obtain ⟨id, -, rfl⟩ := List.mem_map.mp hx
    rfl

/-- Two reports, with a schedule that is empty and a priority, in a task that
is said to be another role's. -/
def strayReport : Job :=
  let report : Job := .plain ⟨"www-data", "prod", "report"⟩ "alice" 2
  let stray := report.renamed ⟨"mesos", "mallory"⟩ "no such" ""
  { stray with cronSchedule := some "", task := { stray.task with priority := some 7 } }

/-- The reports are settled as those of their role, with one warning, which
is given again. In a task without any names they are the same. -/
theorem ofJob_settles_strayReport : ∃ s, ofJob strayReport = .ok s ∧ ofJob s.job = .ok s
    ∧ s.warnings.length = 1 ∧ s.job.task.owner = ⟨"www-data", "alice"⟩
    ∧ s.job.task.priority = some 7 ∧ s.job.task.maxTaskFailures = some 1
    ∧ s.tasks.map (·.1.toInt) = [0, 1] ∧ ofJob (strayReport.renamed ⟨"", ""⟩ "" "") = .ok s := by
  obtain ⟨hsettled, hnames⟩ := ofJob_settles strayReport
  have haccepted : ((ofJob strayReport).toOption.any fun s => s.warnings.length == 1) = true := by
    decide +kernel
  cases hs : ofJob strayReport with
  | error defect =>
      rw [hs] at haccepted
      cases haccepted
  | ok s =>
      obtain ⟨hagain, hsettles, ⟨n, hn, hids⟩, -⟩ := hsettled s hs
      rw [hs] at haccepted
      obtain rfl : n = 2 := Int.ofNat_inj.mp hn.symm
      refine ⟨s, rfl, hagain, beq_iff_eq.mp haccepted, ?_, hsettles.priority,
        hsettles.maxTaskFailures, hids, (hnames _ _ _).trans hs⟩
      rw [hsettles.owner, hsettles.job]
      rfl

end Sanitized

end JobControl
