import JobControl.Proofs.Codecs
import JobControl.Proofs.Recovery
import JobControl.Proofs.Representation

/-!
# Nothing is lost in a snapshot

A snapshot is the store as a text in a file, from which the scheduler starts
anew. Three things have to fit together: the file system gives back what was
written, the text is read back to the document that it was written from, and
the document is read back to the store. The first two say nothing about
stores, and the last one nothing about texts, so that each can change without
the others.

A path is followed once to write and once to read. In between a file has
taken its place at the end of the path; but whatever was passed on the way is
a directory, and a file never takes the place of one.
-/

namespace JobControl

/-! ## Files -/

namespace Files

variable {files files' : Files} {place here there : Place} {name path content : String}
  {names : List String}

theorem lookup_insert (h : files.entry? place ≠ some .directory) {entry : Entry} :
    entry? (files.insert place entry) here
      = if place = here then some entry else files.entry? here := by
  have hgiven : isGiven place = false := Bool.eq_false_iff.mpr fun hgiven => h (if_pos hgiven)
  unfold entry?
  rw [Std.ExtTreeMap.getElem?_insert]
  simp only [Std.compare_eq_iff_eq]
  by_cases hplace : place = here
  · subst hplace
    simp [hgiven]
  · simp [hplace]

theorem enter_eq_ok : files.enter here name = .ok there ↔
    files.entry? here = some .directory ∧ name.utf8ByteSize ≤ maxName
      ∧ there = next here name := by
  rw [enter]
  split
  · simp [*]
  · simp [*]
  · split <;> simp [*, eq_comm]

/-- What is passed on the way is a directory and stays one. -/
theorem enter_insert (hplace : files.entry? place ≠ some .directory)
    (h : files.enter here name = .ok there) :
    enter (files.insert place (.file content)) here name = .ok there := by
  obtain ⟨hdirectory, hname⟩ := enter_eq_ok.mp h
  have hne : place ≠ here := by
    rintro rfl
    exact hplace hdirectory
  refine enter_eq_ok.mpr ⟨?_, hname⟩
  rw [lookup_insert hplace, if_neg hne, hdirectory]

theorem foldlM_enter_insert (hplace : files.entry? place ≠ some .directory)
    (h : names.foldlM files.enter here = .ok there) :
    names.foldlM (enter (files.insert place (.file content))) here = .ok there := by
  induction names generalizing here with
  | nil => exact h
  | cons name names ih =>
      obtain ⟨next, hnext, hrest⟩ := bind_eq_ok.mp h
      rw [List.foldlM_cons, enter_insert hplace hnext]
      exact ih hrest

/-- Whether a path is refused as such does not depend on the files. -/
theorem follow_of_ok (h : files.follow path names = .ok place) :
    names.foldlM files.enter (origin path) = .ok place ∧
      ∀ (files' : Files) (names' : List String),
        files'.follow path names' = names'.foldlM files'.enter (origin path) := by
  rw [follow] at h
  split at h
  · cases h
  · rename_i hnul
    split at h
    · cases h
    · rename_i hempty
      split at h
      · cases h
      · rename_i hlong
        refine ⟨h, fun files' names' => ?_⟩
        rw [follow, if_neg hnul, if_neg hempty, if_neg hlong]

/-- A file is written at the end of its path, in place of anything but a directory. -/
theorem insert_of_write (h : files.write path content = .ok files') : ∃ place,
    files.follow path (Files.names path) = .ok place ∧ files.entry? place ≠ some .directory
      ∧ files' = files.insert place (.file content) := by
  cases hlast : (lastName? path).getD ([], "") with
  | mk before last =>
      simp only [write, hlast, bind_eq_ok] at h
      obtain ⟨directory, hdirectory, h⟩ := h
      split at h
      · cases h
      · rename_i hname
        obtain ⟨place, hplace, h⟩ := bind_eq_ok.mp h
        have hnames : before ++ [last] = Files.names path := by
          simp only [Bool.or_eq_true, not_or] at hname
          simpa using hname.2
        obtain ⟨hfollowed, hfollow⟩ := follow_of_ok hdirectory
        refine ⟨place, ?_, ?_⟩
        · obtain ⟨here, hhere, hstay⟩ : ∃ here,
              before.foldlM files.enter (origin path) = .ok here
                ∧ files.enter here "" = .ok directory := by
            rw [List.foldlM_append] at hfollowed
            obtain ⟨here, hhere, hstay⟩ := bind_eq_ok.mp hfollowed
            exact ⟨here, hhere, by simpa using hstay⟩
          have hsame : directory = here := (enter_eq_ok.mp hstay).2.2
          subst hsame
          rw [hfollow, ← hnames, List.foldlM_append, hhere]
          simpa using hplace
        · split at h
          · cases h
          · rename_i hentry
            cases h
            exact ⟨hentry, rfl⟩

/-- **What was written is found**, under the path that it was written to. -/
theorem find_of_write (h : files.write path content = .ok files') :
    files'.find path = .ok (.file content) := by
  obtain ⟨place, hfollow, hplace, rfl⟩ := insert_of_write h
  obtain ⟨hfollowed, hsame⟩ := follow_of_ok hfollow
  rw [find, hsame, foldlM_enter_insert hplace hfollowed]
  simp only [bind, Except.bind]
  rw [lookup_insert hplace, if_pos rfl]

end Files

/-! ## Stores -/

namespace Store

open Json (object? required ReadsBack Readable)

variable {s : Store}

/-- The numbers of processors in a store: those of tasks, of templates and of allotments. -/
def cpus (s : Store) : List Float :=
  s.tasks.values.map (·.spec.numCpus)
    ++ s.jobs.values.flatMap (fun jobs => jobs.values.map (·.task.numCpus))
    ++ s.quotas.values.map (·.numCpus)

theorem forall_mem_cpus {p : Float → Prop} : (∀ x ∈ s.cpus, p x) ↔
    (∀ t ∈ s.tasks.values, p t.spec.numCpus)
      ∧ (∀ jobs ∈ s.jobs.values, ∀ j ∈ jobs.values, p j.task.numCpus)
      ∧ ∀ r ∈ s.quotas.values, p r.numCpus := by
  simp only [cpus, List.forall_mem_append, List.forall_mem_map, List.forall_mem_flatMap, and_assoc]

theorem faithful (h : ∀ x ∈ s.cpus, x.isFinite = true) : Faithful s := by
  obtain ⟨htasks, hjobs, hquotas⟩ := forall_mem_cpus.mp h
  have htasks : Faithful s.tasks := faithful_table fun t ht => faithful_task (htasks t ht)
  have hjobs : Faithful s.jobs := faithful_table fun jobs hmem =>
    faithful_table fun j hj => faithful_job (hjobs jobs hmem j hj)
  have hlocks : Faithful s.locks := faithful_table fun l _ => faithful_lock l
  have hquotas : Faithful s.quotas := faithful_table fun r hr => faithful_resources (hquotas r hr)
  intro spelling
  delta instCodecStore
  dsimp only [object?, required, Option.bind_eq_bind, Option.bind_some]
  refine read_field htasks rfl ?_
  refine read_field hjobs rfl ?_
  refine read_field hlocks rfl ?_
  exact read_field hquotas rfl rfl

theorem readable (h : ∀ x ∈ s.cpus, ReadsBack x) : Readable Json.maxDepth (encode s) := by
  obtain ⟨htasks, hjobs, hquotas⟩ := forall_mem_cpus.mp h
  have htasks : Readable 126 (encode s.tasks) :=
    readable_table fun t ht => readable_task (htasks t ht)
  have hjobs : Readable 126 (encode s.jobs) := readable_table fun jobs hmem =>
    readable_table fun j hj => readable_job (hjobs jobs hmem j hj)
  have hlocks : Readable 126 (encode s.locks) := readable_table fun l _ => readable_lock l
  have hquotas : Readable 126 (encode s.quotas) :=
    readable_table fun r hr => readable_resources (hquotas r hr)
  refine readable_obj.mpr ?_
  simp [htasks, hjobs, hlocks, hquotas]

theorem ofSnapshot?_snapshot (h : ∀ x ∈ s.cpus, ReadsBack x) :
    ofSnapshot? s.snapshot = some s := by
  rw [ofSnapshot?, snapshot, Json.ofText?_indented (readable h)]
  exact faithful (fun x hx => (h x hx).isFinite) .narrow

end Store

/-! ## Starting anew -/

namespace World

variable {env : Environment} {w w' : World} {p : Principal} {roles : Names}
  {path : String} {r : Response}

/-- A scheduler that started with some store comes to this world. -/
def Running (env : Environment) (w : World) : Prop :=
  ∃ nowMs issued files s inputs, w = (start nowMs issued files s).run env inputs

theorem Running.committed_eq_live (h : w.Running env) : w.committed = w.live := by
  obtain ⟨nowMs, issued, files, s, inputs, rfl⟩ := h
  exact committed_eq_live_of_run rfl

theorem perform_snapshot_eq_ok : w.perform env p roles .snapshot = .ok (w', r) ↔
    w.writeSnapshot env = .ok w' ∧ r = .done "Compaction successful." [] := by
  simp only [perform, bind_eq_ok, checked_eq_ok, pure_eq_ok, Prod.mk.injEq]
  constructor
  · rintro ⟨_, hwritten, rfl, rfl⟩
    exact ⟨hwritten, rfl⟩
  · rintro ⟨hwritten, rfl⟩
    exact ⟨w', hwritten, rfl, rfl⟩

theorem load_of_writeSnapshot (hpath : env.snapshotPath = some path)
    (h : w.writeSnapshot env = .ok w') (hcpus : ∀ x ∈ w.committed.cpus, Json.ReadsBack x) :
    load env.snapshotPath w'.files = .ok w.committed := by
  simp only [writeSnapshot, hpath] at h
  split at h
  · rename_i files hwrite
    cases h
    simp only [load, hpath, Files.find_of_write hwrite, Store.ofSnapshot?_snapshot hcpus]
  · cases h

/-- **Nothing is lost in a snapshot.** The document of a store whose
doubles are finite is read back to that store, and so is its text if the
doubles in it are read back from theirs. A scheduler that starts anew with
the file that a snapshot has written therefore starts with the store that
was live when the snapshot was taken. -/
theorem snapshot_restores (s : Store) (hfinite : ∀ x ∈ s.cpus, x.isFinite = true) :
    decode (encode s) = some s ∧
      ((∀ x ∈ s.cpus, Json.ReadsBack x) →
        Store.ofSnapshot? s.snapshot = some s ∧
        ∀ (env : Environment) (w : World) (path : String) (credential : Option Credential),
          w.Running env → w.live = s → env.snapshotPath = some path →
          (w.dispatch env (.command .snapshot credential)).2.code = .ok →
            load env.snapshotPath (w.dispatch env (.command .snapshot credential)).1.files
              = .ok s) := by
  refine ⟨Store.faithful hfinite .narrow, fun hreads => ⟨Store.ofSnapshot?_snapshot hreads, ?_⟩⟩
  rintro env w path credential hw rfl hpath hok
  obtain ⟨w', r, hanswer⟩ : ∃ w' r, w.dispatch env (.command .snapshot credential) = (w', r) :=
    ⟨_, _, rfl⟩
  rw [hanswer] at hok ⊢
  obtain ⟨p, w₁, log, hdone, rfl⟩ := perform_of_dispatch hanswer hok
  obtain ⟨hwritten, -⟩ := perform_snapshot_eq_ok.mp hdone
  rw [← hw.committed_eq_live] at hreads ⊢
  have hload := load_of_writeSnapshot hpath hwritten hreads
  exact hload

/-! ## A scheduler with a snapshot file -/

def saving : Environment := { rootOnly with snapshotPath := some "store.json" }

/-- Started with tasks, a template, a lock and an allotment. -/
def stocked : World := start 0 0 ∅ furnished.live

theorem snapshot_restores_stocked :
    stocked.live.tasks.size = 2 ∧ stocked.live.cpus = [1, 1, 1, 8]
      ∧ decode (encode stocked.live) = some stocked.live
      ∧ Store.ofSnapshot? stocked.live.snapshot = some stocked.live
      ∧ load (some "store.json") (stocked.dispatch saving (byRoot .snapshot)).1.files
        = .ok stocked.live := by
  have hcpus : stocked.live.cpus = [1, 1, 1, 8] := by decide +kernel
  have hfinite : ∀ x ∈ stocked.live.cpus, x.isFinite = true := by
    rw [hcpus]
    decide +kernel
  have hreads : ∀ x ∈ stocked.live.cpus, Json.ReadsBack x := by
    rw [hcpus]
    decide +kernel
  have hok : (stocked.dispatch saving (byRoot .snapshot)).2.code = .ok := by decide +kernel
  obtain ⟨hdocument, hrest⟩ := snapshot_restores stocked.live hfinite
  obtain ⟨htext, hload⟩ := hrest hreads
  exact ⟨by decide +kernel, hcpus, hdocument, htext,
    hload saving stocked "store.json" (some (.apiKey "root")) ⟨0, 0, ∅, _, [], rfl⟩ rfl rfl hok⟩

end World

end JobControl
