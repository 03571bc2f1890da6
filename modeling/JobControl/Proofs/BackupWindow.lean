import JobControl.Proofs.EventWindow
import JobControl.Proofs.Recovery
import Mathlib.Data.List.Nodup

/-!
# The backups that can be staged

Of the backups that a scheduler has made it keeps the newest, as many as
its settings say but at least one. `backups` lists all that were made in a
run, as those who asked for them saw it: the identifiers are read off the
answers, and with each stands the store of that moment. What is kept is
the end of this list, whatever else happened in between and however the
clock went.

That an identifier finds the backup that it was given for, though a search
takes the first that fits, is due to the numbers at the ends of the
identifiers: the n-th backup has the number n. The time in front of it may
repeat or go back.
-/

namespace JobControl

/-- The identifier that an answer to a backup tells. -/
def Response.toldId (r : Response) : String :=
  String.ofList (((r.message.getD "").toList.drop "Backup ".length).rdrop " created.".length)

theorem Response.toldId_done {id : String} :
    (Response.done ("Backup " ++ id ++ " created.") []).toldId = id := by
  have htext : ("Backup " ++ id ++ " created.").toList
      = "Backup ".toList ++ (id.toList ++ " created.".toList) := by simp
  rw [toldId, done, Option.getD_some, htext, ← String.length_toList, ← String.length_toList,
    List.drop_left, List.rdrop, List.length_append, Nat.add_sub_cancel, List.take_left,
    String.ofList_toList]

/-- The backup that a request has made of a world, if it is answered like
this. -/
def World.backup? (w : World) (request : Request) (r : Response) : Option Backup :=
  match request with
  | .command .performBackup _ => if r.code = .ok then some ⟨r.toldId, w.live⟩ else none
  | _ => none

namespace World

variable {env : Environment} {w w' : World} {r : Response} {request : Request} {seen : Store}
  {all : List Backup} {id : String} {credential : Option Credential}

/-- The backups that are made in a run, oldest first. -/
def backups (env : Environment) (w : World) (inputs : List Input) : List Backup :=
  w.gather backup? env inputs

/-- These are all the backups that have been made: the newest of them are
kept, and each has its place in its identifier. -/
structure Window (env : Environment) (w : World) (all : List Backup) : Prop where
  made : w.vault.made = all.length
  kept : w.vault.kept = Vault.newest (max env.retention 1) all
  numbered : ∀ (n : Nat) (b : Backup), all[n]? = some b → ∃ nowMs, b.id = Vault.idOf nowMs n

theorem Window.nodup (h : w.Window env all) : (all.map Backup.id).Nodup := by
  rw [List.Nodup, List.pairwise_map, List.pairwise_iff_getElem]
  intro i j hi hj hlt hsame
  obtain ⟨t, ht⟩ := h.numbered i _ (List.getElem?_eq_getElem hi)
  obtain ⟨u, hu⟩ := h.numbered j _ (List.getElem?_eq_getElem hj)
  exact absurd (Vault.idOf_inj (ht.symm.trans (hsame.trans hu))) (Nat.ne_of_lt hlt)

/-- A search for an identifier finds the backup that it was given for. -/
theorem Window.find? (h : w.Window env all) {b : Backup} :
    w.vault.kept.find? (fun b => b.id == id) = some b ↔ b ∈ w.vault.kept ∧ b.id = id := by
  constructor
  · intro hfound
    exact ⟨List.mem_of_find?_eq_some hfound, by simpa using List.find?_some hfound⟩
  · rintro ⟨hb, rfl⟩
    obtain ⟨found, hfound⟩ : ∃ found, w.vault.kept.find? (fun c => c.id == b.id) = some found :=
      Option.isSome_iff_exists.mp (List.find?_isSome.mpr ⟨b, hb, beq_self_eq_true _⟩)
    have hsame : found.id = b.id := by simpa using List.find?_some hfound
    have honce : (w.vault.kept.map Backup.id).Nodup := by
      rw [h.kept, Vault.newest, List.map_drop]
      exact h.nodup.sublist (List.drop_sublist _ _)
    rw [hfound, List.inj_on_of_nodup_map honce (List.mem_of_find?_eq_some hfound) hb hsame]

/-- **A request adds the backup that it makes to the window.** -/
theorem Window.answered (h : w.Window env all) (hw : w.committed = w.live)
    (hanswered : Answered env seen w request w' r) :
    w'.Window env (all ++ (w.backup? request r).toList) := by
  rcases hanswered.kept with ⟨hmade, hkept, hnot⟩ | ⟨hvault, ⟨credential, rfl⟩, rfl⟩
  · have hnone : w.backup? request r = none := by
      rw [backup?.eq_def]
      split
      · exact if_neg (hnot _ rfl)
      · rfl
    rw [hnone, Option.toList_none, List.append_nil]
    exact ⟨hmade.trans h.made, hkept.trans h.kept, h.numbered⟩
  · have hnew : w.backup? (.command .performBackup credential)
        (.done ("Backup " ++ Vault.idOf w.nowMs w.vault.made ++ " created.") [])
        = some ⟨Vault.idOf w.nowMs w.vault.made, w.live⟩ :=
      congrArg (fun id => some (Backup.mk id w.live)) Response.toldId_done
    rw [hnew, Option.toList_some]
    refine ⟨?_, ?_, fun n b hb => ?_⟩
    · rw [hvault, List.length_append, ← h.made]
      rfl
    · rw [hvault, ← Vault.newest_append, ← h.kept, ← hw]
      rfl
    · rw [List.getElem?_append] at hb
      split at hb
      · exact h.numbered n b hb
      · rw [List.getElem?_singleton] at hb
        split at hb
        · -- the new one is the last, so that its place is the number made so far
          have hn : w.vault.made = n := by
            have hmade := h.made
            omega
          cases hb
          exact ⟨w.nowMs, congrArg (Vault.idOf w.nowMs) hn⟩
        · cases hb

theorem Window.run : ∀ {inputs : List Input} {w : World} {all : List Backup},
    w.Window env all → w.committed = w.live →
    (w.run env inputs).Window env (all ++ w.backups env inputs)
  | [], w, all, h, _ => by
      rw [backups, gather_nil, List.append_nil]
      exact h
  | .request request :: inputs, w, all, h, hw => by
      have hstep := h.answered hw (@answered_dispatch env w request)
      have hrun := @Window.run inputs _ _ hstep (answered_dispatch.committed_eq_live hw)
      rwa [List.append_assoc, backups, ← gather_request] at hrun
  | .pause ms :: inputs, w, all, h, hw =>
      Window.run (w := w.advance ms) ⟨h.made, h.kept, h.numbered⟩ hw

theorem window_of_run_start {nowMs : Int64} {issued : Nat} {files : Files} {s : Store}
    {inputs : List Input} : ((start nowMs issued files s).run env inputs).Window env
      ((start nowMs issued files s).backups env inputs) := by
  have hempty : (start nowMs issued files s).Window env [] := ⟨rfl, List.drop_nil.symm, nofun⟩
  exact hempty.run rfl

/-! ## Listing and staging -/

theorem performBackup_ok_iff : (w.dispatch env (.command .performBackup credential)).2.code = .ok
    ↔ env.Grants w.nowMs .root credential := by
  refine ⟨grants_of_ok rfl, fun hgrants => ?_⟩
  obtain ⟨p, hattempt⟩ := attempt_of_grants (c := .performBackup) rfl rfl hgrants
  rw [(dispatch_of_done (hattempt.trans (perform_performBackup_eq_ok.mpr ⟨rfl, rfl⟩))).1]
  rfl

theorem dispatch_listBackups (hgrants : env.Grants w.nowMs .root credential) :
    (w.dispatch env (.command .listBackups credential)).2 = .found (.backups w.vault.ids) := by
  obtain ⟨p, hattempt⟩ := attempt_of_grants (c := .listBackups) rfl rfl hgrants
  exact (dispatch_of_done (hattempt.trans rfl)).1

/-- What is staged under an identifier is the kept backup that was given
it. -/
theorem Window.staged (h : w.Window env all) {b : Backup} (hb : b ∈ w.vault.kept)
    (hgrants : env.Grants w.nowMs .root credential) :
    (w.dispatch env (.command (.stageRecovery b.id) credential)).2.code = .ok
      ∧ (w.dispatch env (.command (.stageRecovery b.id) credential)).1.vault.staged
        = some b.store := by
  obtain ⟨p, hattempt⟩ := attempt_of_grants (c := .stageRecovery b.id) rfl rfl hgrants
  have hdone : w.perform env p ((Command.stageRecovery b.id).targetRoles w.live)
      (.stageRecovery b.id) = .ok _ :=
    perform_stageRecovery_eq_ok.mpr ⟨b, h.find?.mpr ⟨hb, rfl⟩, rfl, rfl⟩
  obtain ⟨hanswer, log, hafter⟩ := dispatch_of_done (hattempt.trans hdone)
  rw [hanswer, hafter]
  exact ⟨rfl, rfl⟩

theorem Window.stageRecovery_ok_iff (h : w.Window env all) :
    (w.dispatch env (.command (.stageRecovery id) credential)).2.code = .ok ↔
      env.Grants w.nowMs .root credential ∧ id ∈ w.vault.kept.map Backup.id := by
  constructor
  · intro hok
    obtain ⟨p, w₁, log, hdone, -⟩ := perform_of_dispatch rfl hok
    obtain ⟨b, hfound, -⟩ := perform_stageRecovery_eq_ok.mp hdone
    exact ⟨grants_of_ok rfl hok, List.mem_map.mpr ⟨b, h.find?.mp hfound⟩⟩
  · rintro ⟨hgrants, hid⟩
    obtain ⟨b, hb, rfl⟩ := List.mem_map.mp hid
    exact (h.staged hb hgrants).1

/-- **The newest backups can be staged, and no others.** After any run from
any store, all the backups that were made in it have told different
identifiers; the last of these, as many as are kept, are listed in their
order; and to stage one of them, and of them only, is a success and brings
back the store of the moment when that backup was made. -/
theorem newest_backups_listed (nowMs : Int64) (issued : Nat) (files : Files) (s : Store)
    (inputs : List Input) (credential : Option Credential) :
    let first := start nowMs issued files s
    let w := first.run env inputs
    let made := first.backups env inputs
    let listed := made.rtake (min made.length (max env.retention 1))
    (made.map Backup.id).Nodup
      ∧ ((w.dispatch env (.command .performBackup credential)).2.code = .ok
        ↔ env.Grants w.nowMs .root credential)
      ∧ (env.Grants w.nowMs .root credential →
        (w.dispatch env (.command .listBackups credential)).2
          = .found (.backups (listed.map Backup.id)))
      ∧ (∀ id, (w.dispatch env (.command (.stageRecovery id) credential)).2.code = .ok
        ↔ env.Grants w.nowMs .root credential ∧ id ∈ listed.map Backup.id)
      ∧ (env.Grants w.nowMs .root credential → ∀ b ∈ listed,
        (w.dispatch env (.command (.stageRecovery b.id) credential)).1.vault.staged
          = some b.store) := by
  intro first w made listed
  have hwindow : w.Window env made := window_of_run_start
  have hkept : w.vault.kept = listed := hwindow.kept.trans Vault.newest_eq_rtake
  refine ⟨hwindow.nodup, performBackup_ok_iff, fun hgrants => ?_, fun id => ?_,
    fun hgrants b hb => (hwindow.staged (hkept ▸ hb) hgrants).2⟩
  · rw [dispatch_listBackups hgrants, Vault.ids, hkept]
  · rw [hwindow.stageRecovery_ok_iff, hkept]

/-! ## A clock that is set back -/

/-- Two backups are kept. -/
def keepingTwo : Environment := { rootOnly with retention := 2 }

/-- A backup is made, then another when there is a web server and the clock
has been set back, and a third at the time of the first, when the server
has been killed. -/
def threeBackups : List Input :=
  [.request (byRoot .performBackup),
    .request (byRoot (.createJob (.plain ⟨"www-data", "prod", "web"⟩ "root" 1) none)),
    .pause (-1000), .request (byRoot .performBackup),
    .request (byRoot (.killTasks .everything none)), .pause 1000,
    .request (byRoot .performBackup)]

/-- The first of the three is gone, and the server still waits in the
second. -/
theorem newest_backups_listed_clock_set_back :
    let root := some (Credential.apiKey "root")
    let w := (start 0 0 ∅ .empty).run keepingTwo threeBackups
    let staged (id : String) := w.dispatch keepingTwo (byRoot (.stageRecovery id))
    keepingTwo.Grants w.nowMs .root root
      ∧ (w.dispatch keepingTwo (byRoot .listBackups)).2
        = .found (.backups ["backup--1000-1", "backup-0-2"])
      ∧ (staged "backup-0-0").2.code ≠ .ok
      ∧ ((staged "backup--1000-1").1.vault.staged.map fun s => s.tasks.values.map Task.status)
        = some [.pending]
      ∧ ((staged "backup-0-2").1.vault.staged.map fun s => s.tasks.values.map Task.status)
        = some [.killed] := by
  intro root w staged
  let made := (start 0 0 ∅ .empty).backups keepingTwo threeBackups
  let listed := made.rtake (min made.length (max keepingTwo.retention 1))
  have hgrants : keepingTwo.Grants w.nowMs .root root :=
    ⟨_, _, rfl, rfl, Or.inl (by decide +kernel)⟩
  obtain ⟨-, -, hlist, hstage, hstore⟩ :=
    @newest_backups_listed keepingTwo 0 0 ∅ .empty threeBackups root
  have hids : listed.map Backup.id = ["backup--1000-1", "backup-0-2"] := by decide +kernel
  have hstatuses : listed.map (fun b => (b.id, b.store.tasks.values.map Task.status))
      = [("backup--1000-1", [.pending]), ("backup-0-2", [.killed])] := by decide +kernel
  have hstaged : ∀ id statuses, (id, statuses) ∈ listed.map
      (fun b => (b.id, b.store.tasks.values.map Task.status)) →
      ((staged id).1.vault.staged.map fun s => s.tasks.values.map Task.status)
        = some statuses := by
    intro id statuses hmem
    obtain ⟨b, hb, hpair⟩ := List.mem_map.mp hmem
    cases hpair
    exact congrArg (Option.map _) (hstore hgrants b hb)
  rw [hstatuses] at hstaged
  refine ⟨hgrants, hids ▸ hlist hgrants, fun hok => ?_, hstaged _ _ (.head _),
    hstaged _ _ (.tail _ (.head _))⟩
  have hgone := ((hstage "backup-0-0").mp hok).2
  rw [hids] at hgone
  revert hgone
  decide

end World

end JobControl
