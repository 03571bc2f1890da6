import JobControl.Proofs.PrintedDocuments
import JobControl.Proofs.Tables
import JobControl.Wire.Entities

/-!
# Values come back from their documents

The writer and the reader of a kind of value are given apart from each
other, field by field. That they agree is one statement for each kind,
which rests on those for the kinds of its fields; nothing is opened twice.
It holds of every value but for two exceptions, and both have to be ruled
out where they can occur: a double that is not finite has no document, and
an optional value that is there must not be written as `null`, as this is
how its absence is written.
-/

namespace JobControl

/-- A value is what its document is read as, however names may be spelled in it. -/
def Faithful {α : Type} [Codec α] (a : α) : Prop :=
  ∀ s, Codec.read s (encode a) = some a

section Fields

variable {α : Type} {a : α} {s : Json.Spelling} {missing : Option α}
  {fields : List (String × Json)} {name : String}

theorem Json.taken_of_once {read : Json → Option α} {value : Json}
    (h : Json.once fields name = some (some value)) :
    Json.taken read missing fields name = read value := by
  rw [Json.taken, h]

/-- One field after the other: a field that was written once is read, and then the rest is. -/
theorem read_field {β : Type} [Codec α] {b : β} {rest : α → Option β} (ha : Faithful a)
    (hfield : Json.once fields name = some (some (encode a))) (hrest : rest a = some b) :
    (Json.taken (Codec.read s) missing fields name).bind rest = some b := by
  rw [Json.taken_of_once hfield, ha s]
  exact hrest

end Fields

/-! ## Plain values -/

theorem mapM_eq_some {α β : Type} {f : α → β} {g : β → Option α} {as : List α}
    (h : ∀ a ∈ as, g (f a) = some a) : (as.map f).mapM g = some as := by
  induction as with
  | nil => rfl
  | cons a as ih =>
      obtain ⟨ha, has⟩ := List.forall_mem_cons.mp h
      simp [ha, ih has]

section Plain

variable {α : Type} [Codec α] {a : α}

theorem faithful_json (j : Json) : Faithful j := fun _ => rfl

theorem faithful_string (text : String) : Faithful text := fun _ => rfl

theorem faithful_bool (b : Bool) : Faithful b := fun _ => rfl

theorem Json.intWithin_int {low high n : Int} (hlow : low ≤ n) (hhigh : n ≤ high) :
    intWithin low high (.int n) = some n :=
  if_pos ⟨hlow, hhigh⟩

theorem faithful_int32 (n : Int32) : Faithful n := by
  intro s
  simp only [Codec.read, encode, Json.intWithin_int n.minValue_le_toInt n.toInt_le,
    Option.map_some, Int32.ofInt_toInt]

theorem faithful_int64 (n : Int64) : Faithful n := by
  intro s
  simp only [Codec.read, encode, Json.intWithin_int n.minValue_le_toInt n.toInt_le,
    Option.map_some, Int64.ofInt_toInt]

theorem faithful_nat {n : Nat} (h : n < 2 ^ 64) : Faithful n := by
  intro s
  have hwithin : Json.intWithin 0 0xFFFFFFFFFFFFFFFF (.int n) = some (n : Int) :=
    Json.intWithin_int (Int.natCast_nonneg n) (by omega)
  simp only [Codec.read, encode, hwithin, Option.map_some, Int.toNat_natCast]

theorem faithful_float {x : Float} (h : x.isFinite = true) : Faithful x := by
  intro s
  simp [Codec.read, encode, h]

theorem faithful_option {o : Option α} (h : ∀ a ∈ o, Faithful a ∧ encode a ≠ .null) :
    Faithful o := by
  intro s
  cases o with
  | none => rfl
  | some a =>
      obtain ⟨hread, hnull⟩ := h a rfl
      delta instCodecOption
      have hsome : Codec.read s (encode a) = some a := hread s
      -- the reader tells the two by `hnull`
      simp only [hsome, Option.map_some]

theorem faithful_list {as : List α} (h : ∀ a ∈ as, Faithful a) : Faithful as :=
  fun s => mapM_eq_some fun a ha => h a ha s

theorem faithful_set [Ord α] [Std.TransOrd α] [Std.LawfulEqOrd α] {as : Std.ExtTreeSet α}
    (h : ∀ a ∈ as, Faithful a) : Faithful as := by
  intro s
  have hitems : (as.toList.map encode).mapM (Codec.read s) = some as.toList :=
    mapM_eq_some fun a ha => h a (Std.ExtTreeSet.mem_toList.mp ha) s
  delta instCodecExtTreeSet
  simp only [Json.array?, Option.bind_some, hitems, Option.map_some, setOf_toList]

theorem faithful_table {t : Table α} (h : ∀ a ∈ t.values, Faithful a) : Faithful t := by
  intro s
  have hentry : ∀ entry ∈ t.toList, Faithful entry.2 := fun entry hentry =>
    h _ (Table.mem_values.mpr ⟨entry.1, Std.ExtTreeMap.mem_toList_iff_getElem?_eq_some.mp hentry⟩)
  have hentries : (t.toList.map fun entry => (entry.1, encode entry.2)).mapM (fun field =>
      (Codec.read s field.2).map fun a => (field.1, a)) = some t.toList :=
    mapM_eq_some fun entry hmem => by rw [hentry entry hmem s, Option.map_some]
  delta instCodecTable
  simp only [Json.object?, Option.bind_some, hentries, Option.map_some, Table.ofEntries_toList]

end Plain

/-! ## Jobs and tasks -/

open Json (object? required withDefault)

theorem faithful_optionString (o : Option String) : Faithful o :=
  faithful_option fun text _ => ⟨faithful_string text, nofun⟩

theorem faithful_optionBool (o : Option Bool) : Faithful o :=
  faithful_option fun b _ => ⟨faithful_bool b, nofun⟩

theorem faithful_optionInt32 (o : Option Int32) : Faithful o :=
  faithful_option fun n _ => ⟨faithful_int32 n, nofun⟩

theorem faithful_jobKey (k : JobKey) : Faithful k := by
  intro s
  delta instCodecJobKey
  dsimp only [object?, required, Option.bind_eq_bind, Option.bind_some]
  refine read_field (faithful_string _) rfl ?_
  refine read_field (faithful_string _) rfl ?_
  exact read_field (faithful_string _) rfl rfl

theorem faithful_identity (i : Identity) : Faithful i := by
  intro s
  delta instCodecIdentity
  dsimp only [object?, required, Option.bind_eq_bind, Option.bind_some]
  refine read_field (faithful_string _) rfl ?_
  exact read_field (faithful_string _) rfl rfl

theorem faithful_executor (e : Executor) : Faithful e := by
  intro s
  delta instCodecExecutor
  dsimp only [object?, required, Option.bind_eq_bind, Option.bind_some]
  refine read_field (faithful_string _) rfl ?_
  exact read_field (faithful_string _) rfl rfl

theorem faithful_resources {r : Resources} (h : r.numCpus.isFinite = true) : Faithful r := by
  intro s
  delta instCodecResources
  dsimp only [object?, required, Option.bind_eq_bind, Option.bind_some]
  refine read_field (faithful_float h) rfl ?_
  refine read_field (faithful_int64 _) rfl ?_
  exact read_field (faithful_int64 _) rfl rfl

theorem faithful_taskSpec {t : TaskSpec} (h : t.numCpus.isFinite = true) : Faithful t := by
  intro s
  delta instCodecTaskSpec
  dsimp only [object?, Json.optional, required, withDefault, Option.bind_eq_bind, Option.bind_some]
  refine read_field (faithful_identity _) rfl ?_
  refine read_field (faithful_string _) rfl ?_
  refine read_field (faithful_string _) rfl ?_
  refine read_field (faithful_optionBool _) rfl ?_
  refine read_field (faithful_float h) rfl ?_
  refine read_field (faithful_int64 _) rfl ?_
  refine read_field (faithful_int64 _) rfl ?_
  refine read_field (faithful_optionInt32 _) rfl ?_
  refine read_field (faithful_optionInt32 _) rfl ?_
  refine read_field (faithful_optionBool _) rfl ?_
  refine read_field (faithful_optionString _) rfl ?_
  refine read_field (faithful_set fun name _ => faithful_string name) rfl ?_
  exact read_field (faithful_option fun e _ => ⟨faithful_executor e, nofun⟩) rfl rfl

theorem faithful_status (status : Status) : Faithful status := by
  intro s
  cases status <;> rfl

theorem faithful_statusChange (c : StatusChange) : Faithful c := by
  intro s
  delta instCodecStatusChange
  dsimp only [object?, Json.optional, required, withDefault, Option.bind_eq_bind, Option.bind_some]
  refine read_field (faithful_int64 _) rfl ?_
  refine read_field (faithful_status _) rfl ?_
  refine read_field (faithful_optionString _) rfl ?_
  exact read_field (faithful_optionString _) rfl rfl

theorem faithful_job {j : Job} (h : j.task.numCpus.isFinite = true) : Faithful j := by
  intro s
  delta instCodecJob
  dsimp only [object?, Json.optional, required, withDefault, Option.bind_eq_bind, Option.bind_some]
  refine read_field (faithful_jobKey _) rfl ?_
  refine read_field (faithful_identity _) rfl ?_
  refine read_field (faithful_optionString _) rfl ?_
  refine read_field (faithful_taskSpec h) rfl ?_
  exact read_field (faithful_int32 _) rfl rfl

theorem faithful_task {t : Task} (h : t.spec.numCpus.isFinite = true) : Faithful t := by
  intro s
  delta instCodecTask
  dsimp only [object?, Json.optional, required, withDefault, Option.bind_eq_bind, Option.bind_some]
  refine read_field (faithful_json t.encodeAssignment) rfl ?_
  dsimp only [Task.encodeAssignment, Option.bind_some]
  refine read_field (faithful_string _) rfl ?_
  refine read_field (faithful_optionString _) rfl ?_
  refine read_field (faithful_optionString _) rfl ?_
  refine read_field (faithful_taskSpec h) rfl ?_
  refine read_field (faithful_table fun n _ => faithful_int32 n) rfl ?_
  refine read_field (faithful_int32 _) rfl ?_
  refine read_field (faithful_status _) rfl ?_
  refine read_field (faithful_int32 _) rfl ?_
  refine read_field (faithful_list fun c _ => faithful_statusChange c) rfl ?_
  exact read_field (faithful_optionString _) rfl rfl

/-- The type of what is locked stands in front of its key, which is then read at once. -/
theorem read_lockSubject (s : Json.Spelling) (k : JobKey) :
    readLockSubject s (encodeLockSubject k) = some k := by
  have htype : Json.named? [()] (fun _ => "job") s (.str "job") = some () := rfl
  unfold readLockSubject encodeLockSubject
  dsimp only [object?, required, Option.bind_eq_bind, Option.bind_some]
  refine read_field (faithful_json (.str "job")) rfl ?_
  rw [htype]
  show Json.taken (Codec.read s) none [("type", .str "job"), ("key", encode k)] "key" = some k
  rw [Json.taken_of_once rfl, faithful_jobKey k s]

theorem faithful_lock (l : Lock) : Faithful l := by
  intro s
  delta instCodecLock
  dsimp only [object?, Json.optional, required, withDefault, Option.bind_eq_bind, Option.bind_some]
  refine read_field (faithful_json (encodeLockSubject l.key)) rfl ?_
  rw [read_lockSubject, Option.bind_some]
  refine read_field (faithful_string _) rfl ?_
  refine read_field (faithful_string _) rfl ?_
  refine read_field (faithful_int64 _) rfl ?_
  exact read_field (faithful_optionString _) rfl rfl

/-! ## Texts of values -/

open Json (Readable ReadsBack)

section Texts

variable {α : Type} [Codec α] {room : Nat}

theorem readable_obj {fields : List (String × Json)} :
    Readable (room + 1) (.obj fields) ↔ ∀ field ∈ fields, Readable room field.2 :=
  ⟨fun h => by cases h; assumption, .obj⟩

theorem readable_null : Readable room .null := .null

theorem readable_string (text : String) : Readable room (encode text) := .str

theorem readable_bool (b : Bool) : Readable room (encode b) := .bool

theorem readable_int32 (n : Int32) : Readable room (encode n) :=
  .int (Int.le_trans (by decide) n.minValue_le_toInt)
    (Int.lt_of_le_of_lt n.toInt_le (by decide))

theorem readable_int64 (n : Int64) : Readable room (encode n) :=
  .int n.minValue_le_toInt (Int.lt_of_le_of_lt n.toInt_le (by decide))

theorem readable_float {x : Float} (h : ReadsBack x) : Readable room (encode x) := by
  have hencode : encode x = .float x := if_pos h.isFinite
  rw [hencode]
  exact .float h

theorem readable_option {o : Option α} (h : ∀ a ∈ o, Readable room (encode a)) :
    Readable room (encode o) := by
  cases o with
  | none => exact .null
  | some a => exact h a rfl

theorem readable_list {as : List α} (h : ∀ a ∈ as, Readable room (encode a)) :
    Readable (room + 1) (encode as) :=
  .arr (List.forall_mem_map.mpr h)

theorem readable_set [Ord α] [Std.TransOrd α] [Std.LawfulEqOrd α] {as : Std.ExtTreeSet α}
    (h : ∀ a ∈ as, Readable room (encode a)) : Readable (room + 1) (encode as) :=
  .arr (List.forall_mem_map.mpr fun a ha => h a (Std.ExtTreeSet.mem_toList.mp ha))

theorem readable_table {t : Table α} (h : ∀ a ∈ t.values, Readable room (encode a)) :
    Readable (room + 1) (encode t) := by
  refine .obj (List.forall_mem_map.mpr fun entry hentry => h _ (Table.mem_values.mpr ⟨entry.1, ?_⟩))
  exact Std.ExtTreeMap.mem_toList_iff_getElem?_eq_some.mp hentry

attribute [simp] readable_obj readable_null readable_string readable_bool readable_int32
  readable_int64 readable_option readable_list readable_set readable_table

@[simp] theorem readable_jobKey (k : JobKey) : Readable (room + 1) (encode k) := by
  delta instCodecJobKey
  simp

@[simp] theorem readable_identity (i : Identity) : Readable (room + 1) (encode i) := by
  delta instCodecIdentity
  simp

@[simp] theorem readable_executor (e : Executor) : Readable (room + 1) (encode e) := by
  delta instCodecExecutor
  simp

theorem readable_resources {r : Resources} (h : ReadsBack r.numCpus) :
    Readable (room + 1) (encode r) := by
  delta instCodecResources
  simp [readable_float h]

theorem readable_taskSpec {t : TaskSpec} (h : ReadsBack t.numCpus) :
    Readable (room + 2) (encode t) := by
  delta instCodecTaskSpec
  simp [readable_float h]

theorem readable_job {j : Job} (h : ReadsBack j.task.numCpus) :
    Readable (room + 3) (encode j) := by
  delta instCodecJob
  simp [readable_taskSpec h]

@[simp] theorem readable_status (status : Status) : Readable room (encode status) := .str

@[simp] theorem readable_statusChange (c : StatusChange) : Readable (room + 1) (encode c) := by
  delta instCodecStatusChange
  simp

theorem readable_task {t : Task} (h : ReadsBack t.spec.numCpus) :
    Readable (room + 4) (encode t) := by
  delta instCodecTask
  simp [Task.encodeAssignment, readable_taskSpec h]

@[simp] theorem readable_lock (l : Lock) : Readable (room + 3) (encode l) := by
  have htype : Readable (room + 1) (.str "job") := .str
  delta instCodecLock
  simp [encodeLockSubject, htype]

end Texts

end JobControl
