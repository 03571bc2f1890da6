import JobControl.Collections

/-!
# Job keys

A job is named by the role that owns it, the environment it runs in, and its own name. The
three parts of a valid key hold no slash, so that its text names one job only.
-/

namespace JobControl

/-- The characters of an identifier: ASCII letters and digits, `_`, `-` and `.`. -/
def isIdentifierChar (c : Char) : Bool :=
  c.isAlphanum || c == '_' || c == '-' || c == '.'

/-- An identifier is not empty and holds identifier characters only. -/
def isIdentifier (s : String) : Bool :=
  !s.toList.isEmpty && s.toList.all isIdentifierChar

/-- The stable name of a job. -/
structure JobKey where
  role : String
  environment : String
  name : String
  deriving DecidableEq, Repr, Inhabited

namespace JobKey

/-- The text of a key, under which its job and its lock are filed. -/
def canonical (k : JobKey) : String :=
  k.role ++ "/" ++ k.environment ++ "/" ++ k.name

instance : ToString JobKey := ⟨canonical⟩

/-- A key is valid if all its parts are identifiers. -/
def isValid (k : JobKey) : Bool :=
  isIdentifier k.role && isIdentifier k.environment && isIdentifier k.name

/-- Keys are ordered by role, then environment, then name. -/
instance : Ord JobKey where
  compare := compareLex (compareOn JobKey.role)
    (compareLex (compareOn JobKey.environment) (compareOn JobKey.name))

theorem compare_def : (compare : JobKey → JobKey → Ordering) =
    compareLex (compareOn JobKey.role)
      (compareLex (compareOn JobKey.environment) (compareOn JobKey.name)) := rfl

instance : Std.TransOrd JobKey :=
  inferInstanceAs (Std.TransCmp (compareLex (compareOn JobKey.role)
    (compareLex (compareOn JobKey.environment) (compareOn JobKey.name))))

instance : Std.LawfulEqOrd JobKey where
  eq_of_compare {a b} h := by
    rw [compare_def] at h
    simp only [compareLex, compareOn, Ordering.then_eq_eq, Std.compare_eq_iff_eq] at h
    cases a; cases b; simp_all

end JobKey

/-- The set of jobs that a list of keys names. -/
abbrev JobKeys := Std.ExtTreeSet JobKey

/-- One instance of a job. -/
structure InstanceKey where
  job : JobKey
  instanceId : Int32
  deriving DecidableEq, Repr

/-- The key of the job, then the number of the instance. -/
def InstanceKey.text (k : InstanceKey) : String :=
  k.job.canonical ++ "/" ++ toString k.instanceId

end JobControl
