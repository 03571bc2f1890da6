import JobControl.Json.Printer
import JobControl.Json.Reader
import JobControl.Store
import JobControl.Wire.Entities

/-!
# Snapshots

The store as a text that outlives the scheduler. Everything is filed in the text as it is in
the store.
-/

namespace JobControl

open Json (required)

instance : Codec Store where
  encode s := .obj
    [("tasks", encode s.tasks), ("jobs", encode s.jobs), ("locks", encode s.locks),
      ("quotas", encode s.quotas)]
  read s j := do
    let fields ← j.object?
    return ⟨← required s fields "tasks", ← required s fields "jobs", ← required s fields "locks",
      ← required s fields "quotas"⟩

namespace Store

/-- The text of a store. -/
def snapshot (s : Store) : String := Json.indented (encode s)

/-- The store that a text holds. What is garbled in it does not matter where it is passed
over. -/
def ofSnapshot? (text : String) : Option Store := (Json.ofText? text).bind decode

end Store

end JobControl
