import Std.Data.ExtTreeMap
import Std.Data.ExtTreeSet

/-!
# Tables and sets

Everything that is kept under a name is kept in a table sorted by that name, so that listings
come in one order whatever happened before. Two tables with the same entries are equal. Only
where the order in which names came has to last, a list of entries is kept.
-/

namespace JobControl

/-- Values under names, sorted by name. -/
abbrev Table (α : Type) := Std.ExtTreeMap String α

abbrev Names := Std.ExtTreeSet String

namespace Table

variable {α : Type}

/-- The table of the given entries; the last of several entries of one name stays. -/
def ofEntries (entries : List (String × α)) : Table α :=
  entries.foldl (fun t (name, a) => t.insert name a) ∅

end Table

/-- Values under names, in the order in which the names came. -/
abbrev Entries (α : Type) := List (String × α)

/-- Puts a value in the place of the first one of that name, or behind all others. -/
def Entries.put {α : Type} (name : String) (value : α) : Entries α → Entries α
  | [] => [(name, value)]
  | entry :: entries =>
    if entry.1 == name then (name, value) :: entries else entry :: Entries.put name value entries

/-- A list of names between separators. -/
def joined (separator : String) (names : List String) : String :=
  separator.intercalate names

def setOf {α : Type} [Ord α] [Std.TransOrd α] (items : List α) : Std.ExtTreeSet α :=
  items.foldl (fun s a => s.insert a) ∅

end JobControl
