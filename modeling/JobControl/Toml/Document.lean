import JobControl.Toml.Statement

/-!
# TOML documents

The statements of a document fill one table, line by line.
-/

namespace JobControl.Toml

/-- A document of which some statements have been read: all its fields, and the path of the
table that the next lines fill. -/
structure Document where
  fields : Fields
  here : List String
  deriving Repr, Inhabited

namespace Document

def empty : Document := ⟨[], []⟩

def add (d : Document) : Statement → Option Document
  | .table path => (d.fields.addTable path).map fun fields => ⟨fields, path⟩
  | .item path => (d.fields.addItem path).map fun fields => ⟨fields, path⟩
  | .field path value =>
    (d.fields.within false (fun _ inner => inner.addField path value) d.here .heading).map
      fun fields => { d with fields }

/-- The table that statements fill. -/
def ofStatements? (statements : List Statement) : Option Toml :=
  (statements.foldlM add empty).map fun d => .table .heading d.fields

end Document

/-- The table that a text writes. -/
def parse? (text : String) : Option Toml :=
  ((tokens? (unmarked text.toList)).bind statements?).bind Document.ofStatements?

end JobControl.Toml
