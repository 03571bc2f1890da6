import JobControl.Toml.Basic

/-!
# Adding to tables

A name is given a value once. A table that was only passed on the way to another one may still
get a heading of its own; a table with a heading gets nothing through a dotted key from
elsewhere, and a table between braces gets nothing at all. Where a path leads through an array
of tables, it means the last of them.
-/

namespace JobControl.Toml.Fields

/-- Changes the table at the end of a path, which starts at a table that came about in the
given way. Tables that are missing on the way are made: by a dotted key or by a heading. -/
def within (dotted : Bool) (change : Origin → Fields → Option Fields) :
    List String → Origin → Fields → Option Fields
  | [], origin, fields => change origin fields
  | name :: path, _, fields =>
    match fields.lookup name with
    | none =>
      let made : Origin := if dotted then .dotted else .implicit
      (within dotted change path made []).map fun inner => fields.put name (.table made inner)
    | some (.table origin inner) =>
      if origin == .inline || (dotted && origin == .heading) then none
      else (within dotted change path origin inner).map fun inner =>
        fields.put name (.table origin inner)
    | some (.array true items) =>
      match items.reverse with
      | .table origin inner :: before =>
        (within dotted change path origin inner).map fun inner =>
          fields.put name (.array true (before.reverse ++ [.table origin inner]))
      | _ => none
    | some _ => none

/-- Changes the table in front of the last name of a path, given that name. -/
def atLast (dotted : Bool) (change : String → Origin → Fields → Option Fields)
    (path : List String) (origin : Origin) (fields : Fields) : Option Fields :=
  path.getLast?.bind fun name => within dotted (change name) path.dropLast origin fields

/-- Gives a value to a key. Behind a dot the key leads to a table that dotted keys have made. -/
def addField (path : List String) (value : Toml) (fields : Fields) : Option Fields :=
  atLast true (fun name origin fields =>
    if origin == .dotted && (fields.lookup name).isNone then some (fields ++ [(name, value)])
    else none) path .dotted fields

/-- Gives a heading to a table. -/
def addTable (path : List String) (fields : Fields) : Option Fields :=
  atLast false (fun name _ fields =>
    match fields.lookup name with
    | none => some (fields.put name (.table .heading []))
    | some (.table .implicit inner) => some (fields.put name (.table .heading inner))
    | some _ => none) path .heading fields

/-- Adds a table to the end of an array of tables. -/
def addItem (path : List String) (fields : Fields) : Option Fields :=
  atLast false (fun name _ fields =>
    match fields.lookup name with
    | none => some (fields.put name (.array true [.table .heading []]))
    | some (.array true items) =>
      some (fields.put name (.array true (items ++ [.table .heading []])))
    | some _ => none) path .heading fields

end JobControl.Toml.Fields
