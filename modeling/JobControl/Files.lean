import JobControl.Collections

/-!
# Files

The files and directories that a scheduler reads and writes. A path is followed name by name,
from the directory in which the scheduler stands or, if it starts with a slash, from the top;
each name in front of its end has to lead to a directory. The name `.` and the empty name, which
stands between two slashes and behind a last one, stay where they are, and `..` goes up.
-/

namespace JobControl

namespace Files

/-- Where something is: the names that lead to it, the last one first. The top has an empty
name, and the directories above the one in which relative paths start are called `..`. -/
abbrev Place := List String

/-- What is at a place. -/
inductive Entry
  | file (content : String)
  | directory
  deriving DecidableEq, Repr

/-- Why a path cannot be used. -/
inductive PathFault
  | missing
  | notDirectory
  | isDirectory
  | tooLong
  | holdsNul
  deriving DecidableEq, Repr

def PathFault.message : PathFault → String
  | missing => "No such file or directory (os error 2)"
  | notDirectory => "Not a directory (os error 20)"
  | isDirectory => "Is a directory (os error 21)"
  | tooLong => "File name too long (os error 36)"
  | holdsNul => "file name contained an unexpected NUL byte"

end Files

/-- The files and directories that have been made, by their places. -/
abbrev Files := Std.ExtTreeMap Files.Place Files.Entry

namespace Files

/-! ## Places -/

/-- The names in a path, between its slashes. -/
def names (path : String) : List String :=
  (path.toList.splitOn '/').map String.ofList

/-- The place at which a path starts. -/
def origin (path : String) : Place :=
  if ['/'].isPrefixOf path.toList then [""] else []

/-- The place of the directory above; above the top there is the top. -/
def above : Place → Place
  | [] => [".."]
  | [""] => [""]
  | ".." :: place => ".." :: ".." :: place
  | _ :: place => place

/-- The place to which a name leads from a directory. -/
def next (here : Place) (name : String) : Place :=
  if name == "" || name == "." then here
  else if name == ".." then above here
  else name :: here

/-- The directories that nobody has to make: the top, the one in which relative paths start and
those above it. -/
def isGiven (place : Place) : Bool :=
  place == [""] || place.all (· == "..")

def entry? (files : Files) (place : Place) : Option Entry :=
  if isGiven place then some .directory else files[place]?

/-! ## Following paths -/

/-- The number of bytes that a name may have. -/
def maxName : Nat := 255

/-- The number of bytes that a path may have. -/
def maxPath : Nat := 4095

/-- Follows a name. Whether there is something where it leads to is left open. -/
def enter (files : Files) (here : Place) (name : String) : Except PathFault Place :=
  match files.entry? here with
  | none => .error .missing
  | some (.file _) => .error .notDirectory
  | some .directory =>
    if name.utf8ByteSize ≤ maxName then .ok (next here name) else .error .tooLong

/-- Follows some names of a path that is not refused as such. -/
def follow (files : Files) (path : String) (names : List String) : Except PathFault Place :=
  if path.toList.contains '\x00' then .error .holdsNul
  else if path == "" then .error .missing
  else if maxPath < path.utf8ByteSize then .error .tooLong
  else names.foldlM files.enter (origin path)

/-- What a path leads to. -/
def find (files : Files) (path : String) : Except PathFault Entry := do
  match files.entry? (← files.follow path (names path)) with
  | some entry => .ok entry
  | none => .error .missing

def read? (files : Files) (path : String) : Option String :=
  match files.find path with
  | .ok (.file content) => some content
  | _ => none

/-- The last name of a path that is not empty, and the names in front of it. -/
def lastName? (path : String) : Option (List String × String) :=
  match (names path).reverse.dropWhile (· == "") with
  | [] => none
  | last :: before => some (before.reverse, last)

/-- Writes a file into a directory that is there. -/
def write (files : Files) (path content : String) : Except PathFault Files := do
  let (before, last) := (lastName? path).getD ([], "")
  let directory ← files.follow path (before ++ [""])
  -- nothing but a directory can be meant by these
  if ["", ".", ".."].contains last || before ++ [last] != names path then .error .isDirectory
  else
    let place ← files.enter directory last
    match files.entry? place with
    | some .directory => .error .isDirectory
    | _ => .ok (files.insert place (.file content))

/-! ## Laying out files -/

/-- Makes a directory at a place where nothing is. -/
def addDirectory (files : Files) (place : Place) : Files :=
  if (files.entry? place).isSome then files else files.insert place .directory

/-- The place of a path, with the directories in front of it made. -/
def prepared (files : Files) (path : String) : Files × Place :=
  (names path).foldl (fun (files, here) name => (files.addDirectory here, next here name))
    (files, origin path)

/-- Puts a file at a path, together with the directories in front of it. -/
def put (files : Files) (path content : String) : Files :=
  let (files, place) := files.prepared path
  files.insert place (.file content)

/-- Puts a directory at a path, together with those in front of it. -/
def putDirectory (files : Files) (path : String) : Files :=
  let (files, place) := files.prepared path
  files.addDirectory place

end Files

end JobControl
