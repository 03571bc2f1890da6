import JobControl.Json.Token

/-!
# Reading a document

Tokens are put together by a machine with a stack of the objects and arrays that are open. A
document is one value. Parts of it that stand for no value are passed over, however deep they
are; they are garbled, as is an object with a garbled name, and whatever stands in more than
`maxDepth` objects and arrays.
-/

namespace JobControl.Json

/-- An open array or object; what it holds so far stands in reverse, and is nothing if it is
garbled. -/
inductive Frame
  | items (before : Option (List Json))
  | fields (before : Option (List (String × Json))) (name : String)
  deriving Repr, Inhabited

/-- What may come next. -/
inductive Expecting
  | value
  /-- Behind `[`. -/
  | itemOrEnd
  /-- Behind `{`. -/
  | nameOrEnd (before : Option (List (String × Json)))
  /-- Behind a comma in an object. -/
  | name (before : Option (List (String × Json)))
  | colon
  | commaOrEnd
  /-- The document is complete. -/
  | nothing (document : Json)
  deriving Repr, Inhabited

/-- The machine: the open frames, innermost first, and what may come next. Between the brace
or comma and the colon of a field the object's frame is not on the stack. -/
structure Builder where
  frames : List Frame
  expecting : Expecting
  deriving Repr, Inhabited

/-- The number of arrays and objects that a value may stand in. -/
def maxDepth : Nat := 127

namespace Builder

/-- Puts a complete value in its place. -/
def add (m : Builder) (v : Json) : Builder :=
  match m.frames with
  | [] => ⟨[], .nothing v⟩
  | .items before :: frames => ⟨.items (before.map (v :: ·)) :: frames, .commaOrEnd⟩
  | .fields before name :: frames =>
    ⟨.fields (before.map ((name, v) :: ·)) name :: frames, .commaOrEnd⟩

/-- The start of an array or object: it is garbled if it stands too deep. -/
def opened {α : Type} (m : Builder) : Option (List α) :=
  if (m.frames.drop (maxDepth - 1)).isEmpty then some [] else none

/-- The array of some items. -/
def closedArray (before : Option (List Json)) : Json :=
  before.elim .garbled fun items => .arr items.reverse

/-- The object of some fields. -/
def closedObject (before : Option (List (String × Json))) : Json :=
  before.elim .garbled fun fields => .obj fields.reverse

/-- Reads the name of a field. -/
def startField (m : Builder) (before : Option (List (String × Json))) (name : Option String) :
    Builder :=
  ⟨.fields (name.bind fun _ => before) (name.getD "") :: m.frames, .colon⟩

/-- Reads the first token of a value. -/
def startValue (m : Builder) (token : Token) : Option Builder :=
  match token with
  | .scalar v => some (m.add v)
  | .text s => some (m.add (s.elim .garbled .str))
  | .openArray => some ⟨.items m.opened :: m.frames, .itemOrEnd⟩
  | .openObject => some ⟨m.frames, .nameOrEnd m.opened⟩
  | _ => none

def step (m : Builder) (token : Token) : Option Builder :=
  match m.expecting with
  | .value => m.startValue token
  | .itemOrEnd =>
    match token, m.frames with
    | .closeArray, .items before :: frames => some (add ⟨frames, .value⟩ (closedArray before))
    | _, _ => m.startValue token
  | .nameOrEnd before =>
    match token with
    | .closeObject => some (m.add (closedObject before))
    | .text name => some (m.startField before name)
    | _ => none
  | .name before =>
    match token with
    | .text name => some (m.startField before name)
    | _ => none
  | .colon =>
    match token with
    | .colon => some { m with expecting := .value }
    | _ => none
  | .commaOrEnd =>
    match token, m.frames with
    | .comma, .items _ :: _ => some { m with expecting := .value }
    | .comma, .fields before _ :: frames => some ⟨frames, .name before⟩
    | .closeArray, .items before :: frames => some (add ⟨frames, .value⟩ (closedArray before))
    | .closeObject, .fields before _ :: frames =>
      some (add ⟨frames, .value⟩ (closedObject before))
    | _, _ => none
  | .nothing _ => none

end Builder

/-- The document that a sequence of tokens writes. -/
def ofTokens? (tokens : List Token) : Option Json :=
  (tokens.foldlM Builder.step ⟨[], .value⟩).bind fun m =>
    match m.expecting with
    | .nothing document => some document
    | _ => none

/-- The document that a text writes, of which parts may be garbled. -/
def ofText? (text : String) : Option Json :=
  (tokens? (text.toList.map some)).bind ofTokens?

/-- The document that a text writes if nothing in it is garbled. -/
def parse? (text : String) : Option Json :=
  (ofText? text).filter isClear

/-! ## Bytes -/

/-- The characters that some bytes are, and those bytes that belong to no character. -/
def symbolsFrom (bytes : ByteArray) (start : Nat) : List Symbol :=
  if _ : start < bytes.size then
    match bytes.utf8DecodeChar? start with
    | some c =>
      have := c.utf8Size_pos
      some c :: symbolsFrom bytes (start + c.utf8Size)
    | none => none :: symbolsFrom bytes (start + 1)
  else []
termination_by bytes.size - start

/-- The document that some bytes write, of which parts may be garbled. -/
def ofBytes? (bytes : List UInt8) : Option Json :=
  (tokens? (symbolsFrom ⟨bytes.toArray⟩ 0)).bind ofTokens?

end JobControl.Json
