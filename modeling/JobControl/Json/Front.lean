import JobControl.Json.Token

/-!
# Values at the front of a text

Who reads a document part by part, and goes on behind a part that could not be read, has to know
where the reader of that part stopped. The readers here take a value from the front of a text
and say what is left, whether or not there was a value: a string is read up to the escape that
is wrong, a number up to the character that does not fit, and the brackets around a part that
could not be read are closed as far as the text closes them at once.

The text is given byte by byte, each byte as the character of that number, so that it may hold
bytes that belong to no character.
-/

namespace JobControl.Json

/-- What was read from the front of a text, if it could be read, and what is left. -/
structure Front (α : Type) where
  found : Option α
  rest : List Char
  deriving Repr, Inhabited

namespace Front

/-- The same rest, and what becomes of what was found. -/
def bind {α β : Type} (front : Front α) (f : α → Option β) : Front β :=
  ⟨front.found.bind f, front.rest⟩

/-- What is left of a text behind its leading blanks. -/
def skipSpace (cs : List Char) : List Char := cs.dropWhile isSpace

/-- The bytes of a character. -/
def bytesOf (c : Char) : List Char :=
  (String.utf8EncodeChar c).map fun b => Char.ofNat b.toNat

/-- The text that some bytes are, if they are one. -/
def textOf? (bytes : List Char) : Option String :=
  String.fromUTF8? ⟨(bytes.map fun c => c.toNat.toUInt8).toArray⟩

/-! ## Strings -/

/-- The number that four hexadecimal digits write. -/
def hexCode (cs : List Char) : Front Nat :=
  if (cs.take 4).length < 4 then ⟨none, []⟩ else ⟨Text.hexNumber? (cs.take 4), cs.drop 4⟩

/-- What is left behind the first half of a pair that is not followed by an escape. -/
def behindLoneHalf : List Char → List Char
  | '\\' :: _ :: cs => cs
  | _ :: cs => cs
  | [] => []

/-- The second half of a pair, and the bytes of the character that both halves name. -/
def secondHalf (high : Nat) (cs : List Char) : Front (List Char) :=
  match cs with
  | '\\' :: 'u' :: digits =>
    (hexCode digits).bind fun low =>
      if isLowHalf low then
        some (bytesOf (Char.ofNat (0x10000 + (high - 0xD800) * 0x400 + (low - 0xDC00))))
      else none
  | cs => ⟨none, behindLoneHalf cs⟩

/-- The bytes of the character that an escape names, behind its backslash. -/
def escaped (cs : List Char) : Front (List Char) :=
  match cs with
  | [] => ⟨none, []⟩
  | 'u' :: cs =>
    let code := hexCode cs
    match code.found with
    | none => ⟨none, code.rest⟩
    | some n =>
      if isLowHalf n then ⟨none, code.rest⟩
      else if isHighHalf n then secondHalf n code.rest
      else ⟨some (bytesOf (Char.ofNat n)), code.rest⟩
  | c :: cs => ⟨(escaped? c).map ([·]), cs⟩

theorem length_rest_hexCode_le (cs : List Char) : (hexCode cs).rest.length ≤ cs.length := by
  unfold hexCode
  split <;> simp

theorem length_behindLoneHalf_le (cs : List Char) : (behindLoneHalf cs).length ≤ cs.length := by
  fun_cases behindLoneHalf cs <;> simp only [List.length_cons, List.length_nil] <;> omega

theorem length_rest_secondHalf_le (high : Nat) (cs : List Char) :
    (secondHalf high cs).rest.length ≤ cs.length := by
  unfold secondHalf
  split
  · rename_i digits
    have := length_rest_hexCode_le digits
    simp only [bind, List.length_cons]
    omega
  · exact length_behindLoneHalf_le cs

theorem length_rest_escaped_le (cs : List Char) : (escaped cs).rest.length ≤ cs.length := by
  unfold escaped
  split
  · simp
  · rename_i digits
    have h := length_rest_hexCode_le digits
    have h' := fun n => length_rest_secondHalf_le n (hexCode digits).rest
    simp only [List.length_cons]
    split
    · dsimp; omega
    · split
      · dsimp; omega
      · split
        · have := h' ‹Nat›
          omega
        · dsimp; omega
  · simp

/-- A string behind its first quote; the bytes that have been read of it stand in reverse. -/
def text (read : List Char) : List Char → Front String
  | [] => ⟨none, []⟩
  | '"' :: cs => ⟨textOf? read.reverse, cs⟩
  | '\\' :: cs =>
    have := length_rest_escaped_le cs
    match (escaped cs).found with
    | some bytes => text (bytes.reverse ++ read) (escaped cs).rest
    | none => ⟨none, (escaped cs).rest⟩
  | c :: cs => if c.toNat < 0x20 then ⟨none, cs⟩ else text (c :: read) cs
termination_by cs => cs.length

/-! ## Numbers and words -/

/-- What is left behind the digit with which a number leaves 32 bits with a sign. -/
def behindOverflow? (n : Nat) : List Char → Option (List Char)
  | [] => none
  | c :: cs =>
    if c.isDigit then
      let n := n * 10 + (c.toNat - '0'.toNat)
      if 0x7FFFFFFF < n then some cs else behindOverflow? n cs
    else none

/-- What is left behind a power of ten, and whether reading stops there. -/
def power (isZero : Bool) (cs : List Char) : Front Unit :=
  match cs with
  | [] => ⟨some (), []⟩
  | c :: digits =>
    if c == 'e' || c == 'E' then
      let (negative, digits) : Bool × List Char := match digits with
        | '-' :: digits => (true, digits)
        | '+' :: digits => (false, digits)
        | digits => (false, digits)
      match digits with
      | [] => ⟨none, []⟩
      | d :: others =>
        if !d.isDigit then ⟨none, others⟩
        else
          match if negative || isZero then none else behindOverflow? 0 digits with
          | some rest => ⟨none, rest⟩
          | none => ⟨some (), digits.dropWhile Char.isDigit⟩
    else ⟨some (), cs⟩

/-- What is left behind the digits of a number, and whether reading stops there. -/
def afterSign (cs : List Char) : Front Unit :=
  match cs with
  | [] => ⟨none, []⟩
  | c :: others =>
    if !c.isDigit then ⟨none, others⟩
    else if c == '0' && others.head?.any Char.isDigit then ⟨none, others⟩
    else
      let isZero (digits : List Char) : Bool := digits.all (· == '0')
      let whole := cs.takeWhile Char.isDigit
      match cs.dropWhile Char.isDigit with
      | '.' :: cs =>
        let fraction := cs.takeWhile Char.isDigit
        if fraction.isEmpty then ⟨none, cs⟩
        else power (isZero whole && isZero fraction) (cs.dropWhile Char.isDigit)
      | rest => power (isZero whole) rest

/-- A number. -/
def number (cs : List Char) : Front Json :=
  let behind := afterSign (match cs with | '-' :: cs => cs | cs => cs)
  -- characters of numbers that belong to this one
  let own := cs.takeWhile isNumberChar
  let others := behind.rest.takeWhile isNumberChar
  behind.bind fun _ =>
    (Numeral.ofChars? (own.take (own.length - others.length))).bind Numeral.value?

/-- The rest of a word of which these letters are to come. -/
def word (v : Json) : List Char → List Char → Front Json
  | [], cs => ⟨some v, cs⟩
  | _ :: _, [] => ⟨none, []⟩
  | expected :: more, c :: cs => if c == expected then word v more cs else ⟨none, cs⟩

/-- A value that holds no other. Nothing is taken from a text that starts with none. -/
def scalar (cs : List Char) : Front Json :=
  match cs with
  | '"' :: cs => (text [] cs).bind fun s => some (.str s)
  | 'n' :: cs => word .null ['u', 'l', 'l'] cs
  | 't' :: cs => word (.bool true) ['r', 'u', 'e'] cs
  | 'f' :: cs => word (.bool false) ['a', 'l', 's', 'e'] cs
  | c :: _ => if c.isDigit || c == '-' then number cs else ⟨none, cs⟩
  | [] => ⟨none, []⟩

/-! ## Arrays and objects -/

/-- What is left behind an array of which some part could not be read. -/
def closeArray (cs : List Char) : List Char :=
  match skipSpace cs with
  | ']' :: cs => cs
  | ',' :: cs => skipSpace cs
  | cs => cs

/-- What is left behind an object of which some part could not be read. -/
def closeObject (cs : List Char) : List Char :=
  match skipSpace cs with
  | '}' :: cs => cs
  | cs => cs

/-- What is in front of an item or a field: a comma, unless it is the first one. -/
def separator (isFirst : Bool) (cs : List Char) : Front Unit :=
  match skipSpace cs with
  | ',' :: cs => if isFirst then ⟨some (), ',' :: cs⟩ else ⟨some (), skipSpace cs⟩
  | cs => ⟨if isFirst then some () else none, cs⟩

/-- The name of a field, and the colon behind it. -/
def fieldName (cs : List Char) : Front String :=
  match cs with
  | '"' :: cs =>
    let name := text [] cs
    match name.found with
    | none => name
    | some _ =>
      match skipSpace name.rest with
      | ':' :: cs => ⟨name.found, cs⟩
      | cs => ⟨none, cs⟩
  | cs => ⟨none, cs⟩

mutual

/-- A value with at most so many arrays and objects in each other; `fuel` is more than twice the
length of the text. -/
def value (fuel depth : Nat) (cs : List Char) : Front Json :=
  match fuel with
  | 0 => ⟨none, cs⟩
  | fuel + 1 =>
    match depth, skipSpace cs with
    | depth + 1, '[' :: cs => items fuel depth [] cs
    | depth + 1, '{' :: cs => fields fuel depth [] cs
    | _, cs => scalar cs

/-- The items of an array that are to come. -/
def items (fuel depth : Nat) (before : List Json) (cs : List Char) : Front Json :=
  match fuel with
  | 0 => ⟨none, cs⟩
  | fuel + 1 =>
    match skipSpace cs with
    | ']' :: cs => ⟨some (.arr before.reverse), cs⟩
    | cs =>
      let start := separator before.isEmpty cs
      match start.found, start.rest with
      | none, rest | some _, rest@(']' :: _) => ⟨none, closeArray rest⟩
      | some _, rest =>
        let item := value fuel depth rest
        match item.found with
        | some v => items fuel depth (v :: before) item.rest
        | none => ⟨none, closeArray item.rest⟩

/-- The fields of an object that are to come. -/
def fields (fuel depth : Nat) (before : List (String × Json)) (cs : List Char) :
    Front Json :=
  match fuel with
  | 0 => ⟨none, cs⟩
  | fuel + 1 =>
    match skipSpace cs with
    | '}' :: cs => ⟨some (.obj before.reverse), cs⟩
    | cs =>
      let start := separator before.isEmpty cs
      let name := fieldName start.rest
      match start.found, name.found with
      | none, _ => ⟨none, closeObject start.rest⟩
      | _, none => ⟨none, closeObject name.rest⟩
      | some _, some n =>
        let field := value fuel depth name.rest
        match field.found with
        | some v => fields fuel depth ((n, v) :: before) field.rest
        | none => ⟨none, closeObject field.rest⟩

end

/-! ## Passing over values -/

/-- What is left behind a string, whatever its escapes name. -/
def skipText : List Char → Option (List Char)
  | [] => none
  | '"' :: cs => some cs
  | '\\' :: 'u' :: cs =>
    if (Text.hexNumber? (cs.take 4)).isSome && 4 ≤ (cs.take 4).length then skipText cs else none
  | '\\' :: c :: cs => if (escaped? c).isSome then skipText cs else none
  | c :: cs => if c.toNat < 0x20 || c == '\\' then none else skipText cs

/-- What is left behind a value that holds no other. -/
def skipScalar (cs : List Char) : Option (List Char) :=
  match cs with
  | '"' :: cs => skipText cs
  | c :: _ =>
    if c.isDigit || c == '-' then
      (Numeral.ofChars? (cs.takeWhile isNumberChar)).map fun _ => cs.dropWhile isNumberChar
    else
      (wordValue? (String.ofList (cs.takeWhile Char.isAlpha))).map fun _ =>
        cs.dropWhile Char.isAlpha
  | [] => none

/-- What is left behind the name of a field and its colon. -/
def skipName (cs : List Char) : Option (List Char) :=
  match skipSpace cs with
  | '"' :: cs =>
    (skipText cs).bind fun cs =>
      match skipSpace cs with
      | ':' :: cs => some cs
      | _ => none
  | _ => none

/-- What may come next while a value is passed over. -/
inductive Passing
  | value
  /-- Behind an opening bracket. -/
  | first
  /-- Behind a value. -/
  | next

/-- What is left behind a value, of which parts may be garbled. `isOpen` says of each array and
object that is open, innermost first, whether it is an object; `fuel` is more than three times
the length of the text. -/
def skip (fuel : Nat) (isOpen : List Bool) (state : Passing) (cs : List Char) :
    Option (List Char) :=
  match fuel with
  | 0 => none
  | fuel + 1 =>
    let part (isObject : Bool) (cs : List Char) : Option (List Char) :=
      (if isObject then skipName cs else some cs).bind (skip fuel isOpen .value)
    match state, skipSpace cs, isOpen with
    | .value, '[' :: cs, _ => skip fuel (false :: isOpen) .first cs
    | .value, '{' :: cs, _ => skip fuel (true :: isOpen) .first cs
    | .value, cs, _ => (skipScalar cs).bind (skip fuel isOpen .next)
    | _, ']' :: cs, false :: outer => skip fuel outer .next cs
    | _, '}' :: cs, true :: outer => skip fuel outer .next cs
    | .next, ',' :: cs, isObject :: _ => part isObject cs
    | .first, cs, isObject :: _ => part isObject cs
    | .next, cs, [] => some cs
    | _, _, _ => none

end Front

end JobControl.Json
