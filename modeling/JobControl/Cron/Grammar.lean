import JobControl.Cron.Field
import JobControl.Decimal.Scaled

/-!
# The grammar of a field

A field is a list of items between commas: `*`, a number, a range of numbers or of names, each
with an optional step, or a single name; in the fields for days `?` is another way to write `*`.
Blanks may stand around a number, around a name and around a field. Of several ways to go on,
the first one that succeeds is taken, and a list ends where no further item can be read.

Every reader takes the text and gives what it has read together with the rest.
-/

namespace JobControl.Cron

/-- The blanks inside of a schedule. -/
def isBlank (c : Char) : Bool :=
  c == ' ' || c == '\t' || c == '\n' || c == '\r'

def skipBlanks (cs : List Char) : List Char :=
  cs.dropWhile isBlank

/-- A number of at most 32 bits with the blanks around it. -/
def number? (cs : List Char) : Option (Nat × List Char) :=
  let cs := skipBlanks cs
  let digits := cs.takeWhile Char.isDigit
  let n := Decimal.natOf digits
  if digits.isEmpty || 0x100000000 ≤ n then none
  else some (n, skipBlanks (cs.dropWhile Char.isDigit))

/-- A run of letters with the blanks around it. -/
def word? (cs : List Char) : Option (String × List Char) :=
  let cs := skipBlanks cs
  let letters := cs.takeWhile Char.isAlpha
  if letters.isEmpty then none
  else some (String.ofList letters, skipBlanks (cs.dropWhile Char.isAlpha))

/-- A single character. -/
def mark? (c : Char) : List Char → Option (List Char)
  | d :: cs => if d == c then some cs else none
  | [] => none

def range? (cs : List Char) : Option (Selector × List Char) := do
  let (first, cs) ← number? cs
  let cs ← mark? '-' cs
  let (last, cs) ← number? cs
  return (.range first last, cs)

def namedRange? (cs : List Char) : Option (Selector × List Char) := do
  let (first, cs) ← word? cs
  let cs ← mark? '-' cs
  let (last, cs) ← word? cs
  return (.namedRange first last, cs)

/-- What an item selects; `any` says whether `?` may be written. -/
def selector? (any : Bool) (cs : List Char) : Option (Selector × List Char) :=
  (if any then (mark? '?' cs).map fun cs => (.all, cs) else none)
    <|> ((mark? '*' cs).map fun cs => (.all, cs))
    <|> range? cs
    <|> ((number? cs).map fun (n, cs) => (.point n, cs))
    <|> namedRange? cs

def stepped? (any : Bool) (cs : List Char) : Option (Item × List Char) := do
  let (s, cs) ← selector? any cs
  let cs ← mark? '/' cs
  let (step, cs) ← number? cs
  return (.stepped s step, cs)

def item? (any : Bool) (cs : List Char) : Option (Item × List Char) :=
  stepped? any cs
    <|> ((selector? any cs).map fun (s, cs) => (.selector s, cs))
    <|> ((word? cs).map fun (s, cs) => (.name s, cs))

/-- The items behind the first one, as long as there is a comma with an item behind it; `fuel` is
at least the number of commas. -/
def moreItems (any : Bool) : Nat → List Char → List Item × List Char
  | 0, cs => ([], cs)
  | fuel + 1, cs =>
    match (mark? ',' cs).bind (item? any) with
    | some (item, rest) =>
      let (items, final) := moreItems any fuel rest
      (item :: items, final)
    | none => ([], cs)

/-- The items of a field with the blanks around them. -/
def items? (any : Bool) (cs : List Char) : Option (List Item × List Char) :=
  (item? any (skipBlanks cs)).map fun (item, cs) =>
    let (items, cs) := moreItems any cs.length cs
    (item :: items, skipBlanks cs)

/-- The values of a field of a unit. -/
def field? (u : TimeUnit) (cs : List Char) : Option (List Nat × List Char) := do
  let (items, cs) ← items? u.allowsAny cs
  let selected ← u.select? items
  return (selected, cs)

end JobControl.Cron
