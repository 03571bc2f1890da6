/-!
# Blank text

White space as the Unicode standard lists it (`White_Space`), which is what "blank" means for
every name, role and path: a no-break space or an ideographic space is blank, a zero-width
space is not.
-/

namespace JobControl.Text

/-- The characters with the `White_Space` property. -/
def isBlank (c : Char) : Bool :=
  let n := c.toNat
  (9 ≤ n && n ≤ 13) || n == 0x20 || n == 0x85 || n == 0xA0 || n == 0x1680
    || (0x2000 ≤ n && n ≤ 0x200A) || n == 0x2028 || n == 0x2029 || n == 0x202F
    || n == 0x205F || n == 0x3000

/-- A text with nothing but blanks in it; the empty text is blank. -/
def blank (s : String) : Bool :=
  s.toList.all isBlank

/-- The text between its first and its last character that is not blank. -/
def trim (s : String) : String :=
  String.ofList (((s.toList.dropWhile isBlank).reverse.dropWhile isBlank).reverse)

/-- The longest runs of characters that are not blank, in order. -/
def words (cs : List Char) : List (List Char) :=
  (cs.foldr (fun c runs =>
    if isBlank c then [] :: runs
    else match runs with
      | [] => [[c]]
      | run :: later => (c :: run) :: later) [[]]).filter (!·.isEmpty)

end JobControl.Text
