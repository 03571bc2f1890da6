import JobControl.Text.Hex
import JobControl.Text.Unprintable

/-!
# Quoted names

A name inside a message stands between double quotes, with a backslash in front of what would
end or hide it, so that a reader of the message sees each character of the name. An apostrophe
stays as it is.
-/

namespace JobControl.Text

/-- One character of a quoted name. -/
def quotedChar (c : Char) : List Char :=
  match c with
  | '\"' => ['\\', '\"']
  | '\\' => ['\\', '\\']
  | '\n' => ['\\', 'n']
  | '\r' => ['\\', 'r']
  | '\t' => ['\\', 't']
  | '\x00' => ['\\', '0']
  | c =>
    if isUnprintable c then ['\\', 'u', '{'] ++ hexDigits c.toNat ++ ['}'] else [c]

def quoted (s : String) : String :=
  String.ofList (['"'] ++ s.toList.flatMap quotedChar ++ ['"'])

end JobControl.Text
