import JobControl.Proofs.Identifiers
import Mathlib.Algebra.Group.Nat.Defs

/-!
# Fresh tokens are fresh

A token is the number of its turn, with the marks of its kind, in
hexadecimal digits. The marks take six bits out of the number, so that the
first 2⁶² tokens are told apart; nobody will ever ask for more. Written
digits can be read back, so that different numbers have different digits;
and they are padded, so that all tokens have one length. Whatever relies
on the tokens being fresh holds therefore of every scheduler that is set
up in the usual way.
-/

namespace JobControl

namespace Text

/-! ## Digits -/

theorem hexValue?_digitChar : ∀ d < 16, hexValue? d.digitChar = some d := by decide

theorem hexNumber?_concat {digits : List Char} {c : Char} : hexNumber? (digits ++ [c]) =
    (hexNumber? digits).bind fun n => (hexValue? c).map (n * 16 + ·) := by
  simp [hexNumber?, List.foldlM_append]

theorem hexNumber?_hexDigits (n : Nat) : hexNumber? (hexDigits n) = some n := by
  induction n using Nat.strongRecOn with
  | ind n ih =>
      rw [hexDigits, Nat.toDigits_eq_if (by decide)]
      split
      · rename_i hsmall
        rw [← List.nil_append [_], hexNumber?_concat, hexValue?_digitChar n hsmall]
        simp [hexNumber?]
      · have hrest := ih (n / 16) (by omega)
        rw [hexDigits] at hrest
        rw [hexNumber?_concat, hrest, hexValue?_digitChar _ (Nat.mod_lt n (by decide))]
        simp only [Option.bind_some, Option.map_some, Option.some.injEq]
        omega

/-- Digits that were written are read back, leading zeros or not. -/
theorem hexNumber?_hexPadded {width n : Nat} : hexNumber? (hexPadded width n) = some n := by
  have hzeros : ∀ k, hexNumber? (List.replicate k '0') = some 0 := by
    intro k
    induction k with
    | zero => rfl
    | succ k ih => rw [List.replicate_succ', hexNumber?_concat, ih]; rfl
  have hfront := hzeros (width - (hexDigits n).length)
  have hback := hexNumber?_hexDigits n
  rw [hexNumber?] at hfront hback ⊢
  rw [hexPadded, List.foldlM_append, hfront]
  exact hback

theorem length_hexPadded {width n : Nat} (h : n < 16 ^ width) (hwidth : 0 < width) :
    (hexPadded width n).length = width := by
  have hle : (hexDigits n).length ≤ width :=
    (Nat.length_toDigits_le_iff (by decide) hwidth).mpr h
  simp only [hexPadded, List.length_append, List.length_replicate]
  omega

/-! ## Tokens -/

theorem markedNumber_of_lt {n : Nat} (h : n < 2 ^ 62) :
    markedNumber n = 0x40008000000000000000 + n := by
  simp only [markedNumber]
  omega

/-- The digits of a token in groups. -/
def grouped (digits : List Char) : List Char :=
  digits.take 8 ++ ['-'] ++ (digits.drop 8).take 4 ++ ['-'] ++ (digits.drop 12).take 4
    ++ ['-'] ++ (digits.drop 16).take 4 ++ ['-'] ++ digits.drop 20

/-- The digits without the marks between groups. -/
def ungrouped (text : List Char) : List Char :=
  text.take 8 ++ ((text.drop 9).take 4 ++ ((text.drop 14).take 4 ++ ((text.drop 19).take 4
    ++ text.drop 24)))

theorem toList_freshToken {n : Nat} :
    (freshToken n).toList = grouped (hexPadded 32 (markedNumber n)) := by
  rw [freshToken, String.toList_ofList]
  rfl

theorem length_grouped {digits : List Char} (h : digits.length = 32) :
    (grouped digits).length = 36 := by
  simp [grouped, h]

theorem ungrouped_grouped {digits : List Char} (h : digits.length = 32) :
    ungrouped (grouped digits) = digits := by
  have hgroup : ∀ k, (digits.drop k).take 4 ++ digits.drop (k + 4) = digits.drop k := by
    intro k
    rw [← List.drop_drop, List.take_append_drop]
  have hall : digits.take 8 ++ ((digits.drop 8).take 4 ++ ((digits.drop 12).take 4
      ++ ((digits.drop 16).take 4 ++ digits.drop 20))) = digits := by
    rw [hgroup 16, hgroup 12, hgroup 8, List.take_append_drop]
  simpa [ungrouped, grouped, List.drop_append, List.drop_take, h] using hall

theorem length_hexPadded_markedNumber {n : Nat} (h : n < 2 ^ 62) :
    (hexPadded 32 (markedNumber n)).length = 32 := by
  rw [markedNumber_of_lt h]
  exact length_hexPadded (by omega) (by decide)

theorem length_freshToken {n : Nat} (h : n < 2 ^ 62) : (freshToken n).length = 36 := by
  rw [← String.length_toList, toList_freshToken, length_grouped (length_hexPadded_markedNumber h)]

theorem freshToken_inj {n m : Nat} (hn : n < 2 ^ 62) (hm : m < 2 ^ 62)
    (h : freshToken n = freshToken m) : n = m := by
  have hdigits : hexPadded 32 (markedNumber n) = hexPadded 32 (markedNumber m) := by
    rw [← ungrouped_grouped (length_hexPadded_markedNumber hn),
      ← ungrouped_grouped (length_hexPadded_markedNumber hm), ← toList_freshToken,
      ← toList_freshToken, h]
  have hnumber := congrArg hexNumber? hdigits
  rw [hexNumber?_hexPadded, hexNumber?_hexPadded, markedNumber_of_lt hn,
    markedNumber_of_lt hm, Option.some.injEq] at hnumber
  omega

end Text

/-- **Tokens are fresh** in surroundings that hand out the usual ones. -/
theorem Environment.fresh_of_freshToken {env : Environment} {n : Nat}
    (htoken : env.token = Text.freshToken) (hn : n < 2 ^ 62) : env.Fresh n := by
  intro i j hij hj
  rw [htoken, Text.length_freshToken (by omega), Text.length_freshToken (by omega)]
  exact ⟨rfl, fun h => absurd (Text.freshToken_inj (by omega) (by omega) h) (by omega)⟩

end JobControl
