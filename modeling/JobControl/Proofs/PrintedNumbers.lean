import JobControl.Json.Printer
import JobControl.Json.Token

/-!
# Written numbers

A whole number is written as its decimal digits behind a sign, and these
digits are read back to the number. A double is written in one of two
forms, whose digits come out of a search for the shortest decimal. What is
read from them depends on how the reader rounds, and nothing is said about
it here; but whatever the search finds, the form is made of the characters
of numbers only and starts with a digit, so that it is read as one number
and not as several tokens.
-/

namespace JobControl

namespace Decimal

variable {d : Digits} {c : Char}

theorem natOf_toDigits (n : Nat) : natOf (Nat.toDigits 10 n) = n :=
  Nat.ofDigitChars_ten_toDigits

theorem isDigit_of_mem_ofCoefficient {n : Nat} {scale : Int}
    (h : c ∈ (Digits.ofCoefficient n scale).digits) : c.isDigit = true := by
  rw [Digits.ofCoefficient, List.mem_reverse] at h
  have hmem := List.mem_reverse.mp ((List.dropWhile_sublist _).subset h)
  exact Nat.isDigit_of_mem_toDigits (by decide) (by decide) hmem

theorem ofCoefficient_of_nearestWithDigits {tie : Tie} {num low high den : Nat} {closed : Bool}
    {point : Int} {n : Nat} (h : nearestWithDigits tie num low high den closed point n = some d) :
    ∃ coefficient scale, d = Digits.ofCoefficient coefficient scale := by
  simp only [nearestWithDigits] at h
  split at h
  · split at h <;> exact ⟨_, _, (Option.some.inj h).symm⟩
  · exact ⟨_, _, (Option.some.inj h).symm⟩
  · exact ⟨_, _, (Option.some.inj h).symm⟩
  · cases h

theorem isDigit_of_mem_shortest {tie : Tie} {x : Float}
    (h : c ∈ (Digits.shortest tie x).digits) : c.isDigit = true := by
  have hof : ∃ n scale, Digits.shortest tie x = Digits.ofCoefficient n scale := by
    simp only [Digits.shortest]
    split
    · rename_i hfound
      obtain ⟨i, -, hi⟩ := List.exists_of_findSome?_eq_some hfound
      exact ofCoefficient_of_nearestWithDigits hi
    · exact ⟨_, _, rfl⟩
  obtain ⟨n, scale, heq⟩ := hof
  rw [heq] at h
  exact isDigit_of_mem_ofCoefficient h

end Decimal

namespace Json

open Decimal

/-! ## Whole numbers -/

/-- The value of a number that is written with some characters. -/
def numberValue? (cs : List Char) : Option Json :=
  (Numeral.ofChars? cs).map fun n => n.value?.getD .garbled

/-- A number behind its sign. -/
def signed (negative : Bool) (cs : List Char) : List Char :=
  if negative then '-' :: cs else cs

theorem isDigit_of_mem_toDigits {n : Nat} {c : Char} (h : c ∈ Nat.toDigits 10 n) :
    c.isDigit = true :=
  Nat.isDigit_of_mem_toDigits (by decide) (by decide) h

theorem head?_toDigits {n : Nat} (h : 0 < n) : (Nat.toDigits 10 n).head? ≠ some '0' := by
  induction n using Nat.base_induction 10 (by decide) with
  | single d hd =>
      rw [Nat.toDigits_of_lt_base hd]
      revert h hd
      revert d
      decide
  | digit k d hd hk ih =>
      rw [← Nat.toDigits_append_toDigits (by decide) hk hd, List.head?_append,
        List.head?_eq_some_head Nat.toDigits_ne_nil, Option.some_or,
        ← List.head?_eq_some_head Nat.toDigits_ne_nil]
      exact ih hk

/-- The digits of a number are its whole part: they have no leading zero. -/
theorem ofChars?_signed_toDigits {negative : Bool} {n : Nat} :
    Numeral.ofChars? (signed negative (Nat.toDigits 10 n))
      = some ⟨negative, Nat.toDigits 10 n, [], none⟩ := by
  have hdigits : ∀ c ∈ Nat.toDigits 10 n, c.isDigit = true := fun _ => isDigit_of_mem_toDigits
  have htake : (Nat.toDigits 10 n ++ []).takeWhile Char.isDigit = Nat.toDigits 10 n ++ [] :=
    List.takeWhile_append_of_pos hdigits
  have hdrop : (Nat.toDigits 10 n ++ []).dropWhile Char.isDigit = [] :=
    List.dropWhile_append_of_pos hdigits
  rw [List.append_nil] at htake hdrop
  have hzero : ((Nat.toDigits 10 n).isEmpty || (decide ((Nat.toDigits 10 n).length > 1) &&
      (Nat.toDigits 10 n).head? == some '0')) = false := by
    rcases Nat.eq_zero_or_pos n with rfl | hpos
    · rfl
    · simp [head?_toDigits hpos, Nat.toDigits_ne_nil]
  cases negative with
  | true =>
      simp only [signed, if_true, Numeral.ofChars?, htake, hdrop, hzero]
      rfl
  | false =>
      rw [signed, if_neg Bool.false_ne_true, Numeral.ofChars?]
      · simp only [htake, hdrop, hzero]
        rfl
      · intro cs h
        exact absurd (hdigits '-' (by simp [h])) (by decide)

theorem toList_toString {n : Int} :
    (toString n).toList = signed (decide (n < 0)) (Nat.toDigits 10 n.natAbs) := by
  cases n with
  | ofNat n => exact Nat.toList_repr
  | negSucc n =>
      have hrepr : toString (Int.negSucc n) = "-" ++ (n + 1).repr := rfl
      have hneg : Int.negSucc n < 0 := by omega
      rw [hrepr, String.toList_append, Nat.toList_repr, signed, decide_eq_true hneg]
      rfl

/-- A whole number of 64 bits is read back, whether its bits are signed or not. -/
theorem numberValue?_toString {n : Int} (hlow : -0x8000000000000000 ≤ n)
    (hhigh : n < 0x10000000000000000) :
    numberValue? (toString n).toList = some (.int n) := by
  rw [toList_toString, numberValue?, ofChars?_signed_toDigits, Option.map_some]
  simp only [Numeral.value?, natOf_toDigits, List.isEmpty_nil, Option.isNone_none,
    Bool.and_self, if_true]
  rcases Int.lt_or_le n 0 with hneg | hpos
  · have hbound : 0 < n.natAbs ∧ n.natAbs ≤ 0x8000000000000000 := by omega
    have hvalue : -(n.natAbs : Int) = n := by omega
    rw [if_pos (by simp [hneg, hbound]), hvalue]
    rfl
  · have hbound : n.natAbs < 0x10000000000000000 := by omega
    have hvalue : (n.natAbs : Int) = n := by omega
    rw [if_neg (by simp [Int.not_lt.mpr hpos]), if_pos (by simp [Int.not_lt.mpr hpos, hbound]),
      hvalue]
    rfl

/-! ## Doubles -/

/-- Characters that are read as one number, but for the sign in front. -/
structure IsNumeral (cs : List Char) : Prop where
  first : ∃ c, cs.head? = some c ∧ c.isDigit = true
  chars : ∀ c ∈ cs, isNumberChar c = true

theorem isNumberChar_of_isDigit {c : Char} (h : c.isDigit = true) : isNumberChar c = true := by
  simp [isNumberChar, h]

theorem isNumberChar_of_mem_zeros (n : Nat) :
    ∀ c ∈ List.replicate n '0', isNumberChar c = true :=
  fun _ h => List.eq_of_mem_replicate h ▸ rfl

theorem isNumeral_toDigits (n : Nat) : IsNumeral (Nat.toDigits 10 n) where
  first := ⟨_, List.head?_eq_some_head Nat.toDigits_ne_nil,
    isDigit_of_mem_toDigits (List.head_mem _)⟩
  chars _ h := isNumberChar_of_isDigit (isDigit_of_mem_toDigits h)

section

variable {d : Digits} (hd : ∀ c ∈ d.digits, c.isDigit = true)
include hd

theorem isNumeral_positional : IsNumeral (positional d ['.', '0']) where
  first := by
    simp only [positional]
    split
    · exact ⟨'0', rfl, rfl⟩
    · rename_i hpoint
      obtain ⟨n, hn⟩ : ∃ n : Nat, d.point = n + 1 := ⟨d.point.toNat - 1, by omega⟩
      cases hdigits : d.digits with
      | nil =>
          rw [if_pos (by simp only [List.length_nil]; omega), hn]
          exact ⟨'0', rfl, rfl⟩
      | cons c cs =>
          refine ⟨c, ?_, hd c (by simp [hdigits])⟩
          split
          · rfl
          · rw [hn]
            rfl
  chars := by
    have hdigit : ∀ c ∈ d.digits, isNumberChar c = true := fun c hc =>
      isNumberChar_of_isDigit (hd c hc)
    have hpoint : isNumberChar '.' = true := rfl
    have hzero : isNumberChar '0' = true := rfl
    simp only [positional]
    split
    · simp only [List.forall_mem_append, List.forall_mem_cons]
      exact ⟨⟨⟨hzero, hpoint, nofun⟩, isNumberChar_of_mem_zeros _⟩, hdigit⟩
    · split
      · simp only [List.forall_mem_append, List.forall_mem_cons]
        exact ⟨⟨hdigit, isNumberChar_of_mem_zeros _⟩, hpoint, hzero, nofun⟩
      · simp only [List.forall_mem_append, List.forall_mem_cons]
        exact ⟨⟨fun c h => hdigit c (List.mem_of_mem_take h), hpoint, nofun⟩,
          fun c h => hdigit c (List.mem_of_mem_drop h)⟩

theorem isNumeral_scientific : IsNumeral (scientific d) := by
  have hpower : ∀ n, ∀ c ∈ powerText n, isNumberChar c = true := by
    intro n
    have hsign : isNumberChar (if n < 0 then '-' else '+') = true := by split <;> rfl
    simp only [powerText, List.forall_mem_append, List.forall_mem_cons]
    exact ⟨⟨⟨rfl, hsign, nofun⟩, isNumberChar_of_mem_zeros _⟩, (isNumeral_toDigits _).chars⟩
  have hdigit : ∀ c ∈ d.digits, isNumberChar c = true := fun c hc =>
    isNumberChar_of_isDigit (hd c hc)
  simp only [scientific]
  split
  · exact ⟨⟨'0', rfl, rfl⟩, List.forall_mem_cons.mpr ⟨rfl, nofun⟩⟩
  · rename_i c hdigits
    refine ⟨⟨c, rfl, hd c (by simp [hdigits])⟩, ?_⟩
    exact List.forall_mem_cons.mpr ⟨hdigit c (by simp [hdigits]), hpower _⟩
  · rename_i c cs _ hdigits
    refine ⟨⟨c, rfl, hd c (by simp [hdigits])⟩, ?_⟩
    simp only [List.forall_mem_append, List.forall_mem_cons]
    exact ⟨⟨⟨hdigit c (by simp [hdigits]), rfl, nofun⟩,
      fun c' h => hdigit c' (by simp [hdigits, h])⟩, hpower _⟩

end

theorem exists_numeral_compact (x : Float) :
    ∃ cs, IsNumeral cs ∧ (Decimal.compact x).toList = signed (isNegative x) cs := by
  have hdigits : ∀ c ∈ (Digits.shortest .toEven x.abs).digits, c.isDigit = true :=
    fun _ => isDigit_of_mem_shortest
  have hsigned : ∀ cs, (if isNegative x then ['-'] else []) ++ cs = signed (isNegative x) cs := by
    intro cs
    cases isNegative x <;> rfl
  simp only [Decimal.compact, String.toList_ofList]
  refine ⟨_, ?_, hsigned _⟩
  split
  · refine ⟨⟨'0', rfl, rfl⟩, ?_⟩
    simp only [List.forall_mem_cons]
    exact ⟨rfl, rfl, rfl, nofun⟩
  · split
    · exact isNumeral_positional hdigits
    · exact isNumeral_scientific hdigits

end Json

end JobControl
