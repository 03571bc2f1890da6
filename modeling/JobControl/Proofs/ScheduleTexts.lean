import JobControl.Cron.Schedule
import Mathlib.Data.List.DropRight

/-!
# What a schedule text says

Of a schedule that a text writes, the search for a run needs the values of
its fields to be ascending and to be those of their units
(`Schedule.ordered_of_ofText?`).

A text of five words has no seconds: `0` is put in front of it, and the
text that this makes is one of six words that says the same
(`Schedule.ofText?_withSeconds`). The `0` is joined to the text and not
to a list of fields, though. A field ends where it cannot be read further,
so that the second `0` is the only one (`Schedule.seconds_eq_of_ofText?`)
unless the text begins with a mark that goes on with a field.
-/

namespace JobControl

/-! ## Blanks around a text -/

section Ends

variable {α : Type} {p : α → Bool} {items : List α}

theorem dropWhile_of_head? (h : ∀ a ∈ items.head?, p a = false) : items.dropWhile p = items := by
  cases items with
  | nil => rfl
  | cons a items => exact List.dropWhile_cons_of_neg (by simp [h a rfl])

theorem of_mem_head?_dropWhile {a : α} (h : a ∈ (items.dropWhile p).head?) : p a = false := by
  have hnot := items.head?_dropWhile_not p
  rwa [Option.mem_def.mp h] at hnot

theorem rdropWhile_of_getLast? (h : ∀ a ∈ items.getLast?, p a = false) :
    items.rdropWhile p = items := by
  rw [List.rdropWhile, dropWhile_of_head? (by rwa [List.head?_reverse]), List.reverse_reverse]

theorem of_mem_getLast?_rdropWhile {a : α} (h : a ∈ (items.rdropWhile p).getLast?) :
    p a = false := by
  rw [List.rdropWhile, List.getLast?_reverse] at h
  exact of_mem_head?_dropWhile h

end Ends

namespace Text

/-- No blank at either end. -/
structure Tight (cs : List Char) : Prop where
  head : ∀ c ∈ cs.head?, isBlank c = false
  last : ∀ c ∈ cs.getLast?, isBlank c = false

theorem toList_trim (s : String) :
    (trim s).toList = (s.toList.dropWhile isBlank).rdropWhile isBlank :=
  String.toList_ofList

theorem tight_trim (s : String) : Tight (trim s).toList where
  head c hc := by
    rw [toList_trim] at hc
    obtain ⟨rest, hrest⟩ := List.rdropWhile_prefix isBlank (s.toList.dropWhile isBlank)
    have hfirst : c ∈ (s.toList.dropWhile isBlank).head? := by
      rw [← hrest, List.head?_append, Option.mem_def.mp hc]
      rfl
    exact of_mem_head?_dropWhile hfirst
  last c hc := by
    rw [toList_trim] at hc
    exact of_mem_getLast?_rdropWhile hc

theorem trim_eq_self {s : String} (h : Tight s.toList) : trim s = s := by
  rw [← String.toList_inj, toList_trim, dropWhile_of_head? h.head, rdropWhile_of_getLast? h.last]

end Text

namespace Cron

/-! ## The values of a field -/

/-- Values of a unit of time, ascending. -/
structure TimeUnit.Selects (u : TimeUnit) (values : List Nat) : Prop where
  ascending : values.Pairwise (· < ·)
  within : ∀ n ∈ values, u.least ≤ n ∧ n ≤ u.greatest

theorem TimeUnit.selects_values (u : TimeUnit) : u.Selects u.values where
  ascending := List.pairwise_lt_range' 1
  within n hn := by
    obtain ⟨i, hi, rfl⟩ := List.mem_range'.mp hn
    cases u <;> simp only [least, greatest] at hi ⊢ <;> omega

theorem TimeUnit.Selects.filter {u : TimeUnit} {values : List Nat} {p : Nat → Bool}
    (h : u.Selects values) : u.Selects (values.filter p) where
  ascending := h.ascending.filter p
  within n hn := h.within n (List.mem_filter.mp hn).1

theorem selects_of_field? {u : TimeUnit} {cs rest : List Char} {values : List Nat}
    (h : field? u cs = some (values, rest)) : u.Selects values := by
  simp only [field?, TimeUnit.select?, Option.bind_eq_bind, Option.bind_eq_some_iff,
    Option.map_eq_some_iff, Prod.exists] at h
  obtain ⟨items, cs', -, selected, ⟨spans, -, rfl⟩, hvalues⟩ := h
  cases hvalues
  exact u.selects_values.filter

/-- The values of all fields are ascending and those of their units. -/
structure Schedule.Ordered (s : Schedule) : Prop where
  seconds : TimeUnit.second.Selects s.seconds
  minutes : TimeUnit.minute.Selects s.minutes
  hours : TimeUnit.hour.Selects s.hours
  years : TimeUnit.year.Selects s.years

theorem Schedule.of_ofFields? {cs : List Char} {s : Schedule}
    (h : Schedule.ofFields? cs = some s) :
    s.Ordered ∧ ∃ rest, field? .second cs = some (s.seconds, rest) := by
  simp only [ofFields?, Option.bind_eq_bind, Option.bind_eq_some_iff, Prod.exists] at h
  obtain ⟨seconds, cs₁, hseconds, minutes, cs₂, hminutes, hours, cs₃, hhours, days, cs₄, -, months,
    cs₅, -, weekdays, cs₆, -, h⟩ := h
  split at h
  · cases h
    refine ⟨⟨selects_of_field? hseconds, selects_of_field? hminutes, selects_of_field? hhours, ?_⟩,
      cs₁, hseconds⟩
    cases hyears : field? .year cs₆ with
    | none => exact TimeUnit.year.selects_values
    | some years => exact selects_of_field? hyears
  · cases h

theorem Schedule.ordered_of_ofText? {text : String} {s : Schedule}
    (h : Schedule.ofText? text = some s) : s.Ordered :=
  (of_ofFields? h).1

/-! ## Seconds in front -/

theorem skipBlanks_of_head? {cs : List Char} (h : ∀ c ∈ cs.head?, isBlank c = false) :
    skipBlanks cs = cs :=
  dropWhile_of_head? h

theorem mark?_of_head? {mark : Char} {cs : List Char} (h : cs.head? ≠ some mark) :
    mark? mark cs = none := by
  cases cs with
  | nil => rfl
  | cons c cs => exact if_neg (by simpa using h)

theorem number?_zero {cs : List Char} (h : ∀ c ∈ cs.head?, isBlank c = false) :
    number? ('0' :: ' ' :: cs) = some (0, cs) := by
  have hrest : skipBlanks (' ' :: cs) = cs := skipBlanks_of_head? h
  exact congrArg (fun rest => some (0, rest)) hrest

/-- Seconds that are written in front of a text are the only ones, unless the
text goes on where the field ends. -/
theorem field?_zero {cs : List Char} (hblank : ∀ c ∈ cs.head?, isBlank c = false)
    (hlist : cs.head? ≠ some ',') (hrange : cs.head? ≠ some '-') (hstep : cs.head? ≠ some '/') :
    field? .second ('0' :: ' ' :: cs) = some ([0], cs) := by
  have hnumber := number?_zero hblank
  have hselector : selector? false ('0' :: ' ' :: cs) = some (.point 0, cs) := by
    have hno : range? ('0' :: ' ' :: cs) = none := by
      rw [range?, hnumber]
      simp [mark?_of_head? hrange]
    simp [selector?, hno, hnumber, mark?]
  have hitem : item? false ('0' :: ' ' :: cs) = some (.selector (.point 0), cs) := by
    have hno : stepped? false ('0' :: ' ' :: cs) = none := by
      rw [stepped?, hselector]
      simp [mark?_of_head? hstep]
    simp [item?, hno, hselector]
  have hmore : moreItems false cs.length cs = ([], cs) := by
    cases cs.length with
    | zero => rfl
    | succ n => simp [moreItems, mark?_of_head? hlist]
  have hitems : items? false ('0' :: ' ' :: cs) = some ([.selector (.point 0)], cs) := by
    have hskip : skipBlanks ('0' :: ' ' :: cs) = '0' :: ' ' :: cs := rfl
    simp [items?, hskip, hitem, hmore, skipBlanks_of_head? hblank]
  have hany : TimeUnit.second.allowsAny = false := rfl
  have hselect : TimeUnit.second.select? [.selector (.point 0)] = some [0] := by decide
  rw [field?, hany, hitems]
  simp [hselect]

theorem isBlank_of_text {c : Char} (h : Text.isBlank c = false) : isBlank c = false := by
  cases hblank : isBlank c with
  | false => rfl
  | true =>
      simp only [isBlank, Bool.or_eq_true, beq_iff_eq] at hblank
      obtain ((rfl | rfl) | rfl) | rfl := hblank <;> cases h

/-- A text of five words, without seconds. -/
def FiveWords (text : String) : Prop :=
  (Text.words (Text.trim text).toList).length = 5

/-- The text without the blanks around it and with the seconds 0. -/
def withSeconds (text : String) : String :=
  "0 " ++ Text.trim text

theorem toList_withSeconds (text : String) :
    (withSeconds text).toList = '0' :: ' ' :: (Text.trim text).toList :=
  String.toList_append

section FiveWords

variable {text : String}

theorem fullText_of_fiveWords (h : FiveWords text) : fullText text = withSeconds text := by
  rw [fullText, if_pos (beq_iff_eq.mpr h), withSeconds]

theorem words_withSeconds (text : String) : Text.words (withSeconds text).toList
    = ['0'] :: Text.words (Text.trim text).toList := by
  rw [toList_withSeconds]
  rfl

theorem tight_withSeconds (h : FiveWords text) : Text.Tight (withSeconds text).toList := by
  have hlast := (Text.tight_trim text).last
  rw [FiveWords] at h
  rw [toList_withSeconds]
  cases htrim : (Text.trim text).toList with
  | nil => simp [htrim, Text.words] at h
  | cons c cs =>
      refine ⟨fun d hd => ?_, fun d hd => hlast d ?_⟩
      · cases hd
        rfl
      · rwa [htrim]

/-- The text with its seconds is one of six words and is left as it is. -/
theorem fullText_withSeconds (h : FiveWords text) :
    fullText (withSeconds text) = withSeconds text := by
  have htrim := Text.trim_eq_self (tight_withSeconds h)
  have hsix : (Text.words (withSeconds text).toList).length ≠ 5 := by
    rw [words_withSeconds, List.length_cons, h]
    decide
  rw [fullText, htrim, if_neg (by simpa using hsix)]

/-- **A text of five words says what it says with the seconds 0.** -/
theorem Schedule.ofText?_withSeconds (h : FiveWords text) :
    Schedule.ofText? (withSeconds text) = Schedule.ofText? text := by
  rw [ofText?, ofText?, fullText_withSeconds h, fullText_of_fiveWords h]

theorem lookup_shorthands {full : String} (h : full.toList.head? ≠ some '@') :
    shorthands.lookup full = none := by
  have hnames : ∀ named ∈ shorthands, named.1.toList.head? = some '@' := by decide
  refine List.lookup_eq_none_iff.mpr fun named hnamed => ?_
  rw [bne_iff_ne]
  rintro rfl
  exact h (hnames named hnamed)

/-- The marks with which a field goes on behind a number. -/
def goesOn : List Char := [',', '-', '/']

/-- **A text of five words means the full minute**, unless it goes on with
the field that is put in front of it. -/
theorem Schedule.seconds_eq_of_ofText? {s : Schedule} (hfive : FiveWords text)
    (hhead : ∀ c ∈ (Text.trim text).toList.head?, c ∉ goesOn) (h : ofText? text = some s) :
    s.seconds = [0] := by
  have hfull : (withSeconds text).toList.head? ≠ some '@' := by
    simp [toList_withSeconds]
  have hno (mark : Char) (hmark : mark ∈ goesOn) :
      (Text.trim text).toList.head? ≠ some mark :=
    fun heq => hhead mark heq hmark
  have hblank (c : Char) (hc : c ∈ (Text.trim text).toList.head?) : isBlank c = false :=
    isBlank_of_text ((Text.tight_trim text).head c hc)
  rw [ofText?, fullText_of_fiveWords hfive, lookup_shorthands hfull, Option.getD_none,
    toList_withSeconds] at h
  obtain ⟨-, rest, hseconds⟩ := of_ofFields? h
  rw [field?_zero hblank (hno _ (by decide)) (hno _ (by decide)) (hno _ (by decide))] at hseconds
  exact (congrArg Prod.fst (Option.some.inj hseconds)).symm

end FiveWords

end Cron

end JobControl
