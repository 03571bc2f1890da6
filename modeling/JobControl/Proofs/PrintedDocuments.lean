import JobControl.Json.Reader
import JobControl.Proofs.FreshTokens
import JobControl.Proofs.PrintedNumbers

/-!
# Written documents

A document that was written, in either layout, is read back. The reader
works in two steps, each of which is a machine that looks at one thing at a
time, and so does the proof: the characters of a value leave the first
machine with the tokens of that value, whatever stands in front of it, and
these tokens leave the second one with the value.

Three things have to be seen to. A number or a word ends where something
follows that is no part of it, so that a value has to be delimited; it is,
wherever the writer puts it. A reader gives up on what stands too deep, so
that room has to be left. And a reader rounds on its way to a double: the
shortest decimal that is nearest to a double may take it to one of the
neighbours. Doubles are therefore read back one by one, and only those that
are can stand in a value of which this is said.
-/

namespace JobControl.Json

/-! ## Characters -/

/-- What the machine makes of the rest of a text. -/
def lex (m : Lexer) (cs : List Char) : Option Lexer :=
  (cs.foldlM Lexer.step m).bind Lexer.finish

/-- The text does not go on with the number or the word in front of it. -/
def Delimited (rest : List Char) : Prop :=
  ∀ c ∈ rest.head?, isNumberChar c = false ∧ c.isAlpha = false

variable {m : Lexer} {before : List Token} {read cs rest : List Char} {c : Char} {v : Json}

theorem tokens?_map_some :
    tokens? (cs.map some) = (lex ⟨[], .between⟩ cs).map (·.tokens.reverse) := by
  rw [tokens?, List.foldlM_map]
  rfl

theorem lex_cons : lex m (c :: cs) = (m.step c).bind fun m' => lex m' cs := by
  simp [lex, Option.bind_assoc]

theorem lex_token (c : Char) (token : Token)
    (h : ∀ m : Lexer, m.start c = some (m.emit token)) :
    lex ⟨before, .between⟩ (c :: rest) = lex ⟨token :: before, .between⟩ rest := by
  rw [lex_cons, Lexer.step, h]
  rfl

theorem delimited_nil : Delimited [] := nofun

theorem delimited_cons (hnumber : isNumberChar c = false) (hword : c.isAlpha = false) :
    Delimited (c :: rest) := by
  intro c' hc'
  cases hc'
  exact ⟨hnumber, hword⟩

theorem isSpace_iff : isSpace c = true ↔ c = ' ' ∨ c = '\t' ∨ c = '\n' ∨ c = '\r' := by
  simp [isSpace, or_assoc]

/-! ## Numbers and words -/

theorem lex_chars (hcs : ∀ c ∈ cs, isNumberChar c = true) :
    lex ⟨before, .number read⟩ (cs ++ rest)
      = lex ⟨before, .number (cs.reverse ++ read)⟩ rest := by
  induction cs generalizing read with
  | nil => rfl
  | cons c cs ih =>
      have hc := hcs c (List.mem_cons_self ..)
      rw [List.cons_append, lex_cons]
      simp only [Lexer.step, hc, if_true, Option.bind_some]
      rw [ih fun c' hc' => hcs c' (List.mem_cons_of_mem _ hc')]
      simp

theorem start_of_signed (hc : c.isDigit = true ∨ c = '-') :
    Lexer.start ⟨before, .between⟩ c = some ⟨before, .number [c]⟩ := by
  have hspace : isSpace c = false := by
    rw [Bool.eq_false_iff]
    intro h
    rcases isSpace_iff.mp h with rfl | rfl | rfl | rfl <;> revert hc <;> decide
  unfold Lexer.start
  split
  case h_8 => simp [hspace, hc]
  all_goals exact absurd hc (by decide)

theorem lex_signed {negative : Bool} (hcs : IsNumeral cs) :
    lex ⟨before, .between⟩ (signed negative cs ++ rest)
      = lex ⟨before, .number (signed negative cs).reverse⟩ rest := by
  obtain ⟨c, hfirst, hdigit⟩ := hcs.first
  obtain ⟨cs, rfl⟩ := List.head?_eq_some_iff.mp hfirst
  cases negative with
  | true =>
      rw [signed, if_pos rfl, List.cons_append, lex_cons, Lexer.step, start_of_signed (.inr rfl),
        Option.bind_some, lex_chars hcs.chars, List.reverse_cons, List.reverse_cons,
        List.reverse_cons]
  | false =>
      have hcs' : ∀ c' ∈ cs, isNumberChar c' = true := (List.forall_mem_cons.mp hcs.chars).2
      rw [signed, if_neg Bool.false_ne_true, List.cons_append, lex_cons, Lexer.step,
        start_of_signed (.inl hdigit), Option.bind_some, lex_chars hcs', List.reverse_cons]

/-- A token that has no end of its own ends where something follows that cannot be part of it. -/
theorem lex_of_finish (hfinish : m.finish = some ⟨.scalar v :: before, .between⟩)
    (hstep : ∀ c ∈ rest.head?, m.step c = m.finish.bind (·.start c)) :
    lex m rest = lex ⟨.scalar v :: before, .between⟩ rest := by
  cases rest with
  | nil => exact hfinish
  | cons c rest =>
      rw [lex_cons, lex_cons, hstep c rfl, hfinish]
      rfl

theorem lex_number (hvalue : numberValue? read.reverse = some v) (hrest : Delimited rest) :
    lex ⟨before, .number read⟩ rest = lex ⟨.scalar v :: before, .between⟩ rest := by
  obtain ⟨n, hn, rfl⟩ := Option.map_eq_some_iff.mp hvalue
  refine lex_of_finish (by simp [Lexer.finish, Lexer.emit, hn]) fun c hc => ?_
  simp [Lexer.step, (hrest c hc).1]

theorem lex_word (hvalue : wordValue? (String.ofList read.reverse) = some v)
    (hrest : Delimited rest) :
    lex ⟨before, .word read⟩ rest = lex ⟨.scalar v :: before, .between⟩ rest := by
  refine lex_of_finish (by simp [Lexer.finish, Lexer.emit, hvalue]) fun c hc => ?_
  simp [Lexer.step, (hrest c hc).2]

theorem lex_null (hrest : Delimited rest) :
    lex ⟨before, .between⟩ (writeScalar .null ++ rest)
      = lex ⟨.scalar .null :: before, .between⟩ rest := by
  have hword : lex ⟨before, .between⟩ (['n', 'u', 'l', 'l'] ++ rest)
      = lex ⟨before, .word ['l', 'l', 'u', 'n']⟩ rest := by
    simp only [List.cons_append, lex_cons]
    rfl
  exact hword.trans (lex_word rfl hrest)

theorem lex_bool {b : Bool} (hrest : Delimited rest) :
    lex ⟨before, .between⟩ (writeScalar (.bool b) ++ rest)
      = lex ⟨.scalar (.bool b) :: before, .between⟩ rest := by
  cases b with
  | true =>
      have hword : lex ⟨before, .between⟩ (['t', 'r', 'u', 'e'] ++ rest)
          = lex ⟨before, .word ['e', 'u', 'r', 't']⟩ rest := by
        simp only [List.cons_append, lex_cons]
        rfl
      exact hword.trans (lex_word rfl hrest)
  | false =>
      have hword : lex ⟨before, .between⟩ (['f', 'a', 'l', 's', 'e'] ++ rest)
          = lex ⟨before, .word ['e', 's', 'l', 'a', 'f']⟩ rest := by
        simp only [List.cons_append, lex_cons]
        rfl
      exact hword.trans (lex_word rfl hrest)

theorem lex_int {n : Int} (hlow : -0x8000000000000000 ≤ n) (hhigh : n < 0x10000000000000000)
    (hrest : Delimited rest) :
    lex ⟨before, .between⟩ (writeScalar (.int n) ++ rest)
      = lex ⟨.scalar (.int n) :: before, .between⟩ rest := by
  have hvalue := numberValue?_toString hlow hhigh
  rw [toList_toString] at hvalue
  rw [writeScalar, toList_toString, lex_signed (isNumeral_toDigits _), lex_number _ hrest]
  rwa [List.reverse_reverse]

/-! ## Strings -/

/-- A control character is written as its number. -/
theorem lex_code {n : Nat} (h : n < 0x20) :
    lex ⟨before, .text (some read)⟩ (['\\', 'u'] ++ Text.hexPadded 4 n ++ rest)
      = lex ⟨before, .text (some (Char.ofNat n :: read))⟩ rest := by
  have hnumber : Text.hexNumber? (Text.hexPadded 4 n) = some n := Text.hexNumber?_hexPadded
  have hlength : (Text.hexPadded 4 n).length = 4 := Text.length_hexPadded (by omega) (by decide)
  obtain ⟨d₁, d₂, d₃, d₄, hdigits⟩ : ∃ d₁ d₂ d₃ d₄, Text.hexPadded 4 n = [d₁, d₂, d₃, d₄] := by
    match Text.hexPadded 4 n, hlength with
    | [d₁, d₂, d₃, d₄], _ => exact ⟨d₁, d₂, d₃, d₄, rfl⟩
  have hhigh : isHighHalf n = false := by
    simp [isHighHalf]
    omega
  have hlow : isLowHalf n = false := by
    simp [isLowHalf]
    omega
  rw [hdigits] at hnumber ⊢
  simp [lex_cons, Lexer.step, Lexer.inText, Lexer.inEscape, Lexer.addCode, Lexer.resume, hnumber,
    hhigh, hlow]

theorem lex_escapeChar : lex ⟨before, .text (some read)⟩ (escapeChar c ++ rest)
    = lex ⟨before, .text (some (c :: read))⟩ rest := by
  unfold escapeChar
  split
  case h_8 hquote hbackslash _ _ _ _ _ =>
    have hplain : c ≠ '"' ∧ c ≠ '\\' := ⟨hquote, hbackslash⟩
    split
    · rename_i hcontrol
      rw [lex_code hcontrol, Char.ofNat_toNat]
    · rename_i hcontrol
      simp [lex_cons, Lexer.step, Lexer.inText, Lexer.resume, hplain, hcontrol]
  all_goals simp [lex_cons, Lexer.step, Lexer.inText, Lexer.inEscape, Lexer.resume, escaped?]

theorem lex_writeText {s : String} : lex ⟨before, .between⟩ (writeText s ++ rest)
    = lex ⟨.text (some s) :: before, .between⟩ rest := by
  have hchars : ∀ (cs read : List Char),
      lex ⟨before, .text (some read)⟩ (cs.flatMap escapeChar ++ '"' :: rest)
        = lex ⟨.text (some (String.ofList (read.reverse ++ cs))) :: before, .between⟩ rest := by
    intro cs
    induction cs with
    | nil =>
        intro read
        simp [lex_cons, Lexer.step, Lexer.inText, Lexer.emit]
    | cons c cs ih =>
        intro read
        rw [List.flatMap_cons, List.append_assoc, lex_escapeChar, ih]
        simp
  have hquote : lex ⟨before, .between⟩ (writeText s ++ rest)
      = lex ⟨before, .text (some [])⟩ (s.toList.flatMap escapeChar ++ '"' :: rest) := by
    simp [writeText, lex_cons, Lexer.step, Lexer.start]
  rw [hquote, hchars, List.reverse_nil, List.nil_append, String.ofList_toList]

/-! ## Blanks -/

/-- A layout puts nothing but blanks between tokens. -/
structure Layout.IsBlank (layout : Layout) : Prop where
  afterColon : ∀ c ∈ layout.afterColon, isSpace c = true
  newLine : ∀ depth, ∀ c ∈ layout.newLine depth, isSpace c = true

theorem Layout.isBlank_compact : Layout.compact.IsBlank where
  afterColon := nofun
  newLine _ := nofun

theorem Layout.isBlank_indented : Layout.indented.IsBlank where
  afterColon := List.forall_mem_cons.mpr ⟨rfl, nofun⟩
  newLine depth c hc := by
    rcases List.mem_cons.mp hc with rfl | hmem
    · rfl
    · rw [List.eq_of_mem_replicate hmem]
      rfl

theorem lex_blanks (hcs : ∀ c ∈ cs, isSpace c = true) :
    lex ⟨before, .between⟩ (cs ++ rest) = lex ⟨before, .between⟩ rest := by
  induction cs with
  | nil => rfl
  | cons c cs ih =>
      have hstart : Lexer.start ⟨before, .between⟩ c = some ⟨before, .between⟩ := by
        rcases isSpace_iff.mp (hcs c (List.mem_cons_self ..)) with rfl | rfl | rfl | rfl <;> rfl
      rw [List.cons_append, lex_cons, Lexer.step, hstart, Option.bind_some]
      exact ih fun c' hc' => hcs c' (List.mem_cons_of_mem _ hc')

theorem Delimited.blanks (hrest : Delimited rest) (hcs : ∀ c ∈ cs, isSpace c = true) :
    Delimited (cs ++ rest) := by
  cases cs with
  | nil => exact hrest
  | cons c cs =>
      rcases isSpace_iff.mp (hcs c (List.mem_cons_self ..)) with rfl | rfl | rfl | rfl <;>
        exact delimited_cons rfl rfl

/-! ## Doubles -/

/-- The reader comes back to a double from what is written for it. Some of those that take all
seventeen digits come back as a neighbour. -/
def ReadsBack (x : Float) : Prop :=
  ofText? (compact (.float x)) = some (.float x)

def double? : Json → Option Float
  | .float x => some x
  | _ => none

theorem readsBack_iff {x : Float} :
    ReadsBack x ↔ (ofText? (compact (.float x))).bind double? = some x := by
  rw [ReadsBack, Option.bind_eq_some_iff]
  constructor
  · exact fun h => ⟨_, h, rfl⟩
  · rintro ⟨j, hj, hx⟩
    cases j with
    | float y => rw [hj, Option.some.inj hx]
    | _ => cases hx

instance (x : Float) : Decidable (ReadsBack x) := decidable_of_iff _ readsBack_iff.symm

example : ReadsBack 1.4 ∧ ¬ReadsBack 1.4000000000000001 := by decide +kernel

theorem ofText?_ofList : ofText? (String.ofList cs)
    = (lex ⟨[], .between⟩ cs).bind fun m => ofTokens? m.tokens.reverse := by
  rw [ofText?, String.toList_ofList, tokens?_map_some, Option.bind_map]
  rfl

theorem lex_nil : lex ⟨before, .between⟩ [] = some ⟨before, .between⟩ := rfl

theorem ReadsBack.isFinite {x : Float} (h : ReadsBack x) : x.isFinite = true := by
  cases hfinite : x.isFinite with
  | true => rfl
  | false =>
      have hnull : compact (.float x) = String.ofList (writeScalar .null ++ []) := by
        simp [compact, write, writeScalar, hfinite]
      rw [ReadsBack, hnull, ofText?_ofList, lex_null delimited_nil] at h
      cases h

theorem ReadsBack.numberValue? {x : Float} (h : ReadsBack x) :
    numberValue? (Decimal.compact x).toList = some (.float x) := by
  obtain ⟨cs, hcs, htext⟩ := exists_numeral_compact x
  have hchars : compact (.float x) = String.ofList (signed (Decimal.isNegative x) cs ++ []) := by
    simp [compact, write, writeScalar, h.isFinite, htext]
  rw [ReadsBack, hchars, ofText?_ofList, lex_signed hcs] at h
  rw [htext]
  cases hvalue : Json.numberValue? (signed (Decimal.isNegative x) cs) with
  | none =>
      rw [Json.numberValue?, Option.map_eq_none_iff] at hvalue
      simp [lex, Lexer.finish, hvalue] at h
  | some v =>
      rw [lex_number (v := v) (by rwa [List.reverse_reverse]) delimited_nil, lex_nil] at h
      exact h

theorem lex_float {x : Float} (h : ReadsBack x) (hrest : Delimited rest) :
    lex ⟨before, .between⟩ (writeScalar (.float x) ++ rest)
      = lex ⟨.scalar (.float x) :: before, .between⟩ rest := by
  have hvalue := h.numberValue?
  obtain ⟨cs, hcs, htext⟩ := exists_numeral_compact x
  rw [htext] at hvalue
  rw [writeScalar, if_pos h.isFinite, htext, lex_signed hcs, lex_number _ hrest]
  rwa [List.reverse_reverse]

/-! ## Values -/

/-- A value that is read back where some room is left for arrays and objects. -/
inductive Readable : Nat → Json → Prop
  | null {room : Nat} : Readable room .null
  | bool {room : Nat} {b : Bool} : Readable room (.bool b)
  | int {room : Nat} {n : Int} (hlow : -0x8000000000000000 ≤ n)
    (hhigh : n < 0x10000000000000000) : Readable room (.int n)
  | float {room : Nat} {x : Float} (h : ReadsBack x) : Readable room (.float x)
  | str {room : Nat} {s : String} : Readable room (.str s)
  | arr {room : Nat} {items : List Json} (h : ∀ item ∈ items, Readable room item) :
    Readable (room + 1) (.arr items)
  | obj {room : Nat} {fields : List (String × Json)}
    (h : ∀ field ∈ fields, Readable room field.2) : Readable (room + 1) (.obj fields)

mutual

/-- The tokens of a value. -/
def tokens : Json → List Token
  | .arr [] => [.openArray, .closeArray]
  | .arr (item :: items) => .openArray :: (tokens item ++ itemTokens items ++ [.closeArray])
  | .obj [] => [.openObject, .closeObject]
  | .obj ((name, value) :: fields) =>
    .openObject :: .text (some name) :: .colon ::
      (tokens value ++ fieldTokens fields ++ [.closeObject])
  | .str s => [.text (some s)]
  | scalar => [.scalar scalar]

/-- The tokens of the items behind the first one. -/
def itemTokens : List Json → List Token
  | [] => []
  | item :: items => .comma :: (tokens item ++ itemTokens items)

/-- The tokens of the fields behind the first one. -/
def fieldTokens : List (String × Json) → List Token
  | [] => []
  | (name, value) :: fields =>
    .comma :: .text (some name) :: .colon :: (tokens value ++ fieldTokens fields)

end

section

variable {layout : Layout} {depth room : Nat} {j : Json}

/-- The characters of a value leave its tokens. -/
def Lexes (layout : Layout) (j : Json) : Prop :=
  ∀ {depth : Nat} {before : List Token} {rest : List Char}, Delimited rest →
    lex ⟨before, .between⟩ (write layout depth j ++ rest)
      = lex ⟨(tokens j).reverse ++ before, .between⟩ rest

theorem delimited_writeItems {items : List Json} (hrest : Delimited rest) :
    Delimited (writeItems layout depth items ++ rest) := by
  cases items with
  | nil => exact hrest
  | cons item items => exact delimited_cons rfl rfl

theorem lex_writeItems (hlayout : layout.IsBlank) {items : List Json}
    (h : ∀ item ∈ items, Lexes layout item) (hrest : Delimited rest) :
    lex ⟨before, .between⟩ (writeItems layout depth items ++ rest)
      = lex ⟨(itemTokens items).reverse ++ before, .between⟩ rest := by
  induction items generalizing before with
  | nil => rfl
  | cons item items ih =>
      obtain ⟨hitem, hitems⟩ := List.forall_mem_cons.mp h
      simp only [writeItems, List.append_assoc, List.cons_append, List.nil_append]
      rw [lex_token ',' .comma fun _ => rfl, lex_blanks (hlayout.newLine depth),
        hitem (delimited_writeItems hrest), ih hitems]
      simp [itemTokens]

theorem delimited_writeFields {fields : List (String × Json)} (hrest : Delimited rest) :
    Delimited (writeFields layout depth fields ++ rest) := by
  cases fields with
  | nil => exact hrest
  | cons field fields => exact delimited_cons rfl rfl

theorem lex_field (hlayout : layout.IsBlank) {name : String} (hvalue : Lexes layout j)
    (hrest : Delimited rest) :
    lex ⟨before, .between⟩ (layout.newLine depth ++ (writeText name ++ ':' ::
      (layout.afterColon ++ (write layout depth j ++ rest))))
      = lex ⟨(tokens j).reverse ++ .colon :: .text (some name) :: before, .between⟩ rest := by
  rw [lex_blanks (hlayout.newLine depth), lex_writeText, lex_token ':' .colon fun _ => rfl,
    lex_blanks hlayout.afterColon, hvalue hrest]

theorem lex_writeFields (hlayout : layout.IsBlank) {fields : List (String × Json)}
    (h : ∀ field ∈ fields, Lexes layout field.2) (hrest : Delimited rest) :
    lex ⟨before, .between⟩ (writeFields layout depth fields ++ rest)
      = lex ⟨(fieldTokens fields).reverse ++ before, .between⟩ rest := by
  induction fields generalizing before with
  | nil => rfl
  | cons field fields ih =>
      obtain ⟨hfield, hfields⟩ := List.forall_mem_cons.mp h
      simp only [writeFields, List.append_assoc, List.cons_append, List.nil_append]
      rw [lex_token ',' .comma fun _ => rfl,
        lex_field hlayout hfield (delimited_writeFields hrest), ih hfields]
      simp [fieldTokens]

theorem lex_write (hlayout : layout.IsBlank) (h : Readable room j) : Lexes layout j := by
  induction h with
  | null => exact lex_null
  | bool => exact lex_bool
  | int hlow hhigh => exact lex_int hlow hhigh
  | float h => exact lex_float h
  | str => exact fun _ => lex_writeText
  | @arr room items h ih =>
      intro depth before rest hrest
      cases items with
      | nil =>
          simp only [write, List.cons_append, List.nil_append]
          rw [lex_token '[' .openArray fun _ => rfl, lex_token ']' .closeArray fun _ => rfl]
          rfl
      | cons item items =>
          obtain ⟨hitem, hitems⟩ := List.forall_mem_cons.mp ih
          have hclose : Delimited (layout.newLine depth ++ ']' :: rest) :=
            (delimited_cons rfl rfl).blanks (hlayout.newLine depth)
          simp only [write, List.append_assoc, List.cons_append, List.nil_append]
          rw [lex_token '[' .openArray fun _ => rfl, lex_blanks (hlayout.newLine _),
            hitem (delimited_writeItems hclose), lex_writeItems hlayout hitems hclose,
            lex_blanks (hlayout.newLine _), lex_token ']' .closeArray fun _ => rfl]
          simp [tokens]
  | @obj room fields h ih =>
      intro depth before rest hrest
      cases fields with
      | nil =>
          simp only [write, List.cons_append, List.nil_append]
          rw [lex_token '{' .openObject fun _ => rfl,
            lex_token '}' .closeObject fun _ => rfl]
          rfl
      | cons field fields =>
          obtain ⟨hfield, hfields⟩ := List.forall_mem_cons.mp ih
          have hclose : Delimited (layout.newLine depth ++ '}' :: rest) :=
            (delimited_cons rfl rfl).blanks (hlayout.newLine depth)
          simp only [write, List.append_assoc, List.cons_append, List.nil_append]
          rw [lex_token '{' .openObject fun _ => rfl,
            lex_field hlayout hfield (delimited_writeFields hclose),
            lex_writeFields hlayout hfields hclose, lex_blanks (hlayout.newLine _),
            lex_token '}' .closeObject fun _ => rfl]
          simp [tokens]

end

/-! ## Documents -/

/-- What the second machine makes of some tokens. -/
def build (m : Builder) (tokens : List Token) : Option Builder :=
  tokens.foldlM Builder.step m

section

variable {m : Builder} {token : Token} {more : List Token} {frames : List Frame}
  {expecting : Expecting} {room : Nat} {j v : Json}

theorem build_nil : build m [] = some m := rfl

theorem build_cons :
    build m (token :: more) = (m.step token).bind fun m' => build m' more := by
  simp [build]

theorem build_append {tokens : List Token} :
    build m (tokens ++ more) = (build m tokens).bind fun m' => build m' more := by
  simp [build, List.foldlM_append]

/-- The tokens of a value, where a value may come next, leave that value. -/
def Builds (room : Nat) (j : Json) : Prop :=
  ∀ {frames : List Frame} {expecting : Expecting},
    expecting = .value ∨ expecting = .itemOrEnd → frames.length + room ≤ maxDepth →
      build ⟨frames, expecting⟩ (tokens j) = some (Builder.add ⟨frames, expecting⟩ j)

theorem opened_of_room {α : Type} (h : frames.length + (room + 1) ≤ maxDepth) :
    (Builder.opened ⟨frames, expecting⟩ : Option (List α)) = some [] := by
  have hdrop : (frames.drop (maxDepth - 1)).isEmpty = true := by
    rw [List.isEmpty_iff, List.drop_eq_nil_iff]
    omega
  rw [Builder.opened, if_pos hdrop]

/-- Behind the bracket of an array there may be a value, unless the next token closes it. -/
theorem build_first (h : expecting = .value ∨ expecting = .itemOrEnd) (token : Token)
    (htoken : token ≠ .closeArray) : build ⟨frames, expecting⟩ (token :: more)
      = (Builder.startValue ⟨frames, expecting⟩ token).bind fun m' => build m' more := by
  rw [build_cons]
  rcases h with rfl | rfl
  · rfl
  · cases token with
    | closeArray => exact absurd rfl htoken
    | _ => rfl

theorem builds_scalar (h : tokens j = [.scalar j]) : Builds room j := by
  intro frames expecting hexpecting _
  rw [h, build_first hexpecting (.scalar j) nofun]
  rfl

/-- The items behind the first one are put behind those that came before. -/
theorem build_itemTokens {items : List Json} (h : ∀ item ∈ items, Builds room item)
    {sofar : List Json} (hroom : frames.length + (room + 1) ≤ maxDepth) :
    build ⟨.items (some sofar) :: frames, .commaOrEnd⟩ (itemTokens items)
      = some ⟨.items (some (items.reverse ++ sofar)) :: frames, .commaOrEnd⟩ := by
  induction items generalizing sofar with
  | nil => rfl
  | cons item items ih =>
      obtain ⟨hitem, hitems⟩ := List.forall_mem_cons.mp h
      have hbelow : (Frame.items (some sofar) :: frames).length + room ≤ maxDepth := by
        rw [List.length_cons]
        omega
      have hcomma : Builder.step ⟨.items (some sofar) :: frames, .commaOrEnd⟩ .comma
          = some ⟨.items (some sofar) :: frames, .value⟩ := rfl
      have hadd : Builder.add ⟨.items (some sofar) :: frames, .value⟩ item
          = ⟨.items (some (item :: sofar)) :: frames, .commaOrEnd⟩ := rfl
      rw [itemTokens, build_cons, hcomma, Option.bind_some, build_append,
        hitem (.inl rfl) hbelow, Option.bind_some, hadd, ih hitems]
      simp

/-- A field behind the brace or the comma of its object. -/
theorem build_field {sofar : List (String × Json)} {name : String}
    (hexpecting : expecting = .nameOrEnd (some sofar) ∨ expecting = .name (some sofar))
    (hvalue : Builds room j) (hroom : frames.length + (room + 1) ≤ maxDepth) :
    build ⟨frames, expecting⟩ (.text (some name) :: .colon :: (tokens j ++ more))
      = build ⟨.fields (some ((name, j) :: sofar)) name :: frames, .commaOrEnd⟩ more := by
  have hbelow : (Frame.fields (some sofar) name :: frames).length + room ≤ maxDepth := by
    rw [List.length_cons]
    omega
  have hname : Builder.step ⟨frames, expecting⟩ (.text (some name))
      = some ⟨.fields (some sofar) name :: frames, .colon⟩ := by
    rcases hexpecting with rfl | rfl <;> rfl
  have hcolon : Builder.step ⟨.fields (some sofar) name :: frames, .colon⟩ .colon
      = some ⟨.fields (some sofar) name :: frames, .value⟩ := rfl
  rw [build_cons, hname, Option.bind_some, build_cons, hcolon, Option.bind_some, build_append,
    hvalue (.inl rfl) hbelow]
  rfl

/-- The fields behind the first one; the name of the last one is left behind with them. -/
theorem build_fieldTokens {fields : List (String × Json)}
    (h : ∀ field ∈ fields, Builds room field.2) (hroom : frames.length + (room + 1) ≤ maxDepth)
    (sofar : List (String × Json)) (last : String) :
    ∃ name, build ⟨.fields (some sofar) last :: frames, .commaOrEnd⟩ (fieldTokens fields)
      = some ⟨.fields (some (fields.reverse ++ sofar)) name :: frames, .commaOrEnd⟩ := by
  induction fields generalizing sofar last with
  | nil => exact ⟨last, rfl⟩
  | cons field fields ih =>
      obtain ⟨hfield, hfields⟩ := List.forall_mem_cons.mp h
      obtain ⟨name, hrest⟩ := ih hfields (field :: sofar) field.1
      have hcomma : Builder.step ⟨.fields (some sofar) last :: frames, .commaOrEnd⟩ .comma
          = some ⟨frames, .name (some sofar)⟩ := rfl
      refine ⟨name, ?_⟩
      rw [fieldTokens, build_cons, hcomma, Option.bind_some, build_field (.inr rfl) hfield hroom,
        hrest]
      simp

theorem build_tokens (h : Readable room j) : Builds room j := by
  induction h with
  | null | bool | int | float => exact builds_scalar rfl
  | str =>
      intro frames expecting hexpecting _
      rw [tokens, build_first hexpecting (.text _) nofun]
      rfl
  | @arr room items h ih =>
      intro frames expecting hexpecting hroom
      have hopen : Builder.startValue ⟨frames, expecting⟩ .openArray
          = some ⟨.items (some []) :: frames, .itemOrEnd⟩ := by
        rw [Builder.startValue, opened_of_room hroom]
      cases items with
      | nil =>
          rw [tokens, build_first hexpecting .openArray nofun, hopen]
          rfl
      | cons item items =>
          obtain ⟨hitem, hitems⟩ := List.forall_mem_cons.mp ih
          have hbelow : (Frame.items (some []) :: frames).length + room ≤ maxDepth := by
            rw [List.length_cons]
            omega
          have hfirst : Builder.add ⟨.items (some []) :: frames, .itemOrEnd⟩ item
              = ⟨.items (some [item]) :: frames, .commaOrEnd⟩ := rfl
          rw [tokens, build_first hexpecting .openArray nofun, hopen, Option.bind_some,
            build_append, build_append, hitem (.inr rfl) hbelow, Option.bind_some, hfirst,
            build_itemTokens hitems hroom, Option.bind_some, build_cons]
          simp [build_nil, Builder.step, Builder.closedArray, Builder.add]
  | @obj room fields h ih =>
      intro frames expecting hexpecting hroom
      have hopen : Builder.startValue ⟨frames, expecting⟩ .openObject
          = some ⟨frames, .nameOrEnd (some [])⟩ := by
        rw [Builder.startValue, opened_of_room hroom]
      cases fields with
      | nil =>
          rw [tokens, build_first hexpecting .openObject nofun, hopen]
          rfl
      | cons field fields =>
          obtain ⟨hfield, hfields⟩ := List.forall_mem_cons.mp ih
          obtain ⟨name, hrest⟩ := build_fieldTokens hfields hroom [field] field.1
          rw [tokens, build_first hexpecting .openObject nofun, hopen, Option.bind_some,
            List.append_assoc, build_field (.inl rfl) hfield hroom, build_append, hrest,
            Option.bind_some, build_cons]
          simp [build_nil, Builder.step, Builder.closedObject, Builder.add]

end

/-- **A written document is read back**, in whichever layout it was written. -/
theorem ofText?_write {layout : Layout} {j : Json} (hlayout : layout.IsBlank)
    (h : Readable maxDepth j) : ofText? (String.ofList (write layout 0 j)) = some j := by
  have hlex : lex ⟨[], .between⟩ (write layout 0 j ++ [])
      = lex ⟨(tokens j).reverse ++ [], .between⟩ [] := lex_write hlayout h delimited_nil
  rw [List.append_nil, List.append_nil] at hlex
  have hbuild : build ⟨[], .value⟩ (tokens j) = some (Builder.add ⟨[], .value⟩ j) :=
    build_tokens h (.inl rfl) (by decide)
  rw [build] at hbuild
  rw [ofText?_ofList, hlex, lex_nil, Option.bind_some, List.reverse_reverse, ofTokens?, hbuild]
  rfl

theorem ofText?_compact {j : Json} (h : Readable maxDepth j) : ofText? (compact j) = some j :=
  ofText?_write Layout.isBlank_compact h

theorem ofText?_indented {j : Json} (h : Readable maxDepth j) : ofText? (indented j) = some j :=
  ofText?_write Layout.isBlank_indented h

end JobControl.Json
