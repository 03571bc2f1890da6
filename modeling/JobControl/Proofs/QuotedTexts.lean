import JobControl.Proofs.FreshTokens
import JobControl.Toml.Printer
import JobControl.Toml.Token

/-!
# Texts between quotes

A text is read back from its quotes, whichever of them it was given. The
writer chooses among four kinds, and among the two with a backslash it may
write escapes or not; for the reader there are only two questions. Does a
character of the text end it early? Between single quotes, nothing is
escaped, so that the choice itself has to rule this out. And between three
quotes, a quote does not end the text until it has two more behind it: up
to two may stand in the text, and the machine only counts them until it is
clear what they are. Its state is therefore compared with the text up to
the quotes that are still pending.
-/

namespace JobControl

/-- A hexadecimal digit has one value in either case. -/
theorem Text.hexValue?_toUpper (c : Char) : hexValue? c.toUpper = hexValue? c := by
  have hascii : ∀ n < 128, hexValue? (Char.ofNat n).toUpper = hexValue? (Char.ofNat n) := by
    decide
  rcases Nat.lt_or_ge c.toNat 128 with hlt | hge
  · simpa only [Char.ofNat_toNat] using hascii c.toNat hlt
  · have hletter : ¬('a'.val ≤ c.val ∧ c.val ≤ 'z'.val) := by
      rintro ⟨-, hz⟩
      have hz : c.toNat ≤ 122 := hz
      omega
    have hsame : c.toUpper = c := dif_neg hletter
    rw [hsame]

theorem Text.isSome_hexValue? {digits : List Char} {n : Nat} (h : hexNumber? digits = some n) :
    ∀ d ∈ digits, (hexValue? d).isSome := by
  have hfrom : ∀ (digits : List Char) (start : Nat),
      digits.foldlM (fun n c => (hexValue? c).map (n * 16 + ·)) start = some n →
      ∀ d ∈ digits, (hexValue? d).isSome := by
    intro digits
    induction digits with
    | nil => exact fun _ _ => nofun
    | cons d digits ih =>
        intro start hread
        rw [List.foldlM_cons, Option.bind_eq_bind, Option.bind_eq_some_iff] at hread
        obtain ⟨next, hd, hrest⟩ := hread
        refine List.forall_mem_cons.mpr ⟨?_, ih next hrest⟩
        rw [← Option.isSome_map, hd]
        rfl
  exact hfrom digits 0 h

namespace Toml

/-! ## Characters -/

variable {m : Lexer} {before : List Token} {read cs rest : List Char} {c : Char} {quote : Quote}
  {run : Nat} {lines : Bool}

theorem isPlain_iff : isPlain c = true ↔ c = '\t' ∨ 0x20 ≤ c.toNat ∧ c.toNat ≠ 0x7F := by
  simp [isPlain]

theorem needsCode_iff :
    needsCode c = true ↔ (c ≠ '\t' ∧ c ≠ '\n') ∧ (c.toNat ≤ 0x1F ∨ c.toNat = 0x7F) := by
  simp [needsCode]

/-- What needs no escape may stand in a text, or is a line break. -/
theorem needsCode_eq_false (h : needsCode c = false) : isPlain c = true ∨ c = '\n' := by
  have hnot := mt needsCode_iff.mpr (ne_true_of_eq_false h)
  by_cases hline : c = '\n'
  · exact .inr hline
  · by_cases htab : c = '\t'
    · exact .inl (isPlain_iff.mpr (.inl htab))
    · have hcode : ¬(c.toNat ≤ 0x1F ∨ c.toNat = 0x7F) := fun h => hnot ⟨⟨htab, hline⟩, h⟩
      exact .inl (isPlain_iff.mpr (.inr (by omega)))

/-- What a text of several lines may hold. -/
theorem allowed_of_plain (h : isPlain c = true ∨ c = '\n') :
    (isPlain c || c == '\n' || c == '\r') = true := by
  rcases h with h | rfl
  · simp [h]
  · rfl

/-! ## The machine -/

/-- What the machine makes of the rest of a document. -/
def lex (m : Lexer) (cs : List Char) : Option Lexer :=
  (cs.foldlM Lexer.step m).bind Lexer.finish

/-- A value that stands in front of a text is over. -/
def Delimited (rest : List Char) : Prop :=
  ∀ c ∈ rest.head?, (isSpace c || isMark c) = true ∧ c ≠ '"' ∧ c ≠ '\x27'

theorem lex_cons : lex m (c :: cs) = (m.step c).bind fun m' => lex m' cs := by
  simp [lex, Option.bind_assoc]

theorem lex_step {m' : Lexer} (h : m.step c = some m') : lex m (c :: cs) = lex m' cs := by
  rw [lex_cons, h, Option.bind_some]

theorem Delimited.ne_quote (hrest : Delimited rest) : ∀ c ∈ rest.head?, c ≠ quote.char := by
  intro c hc
  cases quote with
  | basic => exact (hrest c hc).2.1
  | literal => exact (hrest c hc).2.2

/-- A token that has no end of its own ends where something follows that is no part of it. -/
theorem lex_of_finish {token : Token} (hfinish : m.finish = some ⟨token :: before, .between⟩)
    (hstep : ∀ c ∈ rest.head?, m.step c = m.finish.map (·.start c)) :
    lex m rest = lex ⟨token :: before, .between⟩ rest := by
  cases rest with
  | nil => exact hfinish
  | cons c rest =>
      rw [lex_cons, lex_cons, hstep c rfl, hfinish]
      rfl

/-! ## Between two quotes -/

theorem step_line_end (quote : Quote) :
    Lexer.step ⟨before, .line quote read⟩ quote.char
      = some ⟨.text (String.ofList read.reverse) false :: before, .between⟩ := by
  simp [Lexer.step, Lexer.inLine, Lexer.emitText, Lexer.emit]

theorem step_oneQuote_of_ne (hc : c ≠ quote.char) :
    Lexer.step ⟨before, .oneQuote quote⟩ c = Lexer.step ⟨before, .line quote []⟩ c := by
  simp only [Lexer.step, beq_iff_eq, hc, if_false]
  rfl

/-- Behind one quote, a text has begun that is empty if another quote follows. -/
theorem lex_oneQuote (hcs : ∀ c ∈ cs.head?, c ≠ quote.char) (hrest : Delimited rest) :
    lex ⟨before, .oneQuote quote⟩ (cs ++ quote.char :: rest)
      = lex ⟨before, .line quote []⟩ (cs ++ quote.char :: rest) := by
  cases cs with
  | nil =>
      have htwo : Lexer.step ⟨before, .oneQuote quote⟩ quote.char
          = some ⟨before, .twoQuotes quote⟩ := by
        simp [Lexer.step]
      have hfinish : Lexer.finish ⟨before, .twoQuotes quote⟩
          = some ⟨.text "" false :: before, .between⟩ := rfl
      rw [List.nil_append, lex_step htwo, lex_step (step_line_end quote)]
      refine lex_of_finish hfinish fun c hc => ?_
      simp [Lexer.step, hrest.ne_quote c hc, hfinish, Lexer.emitText, Lexer.emit]
  | cons c cs =>
      rw [List.cons_append, lex_cons, lex_cons, step_oneQuote_of_ne (hcs c rfl)]

/-- Between single quotes every character stands for itself. -/
theorem lex_literal (hcs : ∀ c ∈ cs, isPlain c = true ∧ c ≠ '\x27') :
    lex ⟨before, .line .literal read⟩ (cs ++ '\x27' :: rest)
      = lex ⟨.text (String.ofList (read.reverse ++ cs)) false :: before, .between⟩ rest := by
  induction cs generalizing read with
  | nil =>
      rw [List.nil_append, List.append_nil]
      exact lex_step (step_line_end .literal)
  | cons c cs ih =>
      obtain ⟨⟨hplain, hc⟩, hcs⟩ := List.forall_mem_cons.mp hcs
      have hstep : Lexer.step ⟨before, .line .literal read⟩ c
          = some ⟨before, .line .literal (c :: read)⟩ := by
        simp [Lexer.step, Lexer.inLine, Quote.char, hc, hplain]
      rw [List.cons_append, lex_step hstep, ih hcs]
      simp

/-! ## Between six quotes -/

/-- Quotes that turn out not to be the closing ones are a part of the text. -/
theorem step_lines_of_ne (quote : Quote) (hc : c ≠ quote.char) (hrun : run ≤ 2) :
    Lexer.step ⟨before, .lines quote read run⟩ c
      = Lexer.step ⟨before, .lines quote (List.replicate run quote.char ++ read) 0⟩ c := by
  have hrun : ¬3 ≤ run := by omega
  simp [Lexer.step, Lexer.inLines, hc, hrun]

theorem lex_settled (quote : Quote) (hc : c ≠ quote.char) (hrun : run ≤ 2) :
    lex ⟨before, .lines quote read run⟩ (c :: rest)
      = lex ⟨before, .lines quote (List.replicate run quote.char ++ read) 0⟩ (c :: rest) := by
  rw [lex_cons, lex_cons, step_lines_of_ne quote hc hrun]

theorem step_lines_quote (quote : Quote) (hrun : run < 4) :
    Lexer.step ⟨before, .lines quote read run⟩ quote.char
      = some ⟨before, .lines quote read (run + 1)⟩ := by
  have hrun : run ≠ 4 := by omega
  simp [Lexer.step, Lexer.inLines, hrun]

/-- Three quotes end the text; up to two in front of them are a part of it. -/
theorem lex_lines_end (quote : Quote) (hrun : run ≤ 2) (hrest : Delimited rest) :
    lex ⟨before, .lines quote read run⟩ (List.replicate 3 quote.char ++ rest)
      = lex ⟨.text (String.ofList (List.replicate run quote.char ++ read).reverse) true :: before,
          .between⟩ rest := by
  have htwo : lex ⟨before, .lines quote read run⟩ (List.replicate 3 quote.char ++ rest)
      = lex ⟨before, .lines quote read (run + 2)⟩ (quote.char :: rest) := by
    simp only [List.replicate, List.cons_append, List.nil_append]
    rw [lex_step (step_lines_quote quote (by omega)), lex_step (step_lines_quote quote (by omega))]
  rw [htwo]
  rcases Nat.lt_or_eq_of_le hrun with hlt | rfl
  · have hclosed : 3 ≤ run + 3 := by omega
    have hfinish : Lexer.finish ⟨before, .lines quote read (run + 3)⟩ = some ⟨.text
        (String.ofList (List.replicate run quote.char ++ read).reverse) true :: before,
        .between⟩ := by
      simp [Lexer.finish, Lexer.emitText, Lexer.emit]
    rw [lex_step (step_lines_quote quote (by omega))]
    refine lex_of_finish hfinish fun c hc => ?_
    rw [hfinish]
    simp [Lexer.step, Lexer.inLines, hrest.ne_quote c hc, Lexer.emitText, Lexer.emit]
  · exact lex_step (by simp [Lexer.step, Lexer.inLines, Lexer.emitText, Lexer.emit])

theorem step_threeQuotes_of_ne (hline : c ≠ '\n') (hreturn : c ≠ '\r') :
    Lexer.step ⟨before, .threeQuotes quote⟩ c = Lexer.step ⟨before, .lines quote [] 0⟩ c := by
  simp only [Lexer.step, beq_iff_eq, hline, hreturn, if_false]
  rfl

/-- A text of several lines starts on the line of the quotes or on the next one. -/
theorem lex_threeQuotes (hreturn : '\r' ∉ cs) :
    lex ⟨before, .threeQuotes quote⟩ ((if cs.contains '\n' then ['\n'] else [])
        ++ cs ++ (List.replicate 3 quote.char ++ rest))
      = lex ⟨before, .lines quote [] 0⟩ (cs ++ (List.replicate 3 quote.char ++ rest)) := by
  have hstart : ∀ c rest, c ≠ '\n' → c ≠ '\r' → lex ⟨before, .threeQuotes quote⟩ (c :: rest)
      = lex ⟨before, .lines quote [] 0⟩ (c :: rest) := by
    intro c rest hline hreturn
    rw [lex_cons, lex_cons, step_threeQuotes_of_ne hline hreturn]
  split
  · rw [List.append_assoc]
    exact lex_step (by simp [Lexer.step])
  · rename_i hline
    rw [List.nil_append]
    cases cs with
    | nil => cases quote <;> exact hstart _ _ (by decide) (by decide)
    | cons c cs =>
        rw [List.contains_eq_mem, decide_eq_true_eq, List.mem_cons, not_or] at hline
        rw [List.mem_cons, not_or] at hreturn
        exact hstart _ _ (Ne.symm hline.1) (Ne.symm hreturn.1)

theorem le_longestRun : ∀ (cs : List Char) (run : Nat), run ≤ longestRun c run cs
  | [], run => Nat.le_refl run
  | d :: cs, run => by
      rw [longestRun]
      split
      · exact Nat.le_of_succ_le (le_longestRun cs (run + 1))
      · exact Nat.le_max_left _ _

theorem notMem_of_longestRun (h : longestRun c run cs = 0) : c ∉ cs := by
  induction cs generalizing run with
  | nil => exact List.not_mem_nil
  | cons d cs ih =>
      rw [longestRun] at h
      split at h
      · have := le_longestRun (c := c) cs (run + 1)
        omega
      · rename_i hd
        rw [List.mem_cons, not_or]
        exact ⟨fun hc => hd (beq_iff_eq.mpr hc.symm), ih (Nat.max_eq_zero_iff.mp h).2⟩

theorem lex_literalLines (hcs : ∀ c ∈ cs, isPlain c = true ∨ c = '\n')
    (hrun : longestRun '\x27' run cs ≤ 2) (hrest : Delimited rest) :
    lex ⟨before, .lines .literal read run⟩ (cs ++ (List.replicate 3 '\x27' ++ rest))
      = lex ⟨.text (String.ofList ((List.replicate run '\x27' ++ read).reverse ++ cs)) true
          :: before, .between⟩ rest := by
  induction cs generalizing read run with
  | nil =>
      rw [List.nil_append, List.append_nil]
      exact lex_lines_end .literal hrun hrest
  | cons c cs ih =>
      obtain ⟨hc, hmore⟩ := List.forall_mem_cons.mp hcs
      have hle : run ≤ 2 := Nat.le_trans (le_longestRun _ _) hrun
      rw [longestRun] at hrun
      rw [List.cons_append]
      split at hrun
      · rename_i hquote
        obtain rfl := beq_iff_eq.mp hquote
        have hstep : Lexer.step ⟨before, .lines .literal read run⟩ '\x27'
            = some ⟨before, .lines .literal read (run + 1)⟩ :=
          step_lines_quote .literal (by omega)
        rw [lex_step hstep, ih hmore hrun]
        simp [List.replicate_succ]
      · rename_i hquote
        have hne : c ≠ '\x27' := fun h => hquote (beq_iff_eq.mpr h)
        have hallowed := allowed_of_plain hc
        have hstep : Lexer.step ⟨before, .lines .literal read run⟩ c
            = some ⟨before, .lines .literal (c :: (List.replicate run '\x27' ++ read)) 0⟩ := by
          rw [step_lines_of_ne .literal hne hle]
          simp [Lexer.step, Lexer.inLines, Quote.char, hne, hallowed]
        rw [lex_step hstep, ih hmore (Nat.le_trans (Nat.le_max_right _ _) hrun)]
        simp

/-! ## Escapes -/

theorem charOf?_toNat (c : Char) : charOf? c.toNat = some c := by
  have hvalid : c.toNat.isValidChar := c.valid
  rw [charOf?, dif_pos hvalid, Option.some.injEq, Char.ext_iff]
  exact UInt32.ofNat_toNat

theorem hexNumber?_map_toUpper (width n : Nat) :
    Text.hexNumber? ((Text.hexPadded width n).map Char.toUpper) = some n := by
  rw [Text.hexNumber?, List.foldlM_map]
  simp only [Text.hexValue?_toUpper]
  exact Text.hexNumber?_hexPadded

/-- A backslash leads out of a text of either kind. -/
theorem lex_backslash : lex (m.resume lines read) ('\\' :: rest)
    = lex { m with reading := .escape lines read } rest := by
  refine lex_step ?_
  cases lines <;> rfl

/-- A character that is written as its number is read back. -/
theorem lex_code (hc : c.toNat < 16 ^ 4) :
    lex (m.resume lines read) (['\\', 'u'] ++ (Text.hexPadded 4 c.toNat).map Char.toUpper ++ rest)
      = lex (m.resume lines (c :: read)) rest := by
  have hnumber := hexNumber?_map_toUpper 4 c.toNat
  have hlength := Text.length_hexPadded hc (by decide)
  obtain ⟨d₁, d₂, d₃, d₄, hdigits⟩ :
      ∃ d₁ d₂ d₃ d₄, Text.hexPadded 4 c.toNat = [d₁, d₂, d₃, d₄] := by
    match Text.hexPadded 4 c.toNat, hlength with
    | [d₁, d₂, d₃, d₄], _ => exact ⟨d₁, d₂, d₃, d₄, rfl⟩
  rw [hdigits] at hnumber ⊢
  have hlast : Lexer.step
      { m with reading := .code lines read 1 [d₃.toUpper, d₂.toUpper, d₁.toUpper] } d₄.toUpper
      = some (m.resume lines (c :: read)) := by
    have hcode : Text.hexNumber? [d₄.toUpper, d₃.toUpper, d₂.toUpper, d₁.toUpper].reverse
        = some c.toNat := hnumber
    simp only [Lexer.step, Lexer.inCode, hcode, Option.bind_some, charOf?_toNat]
    rfl
  exact lex_backslash.trans ((lex_step rfl).trans ((lex_step rfl).trans ((lex_step rfl).trans
    ((lex_step rfl).trans (lex_step hlast)))))

/-- A character that has a letter of its own behind the backslash. -/
theorem lex_letter (m : Lexer) (lines : Bool) {letter : Char} (hcode : codeWidth? letter = none)
    (hfold : (isSpace letter || letter == '\r' || letter == '\n') = false)
    (hletter : escaped? letter = some c) :
    lex (m.resume lines read) ('\\' :: letter :: rest) = lex (m.resume lines (c :: read)) rest := by
  refine lex_backslash.trans (lex_step ?_)
  simp only [Lexer.step, Lexer.inEscape, hcode, hfold, hletter, Bool.and_false]
  rfl

/-- A character that is written as it stands. -/
theorem lex_itself (hquote : c ≠ '"') (hbackslash : c ≠ '\\') (hcode : needsCode c = false)
    (hline : c = '\n' → lines = true) :
    lex (m.resume lines read) (c :: rest) = lex (m.resume lines (c :: read)) rest := by
  refine lex_step ?_
  have hplain := needsCode_eq_false hcode
  cases lines with
  | true =>
      have hallowed := allowed_of_plain hplain
      simp [Lexer.resume, Lexer.step, Lexer.inLines, Quote.char, hquote, hbackslash, hallowed]
  | false =>
      have hallowed : isPlain c = true := hplain.resolve_right fun h => nomatch hline h
      simp [Lexer.resume, Lexer.step, Lexer.inLine, Quote.char, hquote, hbackslash, hallowed]

theorem lex_escapedChar (m : Lexer) (lines : Bool) (hc : c ≠ '"') :
    lex (m.resume lines read) (escapedChar lines c ++ rest)
      = lex (m.resume lines (c :: read)) rest := by
  unfold escapedChar
  split
  case h_3 =>
    cases lines with
    | true => exact lex_itself (by decide) (by decide) rfl fun _ => rfl
    | false => exact lex_letter m false rfl rfl rfl
  case h_7 htab hline _ _ hbackslash =>
    split
    · rename_i hcode
      have hlow := (needsCode_iff.mp hcode).2
      exact lex_code (by omega)
    · rename_i hcode
      exact lex_itself hc hbackslash (by simpa using hcode) fun h => absurd h hline
  all_goals exact lex_letter m lines rfl rfl rfl

theorem exists_escapedChar (lines : Bool) (hc : c ≠ '"') :
    ∃ d ds, escapedChar lines c = d :: ds ∧ d ≠ '"' := by
  unfold escapedChar
  split
  case h_3 => cases lines <;> exact ⟨_, _, rfl, by decide⟩
  case h_7 =>
    split
    · exact ⟨_, _, rfl, by decide⟩
    · exact ⟨_, _, rfl, hc⟩
  all_goals exact ⟨_, _, rfl, by decide⟩

theorem ne_quote_of_head? : ∀ c ∈ (escapedChars false run cs).head?, c ≠ '"' := by
  cases cs with
  | nil => exact nofun
  | cons d cs =>
      rw [escapedChars]
      split
      · intro c hc
        cases hc
        decide
      · rename_i hquote
        obtain ⟨e, es, hchars, he⟩ := exists_escapedChar false
          fun h => hquote (beq_iff_eq.mpr h)
        rw [hchars]
        intro c hc
        cases hc
        exact he

/-- Between two double quotes, with escapes. -/
theorem lex_escapedChars_line :
    lex ⟨before, .line .basic read⟩ (escapedChars false run cs ++ '"' :: rest)
      = lex ⟨.text (String.ofList (read.reverse ++ cs)) false :: before, .between⟩ rest := by
  induction cs generalizing read run with
  | nil =>
      rw [escapedChars, List.nil_append, List.append_nil]
      exact lex_step (step_line_end .basic)
  | cons c cs ih =>
      have hstep : lex ⟨before, .line .basic read⟩ (escapedChars false run (c :: cs) ++ '"' :: rest)
          = lex ⟨before, .line .basic (c :: read)⟩ (escapedChars false 0 cs ++ '"' :: rest) := by
        rw [escapedChars]
        split
        · rename_i hquote
          obtain rfl := beq_iff_eq.mp hquote
          exact lex_letter ⟨before, .between⟩ false rfl rfl rfl
        · rename_i hquote
          rw [List.append_assoc]
          exact lex_escapedChar ⟨before, .between⟩ false fun h =>
            hquote (beq_iff_eq.mpr h)
      rw [hstep, ih]
      simp

/-- Between six double quotes, with escapes. -/
theorem lex_escapedChars_lines (hrun : run ≤ 2) (hrest : Delimited rest) :
    lex ⟨before, .lines .basic read run⟩
        (escapedChars true run cs ++ (List.replicate 3 '"' ++ rest))
      = lex ⟨.text (String.ofList ((List.replicate run '"' ++ read).reverse ++ cs)) true :: before,
          .between⟩ rest := by
  induction cs generalizing read run with
  | nil =>
      rw [escapedChars, List.nil_append, List.append_nil]
      exact lex_lines_end .basic hrun hrest
  | cons c cs ih =>
      rw [escapedChars]
      by_cases hc : c = '"'
      · subst hc
        rw [beq_self_eq_true, if_pos rfl]
        by_cases hroom : run < 2
        · have hstep : Lexer.step ⟨before, .lines .basic read run⟩ '"'
              = some ⟨before, .lines .basic read (run + 1)⟩ :=
            step_lines_quote .basic (by omega)
          rw [if_pos (by simp [hroom]), List.cons_append, lex_step hstep, ih (by omega)]
          simp [List.replicate_succ]
        · have hescaped : lex ⟨before, .lines .basic read run⟩
              ('\\' :: '"' :: (escapedChars true 0 cs ++ (List.replicate 3 '"' ++ rest)))
              = lex ⟨before, .lines .basic ('"' :: (List.replicate run '"' ++ read)) 0⟩
                (escapedChars true 0 cs ++ (List.replicate 3 '"' ++ rest)) :=
            (lex_settled .basic (by decide) hrun).trans
              (lex_letter ⟨before, .between⟩ true rfl rfl rfl)
          rw [if_neg (by simp [hroom])]
          refine hescaped.trans ?_
          rw [ih (Nat.zero_le 2)]
          simp
      · obtain ⟨d, ds, hchars, hd⟩ := exists_escapedChar true hc
        have hescaped : lex ⟨before, .lines .basic (List.replicate run '"' ++ read) 0⟩
            (escapedChar true c ++ (escapedChars true 0 cs ++ (List.replicate 3 '"' ++ rest)))
            = lex ⟨before, .lines .basic (c :: (List.replicate run '"' ++ read)) 0⟩
              (escapedChars true 0 cs ++ (List.replicate 3 '"' ++ rest)) :=
          lex_escapedChar ⟨before, .between⟩ true hc
        rw [hchars, List.cons_append] at hescaped
        rw [if_neg (by simpa using hc), hchars, List.append_assoc, List.cons_append,
          lex_settled .basic hd hrun]
        refine hescaped.trans ?_
        rw [ih (Nat.zero_le 2)]
        simp

/-! ## Carriage returns -/

theorem return_notMem_plain (hcs : ∀ c ∈ cs, isPlain c = true ∨ c = '\n') : '\r' ∉ cs :=
  fun h => absurd (hcs _ h) (by decide)

theorem return_notMem_escapedChar : '\r' ∉ escapedChar lines c := by
  have hdigits : ∀ n, '\r' ∉ (Text.hexPadded 4 n).map Char.toUpper := fun n h =>
    absurd (Text.isSome_hexValue? (hexNumber?_map_toUpper 4 n) _ h) (by decide)
  unfold escapedChar
  split
  case h_3 => cases lines <;> decide
  case h_7 hreturn _ =>
    split
    · simp [hdigits]
    · rw [List.mem_singleton]
      exact Ne.symm hreturn
  all_goals decide

theorem return_notMem_escapedChars : '\r' ∉ escapedChars lines run cs := by
  induction cs generalizing run with
  | nil => exact List.not_mem_nil
  | cons c cs ih =>
      rw [escapedChars]
      split
      · rename_i hquote
        obtain rfl := beq_iff_eq.mp hquote
        split
        · simp [ih]
        · simp [ih]
      · simp [ih, return_notMem_escapedChar]

/-! ## Quotes of every style -/

/-- Three quotes stand on each side. -/
def Style.isTripled : Style → Bool
  | basicLines | literalLines | escapedLines => true
  | basic | literal | escaped => false

theorem plain_of_needsCode (h : cs.any needsCode = false) :
    ∀ c ∈ cs, isPlain c = true ∨ c = '\n' :=
  fun c hc => needsCode_eq_false (Bool.eq_false_iff.mpr (List.any_eq_false.mp h c hc))

/-- Single quotes are chosen only if nothing in the text could end it. -/
theorem of_styleOf_literal (h : styleOf cs = .literal) :
    ∀ c ∈ cs, isPlain c = true ∧ c ≠ '\x27' := by
  have hchosen : cs.any needsCode = false ∧ longestRun '\x27' 0 cs = 0 ∧ '\n' ∉ cs := by
    simp only [styleOf] at h
    split at h
    · cases h
    · split at h
      · rename_i hchosen
        simpa [and_assoc] using hchosen
      · repeat' split at h
        all_goals cases h
  obtain ⟨hcodes, hquote, hline⟩ := hchosen
  intro c hc
  refine ⟨(plain_of_needsCode hcodes c hc).resolve_right fun h => hline (h ▸ hc), ?_⟩
  rintro rfl
  exact notMem_of_longestRun hquote hc

theorem of_styleOf_literalLines (h : styleOf cs = .literalLines) :
    (∀ c ∈ cs, isPlain c = true ∨ c = '\n') ∧ longestRun '\x27' 0 cs ≤ 2 := by
  have hchosen : cs.any needsCode = false ∧ longestRun '\x27' 0 cs ≤ 2 := by
    simp only [styleOf] at h
    split at h
    · cases h
    · split at h
      · cases h
      · split at h
        · cases h
        · split at h
          · rename_i hchosen
            simpa using hchosen
          · split at h <;> cases h
  exact ⟨plain_of_needsCode hchosen.1, hchosen.2⟩

theorem return_notMem_between {q : Char} (hquote : q ≠ '\r') (hcs : '\r' ∉ cs) :
    '\r' ∉ between q lines cs := by
  have hquotes : ∀ n, '\r' ∉ List.replicate n q := fun n h =>
    hquote (List.eq_of_mem_replicate h).symm
  have hopening : '\r' ∉ if (lines && cs.contains '\n') = true then ['\n'] else [] := by
    split <;> decide
  simp only [between, List.mem_append, not_or]
  exact ⟨⟨⟨hquotes _, hopening⟩, hcs⟩, hquotes _⟩

theorem return_notMem_quoted : '\r' ∉ quoted cs := by
  rw [quoted]
  cases hstyle : styleOf cs with
  | basic | escaped | basicLines | escapedLines =>
      exact return_notMem_between (by decide) return_notMem_escapedChars
  | literal =>
      exact return_notMem_between (by decide)
        (return_notMem_plain fun c hc => .inl (of_styleOf_literal hstyle c hc).1)
  | literalLines =>
      exact return_notMem_between (by decide)
        (return_notMem_plain (of_styleOf_literalLines hstyle).1)

theorem lex_between_line (quote : Quote) (hcs : ∀ c ∈ cs.head?, c ≠ quote.char)
    (hrest : Delimited rest) :
    lex ⟨before, .between⟩ (between quote.char false cs ++ rest)
      = lex ⟨before, .line quote []⟩ (cs ++ quote.char :: rest) := by
  have hopen : Lexer.step ⟨before, .between⟩ quote.char = some ⟨before, .oneQuote quote⟩ := by
    cases quote <;> rfl
  have hchars : between quote.char false cs ++ rest
      = quote.char :: (cs ++ quote.char :: rest) := by
    simp [between]
  rw [hchars, lex_step hopen, lex_oneQuote hcs hrest]

theorem lex_between_lines (quote : Quote) (hreturn : '\r' ∉ cs) :
    lex ⟨before, .between⟩ (between quote.char true cs ++ rest)
      = lex ⟨before, .lines quote [] 0⟩ (cs ++ (List.replicate 3 quote.char ++ rest)) := by
  have hopen : Lexer.step ⟨before, .between⟩ quote.char = some ⟨before, .oneQuote quote⟩ := by
    cases quote <;> rfl
  have htwo : Lexer.step ⟨before, .oneQuote quote⟩ quote.char
      = some ⟨before, .twoQuotes quote⟩ := by
    simp [Lexer.step]
  have hthree : Lexer.step ⟨before, .twoQuotes quote⟩ quote.char
      = some ⟨before, .threeQuotes quote⟩ := by
    simp [Lexer.step]
  have hchars : between quote.char true cs ++ rest
      = quote.char :: quote.char :: quote.char :: ((if cs.contains '\n' then ['\n'] else [])
        ++ cs ++ (List.replicate 3 quote.char ++ rest)) := by
    simp [between, List.replicate]
  rw [hchars, lex_step hopen, lex_step htwo, lex_step hthree, lex_threeQuotes hreturn]

/-- **A quoted text is read back**, whatever it is. -/
theorem lex_quoted (hrest : Delimited rest) : lex ⟨before, .between⟩ (quoted cs ++ rest)
    = lex ⟨.text (String.ofList cs) (styleOf cs).isTripled :: before, .between⟩ rest := by
  have hline : lex ⟨before, .between⟩ (between '"' false (escapedChars false 0 cs) ++ rest)
      = lex ⟨.text (String.ofList cs) false :: before, .between⟩ rest :=
    (lex_between_line .basic ne_quote_of_head? hrest).trans lex_escapedChars_line
  have hlines : lex ⟨before, .between⟩ (between '"' true (escapedChars true 0 cs) ++ rest)
      = lex ⟨.text (String.ofList cs) true :: before, .between⟩ rest :=
    (lex_between_lines .basic return_notMem_escapedChars).trans
      (lex_escapedChars_lines (Nat.zero_le 2) hrest)
  rw [quoted]
  cases hstyle : styleOf cs with
  | basic | escaped => exact hline
  | basicLines | escapedLines => exact hlines
  | literal =>
      have hcs := of_styleOf_literal hstyle
      have hfirst : ∀ c ∈ cs.head?, c ≠ Quote.literal.char :=
        fun c hc => (hcs c (List.mem_of_mem_head? hc)).2
      exact (lex_between_line .literal hfirst hrest).trans (lex_literal hcs)
  | literalLines =>
      obtain ⟨hcs, hrun⟩ := of_styleOf_literalLines hstyle
      exact (lex_between_lines .literal (return_notMem_plain hcs)).trans
        (lex_literalLines hcs hrun hrest)

end Toml

end JobControl
