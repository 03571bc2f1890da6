import JobControl.Proofs.PrintedNumbers
import JobControl.Proofs.QuotedTexts
import JobControl.Toml.Statement

/-!
# Written lines

The characters of a line leave the machine that makes tokens with the
tokens of the line, whatever stands in front of them; so those of a document
leave it with the tokens of all its lines. Names and numbers have no end of
their own, nor have spaces: they go on until something follows that is no
part of them, so that one has to look at what the writer puts behind them.
Texts have been dealt with already, and there every text will do. What is
asked of a line is only that its names need no quotes and that its numbers
have room (`Line.IsProper`).
-/

namespace JobControl.Toml

/-! ## Lines that can be read -/

/-- A name that needs no quotes. -/
structure IsKey (name : String) : Prop where
  ne_nil : name.toList ≠ []
  chars : ∀ c ∈ name.toList, isKeyChar c = true

/-- A path that a heading may name. -/
structure IsPath (path : List String) : Prop where
  ne_nil : path ≠ []
  short : path.length ≤ maxDepth
  keys : ∀ name ∈ path, IsKey name

instance (name : String) : Decidable (IsKey name) :=
  decidable_of_iff (name.toList ≠ [] ∧ name.toList.all isKeyChar = true)
    ⟨fun h => ⟨h.1, List.all_eq_true.mp h.2⟩,
      fun h => ⟨h.ne_nil, List.all_eq_true.mpr h.chars⟩⟩

instance (path : List String) : Decidable (IsPath path) :=
  decidable_of_iff (path ≠ [] ∧ path.length ≤ maxDepth ∧ path.all (IsKey ·) = true)
    ⟨fun h => ⟨h.1, h.2.1, by simpa using h.2.2⟩,
      fun h => ⟨h.ne_nil, h.short, by simpa using h.keys⟩⟩

/-- A value for which the reader has room. -/
def Plain.HasRoom : Plain → Prop
  | int n => -0x80000000000000000000000000000000 ≤ n ∧ n < 0x100000000000000000000000000000000
  | text _ | bool _ | texts _ => True

/-- A line that the reader can read. -/
def Line.IsProper : Line → Prop
  | table path | item path => IsPath path
  | field name value => IsKey name ∧ value.HasRoom

/-! ## Tokens of lines -/

def textToken (s : String) : Token := .text s (styleOf s.toList).isTripled

def pathTokens (path : List String) : List Token :=
  [Token.dot].intercalate (path.map fun name => [.atom name])

/-- The tokens of one of several texts in a list. -/
def itemTokens (s : String) : List Token :=
  [.blank "    ", textToken s, .comma, .newline]

def Plain.tokens : Plain → List Token
  | text s => [textToken s]
  | int n => [.atom (toString n)]
  | bool b => [.atom (if b then "true" else "false")]
  | texts [] => [.openSquare, .closeSquare]
  | texts [s] => [.openSquare, textToken s, .closeSquare]
  | texts ss => [.openSquare, .newline] ++ ss.flatMap itemTokens ++ [.closeSquare]

def Line.tokens (first : Bool) : Line → List Token
  | table path =>
    (if first then [] else [.newline]) ++ [.openSquare] ++ pathTokens path
      ++ [.closeSquare, .newline]
  | item path =>
    (if first then [] else [.newline]) ++ [.openSquare, .openSquare] ++ pathTokens path
      ++ [.closeSquare, .closeSquare, .newline]
  | field name value =>
    [.atom name, .blank " ", .equals, .blank " "] ++ value.tokens ++ [.newline]

variable {before : List Token} {read cs rest : List Char} {c : Char} {s : String}

/-! ## From characters to tokens -/

theorem not_mark_of_isKeyChar (hc : isKeyChar c = true) : isMark c = false ∧ isSpace c = false := by
  constructor
  · rw [Bool.eq_false_iff]
    intro hmark
    simp only [isMark, List.contains_eq_mem, decide_eq_true_eq, List.mem_cons,
      List.not_mem_nil, or_false] at hmark
    rcases hmark with rfl | rfl | rfl | rfl | rfl | rfl | rfl | rfl | rfl | rfl | rfl | rfl <;>
      exact absurd hc (by decide)
  · rw [Bool.eq_false_iff]
    intro hspace
    simp only [isSpace, Bool.or_eq_true, beq_iff_eq] at hspace
    rcases hspace with rfl | rfl <;> exact absurd hc (by decide)

theorem start_of_isKeyChar (hc : isKeyChar c = true) :
    Lexer.start ⟨before, .between⟩ c = ⟨before, .atom [c]⟩ := by
  obtain ⟨hmark, hspace⟩ := not_mark_of_isKeyChar hc
  unfold Lexer.start
  split
  case h_13 => simp [hspace]
  all_goals exact absurd hc (by decide)

/-- A name goes on until something follows that is no part of it. -/
theorem lex_key (hs : IsKey s) (hrest : ∀ c ∈ rest.head?, (isSpace c || isMark c) = true) :
    lex ⟨before, .between⟩ (s.toList ++ rest) = lex ⟨.atom s :: before, .between⟩ rest := by
  have hmore : ∀ (cs read : List Char), (∀ c ∈ cs, isKeyChar c = true) →
      lex ⟨before, .atom read⟩ (cs ++ rest)
        = lex ⟨.atom (String.ofList (read.reverse ++ cs)) :: before, .between⟩ rest := by
    intro cs
    induction cs with
    | nil =>
        intro read _
        rw [List.nil_append, List.append_nil]
        refine lex_of_finish rfl fun c hc => ?_
        simp only [Lexer.step, hrest c hc, if_true]
        rfl
    | cons c cs ih =>
        intro read hcs
        obtain ⟨hc, hcs⟩ := List.forall_mem_cons.mp hcs
        obtain ⟨hmark, hspace⟩ := not_mark_of_isKeyChar hc
        have hstep : Lexer.step ⟨before, .atom read⟩ c = some ⟨before, .atom (c :: read)⟩ := by
          simp [Lexer.step, hmark, hspace]
        rw [List.cons_append, lex_step hstep, ih _ hcs]
        simp
  obtain ⟨hne, hchars⟩ := hs
  cases hcs : s.toList with
  | nil => exact absurd hcs hne
  | cons c cs =>
      rw [hcs] at hchars
      obtain ⟨hc, hchars⟩ := List.forall_mem_cons.mp hchars
      have hstart : Lexer.step ⟨before, .between⟩ c = some ⟨before, .atom [c]⟩ :=
        congrArg some (start_of_isKeyChar hc)
      have hs : String.ofList ([c].reverse ++ cs) = s := by
        rw [List.reverse_singleton, List.singleton_append, ← hcs, String.ofList_toList]
      rw [List.cons_append, lex_step hstart, hmore cs [c] hchars, hs]

/-- Spaces go on until something else follows. -/
theorem lex_spaces {n : Nat} (hrest : ∀ c ∈ rest.head?, isSpace c = false) :
    lex ⟨before, .between⟩ (List.replicate (n + 1) ' ' ++ rest)
      = lex ⟨.blank (String.ofList (List.replicate (n + 1) ' ')) :: before, .between⟩ rest := by
  have hmore : ∀ n read, lex ⟨before, .blank read⟩ (List.replicate n ' ' ++ rest)
      = lex ⟨.blank (String.ofList (read.reverse ++ List.replicate n ' ')) :: before, .between⟩
          rest := by
    intro n
    induction n with
    | zero =>
        intro read
        rw [List.replicate_zero, List.nil_append, List.append_nil]
        refine lex_of_finish rfl fun c hc => ?_
        simp only [Lexer.step, hrest c hc]
        rfl
    | succ n ih =>
        intro read
        rw [List.replicate_succ, List.cons_append]
        refine (lex_step rfl).trans ((ih _).trans ?_)
        simp
  rw [List.replicate_succ, List.cons_append]
  exact (lex_step rfl).trans (hmore n [' '])

theorem isKey_toString (n : Int) : IsKey (toString n) := by
  have hdigit : ∀ c ∈ Nat.toDigits 10 n.natAbs, isKeyChar c = true := fun c hc => by
    simp [isKeyChar, Char.isAlphanum, Json.isDigit_of_mem_toDigits hc]
  have hne : Nat.toDigits 10 n.natAbs ≠ [] := Nat.toDigits_ne_nil
  constructor
  · rw [Json.toList_toString, Json.signed]
    split
    · exact List.cons_ne_nil _ _
    · exact hne
  · rw [Json.toList_toString, Json.signed]
    split
    · exact List.forall_mem_cons.mpr ⟨rfl, hdigit⟩
    · exact hdigit

theorem isKey_bool (b : Bool) : IsKey (if b then "true" else "false") := by
  cases b <;> decide

theorem lex_text (hrest : Delimited rest) :
    lex ⟨before, .between⟩ (quoted s.toList ++ rest)
      = lex ⟨textToken s :: before, .between⟩ rest := by
  rw [lex_quoted hrest, String.ofList_toList]
  rfl

theorem exists_quoted (cs : List Char) : ∃ c more, quoted cs = c :: more ∧ isSpace c = false := by
  rw [quoted]
  split <;> exact ⟨_, _, rfl, by decide⟩

theorem delimited_cons (hmark : (isSpace c || isMark c) = true) (hbasic : c ≠ '"')
    (hliteral : c ≠ '\x27') : Delimited (c :: rest) := by
  intro c' hc'
  cases hc'
  exact ⟨hmark, hbasic, hliteral⟩

/-- The characters of one of several texts in a list. -/
def itemChars (s : String) : List Char :=
  List.replicate 4 ' ' ++ quoted s.toList ++ [',', '\n']

theorem lex_item : lex ⟨before, .between⟩ (itemChars s ++ rest)
    = lex ⟨(itemTokens s).reverse ++ before, .between⟩ rest := by
  obtain ⟨c, more, hquoted, hc⟩ := exists_quoted s.toList
  have hfirst : ∀ c ∈ (quoted s.toList ++ (',' :: '\n' :: rest)).head?, isSpace c = false := by
    rw [hquoted]
    intro c' hc'
    cases hc'
    exact hc
  rw [itemChars, List.append_assoc, List.append_assoc]
  refine (lex_spaces hfirst).trans ((lex_text ?_).trans ((lex_step rfl).trans (lex_step rfl)))
  exact delimited_cons (by decide) (by decide) (by decide)

theorem lex_items (ss : List String) : lex ⟨before, .between⟩ (ss.flatMap itemChars ++ rest)
    = lex ⟨(ss.flatMap itemTokens).reverse ++ before, .between⟩ rest := by
  induction ss generalizing before with
  | nil => rfl
  | cons s ss ih =>
      rw [List.flatMap_cons, List.append_assoc, lex_item, ih]
      simp

theorem lex_plain (v : Plain) (hrest : Delimited rest) :
    lex ⟨before, .between⟩ (v.chars ++ rest)
      = lex ⟨v.tokens.reverse ++ before, .between⟩ rest := by
  have hmark : ∀ c ∈ rest.head?, (isSpace c || isMark c) = true := fun c hc => (hrest c hc).1
  have hclose : Delimited (']' :: rest) := delimited_cons (by decide) (by decide) (by decide)
  cases v with
  | text s => exact lex_text hrest
  | int n => exact lex_key (isKey_toString n) hmark
  | bool b =>
      cases b with
      | true => exact lex_key (isKey_bool true) hmark
      | false => exact lex_key (isKey_bool false) hmark
  | texts ss =>
      match ss with
      | [] => exact (lex_step rfl).trans (lex_step rfl)
      | [s] =>
          have hchars : (Plain.texts [s]).chars ++ rest
              = '[' :: (quoted s.toList ++ ']' :: rest) := by
            simp [Plain.chars]
          rw [hchars]
          exact (lex_step rfl).trans ((lex_text hclose).trans (lex_step rfl))
      | s :: t :: ss =>
          have hchars : (Plain.texts (s :: t :: ss)).chars ++ rest
              = '[' :: '\n' :: ((s :: t :: ss).flatMap itemChars ++ ']' :: rest) := by
            change ['[', '\n'] ++ (s :: t :: ss).flatMap itemChars ++ [']'] ++ rest = _
            simp only [List.append_assoc, List.cons_append, List.nil_append]
          have htokens : (Plain.texts (s :: t :: ss)).tokens.reverse ++ before
              = .closeSquare :: (((s :: t :: ss).flatMap itemTokens).reverse
                ++ .newline :: .openSquare :: before) := by
            simp [Plain.tokens]
          rw [hchars, htokens]
          exact (lex_step rfl).trans ((lex_step rfl).trans
            ((lex_items (s :: t :: ss)).trans (lex_step rfl)))

/-! ### Lines -/

theorem pathChars_singleton {name : String} : pathChars [name] = name.toList := by
  simp [pathChars]

theorem pathChars_cons_cons {name other : String} {path : List String} :
    pathChars (name :: other :: path) = name.toList ++ '.' :: pathChars (other :: path) := by
  simp [pathChars]

theorem lex_path {path : List String} (hpath : IsPath path) :
    lex ⟨before, .between⟩ (pathChars path ++ ']' :: rest)
      = lex ⟨(pathTokens path).reverse ++ before, .between⟩ (']' :: rest) := by
  obtain ⟨hne, -, hkeys⟩ := hpath
  have hnext : ∀ c (rest : List Char), isMark c = true →
      ∀ c' ∈ (c :: rest).head?, (isSpace c' || isMark c') = true := by
    intro c rest hc c' hc'
    cases hc'
    rw [hc, Bool.or_true]
  induction path generalizing before with
  | nil => exact absurd rfl hne
  | cons name path ih =>
      obtain ⟨hname, hkeys⟩ := List.forall_mem_cons.mp hkeys
      cases path with
      | nil =>
          rw [pathChars_singleton]
          exact lex_key hname (hnext _ _ rfl)
      | cons other path =>
          have htokens : (pathTokens (name :: other :: path)).reverse ++ before
              = (pathTokens (other :: path)).reverse ++ .dot :: .atom name :: before := by
            simp [pathTokens, List.intercalate]
          rw [pathChars_cons_cons, List.append_assoc, List.cons_append, htokens]
          exact (lex_key hname (hnext _ _ rfl)).trans
            ((lex_step rfl).trans (ih (List.cons_ne_nil _ _) hkeys))

/-- The line break in front of a heading that is not the first line. -/
theorem lex_gap (first : Bool) :
    lex ⟨before, .between⟩ ((if first then [] else ['\n']) ++ rest)
      = lex ⟨(if first then [] else [Token.newline]) ++ before, .between⟩ rest := by
  cases first with
  | true => rfl
  | false => exact lex_step rfl

theorem exists_plain (v : Plain) : ∃ c more, v.chars = c :: more ∧ isSpace c = false := by
  have hkey : ∀ {s : String}, IsKey s → ∃ c more, s.toList = c :: more ∧ isSpace c = false := by
    intro s hs
    obtain ⟨c, more, hcs⟩ := List.exists_cons_of_ne_nil hs.ne_nil
    exact ⟨c, more, hcs, (not_mark_of_isKeyChar (hs.chars c (by simp [hcs]))).2⟩
  cases v with
  | text s => exact exists_quoted s.toList
  | int n => exact hkey (isKey_toString n)
  | bool b => cases b <;> exact ⟨_, _, rfl, by decide⟩
  | texts ss =>
      match ss with
      | [] | [_] | _ :: _ :: _ => exact ⟨'[', _, rfl, by decide⟩

theorem lex_field {name : String} {v : Plain} (hname : IsKey name) :
    lex ⟨before, .between⟩ (name.toList ++ ' ' :: '=' :: ' ' :: (v.chars ++ '\n' :: rest))
      = lex ⟨.newline :: (v.tokens.reverse ++ .blank " " :: .equals :: .blank " " :: .atom name
          :: before), .between⟩ rest := by
  have hequals : ∀ c ∈ ('=' :: ' ' :: (v.chars ++ '\n' :: rest)).head?, isSpace c = false := by
    intro c hc
    cases hc
    decide
  have hvalue : ∀ c ∈ (v.chars ++ '\n' :: rest).head?, isSpace c = false := by
    obtain ⟨c, more, hchars, hc⟩ := exists_plain v
    rw [hchars]
    intro c' hc'
    cases hc'
    exact hc
  have hend : Delimited ('\n' :: rest) := delimited_cons (by decide) (by decide) (by decide)
  calc lex ⟨before, .between⟩ (name.toList ++ ' ' :: '=' :: ' ' :: (v.chars ++ '\n' :: rest))
      = lex ⟨.atom name :: before, .between⟩ (' ' :: '=' :: ' ' :: (v.chars ++ '\n' :: rest)) :=
        lex_key hname (by simp [isSpace])
    _ = lex ⟨.blank " " :: .atom name :: before, .between⟩
          ('=' :: ' ' :: (v.chars ++ '\n' :: rest)) := lex_spaces (n := 0) hequals
    _ = lex ⟨.equals :: .blank " " :: .atom name :: before, .between⟩
          (' ' :: (v.chars ++ '\n' :: rest)) := lex_step rfl
    _ = lex ⟨.blank " " :: .equals :: .blank " " :: .atom name :: before, .between⟩
          (v.chars ++ '\n' :: rest) := lex_spaces (n := 0) hvalue
    _ = lex ⟨v.tokens.reverse ++ .blank " " :: .equals :: .blank " " :: .atom name :: before,
          .between⟩ ('\n' :: rest) := lex_plain v hend
    _ = _ := lex_step rfl

theorem lex_line {line : Line} (first : Bool) (hline : line.IsProper) :
    lex ⟨before, .between⟩ (line.chars first ++ rest)
      = lex ⟨(line.tokens first).reverse ++ before, .between⟩ rest := by
  cases line with
  | table path =>
      simp only [Line.chars, Line.tokens, List.append_assoc, List.cons_append, List.nil_append,
        List.reverse_append, List.reverse_cons, List.reverse_nil]
      refine (lex_gap first).trans ((lex_step rfl).trans ((lex_path hline).trans
        ((lex_step rfl).trans ((lex_step rfl).trans ?_))))
      cases first <;> rfl
  | item path =>
      simp only [Line.chars, Line.tokens, List.append_assoc, List.cons_append, List.nil_append,
        List.reverse_append, List.reverse_cons, List.reverse_nil]
      refine (lex_gap first).trans ((lex_step rfl).trans ((lex_step rfl).trans
        ((lex_path hline).trans ((lex_step rfl).trans ((lex_step rfl).trans
          ((lex_step rfl).trans ?_))))))
      cases first <;> rfl
  | field name v =>
      have hchars : (Line.field name v).chars first ++ rest
          = name.toList ++ ' ' :: '=' :: ' ' :: (v.chars ++ '\n' :: rest) := by
        simp [Line.chars]
      have htokens : ((Line.field name v).tokens first).reverse ++ before
          = .newline :: (v.tokens.reverse ++ .blank " " :: .equals :: .blank " " :: .atom name
            :: before) := by
        simp [Line.tokens]
      rw [hchars, htokens, lex_field hline.1]

theorem return_notMem_key (hs : IsKey s) : '\r' ∉ s.toList :=
  fun h => absurd (hs.chars _ h) (by decide)

theorem return_notMem_plain_chars (v : Plain) : '\r' ∉ v.chars := by
  cases v with
  | text s => exact return_notMem_quoted
  | int n => exact return_notMem_key (isKey_toString n)
  | bool b => cases b <;> decide
  | texts ss =>
      match ss with
      | [] => decide
      | [s] => simp [Plain.chars, return_notMem_quoted]
      | s :: t :: ss => simp [Plain.chars, return_notMem_quoted]

theorem return_notMem_pathChars {path : List String} (hpath : IsPath path) :
    '\r' ∉ pathChars path := by
  obtain ⟨-, -, hkeys⟩ := hpath
  induction path with
  | nil => decide
  | cons name path ih =>
      obtain ⟨hname, hkeys⟩ := List.forall_mem_cons.mp hkeys
      cases path with
      | nil => simp [pathChars_singleton, return_notMem_key hname]
      | cons other path => simp [pathChars_cons_cons, return_notMem_key hname, ih hkeys]

theorem return_notMem_line {line : Line} {first : Bool} (hline : line.IsProper) :
    '\r' ∉ line.chars first := by
  cases line with
  | table path => cases first <;> simp [Line.chars, return_notMem_pathChars hline]
  | item path => cases first <;> simp [Line.chars, return_notMem_pathChars hline]
  | field name v =>
      simp [Line.chars, return_notMem_key hline.1, return_notMem_plain_chars]

theorem returnsPaired_of_notMem (h : '\r' ∉ cs) : returnsPaired cs = true := by
  induction cs with
  | nil => rfl
  | cons c cs ih =>
      rw [List.mem_cons, not_or] at h
      unfold returnsPaired
      split
      · rfl
      · rename_i heq
        cases heq
        exact absurd rfl h.1
      · rename_i heq
        cases heq
        exact ih h.2

/-! ### Documents -/

/-- The characters of a document. -/
def documentChars : List Line → List Char
  | [] => []
  | line :: lines => line.chars true ++ lines.flatMap (Line.chars false)

/-- The tokens of a document. -/
def documentTokens : List Line → List Token
  | [] => []
  | line :: lines => line.tokens true ++ lines.flatMap (Line.tokens false)

theorem toList_written {lines : List Line} : (written lines).toList = documentChars lines := by
  cases lines <;> simp [written, documentChars]

theorem lex_lines {lines : List Line} (h : ∀ line ∈ lines, line.IsProper) :
    lex ⟨before, .between⟩ (lines.flatMap (Line.chars false))
      = some ⟨(lines.flatMap (Line.tokens false)).reverse ++ before, .between⟩ := by
  induction lines generalizing before with
  | nil => rfl
  | cons line lines ih =>
      obtain ⟨hline, hlines⟩ := List.forall_mem_cons.mp h
      rw [List.flatMap_cons, lex_line false hline, ih hlines]
      simp

theorem unmarked_documentChars {lines : List Line} (h : ∀ line ∈ lines, line.IsProper) :
    unmarked (documentChars lines) = documentChars lines := by
  cases lines with
  | nil => rfl
  | cons line lines =>
      have hfirst : ∃ c more, line.chars true = c :: more ∧ c ≠ byteOrderMark := by
        cases line with
        | table path => exact ⟨'[', _, rfl, by decide⟩
        | item path => exact ⟨'[', _, rfl, by decide⟩
        | field name v =>
            obtain ⟨hname, -⟩ := h _ (List.mem_cons_self ..)
            obtain ⟨c, more, hcs⟩ := List.exists_cons_of_ne_nil hname.ne_nil
            refine ⟨c, more ++ ' ' :: '=' :: ' ' :: (v.chars ++ ['\n']), ?_, ?_⟩
            · simp [Line.chars, hcs]
            · rintro rfl
              exact absurd (hname.chars byteOrderMark (by simp [hcs])) (by decide)
      obtain ⟨c, more, hchars, hc⟩ := hfirst
      rw [documentChars, hchars, List.cons_append, unmarked, if_neg (by simpa using hc)]

theorem return_notMem_documentChars {lines : List Line} (h : ∀ line ∈ lines, line.IsProper) :
    '\r' ∉ documentChars lines := by
  cases lines with
  | nil => decide
  | cons line lines =>
      obtain ⟨hline, hlines⟩ := List.forall_mem_cons.mp h
      simp only [documentChars, List.mem_append, List.mem_flatMap, not_or, not_exists, not_and]
      exact ⟨return_notMem_line hline, fun line hmem => return_notMem_line (hlines line hmem)⟩

/-- The tokens of a document that was written. -/
theorem tokens?_written {lines : List Line} (h : ∀ line ∈ lines, line.IsProper) :
    tokens? (unmarked (written lines).toList) = some (documentTokens lines) := by
  have hlex : lex ⟨[], .between⟩ (documentChars lines)
      = some ⟨(documentTokens lines).reverse, .between⟩ := by
    cases lines with
    | nil => rfl
    | cons line lines =>
        obtain ⟨hline, hlines⟩ := List.forall_mem_cons.mp h
        rw [documentChars, lex_line true hline, lex_lines hlines]
        simp [documentTokens]
  rw [lex] at hlex
  rw [toList_written, unmarked_documentChars h, tokens?,
    if_pos (returnsPaired_of_notMem (return_notMem_documentChars h)), hlex, Option.map_some,
    List.reverse_reverse]

end JobControl.Toml
