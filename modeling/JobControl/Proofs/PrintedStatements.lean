import JobControl.Proofs.Codecs
import JobControl.Proofs.PrintedLines
import JobControl.Toml.Document
import Mathlib.Data.List.TakeWhile

/-!
# Written statements

The tokens of a line leave the machine that makes statements with the
statement that the line is, and so a document that was written is read as
the statements of its lines. In front of the sign `=` the machine only
keeps what it gets, and looks at it when the line or the key is over;
behind it, what is kept is the value, with a stack of the brackets that are
open around it. The only brackets that are written are those of lists, and
these do not stand in one another.

A word has to be one of the words or numbers that there are. The written
form of a whole number is a sign and its digits, and so none of the others;
it is read back if the number has room.
-/

namespace JobControl.Toml

/-- The value that is written. -/
def Plain.toToml : Plain → Toml
  | text s => .text s
  | int n => .int n
  | bool b => .bool b
  | texts ss => .array false (ss.map .text)

/-- The statement that a line is. -/
def Line.statement : Line → Statement
  | table path => .table path
  | item path => .item path
  | field name value => .field [name] value.toToml

variable {statements : List Statement} {path : List String} {name : String} {v : Plain}
  {read rest tokens : List Token}

/-! ## The machine -/

/-- What the reader makes of some tokens. -/
def build (m : Reader) (tokens : List Token) : Option Reader :=
  tokens.foldlM Reader.step m

theorem build_step {m m' : Reader} {token : Token} (h : m.step token = some m') :
    build m (token :: rest) = build m' rest := by
  rw [build, List.foldlM_cons, h]
  rfl

/-! ## Keys and headings -/

theorem trimmed_of_ends {α : Type} {test : α → Bool} {first last : α} {items : List α}
    (hfirst : test first = false) (hlast : test last = false) :
    trimmed test (first :: (items ++ [last])) = first :: (items ++ [last]) := by
  simp [trimmed, hfirst, hlast]

theorem keyPart?_atom (hname : IsKey name) : keyPart? [.atom name] = some name := by
  have hchars : name.toList.all isKeyChar = true := List.all_eq_true.mpr hname.chars
  change (if name.toList.all isKeyChar then some name else none) = some name
  rw [if_pos hchars]

theorem key?_pathTokens (hpath : IsPath path) : key? (pathTokens path) = some path := by
  obtain ⟨hne, hshort, hkeys⟩ := hpath
  have hsplit : (pathTokens path).splitOn .dot = path.map fun name => [.atom name] :=
    List.splitOn_intercalate _ (by simp) (by simpa using hne)
  have hlength : (path.map fun name => [Token.atom name]).length ≤ maxDepth := by
    rwa [List.length_map]
  rw [key?, hsplit]
  simp only [hlength, if_true]
  exact mapM_eq_some fun name hname => keyPart?_atom (hkeys name hname)

theorem key?_field (hname : IsKey name) : key? [.atom name, .blank " "] = some [name] := by
  have hsplit : [Token.atom name, .blank " "].splitOn .dot = [[.atom name, .blank " "]] :=
    List.splitOn_eq_singleton (by simp)
  have hpart : keyPart? [.atom name, .blank " "] = keyPart? [.atom name] := rfl
  rw [key?, hsplit]
  simp [maxDepth, hpart, keyPart?_atom hname]

theorem exists_pathTokens (hpath : IsPath path) :
    ∃ name more, pathTokens path = .atom name :: more := by
  match path, hpath.ne_nil with
  | [name], _ => exact ⟨name, [], rfl⟩
  | name :: other :: path, _ => exact ⟨name, _, List.intercalate_cons_cons⟩

theorem plain_of_mem_pathTokens (path : List String) :
    ∀ token ∈ pathTokens path, token ≠ .newline ∧ token ≠ .equals := by
  induction path with
  | nil => exact nofun
  | cons name path ih =>
      cases path with
      | nil => simp [pathTokens]
      | cons other path =>
          have htokens : pathTokens (name :: other :: path)
              = .atom name :: .dot :: pathTokens (other :: path) :=
            List.intercalate_cons_cons
          rw [htokens]
          exact List.forall_mem_cons.mpr ⟨by simp, List.forall_mem_cons.mpr ⟨by simp, ih⟩⟩

/-- In front of the sign `=`, tokens are kept as they are. -/
theorem build_front (h : ∀ token ∈ tokens, token ≠ .newline ∧ token ≠ .equals) :
    build ⟨statements, .front read⟩ (tokens ++ rest)
      = build ⟨statements, .front (tokens.reverse ++ read)⟩ rest := by
  induction tokens generalizing read with
  | nil => rfl
  | cons token tokens ih =>
      obtain ⟨⟨hnewline, hequals⟩, htokens⟩ := List.forall_mem_cons.mp h
      have hstep : Reader.step ⟨statements, .front read⟩ token
          = some ⟨statements, .front (token :: read)⟩ := by
        cases token with
        | newline => exact absurd rfl hnewline
        | equals => exact absurd rfl hequals
        | _ => rfl
      rw [List.cons_append, build_step hstep, ih htokens]
      simp

/-- The line break in front of a heading that is not the first line. -/
theorem build_gap (first : Bool) :
    build ⟨statements, .front []⟩ ((if first then [] else [.newline]) ++ rest)
      = build ⟨statements, .front []⟩ rest := by
  cases first with
  | true => rfl
  | false => exact build_step rfl

/-- A heading with the line break in front of it. -/
theorem build_heading {s : Statement} (first : Bool)
    (h : ∀ token ∈ tokens, token ≠ .newline ∧ token ≠ .equals)
    (hs : heading? tokens = some (some s)) :
    build ⟨statements, .front []⟩
        ((if first then [] else [.newline]) ++ (tokens ++ .newline :: rest))
      = build ⟨s :: statements, .front []⟩ rest := by
  rw [build_gap, build_front h, List.append_nil]
  refine build_step ?_
  change (heading? tokens.reverse.reverse).map _ = _
  rw [List.reverse_reverse, hs]
  rfl

theorem heading?_table (hpath : IsPath path) :
    heading? (.openSquare :: (pathTokens path ++ [.closeSquare])) = some (some (.table path)) := by
  have hkey := key?_pathTokens hpath
  obtain ⟨name, more, htokens⟩ := exists_pathTokens hpath
  rw [heading?, trimmed_of_ends rfl rfl]
  rw [htokens] at hkey ⊢
  simp [hkey]

theorem heading?_item (hpath : IsPath path) :
    heading? (.openSquare :: .openSquare :: (pathTokens path ++ [.closeSquare, .closeSquare]))
      = some (some (.item path)) := by
  have hends : Token.openSquare :: .openSquare :: (pathTokens path ++ [.closeSquare, .closeSquare])
      = .openSquare
        :: ((.openSquare :: (pathTokens path ++ [.closeSquare])) ++ [.closeSquare]) := by
    simp
  rw [hends, heading?, trimmed_of_ends rfl rfl]
  simp [key?_pathTokens hpath]

/-! ## Values -/

theorem value?_atom {b s : String} :
    value? [.token (.blank b), .token (.atom s)] = scalar? s.toList := by
  have hflat : [s.toList].flatten = s.toList := List.append_nil _
  change scalar? [s.toList].flatten = _
  rw [hflat]

/-- The digits of a number have no underscores between them, and no leading zero. -/
theorem wholeDigits?_toDigits (n : Nat) :
    wholeDigits? (Nat.toDigits 10 n) = some (Nat.toDigits 10 n) := by
  have hdigits : ∀ c ∈ Nat.toDigits 10 n, c.isDigit = true := fun _ => Json.isDigit_of_mem_toDigits
  have hsplit : (Nat.toDigits 10 n).splitOn '_' = [Nat.toDigits 10 n] :=
    List.splitOn_eq_singleton fun h => absurd (hdigits _ h) (by decide)
  have hgrouped : grouped? Char.isDigit (Nat.toDigits 10 n) = some (Nat.toDigits 10 n) := by
    rw [grouped?, hsplit]
    simpa [Nat.toDigits_ne_nil] using hdigits
  rw [wholeDigits?, hgrouped, Option.bind_some]
  split
  · rename_i more hzero
    rcases Nat.eq_zero_or_pos n with rfl | hpos
    · cases hzero
    · exact absurd (by rw [hzero]; rfl) (Json.head?_toDigits hpos)
  · rfl

theorem sign_signed {negative : Bool} {n : Nat} :
    Decimal.sign (Json.signed negative (Nat.toDigits 10 n)) = (negative, Nat.toDigits 10 n) := by
  have hdigits : ∀ c ∈ Nat.toDigits 10 n, c.isDigit = true := fun _ => Json.isDigit_of_mem_toDigits
  cases negative with
  | true => rfl
  | false =>
      change Decimal.sign (Nat.toDigits 10 n) = _
      unfold Decimal.sign
      split
      · rename_i heq
        exact absurd (hdigits '-' (by simp [heq])) (by decide)
      · rename_i heq
        exact absurd (hdigits '+' (by simp [heq])) (by decide)
      · rfl

theorem decimal?_toString {n : Int} (h : (Plain.int n).HasRoom) :
    decimal? (toString n).toList = some (.int n) := by
  have hpart : ∀ c ∈ Nat.toDigits 10 n.natAbs, (c.isDigit || c == '_') = true := fun c hc => by
    rw [Json.isDigit_of_mem_toDigits hc]
    rfl
  have htake : (Nat.toDigits 10 n.natAbs).takeWhile (fun c => c.isDigit || c == '_')
      = Nat.toDigits 10 n.natAbs := List.takeWhile_eq_self_iff.mpr hpart
  have hdrop : (Nat.toDigits 10 n.natAbs).dropWhile (fun c => c.isDigit || c == '_') = [] :=
    List.dropWhile_eq_nil_iff.mpr hpart
  have hvalue : (if decide (n < 0) = true then -(n.natAbs : Int) else n.natAbs) = n := by
    simp only [decide_eq_true_eq]
    split <;> omega
  rw [Json.toList_toString, decimal?, sign_signed]
  simp only [htake, hdrop, wholeDigits?_toDigits, Option.bind_eq_bind, Option.bind_some,
    Decimal.natOf_toDigits, hvalue]
  exact if_pos h

theorem scalar?_toString {n : Int} (h : (Plain.int n).HasRoom) :
    scalar? (toString n).toList = some (.int n) := by
  have hchars : ∀ c ∈ (toString n).toList, c.isDigit = true ∨ c = '-' := by
    intro c hc
    rw [Json.toList_toString, Json.signed] at hc
    split at hc
    · rcases List.mem_cons.mp hc with rfl | hdigit
      · exact .inr rfl
      · exact .inl (Json.isDigit_of_mem_toDigits hdigit)
    · exact .inl (Json.isDigit_of_mem_toDigits hc)
  unfold scalar?
  split
  case h_12 => rw [decimal?_toString h]; rfl
  all_goals
    rename_i heq
    rw [heq] at hchars
    simp at hchars

/-! ### Arrays -/

/-- A value that is one word. -/
theorem build_word {word : String} {value : Toml} (h : scalar? word.toList = some value) :
    build ⟨statements, .behind path [] [.token (.blank " ")]⟩ (.atom word :: .newline :: rest)
      = build ⟨.field path value :: statements, .front []⟩ rest := by
  refine (build_step rfl).trans (build_step ?_)
  change (value? [.token (.blank " "), .token (.atom word)]).map _ = _
  rw [value?_atom, h]
  rfl

/-- The pieces of one of several texts in a list. -/
def itemPieces (s : String) : List Piece :=
  [.token .newline, .token (.blank "    "), .token (textToken s)]

theorem build_items {before : List Piece} {parts : List (List Piece)} (ss : List String) :
    build ⟨statements, .behind path [⟨false, before, parts⟩] [.token .newline]⟩
        (ss.flatMap itemTokens ++ rest)
      = build ⟨statements, .behind path [⟨false, before, (ss.map itemPieces).reverse ++ parts⟩]
          [.token .newline]⟩ rest := by
  induction ss generalizing parts with
  | nil => rfl
  | cons s ss ih =>
      have hitem : build ⟨statements, .behind path [⟨false, before, parts⟩] [.token .newline]⟩
          (itemTokens s ++ (ss.flatMap itemTokens ++ rest))
          = build ⟨statements, .behind path [⟨false, before, itemPieces s :: parts⟩]
            [.token .newline]⟩ (ss.flatMap itemTokens ++ rest) :=
        (build_step rfl).trans ((build_step rfl).trans ((build_step rfl).trans (build_step rfl)))
      rw [List.flatMap_cons, List.append_assoc, hitem, ih]
      simp

theorem array?_items (ss : List String) :
    array? (ss.map itemPieces ++ [[.token .newline]]) = some (.array false (ss.map .text)) := by
  have hfilled : filled (ss.map itemPieces ++ [[.token .newline]]) = ss.map itemPieces := by
    simp [filled, Piece.isGap]
  have hvalues : (ss.map itemPieces).mapM value? = some (ss.map .text) :=
    (List.mapM_map ..).trans List.mapM_pure
  rw [array?, hfilled, hvalues]
  rfl

theorem build_plain (hv : v.HasRoom) :
    build ⟨statements, .behind path [] [.token (.blank " ")]⟩ (v.tokens ++ .newline :: rest)
      = build ⟨.field path v.toToml :: statements, .front []⟩ rest := by
  cases v with
  | text s => exact (build_step rfl).trans (build_step rfl)
  | int n => exact build_word (scalar?_toString hv)
  | bool b => cases b <;> exact build_word rfl
  | texts ss =>
      match ss with
      | [] => exact (build_step rfl).trans ((build_step rfl).trans (build_step rfl))
      | [s] =>
          exact (build_step rfl).trans ((build_step rfl).trans ((build_step rfl).trans
            (build_step rfl)))
      | s :: t :: ss =>
          have hclose : Reader.step ⟨statements, .behind path
              [⟨false, [.token (.blank " ")], ((s :: t :: ss).map itemPieces).reverse ++ []⟩]
              [.token .newline]⟩ .closeSquare
              = some ⟨statements, .behind path [] [.value (.array false ((s :: t :: ss).map .text)),
                .token (.blank " ")]⟩ := by
            change (array? ([.token .newline]
              :: (((s :: t :: ss).map itemPieces).reverse ++ [])).reverse).map _ = _
            rw [List.append_nil, List.reverse_cons, List.reverse_reverse, array?_items]
            rfl
          have htokens : (Plain.texts (s :: t :: ss)).tokens ++ .newline :: rest
              = .openSquare :: .newline :: ((s :: t :: ss).flatMap itemTokens ++ .closeSquare
                :: .newline :: rest) := by
            simp [Plain.tokens]
          rw [htokens]
          exact (build_step rfl).trans ((build_step rfl).trans ((build_items (s :: t :: ss)).trans
            ((build_step hclose).trans (build_step rfl))))

/-! ## Lines and documents -/

theorem build_line {line : Line} (first : Bool) (hline : line.IsProper) :
    build ⟨statements, .front []⟩ (line.tokens first ++ rest)
      = build ⟨line.statement :: statements, .front []⟩ rest := by
  cases line with
  | table path =>
      have htokens : (Line.table path).tokens first ++ rest = (if first then [] else [.newline])
          ++ ((.openSquare :: (pathTokens path ++ [.closeSquare])) ++ .newline :: rest) := by
        simp [Line.tokens]
      have hplain : ∀ token ∈ Token.openSquare :: (pathTokens path ++ [.closeSquare]),
          token ≠ .newline ∧ token ≠ .equals := by
        simpa [or_imp, forall_and] using plain_of_mem_pathTokens path
      exact htokens ▸ build_heading first hplain (heading?_table hline)
  | item path =>
      have htokens : (Line.item path).tokens first ++ rest = (if first then [] else [.newline])
          ++ ((.openSquare :: .openSquare :: (pathTokens path ++ [.closeSquare, .closeSquare]))
            ++ .newline :: rest) := by
        simp [Line.tokens]
      have hplain : ∀ token ∈ Token.openSquare :: .openSquare
          :: (pathTokens path ++ [.closeSquare, .closeSquare]),
          token ≠ .newline ∧ token ≠ .equals := by
        simpa [or_imp, forall_and] using plain_of_mem_pathTokens path
      exact htokens ▸ build_heading first hplain (heading?_item hline)
  | field name v =>
      have htokens : (Line.field name v).tokens first ++ rest
          = .atom name :: .blank " " :: .equals :: .blank " "
            :: (v.tokens ++ .newline :: rest) := by
        simp [Line.tokens]
      have hequals : Reader.step ⟨statements, .front [.blank " ", .atom name]⟩ .equals
          = some ⟨statements, .behind [name] [] []⟩ := by
        change (key? [.atom name, .blank " "]).map _ = _
        rw [key?_field hline.1]
        rfl
      rw [htokens]
      exact (build_step rfl).trans ((build_step rfl).trans ((build_step hequals).trans
        ((build_step rfl).trans (build_plain hline.2))))

theorem build_lines {lines : List Line} (h : ∀ line ∈ lines, line.IsProper) :
    build ⟨statements, .front []⟩ (lines.flatMap (Line.tokens false))
      = some ⟨(lines.map Line.statement).reverse ++ statements, .front []⟩ := by
  induction lines generalizing statements with
  | nil => rfl
  | cons line lines ih =>
      obtain ⟨hline, hlines⟩ := List.forall_mem_cons.mp h
      rw [List.flatMap_cons, build_line false hline, ih hlines]
      simp

theorem statements?_documentTokens {lines : List Line} (h : ∀ line ∈ lines, line.IsProper) :
    statements? (documentTokens lines) = some (lines.map Line.statement) := by
  have hbuild : build ⟨[], .front []⟩ (documentTokens lines)
      = some ⟨(lines.map Line.statement).reverse, .front []⟩ := by
    cases lines with
    | nil => rfl
    | cons line lines =>
        obtain ⟨hline, hlines⟩ := List.forall_mem_cons.mp h
        rw [documentTokens, build_line true hline, build_lines hlines]
        simp
  have hfinish : Reader.finish ⟨(lines.map Line.statement).reverse, .front []⟩
      = some (lines.map Line.statement).reverse.reverse := rfl
  rw [build] at hbuild
  rw [statements?, hbuild, Option.bind_some, hfinish, List.reverse_reverse]

/-- **A document that was written is read as the statements that its lines
are.** -/
theorem parse?_written {lines : List Line} (h : ∀ line ∈ lines, line.IsProper) :
    parse? (written lines) = Document.ofStatements? (lines.map Line.statement) := by
  rw [parse?, tokens?_written h, Option.bind_some, statements?_documentTokens h, Option.bind_some]

end JobControl.Toml
