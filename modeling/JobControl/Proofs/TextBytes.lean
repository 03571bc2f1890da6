import JobControl.Proofs.Codecs
import JobControl.Session.Token

/-!
# Texts and their bytes

A token carries documents in two wrappings: the characters of a document
are written as bytes, and the bytes as digits of six bits. Each is taken
off by a reader that also meets bytes and digits which nobody has written,
and gives up on them or marks them; what was written is read back from
both.

For characters the reader goes by positions in the bytes, so that the
statement is about a text behind another one. For digits it is enough to
look at the groups of three bytes one by one, as no group depends on
another.
-/

namespace JobControl

/-! ## Characters as bytes -/

theorem toList_loop_eq {bytes : ByteArray} {i : Nat} {read : List UInt8} :
    ByteArray.toList.loop bytes i read = read.reverse ++ bytes.data.toList.drop i := by
  fun_induction ByteArray.toList.loop bytes i read with
  | case1 i read hi ih =>
      have hlength : i < bytes.data.toList.length := hi
      have hnext : bytes.get! i = bytes.data.toList[i] := getElem!_pos bytes.data i hi
      rw [ih, List.drop_eq_getElem_cons hlength, hnext, List.reverse_cons, List.append_assoc,
        List.singleton_append]
  | case2 i read hi =>
      have hend : bytes.data.toList.length ≤ i := Nat.le_of_not_lt hi
      rw [List.drop_eq_nil_of_le hend, List.append_nil]

theorem mk_toArray_bytes {text : String} : ⟨(Token.bytes text).toArray⟩ = text.toByteArray := by
  rw [Token.bytes, ByteArray.toList, toList_loop_eq]
  rfl

namespace Json

variable {front rest : List Char}

/-- The characters behind the front of a text are found where it ends. -/
theorem symbolsFrom_utf8Encode : symbolsFrom (front ++ rest).utf8Encode front.utf8Encode.size
    = rest.map some := by
  induction rest generalizing front with
  | nil =>
      rw [List.append_nil, symbolsFrom, dif_neg (Nat.lt_irrefl _)]
      rfl
  | cons c rest ih =>
      have hnext : (front ++ c :: rest).utf8Encode.utf8DecodeChar? front.utf8Encode.size
          = some c := by
        rw [ByteArray.utf8DecodeChar?_eq_utf8DecodeChar?_extract, List.utf8Encode_append,
          ByteArray.extract_append_eq_right rfl ByteArray.size_append,
          List.utf8DecodeChar?_utf8Encode_cons]
      have hsize : (front ++ [c]).utf8Encode.size = front.utf8Encode.size + c.utf8Size := by
        rw [List.utf8Encode_append, ByteArray.size_append, List.utf8Encode_singleton,
          List.size_toByteArray, String.length_utf8EncodeChar]
      have hlt : front.utf8Encode.size < (front ++ c :: rest).utf8Encode.size :=
        ByteArray.lt_size_of_isSome_utf8DecodeChar? (by rw [hnext]; rfl)
      have hrest := @ih (front ++ [c])
      rw [List.append_assoc, List.singleton_append, hsize] at hrest
      rw [symbolsFrom, dif_pos hlt]
      split
      · rename_i found hfound
        obtain rfl := Option.some.inj (hfound.symm.trans hnext)
        rw [hrest, List.map_cons]
      · rename_i hnone
        rw [hnext] at hnone
        cases hnone

/-- The bytes of a text are read as the text is. -/
theorem ofBytes?_bytes {text : String} : ofBytes? (Token.bytes text) = ofText? text := by
  have hsymbols : symbolsFrom text.toByteArray 0 = text.toList.map some := by
    rw [← String.utf8Encode_toList]
    exact @symbolsFrom_utf8Encode [] text.toList
  rw [ofBytes?, mk_toArray_bytes, hsymbols, ofText?]

end Json

/-! ## Bytes as digits -/

namespace Base64

/-- The values of the digits of a group. -/
def groupValues (a : UInt8) (more : List UInt8) : List Nat :=
  let b := (more.getD 0 0).toNat
  let c := (more.getD 1 0).toNat
  let n := a.toNat * 65536 + b * 256 + c
  [n / 262144, n / 4096 % 64, n / 64 % 64, n % 64].take (more.length + 2)

/-- The values of the digits of some bytes. -/
def values : List UInt8 → List Nat
  | a :: b :: c :: rest => groupValues a [b, c] ++ values rest
  | [a, b] => groupValues a [b]
  | [a] => groupValues a []
  | [] => []

variable {bytes : List UInt8}

theorem digits_eq_map_values {last : List Char} :
    digits last bytes = (values bytes).map (digit last) := by
  fun_induction digits last bytes with
  | case1 a b c rest ih => rw [values, List.map_append, ← ih, group, groupValues]
  | case2 | case3 | case4 => rfl

theorem lt_of_mem_groupValues {a : UInt8} {more : List UInt8} {n : Nat}
    (hn : n ∈ groupValues a more) : n < 64 := by
  have ha := a.toNat_lt
  have hb := (more.getD 0 0).toNat_lt
  have hc := (more.getD 1 0).toNat_lt
  have hmem := List.mem_of_mem_take hn
  simp only [List.mem_cons, List.not_mem_nil, or_false] at hmem
  omega

theorem lt_of_mem_values {n : Nat} (hn : n ∈ values bytes) : n < 64 := by
  fun_induction values bytes with
  | case1 a b c rest ih =>
      exact (List.mem_append.mp hn).elim lt_of_mem_groupValues ih
  | case2 | case3 => exact lt_of_mem_groupValues hn
  | case4 => cases hn

theorem tokenValue?_digit : ∀ n < 64, tokenValue? (digit tokenEnd n) = some n := by
  decide

theorem toUInt8_eq {a : UInt8} {n : Nat} (h : n = a.toNat) : n.toUInt8 = a := by
  rw [h]
  exact UInt8.ofNat_toNat

theorem bytesOf?_values : bytesOf? (values bytes) = some bytes := by
  fun_induction values bytes with
  | case1 a b c rest ih =>
      have hb := b.toNat_lt
      have hc := c.toNat_lt
      -- the reader puts the number together that the digits were taken from
      have hnumber : ∀ n : Nat, n / 262144 * 262144 + n / 4096 % 64 * 4096 + n / 64 % 64 * 64
          + n % 64 = n := fun n => by omega
      show bytesOf? (_ :: _ :: _ :: _ :: values rest) = _
      simp only [bytesOf?, hnumber, ih, Option.bind_eq_bind, Option.bind_some, Option.pure_def,
        List.getD_cons_zero, List.getD_cons_succ]
      rw [toUInt8_eq (a := a), toUInt8_eq (a := b), toUInt8_eq (a := c)] <;> omega
  | case2 a b =>
      have hb := b.toNat_lt
      have hnumber : ∀ n : Nat, n / 262144 * 4096 + n / 4096 % 64 * 64 + n / 64 % 64 = n / 64 :=
        fun n => by omega
      show bytesOf? [_, _, _] = _
      simp only [bytesOf?, hnumber, List.getD_cons_zero, List.getD_cons_succ, List.getD_nil,
        UInt8.toNat_zero]
      rw [if_pos (by rw [beq_iff_eq]; omega), toUInt8_eq (a := a), toUInt8_eq (a := b)] <;> omega
  | case3 a =>
      have hnumber : ∀ n : Nat, n / 262144 * 64 + n / 4096 % 64 = n / 4096 := fun n => by omega
      show bytesOf? [_, _] = _
      simp only [bytesOf?, hnumber, List.getD_nil, UInt8.toNat_zero]
      rw [if_pos (by rw [beq_iff_eq]; omega), toUInt8_eq (a := a)]
      omega
  | case4 => rfl

/-- **What was written in the form for tokens is read back.** -/
theorem ofToken?_token : ofToken? (token bytes) = some bytes := by
  have hvalues : (digits tokenEnd bytes).mapM tokenValue? = some (values bytes) := by
    rw [digits_eq_map_values]
    exact mapM_eq_some fun n hn => tokenValue?_digit n (lt_of_mem_values hn)
  rw [ofToken?, token, String.toList_ofList, hvalues, Option.bind_some, bytesOf?_values]

theorem token_inj {other : List UInt8} (h : token bytes = token other) : bytes = other := by
  have hread := congrArg ofToken? h
  rwa [ofToken?_token, ofToken?_token, Option.some.injEq] at hread

/-- No digit is a dot. -/
theorem dot_notMem_token : '.' ∉ (token bytes).toList := by
  rw [token, String.toList_ofList, digits_eq_map_values, List.mem_map]
  rintro ⟨n, hn, hdigit⟩
  have hvalue := tokenValue?_digit n (lt_of_mem_values hn)
  rw [hdigit] at hvalue
  cases hvalue

end Base64

end JobControl
