import JobControl.Proofs.TextBytes
import JobControl.Session.Credentials

/-!
# What a signed token says

A token that was made with the secret says of its holder what its claims
say: the name, the roles, and those capabilities that are spelled like one.
The way there is long, as the claims are written as a document, the
document as bytes, the bytes as digits, and the parts are put behind each
other with a signature at the end; but each of these steps can be undone
by itself, so that `signed?_ofClaims` has no more to say than which of two
secrets was used.

Whether a token has expired is decided in whole seconds, and a minute
later than it says.
-/

namespace JobControl

namespace Json

theorem areClear_eq_true {items : List Json} :
    areClear items = true ↔ ∀ item ∈ items, item.isClear = true := by
  induction items with
  | nil => simp [areClear]
  | cons item items ih => rw [areClear, Bool.and_eq_true, ih, List.forall_mem_cons]

theorem areClearFields_eq_true {fields : List (String × Json)} :
    areClearFields fields = true ↔ ∀ field ∈ fields, field.2.isClear = true := by
  induction fields with
  | nil => simp [areClearFields]
  | cons field fields ih => rw [areClearFields, Bool.and_eq_true, ih, List.forall_mem_cons]

/-- Nothing is garbled in a value that is read back. -/
theorem Readable.isClear {room : Nat} {j : Json} (h : Readable room j) : j.isClear = true := by
  induction h with
  | arr _ ih => exact areClear_eq_true.mpr ih
  | obj _ ih => exact areClearFields_eq_true.mpr ih
  | _ => rfl

end Json

open Json (Readable)

/-! ## Claims -/

theorem faithful_claims (c : Claims) : Faithful c := by
  intro s
  delta instCodecClaims
  dsimp only [Json.object?, Json.required, Json.withDefault, Option.bind_eq_bind, Option.bind_some]
  refine read_field (faithful_string _) rfl ?_
  refine read_field (faithful_int64 _) rfl ?_
  refine read_field (faithful_int64 _) rfl ?_
  refine read_field (faithful_list fun text _ => faithful_string text) rfl ?_
  exact read_field (faithful_list fun text _ => faithful_string text) rfl rfl

theorem readable_claims {room : Nat} (c : Claims) : Readable (room + 2) (encode c) := by
  delta instCodecClaims
  simp

namespace Token

variable {front last : List Char} {j : Json} {c : Claims} {secret other : String}
  {nowMs : Int64}

/-! ## The parts of a token -/

/-- What stands behind the last dot is split off. -/
theorem splitLast_append (h : '.' ∉ last) :
    splitLast (front ++ '.' :: last) = some (front, last) := by
  have hlast : (front ++ ['.'] ++ last).reverse.takeWhile (· != '.') = last.reverse := by
    rw [List.reverse_append, List.reverse_concat, List.takeWhile_append_of_pos,
      List.takeWhile_cons_of_neg (by decide), List.append_nil]
    intro c hc
    rw [bne_iff_ne]
    rintro rfl
    exact h (List.mem_reverse.mp hc)
  have hfront : (front ++ ['.'] ++ last).take ((front ++ ['.'] ++ last).length - last.length)
      = front ++ ['.'] := by
    rw [List.length_append, Nat.add_sub_cancel, List.take_left]
  rw [List.append_cons]
  simp only [splitLast, hlast, List.reverse_reverse, hfront, List.reverse_concat]

theorem ofToken?_part : Base64.ofToken? (part j) = some (bytes j.compact) :=
  Base64.ofToken?_token

theorem ofBytes?_compact (h : Readable Json.maxDepth j) :
    Json.ofBytes? (bytes j.compact) = some j := by
  rw [Json.ofBytes?_bytes, Json.ofText?_compact h]

/-- What is signed. -/
def message (c : Claims) : String := part header ++ "." ++ part (encode c)

theorem readable_header {room : Nat} : Readable (room + 1) header :=
  .obj (List.forall_mem_cons.mpr ⟨.str, List.forall_mem_cons.mpr ⟨.str, nofun⟩⟩)

theorem isGoodHeader_header : isGoodHeader header = true := by decide

theorem ofFields?_claims {subject expires issuedAt roles capabilities : Json}
    (hexpires : RegisteredClaims.isPassable expires = true) :
    RegisteredClaims.ofFields? [("sub", subject), ("exp", expires), ("iat", issuedAt),
        ("roles", roles), ("capabilities", capabilities)]
      = some ⟨RegisteredClaims.seconds? expires, false⟩ := by
  simp [RegisteredClaims.ofFields?, RegisteredClaims.names, Json.once, List.lookup_cons, hexpires]

theorem ofBody?_encode {bytes : List UInt8} (hexpires : 0 ≤ c.expires.toInt) :
    RegisteredClaims.ofBody? bytes (encode c) = some ⟨some c.expires.toInt.toNat, false⟩ := by
  have hseconds : RegisteredClaims.seconds? (encode c.expires) = some c.expires.toInt.toNat :=
    if_pos hexpires
  have hreadable : Readable 2 (encode c) := readable_claims c
  rw [RegisteredClaims.ofBody?, if_pos hreadable.isClear, ← hseconds]
  exact ofFields?_claims rfl

theorem splitLast_message : splitLast (message c).toList
    = some ((part header).toList, (part (encode c)).toList) := by
  have hmessage : (message c).toList
      = (part header).toList ++ '.' :: (part (encode c)).toList := by
    simp [message]
  rw [hmessage]
  exact splitLast_append Base64.dot_notMem_token

theorem splitLast_ofClaims : splitLast (ofClaims secret c).toList
    = some ((message c).toList, (sign secret (message c)).toList) := by
  have htoken : ofClaims secret c = message c ++ "." ++ sign secret (message c) := rfl
  have hchars : (ofClaims secret c).toList
      = (message c).toList ++ '.' :: (sign secret (message c)).toList := by
    simp [htoken]
  rw [hchars]
  exact splitLast_append Base64.dot_notMem_token

theorem sign_eq_iff {text : String} : sign secret text = sign other text ↔
    Sha256.hmac (bytes secret) (bytes text) = Sha256.hmac (bytes other) (bytes text) :=
  ⟨Base64.token_inj, congrArg Base64.token⟩

/-- What becomes of the parts of a token whose header is good. -/
theorem signed?_of_parts {token : String} {signature headerText bodyText text : List Char}
    {header body : Json} {bytes : List UInt8}
    (htoken : splitLast token.toList = some (text, signature))
    (htext : splitLast text = some (headerText, bodyText))
    (hheader : (Base64.ofToken? (String.ofList headerText)).bind Json.ofBytes? = some header)
    (hgood : isGoodHeader header = true)
    (hbytes : Base64.ofToken? (String.ofList bodyText) = some bytes)
    (hbody : Json.ofBytes? bytes = some body) :
    signed? secret token = if sign secret (String.ofList text) = String.ofList signature
      then (decode body).bind fun claims =>
        (RegisteredClaims.ofBody? bytes body).map fun registered => (claims, registered)
      else none := by
  simp only [signed?, htoken, htext, hheader, hgood, hbytes, hbody, Option.bind_eq_bind,
    Option.bind_some]
  by_cases hsign : sign secret (String.ofList text) = String.ofList signature
  · simp only [hsign, bne_self_eq_false, Bool.not_true, Bool.or_self, Bool.false_eq_true,
      if_false, if_true, Option.map_eq_bind]
    rfl
  · simp [hsign]

/-- **A token that was made is read**, unless another secret has signed it
in another way. -/
theorem signed?_ofClaims (hexpires : 0 ≤ c.expires.toInt) :
    signed? secret (ofClaims other c) = if sign secret (message c) = sign other (message c)
      then some (c, ⟨some c.expires.toInt.toNat, false⟩) else none := by
  have hheader : (Base64.ofToken? (String.ofList (part header).toList)).bind Json.ofBytes?
      = some header := by
    rw [String.ofList_toList, ofToken?_part, Option.bind_some, ofBytes?_compact readable_header]
  have hbytes : Base64.ofToken? (String.ofList (part (encode c)).toList)
      = some (bytes (encode c).compact) := by
    rw [String.ofList_toList, ofToken?_part]
  have hclaims : decode (encode c) = some c := faithful_claims c .narrow
  -- the header is a variable there, as a given one would be read again at every step
  rw [signed?_of_parts splitLast_ofClaims splitLast_message hheader isGoodHeader_header hbytes
    (ofBytes?_compact (readable_claims c)), hclaims, ofBody?_encode hexpires,
    String.ofList_toList, String.ofList_toList]
  rfl

/-! ## Reading -/

/-- From the second minute of the epoch on. -/
theorem oldest_eq (hclock : 60000 ≤ nowMs.toInt) : oldest nowMs = nowMs.toInt / 1000 - 60 := by
  have hmax := nowMs.toInt_lt
  exact Int.emod_eq_of_lt (by omega) (by omega)

theorem read_ofClaims (hexpires : 0 ≤ c.expires.toInt) (hclock : 60000 ≤ nowMs.toInt) :
    read secret (ofClaims secret c) nowMs
      = if c.expires.toInt < nowMs.toInt / 1000 - 60 then .error .expired else .ok c := by
  have hseconds : (c.expires.toInt.toNat : Int) = c.expires.toInt := Int.toNat_of_nonneg hexpires
  rw [read, signed?_ofClaims hexpires, if_pos rfl, oldest_eq hclock]
  simp only [hseconds, Bool.false_eq_true, if_false]

theorem read_ofClaims_of_ne (hexpires : 0 ≤ c.expires.toInt)
    (hsign : sign secret (message c) ≠ sign other (message c)) :
    read secret (ofClaims other c) nowMs = .error .invalid := by
  rw [read, signed?_ofClaims hexpires, if_neg hsign]

end Token

/-! ## Whom a token belongs to -/

theorem Capability.ofText?_eq_some {text : String} {capability : Capability} :
    Capability.ofText? text = some capability ↔ normalized text = capability.name := by
  constructor
  · intro h
    have hname := List.find?_some h
    exact (beq_iff_eq.mp hname).symm
  · intro h
    rw [ofText?, h]
    cases capability <;> rfl

theorem mem_capabilitiesOf {texts : List String} {capability : Capability} :
    capability ∈ capabilitiesOf texts
      ↔ ∃ text ∈ texts, Capability.normalized text = capability.name := by
  simp only [capabilitiesOf, mem_setOf, List.mem_filterMap, Capability.ofText?_eq_some]

/-- **A token says what its claims say.** Who shows a token that was made
with the secret is recognised by the name of its subject, acts for the
roles that are given in it, and holds the capabilities that are spelled in
it, unless more than 60 seconds have passed since the second in which it
expired; then it is refused as expired. A token that was signed with
another secret is refused as invalid, unless both secrets sign it alike. -/
theorem AuthSettings.token_holder_recognised (s : AuthSettings) (c : Claims) (nowMs : Int64)
    (hexpires : 0 ≤ c.expires.toInt) (hclock : 60000 ≤ nowMs.toInt) :
    (nowMs.toInt / 1000 - 60 ≤ c.expires.toInt →
        ∃ p, s.recognise nowMs (.bearer (Token.ofClaims s.secret c)) = .ok p
          ∧ p.name = c.subject ∧ (∀ role, role ∈ p.roles ↔ role ∈ c.roles)
          ∧ ∀ capability, capability ∈ p.capabilities
            ↔ ∃ text ∈ c.capabilities, Capability.normalized text = capability.name)
      ∧ (c.expires.toInt < nowMs.toInt / 1000 - 60 →
        s.recognise nowMs (.bearer (Token.ofClaims s.secret c)) = .error .expiredToken)
      ∧ ∀ secret, Sha256.hmac (Token.bytes secret) (Token.bytes (Token.message c))
          ≠ Sha256.hmac (Token.bytes s.secret) (Token.bytes (Token.message c)) →
        s.recognise nowMs (.bearer (Token.ofClaims secret c)) = .error .invalidToken := by
  refine ⟨fun hgood => ?_, fun hexpired => ?_, fun secret hhmac => ?_⟩
  · have hread := @Token.read_ofClaims c s.secret nowMs hexpires hclock
    rw [if_neg (Int.not_lt.mpr hgood)] at hread
    refine ⟨⟨c.subject, setOf c.roles, capabilitiesOf c.capabilities⟩, ?_, rfl,
      fun role => mem_setOf, fun capability => mem_capabilitiesOf⟩
    rw [recognise, hread]
  · have hread := @Token.read_ofClaims c s.secret nowMs hexpires hclock
    rw [if_pos hexpired] at hread
    rw [recognise, hread]
  · have hsign : Token.sign s.secret (Token.message c) ≠ Token.sign secret (Token.message c) :=
      fun h => hhmac (Token.sign_eq_iff.mp h).symm
    rw [recognise, Token.read_ofClaims_of_ne hexpires hsign]

/-! ## A token in its last second -/

/-- What is said of somebody who may do everything. -/
def operatorClaims : Claims where
  subject := "Zoë"
  expires := 60
  issuedAt := 0
  roles := ["web", "web"]
  capabilities := [" root ", "x"]

theorem hmac_ne_operatorClaims :
    Sha256.hmac (Token.bytes "guessed") (Token.bytes (Token.message operatorClaims))
      ≠ Sha256.hmac (Token.bytes AuthSettings.default.secret)
        (Token.bytes (Token.message operatorClaims)) := by
  decide +kernel

/-- The token is good for the whole of the last second of the minute. What
is said twice counts once, and what is no capability is passed over. -/
theorem AuthSettings.token_holder_recognised_last_second :
    let s := AuthSettings.default
    let token := Credential.bearer (Token.ofClaims s.secret operatorClaims)
    let forged := Credential.bearer (Token.ofClaims "guessed" operatorClaims)
    0 ≤ operatorClaims.expires.toInt ∧ 60000 ≤ (120999 : Int64).toInt
      ∧ (∃ p, s.recognise 120999 token = .ok p ∧ p.name = "Zoë"
        ∧ (∀ role, role ∈ p.roles ↔ role = "web")
        ∧ ∀ capability, capability ∈ p.capabilities ↔ capability = .root)
      ∧ s.recognise 121000 token = .error .expiredToken
      ∧ s.recognise 120999 forged = .error .invalidToken := by
  intro s token forged
  have hexpires : 0 ≤ operatorClaims.expires.toInt := by decide
  have hclock : 60000 ≤ (120999 : Int64).toInt := by decide
  obtain ⟨hgood, -, hforged⟩ :=
    s.token_holder_recognised operatorClaims 120999 hexpires hclock
  obtain ⟨-, hexpired, -⟩ :=
    s.token_holder_recognised operatorClaims 121000 hexpires (by decide)
  obtain ⟨p, hp, hname, hroles, hcapabilities⟩ := hgood (by decide)
  refine ⟨hexpires, hclock, ⟨p, hp, hname, fun role => ?_, fun capability => ?_⟩,
    hexpired (by decide), hforged "guessed" hmac_ne_operatorClaims⟩
  · rw [hroles]
    simp [operatorClaims]
  · have hroot : Capability.normalized " root " = Capability.root.name := by decide +kernel
    have hnone : Capability.normalized "x" ≠ capability.name := by
      cases capability <;> decide +kernel
    simp only [hcapabilities, operatorClaims, List.mem_cons, List.not_mem_nil, or_false,
      exists_eq_or_imp, exists_eq_left, hroot, hnone]
    cases capability <;> decide

end JobControl
