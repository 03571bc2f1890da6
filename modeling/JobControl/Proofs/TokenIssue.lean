import JobControl.Proofs.KillRoles
import JobControl.Proofs.SignedTokens

/-!
# Tokens that can be issued

The hours for which tokens are good are only checked to be positive, and a
token says as a date when it expires. So settings without a defect issue
tokens as long as the calendar has room for that date
(`claimsFor_eq_some_iff`), which it does not have for all hours that are
positive. What is issued says what it was asked to say, and its holder is
recognised at once: the expiry is ahead of the clock, because the hours are
positive.
-/

namespace JobControl

/-! ## The last date -/

/-- The last second of the calendar. -/
def Token.lastSecond : Int := 8210266876799

example : Calendar.dateOfDay (Token.lastSecond / 86400) = ⟨262142, 12, 31⟩
    ∧ Token.lastSecond % 86400 = 86399 := by
  decide

namespace Token

variable {nowMs hours : Int64} {subject : String} {roles : List String}
  {capabilities : List Capability}

/-- The second in which a token expires that is good for some hours. -/
def expiry (nowMs hours : Int64) : Int := nowMs.toInt / 1000 + 3600 * hours.toInt

/-- Claims are made if the calendar has room for the expiry, and only then. -/
theorem claimsFor_eq_some_iff {c : Claims} (hclock : 0 ≤ nowMs.toInt) (hhours : 0 < hours.toInt) :
    claimsFor nowMs hours subject roles capabilities = some c ↔
      expiry nowMs hours ≤ lastSecond
        ∧ c.subject = subject ∧ c.issuedAt.toInt = nowMs.toInt / 1000
        ∧ c.expires.toInt = expiry nowMs hours
        ∧ c.roles = roles ∧ c.capabilities = capabilities.map Capability.name := by
  have hmax := nowMs.toInt_lt
  have hissued : (Int64.ofInt (nowMs.toInt / 1000)).toInt = nowMs.toInt / 1000 :=
    Int64.toInt_ofInt_of_le (by omega) (by omega)
  have hpositive : 0 ≤ expiry nowMs hours := by
    rw [expiry]
    omega
  rw [claimsFor]
  by_cases hroom : expiry nowMs hours ≤ lastSecond
  · have hexpires : (Int64.ofInt (expiry nowMs hours)).toInt = expiry nowMs hours := by
      rw [lastSecond] at hroom
      exact Int64.toInt_ofInt_of_le (by omega) (by omega)
    rw [if_pos ⟨Int.le_trans (by decide) hpositive, hroom⟩, Option.some_inj]
    constructor
    · rintro rfl
      exact ⟨hroom, rfl, hissued, hexpires, rfl, rfl⟩
    · obtain ⟨subject', expires, issuedAt, roles', capabilities'⟩ := c
      rintro ⟨-, rfl, hissued', hexpires', rfl, rfl⟩
      rw [Claims.mk.injEq]
      exact ⟨rfl, Int64.toInt_inj.mp (hexpires.trans hexpires'.symm),
        Int64.toInt_inj.mp (hissued.trans hissued'.symm), rfl, rfl⟩
  · rw [if_neg fun h => hroom h.2]
    exact ⟨nofun, fun h => absurd h.1 hroom⟩

end Token

/-! ## Whoever is named -/

theorem Capability.normalized_name (c : Capability) : normalized c.name = c.name := by
  cases c <;> decide +kernel

theorem Capability.name_inj {a b : Capability} : a.name = b.name ↔ a = b := by
  constructor
  · cases a <;> cases b <;> simp [name]
  · exact congrArg name

theorem mem_capabilitiesOf_names {capabilities : List Capability} {capability : Capability} :
    capability ∈ capabilitiesOf (capabilities.map Capability.name)
      ↔ capability ∈ capabilities := by
  rw [mem_capabilitiesOf]
  constructor
  · rintro ⟨text, htext, hname⟩
    obtain ⟨c, hc, rfl⟩ := List.mem_map.mp htext
    rwa [← Capability.name_inj.mp (c.normalized_name.symm.trans hname)]
  · exact fun h => ⟨_, List.mem_map_of_mem h, capability.normalized_name⟩

theorem Principal.inRoles_eq_ok {p : Principal} {roles : Names} :
    p.inRoles roles = .ok p ↔ p.actsFor roles = true := by
  rw [inRoles]
  split <;> simp_all

namespace AuthSettings

variable {s : AuthSettings}

theorem tokenHours_pos (h : s.defect? = none) : 0 < s.tokenHours.toInt := by
  rcases Int.lt_or_le 0 s.tokenHours.toInt with hpos | hle
  · exact hpos
  · have hrefused : s.tokenHours ≤ 0 := Int64.le_iff_toInt_le.mpr hle
    rw [defect?, if_pos hrefused] at h
    split at h <;> cases h

/-- **Settings without a defect issue tokens as far as the calendar goes.**
Whoever is named in a token that was issued is recognised by it at once, with
the roles and the capabilities that it was to carry, and is let in wherever
no role is asked for or one of these is. No token is issued that would expire
behind the end of the calendar. -/
theorem token_issued_iff (s : AuthSettings) (nowMs : Int64) (haccepted : s.defect? = none)
    (hclock : 60000 ≤ nowMs.toInt) (subject : String) (roles : List String)
    (capabilities : List Capability) :
    ((∃ c, Token.claimsFor nowMs s.tokenHours subject roles capabilities = some c) ↔
        nowMs.toInt / 1000 + 3600 * s.tokenHours.toInt ≤ Token.lastSecond)
      ∧ ∀ c, Token.claimsFor nowMs s.tokenHours subject roles capabilities = some c →
        c.issuedAt.toInt = nowMs.toInt / 1000
          ∧ c.expires.toInt = c.issuedAt.toInt + 3600 * s.tokenHours.toInt
          ∧ ∃ p, s.recognise nowMs (.bearer (Token.ofClaims s.secret c)) = .ok p
            ∧ p.name = subject ∧ (∀ role, role ∈ p.roles ↔ role ∈ roles)
            ∧ (∀ capability, capability ∈ p.capabilities ↔ capability ∈ capabilities)
            ∧ ∀ asked : Names, p.inRoles asked = .ok p ↔
              asked = ∅ ∨ ∃ role ∈ asked, role ∈ roles := by
  have hhours := tokenHours_pos haccepted
  have hclaims := fun c => @Token.claimsFor_eq_some_iff nowMs s.tokenHours subject roles
    capabilities c (by omega) hhours
  refine ⟨⟨fun ⟨c, hc⟩ => ((hclaims c).mp hc).1, fun hroom => ?_⟩, fun c hc => ?_⟩
  · have hpositive : 0 ≤ nowMs.toInt / 1000 + 3600 * s.tokenHours.toInt := by omega
    rw [Token.claimsFor, if_pos ⟨Int.le_trans (by decide) hpositive, hroom⟩]
    exact ⟨_, rfl⟩
  · obtain ⟨-, rfl, hissued, hexpires, rfl, hcapabilities⟩ := (hclaims c).mp hc
    rw [Token.expiry] at hexpires
    have hread := @Token.read_ofClaims c s.secret nowMs (by omega) hclock
    rw [if_neg (by omega)] at hread
    refine ⟨hissued, by omega, ⟨c.subject, setOf c.roles, capabilitiesOf c.capabilities⟩, ?_,
      rfl, fun role => mem_setOf, fun capability => ?_, fun asked => ?_⟩
    · rw [recognise, hread]
    · rw [hcapabilities, mem_capabilitiesOf_names]
    · rw [Principal.inRoles_eq_ok, Principal.actsFor_iff]
      simp only [mem_setOf]

/-! ## The end of the calendar -/

/-- Settings under which tokens are good for as long as they may be for the
last second of the year 9999 to have one. -/
def longLived : AuthSettings := { AuthSettings.default with tokenHours := 2210240160 }

/-- In the last second of the year 9999 a token is issued that is good to the
last second of the calendar; from then on, there is none. -/
theorem token_issued_to_the_end :
    longLived.defect? = none ∧ 60000 ≤ (253402300799999 : Int64).toInt
      ∧ (∃ c, Token.claimsFor 253402300799999 longLived.tokenHours "bob" ["mesos"] [.root] = some c
        ∧ c.expires.toInt = Token.lastSecond
        ∧ ∃ p, longLived.recognise 253402300799999 (.bearer (Token.ofClaims longLived.secret c))
            = .ok p
          ∧ p.inRoles (setOf ["mesos"]) = .ok p)
      ∧ Token.claimsFor 253402300800000 longLived.tokenHours "bob" ["mesos"] [.root] = none := by
  have haccepted : longLived.defect? = none := by decide +kernel
  have hclock : 60000 ≤ (253402300799999 : Int64).toInt := by decide
  obtain ⟨hissued, hholder⟩ :=
    longLived.token_issued_iff 253402300799999 haccepted hclock "bob" ["mesos"] [.root]
  obtain ⟨hlast, -⟩ :=
    longLived.token_issued_iff 253402300800000 haccepted (by decide) "bob" ["mesos"] [.root]
  obtain ⟨c, hc⟩ := hissued.mpr (by decide)
  obtain ⟨hissuedAt, hexpires, p, hp, -, -, -, hroles⟩ := hholder c hc
  refine ⟨haccepted, hclock, ⟨c, hc, ?_, p, hp, (hroles _).mpr (Or.inr ⟨"mesos", ?_, ?_⟩)⟩, ?_⟩
  · rw [hexpires, hissuedAt]
    decide
  · exact mem_setOf.mpr (List.mem_singleton_self _)
  · exact List.mem_singleton_self _
  · rw [Option.eq_none_iff_forall_ne_some]
    exact fun c hc => absurd (hlast.mp ⟨c, hc⟩) (by decide)

/-- Settings under which tokens are good for as long as can be written. -/
def everlasting : AuthSettings := { AuthSettings.default with tokenHours := Int64.maxValue }

/-- Not all settings without a defect issue tokens. -/
theorem not_always_issued : ¬ ∀ (s : AuthSettings) (nowMs : Int64) (subject : String)
    (roles : List String) (capabilities : List Capability), s.defect? = none →
    60000 ≤ nowMs.toInt → nowMs.toInt < 253402300800000 →
    ∃ c, Token.claimsFor nowMs s.tokenHours subject roles capabilities = some c := by
  intro hissued
  have haccepted : everlasting.defect? = none := by decide +kernel
  obtain ⟨c, hc⟩ := hissued everlasting 60000 "bob" [] [] haccepted (by decide) (by decide)
  have hnone : Token.claimsFor 60000 everlasting.tokenHours "bob" [] [] = none := by decide
  rw [hnone] at hc
  cases hc

end AuthSettings

end JobControl
