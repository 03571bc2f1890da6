import JobControl.Proofs.Tables
import JobControl.Settings.Overlay

/-!
# What is found in layers

A value that is laid at a path is found by the names of that path
(`found_laidAt`). Names that part from the path lead to what was there
before (`found_laidAt_of_parts`): the objects on the way are made anew,
but a field that is put into an object leaves the others as they are, and
what is no object has no fields to lose.

A layer is laid value by value. So a layer that parts from some names as a
whole changes nothing that they lead to (`found_lay_of_parts`), and one
that has a single value for them is all that counts (`found_lay`).
-/

namespace JobControl.Overlay

/-- The value to which some names lead. -/
def found : List String → Json → Option Json
  | [], j => some j
  | name :: names, j => ((fieldsOf j).lookup name).bind (found names)

/-- A path and some names go on under different names. -/
def parts : List Step → List String → Bool
  | .name name :: path, other :: names => name != other || parts path names
  | _, _ => false

section Laid

variable {path : List Step} {names : List String} {value below : Json}

/-- What is laid over anything else takes its place, if it is no object. -/
theorem laid_eq_self (h : value.object? = none) : laid below value = value := by
  cases value with
  | obj fields => cases h
  | null | bool _ | int _ | float _ | str _ | arr _ | garbled => rfl

theorem found_laidAt (h : value.object? = none) :
    found names (laidAt value (names.map .name) below) = some value := by
  induction names generalizing below with
  | nil => exact congrArg some (laid_eq_self h)
  | cons name names ih =>
      rw [List.map_cons, laidAt, found]
      exact (congrArg (·.bind (found names)) Entries.lookup_put_self).trans ih

theorem ne_nil_of_parts (h : parts path names = true) : names ≠ [] := by
  rintro rfl
  cases path with
  | nil => cases h
  | cons step path => cases step <;> cases h

theorem parts_self : parts (names.map .name) names = false := by
  induction names with
  | nil => rfl
  | cons name names ih => simpa [parts] using ih

theorem found_null (h : names ≠ []) : found names .null = none := by
  cases names with
  | nil => exact absurd rfl h
  | cons name names => rfl

theorem found_laidAt_of_parts (h : parts path names = true) :
    found names (laidAt value path below) = found names below := by
  induction path generalizing names below with
  | nil => cases h
  | cons step path ih =>
      cases step with
      | place index => cases h
      | name name =>
          cases names with
          | nil => cases h
          | cons other names =>
              rw [laidAt, found, found]
              by_cases hsame : other = name
              · subst hsame
                have hrest : parts path names = true := by simpa [parts] using h
                refine (congrArg (·.bind (found names)) Entries.lookup_put_self).trans ?_
                rw [Option.bind_some, ih hrest, get]
                cases (fieldsOf below).lookup other with
                | none => exact found_null (ne_nil_of_parts hrest)
                | some there => rfl
              · exact congrArg (·.bind (found names)) (Entries.lookup_put_of_ne hsame)

end Laid

section Layer

variable {layer : List (String × Json)} {names : List String} {value below : Json}

/-- **What a layer does not speak of stays as it is.** -/
theorem found_lay_of_parts (h : ∀ entry ∈ layer, parts (path entry.1) names = true) :
    found names (lay below layer) = found names below := by
  induction layer generalizing below with
  | nil => rfl
  | cons entry layer ih =>
      obtain ⟨hentry, hrest⟩ := List.forall_mem_cons.mp h
      exact (ih hrest).trans (found_laidAt_of_parts hentry)

/-- **What a layer says takes the place of what was there**, if nothing
else in the layer is said of the same. -/
theorem found_lay (hvalue : value.object? = none)
    (h : ∀ entry ∈ layer, parts (path entry.1) names = true
      ∨ path entry.1 = names.map .name ∧ entry.2 = value)
    (hthere : found names below = some value
      ∨ ∃ entry ∈ layer, path entry.1 = names.map .name ∧ entry.2 = value) :
    found names (lay below layer) = some value := by
  induction layer generalizing below with
  | nil => simpa [lay] using hthere
  | cons entry layer ih =>
      obtain ⟨hentry, hrest⟩ := List.forall_mem_cons.mp h
      -- an entry either keeps what has been found so far or puts the value there
      refine @ih (laidAt entry.2 (path entry.1) below) hrest ?_
      rcases hentry with hparts | ⟨hpath, rfl⟩
      · rw [found_laidAt_of_parts hparts]
        refine hthere.imp_right ?_
        rintro ⟨other, hother, hpath, hsaid⟩
        rcases List.mem_cons.mp hother with rfl | hlater
        · rw [hpath, parts_self] at hparts
          cases hparts
        · exact ⟨other, hlater, hpath, hsaid⟩
      · rw [hpath]
        exact .inl (found_laidAt hvalue)

end Layer

end JobControl.Overlay
