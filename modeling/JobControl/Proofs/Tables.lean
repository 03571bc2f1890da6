import JobControl.Collections

/-!
# Tables and sets, by what they hold

A table is known by what is filed under each name, and a set by its
elements. The lemmas here say so for the operations of the store: what is
under a name after something was filed or taken out, and that the listing
`values` has exactly what is filed under some name, as often as it is
filed. The order of listings is not needed. Entries of a list are known by
their order too, and there a new name comes behind the others.
-/

namespace JobControl

namespace Table

variable {α : Type} {t : Table α} {name other : String} {a : α}

theorem getElem?_insert :
    (t.insert name a)[other]? = if name = other then some a else t[other]? := by
  simp only [Std.ExtTreeMap.getElem?_insert, Std.compare_eq_iff_eq]

theorem getElem?_erase : (t.erase name)[other]? = if name = other then none else t[other]? := by
  simp only [Std.ExtTreeMap.getElem?_erase, Std.compare_eq_iff_eq]

theorem getElem?_foldl_insert {f : String → α} : ∀ {names : List String} {t : Table α},
    (names.foldl (fun t name => t.insert name (f name)) t)[other]? =
      if other ∈ names then some (f other) else t[other]?
  | [], t => by simp
  | name :: names, t => by
      rw [List.foldl_cons, getElem?_foldl_insert, getElem?_insert]
      by_cases h : name = other
      · simp [h]
      · simp [h, Ne.symm h]

theorem getElem?_foldl_erase : ∀ {names : List String} {t : Table α},
    (names.foldl (fun t name => t.erase name) t)[other]? =
      if other ∈ names then none else t[other]?
  | [], t => by simp
  | name :: names, t => by
      rw [List.foldl_cons, getElem?_foldl_erase, getElem?_erase]
      by_cases h : name = other
      · simp [h]
      · simp [h, Ne.symm h]

theorem values_eq_map_toList (t : Table α) : t.values = t.toList.map Prod.snd := by
  obtain ⟨⟨q⟩⟩ := t
  induction q using Quotient.ind with
  | _ m =>
      show m.inner.values = (Std.DTreeMap.Internal.Impl.Const.toList m.inner).map Prod.snd
      rw [Std.DTreeMap.Internal.Impl.values_eq_map_snd,
        Std.DTreeMap.Internal.Impl.Const.toList_eq_toListModel_map, List.map_map]
      rfl

theorem mem_values : a ∈ t.values ↔ ∃ name : String, t[name]? = some a := by
  rw [values_eq_map_toList, List.mem_map]
  constructor
  · rintro ⟨⟨name, b⟩, h, rfl⟩
    exact ⟨name, Std.ExtTreeMap.mem_toList_iff_getElem?_eq_some.mp h⟩
  · rintro ⟨name, h⟩
    exact ⟨(name, a), Std.ExtTreeMap.mem_toList_iff_getElem?_eq_some.mpr h, rfl⟩

theorem length_values (t : Table α) : t.values.length = t.size := by
  rw [values_eq_map_toList, List.length_map, Std.ExtTreeMap.length_toList]

theorem nodup_toList : t.toList.Nodup :=
  Std.ExtTreeMap.distinct_keys_toList.imp fun h heq => h (by rw [heq, Std.compare_self])

/-- What is filed under a new name joins the listing. -/
theorem values_insert_perm (h : t[name]? = none) :
    (t.insert name a).values.Perm (a :: t.values) := by
  have hnot : (name, a) ∉ t.toList := by
    rw [Std.ExtTreeMap.mem_toList_iff_getElem?_eq_some, h]
    nofun
  have hperm : (t.insert name a).toList.Perm ((name, a) :: t.toList) := by
    refine (List.perm_ext_iff_of_nodup nodup_toList
      (List.nodup_cons.mpr ⟨hnot, nodup_toList⟩)).mpr fun ⟨other, b⟩ => ?_
    rw [List.mem_cons, Std.ExtTreeMap.mem_toList_iff_getElem?_eq_some,
      Std.ExtTreeMap.mem_toList_iff_getElem?_eq_some, getElem?_insert, Prod.mk.injEq]
    by_cases hname : name = other
    · subst hname
      simp [h, eq_comm]
    · simp [hname, Ne.symm hname]
  rw [values_eq_map_toList, values_eq_map_toList]
  exact hperm.map Prod.snd

/-- A table is what its entries make when they are filed one after the other. -/
theorem ofEntries_toList (t : Table α) : ofEntries t.toList = t := by
  have hlist : ofEntries t.toList = .ofList t.toList := Std.ExtTreeMap.ofList_eq_foldl.symm
  refine Std.ExtTreeMap.ext_getElem? fun name => ?_
  rw [hlist]
  cases h : t[name]? with
  | some a =>
      exact Std.ExtTreeMap.getElem?_ofList_of_mem Std.compare_self
        Std.ExtTreeMap.distinct_keys_toList (Std.ExtTreeMap.mem_toList_iff_getElem?_eq_some.mpr h)
  | none =>
      have hnot : name ∉ t.toList.map Prod.fst := by
        intro hmem
        obtain ⟨⟨_, a⟩, hentry, rfl⟩ := List.mem_map.mp hmem
        rw [Std.ExtTreeMap.mem_toList_iff_getElem?_eq_some, h] at hentry
        cases hentry
      exact Std.ExtTreeMap.getElem?_ofList_of_contains_eq_false
        (Bool.eq_false_iff.mpr fun hmem => hnot (List.contains_iff_mem.mp hmem))

end Table

/-! ## Entries -/

namespace Entries

variable {α : Type} {entries before : Entries α} {name other : String} {value old : α}

/-- The names of entries. -/
def names (entries : Entries α) : List String := entries.map Prod.fst

theorem lookup_put_self : (entries.put name value).lookup name = some value := by
  induction entries with
  | nil => simp [put]
  | cons entry entries ih =>
      by_cases hname : entry.1 = name
      · simp [put, hname]
      · rw [put, if_neg (by simpa using hname), List.lookup_cons,
          beq_eq_false_iff_ne.mpr (Ne.symm hname)]
        exact ih

theorem lookup_put_of_ne (h : other ≠ name) :
    (entries.put name value).lookup other = entries.lookup other := by
  have hother : (other == name) = false := beq_eq_false_iff_ne.mpr h
  induction entries with
  | nil => simpa [put] using h
  | cons entry entries ih =>
      by_cases hname : entry.1 = name
      · rw [put, if_pos (beq_iff_eq.mpr hname), List.lookup_cons, List.lookup_cons, hname, hother]
      · rw [put, if_neg (by simpa using hname), List.lookup_cons, List.lookup_cons, ih]

theorem lookup_new (h : name ∉ before.names) : before.lookup name = none := by
  refine List.lookup_eq_none_iff.mpr fun entry hentry => bne_iff_ne.mpr ?_
  rintro rfl
  exact h (List.mem_map_of_mem hentry)

theorem lookup_concat (h : name ∉ before.names) :
    (before ++ [(name, value)]).lookup name = some value := by
  rw [List.lookup_append, lookup_new h, Option.none_or, List.lookup_cons, beq_self_eq_true]

theorem put_append (entries : Entries α) (value : α) (h : name ∉ before.names) :
    put name value (before ++ entries) = before ++ entries.put name value := by
  induction before with
  | nil => rfl
  | cons entry before ih =>
      rw [names, List.map_cons, List.mem_cons, not_or] at h
      rw [List.cons_append, put, if_neg (by simpa using Ne.symm h.1), ih h.2, List.cons_append]

theorem put_new (h : name ∉ before.names) : before.put name value = before ++ [(name, value)] := by
  simpa [put] using put_append [] value h

theorem put_concat (h : name ∉ before.names) :
    put name value (before ++ [(name, old)]) = before ++ [(name, value)] := by
  rw [put_append _ _ h]
  simp [put]

end Entries

/-! ## Sets -/

section Sets

variable {α : Type} [Ord α] [Std.TransOrd α] [Std.LawfulEqOrd α]

theorem mem_foldl_insert {a : α} : ∀ {items : List α} {s : Std.ExtTreeSet α},
    a ∈ items.foldl (fun s b => s.insert b) s ↔ a ∈ s ∨ a ∈ items
  | [], _ => by simp
  | b :: items, s => by
      rw [List.foldl_cons, mem_foldl_insert, Std.ExtTreeSet.mem_insert, Std.compare_eq_iff_eq,
        List.mem_cons]
      constructor
      · rintro ((rfl | h) | h)
        · exact Or.inr (Or.inl rfl)
        · exact Or.inl h
        · exact Or.inr (Or.inr h)
      · rintro (h | rfl | h)
        · exact Or.inl (Or.inr h)
        · exact Or.inl (Or.inl rfl)
        · exact Or.inr h

@[simp] theorem mem_setOf {a : α} {items : List α} : a ∈ setOf items ↔ a ∈ items := by
  simp [setOf, mem_foldl_insert]

theorem setOf_toList (s : Std.ExtTreeSet α) : setOf s.toList = s :=
  Std.ExtTreeSet.ext_mem fun a => by rw [mem_setOf, Std.ExtTreeSet.mem_toList]

theorem nodup_toList (s : Std.ExtTreeSet α) : s.toList.Nodup :=
  Std.ExtTreeSet.distinct_toList.imp fun h heq => h (by rw [heq, Std.compare_self])

theorem setOf_eq_empty_iff {items : List α} : setOf items = ∅ ↔ items = [] := by
  rw [Std.ExtTreeSet.eq_empty_iff_forall_not_mem, List.eq_nil_iff_forall_not_mem]
  simp only [mem_setOf]

end Sets

end JobControl
