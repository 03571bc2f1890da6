import JobControl.Proofs.Commands
import Mathlib.Algebra.Order.BigOperators.Group.List
import Mathlib.Algebra.Ring.Int.Defs

/-!
# Sums of amounts

What a role consumes is added up with sums that stay at the end of the
range, what a launch asks for with sums that report that the range is left.
Neither loses anything as long as no amount is negative: a sum that stays
at the end has the value of the true sum, or the largest that can be
written if the true sum is larger, wherever along the way the end was
reached; and a sum that reports exists exactly if the true sum can be
written. Sums and bounds are those of the integers; processors are doubles
and are left as they are added up.
-/

namespace JobControl

/-- What is counted in whole megabytes. -/
inductive Medium
  | memory
  | disk
  deriving DecidableEq, Repr

namespace Resources

/-- The number of megabytes, as an integer. -/
def megabytes (r : Resources) : Medium → Int
  | .memory => r.ramMb.toInt
  | .disk => r.diskMb.toInt

/-- The largest amount that can be written. -/
def largest : Int := Int64.maxValue.toInt

/-- No part is negative, processors aside. -/
def Nonneg (r : Resources) : Prop := ∀ m, 0 ≤ r.megabytes m

variable {a b c r limit : Resources} {m : Medium} {n : Int}

theorem megabytes_le_largest : r.megabytes m ≤ largest := by
  cases m <;> exact Int64.toInt_le _

@[simp] theorem megabytes_empty : empty.megabytes m = 0 := by
  cases m <;> rfl

theorem nonneg_empty : empty.Nonneg := fun _ => megabytes_empty.ge

/-! ## Numbers of 64 bits -/

theorem toInt_saturated (h : 0 ≤ n) : (saturated n).toInt = min n largest := by
  have hmin : Int64.minValue.toInt ≤ n := Int.le_trans (by decide) h
  rw [saturated, Int64.ofIntClamp, dif_pos hmin]
  split
  · rename_i hle
    rw [Int64.toInt_ofIntLE]
    exact (Int.min_eq_left hle).symm
  · rename_i hgt
    exact (Int.min_eq_right (Int.le_of_not_le hgt)).symm

theorem checked_eq_some {x : Int64} : checked n = some x ↔ x.toInt = n := by
  rw [checked]
  split
  · rename_i h
    obtain ⟨hmin, hmax⟩ := h
    rw [Option.some.injEq, ← Int64.toInt_inj,
      Int64.toInt_ofInt_of_le hmin (Int.lt_of_le_of_lt hmax (by decide)), eq_comm]
  · rename_i h
    refine ⟨nofun, ?_⟩
    rintro rfl
    exact absurd ⟨x.minValue_le_toInt, x.toInt_le⟩ h

/-- Amounts that can be written are written. -/
theorem exists_of_amounts (cpus : Float) {amount : Medium → Int} (hnonneg : ∀ m, 0 ≤ amount m)
    (hle : ∀ m, amount m ≤ largest) :
    ∃ r : Resources, r.numCpus = cpus ∧ ∀ m, r.megabytes m = amount m := by
  have hwritten : ∀ m, (saturated (amount m)).toInt = amount m := fun m => by
    rw [toInt_saturated (hnonneg m), Int.min_eq_left (hle m)]
  refine ⟨⟨cpus, saturated (amount .memory), saturated (amount .disk)⟩, rfl, fun m => ?_⟩
  cases m <;> exact hwritten _

/-! ## Two amounts -/

theorem megabytes_add (ha : a.Nonneg) (hb : b.Nonneg) :
    (a.add b).megabytes m = min (a.megabytes m + b.megabytes m) largest := by
  have hsum := Int.add_nonneg (ha m) (hb m)
  cases m <;> exact toInt_saturated hsum

theorem megabytes_scale {factor : Int32} (hr : r.Nonneg) (hfactor : 0 ≤ factor.toInt) :
    (r.scale factor).megabytes m = min (r.megabytes m * factor.toInt) largest := by
  have hproduct := Int.mul_nonneg (hr m) hfactor
  cases m <;> exact toInt_saturated hproduct

theorem nonneg_add (ha : a.Nonneg) (hb : b.Nonneg) : (a.add b).Nonneg := by
  intro m
  rw [megabytes_add ha hb]
  exact Int.le_min.mpr ⟨Int.add_nonneg (ha m) (hb m), by decide⟩

theorem nonneg_scale {factor : Int32} (hr : r.Nonneg) (hfactor : 0 ≤ factor.toInt) :
    (r.scale factor).Nonneg := by
  intro m
  rw [megabytes_scale hr hfactor]
  exact Int.le_min.mpr ⟨Int.mul_nonneg (hr m) hfactor, by decide⟩

theorem forall_medium {P : Medium → Prop} : (∀ m, P m) ↔ P .memory ∧ P .disk :=
  ⟨fun h => ⟨h _, h _⟩, fun h m => by cases m with | memory => exact h.1 | disk => exact h.2⟩

theorem eq_iff : a = b ↔ a.numCpus = b.numCpus ∧ ∀ m, a.megabytes m = b.megabytes m := by
  cases a
  cases b
  simp only [mk.injEq, forall_medium, megabytes, Int64.toInt_inj]

theorem add?_eq_some : a.add? b = some c ↔
    c.numCpus = a.numCpus + b.numCpus
      ∧ ∀ m, c.megabytes m = a.megabytes m + b.megabytes m := by
  obtain ⟨cpus, ram, disk⟩ := c
  simp only [add?, Option.bind_eq_bind, Option.bind_eq_some_iff, checked_eq_some,
    Option.pure_def, Option.some.injEq, mk.injEq, forall_medium, megabytes]
  constructor
  · rintro ⟨_, hram, _, hdisk, rfl, rfl, rfl⟩
    exact ⟨rfl, hram, hdisk⟩
  · rintro ⟨rfl, hram, hdisk⟩
    exact ⟨_, hram, _, hdisk, rfl, rfl, rfl⟩

/-- A sum is reported unless it cannot be written. -/
theorem isSome_add? (ha : a.Nonneg) (hb : b.Nonneg) : (a.add? b).isSome = true ↔
    ∀ m, a.megabytes m + b.megabytes m ≤ largest := by
  rw [Option.isSome_iff_exists]
  constructor
  · rintro ⟨c, hc⟩ m
    rw [← (add?_eq_some.mp hc).2 m]
    exact megabytes_le_largest
  · intro h
    refine ⟨a.add b, add?_eq_some.mpr ⟨rfl, fun m => ?_⟩⟩
    rw [megabytes_add ha hb, Int.min_eq_left (h m)]

theorem exceeds_eq_false : r.exceeds limit = false ↔
    ¬r.numCpus > limit.numCpus ∧ ∀ m, r.megabytes m ≤ limit.megabytes m := by
  simp only [exceeds, Bool.or_eq_false_iff, decide_eq_false_iff_not, gt_iff_lt,
    Int64.not_lt, Int64.le_iff_toInt_le, forall_medium, megabytes, and_assoc]

/-! ## Sums of lists -/

/-- The sum of parts that are not negative, as an integer. -/
def total (rs : List Resources) (m : Medium) : Int :=
  (rs.map (megabytes · m)).sum

theorem total_nonneg {rs : List Resources} (h : ∀ r ∈ rs, r.Nonneg) : 0 ≤ total rs m := by
  refine List.sum_nonneg fun n hn => ?_
  obtain ⟨r, hr, rfl⟩ := List.mem_map.mp hn
  exact h r hr m

theorem total_cons {rs : List Resources} : total (r :: rs) m = r.megabytes m + total rs m := by
  simp [total]

theorem total_replicate {k : Nat} : total (List.replicate k r) m = k * r.megabytes m := by
  rw [total, List.map_replicate, List.sum_replicate_int]

theorem megabytes_foldl_add : ∀ {rs : List Resources} {a : Resources}, a.Nonneg →
    (∀ r ∈ rs, r.Nonneg) →
    (rs.foldl add a).megabytes m = min (a.megabytes m + total rs m) largest
  | [], a, _, _ => by
      have hle := @megabytes_le_largest a m
      simp [total, hle]
  | r :: rs, a, ha, hrs => by
      obtain ⟨hr, hrest⟩ := List.forall_mem_cons.mp hrs
      have hrest' : 0 ≤ total rs m := total_nonneg hrest
      rw [List.foldl_cons, megabytes_foldl_add (nonneg_add ha hr) hrest, megabytes_add ha hr,
        total_cons]
      omega

/-- **A sum that stays at the end of the range loses nothing else.** -/
theorem megabytes_sum {rs : List Resources} (h : ∀ r ∈ rs, r.Nonneg) :
    (sum rs).megabytes m = min (total rs m) largest := by
  rw [sum, megabytes_foldl_add nonneg_empty h, megabytes_empty, Int.zero_add]

/-- Parts that stay at the end of the range do not change a sum that stays
there. -/
theorem min_sum_map_min : ∀ {ns : List Int}, (∀ n ∈ ns, 0 ≤ n) →
    min (ns.map (min · largest)).sum largest = min ns.sum largest
  | [], _ => rfl
  | n :: ns, h => by
      obtain ⟨hn, hrest⟩ := List.forall_mem_cons.mp h
      have hsum : 0 ≤ ns.sum := List.sum_nonneg hrest
      have hlargest : 0 ≤ largest := by decide
      have ih := min_sum_map_min hrest
      rw [List.map_cons, List.sum_cons, List.sum_cons]
      omega

end Resources

/-! ## What is consumed -/

/-- **Consumption is the true sum of all shares**, or the largest amount
that can be written if the sum is larger. -/
theorem Store.megabytes_consumption {consumers : List (TaskSpec × Int32)} {m : Medium}
    (h : ∀ c ∈ consumers, c.1.resources.Nonneg ∧ 0 ≤ c.2.toInt) :
    (consumption consumers).megabytes m =
      min (consumers.map fun c => c.1.resources.megabytes m * c.2.toInt).sum
        Resources.largest := by
  let share := fun c : TaskSpec × Int32 => c.1.resources.megabytes m * c.2.toInt
  have hscaled : ∀ c ∈ consumers,
      (c.1.resources.scale c.2).megabytes m = min (share c) Resources.largest :=
    fun c hc => Resources.megabytes_scale (h c hc).1 (h c hc).2
  have hshares : ∀ n ∈ consumers.map share, 0 ≤ n :=
    List.forall_mem_map.mpr fun c hc => Int.mul_nonneg ((h c hc).1 m) (h c hc).2
  have hnonneg : ∀ r ∈ consumers.map fun c => c.1.resources.scale c.2, r.Nonneg :=
    List.forall_mem_map.mpr fun c hc => Resources.nonneg_scale (h c hc).1 (h c hc).2
  have htotal : Resources.total (consumers.map fun c => c.1.resources.scale c.2) m =
      ((consumers.map share).map (min · Resources.largest)).sum := by
    rw [Resources.total, List.map_map, List.map_map]
    exact congrArg List.sum (List.map_congr_left hscaled)
  show (Resources.sum (consumers.map fun c => c.1.resources.scale c.2)).megabytes m = _
  rw [Resources.megabytes_sum hnonneg, htotal, Resources.min_sum_map_min hshares]

/-! ## What a launch asks for -/

section Demand

variable {role : String} {acc c : Resources} {tasks : List TaskSpec}

/-- One more task, if the sum can be written. -/
def addDemand (role : String) (acc : Resources) (t : TaskSpec) :
    Except QuotaRefusal Resources :=
  match acc.add? t.resources with
  | some sum => .ok sum
  | none => .error (.unrepresentable role)

theorem addDemand_eq_ok {t : TaskSpec} :
    addDemand role acc t = .ok c ↔ acc.add? t.resources = some c := by
  rw [addDemand]
  cases acc.add? t.resources <;> simp

theorem foldlM_addDemand_eq_ok : ∀ {tasks : List TaskSpec} {acc : Resources}, acc.Nonneg →
    (∀ t ∈ tasks, t.resources.Nonneg) → (tasks.foldlM (addDemand role) acc = .ok c ↔
      c.numCpus = (tasks.map (·.numCpus)).foldl (· + ·) acc.numCpus
        ∧ ∀ m, c.megabytes m = acc.megabytes m + Resources.total (tasks.map (·.resources)) m)
  | [], acc, _, _ => by
      rw [List.foldlM_nil, pure_eq_ok, Resources.eq_iff]
      simp [Resources.total]
  | t :: tasks, acc, hacc, htasks => by
      obtain ⟨ht, hrest⟩ := List.forall_mem_cons.mp htasks
      simp only [List.foldlM_cons, bind_eq_ok, addDemand_eq_ok, List.map_cons, List.foldl_cons,
        Resources.total_cons]
      constructor
      · rintro ⟨mid, hmid, h⟩
        obtain ⟨hcpus, hmid⟩ := Resources.add?_eq_some.mp hmid
        have hnonneg : mid.Nonneg := fun m => hmid m ▸ Int.add_nonneg (hacc m) (ht m)
        obtain ⟨hc, hm⟩ := (foldlM_addDemand_eq_ok hnonneg hrest).mp h
        refine ⟨by rw [hc, hcpus]; rfl, fun m => ?_⟩
        rw [hm, hmid, Int.add_assoc]
      · rintro ⟨hcpus, hm⟩
        -- what is still to come is not negative, so that the sum so far can be written
        have hfits : (acc.add? t.resources).isSome = true := by
          refine (Resources.isSome_add? hacc ht).mpr fun m => ?_
          have hlater : 0 ≤ Resources.total (tasks.map (·.resources)) m :=
            Resources.total_nonneg (List.forall_mem_map.mpr hrest)
          have hle := @Resources.megabytes_le_largest c m
          rw [hm] at hle
          omega
        obtain ⟨mid, hmid⟩ := Option.isSome_iff_exists.mp hfits
        obtain ⟨hmidcpus, hmidm⟩ := Resources.add?_eq_some.mp hmid
        have hnonneg : mid.Nonneg := fun m => hmidm m ▸ Int.add_nonneg (hacc m) (ht m)
        refine ⟨mid, hmid, (foldlM_addDemand_eq_ok hnonneg hrest).mpr ⟨?_, fun m => ?_⟩⟩
        · rw [hcpus, hmidcpus]
          rfl
        · rw [hm, hmidm, Int.add_assoc]

/-- What several tasks of one description ask for, in production. -/
theorem productionDemand_replicate_eq_ok {t : TaskSpec} {n : Nat}
    (hproduction : t.isProduction = true) (ht : t.resources.Nonneg) :
    productionDemand role (List.replicate n t) = .ok c ↔
      c.numCpus = (List.replicate n t.numCpus).foldl (· + ·) 0
        ∧ ∀ m, c.megabytes m = n * t.resources.megabytes m := by
  have hkept : (List.replicate n t).filter (·.isProduction) = List.replicate n t :=
    List.filter_eq_self.mpr fun u hu => (List.mem_replicate.mp hu).2 ▸ hproduction
  have hnonneg : ∀ u ∈ List.replicate n t, u.resources.Nonneg :=
    fun u hu => (List.mem_replicate.mp hu).2 ▸ ht
  show ((List.replicate n t).filter (·.isProduction)).foldlM (addDemand role) .empty = _ ↔ _
  rw [hkept, foldlM_addDemand_eq_ok Resources.nonneg_empty hnonneg]
  simp only [List.map_replicate, Resources.total_replicate, Resources.megabytes_empty,
    Int.zero_add]
  rfl

/-- Outside of production nothing is asked for. -/
theorem productionDemand_replicate_of_not {t : TaskSpec} {n : Nat}
    (h : t.isProduction = false) :
    productionDemand role (List.replicate n t) = .ok .empty := by
  have hnone : (List.replicate n t).filter (·.isProduction) = [] :=
    List.filter_eq_nil_iff.mpr fun u hu hu' => by
      rw [(List.mem_replicate.mp hu).2, h] at hu'
      cases hu'
  rw [productionDemand, hnone]
  rfl

end Demand

end JobControl
