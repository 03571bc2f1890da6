import JobControl.Cron.NextRun
import JobControl.Proofs.CalendarDays
import JobControl.Proofs.ScheduleTexts

/-!
# The earliest run of a schedule

The next run is searched for in the order of days, hours, minutes and
seconds. What is found first is the earliest instant that the schedule
names, since each of the four lists is ascending and whatever is found
under one of its values lies before whatever is found under a later one
(`earliest_findSome?`). The search ends with the last day of 2100, behind
which no schedule names anything.

The instants of a schedule are told by the calendar in which days are
counted one by one (`Schedule.RunsAt`), and not by the arithmetic of the
search.

That predicting again from each prediction leaves no run out does not rest
on schedules. It holds of whatever finds the earliest of some instants
behind a given one (`FindsNext`).
-/

namespace JobControl

/-! ## What is found first -/

/-- The least of what has a property, or nothing if there is none. -/
inductive Earliest {α : Type} [LE α] (P : α → Prop) : Option α → Prop
  | found {a : α} (holds : P a) (least : ∀ b, P b → a ≤ b) : Earliest P (some a)
  | nothing (never : ∀ b, ¬ P b) : Earliest P none

namespace Earliest

variable {α β : Type} [LE α] [LE β] {P Q : α → Prop} {o : Option α}

theorem congr (h : Earliest P o) (hiff : ∀ a, P a ↔ Q a) : Earliest Q o := by
  have hsame : P = Q := funext fun a => propext (hiff a)
  rwa [← hsame]

theorem map {f : α → β} (h : Earliest P o) (hf : ∀ {a b}, a ≤ b → f a ≤ f b) :
    Earliest (fun b => ∃ a, P a ∧ f a = b) (o.map f) := by
  cases h with
  | nothing never =>
      refine .nothing ?_
      rintro b ⟨a, ha, -⟩
      exact never a ha
  | found holds least =>
      refine .found ⟨_, holds, rfl⟩ ?_
      rintro b ⟨a, ha, rfl⟩
      exact hf (least a ha)

end Earliest

/-- **What is found first is the earliest** if the places are searched in
ascending order and what is found in one of them lies before what is found
in a later one. -/
theorem earliest_findSome? {α β : Type} [LT α] [Preorder β] {f : α → Option β} {Q : α → β → Prop}
    {places : List α} (hascending : places.Pairwise (· < ·))
    (hf : ∀ a ∈ places, Earliest (Q a) (f a))
    (horder : ∀ {a a' b b'}, a < a' → Q a b → Q a' b' → b ≤ b') :
    Earliest (fun b => ∃ a ∈ places, Q a b) (places.findSome? f) := by
  induction places with
  | nil => exact .nothing (by simp)
  | cons a places ih =>
      obtain ⟨hbefore, hrest⟩ := List.pairwise_cons.mp hascending
      obtain ⟨hfirst, hothers⟩ := List.forall_mem_cons.mp hf
      rw [List.findSome?_cons]
      cases hfound : f a with
      | some b =>
          rw [hfound] at hfirst
          obtain ⟨holds, least⟩ := hfirst
          refine .found ⟨a, List.mem_cons_self, holds⟩ ?_
          rintro b' ⟨a', ha', hb'⟩
          rcases List.mem_cons.mp ha' with rfl | hlater
          · exact least b' hb'
          · exact horder (hbefore a' hlater) holds hb'
      | none =>
          rw [hfound] at hfirst
          obtain never | never := hfirst
          refine (ih hrest hothers).congr fun b => ?_
          simp [never b]

theorem earliest_find? {α : Type} [Preorder α] {p : α → Bool} {places : List α}
    (hascending : places.Pairwise (· < ·)) :
    Earliest (fun a => a ∈ places ∧ p a = true) (places.find? p) := by
  rw [List.find?_eq_findSome?_guard]
  refine (earliest_findSome? (Q := fun a b => p a = true ∧ a = b) hascending (fun a _ => ?_)
    ?_).congr fun b => ?_
  · rw [Option.guard]
    split
    · rename_i hp
      exact .found ⟨hp, rfl⟩ fun b hb => hb.2 ▸ le_refl a
    · rename_i hp
      exact .nothing fun b hb => hp hb.1
  · rintro a a' _ _ hlt ⟨-, rfl⟩ ⟨-, rfl⟩
    exact hlt.le
  · simp

/-! ## One after the other -/

/-- Up to `count` instants, each of them the next one after the one before it. -/
def successive (next : Int64 → Option Int64) : Nat → Int64 → List Int64
  | 0, _ => []
  | count + 1, start =>
    match next start with
    | some instant => instant :: successive next count instant
    | none => []

/-- The earliest of some instants is found after each one from the epoch on. -/
def FindsNext (next : Int64 → Option Int64) (P : Int → Prop) : Prop :=
  ∀ start : Int64, 0 ≤ start.toInt →
    Earliest (fun ms => start.toInt < ms ∧ P ms) ((next start).map Int64.toInt)

namespace FindsNext

variable {next : Int64 → Option Int64} {P : Int → Prop} {start instant : Int64}

theorem of_some (h : FindsNext next P) (hstart : 0 ≤ start.toInt)
    (hnext : next start = some instant) :
    start.toInt < instant.toInt ∧ P instant.toInt
      ∧ ∀ ms, start.toInt < ms → P ms → instant.toInt ≤ ms := by
  have hfound := h start hstart
  rw [hnext, Option.map_some] at hfound
  obtain ⟨⟨hlate, hP⟩, hleast⟩ := hfound
  exact ⟨hlate, hP, fun ms hlater hms => hleast ms ⟨hlater, hms⟩⟩

theorem of_none (h : FindsNext next P) (hstart : 0 ≤ start.toInt) (hnext : next start = none)
    {ms : Int} (hlate : start.toInt < ms) : ¬ P ms := by
  have hfound := h start hstart
  rw [hnext, Option.map_none] at hfound
  obtain never | never := hfound
  exact fun hms => never ms ⟨hlate, hms⟩

theorem of_mem (h : FindsNext next P) {count : Nat} (hstart : 0 ≤ start.toInt)
    (hmem : instant ∈ successive next count start) :
    start.toInt < instant.toInt ∧ P instant.toInt := by
  induction count generalizing start with
  | zero => cases hmem
  | succ count ih =>
      rw [successive] at hmem
      split at hmem
      · rename_i first hfirst
        obtain ⟨hlate, hP, -⟩ := h.of_some hstart hfirst
        rcases List.mem_cons.mp hmem with rfl | hlater
        · exact ⟨hlate, hP⟩
        · obtain ⟨hbehind, hP'⟩ := ih (by omega) hlater
          exact ⟨by omega, hP'⟩
      · cases hmem

theorem pairwise (h : FindsNext next P) {count : Nat} (hstart : 0 ≤ start.toInt) :
    (successive next count start).Pairwise (· < ·) := by
  induction count generalizing start with
  | zero => exact .nil
  | succ count ih =>
      rw [successive]
      split
      · rename_i first hfirst
        have hlate := (h.of_some hstart hfirst).1
        refine .cons (fun instant hmem => ?_) (ih (by omega))
        exact Int64.lt_iff_toInt_lt.mpr (h.of_mem (by omega) hmem).1
      · exact .nil

/-- No instant is left out: the next one is not behind it, and takes the
start closer to it. -/
theorem exists_mem (h : FindsNext next P) {ms : Int} (hms : P ms) {away : Nat}
    (hstart : 0 ≤ start.toInt) (hlate : start.toInt < ms)
    (haway : (ms - start.toInt).toNat ≤ away) :
    ∃ count, ∃ instant ∈ successive next count start, instant.toInt = ms := by
  induction away generalizing start with
  | zero => omega
  | succ away ih =>
      cases hfirst : next start with
      | none => exact absurd hms (h.of_none hstart hfirst hlate)
      | some first =>
          obtain ⟨hbehind, -, hleast⟩ := h.of_some hstart hfirst
          rcases Int.lt_or_eq_of_le (hleast ms hlate hms) with hlt | heq
          · have hfrom : 0 ≤ first.toInt := by omega
            obtain ⟨count, instant, hmem, heq⟩ := ih hfrom hlt (by omega)
            refine ⟨count + 1, instant, ?_, heq⟩
            rw [successive, hfirst]
            exact List.mem_cons_of_mem _ hmem
          · refine ⟨1, first, ?_, heq⟩
            rw [successive, hfirst]
            exact List.mem_cons_self

/-- **All instants are gone through.** -/
theorem exists_mem_iff (h : FindsNext next P) (hstart : 0 ≤ start.toInt) (ms : Int) :
    (∃ count, ∃ instant ∈ successive next count start, instant.toInt = ms)
      ↔ start.toInt < ms ∧ P ms := by
  constructor
  · rintro ⟨count, instant, hmem, rfl⟩
    exact h.of_mem hstart hmem
  · rintro ⟨hlate, hms⟩
    exact h.exists_mem hms hstart hlate (Nat.le_refl _)

end FindsNext

namespace Cron

open Calendar (Date dateAfter dateOfDay weekday)

/-! ## The instants of a schedule -/

/-- A schedule runs at a second of the epoch. -/
structure Schedule.RunsAt (s : Schedule) (t : Nat) : Prop where
  second : t % 60 ∈ s.seconds
  minute : t / 60 % 60 ∈ s.minutes
  hour : t / 3600 % 24 ∈ s.hours
  dayOfMonth : (dateAfter (t / 86400)).day ∈ s.daysOfMonth
  month : (dateAfter (t / 86400)).month ∈ s.months
  -- 1 January 1970 was a Thursday, the fifth day of a week that begins on Sunday
  dayOfWeek : (t / 86400 + 4) % 7 + 1 ∈ s.daysOfWeek
  year : ∃ year ∈ s.years, (dateAfter (t / 86400)).year = year

/-- A schedule runs at an instant, in milliseconds of the epoch. -/
def Schedule.RunsAtMs (s : Schedule) (ms : Int) : Prop :=
  ∃ t : Nat, ms = t * 1000 ∧ s.RunsAt t

/-! ## The search in a day -/

/-- A schedule names a second of a day. -/
def Schedule.NamesInDay (s : Schedule) (n : Nat) : Prop :=
  ∃ hour ∈ s.hours, ∃ minute ∈ s.minutes, ∃ second ∈ s.seconds,
    n = hour * 3600 + minute * 60 + second

section InDay

variable {s : Schedule}

theorem Schedule.Ordered.second_le (h : s.Ordered) {n : Nat} (hn : n ∈ s.seconds) : n ≤ 59 :=
  (h.seconds.within n hn).2

theorem Schedule.Ordered.minute_le (h : s.Ordered) {n : Nat} (hn : n ∈ s.minutes) : n ≤ 59 :=
  (h.minutes.within n hn).2

theorem Schedule.Ordered.hour_le (h : s.Ordered) {n : Nat} (hn : n ∈ s.hours) : n ≤ 23 :=
  (h.hours.within n hn).2

theorem Schedule.NamesInDay.lt (h : s.Ordered) {n : Nat} (hn : s.NamesInDay n) : n < 86400 := by
  obtain ⟨hour, hhour, minute, hminute, second, hsecond, rfl⟩ := hn
  have h₁ := h.hour_le hhour
  have h₂ := h.minute_le hminute
  have h₃ := h.second_le hsecond
  omega

/-- The seconds of a day by their parts. -/
theorem Schedule.namesInDay_iff (h : s.Ordered) {t : Nat} : s.NamesInDay (t % 86400)
    ↔ t % 60 ∈ s.seconds ∧ t / 60 % 60 ∈ s.minutes ∧ t / 3600 % 24 ∈ s.hours := by
  constructor
  · rintro ⟨hour, hhour, minute, hminute, second, hsecond, ht⟩
    have h₁ := h.hour_le hhour
    have h₂ := h.minute_le hminute
    have h₃ := h.second_le hsecond
    obtain rfl : second = t % 60 := by omega
    obtain rfl : minute = t / 60 % 60 := by omega
    obtain rfl : hour = t / 3600 % 24 := by omega
    exact ⟨hsecond, hminute, hhour⟩
  · rintro ⟨hsecond, hminute, hhour⟩
    exact ⟨_, hhour, _, hminute, _, hsecond, by omega⟩

theorem Schedule.earliest_firstSecond? (h : s.Ordered) (earliest : Nat) :
    Earliest (fun n => earliest ≤ n ∧ s.NamesInDay n) (s.firstSecond? earliest) := by
  have hseconds (hour minute : Nat) :
      Earliest (fun n => earliest ≤ n
          ∧ ∃ second ∈ s.seconds, n = hour * 3600 + minute * 60 + second)
        ((s.seconds.find? fun second => earliest ≤ hour * 3600 + minute * 60 + second).map
          fun second => hour * 3600 + minute * 60 + second) := by
    refine ((earliest_find? h.seconds.ascending).map (by omega)).congr fun n => ?_
    simp only [decide_eq_true_eq]
    constructor
    · rintro ⟨second, ⟨hsecond, hlate⟩, rfl⟩
      exact ⟨hlate, second, hsecond, rfl⟩
    · rintro ⟨hlate, second, hsecond, rfl⟩
      exact ⟨second, ⟨hsecond, hlate⟩, rfl⟩
  have hminutes (hour : Nat) := earliest_findSome? h.minutes.ascending
    (fun minute _ => hseconds hour minute) <| by
      rintro minute minute' n n' hlt ⟨-, second, hsecond, rfl⟩ ⟨-, second', -, rfl⟩
      have := h.second_le hsecond
      omega
  have hhours := earliest_findSome? h.hours.ascending (fun hour _ => hminutes hour) <| by
    rintro hour hour' n n' hlt ⟨minute, hminute, -, second, hsecond, rfl⟩
      ⟨minute', -, -, second', -, rfl⟩
    have := h.minute_le hminute
    have := h.second_le hsecond
    omega
  refine hhours.congr fun n => ?_
  constructor
  · rintro ⟨hour, hhour, minute, hminute, hlate, second, hsecond, rfl⟩
    exact ⟨hlate, hour, hhour, minute, hminute, second, hsecond, rfl⟩
  · rintro ⟨hlate, hour, hhour, minute, hminute, second, hsecond, rfl⟩
    exact ⟨hour, hhour, minute, hminute, hlate, second, hsecond, rfl⟩

end InDay

/-! ## The days -/

/-- A schedule runs on a day, counted from the first of the epoch. -/
structure Schedule.NamesDay (s : Schedule) (day : Nat) : Prop where
  dayOfMonth : (dateAfter day).day ∈ s.daysOfMonth
  month : (dateAfter day).month ∈ s.months
  dayOfWeek : (day + 4) % 7 + 1 ∈ s.daysOfWeek
  year : ∃ year ∈ s.years, (dateAfter day).year = year

section Days

variable {s : Schedule}

theorem Schedule.runsAt_iff (h : s.Ordered) {t : Nat} :
    s.RunsAt t ↔ s.NamesDay (t / 86400) ∧ s.NamesInDay (t % 86400) := by
  rw [namesInDay_iff h]
  constructor
  · intro ht
    exact ⟨⟨ht.dayOfMonth, ht.month, ht.dayOfWeek, ht.year⟩, ht.second, ht.minute, ht.hour⟩
  · rintro ⟨hday, hsecond, hminute, hhour⟩
    exact ⟨hsecond, hminute, hhour, hday.dayOfMonth, hday.month, hday.dayOfWeek, hday.year⟩

theorem Schedule.runsAt_add_iff (h : s.Ordered) {day second : Nat} (hsecond : second < 86400) :
    s.RunsAt (day * 86400 + second) ↔ s.NamesDay day ∧ s.NamesInDay second := by
  have hdiv : (day * 86400 + second) / 86400 = day := by omega
  have hmod : (day * 86400 + second) % 86400 = second := by omega
  rw [runsAt_iff h, hdiv, hmod]

theorem Schedule.runsOn_natCast (day : Nat) : s.runsOn day = true ↔ s.NamesDay day := by
  have hweekday : weekday day = (day + 4) % 7 + 1 := by
    rw [weekday]
    omega
  have hyear : (0 ≤ (dateAfter day).year ∧ (dateAfter day).year.toNat ∈ s.years)
      ↔ ∃ year ∈ s.years, (dateAfter day).year = year := by
    constructor
    · rintro ⟨hnonneg, hyear⟩
      exact ⟨_, hyear, by omega⟩
    · rintro ⟨year, hyear, heq⟩
      rw [heq]
      exact ⟨by omega, hyear⟩
  simp only [runsOn, Calendar.dateOfDay_natCast, hweekday, Bool.and_eq_true, decide_eq_true_eq,
    List.contains_iff_mem]
  rw [hyear]
  exact ⟨fun ⟨⟨⟨h₁, h₂⟩, h₃⟩, h₄⟩ => ⟨h₃, h₂, h₄, h₁⟩,
    fun h => ⟨⟨⟨h.year, h.month⟩, h.dayOfMonth⟩, h.dayOfWeek⟩⟩

/-- No schedule names a day behind the last one. -/
theorem Schedule.NamesDay.le_lastDay (h : s.Ordered) {day : Nat} (hday : s.NamesDay day) :
    (day : Int) ≤ lastDay := by
  obtain ⟨year, hyear, heq⟩ := hday.year
  have hlast : year ≤ 2100 := (h.years.within year hyear).2
  have hbehind : (dateAfter 47847).year = 2101 := by
    rw [← Calendar.dateOfDay_natCast]
    decide
  rcases Int.lt_or_le lastDay day with hlt | hle
  · have hmono : (dateAfter 47847).year ≤ (dateAfter day).year :=
      Calendar.year_dateAfter_mono (by rw [lastDay] at hlt; omega)
    omega
  · exact hle

/-- The first run of the day that lies `offset` days behind that of `start`. -/
theorem Schedule.earliest_onDay (h : s.Ordered) (start offset : Nat) :
    Earliest (fun t : Int => ∃ n : Nat, t = n ∧ n / 86400 = start / 86400 + offset ∧ start ≤ n
        ∧ s.RunsAt n)
      (if s.runsOn ((start : Int) / secondsPerDay + offset) then
        (s.firstSecond? (if offset == 0 then ((start : Int) % secondsPerDay).toNat else 0)).map
          fun (second : Nat) => ((start : Int) / secondsPerDay + offset) * secondsPerDay + second
      else none) := by
  have hday : (start : Int) / secondsPerDay + offset = (start / 86400 + offset : Nat) := by
    rw [secondsPerDay]
    omega
  have hinDay : ((start : Int) % secondsPerDay).toNat = start % 86400 := by
    rw [secondsPerDay]
    omega
  rw [hday, hinDay]
  generalize hd : start / 86400 + offset = day
  split
  · rename_i hruns
    have hnames := (runsOn_natCast day).mp hruns
    refine ((earliest_firstSecond? h _).map (by omega)).congr fun t => ?_
    constructor
    · rintro ⟨second, ⟨hlate, hsecond⟩, rfl⟩
      have hlt := hsecond.lt h
      refine ⟨day * 86400 + second, by rw [secondsPerDay]; omega, by omega, ?_,
        (runsAt_add_iff h hlt).mpr ⟨hnames, hsecond⟩⟩
      -- only on the day of `start` itself does its time count
      simp only [beq_iff_eq] at hlate
      split at hlate <;> omega
    · rintro ⟨n, rfl, hn, hstart, hn'⟩
      refine ⟨n % 86400, ⟨?_, ((runsAt_iff h).mp hn').2⟩, by rw [secondsPerDay]; omega⟩
      simp only [beq_iff_eq]
      split <;> omega
  · rename_i hnot
    refine .nothing ?_
    rintro t ⟨n, rfl, hn, -, hruns⟩
    refine hnot ((runsOn_natCast day).mpr ?_)
    rw [← hn]
    exact ((runsAt_iff h).mp hruns).1

/-- **The first run from a second on.** -/
theorem Schedule.earliest_firstRun? (h : s.Ordered) (start : Nat) :
    Earliest (fun t : Int => ∃ n : Nat, t = n ∧ start ≤ n ∧ s.RunsAt n) (s.firstRun? start) := by
  refine (earliest_findSome? (List.pairwise_lt_range' 1) (fun offset _ =>
    earliest_onDay h start offset) ?_).congr fun t => ?_
  · rintro offset offset' t t' hlt ⟨n, rfl, hn, -⟩ ⟨n', rfl, hn', -⟩
    omega
  · constructor
    · rintro ⟨-, -, n, rfl, -, hstart, hn⟩
      exact ⟨n, rfl, hstart, hn⟩
    · rintro ⟨n, rfl, hstart, hn⟩
      have hlast := ((runsAt_iff h).mp hn).1.le_lastDay h
      refine ⟨n / 86400 - start / 86400, ?_, n, rfl, by omega, hstart, hn⟩
      rw [List.mem_range'_1, secondsPerDay]
      omega

theorem Schedule.RunsAtMs.bounds (h : s.Ordered) {ms : Int} (hms : s.RunsAtMs ms) :
    0 ≤ ms ∧ ms ≤ 4133980799000 := by
  obtain ⟨t, rfl, ht⟩ := hms
  have hlast := ((runsAt_iff h).mp ht).1.le_lastDay h
  rw [lastDay] at hlast
  omega

/-- **The next run is the earliest one after the clock.** -/
theorem Schedule.earliest_nextRun? (h : s.Ordered) {nowMs : Int} (hnow : 0 ≤ nowMs) :
    Earliest (fun ms => nowMs < ms ∧ s.RunsAtMs ms) (s.nextRun? nowMs) := by
  have hstart : max 0 (nowMs / 1000 + 1) = ((nowMs / 1000 + 1).toNat : Nat) := by omega
  have hzero : ¬ nowMs / 1000 + 1 < yearZero := by
    rw [yearZero]
    omega
  rw [nextRun?, if_neg hzero, hstart]
  refine ((earliest_firstRun? h _).map (by omega)).congr fun ms => ?_
  constructor
  · rintro ⟨_, ⟨n, rfl, hn, hruns⟩, rfl⟩
    exact ⟨by omega, n, rfl, hruns⟩
  · rintro ⟨hlate, n, rfl, hruns⟩
    exact ⟨n, ⟨n, rfl, by omega, hruns⟩, rfl⟩

end Days

/-! ## Predictions -/

/-- The runs that a text writes are found one after the other. -/
theorem finds_nextRun? {text : String} {s : Schedule} (hs : Schedule.ofText? text = some s) :
    FindsNext (nextRun? text) s.RunsAtMs := by
  intro nowMs hnow
  have h := Schedule.ordered_of_ofText? hs
  have hfound := Schedule.earliest_nextRun? h hnow
  rw [nextRun?, hs, Option.bind_some]
  cases hrun : s.nextRun? nowMs.toInt with
  | none => rwa [hrun] at hfound
  | some ms =>
      rw [hrun] at hfound
      obtain ⟨⟨hlate, hruns⟩, hleast⟩ := hfound
      obtain ⟨hlow, hhigh⟩ := hruns.bounds h
      have hfits : (Int64.ofInt ms).toInt = ms :=
        Int64.toInt_ofInt_of_le (by omega) (by omega)
      rw [Option.map_some, Option.map_some, hfits]
      exact .found ⟨hlate, hruns⟩ hleast

theorem full_minute_of_seconds {s : Schedule} {ms : Int} (hseconds : s.seconds = [0])
    (hms : s.RunsAtMs ms) : ms % 60000 = 0 := by
  obtain ⟨t, rfl, ht⟩ := hms
  have hzero := ht.second
  rw [hseconds, List.mem_singleton] at hzero
  omega

/-- **A prediction is the earliest run after the clock**, and predicting
again from each prediction goes through all runs in their order. For a text
of five words it is the prediction with the seconds 0, and a full minute
unless the text begins with a mark that goes on with the field of the
seconds. -/
theorem predicts_earliest (text : String) (nowMs : Int64) (hnow : 0 ≤ nowMs.toInt) :
    (Schedule.ofText? text = none → nextRun? text nowMs = none)
      ∧ (∀ s, Schedule.ofText? text = some s →
        Earliest (fun ms => nowMs.toInt < ms ∧ s.RunsAtMs ms)
            ((nextRun? text nowMs).map Int64.toInt)
          ∧ (∀ count, (successive (nextRun? text) count nowMs).Pairwise (· < ·))
          ∧ ∀ ms, (∃ count, ∃ run ∈ successive (nextRun? text) count nowMs, run.toInt = ms)
            ↔ nowMs.toInt < ms ∧ s.RunsAtMs ms)
      ∧ (FiveWords text → nextRun? text nowMs = nextRun? (withSeconds text) nowMs
        ∧ ((∀ c ∈ (Text.trim text).toList.head?, c ∉ goesOn) →
          ∀ run ∈ nextRun? text nowMs, run.toInt % 60000 = 0)) := by
  refine ⟨fun hnone => ?_, fun s hs => ?_, fun hfive => ⟨?_, fun hhead run hrun => ?_⟩⟩
  · rw [nextRun?, hnone, Option.bind_none]
  · exact ⟨finds_nextRun? hs nowMs hnow, fun count => (finds_nextRun? hs).pairwise hnow,
      (finds_nextRun? hs).exists_mem_iff hnow⟩
  · rw [nextRun?, nextRun?, Schedule.ofText?_withSeconds hfive]
  · obtain ⟨s, hs, -⟩ := Option.bind_eq_some_iff.mp hrun
    exact full_minute_of_seconds (Schedule.seconds_eq_of_ofText? hfive hhead hs)
      ((finds_nextRun? hs).of_some hnow hrun).2.1

/-- A 29 February that is a Monday, from the end of 2043. -/
theorem predicts_leap_monday :
    nextRun? "30 2 29 2 Mon" 2335219199999 = some 2340325800000
      ∧ ∃ s, Schedule.ofText? "30 2 29 2 Mon" = some s
        ∧ ∀ ms, 2335219199999 < ms → s.RunsAtMs ms → 2340325800000 ≤ ms := by
  have hrun : nextRun? "30 2 29 2 Mon" 2335219199999 = some 2340325800000 := by decide +kernel
  obtain ⟨hnone, hsome, -⟩ := predicts_earliest "30 2 29 2 Mon" 2335219199999 (by decide)
  rw [hrun, Option.map_some] at hsome
  cases hs : Schedule.ofText? "30 2 29 2 Mon" with
  | none => cases hrun.symm.trans (hnone hs)
  | some s =>
      obtain ⟨⟨-, hleast⟩, -⟩ := hsome s hs
      exact ⟨hrun, s, rfl, fun ms hlate hms => hleast ms ⟨hlate, hms⟩⟩

/-- The text has five words, and yet its first run is not at a full minute:
with the `0` in front, its first word belongs to the seconds. -/
theorem not_always_full_minute :
    FiveWords ",30 ** * * *" ∧ 0 ≤ (1700000000000 : Int64).toInt
      ∧ nextRun? ",30 ** * * *" 1700000000000 = some 1700000010000
      ∧ (1700000010000 : Int64).toInt % 60000 ≠ 0 := by
  rw [FiveWords]
  decide +kernel

end Cron

end JobControl
