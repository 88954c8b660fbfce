import Gosoline.Currency.Updater

/-!
# Filling the gaps of the historical feed

The feed has no rates for weekends and holidays. `fillInGapDays` finds the earliest and the
latest day of its entries, then walks from one to the other and appends, for each day that has
no entry, a copy of the entry of the last day that had one, under the day's text.

The walk starts from the zero time, which `IsZero` reads as "no day yet": an entry dated
January 1 of year 1 is taken for that marker, so the result is the one described below for
entries on any other day. The walk stops after 180 days, so it reaches the latest day when the
entries span at most 180 days.

Here `day c` is the day whose midnight `GetTime` returns for the entry `c`. What the walk should
produce is stated in `gapEntries`, from the entries' days alone, with no walk and no marker, and
`fillInGapDays_fills_gaps` shows the code produces it.
-/

namespace Gosoline.Currency

instance instAntisymmIntLe : Std.Antisymm (fun x y : ℤ => x ≤ y) := ⟨fun h h' => Int.le_antisymm h h'⟩

/-! ## The days the walk should fill -/

section Spec

variable (cal : Calendar) (day : Content → ℤ)

/-- The days `a, a + 1, …, a + n - 1`. -/
def daysFrom (a : ℤ) (n : ℕ) : List ℤ := (List.range n).map fun i : ℕ => a + i

/-- The latest of `days` before `d`, if any. -/
def latestDayBefore (days : List ℤ) (d : ℤ) : Option ℤ := (days.filter (· < d)).max?

/-- The last input entry of day `d`, if any. -/
def lastEntryOn (cs : List Content) (d : ℤ) : Option Content := (cs.filter (day · = d)).getLast?

/-- The entry a day `d` without one should get: the rates of the last entry of the latest input
day before `d`, under the text of `d`. -/
def gapEntry (cs : List Content) (d : ℤ) : Content :=
  ⟨cal.formatYMD (d * nsPerDay),
    (((latestDayBefore (cs.map day) d).bind (lastEntryOn day cs)).getD Content.zero).rates⟩

/-- The entries of the days from `d` up to `hi`, excluded, that have no input entry, in
ascending order. -/
def gapEntriesFrom (cs : List Content) (d hi : ℤ) : List Content :=
  ((daysFrom d (hi - d).toNat).filter (· ∉ cs.map day)).map (gapEntry cal day cs)

/-- The days strictly between the earliest and the latest input day that have no input entry,
in ascending order. -/
def gapDays (cs : List Content) : List ℤ :=
  match (cs.map day).min?, (cs.map day).max? with
  | some lo, some hi => (daysFrom (lo + 1) (hi - (lo + 1)).toNat).filter (· ∉ cs.map day)
  | _, _ => []

/-- The entries `fillInGapDays` should append: one for each gap day, in ascending order. -/
def gapEntries (cs : List Content) : List Content := (gapDays day cs).map (gapEntry cal day cs)

theorem daysFrom_succ (a : ℤ) (n : ℕ) : daysFrom a (n + 1) = a :: daysFrom (a + 1) n := by
  simp only [daysFrom, List.range_succ_eq_map, List.map_cons, List.map_map, Nat.cast_zero, add_zero,
    List.cons.injEq, true_and]
  refine List.map_congr_left fun i _ => ?_
  simp only [Function.comp_apply, Nat.succ_eq_add_one, Nat.cast_add, Nat.cast_one]
  ring

theorem mem_daysFrom {a d : ℤ} {n : ℕ} : d ∈ daysFrom a n ↔ a ≤ d ∧ d < a + n := by
  simp only [daysFrom, List.mem_map, List.mem_range]
  constructor
  · rintro ⟨i, hi, rfl⟩
    omega
  · intro h
    exact ⟨(d - a).toNat, by omega, by omega⟩

theorem nodup_daysFrom (a : ℤ) (n : ℕ) : (daysFrom a n).Nodup :=
  (List.nodup_range n).map fun i j h => by simpa using h

theorem mem_gapDays {cs : List Content} {lo hi d : ℤ} (hlo : (cs.map day).min? = some lo)
    (hhi : (cs.map day).max? = some hi) : d ∈ gapDays day cs ↔ lo < d ∧ d < hi ∧ d ∉ cs.map day := by
  simp only [gapDays, hlo, hhi, List.mem_filter, mem_daysFrom, decide_eq_true_eq]
  constructor
  · rintro ⟨⟨h1, h2⟩, h3⟩
    exact ⟨by omega, by omega, h3⟩
  · rintro ⟨h1, h2, h3⟩
    exact ⟨⟨by omega, by omega⟩, h3⟩

/-- A gap day lies strictly between the earliest and the latest input day. -/
theorem exists_bounds_of_mem_gapDays {cs : List Content} {d : ℤ} (hd : d ∈ gapDays day cs) :
    ∃ lo hi, (cs.map day).min? = some lo ∧ (cs.map day).max? = some hi ∧ lo < d ∧ d < hi := by
  cases hlo : (cs.map day).min? with
  | none => simp [gapDays, hlo] at hd
  | some lo =>
    cases hhi : (cs.map day).max? with
    | none => simp [gapDays, hlo, hhi] at hd
    | some hi =>
      obtain ⟨h1, h2, -⟩ := (mem_gapDays day hlo hhi).1 hd
      exact ⟨lo, hi, rfl, rfl, h1, h2⟩

theorem nodup_gapDays (cs : List Content) : (gapDays day cs).Nodup := by
  unfold gapDays
  split
  · exact (nodup_daysFrom _ _).filter _
  · exact List.nodup_nil

theorem latestDayBefore_succ_of_mem {days : List ℤ} {d : ℤ} (hd : d ∈ days) :
    latestDayBefore days (d + 1) = some d := by
  rw [latestDayBefore, List.max?_eq_some_iff le_refl max_choice (fun _ _ _ => max_le_iff)]
  constructor
  · simp [hd]
  · intro x hx
    simp only [List.mem_filter, decide_eq_true_eq] at hx
    omega

theorem latestDayBefore_succ_of_not_mem {days : List ℤ} {d : ℤ} (hd : d ∉ days) :
    latestDayBefore days (d + 1) = latestDayBefore days d := by
  unfold latestDayBefore
  congr 1
  refine List.filter_congr fun x hx => ?_
  have : x ≠ d := fun h => hd (h ▸ hx)
  simp only [decide_eq_decide]
  omega

theorem gapEntriesFrom_of_le {cs : List Content} {d hi : ℤ} (h : hi ≤ d) :
    gapEntriesFrom cal day cs d hi = [] := by
  simp [gapEntriesFrom, Int.toNat_of_nonpos (by omega : hi - d ≤ 0), daysFrom]

/-- The first day of a walk that has days left. -/
theorem gapEntriesFrom_of_lt {cs : List Content} {d hi : ℤ} (h : d < hi) :
    gapEntriesFrom cal day cs d hi =
      (if d ∈ cs.map day then [] else [gapEntry cal day cs d]) ++
        gapEntriesFrom cal day cs (d + 1) hi := by
  have hn : (hi - d).toNat = (hi - (d + 1)).toNat + 1 := by omega
  unfold gapEntriesFrom
  rw [hn, daysFrom_succ, List.filter_cons]
  by_cases hd : d ∈ cs.map day <;> simp [hd]

end Spec

theorem lastEntryOn_eq_none_iff {day : Content → ℤ} {cs : List Content} {d : ℤ} :
    lastEntryOn day cs d = none ↔ d ∉ cs.map day := by
  simp [lastEntryOn, List.filter_eq_nil_iff]

/-! ## The walk of the code -/

section Walk

variable (cal : Calendar) (getTime : Content → Except String Time) (day : Content → ℤ)

/-- The map the first loop builds: each entry under the text of its day, a later entry of a day
replacing an earlier one. -/
def recordDays (dailyRates : String → Option Content) (cs : List Content) :
    String → Option Content :=
  cs.foldl (fun dailyRates c =>
    Function.update dailyRates (cal.formatYMD (day c * nsPerDay)) (some c)) dailyRates

/-- While a day has been seen, the earliest day so far is the smaller one. -/
theorem startDate_step {a b : ℤ} (ha : a ≠ 0) :
    (if a * nsPerDay = 0 ∨ b * nsPerDay < a * nsPerDay then b * nsPerDay else a * nsPerDay) =
      min a b * nsPerDay := by
  rw [nsPerDay_eq]
  split_ifs <;> omega

/-- While a day has been seen, the latest day so far is the larger one. -/
theorem endDate_step {a b : ℤ} (ha : a ≠ 0) :
    (if a * nsPerDay = 0 ∨ a * nsPerDay < b * nsPerDay then b * nsPerDay else a * nsPerDay) =
      max a b * nsPerDay := by
  rw [nsPerDay_eq]
  split_ifs <;> omega

variable {cal getTime day}

/-- Once a day has been seen, the first loop keeps the earliest and the latest day and records
every entry. -/
theorem collectDays_eq {cs : List Content} (hget : ∀ c ∈ cs, getTime c = .ok (day c * nsPerDay))
    (hzero : ∀ c ∈ cs, day c ≠ 0) {lo hi : ℤ} (hlo : lo ≠ 0) (hhi : hi ≠ 0)
    (dailyRates : String → Option Content) :
    collectDays cal getTime (lo * nsPerDay) (hi * nsPerDay) dailyRates cs =
      .ok ((cs.map day).foldl min lo * nsPerDay, (cs.map day).foldl max hi * nsPerDay,
        recordDays cal day dailyRates cs) := by
  induction cs generalizing lo hi dailyRates with
  | nil => rfl
  | cons c cs ih =>
    have hc := hzero c (.head _)
    simp only [collectDays, hget c (.head _), startDate_step hlo, endDate_step hhi]
    exact ih (fun c hc => hget c (.tail _ hc)) (fun c hc => hzero c (.tail _ hc)) (by omega)
      (by omega) _

/-- Writing values one after the other under their keys leaves under each key the last value
written there. -/
theorem foldl_update_apply {α β : Type} (key : α → String) (val : α → β) (m : String → Option β)
    (l : List α) (k : String) :
    l.foldl (fun m a => Function.update m (key a) (some (val a))) m k =
      (((l.filter (key · = k)).getLast?).map val).or (m k) := by
  induction l generalizing m with
  | nil => rfl
  | cons a l ih =>
    rw [List.foldl_cons, ih]
    by_cases hk : key a = k
    · subst hk
      rw [List.filter_cons_of_pos (by simp), List.getLast?_cons, Function.update_same]
      cases (l.filter (key · = key a)).getLast? <;> rfl
    · rw [List.filter_cons_of_neg (by simpa using hk), Function.update_noteq (Ne.symm hk)]

/-- Looked up under the text of a day, the map gives the day's last entry. -/
theorem recordDays_formatYMD (cs : List Content) (d : ℤ) :
    recordDays cal day (fun _ => none) cs (cal.formatYMD (d * nsPerDay)) = lastEntryOn day cs d := by
  rw [recordDays, foldl_update_apply _ (fun c => c), Option.map_id', Option.or_none, lastEntryOn]
  congr 1
  refine List.filter_congr fun c _ => ?_
  rw [Calendar.formatYMD_mul, Calendar.formatYMD_mul]
  exact decide_eq_decide.2 cal.format_injective.eq_iff

/-- The second loop, from a day `d` up to the latest day `hi` with enough iterations left,
appends the entries of the days from `d` on that have none; `lastDay` is the latest input day
before `d` whenever `d` has no entry. -/
theorem fillGaps_eq (cs : List Content) {hi : ℤ} {dailyRates : String → Option Content}
    (hdaily : ∀ x, dailyRates (cal.formatYMD (x * nsPerDay)) = lastEntryOn day cs x)
    (fuel : ℕ) (d lastDay : ℤ) (acc : List Content) (hd : d ≤ hi) (hfuel : hi - d ≤ fuel)
    (hlast : d ∉ cs.map day → latestDayBefore (cs.map day) d = some lastDay) :
    fillGaps cal (hi * nsPerDay) dailyRates fuel (d * nsPerDay) (lastDay * nsPerDay) acc =
      acc ++ gapEntriesFrom cal day cs d hi := by
  induction fuel generalizing d lastDay acc with
  | zero => rw [fillGaps, gapEntriesFrom_of_le cal day (by omega), List.append_nil]
  | succ fuel ih =>
    rw [fillGaps]
    by_cases hend : d = hi
    · rw [if_pos (.inl (by rw [hend])), gapEntriesFrom_of_le cal day (by omega), List.append_nil]
    have hlt : d < hi := lt_of_le_of_ne hd hend
    have hbefore : ¬(d * nsPerDay = hi * nsPerDay ∨ hi * nsPerDay < d * nsPerDay) := by
      rw [nsPerDay_eq]
      omega
    rw [if_neg hbefore, hdaily, gapEntriesFrom_of_lt cal day hlt, ← add_one_mul]
    cases hentry : lastEntryOn day cs d with
    | none =>
      have hnot := lastEntryOn_eq_none_iff.1 hentry
      rw [if_neg hnot, ih (d + 1) lastDay _ (by omega) (by omega)
        (fun _ => (latestDayBefore_succ_of_not_mem hnot).trans (hlast hnot))]
      simp only [gapEntry, hlast hnot, Option.some_bind, hdaily, List.append_assoc,
        List.singleton_append]
    | some e =>
      have hmem : d ∈ cs.map day := not_not.1 fun h => by simp [lastEntryOn_eq_none_iff.2 h] at hentry
      rw [if_pos hmem, ih (d + 1) d _ (by omega) (by omega)
        (fun _ => latestDayBefore_succ_of_mem hmem), List.nil_append]

/-- From its first entry on, the first loop keeps the earliest and the latest input day, as
`min?` and `max?` compute them, and records every entry. -/
theorem collectDays_cons {c : Content} {cs : List Content}
    (hget : ∀ c' ∈ c :: cs, getTime c' = .ok (day c' * nsPerDay)) (hzero : ∀ c' ∈ c :: cs, day c' ≠ 0) :
    collectDays cal getTime 0 0 (fun _ => none) (c :: cs) =
      .ok ((cs.map day).foldl min (day c) * nsPerDay, (cs.map day).foldl max (day c) * nsPerDay,
        recordDays cal day (fun _ => none) (c :: cs)) := by
  rw [collectDays, hget c (.head _)]
  simp only [true_or, if_true]
  exact collectDays_eq (fun c' h => hget c' (.tail _ h)) (fun c' h => hzero c' (.tail _ h))
    (hzero c (.head _)) (hzero c (.head _)) _

/-- For entries whose `GetTime` gives the midnight of a day other than the zero time's, spanning
at most 180 days, `fillInGapDays` returns them unchanged followed by one entry for each day
strictly between the earliest and the latest that has none, in ascending order, each with the
rates of the last entry of the latest input day before it. -/
theorem fillInGapDays_fills_gaps {cs : List Content}
    (hget : ∀ c ∈ cs, getTime c = .ok (day c * nsPerDay)) (hzero : ∀ c ∈ cs, day c ≠ 0)
    (hspan : ∀ c ∈ cs, ∀ c' ∈ cs, day c' - day c ≤ 180) :
    fillInGapDays cal getTime cs = .ok (cs ++ gapEntries cal day cs) := by
  cases cs with
  | nil => rfl
  | cons c cs =>
    have hmin : ((c :: cs).map day).min? = some ((cs.map day).foldl min (day c)) := rfl
    have hmax : ((c :: cs).map day).max? = some ((cs.map day).foldl max (day c)) := rfl
    obtain ⟨hlo, hlo_le⟩ :=
      (List.min?_eq_some_iff le_refl min_choice (fun _ _ _ => le_min_iff)).1 hmin
    obtain ⟨hhi, hhi_ge⟩ :=
      (List.max?_eq_some_iff le_refl max_choice (fun _ _ _ => max_le_iff)).1 hmax
    have hle := hlo_le _ hhi
    have hwide : (cs.map day).foldl max (day c) - (cs.map day).foldl min (day c) ≤ 180 := by
      obtain ⟨a, ha, hae⟩ := List.mem_map.1 hlo
      obtain ⟨b, hb, hbe⟩ := List.mem_map.1 hhi
      rw [← hae, ← hbe]
      exact hspan a ha b hb
    rw [fillInGapDays, collectDays_cons hget hzero, gapEntries, gapDays, hmin, hmax]
    simp only
    rw [← gapEntriesFrom, fillGaps_eq (c :: cs) (recordDays_formatYMD (c :: cs)) 180 _ _ _ hle (by omega)
      (absurd hlo)]
    congr 2
    rcases hle.lt_or_eq with hlt | heq
    · rw [gapEntriesFrom_of_lt cal day hlt, if_pos hlo, List.nil_append]
    · rw [heq, gapEntriesFrom_of_le cal day le_rfl, gapEntriesFrom_of_le cal day (by omega)]

/-- An entry on January 1 of year 1 is read as the "no day yet" marker: with entries on that
day and two days later, the walk starts from the later one, and the day between them, which has
no entry, gets none. -/
theorem fillInGapDays_misses_gap_after_zero_day :
    fillInGapDays Calendar.tally (fun c => .ok ((c.time.length : ℤ) * nsPerDay))
        [⟨"", [⟨"USD", 1.0⟩]⟩, ⟨"aa", [⟨"USD", 1.2⟩]⟩] ≠
      .ok ([⟨"", [⟨"USD", 1.0⟩]⟩, ⟨"aa", [⟨"USD", 1.2⟩]⟩] ++
        gapEntries Calendar.tally (fun c => (c.time.length : ℤ))
          [⟨"", [⟨"USD", 1.0⟩]⟩, ⟨"aa", [⟨"USD", 1.2⟩]⟩]) := by
  intro h
  have hlen := congrArg (Except.map List.length) h
  have hcode : (fillInGapDays Calendar.tally (fun c => .ok ((c.time.length : ℤ) * nsPerDay))
      [⟨"", [⟨"USD", 1.0⟩]⟩, ⟨"aa", [⟨"USD", 1.2⟩]⟩]).map List.length = .ok 2 := rfl
  have hgaps : (gapEntries Calendar.tally (fun c => (c.time.length : ℤ))
      [⟨"", [⟨"USD", 1.0⟩]⟩, ⟨"aa", [⟨"USD", 1.2⟩]⟩]).length = 1 := by decide
  rw [hcode] at hlen
  simp [hgaps, Except.map] at hlen

end Walk

end Gosoline.Currency

