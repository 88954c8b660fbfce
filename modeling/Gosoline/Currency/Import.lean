import Gosoline.Currency.GapDays
import Gosoline.Text

/-!
# The batch of historical rates

`ImportHistoricalExchangeRates` writes, in one `PutBatch`, the rate of every currency of every
entry of the filled feed under the key of the entry's day. When no two input entries share a day,
each day from the earliest to the latest has exactly one entry after the walk, its own or the
copy of the latest day before it, and the batch holds exactly the keys of these days and their
currencies.

Two facts outside the code are hypotheses. `GetTime` reads back the text `Format(YMDLayout)`
writes for the days strictly between the earliest and the latest input day, the days the walk
adds; Go's `time.Parse` does so whenever the input days have years of four digits. Keys of
different days or codes differ.
-/

namespace Gosoline.Currency

/-! ## What the batch should hold -/

/-- The rate a list of rates gives `currency`: the last one, when it is listed twice. -/
def rateOf (rates : List Rate) (currency : String) : Option Float :=
  ((rates.filter (·.currency = currency)).getLast?).map (·.rate)

/-- The rates of the latest input day at or before `d`. -/
def ratesAtMost (day : Content → ℤ) (cs : List Content) (d : ℤ) : List Rate :=
  (((latestDayBefore (cs.map day) (d + 1)).bind (lastEntryOn day cs)).getD Content.zero).rates

/-! ## The loop that builds the batch -/

section Batch

variable (cal : Calendar) (getTime : Content → Except String Time)

/-- The writes the loop makes, oldest first: each rate of each entry under the key of the
entry's day. -/
def rateWrites (dated : List (ℤ × Content)) : List (String × Float) :=
  dated.flatMap fun x => x.2.rates.map fun r => (historicalRateKey cal (x.1 * nsPerDay) r.currency, r.rate)

variable {cal getTime}

/-- When `GetTime` gives each entry its day, the loop makes the writes of `rateWrites`. -/
theorem collectKeyValues_eq {dated : List (ℤ × Content)}
    (hget : ∀ x ∈ dated, getTime x.2 = .ok (x.1 * nsPerDay)) (keyValues : String → Option Float) :
    collectKeyValues cal getTime keyValues (dated.map (·.2)) =
      .ok ((rateWrites cal dated).foldl (fun m w => Function.update m w.1 (some w.2)) keyValues) := by
  induction dated generalizing keyValues with
  | nil => rfl
  | cons x dated ih =>
    simp only [List.map_cons, collectKeyValues, hget x (.head _)]
    rw [ih (fun y hy => hget y (.tail _ hy))]
    simp only [rateWrites, List.flatMap_cons, List.foldl_append, List.foldl_map]

/-- The writes under the key of day `d` and code `c` are those of the entries of day `d`, for
their rates of `c`, when keys of different days or codes differ. -/
theorem filter_rateWrites
    (hkey : ∀ d d' c c', historicalRateKey cal (d * nsPerDay) c =
      historicalRateKey cal (d' * nsPerDay) c' → d = d' ∧ c = c')
    (dated : List (ℤ × Content)) (d : ℤ) (c : String) :
    (rateWrites cal dated).filter (·.1 = historicalRateKey cal (d * nsPerDay) c) =
      rateWrites cal ((dated.filter (·.1 = d)).map fun x =>
        (x.1, { x.2 with rates := x.2.rates.filter (·.currency = c) })) := by
  induction dated with
  | nil => rfl
  | cons x dated ih =>
    rw [rateWrites, List.flatMap_cons, List.filter_append, ← rateWrites, ih, List.filter_cons]
    by_cases hd : x.1 = d
    · simp only [hd, decide_True, if_true, List.map_cons, rateWrites, List.flatMap_cons,
        List.filter_map]
      congr 2
      refine List.filter_congr fun r _ => ?_
      simp only [Function.comp_apply, decide_eq_decide]
      exact ⟨fun h => (hkey _ _ _ _ h).2, fun h => h ▸ rfl⟩
    · rw [if_neg (by simpa using hd), List.filter_eq_nil_iff.2, List.nil_append]
      intro w hw
      obtain ⟨r, _, rfl⟩ := List.mem_map.1 hw
      simpa using fun h => hd (hkey _ _ _ _ h).1

end Batch

/-! ## One entry a day -/

section OneEntry

variable (cal : Calendar) (day : Content → ℤ)

/-- The filled feed, each entry with its day: the input entries, then the added ones. -/
def datedEntries (cs : List Content) : List (ℤ × Content) :=
  cs.map (fun c => (day c, c)) ++ (gapDays day cs).map fun d => (d, gapEntry cal day cs d)

theorem datedEntries_map_snd (cs : List Content) :
    (datedEntries cal day cs).map (·.2) = cs ++ gapEntries cal day cs := by
  simp [datedEntries, gapEntries, Function.comp_def]

variable {cal day}

/-- The entries of one day, among entries of pairwise distinct days. -/
theorem filter_day_eq {cs : List Content} (hdistinct : (cs.map day).Nodup) {d : ℤ} :
    (cs.filter (day · = d)).map day = if d ∈ cs.map day then [d] else [] := by
  have h : (cs.filter (day · = d)).map day = (cs.map day).filter (· = d) := by
    rw [List.filter_map]
    rfl
  rw [h, List.filter_eq]
  split_ifs with hd
  · rw [List.count_eq_one_of_mem hdistinct hd, List.replicate_one]
  · rw [List.count_eq_zero_of_not_mem hd, List.replicate_zero]

/-- A day with an input entry has that entry alone in the filled feed. -/
theorem filter_datedEntries_of_mem {cs : List Content} (hdistinct : (cs.map day).Nodup)
    {lo hi d : ℤ} (hlo : (cs.map day).min? = some lo) (hhi : (cs.map day).max? = some hi)
    (hd : d ∈ cs.map day) :
    ∃ e, lastEntryOn day cs d = some e ∧ (datedEntries cal day cs).filter (·.1 = d) = [(d, e)] := by
  have hone := congrArg List.length (filter_day_eq hdistinct (d := d))
  rw [if_pos hd, List.length_map] at hone
  obtain ⟨e, he⟩ := List.length_eq_one.1 hone
  have hmem : e ∈ cs.filter (fun x => decide (day x = d)) := he ▸ List.mem_singleton_self e
  have hde : day e = d := of_decide_eq_true (List.mem_filter.1 hmem).2
  have hgap : (gapDays day cs).filter (fun x => decide (x = d)) = [] :=
    List.filter_eq_nil_iff.2 fun x hx h =>
      ((mem_gapDays day hlo hhi).1 hx).2.2 (of_decide_eq_true h ▸ hd)
  refine ⟨e, by simp [lastEntryOn, he], ?_⟩
  rw [datedEntries, List.filter_append, List.filter_map, List.filter_map]
  simp only [Function.comp_def, he, hgap, List.append_nil, List.map_cons, List.map_nil, hde]

/-- A day between the earliest and the latest with no input entry has its added entry alone in
the filled feed. -/
theorem filter_datedEntries_of_not_mem {cs : List Content} {lo hi d : ℤ}
    (hlo : (cs.map day).min? = some lo) (hhi : (cs.map day).max? = some hi) (hd : d ∉ cs.map day)
    (hlod : lo ≤ d) (hdhi : d ≤ hi) :
    (datedEntries cal day cs).filter (·.1 = d) = [(d, gapEntry cal day cs d)] := by
  have hlo_mem : lo ∈ cs.map day :=
    ((List.min?_eq_some_iff le_refl min_choice (fun _ _ _ => le_min_iff)).1 hlo).1
  have hhi_mem : hi ∈ cs.map day :=
    ((List.max?_eq_some_iff le_refl max_choice (fun _ _ _ => max_le_iff)).1 hhi).1
  have hgap : d ∈ gapDays day cs := (mem_gapDays day hlo hhi).2
    ⟨lt_of_le_of_ne hlod (fun h => hd (h ▸ hlo_mem)),
      lt_of_le_of_ne hdhi (fun h => hd (h ▸ hhi_mem)), hd⟩
  have hsingle : (gapDays day cs).filter (fun x => decide (x = d)) = [d] := by
    rw [List.filter_eq, List.count_eq_one_of_mem (nodup_gapDays day cs) hgap, List.replicate_one]
  have hinput : cs.filter (fun c => decide (day c = d)) = [] :=
    List.filter_eq_nil_iff.2 fun c hc h => hd (of_decide_eq_true h ▸ List.mem_map_of_mem day hc)
  rw [datedEntries, List.filter_append, List.filter_map, List.filter_map]
  simp only [Function.comp_def, hinput, hsingle, List.map_nil, List.nil_append, List.map_cons]

end OneEntry

/-! ## The batch -/

section Import

variable {cal : Calendar} {getTime : Content → Except String Time} {day : Content → ℤ}

/-- Under the key of a day with one entry, the batch holds that entry's rate of the code. -/
theorem lookup_rateWrites
    (hkey : ∀ d d' c c', historicalRateKey cal (d * nsPerDay) c =
      historicalRateKey cal (d' * nsPerDay) c' → d = d' ∧ c = c')
    {dated : List (ℤ × Content)} {d : ℤ} {e : Content} (hone : dated.filter (·.1 = d) = [(d, e)])
    (c : String) :
    (rateWrites cal dated).foldl (fun (m : String → Option Float) w => Function.update m w.1 (some w.2))
      (fun _ => none)
        (historicalRateKey cal (d * nsPerDay) c) = rateOf e.rates c := by
  rw [foldl_update_apply (Prod.fst : String × Float → String) Prod.snd, Option.or_none,
    filter_rateWrites hkey, hone]
  simp [rateWrites, rateOf, List.getLast?_map, Option.map_map, Function.comp_def]

/-- A key no entry's day and code make is not in the batch. -/
theorem lookup_rateWrites_none {dated : List (ℤ × Content)} {k : String}
    (hk : ∀ x ∈ dated, ∀ c, k ≠ historicalRateKey cal (x.1 * nsPerDay) c) :
    (rateWrites cal dated).foldl (fun (m : String → Option Float) w => Function.update m w.1 (some w.2))
      (fun _ => none) k =
      none := by
  rw [foldl_update_apply (Prod.fst : String × Float → String) Prod.snd, Option.or_none,
    List.filter_eq_nil_iff.2]
  · rfl
  · intro w hw hwk
    obtain ⟨x, hx, hw⟩ := List.mem_flatMap.1 hw
    obtain ⟨r, _, rfl⟩ := List.mem_map.1 hw
    exact hk x hx r.currency (of_decide_eq_true hwk).symm

/-- For entries with pairwise distinct days, other than the zero time's, spanning at most 180
days, `ImportHistoricalExchangeRates` writes one batch, and the batch holds exactly the keys of
the days from the earliest to the latest input day with the codes of the latest input day at or
before each, each with that day's rate. -/
theorem importHistoricalExchangeRates_batch {cs : List Content}
    (hget : ∀ c ∈ cs, getTime c = .ok (day c * nsPerDay)) (hzero : ∀ c ∈ cs, day c ≠ 0)
    (hspan : ∀ c ∈ cs, ∀ c' ∈ cs, day c' - day c ≤ 180) (hdistinct : (cs.map day).Nodup)
    (hparse : ∀ lo hi, (cs.map day).min? = some lo → (cs.map day).max? = some hi →
      ∀ d, lo < d → d < hi → ∀ rates : List Rate,
        getTime ⟨cal.formatYMD (d * nsPerDay), rates⟩ = .ok (d * nsPerDay))
    (hkey : ∀ d d' c c', historicalRateKey cal (d * nsPerDay) c =
      historicalRateKey cal (d' * nsPerDay) c' → d = d' ∧ c = c')
    (store : KvStore) :
    ∃ keyValues : String → Option Float,
      importHistoricalExchangeRates cal getTime store (.ok cs) = (.ok (), store.putBatch keyValues) ∧
      ∀ lo hi, (cs.map day).min? = some lo → (cs.map day).max? = some hi →
        (∀ d c, lo ≤ d → d ≤ hi →
          keyValues (historicalRateKey cal (d * nsPerDay) c) = rateOf (ratesAtMost day cs d) c) ∧
        ∀ k, (∀ d c, lo ≤ d → d ≤ hi → k ≠ historicalRateKey cal (d * nsPerDay) c) →
          keyValues k = none := by
  have hdated : ∀ x ∈ datedEntries cal day cs, getTime x.2 = .ok (x.1 * nsPerDay) := by
    intro x hx
    rcases List.mem_append.1 hx with hx | hx
    · obtain ⟨c, hc, rfl⟩ := List.mem_map.1 hx
      exact hget c hc
    · obtain ⟨d, hd, rfl⟩ := List.mem_map.1 hx
      obtain ⟨lo, hi, hlo, hhi, h1, h2⟩ := exists_bounds_of_mem_gapDays day hd
      exact hparse lo hi hlo hhi d h1 h2 _
  refine ⟨(rateWrites cal (datedEntries cal day cs)).foldl
    (fun (m : String → Option Float) w => Function.update m w.1 (some w.2)) (fun _ => none), ?_,
    fun lo hi hlo hhi => ⟨fun d c hlod hdhi => ?_, fun k hk => ?_⟩⟩
  · rw [importHistoricalExchangeRates, fillInGapDays_fills_gaps hget hzero hspan]
    simp only
    rw [← datedEntries_map_snd, collectKeyValues_eq hdated]
  · by_cases hd : d ∈ cs.map day
    · obtain ⟨e, he, hone⟩ := @filter_datedEntries_of_mem cal day cs hdistinct lo hi d hlo hhi hd
      rw [lookup_rateWrites hkey hone, ratesAtMost, latestDayBefore_succ_of_mem hd]
      simp [he]
    · rw [lookup_rateWrites hkey (filter_datedEntries_of_not_mem hlo hhi hd hlod hdhi), ratesAtMost,
        latestDayBefore_succ_of_not_mem hd]
      rfl
  · refine lookup_rateWrites_none fun x hx c => ?_
    have hlo_le := ((List.min?_eq_some_iff le_refl min_choice (fun _ _ _ => le_min_iff)).1 hlo).2
    have hhi_ge := ((List.max?_eq_some_iff le_refl max_choice (fun _ _ _ => max_le_iff)).1 hhi).2
    rcases List.mem_append.1 hx with hx | hx
    · obtain ⟨e, he, rfl⟩ := List.mem_map.1 hx
      exact hk _ c (hlo_le _ (List.mem_map_of_mem day he)) (hhi_ge _ (List.mem_map_of_mem day he))
    · obtain ⟨d, hd, rfl⟩ := List.mem_map.1 hx
      obtain ⟨h1, h2, -⟩ := (mem_gapDays day hlo hhi).1 hd
      exact hk d c h1.le h2.le

/-- `fillInGapDays` appends to entries on days other than the zero time's, spanning at most 180
days, one entry for each day between the earliest and the latest that has none, in ascending
order, with the rates of the last entry of the latest input day before it. When no two entries
share a day, the batch that `ImportHistoricalExchangeRates` then writes holds exactly the keys of
every day from the earliest to the latest with the codes of the latest input day at or before
it, each with that day's rate. -/
theorem gap_days_filled_and_imported {cs : List Content}
    (hget : ∀ c ∈ cs, getTime c = .ok (day c * nsPerDay)) (hzero : ∀ c ∈ cs, day c ≠ 0)
    (hspan : ∀ c ∈ cs, ∀ c' ∈ cs, day c' - day c ≤ 180) :
    fillInGapDays cal getTime cs = .ok (cs ++ gapEntries cal day cs) ∧
    ((cs.map day).Nodup →
      (∀ lo hi, (cs.map day).min? = some lo → (cs.map day).max? = some hi →
        ∀ d, lo < d → d < hi → ∀ rates : List Rate,
          getTime ⟨cal.formatYMD (d * nsPerDay), rates⟩ = .ok (d * nsPerDay)) →
      (∀ d d' c c', historicalRateKey cal (d * nsPerDay) c =
        historicalRateKey cal (d' * nsPerDay) c' → d = d' ∧ c = c') →
      ∀ store : KvStore, ∃ keyValues : String → Option Float,
        importHistoricalExchangeRates cal getTime store (.ok cs) = (.ok (), store.putBatch keyValues) ∧
        ∀ lo hi, (cs.map day).min? = some lo → (cs.map day).max? = some hi →
          (∀ d c, lo ≤ d → d ≤ hi →
            keyValues (historicalRateKey cal (d * nsPerDay) c) = rateOf (ratesAtMost day cs d) c) ∧
          ∀ k, (∀ d c, lo ≤ d → d ≤ hi → k ≠ historicalRateKey cal (d * nsPerDay) c) →
            keyValues k = none) :=
  ⟨fillInGapDays_fills_gaps hget hzero hspan, fun hdistinct hparse hkey store =>
    importHistoricalExchangeRates_batch hget hzero hspan hdistinct hparse hkey store⟩

/-- The tally layout writes no dash, so its keys tell their day and code apart. -/
theorem tally_historicalRateKey_inj (d d' : ℤ) (c c' : String)
    (h : historicalRateKey Calendar.tally (d * nsPerDay) c =
      historicalRateKey Calendar.tally (d' * nsPerDay) c') : d = d' ∧ c = c' := by
  have hsep : ∀ e : ℤ, '-' ∉ (Calendar.tally.format e).data := by
    intro e hmem
    have := List.eq_of_mem_replicate hmem
    split_ifs at this <;> exact absurd this (by decide)
  rw [String.ext_iff] at h
  simp only [historicalRateKey, Calendar.formatYMD_mul, String.data_append] at h
  have hsplit := append_cons_inj_of_not_mem (hsep d) (hsep d') (by simpa using h)
  exact ⟨Calendar.tally.format_injective (String.ext hsplit.1), String.ext hsplit.2⟩

theorem gap_days_filled_and_imported_on_tally :
    ∃ keyValues : String → Option Float,
      importHistoricalExchangeRates Calendar.tally (fun c => .ok ((c.time.length : ℤ) * nsPerDay))
          KvStore.empty (.ok [⟨"aaaa", [⟨"USD", 1.4⟩]⟩, ⟨"a", [⟨"USD", 1.1⟩]⟩]) =
        (.ok (), KvStore.empty.putBatch keyValues) ∧
      keyValues (historicalRateKey Calendar.tally (2 * nsPerDay) "USD") = some 1.1 := by
  obtain ⟨keyValues, himport, hkv⟩ := (@gap_days_filled_and_imported Calendar.tally
    (fun c => .ok ((c.time.length : ℤ) * nsPerDay)) (fun c => (c.time.length : ℤ))
    [⟨"aaaa", [⟨"USD", 1.4⟩]⟩, ⟨"a", [⟨"USD", 1.1⟩]⟩] (fun _ _ => rfl) (by decide)
    (by decide)).2 (by decide) (fun lo _ hlo _ d hd _ _ => by
      obtain ⟨c, -, rfl⟩ := List.mem_map.1 (List.min?_mem min_choice hlo)
      rw [Calendar.formatYMD_mul, Calendar.length_tally_format (by omega)])
    tally_historicalRateKey_inj KvStore.empty
  refine ⟨keyValues, himport, ?_⟩
  rw [(hkv 1 4 rfl rfl).1 2 "USD" (by decide) (by decide)]
  rfl

end Import

end Gosoline.Currency
