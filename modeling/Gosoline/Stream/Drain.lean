import Gosoline.Stream.Shutdown

/-!
# Forced flushes drain the buffers

Each tick runs `flushAll`, which folds at most `AggregationSize` messages and pushes at most
`BatchSize` carriers. With no `Write` in between and every fold succeeding, `⌈a/A⌉ + ⌈b/B⌉` ticks
empty an aggregate buffer of `a` messages and a batch buffer of `b` carriers, since each tick on
a non-empty daemon lowers that sum; a tick on empty buffers does nothing at all.
-/

namespace Gosoline.Stream

variable {Msg : Type}

open ProducerDaemon

/-- `⌈x / k⌉`, for `k ≥ 1`. -/
def ceilDiv (x k : ℕ) : ℕ := (x + k - 1) / k

section CeilDiv

variable {x k : ℕ}

theorem ceilDiv_eq_zero (hk : 1 ≤ k) : ceilDiv x k = 0 ↔ x = 0 := by
  unfold ceilDiv
  rw [Nat.div_eq_zero_iff (by omega)]
  omega

/-- Taking `k` off a non-empty pile takes one off its `⌈x / k⌉`. -/
theorem ceilDiv_sub_add_one (hk : 1 ≤ k) (hx : 0 < x) : ceilDiv (x - k) k + 1 = ceilDiv x k := by
  unfold ceilDiv
  rcases Nat.lt_or_ge x k with h | h
  · have h0 : (x - k + k - 1) / k = 0 := Nat.div_eq_of_lt (by omega)
    have h1 : (x + k - 1) / k = 1 := Nat.div_eq_of_lt_le (by omega) (by omega)
    omega
  · have : x + k - 1 = (x - k + k - 1) + k := by omega
    rw [this, Nat.add_div_right _ (by omega)]

/-- Adding one and taking `k` off never raises `⌈x / k⌉`. -/
theorem ceilDiv_add_one_sub_le (hk : 1 ≤ k) : ceilDiv (x + 1 - k) k ≤ ceilDiv x k := by
  unfold ceilDiv
  rcases Nat.lt_or_ge (x + 1) k with h | h
  · rw [Nat.div_eq_of_lt (by omega : x + 1 - k + k - 1 < k)]
    exact Nat.zero_le _
  · exact Nat.div_le_div_right (by omega)

end CeilDiv

/-- The ticks needed to empty both buffers: `⌈a/A⌉ + ⌈b/B⌉`. -/
def flushesNeeded (d : ProducerDaemon Msg) : ℕ :=
  ceilDiv d.aggregate.length d.settings.aggregationSize + ceilDiv d.batch.length d.settings.batchSize

/-- `n` ticks in a row with no `Write` between them, each of whose `flushAll` returned `nil`. -/
inductive Ticks : ProducerDaemon Msg → ℕ → ProducerDaemon Msg → Prop
  | zero (d : ProducerDaemon Msg) : Ticks d 0 d
  | succ {d d' d'' : ProducerDaemon Msg} {n : ℕ} (m : AggregateMarshaller Msg) :
      d.flushAll m = (.ok (), d') → Ticks d' n d'' → Ticks d (n + 1) d''

/-- A tick on empty buffers returns `nil` and changes nothing: no push, no fold, no metric. -/
theorem flushAll_of_empty (d : ProducerDaemon Msg) (m : AggregateMarshaller Msg)
    (hagg : d.aggregate = []) (hbatch : d.batch = []) : d.flushAll m = (.ok (), d) := by
  rw [flushAll_of_nil d m hagg]
  simp [flushBatch, hbatch]

/-- With a marshaller that never fails, every tick returns `nil`. -/
theorem flushAll_fst_of_marshal_ok (d : ProducerDaemon Msg) (m : AggregateMarshaller Msg)
    (hm : ∀ ms attrs, ∃ c, m ms attrs = .ok c) : (d.flushAll m).1 = .ok () := by
  by_cases h : d.aggregate = []
  · rw [flushAll_of_nil d m h]
  · obtain ⟨c, hc⟩ := hm (d.aggregate.take d.settings.aggregationSize)
      ([d.settings.messageAttributes] ++ [[(attributeAggregate, .bool true)]])
    rw [flushAll_of_ne_nil d m h, buildAggregateMessage, hc]
    rfl

/-- A successful tick on a daemon with something buffered lowers `flushesNeeded`. -/
theorem flushesNeeded_flushAll_lt {d d' : ProducerDaemon Msg} {m : AggregateMarshaller Msg}
    (hf : d.flushAll m = (.ok (), d')) (hne : d.aggregate ≠ [] ∨ d.batch ≠ []) :
    flushesNeeded d' < flushesNeeded d := by
  have hA := d.settings.aggregationSize_pos
  have hB := d.settings.batchSize_pos
  unfold flushesNeeded
  rcases flushAll_cases d m with ⟨hnil, h⟩ | ⟨-, _, h⟩ | ⟨hagg, _, h⟩ <;> rw [h] at hf <;>
    simp only [Prod.mk.injEq] at hf
  · obtain ⟨-, rfl⟩ := hf
    have hb : 0 < d.batch.length := List.length_pos.2 (hne.resolve_left (· hnil))
    have := ceilDiv_sub_add_one hB hb
    simp only [hnil, flushBatch_aggregate, flushBatch_batch, flushBatch_settings, List.length_drop,
      List.length_nil]
    omega
  · cases hf.1
  · obtain ⟨-, rfl⟩ := hf
    have := ceilDiv_sub_add_one hA (List.length_pos.2 hagg)
    have := ceilDiv_add_one_sub_le (x := d.batch.length) hB
    simp only [flushBatch_aggregate, flushBatch_batch, flushBatch_settings, List.length_drop,
      List.length_append, List.length_singleton, takeAggregate_aggregate, takeAggregate_settings]
    omega

theorem flushesNeeded_eq_zero {d : ProducerDaemon Msg} :
    flushesNeeded d = 0 ↔ d.aggregate = [] ∧ d.batch = [] := by
  simp only [flushesNeeded, Nat.add_eq_zero, ceilDiv_eq_zero d.settings.aggregationSize_pos,
    ceilDiv_eq_zero d.settings.batchSize_pos, List.length_eq_zero]

/-- At least `flushesNeeded` successful ticks in a row leave both buffers empty. -/
theorem Ticks.drain {d d' : ProducerDaemon Msg} {n : ℕ} (h : Ticks d n d') (hn : flushesNeeded d ≤ n) :
    d'.aggregate = [] ∧ d'.batch = [] := by
  induction h with
  | zero => exact flushesNeeded_eq_zero.1 (by omega)
  | @succ d₀ d₁ _ _ m hf _ ih =>
    apply ih
    by_cases hne : d₀.aggregate ≠ [] ∨ d₀.batch ≠ []
    · have := flushesNeeded_flushAll_lt hf hne
      omega
    · simp only [ne_eq, not_or, not_not] at hne
      rw [flushAll_of_empty d₀ m hne.1 hne.2, Prod.mk.injEq] at hf
      rw [← hf.2, flushesNeeded_eq_zero.2 hne]
      exact Nat.zero_le _

/-- With no `Write` in between and every fold succeeding, `⌈a/A⌉ + ⌈b/B⌉` ticks leave both
buffers empty; a tick on empty buffers pushes nothing and leaves the daemon as it was. -/
theorem forced_flushes_drain :
    (∀ (d d' : ProducerDaemon Msg), Ticks d (flushesNeeded d) d' → d'.aggregate = [] ∧ d'.batch = []) ∧
    (∀ (d : ProducerDaemon Msg) (m : AggregateMarshaller Msg), d.aggregate = [] → d.batch = [] →
      d.flushAll m = (.ok (), d)) :=
  ⟨fun _ _ h => h.drain le_rfl, flushAll_of_empty⟩

theorem forced_flushes_drain_after_write :
    ∃ d d' : ProducerDaemon ℕ, d.aggregate ≠ [] ∧ d.batch ≠ [] ∧ Ticks d (flushesNeeded d) d' ∧
      (d'.aggregate = [] ∧ d'.batch = []) ∧ d'.flushAll (fun _ _ => .ok 0) = (.ok (), d') := by
  let d₀ := ((ProducerDaemon.new "p" { ProducerDaemonSettings.default with
    aggregationSize := 2, aggregationSize_pos := by decide }).write (fun _ _ => .ok 0) [1, 2, 3]).2
  let d₂ := ((d₀.flushAll fun _ _ => .ok 0).2.flushAll fun _ _ => .ok 0).2
  have htick (d : ProducerDaemon ℕ) :
      d.flushAll (fun _ _ => .ok 0) = (.ok (), (d.flushAll fun _ _ => .ok 0).2) :=
    Prod.ext (flushAll_fst_of_marshal_ok d _ fun _ _ => ⟨0, rfl⟩) rfl
  have hticks : Ticks d₀ (flushesNeeded d₀) d₂ := by
    have h2 : flushesNeeded d₀ = 2 := by decide
    rw [h2]
    exact .succ _ (htick d₀) (.succ _ (htick _) (.zero _))
  have hempty := forced_flushes_drain.1 d₀ d₂ hticks
  exact ⟨d₀, d₂, by decide, by decide, hticks, hempty,
    forced_flushes_drain.2 d₂ _ hempty.1 hempty.2⟩

end Gosoline.Stream
