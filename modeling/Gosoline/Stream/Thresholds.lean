import Gosoline.Stream.Conservation

/-!
# Batch and aggregate sizes

Every batch the daemon pushes holds between one and `BatchSize` carriers and every aggregate
folds between one and `AggregationSize` messages from the front of the aggregate buffer; those
built by `Write` are full. One `Write` pushes at most one batch and folds at most one aggregate,
so the buffers stay below their thresholds only while each `Write` carries few enough messages.
-/

namespace Gosoline.Stream

variable {Msg : Type}

open ProducerDaemon

/-! ## What one method pushes and folds -/

section Methods

variable (d : ProducerDaemon Msg)

theorem appendBatch_batch (cs : List (WritableMessage Msg)) :
    (d.appendBatch cs).batch = if (d.batch ++ cs).length < d.settings.batchSize then d.batch ++ cs
      else (d.batch ++ cs).drop d.settings.batchSize := by
  simp only [appendBatch]; split <;> simp

/-- `flushBatch` pushes nothing, or the first `BatchSize` carriers of a non-empty buffer. -/
theorem flushBatch_pushed : d.flushBatch.outCh.pushed = d.outCh.pushed ∨
    (d.batch ≠ [] ∧ d.flushBatch.outCh.pushed = d.outCh.pushed ++ [d.batch.take d.settings.batchSize]) := by
  rw [flushBatch_outCh]
  split
  · exact .inl rfl
  · cases hc : d.outCh.closed
    · exact .inr ⟨fun hnil => by simp_all, by simp [hc]⟩
    · exact .inl (by simp [hc])

/-- `appendBatch` pushes nothing, or a full batch. -/
theorem appendBatch_pushed (cs : List (WritableMessage Msg)) :
    (d.appendBatch cs).outCh.pushed = d.outCh.pushed ∨ ∃ b, (d.appendBatch cs).outCh.pushed =
      d.outCh.pushed ++ [b] ∧ b.length = d.settings.batchSize := by
  simp only [appendBatch]
  split
  · exact .inl rfl
  · rcases flushBatch_pushed { d with batch := d.batch ++ cs } with h | ⟨-, h⟩
    · exact .inl h
    · exact .inr ⟨_, h, by simp only [List.length_take]; omega⟩

/-- A batch `Write` pushes is full. -/
theorem write_pushed (m : AggregateMarshaller Msg) (batch : List Msg) :
    (d.write m batch).2.outCh.pushed = d.outCh.pushed ∨ ∃ b, (d.write m batch).2.outCh.pushed =
      d.outCh.pushed ++ [b] ∧ b.length = d.settings.batchSize := by
  rcases write_cases d m batch with ⟨-, h⟩ | ⟨-, -, h⟩ | ⟨-, -, _, h⟩ | ⟨-, -, _, h⟩ <;> rw [h]
  · exact appendBatch_pushed _ _
  · exact appendBatch_pushed _ _
  · exact .inl rfl
  · exact appendBatch_pushed _ _

/-- An aggregate `Write` builds folds exactly `AggregationSize` messages from the front of the
aggregate buffer with the new messages appended. -/
theorem write_marshalled (m : AggregateMarshaller Msg) (batch : List Msg) :
    (d.write m batch).2.marshalled = d.marshalled ∨ ∃ ok, (d.write m batch).2.marshalled =
      d.marshalled ++ [((d.aggregate ++ batch).take d.settings.aggregationSize, ok)] ∧
      ((d.aggregate ++ batch).take d.settings.aggregationSize).length = d.settings.aggregationSize := by
  rcases write_cases d m batch with ⟨-, h⟩ | ⟨-, -, h⟩ | ⟨-, hle, _, h⟩ | ⟨-, hle, _, h⟩ <;> rw [h]
  · exact .inl (by simp)
  · exact .inl (by simp)
  · exact .inr ⟨false, by simp, by simp only [List.length_take]; omega⟩
  · exact .inr ⟨true, by simp, by simp only [List.length_take]; omega⟩

/-- The aggregate a tick or `close` builds folds between one and `AggregationSize` messages from
the front of the aggregate buffer. -/
theorem flushAll_marshalled (m : AggregateMarshaller Msg) :
    (d.flushAll m).2.marshalled = d.marshalled ∨ ∃ ok, (d.flushAll m).2.marshalled =
      d.marshalled ++ [(d.aggregate.take d.settings.aggregationSize, ok)] ∧
      1 ≤ (d.aggregate.take d.settings.aggregationSize).length := by
  have hpos := d.settings.aggregationSize_pos
  rcases flushAll_cases d m with ⟨-, h⟩ | ⟨hne, _, h⟩ | ⟨hne, _, h⟩ <;> rw [h]
  · exact .inl (by simp)
  · refine .inr ⟨false, by simp, ?_⟩
    have := List.length_pos.2 hne
    simp only [List.length_take]; omega
  · refine .inr ⟨true, by simp, ?_⟩
    have := List.length_pos.2 hne
    simp only [List.length_take]; omega

end Methods

/-! ## Sizes along a run -/

/-- What bounds the output: every pushed batch holds between one and `BatchSize` carriers,
every carrier waiting or pushed stands for between one and `AggregationSize` messages, and
every group handed to the marshaller holds between one and `AggregationSize`. -/
structure Bounded (d : ProducerDaemon Msg) : Prop where
  pushed : ∀ b ∈ d.outCh.pushed, 1 ≤ b.length ∧ b.length ≤ d.settings.batchSize
  carriers : ∀ c ∈ d.batch ++ d.outCh.pushed.flatten,
    1 ≤ c.unfold.length ∧ c.unfold.length ≤ d.settings.aggregationSize
  marshalled : ∀ g ∈ d.marshalled, 1 ≤ g.1.length ∧ g.1.length ≤ d.settings.aggregationSize

namespace Bounded

variable {d : ProducerDaemon Msg}

theorem new (name : String) (settings : ProducerDaemonSettings) :
    Bounded (ProducerDaemon.new name settings : ProducerDaemon Msg) :=
  ⟨by simp [ProducerDaemon.new, OutputChannel.new], by simp [ProducerDaemon.new, OutputChannel.new],
    by simp [ProducerDaemon.new]⟩

/-- A daemon with the settings of `d` is bounded when its buffers are, against `d`'s bounds. -/
theorem of_settings_eq {d' : ProducerDaemon Msg} (hset : d'.settings = d.settings)
    (hpushed : ∀ b ∈ d'.outCh.pushed, 1 ≤ b.length ∧ b.length ≤ d.settings.batchSize)
    (hcarriers : ∀ c ∈ d'.batch ++ d'.outCh.pushed.flatten,
      1 ≤ c.unfold.length ∧ c.unfold.length ≤ d.settings.aggregationSize)
    (hmarshalled : ∀ g ∈ d'.marshalled, 1 ≤ g.1.length ∧ g.1.length ≤ d.settings.aggregationSize) :
    Bounded d' := by
  rw [← hset] at hpushed hcarriers hmarshalled
  exact ⟨hpushed, hcarriers, hmarshalled⟩

theorem flushBatch (h : Bounded d) : Bounded d.flushBatch := by
  have hB := d.settings.batchSize_pos
  refine of_settings_eq (flushBatch_settings d) ?_ ?_
    (by rw [flushBatch_marshalled]; exact h.marshalled)
  · rcases flushBatch_pushed d with hp | ⟨hne, hp⟩ <;> rw [hp]
    · exact h.pushed
    · have := List.length_pos.2 hne
      simp only [List.mem_append, List.mem_singleton]
      rintro b (hb | rfl)
      · exact h.pushed b hb
      · rw [List.length_take]; omega
  · intro c hc
    refine h.carriers c ?_
    rcases flushBatch_pushed d with hp | ⟨-, hp⟩ <;> simp only [hp, flushBatch_batch] at hc
    · simp only [List.mem_append] at hc ⊢
      exact hc.imp List.mem_of_mem_drop id
    · simp only [List.flatten_append, List.flatten_singleton, List.mem_append] at hc ⊢
      rcases hc with hc | (hc | hc)
      · exact .inl (List.mem_of_mem_drop hc)
      · exact .inr hc
      · exact .inl (List.mem_of_mem_take hc)

theorem appendBatch (h : Bounded d) {cs : List (WritableMessage Msg)}
    (hcs : ∀ c ∈ cs, 1 ≤ c.unfold.length ∧ c.unfold.length ≤ d.settings.aggregationSize) :
    Bounded (d.appendBatch cs) := by
  have h' : Bounded { d with batch := d.batch ++ cs } := by
    refine ⟨h.pushed, ?_, h.marshalled⟩
    simp only [List.mem_append]
    rintro c ((hc | hc) | hc)
    · exact h.carriers c (List.mem_append_left _ hc)
    · exact hcs c hc
    · exact h.carriers c (List.mem_append_right _ hc)
  simp only [ProducerDaemon.appendBatch]
  split
  · exact h'
  · exact h'.flushBatch

theorem takeAggregate (h : Bounded d) (hne : d.aggregate ≠ []) (ok : Bool) :
    Bounded (d.takeAggregate ok) := by
  have := List.length_pos.2 hne
  have := d.settings.aggregationSize_pos
  refine ⟨h.pushed, h.carriers, ?_⟩
  simp only [takeAggregate_marshalled, List.mem_append, List.mem_singleton, takeAggregate_settings]
  rintro g (hg | rfl)
  · exact h.marshalled g hg
  · simp only [List.length_take]; omega

/-- Every step keeps the bounds. -/
theorem step (h : Bounded d) {ev : Event Msg} {d' : ProducerDaemon Msg} (hs : Step d ev d') :
    Bounded d' := by
  have hA := d.settings.aggregationSize_pos
  have hflushAll : ∀ m : AggregateMarshaller Msg, Bounded (d.flushAll m).2 := by
    intro m
    rcases flushAll_cases d m with ⟨-, hf⟩ | ⟨hne, _, hf⟩ | ⟨hne, msg, hf⟩ <;> rw [hf]
    · exact h.flushBatch
    · exact h.takeAggregate hne false
    · refine Bounded.flushBatch ⟨(h.takeAggregate hne true).pushed, ?_,
        (h.takeAggregate hne true).marshalled⟩
      have := List.length_pos.2 hne
      simp only [List.mem_append, List.mem_singleton]
      rintro c ((hc | rfl) | hc)
      · exact h.carriers c (List.mem_append_left _ hc)
      · simp only [WritableMessage.unfold_aggregate, List.length_take, takeAggregate_settings]; omega
      · exact h.carriers c (List.mem_append_right _ hc)
  cases hs with
  | write m batch =>
    have hw : Bounded (d.withAggregated batch) := ⟨h.pushed, h.carriers, h.marshalled⟩
    rcases write_cases d m batch with ⟨-, hw'⟩ | ⟨-, -, hw'⟩ | ⟨hA1, hle, _, hw'⟩ | ⟨hA1, hle, msg, hw'⟩ <;>
      simp only [hw']
    · refine Bounded.appendBatch (d := d.writeMetricMessageCount batch.length)
        ⟨h.pushed, h.carriers, h.marshalled⟩ ?_
      simp only [List.mem_map]
      rintro c ⟨x, -, rfl⟩
      simpa using hA
    · exact hw.appendBatch (by simp)
    · have hne : d.aggregate ++ batch ≠ [] := List.ne_nil_of_length_pos (by omega)
      exact hw.takeAggregate hne false
    · have hne : d.aggregate ++ batch ≠ [] := List.ne_nil_of_length_pos (by omega)
      refine (hw.takeAggregate hne true).appendBatch ?_
      simp only [List.mem_singleton, forall_eq, WritableMessage.unfold_aggregate, List.length_take,
        takeAggregate_settings, withAggregated_settings]
      omega
  | tick m => exact hflushAll m
  | read _ hr =>
    obtain ⟨-, hs, -, hb, hM, hp, -⟩ := outputLoopStep_eq hr
    exact ⟨by rw [hp, hs]; exact h.pushed, by rw [hb, hp, hs]; exact h.carriers,
      by rw [hM, hs]; exact h.marshalled⟩
  | close m _ =>
    rw [close_snd]
    exact ⟨(hflushAll m).pushed, (hflushAll m).carriers, (hflushAll m).marshalled⟩

end Bounded

/-- Along every run from a new daemon, each batch pushed holds between one and `BatchSize`
carriers and each carrier stands for between one and `AggregationSize` messages. In every state
the run reaches, a `Write` pushes only a full batch and folds only the first `AggregationSize`
messages of the aggregate buffer, and a tick or `close` folds between one and `AggregationSize`
messages from its front. -/
theorem batches_and_aggregates_bounded {name : String} {settings : ProducerDaemonSettings}
    {evs : List (Event Msg)} {d : ProducerDaemon Msg}
    (hrun : Run (ProducerDaemon.new name settings) evs d) :
    (∀ b ∈ d.outCh.pushed, 1 ≤ b.length ∧ b.length ≤ d.settings.batchSize) ∧
    (∀ c ∈ d.batch ++ d.outCh.pushed.flatten,
      1 ≤ c.unfold.length ∧ c.unfold.length ≤ d.settings.aggregationSize) ∧
    (∀ (m : AggregateMarshaller Msg) (batch : List Msg),
      ((d.write m batch).2.outCh.pushed = d.outCh.pushed ∨ ∃ b, (d.write m batch).2.outCh.pushed =
        d.outCh.pushed ++ [b] ∧ b.length = d.settings.batchSize) ∧
      ((d.write m batch).2.marshalled = d.marshalled ∨ ∃ ok, (d.write m batch).2.marshalled =
        d.marshalled ++ [((d.aggregate ++ batch).take d.settings.aggregationSize, ok)] ∧
        ((d.aggregate ++ batch).take d.settings.aggregationSize).length = d.settings.aggregationSize)) ∧
    (∀ m : AggregateMarshaller Msg, (d.flushAll m).2.marshalled = d.marshalled ∨
      ∃ ok, (d.flushAll m).2.marshalled = d.marshalled ++ [(d.aggregate.take d.settings.aggregationSize, ok)] ∧
        1 ≤ (d.aggregate.take d.settings.aggregationSize).length) := by
  have hb := hrun.inv Bounded (fun hs h => h.step hs) (Bounded.new name settings)
  exact ⟨hb.pushed, hb.carriers, fun m batch => ⟨write_pushed d m batch, write_marshalled d m batch⟩,
    flushAll_marshalled d⟩

theorem batches_and_aggregates_bounded_after_write :
    ∃ (evs : List (Event ℕ)) (d : ProducerDaemon ℕ),
      Run (ProducerDaemon.new "p" { ProducerDaemonSettings.default with
        batchSize := 2, batchSize_pos := by decide }) evs d ∧ d.outCh.pushed ≠ [] ∧
      (∀ b ∈ d.outCh.pushed, 1 ≤ b.length ∧ b.length ≤ d.settings.batchSize) ∧
      (∀ c ∈ d.batch ++ d.outCh.pushed.flatten,
        1 ≤ c.unfold.length ∧ c.unfold.length ≤ d.settings.aggregationSize) ∧
      (∀ (m : AggregateMarshaller ℕ) (batch : List ℕ),
        ((d.write m batch).2.outCh.pushed = d.outCh.pushed ∨ ∃ b, (d.write m batch).2.outCh.pushed =
          d.outCh.pushed ++ [b] ∧ b.length = d.settings.batchSize) ∧
        ((d.write m batch).2.marshalled = d.marshalled ∨ ∃ ok, (d.write m batch).2.marshalled =
          d.marshalled ++ [((d.aggregate ++ batch).take d.settings.aggregationSize, ok)] ∧
          ((d.aggregate ++ batch).take d.settings.aggregationSize).length = d.settings.aggregationSize)) ∧
      (∀ m : AggregateMarshaller ℕ, (d.flushAll m).2.marshalled = d.marshalled ∨
        ∃ ok, (d.flushAll m).2.marshalled = d.marshalled ++ [(d.aggregate.take d.settings.aggregationSize, ok)] ∧
          1 ≤ (d.aggregate.take d.settings.aggregationSize).length) :=
  have hrun := Run.snoc (Run.nil _) (Step.write (fun _ _ => .ok 0) [1, 2, 3])
  ⟨_, _, hrun, by decide, batches_and_aggregates_bounded hrun⟩

/-! ## The buffers' lengths -/

/-- What every run keeps whatever its `Write` calls carry: with aggregation off the aggregate
buffer stays empty, with it on the batch buffer stays below `BatchSize`, since each critical
section adds at most one aggregate to it. -/
structure Shaped (d : ProducerDaemon Msg) : Prop where
  aggregate_nil : d.settings.aggregationSize ≤ 1 → d.aggregate = []
  batch_lt : 1 < d.settings.aggregationSize → d.batch.length < d.settings.batchSize

/-- Both buffers below their thresholds; with aggregation off the aggregate buffer is empty. -/
structure BelowThresholds (d : ProducerDaemon Msg) : Prop where
  batch_lt : d.batch.length < d.settings.batchSize
  aggregate_lt : d.aggregate.length < d.settings.aggregationSize

/-- The most messages one `Write` may carry for both buffers to stay below their thresholds. -/
def writeBound (settings : ProducerDaemonSettings) : ℕ :=
  if settings.aggregationSize ≤ 1 then settings.batchSize else settings.aggregationSize

section Lengths

variable (d : ProducerDaemon Msg)

theorem appendBatch_batch_length (cs : List (WritableMessage Msg)) :
    (d.appendBatch cs).batch.length =
      if d.batch.length + cs.length < d.settings.batchSize then d.batch.length + cs.length
      else d.batch.length + cs.length - d.settings.batchSize := by
  rw [appendBatch_batch]
  by_cases h : d.batch.length + cs.length < d.settings.batchSize <;> simp [h]

/-- Appending at most `BatchSize` carriers to a buffer below `BatchSize` leaves it below. -/
theorem appendBatch_batch_lt {cs : List (WritableMessage Msg)}
    (hb : d.batch.length < d.settings.batchSize) (hcs : cs.length ≤ d.settings.batchSize) :
    (d.appendBatch cs).batch.length < d.settings.batchSize := by
  rw [appendBatch_batch_length]
  split <;> omega

@[simp] theorem flushAll_settings (m : AggregateMarshaller Msg) :
    (d.flushAll m).2.settings = d.settings := by
  rcases flushAll_cases d m with ⟨-, h⟩ | ⟨-, _, h⟩ | ⟨-, _, h⟩ <;> simp [h]

theorem flushAll_lengths (m : AggregateMarshaller Msg) :
    (d.flushAll m).2.aggregate.length ≤ d.aggregate.length ∧
      (d.flushAll m).2.batch.length ≤ d.batch.length + 1 - d.settings.batchSize ∨
    (d.aggregate ≠ [] ∧ (d.flushAll m).2.aggregate.length < d.aggregate.length ∧
      (d.flushAll m).2.batch = d.batch) := by
  have hB := d.settings.batchSize_pos
  rcases flushAll_cases d m with ⟨hnil, h⟩ | ⟨hne, _, h⟩ | ⟨hne, _, h⟩ <;> rw [h]
  · left; simp only [hnil, flushBatch_aggregate, flushBatch_batch, List.length_drop, List.length_nil]; omega
  · have := List.length_pos.2 hne
    have := d.settings.aggregationSize_pos
    refine .inr ⟨hne, ?_, rfl⟩
    simp only [takeAggregate_aggregate, List.length_drop]; omega
  · left; simp

end Lengths

namespace Shaped

variable {d : ProducerDaemon Msg}

/-- A daemon with the settings of `d` is shaped when its buffers are, measured against `d`'s
thresholds. -/
theorem of_settings_eq {d' : ProducerDaemon Msg} (hset : d'.settings = d.settings)
    (hagg : d.settings.aggregationSize ≤ 1 → d'.aggregate = [])
    (hbatch : 1 < d.settings.aggregationSize → d'.batch.length < d.settings.batchSize) : Shaped d' :=
  ⟨fun hA => hagg (hset ▸ hA), fun hA => hset ▸ hbatch (hset ▸ hA)⟩

theorem step (h : Shaped d) {ev : Event Msg} {d' : ProducerDaemon Msg} (hs : Step d ev d') :
    Shaped d' := by
  suffices hd' : (d.settings.aggregationSize ≤ 1 → d'.aggregate = []) ∧
      (1 < d.settings.aggregationSize → d'.batch.length < d.settings.batchSize) from
    of_settings_eq hs.settings_eq.1 hd'.1 hd'.2
  have hB := d.settings.batchSize_pos
  have hflushAll : ∀ m : AggregateMarshaller Msg,
      (d.settings.aggregationSize ≤ 1 → (d.flushAll m).2.aggregate = []) ∧
      (1 < d.settings.aggregationSize → (d.flushAll m).2.batch.length < d.settings.batchSize) := by
    intro m
    rcases flushAll_cases d m with ⟨hnil, hf⟩ | ⟨hne, _, hf⟩ | ⟨hne, msg, hf⟩ <;> rw [hf]
    · refine ⟨fun _ => by rw [flushBatch_aggregate, hnil], fun hA => ?_⟩
      have := h.batch_lt hA
      rw [flushBatch_batch, List.length_drop]; omega
    · exact ⟨fun hA => absurd (h.aggregate_nil hA) hne, h.batch_lt⟩
    · refine ⟨fun hA => absurd (h.aggregate_nil hA) hne, fun hA => ?_⟩
      have := h.batch_lt hA
      simp only [flushBatch_batch, List.length_drop, List.length_append, List.length_singleton,
        takeAggregate_settings]
      omega
  cases hs with
  | write m batch =>
    rcases write_cases d m batch with ⟨hA, hw⟩ | ⟨hA, -, hw⟩ | ⟨hA, -, _, hw⟩ | ⟨hA, -, msg, hw⟩ <;>
      rw [hw]
    · exact ⟨fun _ => by rw [appendBatch_aggregate]; exact h.aggregate_nil hA,
        fun hA' => absurd hA (Nat.not_le.2 hA')⟩
    · exact ⟨fun hA' => absurd hA (Nat.not_lt.2 hA'),
        fun _ => appendBatch_batch_lt _ (h.batch_lt hA) (Nat.zero_le _)⟩
    · exact ⟨fun hA' => absurd hA (Nat.not_lt.2 hA'), fun _ => h.batch_lt hA⟩
    · exact ⟨fun hA' => absurd hA (Nat.not_lt.2 hA'),
        fun _ => appendBatch_batch_lt _ (h.batch_lt hA) hB⟩
  | tick m => exact hflushAll m
  | read _ hr =>
    obtain ⟨-, -, hagg, hb, -⟩ := outputLoopStep_eq hr
    exact ⟨by rw [hagg]; exact h.aggregate_nil, by rw [hb]; exact h.batch_lt⟩
  | close m _ =>
    rw [close_snd]
    exact hflushAll m

end Shaped

namespace BelowThresholds

variable {d : ProducerDaemon Msg}

/-- A daemon with the settings of `d` is below the thresholds when its buffers are below
`d`'s. -/
theorem of_settings_eq {d' : ProducerDaemon Msg} (hset : d'.settings = d.settings)
    (hbatch : d'.batch.length < d.settings.batchSize)
    (hagg : d'.aggregate.length < d.settings.aggregationSize) : BelowThresholds d' :=
  ⟨hset ▸ hbatch, hset ▸ hagg⟩

/-- A step keeps both buffers below their thresholds, provided a `Write` carries at most
`writeBound` messages. -/
theorem step (h : BelowThresholds d) {ev : Event Msg} {d' : ProducerDaemon Msg} (hs : Step d ev d')
    (hbound : ∀ batch, ev = .write batch → batch.length ≤ writeBound d.settings) :
    BelowThresholds d' := by
  suffices hd' : d'.batch.length < d.settings.batchSize ∧
      d'.aggregate.length < d.settings.aggregationSize from
    of_settings_eq hs.settings_eq.1 hd'.1 hd'.2
  have hB := d.settings.batchSize_pos
  have := h.batch_lt
  have := h.aggregate_lt
  have hflushAll : ∀ m : AggregateMarshaller Msg, (d.flushAll m).2.batch.length < d.settings.batchSize ∧
      (d.flushAll m).2.aggregate.length < d.settings.aggregationSize := by
    intro m
    rcases flushAll_lengths d m with ⟨ha, hb⟩ | ⟨-, ha, hb⟩
    · omega
    · rw [hb]; omega
  cases hs with
  | write m batch =>
    have hn := hbound batch rfl
    unfold writeBound at hn
    rcases write_cases d m batch with ⟨hA1, hw⟩ | ⟨hA1, hlt, hw⟩ | ⟨hA1, hle, _, hw⟩ | ⟨hA1, hle, msg, hw⟩ <;>
      rw [hw]
    · rw [if_pos hA1] at hn
      exact ⟨appendBatch_batch_lt _ h.batch_lt ((List.length_map batch _).trans_le hn),
        by rw [appendBatch_aggregate]; exact h.aggregate_lt⟩
    · exact ⟨appendBatch_batch_lt _ h.batch_lt (Nat.zero_le _), by rw [appendBatch_aggregate]; exact hlt⟩
    · rw [if_neg (by omega)] at hn
      refine ⟨h.batch_lt, ?_⟩
      simp only [takeAggregate_aggregate, withAggregated_aggregate, withAggregated_settings,
        List.length_drop, List.length_append]
      omega
    · rw [if_neg (by omega)] at hn
      refine ⟨appendBatch_batch_lt _ h.batch_lt hB, ?_⟩
      simp only [appendBatch_aggregate, takeAggregate_aggregate, withAggregated_aggregate,
        withAggregated_settings, List.length_drop, List.length_append]
      omega
  | tick m => exact hflushAll m
  | read _ hr =>
    obtain ⟨-, -, hagg, hb, -⟩ := outputLoopStep_eq hr
    exact ⟨by rw [hb]; exact h.batch_lt, by rw [hagg]; exact h.aggregate_lt⟩
  | close m _ =>
    rw [close_snd]
    exact hflushAll m

end BelowThresholds

/-- Along a run whose `Write` calls each carry at most `writeBound` messages, both buffers stay
below their thresholds. -/
theorem Run.belowThresholds {d d' : ProducerDaemon Msg} {evs : List (Event Msg)} (hrun : Run d evs d')
    (h0 : BelowThresholds d) (hw : ∀ batch, Event.write batch ∈ evs → batch.length ≤ writeBound d.settings) :
    BelowThresholds d' := by
  induction hrun with
  | nil => exact h0
  | snoc hr hs ih =>
    refine (ih fun b hb => hw b (by simp [hb])).step hs fun b hev => ?_
    rw [hr.settings]
    exact hw b (by simp [hev])

/-- Along every run from a new daemon, the aggregate buffer stays empty when aggregation is off
and the batch buffer below `BatchSize` when it is on. When every `Write` carries at most
`writeBound` messages, both buffers stay below their thresholds. -/
theorem buffers_below_thresholds {name : String} {settings : ProducerDaemonSettings}
    {evs : List (Event Msg)} {d : ProducerDaemon Msg}
    (hrun : Run (ProducerDaemon.new name settings) evs d) :
    (d.settings.aggregationSize ≤ 1 → d.aggregate = []) ∧
    (1 < d.settings.aggregationSize → d.batch.length < d.settings.batchSize) ∧
    ((∀ batch, Event.write batch ∈ evs → batch.length ≤ writeBound settings) →
      d.batch.length < d.settings.batchSize ∧ d.aggregate.length < d.settings.aggregationSize) := by
  have hs := hrun.inv Shaped (fun hs h => h.step hs)
    ⟨fun _ => rfl, fun _ => settings.batchSize_pos⟩
  refine ⟨hs.aggregate_nil, hs.batch_lt, fun hw => ?_⟩
  have hb := hrun.belowThresholds ⟨settings.batchSize_pos, settings.aggregationSize_pos⟩ hw
  exact ⟨hb.batch_lt, hb.aggregate_lt⟩

theorem buffers_below_thresholds_after_writes :
    ∃ (evs : List (Event ℕ)) (d : ProducerDaemon ℕ),
      Run (ProducerDaemon.new "p" .default) evs d ∧ d.batch ≠ [] ∧
      (d.settings.aggregationSize ≤ 1 → d.aggregate = []) ∧
      (1 < d.settings.aggregationSize → d.batch.length < d.settings.batchSize) ∧
      ((∀ batch, Event.write batch ∈ evs → batch.length ≤ writeBound .default) →
        d.batch.length < d.settings.batchSize ∧ d.aggregate.length < d.settings.aggregationSize) :=
  have hrun := Run.snoc (Run.nil _) (Step.write (fun _ _ => .ok 0) [1, 2, 3])
  ⟨_, _, hrun, by decide, buffers_below_thresholds hrun⟩

/-- One `Write` of 25 messages with the default settings (batch size 10, aggregation off) pushes
one batch and leaves 15 carriers in the batch buffer; one `Write` of five messages with
aggregation size 2 folds two and leaves three in the aggregate buffer. -/
theorem long_write_overfills_buffers :
    Run (ProducerDaemon.new "p" .default) [.write (List.range 25)]
        ((ProducerDaemon.new "p" .default).write (fun _ _ => .ok 0) (List.range 25)).2 ∧
      ((ProducerDaemon.new "p" .default).write (fun _ _ => .ok 0) (List.range 25)).2.outCh.pushed.length = 1 ∧
      ((ProducerDaemon.new "p" .default).write (fun _ _ => .ok 0) (List.range 25)).2.batch.length = 15 ∧
    Run (ProducerDaemon.new "p" { ProducerDaemonSettings.default with
        aggregationSize := 2, aggregationSize_pos := by decide }) [.write (List.range 5)]
        ((ProducerDaemon.new "p" { ProducerDaemonSettings.default with
          aggregationSize := 2, aggregationSize_pos := by decide }).write (fun _ _ => .ok 0) (List.range 5)).2 ∧
      ((ProducerDaemon.new "p" { ProducerDaemonSettings.default with
          aggregationSize := 2, aggregationSize_pos := by decide }).write
          (fun _ _ => .ok 0) (List.range 5)).2.aggregate.length = 3 :=
  ⟨Run.snoc (Run.nil _) (Step.write _ _), by decide, by decide,
    Run.snoc (Run.nil _) (Step.write _ _), by decide⟩

end Gosoline.Stream
