import Gosoline.Stream.Thresholds

/-!
# Shutdown

`close` runs one `flushAll` and then closes the output channel. What it pushed, it pushed before
the channel closed, and every message written is still accounted for. One flush folds at most
one aggregate and pushes at most one batch, so `close` drains the buffers only when no more was
pending as it started. A `Write` of more than `BatchSize` messages leaves more, and `close` then
returns `nil` with messages stranded behind the closed channel. Nothing stops a `Write` after
`close`.
-/

namespace Gosoline.Stream

variable {Msg : Type}

open ProducerDaemon

/-- A run that contains `close` ends with the output channel closed. -/
theorem Run.closed_of_close_mem {d d' : ProducerDaemon Msg} {evs : List (Event Msg)}
    (hrun : Run d evs d') (hmem : Event.close ∈ evs) : d'.outCh.closed = true := by
  induction hrun with
  | nil => simp at hmem
  | snoc _ hs ih =>
    rename_i ev _
    by_cases hev : ev = .close
    · subst hev
      cases hs
      simp [close_snd]
    · exact hs.closed (ih (by simpa [Ne.symm hev] using hmem))

/-- `close` keeps the account: its flush runs while the channel is still open, and closing the
channel moves no message. -/
theorem Accounted.close {d : ProducerDaemon Msg} {w : List Msg} (hacc : Accounted d w)
    (hc : d.outCh.closed = false) (m : AggregateMarshaller Msg) : Accounted (d.close m).2 w := by
  have h := hacc.step hc (Step.tick m) (by simp)
  simp only [written_singleton, List.append_nil] at h
  rw [close_snd]
  exact ⟨h.aggregated, h.direct⟩

/-- What a successful `flushAll` leaves: the aggregate buffer beyond one fold, and the batch
buffer, with the fold's carrier appended, beyond one push. -/
theorem flushAll_lengths_of_ok {d : ProducerDaemon Msg} {m : AggregateMarshaller Msg}
    (hok : (d.flushAll m).1 = .ok ()) :
    (d.flushAll m).2.aggregate.length = d.aggregate.length - d.settings.aggregationSize ∧
      (d.flushAll m).2.batch.length =
        d.batch.length + (if d.aggregate.isEmpty then 0 else 1) - d.settings.batchSize := by
  rcases flushAll_cases d m with ⟨hnil, hf⟩ | ⟨-, _, hf⟩ | ⟨hne, _, hf⟩ <;> rw [hf] at hok ⊢
  · simp [hnil]
  · cases hok
  · simp [hne, List.isEmpty_iff]

/-- `close` runs one `flushAll`, which folds at most one aggregate and pushes at most one batch.
When it returns, the channel is closed and every message a run wrote is, in order, in a batch
pushed before the channel closed, in the batch buffer or in the aggregate buffer, unless it was
in a group handed to a failed fold. When it returns `nil`, both buffers are empty exactly when,
as `close` started, the aggregate buffer held at most one fold and the batch buffer, with that
fold's carrier, at most one push; then everything was pushed. A larger backlog stays buffered
behind the closed channel. -/
theorem close_drains_iff_one_flush_pending {name : String} {settings : ProducerDaemonSettings}
    {evs : List (Event Msg)} {d : ProducerDaemon Msg}
    (hrun : Run (ProducerDaemon.new name settings) evs d) (hclose : Event.close ∉ evs)
    (m : AggregateMarshaller Msg) :
    (d.close m).2.outCh.closed = true ∧
    (d.close m).2.pushedMessages ++ (d.close m).2.batchMessages ++ (d.close m).2.aggregate =
      withoutFailedFolds (written evs) (d.close m).2.marshalled ∧
    ((d.close m).1 = .ok () →
      (((d.close m).2.aggregate = [] ∧ (d.close m).2.batch = []) ↔
        d.aggregate.length ≤ settings.aggregationSize ∧
          d.batch.length + (if d.aggregate.isEmpty then 0 else 1) ≤ settings.batchSize) ∧
      ((d.close m).2.aggregate = [] → (d.close m).2.batch = [] →
        (d.close m).2.pushedMessages = withoutFailedFolds (written evs) (d.close m).2.marshalled)) := by
  obtain ⟨hacc, hc⟩ := hrun.accounted hclose
  have hcons := (hacc.close hc m).conserved.2
  have hs : d.settings = settings := hrun.settings
  refine ⟨by simp [close_snd], hcons, fun hok => ⟨?_, fun hagg hbatch => ?_⟩⟩
  · obtain ⟨hagg, hbatch⟩ := flushAll_lengths_of_ok ((close_fst_eq_ok d m).1 hok)
    simp only [close_snd, ← List.length_eq_zero, hagg, hbatch, hs]
    omega
  · simpa [hagg, batchMessages, hbatch] using hcons

theorem close_drains_iff_one_flush_pending_after_writes :
    ∃ (evs : List (Event ℕ)) (d : ProducerDaemon ℕ),
      Run (ProducerDaemon.new "p" .default) evs d ∧ Event.close ∉ evs ∧ d.batch ≠ [] ∧
      (d.close fun _ _ => .ok 0).2.outCh.closed = true ∧
      (d.close fun _ _ => .ok 0).2.pushedMessages ++ (d.close fun _ _ => .ok 0).2.batchMessages ++
          (d.close fun _ _ => .ok 0).2.aggregate =
        withoutFailedFolds (written evs) (d.close fun _ _ => .ok 0).2.marshalled ∧
      ((d.close fun _ _ => .ok 0).1 = .ok () →
        (((d.close fun _ _ => .ok 0).2.aggregate = [] ∧ (d.close fun _ _ => .ok 0).2.batch = []) ↔
          d.aggregate.length ≤ ProducerDaemonSettings.default.aggregationSize ∧
            d.batch.length + (if d.aggregate.isEmpty then 0 else 1) ≤
              ProducerDaemonSettings.default.batchSize) ∧
        ((d.close fun _ _ => .ok 0).2.aggregate = [] → (d.close fun _ _ => .ok 0).2.batch = [] →
          (d.close fun _ _ => .ok 0).2.pushedMessages =
            withoutFailedFolds (written evs) (d.close fun _ _ => .ok 0).2.marshalled)) :=
  have hrun := Run.snoc (Run.nil _) (Step.write (fun _ _ => .ok 0) [1, 2, 3])
  ⟨_, _, hrun, by decide, by decide, close_drains_iff_one_flush_pending hrun (by decide) _⟩

/-- With the default settings, a `Write` of 25 messages and then `close`, which returns `nil`,
leave five carriers in the batch buffer: one close pushes one batch of ten. -/
theorem close_leaves_backlog :
    Run (ProducerDaemon.new "p" .default) [.write (List.range 25)]
        ((ProducerDaemon.new "p" .default).write (fun _ _ => .ok 0) (List.range 25)).2 ∧
      (((ProducerDaemon.new "p" .default).write (fun _ _ => .ok 0) (List.range 25)).2.close
        fun _ _ => .ok 0).1 = .ok () ∧
      (((ProducerDaemon.new "p" .default).write (fun _ _ => .ok 0) (List.range 25)).2.close
        fun _ _ => .ok 0).2.batch.length = 5 :=
  ⟨Run.snoc (Run.nil _) (Step.write _ _), rfl, by decide⟩

/-! ## After `close` -/

theorem flushBatch_outCh_of_closed (d : ProducerDaemon Msg) (hc : d.outCh.closed = true) :
    d.flushBatch.outCh = d.outCh := by
  rw [flushBatch_outCh]; split <;> simp [hc]

theorem appendBatch_outCh_of_closed (d : ProducerDaemon Msg) (hc : d.outCh.closed = true)
    (cs : List (WritableMessage Msg)) : (d.appendBatch cs).outCh = d.outCh := by
  simp only [appendBatch]; split
  · rfl
  · exact flushBatch_outCh_of_closed _ hc

/-- In every state after `close`, `Write` (and so `WriteOne`) returns `nil` unless the fold it
runs fails, and pushes nothing onto the closed channel: the daemon has no closed check. -/
theorem write_after_close_accepted {name : String} {settings : ProducerDaemonSettings}
    {evs : List (Event Msg)} {d : ProducerDaemon Msg}
    (hrun : Run (ProducerDaemon.new name settings) evs d) (hmem : Event.close ∈ evs)
    (m : AggregateMarshaller Msg) (batch : List Msg) :
    ((d.write m batch).1 = .ok () ∨ ∃ g, (d.write m batch).2.marshalled = d.marshalled ++ [(g, false)]) ∧
      (d.write m batch).2.outCh.pushed = d.outCh.pushed := by
  have hc := hrun.closed_of_close_mem hmem
  rcases write_cases d m batch with ⟨-, hw⟩ | ⟨-, -, hw⟩ | ⟨-, -, _, hw⟩ | ⟨-, -, _, hw⟩ <;> rw [hw]
  · exact ⟨.inl rfl, congrArg OutputChannel.pushed
      (appendBatch_outCh_of_closed (d.writeMetricMessageCount batch.length) hc _)⟩
  · exact ⟨.inl rfl, congrArg OutputChannel.pushed (appendBatch_outCh_of_closed (d.withAggregated batch) hc _)⟩
  · exact ⟨.inr ⟨_, rfl⟩, rfl⟩
  · exact ⟨.inl rfl, congrArg OutputChannel.pushed
      (appendBatch_outCh_of_closed ((d.withAggregated batch).takeAggregate true) hc _)⟩

theorem write_after_close_accepted_after_close :
    Run (ProducerDaemon.new "p" .default) [.close]
        ((ProducerDaemon.new "p" .default).close fun _ _ => .ok 0).2 ∧
      (Event.close : Event ℕ) ∈ [Event.close] ∧
      (((((ProducerDaemon.new "p" .default).close fun _ _ => .ok 0).2.write (fun _ _ => .ok 0) [0]).1 =
          .ok () ∨ ∃ g, (((ProducerDaemon.new "p" .default).close fun _ _ => .ok 0).2.write
          (fun _ _ => .ok 0) [0]).2.marshalled =
          ((ProducerDaemon.new "p" .default).close fun _ _ => .ok 0).2.marshalled ++ [(g, false)]) ∧
        (((ProducerDaemon.new "p" .default).close fun _ _ => .ok 0).2.write
          (fun _ _ => .ok 0) [0]).2.outCh.pushed =
          ((ProducerDaemon.new "p" .default).close fun _ _ => .ok 0).2.outCh.pushed) :=
  have hrun := Run.snoc (Run.nil _) (Step.close (fun _ _ => .ok 0) rfl)
  ⟨hrun, by decide, write_after_close_accepted hrun (by decide) _ _⟩

/-- After `close`, `WriteOne` with the default settings returns `nil`. -/
theorem write_after_close_returns_nil :
    Run (ProducerDaemon.new "p" .default) [.close]
        ((ProducerDaemon.new "p" .default).close fun _ _ => .ok 0).2 ∧
      (((ProducerDaemon.new "p" .default).close fun _ _ => .ok 0).2.writeOne
        (fun _ _ => .ok 0) 0).1 = .ok () :=
  ⟨Run.snoc (Run.nil _) (Step.close (fun _ _ => .ok 0) rfl), rfl⟩

end Gosoline.Stream
