import Gosoline.Stream.Run

/-!
# No message is lost, duplicated or reordered

Every message a run writes is, in the order the `Write` calls took `lck`, either in a batch
pushed onto the output channel, in the batch buffer or in the aggregate buffer, unless it was in
a group handed to a marshaller that failed. Aggregates are counted by the messages they were
built from.
-/

namespace Gosoline.Stream

variable {Msg : Type}

open ProducerDaemon

/-- The producers' messages in the batches pushed onto the output channel, in push order. -/
def ProducerDaemon.pushedMessages (d : ProducerDaemon Msg) : List Msg :=
  d.outCh.pushed.flatMap fun batch => batch.flatMap WritableMessage.unfold

/-- The producers' messages in the batch buffer. -/
def ProducerDaemon.batchMessages (d : ProducerDaemon Msg) : List Msg :=
  d.batch.flatMap WritableMessage.unfold

/-- The messages handed to the marshaller, oldest first. -/
def handed (folds : List (List Msg × Bool)) : List Msg := folds.flatMap (·.1)

/-- The messages the marshaller turned into aggregates, oldest first. -/
def keptFolds (folds : List (List Msg × Bool)) : List Msg := (folds.filter (·.2)).flatMap (·.1)

/-- `written` with the failed groups of `folds` cut out, `folds` being groups that follow one
another from the front of `written`. -/
def withoutFailedFolds : List Msg → List (List Msg × Bool) → List Msg
  | written, [] => written
  | written, (group, ok) :: folds =>
    (if ok then written.take group.length else []) ++
      withoutFailedFolds (written.drop group.length) folds

@[simp] theorem handed_append (folds folds' : List (List Msg × Bool)) :
    handed (folds ++ folds') = handed folds ++ handed folds' := by simp [handed]

@[simp] theorem handed_singleton (group : List Msg) (ok : Bool) : handed [(group, ok)] = group := by
  simp [handed]

@[simp] theorem keptFolds_append (folds folds' : List (List Msg × Bool)) :
    keptFolds (folds ++ folds') = keptFolds folds ++ keptFolds folds' := by simp [keptFolds]

@[simp] theorem keptFolds_singleton (group : List Msg) (ok : Bool) :
    keptFolds [(group, ok)] = if ok then group else [] := by cases ok <;> simp [keptFolds]

/-- Cutting the failed groups out of the handed groups leaves the folded ones. -/
theorem withoutFailedFolds_handed_append (folds : List (List Msg × Bool)) (rest : List Msg) :
    withoutFailedFolds (handed folds ++ rest) folds = keptFolds folds ++ rest := by
  induction folds with
  | nil => rfl
  | cons f folds ih =>
    obtain ⟨group, ok⟩ := f
    have hfolds : handed ((group, ok) :: folds) = group ++ handed folds := rfl
    have hkept : keptFolds ((group, ok) :: folds) = keptFolds [(group, ok)] ++ keptFolds folds := by
      rw [← keptFolds_append]; rfl
    cases ok <;> simp [withoutFailedFolds, hfolds, hkept, ih]

/-! ## Where the messages are after each method -/

section Methods

variable (d : ProducerDaemon Msg)

/-- On an open channel `flushBatch` moves carriers from the batch buffer onto the channel in
order. -/
theorem flushBatch_messages (hc : d.outCh.closed = false) :
    d.flushBatch.pushedMessages ++ d.flushBatch.batchMessages = d.pushedMessages ++ d.batchMessages := by
  simp only [pushedMessages, batchMessages, flushBatch_outCh, flushBatch_batch]
  split
  · simp_all
  · rw [OutputChannel.write_pushed_of_open hc, List.flatMap_append, List.flatMap_singleton,
      List.append_assoc, ← List.flatMap_append, List.take_append_drop]

theorem appendBatch_messages (cs : List (WritableMessage Msg)) (hc : d.outCh.closed = false) :
    (d.appendBatch cs).pushedMessages ++ (d.appendBatch cs).batchMessages =
      d.pushedMessages ++ d.batchMessages ++ cs.flatMap WritableMessage.unfold := by
  simp only [appendBatch]
  split
  · simp [pushedMessages, batchMessages]
  · exact (flushBatch_messages { d with batch := d.batch ++ cs } hc).trans
      (by simp [pushedMessages, batchMessages])

@[simp] theorem writeMetricCount_pushedMessages (metricName : String) (n : ℕ) :
    (d.writeMetricCount metricName n).pushedMessages = d.pushedMessages := rfl
@[simp] theorem writeMetricCount_batchMessages (metricName : String) (n : ℕ) :
    (d.writeMetricCount metricName n).batchMessages = d.batchMessages := rfl
@[simp] theorem withAggregated_pushedMessages (batch : List Msg) :
    (d.withAggregated batch).pushedMessages = d.pushedMessages := rfl
@[simp] theorem withAggregated_batchMessages (batch : List Msg) :
    (d.withAggregated batch).batchMessages = d.batchMessages := rfl
@[simp] theorem takeAggregate_pushedMessages (ok : Bool) :
    (d.takeAggregate ok).pushedMessages = d.pushedMessages := rfl
@[simp] theorem takeAggregate_batchMessages (ok : Bool) :
    (d.takeAggregate ok).batchMessages = d.batchMessages := rfl

/-- Taking a group off the front of the aggregate buffer hands it to the marshaller. -/
theorem takeAggregate_handed (ok : Bool) :
    handed (d.takeAggregate ok).marshalled ++ (d.takeAggregate ok).aggregate =
      handed d.marshalled ++ d.aggregate := by
  simp

end Methods

/-! ## The invariant -/

/-- Where the messages `written` by a run have gone in an open daemon. With aggregation on they
all passed through the aggregate buffer, and the groups the marshaller folded are, in order,
what was pushed and what waits in the batch buffer; with aggregation off they all went straight
to the batch buffer. -/
structure Accounted (d : ProducerDaemon Msg) (written : List Msg) : Prop where
  aggregated : 1 < d.settings.aggregationSize →
    written = handed d.marshalled ++ d.aggregate ∧
      keptFolds d.marshalled = d.pushedMessages ++ d.batchMessages
  direct : d.settings.aggregationSize ≤ 1 →
    d.marshalled = [] ∧ d.aggregate = [] ∧ written = d.pushedMessages ++ d.batchMessages

theorem Accounted.new (name : String) (settings : ProducerDaemonSettings) :
    Accounted (ProducerDaemon.new name settings : ProducerDaemon Msg) [] :=
  ⟨fun _ => ⟨rfl, rfl⟩, fun _ => ⟨rfl, rfl, rfl⟩⟩

/-- Every step but `close` keeps the account, the messages of a `Write` joining `w`. -/
theorem Accounted.step {d d' : ProducerDaemon Msg} {ev : Event Msg} {w : List Msg}
    (hacc : Accounted d w) (hc : d.outCh.closed = false) (hstep : Step d ev d') (hev : ev ≠ .close) :
    Accounted d' (w ++ written [ev]) := by
  cases hstep with
  | write m batch =>
    rcases write_cases d m batch with ⟨hA, h⟩ | ⟨hA, hlt, h⟩ | ⟨hA, hle, err, h⟩ | ⟨hA, hle, msg, h⟩
    · obtain ⟨hM, hagg, hw⟩ := hacc.direct hA
      rw [h]
      refine ⟨fun hA' => absurd hA (by simpa using hA'.not_le), fun _ => ⟨by simp [hM], by simp [hagg], ?_⟩⟩
      rw [appendBatch_messages _ _ (by simpa using hc)]
      simp [hw]
    · obtain ⟨hw, hk⟩ := hacc.aggregated hA
      rw [h]
      refine ⟨fun _ => ⟨by simp [hw], ?_⟩, fun hA' => absurd hA (by simpa using hA'.not_lt)⟩
      rw [appendBatch_messages _ _ (by simpa using hc)]
      simp [hk]
    · obtain ⟨hw, hk⟩ := hacc.aggregated hA
      rw [h]
      refine ⟨fun _ => ⟨?_, by simp [hk]⟩, fun hA' => absurd hA (by simpa using hA'.not_lt)⟩
      rw [takeAggregate_handed]
      simp [hw]
    · obtain ⟨hw, hk⟩ := hacc.aggregated hA
      rw [h]
      refine ⟨fun _ => ⟨?_, ?_⟩, fun hA' => absurd hA (by simpa using hA'.not_lt)⟩
      · simp only [appendBatch_marshalled, appendBatch_aggregate]
        rw [takeAggregate_handed]
        simp [hw]
      · rw [appendBatch_messages _ _ (by simpa using hc)]
        simp [hk]
  | tick m =>
    rcases flushAll_cases d m with ⟨hagg, h⟩ | ⟨hagg, err, h⟩ | ⟨hagg, msg, h⟩ <;> rw [h] <;>
      simp only [written_singleton, List.append_nil]
    · refine ⟨fun hA => ?_, fun hA => ?_⟩
      · obtain ⟨hw, hk⟩ := hacc.aggregated (by simpa using hA)
        exact ⟨by simpa using hw, by rw [flushBatch_messages _ hc]; simpa using hk⟩
      · obtain ⟨hM, hagg, hw⟩ := hacc.direct (by simpa using hA)
        exact ⟨by simpa using hM, by simpa using hagg, by rw [flushBatch_messages _ hc]; exact hw⟩
    · refine ⟨fun hA => ?_, fun hA => absurd (hacc.direct (by simpa using hA)).2.1 hagg⟩
      obtain ⟨hw, hk⟩ := hacc.aggregated (by simpa using hA)
      exact ⟨by rw [takeAggregate_handed]; exact hw, by simpa using hk⟩
    · refine ⟨fun hA => ?_, fun hA => absurd (hacc.direct (by simpa using hA)).2.1 hagg⟩
      obtain ⟨hw, hk⟩ := hacc.aggregated (by simpa using hA)
      refine ⟨by simp [hw], ?_⟩
      rw [flushBatch_messages _ (by simpa using hc)]
      simp only [pushedMessages, batchMessages] at hk ⊢
      simp [hk]
  | read _ h =>
    obtain ⟨-, hs, hagg, hb, hM, hp, -⟩ := outputLoopStep_eq h
    have hP : d'.pushedMessages = d.pushedMessages := by simp [pushedMessages, hp]
    have hB : d'.batchMessages = d.batchMessages := by simp [batchMessages, hb]
    refine ⟨fun hA => ?_, fun hA => ?_⟩
    · rw [hs] at hA; rw [hM, hagg, hP, hB]; simpa using hacc.aggregated hA
    · rw [hs] at hA; rw [hM, hagg, hP, hB]; simpa using hacc.direct hA
  | close => exact absurd rfl hev

/-- Along a run without `close` from a new daemon, the channel stays open and every message
written is accounted for. -/
theorem Run.accounted {name : String} {settings : ProducerDaemonSettings} {evs : List (Event Msg)}
    {d : ProducerDaemon Msg} (hrun : Run (ProducerDaemon.new name settings) evs d)
    (hclose : Event.close ∉ evs) : Accounted d (written evs) ∧ d.outCh.closed = false := by
  induction hrun with
  | nil => exact ⟨Accounted.new name settings, rfl⟩
  | snoc _ hs ih =>
    rename_i ev _
    have hev : ev ≠ .close := fun h => hclose (by simp [h])
    obtain ⟨hacc, hc⟩ := ih (fun h => hclose (by simp [h]))
    rw [written_append]
    exact ⟨hacc.step hc hs hev, hs.open hev hc⟩

/-- The account, for both settings of aggregation at once: the handed groups are a prefix of what
was written, and the messages in the channel and both buffers are what was written with the
failed groups cut out. -/
theorem Accounted.conserved {d : ProducerDaemon Msg} {w : List Msg} (hacc : Accounted d w) :
    handed d.marshalled <+: w ∧
      d.pushedMessages ++ d.batchMessages ++ d.aggregate = withoutFailedFolds w d.marshalled := by
  rcases Nat.lt_or_ge 1 d.settings.aggregationSize with hA | hA
  · obtain ⟨hw, hk⟩ := hacc.aggregated hA
    rw [hw, withoutFailedFolds_handed_append, hk]
    exact ⟨List.prefix_append _ _, rfl⟩
  · obtain ⟨hM, hagg, hw⟩ := hacc.direct hA
    simp [hM, hagg, hw, handed, withoutFailedFolds]

/-- In every state a run of `Write` calls, ticks and output-loop reads reaches from a new
daemon, the groups handed to the marshaller are consecutive blocks at the front of what was
written, and the messages pushed onto the output channel, then those in the batch buffer, then
those in the aggregate buffer, are what was written with exactly the failed groups cut out. -/
theorem messages_conserved {name : String} {settings : ProducerDaemonSettings}
    {evs : List (Event Msg)} {d : ProducerDaemon Msg}
    (hrun : Run (ProducerDaemon.new name settings) evs d) (hclose : Event.close ∉ evs) :
    handed d.marshalled <+: written evs ∧
      d.pushedMessages ++ d.batchMessages ++ d.aggregate = withoutFailedFolds (written evs) d.marshalled :=
  (hrun.accounted hclose).1.conserved

theorem messages_conserved_of_aggregating_write :
    ∃ (evs : List (Event ℕ)) (d : ProducerDaemon ℕ),
      Run (ProducerDaemon.new "p" { ProducerDaemonSettings.default with
        aggregationSize := 2, aggregationSize_pos := by decide }) evs d ∧
      Event.close ∉ evs ∧ d.marshalled ≠ [] ∧ handed d.marshalled <+: written evs ∧
      d.pushedMessages ++ d.batchMessages ++ d.aggregate = withoutFailedFolds (written evs) d.marshalled :=
  have hrun := Run.snoc (Run.nil _) (Step.write (fun body _ => .ok body.length) [1, 2, 3])
  ⟨_, _, hrun, by decide, by decide, messages_conserved hrun (by decide)⟩

end Gosoline.Stream
