import Gosoline.Stream.Message

/-!
# The producer daemon

`ProducerDaemon` of package `stream`: the buffers its methods share under `lck`, and the
bodies of `Write`, `applyAggregation`, `flushAggregate`, `flushBatch`, `flushAll`, `close`
and one pass of `outputLoop`. Go errors are `Except String`, with the texts `fmt.Errorf`
builds; a method returns the daemon as it left it, also when it fails.

The marshaller is passed to each method that folds: the daemon's `marshaller` is a function
value that may keep state, so a call may fail where an earlier call with the same messages
succeeded.
-/

namespace Gosoline.Stream

open Gosoline.Mon

/-- `metricNameMessageCount`. -/
def metricNameMessageCount : String := "MessageCount"

/-- `metricNameBatchSize`. -/
def metricNameBatchSize : String := "BatchSize"

/-- `metricNameAggregateSize`. -/
def metricNameAggregateSize : String := "AggregateSize"

/-- `metricNameIdleDuration`. -/
def metricNameIdleDuration : String := "IdleDuration"

/-- `ProducerDaemonSettings` as read from the configuration, with the `validate:"min=1"`
bounds as fields. -/
structure ProducerDaemonSettings where
  /-- `Interval`, the ticker period, in nanoseconds. -/
  interval : ℕ
  bufferSize : ℕ
  runnerCount : ℕ
  batchSize : ℕ
  aggregationSize : ℕ
  messageAttributes : Attributes
  bufferSize_pos : 1 ≤ bufferSize
  runnerCount_pos : 1 ≤ runnerCount
  batchSize_pos : 1 ≤ batchSize
  aggregationSize_pos : 1 ≤ aggregationSize

/-- The `default` tags of `ProducerDaemonSettings`: a one minute interval, buffer size, runner
count and batch size 10, aggregation off, no message attributes. Each passes its `min=1`
check. -/
def ProducerDaemonSettings.default : ProducerDaemonSettings :=
  ⟨60000000000, 10, 10, 10, 1, [], by decide, by decide, by decide, by decide⟩

/-- `ProducerDaemon`. `metric` lists the data handed to the metric writer, and `marshalled`
each aggregate handed to the marshaller with whether it succeeded, oldest first. -/
structure ProducerDaemon (Msg : Type) where
  name : String
  settings : ProducerDaemonSettings
  aggregate : List Msg
  batch : List (WritableMessage Msg)
  outCh : OutputChannel Msg
  metric : List MetricDatum
  marshalled : List (List Msg × Bool)

namespace ProducerDaemon

variable {Msg : Type}

/-- `NewProducerDaemonWithInterfaces`: empty buffers and a fresh output channel. -/
def new (name : String) (settings : ProducerDaemonSettings) : ProducerDaemon Msg :=
  ⟨name, settings, [], [], OutputChannel.new, [], []⟩

/-- The datum `writeMetricMessageCount`, `writeMetricBatchSize` and `writeMetricAggregateSize`
hand to the metric writer: a count under `metricName`, for this daemon. -/
def writeMetricCount (d : ProducerDaemon Msg) (metricName : String) (count : ℕ) :
    ProducerDaemon Msg :=
  { d with metric := d.metric ++
      [{ metricName, dimensions := [("ProducerDaemon", d.name)], value := Float.ofNat count }] }

/-- `writeMetricMessageCount`. -/
def writeMetricMessageCount (d : ProducerDaemon Msg) (count : ℕ) : ProducerDaemon Msg :=
  d.writeMetricCount metricNameMessageCount count

/-- `writeMetricBatchSize`. -/
def writeMetricBatchSize (d : ProducerDaemon Msg) (size : ℕ) : ProducerDaemon Msg :=
  d.writeMetricCount metricNameBatchSize size

/-- `writeMetricAggregateSize`. -/
def writeMetricAggregateSize (d : ProducerDaemon Msg) (size : ℕ) : ProducerDaemon Msg :=
  d.writeMetricCount metricNameAggregateSize size

/-- `writeMetricIdleDuration`: the idle time is clamped to one interval and written in
milliseconds, with high priority. -/
def writeMetricIdleDuration (d : ProducerDaemon Msg) (idleDuration : ℕ) : ProducerDaemon Msg :=
  let idleDuration := if idleDuration > d.settings.interval then d.settings.interval else idleDuration
  { d with metric := d.metric ++
      [{ priority := priorityHigh, metricName := metricNameIdleDuration,
         dimensions := [("ProducerDaemon", d.name)], unit := unitMillisecondsAverage,
         value := Float.ofNat (idleDuration / 1000000) }] }

/-- `flushAggregate`: folds up to `AggregationSize` messages from the front of the aggregate
buffer into one message. The taken messages have left the buffer also when the marshaller
fails. -/
def flushAggregate (marshaller : AggregateMarshaller Msg) (d : ProducerDaemon Msg) :
    Except String (List (WritableMessage Msg)) × ProducerDaemon Msg :=
  if d.aggregate.length = 0 then (.ok [], d) else
  let size := if d.aggregate.length < d.settings.aggregationSize then d.aggregate.length
    else d.settings.aggregationSize
  let readyAggregate := d.aggregate.take size
  let d := ({ d with aggregate := d.aggregate.drop size }).writeMetricAggregateSize readyAggregate.length
  match buildAggregateMessage marshaller readyAggregate [d.settings.messageAttributes] with
  | .error err =>
    (.error ("can not marshal aggregate: " ++ err),
      { d with marshalled := d.marshalled ++ [(readyAggregate, false)] })
  | .ok aggregateMessage =>
    (.ok [aggregateMessage], { d with marshalled := d.marshalled ++ [(readyAggregate, true)] })

/-- `flushBatch`: pushes up to `BatchSize` carriers from the front of the batch buffer onto the
output channel. -/
def flushBatch (d : ProducerDaemon Msg) : ProducerDaemon Msg :=
  if d.batch.length = 0 then d else
  let size := if d.batch.length < d.settings.batchSize then d.batch.length else d.settings.batchSize
  { d with batch := d.batch.drop size, outCh := d.outCh.write (d.batch.take size) }

/-- `flushAll`: fold what the aggregate buffer holds, append it to the batch buffer and flush
once; a failed fold returns before the batch is flushed. -/
def flushAll (marshaller : AggregateMarshaller Msg) (d : ProducerDaemon Msg) :
    Except String Unit × ProducerDaemon Msg :=
  match d.flushAggregate marshaller with
  | (.error err, d) => (.error ("can not flush aggregation: " ++ err), d)
  | (.ok batch, d) => (.ok (), ({ d with batch := d.batch ++ batch }).flushBatch)

/-- `applyAggregation`: with aggregation off the messages pass through; otherwise they join
the aggregate buffer, which is folded once it reaches `AggregationSize`. -/
def applyAggregation (marshaller : AggregateMarshaller Msg) (batch : List Msg)
    (d : ProducerDaemon Msg) : Except String (List (WritableMessage Msg)) × ProducerDaemon Msg :=
  if d.settings.aggregationSize ≤ 1 then (.ok (batch.map .raw), d) else
  let d := { d with aggregate := d.aggregate ++ batch }
  if d.aggregate.length < d.settings.aggregationSize then (.ok [], d) else d.flushAggregate marshaller

/-- The end of `Write`: append the carriers to the batch buffer and flush once when it is full.
The ticker reset before the flush only postpones the next tick. -/
def appendBatch (batch : List (WritableMessage Msg)) (d : ProducerDaemon Msg) : ProducerDaemon Msg :=
  let d := { d with batch := d.batch ++ batch }
  if d.batch.length < d.settings.batchSize then d else d.flushBatch

/-- `Write`, the body run under `lck`. -/
def write (marshaller : AggregateMarshaller Msg) (batch : List Msg) (d : ProducerDaemon Msg) :
    Except String Unit × ProducerDaemon Msg :=
  let d := d.writeMetricMessageCount batch.length
  match d.applyAggregation marshaller batch with
  | (.error err, d) => (.error ("can not apply aggregation in producer " ++ d.name ++ ": " ++ err), d)
  | (.ok batch, d) => (.ok (), d.appendBatch batch)

/-- `WriteOne`. -/
def writeOne (marshaller : AggregateMarshaller Msg) (msg : Msg) (d : ProducerDaemon Msg) :
    Except String Unit × ProducerDaemon Msg :=
  d.write marshaller [msg]

/-- `close`: one last `flushAll`, then the deferred close of the output channel, which runs
also when the flush fails. -/
def close (marshaller : AggregateMarshaller Msg) (d : ProducerDaemon Msg) :
    Except String Unit × ProducerDaemon Msg :=
  match d.flushAll marshaller with
  | (.error err, d) => (.error ("can not flush all messages: " ++ err), { d with outCh := d.outCh.close })
  | (.ok (), d) => (.ok (), { d with outCh := d.outCh.close })

/-- One pass of `outputLoop` that reads a batch: the output's write error is only logged, then
the batch size and the idle time are written as metrics. `none` when no batch is waiting. -/
def outputLoopStep (idleDuration : ℕ) (d : ProducerDaemon Msg) : Option (ProducerDaemon Msg) :=
  (d.outCh.read).map fun (batch, outCh) =>
    (({ d with outCh }).writeMetricBatchSize batch.length).writeMetricIdleDuration idleDuration

/-! ## What each method does to the buffers -/

/-- The daemon once `flushAggregate` has taken the front of a non-empty aggregate buffer and
the marshaller has answered, successfully when `ok`. -/
def takeAggregate (d : ProducerDaemon Msg) (ok : Bool) : ProducerDaemon Msg :=
  { d.writeMetricAggregateSize (d.aggregate.take d.settings.aggregationSize).length with
    aggregate := d.aggregate.drop d.settings.aggregationSize
    marshalled := d.marshalled ++ [(d.aggregate.take d.settings.aggregationSize, ok)] }

section Fields

variable (d : ProducerDaemon Msg) (metricName : String) (n : ℕ) (ok : Bool)

@[simp] theorem writeMetricMessageCount_eq :
    d.writeMetricMessageCount n = d.writeMetricCount metricNameMessageCount n := rfl
@[simp] theorem writeMetricBatchSize_eq :
    d.writeMetricBatchSize n = d.writeMetricCount metricNameBatchSize n := rfl
@[simp] theorem writeMetricAggregateSize_eq :
    d.writeMetricAggregateSize n = d.writeMetricCount metricNameAggregateSize n := rfl

@[simp] theorem writeMetricCount_name : (d.writeMetricCount metricName n).name = d.name := rfl
@[simp] theorem writeMetricCount_settings :
    (d.writeMetricCount metricName n).settings = d.settings := rfl
@[simp] theorem writeMetricCount_aggregate :
    (d.writeMetricCount metricName n).aggregate = d.aggregate := rfl
@[simp] theorem writeMetricCount_batch : (d.writeMetricCount metricName n).batch = d.batch := rfl
@[simp] theorem writeMetricCount_outCh : (d.writeMetricCount metricName n).outCh = d.outCh := rfl
@[simp] theorem writeMetricCount_marshalled :
    (d.writeMetricCount metricName n).marshalled = d.marshalled := rfl
@[simp] theorem writeMetricCount_metric : (d.writeMetricCount metricName n).metric = d.metric ++
    [{ metricName, dimensions := [("ProducerDaemon", d.name)], value := Float.ofNat n }] := rfl

@[simp] theorem writeMetricIdleDuration_name : (d.writeMetricIdleDuration n).name = d.name := rfl
@[simp] theorem writeMetricIdleDuration_settings :
    (d.writeMetricIdleDuration n).settings = d.settings := rfl
@[simp] theorem writeMetricIdleDuration_aggregate :
    (d.writeMetricIdleDuration n).aggregate = d.aggregate := rfl
@[simp] theorem writeMetricIdleDuration_batch : (d.writeMetricIdleDuration n).batch = d.batch := rfl
@[simp] theorem writeMetricIdleDuration_outCh : (d.writeMetricIdleDuration n).outCh = d.outCh := rfl
@[simp] theorem writeMetricIdleDuration_marshalled :
    (d.writeMetricIdleDuration n).marshalled = d.marshalled := rfl
@[simp] theorem writeMetricIdleDuration_metric : (d.writeMetricIdleDuration n).metric = d.metric ++
    [{ priority := priorityHigh, metricName := metricNameIdleDuration,
       dimensions := [("ProducerDaemon", d.name)], unit := unitMillisecondsAverage,
       value := Float.ofNat ((if n > d.settings.interval then d.settings.interval else n) / 1000000) }] :=
  rfl

@[simp] theorem takeAggregate_name : (d.takeAggregate ok).name = d.name := rfl
@[simp] theorem takeAggregate_settings : (d.takeAggregate ok).settings = d.settings := rfl
@[simp] theorem takeAggregate_aggregate :
    (d.takeAggregate ok).aggregate = d.aggregate.drop d.settings.aggregationSize := rfl
@[simp] theorem takeAggregate_batch : (d.takeAggregate ok).batch = d.batch := rfl
@[simp] theorem takeAggregate_outCh : (d.takeAggregate ok).outCh = d.outCh := rfl
@[simp] theorem takeAggregate_marshalled : (d.takeAggregate ok).marshalled =
    d.marshalled ++ [(d.aggregate.take d.settings.aggregationSize, ok)] := rfl
@[simp] theorem takeAggregate_metric : (d.takeAggregate ok).metric =
    (d.writeMetricAggregateSize (d.aggregate.take d.settings.aggregationSize).length).metric := rfl

end Fields

section Spec

variable (d : ProducerDaemon Msg) (m : AggregateMarshaller Msg)

/-- Go's `size` clamp: cutting at `min(len, n)` is cutting at `n`. -/
private theorem take_drop_clamp (l : List α) (n : ℕ) :
    l.take (if l.length < n then l.length else n) = l.take n ∧
      l.drop (if l.length < n then l.length else n) = l.drop n := by
  split
  · simp [List.take_of_length_le, List.drop_of_length_le, Nat.le_of_lt ‹_›]
  · exact ⟨rfl, rfl⟩

@[simp] theorem flushAggregate_of_nil (h : d.aggregate = []) : d.flushAggregate m = (.ok [], d) := by
  simp [flushAggregate, h]

/-- `flushAggregate` on a non-empty buffer: the marshaller receives the first
`AggregationSize` messages, which leave the buffer whatever it answers. -/
theorem flushAggregate_of_ne_nil (h : d.aggregate ≠ []) :
    d.flushAggregate m =
      match buildAggregateMessage m (d.aggregate.take d.settings.aggregationSize)
          [d.settings.messageAttributes] with
      | .error err => (.error ("can not marshal aggregate: " ++ err), d.takeAggregate false)
      | .ok c => (.ok [c], d.takeAggregate true) := by
  obtain ⟨htake, hdrop⟩ := take_drop_clamp d.aggregate d.settings.aggregationSize
  simp only [flushAggregate, List.length_eq_zero, h, if_false, htake, hdrop]
  rfl

@[simp] theorem flushBatch_name : d.flushBatch.name = d.name := by
  unfold flushBatch; split <;> rfl
@[simp] theorem flushBatch_settings : d.flushBatch.settings = d.settings := by
  unfold flushBatch; split <;> rfl
@[simp] theorem flushBatch_aggregate : d.flushBatch.aggregate = d.aggregate := by
  unfold flushBatch; split <;> rfl
@[simp] theorem flushBatch_marshalled : d.flushBatch.marshalled = d.marshalled := by
  unfold flushBatch; split <;> rfl
@[simp] theorem flushBatch_metric : d.flushBatch.metric = d.metric := by
  unfold flushBatch; split <;> rfl

/-- `flushBatch` keeps what lies beyond the first `BatchSize` carriers. -/
@[simp] theorem flushBatch_batch : d.flushBatch.batch = d.batch.drop d.settings.batchSize := by
  unfold flushBatch
  split
  · simp_all
  · exact (take_drop_clamp d.batch _).2

/-- `flushBatch` writes the first `BatchSize` carriers to the channel, if there are any. -/
theorem flushBatch_outCh : d.flushBatch.outCh =
    if d.batch.length = 0 then d.outCh else d.outCh.write (d.batch.take d.settings.batchSize) := by
  unfold flushBatch
  split
  · simp_all
  · simp_all [(take_drop_clamp d.batch _).1]

@[simp] theorem flushBatch_closed : d.flushBatch.outCh.closed = d.outCh.closed := by
  rw [flushBatch_outCh]; split <;> simp

@[simp] theorem appendBatch_name (cs) : (d.appendBatch cs).name = d.name := by
  simp only [appendBatch]; split <;> simp
@[simp] theorem appendBatch_settings (cs) : (d.appendBatch cs).settings = d.settings := by
  simp only [appendBatch]; split <;> simp
@[simp] theorem appendBatch_aggregate (cs) : (d.appendBatch cs).aggregate = d.aggregate := by
  simp only [appendBatch]; split <;> simp
@[simp] theorem appendBatch_marshalled (cs) : (d.appendBatch cs).marshalled = d.marshalled := by
  simp only [appendBatch]; split <;> simp
@[simp] theorem appendBatch_metric (cs) : (d.appendBatch cs).metric = d.metric := by
  simp only [appendBatch]; split <;> simp
@[simp] theorem appendBatch_closed (cs) : (d.appendBatch cs).outCh.closed = d.outCh.closed := by
  simp only [appendBatch]; split <;> simp

/-- `flushAll` with nothing to fold is one `flushBatch`. -/
theorem flushAll_of_nil (h : d.aggregate = []) : d.flushAll m = (.ok (), d.flushBatch) := by
  simp only [flushAll, flushAggregate_of_nil d m h, List.append_nil]

/-- `flushAll` with something to fold: a failed fold returns at once, a successful one is
appended to the batch buffer, which is then flushed. -/
theorem flushAll_of_ne_nil (h : d.aggregate ≠ []) :
    d.flushAll m =
      match buildAggregateMessage m (d.aggregate.take d.settings.aggregationSize)
          [d.settings.messageAttributes] with
      | .error err =>
        (.error ("can not flush aggregation: " ++ ("can not marshal aggregate: " ++ err)),
          d.takeAggregate false)
      | .ok c => (.ok (), ({ d.takeAggregate true with batch := d.batch ++ [c] }).flushBatch) := by
  unfold flushAll
  rw [flushAggregate_of_ne_nil d m h]
  cases buildAggregateMessage m _ _ <;> rfl

/-- `Write` with aggregation off: the messages join the batch buffer as they are. -/
theorem write_of_le_one (batch : List Msg) (hA : d.settings.aggregationSize ≤ 1) :
    d.write m batch = (.ok (), (d.writeMetricMessageCount batch.length).appendBatch (batch.map .raw)) := by
  simp [write, applyAggregation, hA]

/-- `Write` with aggregation on that leaves the aggregate buffer short of `AggregationSize`. -/
theorem write_of_lt (batch : List Msg) (hA : 1 < d.settings.aggregationSize)
    (hlt : (d.aggregate ++ batch).length < d.settings.aggregationSize) :
    d.write m batch = (.ok (), ({ d.writeMetricMessageCount batch.length with
      aggregate := d.aggregate ++ batch }).appendBatch []) := by
  simp only [List.length_append] at hlt
  simp [write, applyAggregation, Nat.not_le.2 hA, hlt]

/-- The daemon `Write` works on once the new messages have joined the aggregate buffer. -/
def withAggregated (d : ProducerDaemon Msg) (batch : List Msg) : ProducerDaemon Msg :=
  { d.writeMetricMessageCount batch.length with aggregate := d.aggregate ++ batch }

@[simp] theorem withAggregated_settings (batch : List Msg) :
    (d.withAggregated batch).settings = d.settings := rfl
@[simp] theorem withAggregated_name (batch : List Msg) : (d.withAggregated batch).name = d.name := rfl
@[simp] theorem withAggregated_aggregate (batch : List Msg) :
    (d.withAggregated batch).aggregate = d.aggregate ++ batch := rfl
@[simp] theorem withAggregated_batch (batch : List Msg) : (d.withAggregated batch).batch = d.batch := rfl
@[simp] theorem withAggregated_outCh (batch : List Msg) : (d.withAggregated batch).outCh = d.outCh := rfl
@[simp] theorem withAggregated_marshalled (batch : List Msg) :
    (d.withAggregated batch).marshalled = d.marshalled := rfl
@[simp] theorem withAggregated_metric (batch : List Msg) :
    (d.withAggregated batch).metric = (d.writeMetricMessageCount batch.length).metric := rfl

/-- `Write` with aggregation on that fills the aggregate buffer: the marshaller receives the
first `AggregationSize` messages of the buffer with the new ones appended. -/
theorem write_of_le (batch : List Msg) (hA : 1 < d.settings.aggregationSize)
    (hle : d.settings.aggregationSize ≤ (d.aggregate ++ batch).length) :
    d.write m batch =
      match buildAggregateMessage m ((d.aggregate ++ batch).take d.settings.aggregationSize)
          [d.settings.messageAttributes] with
      | .error err => (.error ("can not apply aggregation in producer " ++ d.name ++ ": " ++
          ("can not marshal aggregate: " ++ err)), (d.withAggregated batch).takeAggregate false)
      | .ok c => (.ok (), ((d.withAggregated batch).takeAggregate true).appendBatch [c]) := by
  have hne : d.aggregate ++ batch ≠ [] := by
    intro h; rw [h] at hle; simp at hle; omega
  simp only [write, applyAggregation, Nat.not_le.2 hA, if_false, writeMetricMessageCount_eq,
    writeMetricCount_settings, writeMetricCount_aggregate, Nat.not_lt.2 hle]
  rw [flushAggregate_of_ne_nil _ m hne]
  cases buildAggregateMessage m _ _ <;> rfl

/-- A successful `BuildAggregateMessage` is an aggregate of exactly the messages it was
given. -/
theorem buildAggregateMessage_eq_ok {aggregate : List Msg} {attributes : List Attributes}
    {c : WritableMessage Msg} (h : buildAggregateMessage m aggregate attributes = .ok c) :
    ∃ msg, c = .aggregate aggregate msg := by
  unfold buildAggregateMessage at h
  cases hm : m aggregate (attributes ++ [[(attributeAggregate, .bool true)]]) with
  | error e => simp [hm, Except.map] at h
  | ok msg =>
    simp only [hm, Except.map, Except.ok.injEq] at h
    exact ⟨msg, h.symm⟩

/-- Everything `Write` can do: pass the messages through, let them wait in the aggregate buffer,
or fold the first `AggregationSize` messages of the buffer, which fails or yields one carrier. -/
theorem write_cases (batch : List Msg) :
    (d.settings.aggregationSize ≤ 1 ∧
      d.write m batch = (.ok (), (d.writeMetricMessageCount batch.length).appendBatch (batch.map .raw))) ∨
    (1 < d.settings.aggregationSize ∧ (d.aggregate ++ batch).length < d.settings.aggregationSize ∧
      d.write m batch = (.ok (), (d.withAggregated batch).appendBatch [])) ∨
    (1 < d.settings.aggregationSize ∧ d.settings.aggregationSize ≤ (d.aggregate ++ batch).length ∧
      ∃ err, d.write m batch = (.error err, (d.withAggregated batch).takeAggregate false)) ∨
    (1 < d.settings.aggregationSize ∧ d.settings.aggregationSize ≤ (d.aggregate ++ batch).length ∧
      ∃ msg, d.write m batch = (.ok (), ((d.withAggregated batch).takeAggregate true).appendBatch
        [.aggregate ((d.aggregate ++ batch).take d.settings.aggregationSize) msg])) := by
  rcases Nat.lt_or_ge 1 d.settings.aggregationSize with hA | hA
  · rcases Nat.lt_or_ge (d.aggregate ++ batch).length d.settings.aggregationSize with h | h
    · exact .inr (.inl ⟨hA, h, write_of_lt d m batch hA h⟩)
    · rw [write_of_le d m batch hA h]
      cases hb : buildAggregateMessage m _ _ with
      | error err => exact .inr (.inr (.inl ⟨hA, h, _, rfl⟩))
      | ok c =>
        obtain ⟨msg, rfl⟩ := buildAggregateMessage_eq_ok m hb
        exact .inr (.inr (.inr ⟨hA, h, msg, rfl⟩))
  · exact .inl ⟨hA, write_of_le_one d m batch hA⟩

/-- Everything `flushAll` can do: flush the batch buffer when there is nothing to fold, return
at once after a failed fold, or flush once after appending the new carrier. -/
theorem flushAll_cases :
    (d.aggregate = [] ∧ d.flushAll m = (.ok (), d.flushBatch)) ∨
    (d.aggregate ≠ [] ∧ ∃ err, d.flushAll m = (.error err, d.takeAggregate false)) ∨
    (d.aggregate ≠ [] ∧ ∃ msg, d.flushAll m = (.ok (), ({ d.takeAggregate true with
      batch := d.batch ++ [WritableMessage.aggregate (d.aggregate.take d.settings.aggregationSize) msg] }).flushBatch)) := by
  by_cases h : d.aggregate = []
  · exact .inl ⟨h, flushAll_of_nil d m h⟩
  · rw [flushAll_of_ne_nil d m h]
    cases hb : buildAggregateMessage m _ _ with
    | error err => exact .inr (.inl ⟨h, _, rfl⟩)
    | ok c =>
      obtain ⟨msg, rfl⟩ := buildAggregateMessage_eq_ok m hb
      exact .inr (.inr ⟨h, msg, rfl⟩)

/-- `close` leaves the daemon as its `flushAll` did, with the output channel closed. -/
theorem close_snd : (d.close m).2 = { (d.flushAll m).2 with outCh := (d.flushAll m).2.outCh.close } := by
  unfold close; split <;> simp_all

/-- `close` returns `nil` exactly when its `flushAll` does. -/
theorem close_fst_eq_ok : (d.close m).1 = .ok () ↔ (d.flushAll m).1 = .ok () := by
  unfold close; split <;> simp_all

end Spec

end ProducerDaemon

end Gosoline.Stream
