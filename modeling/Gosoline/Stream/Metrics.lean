import Gosoline.Stream.Thresholds

/-!
# The daemon's metric data

The daemon hands its metric writer four kinds of datum, each under the one dimension
`ProducerDaemon: name`: the message count of each `Write`, the size of each aggregate it folds,
and, from each pass of an output loop, the size of the batch read and the time the loop waited
for it, clamped to one `Interval` and written in whole milliseconds with high priority. Along
every run the sizes stay within what `Bounded` keeps, so a batch size lies between one and
`BatchSize`, an aggregate size between one and `AggregationSize`, and no idle time exceeds the
interval.
-/

namespace Gosoline.Stream

open Gosoline.Mon ProducerDaemon

variable {Msg : Type}

/-- What the daemon `name` with `settings` may hand its metric writer. -/
inductive DaemonDatum (name : String) (settings : ProducerDaemonSettings) : MetricDatum → Prop
  /-- The number of messages one `Write` carried. -/
  | messageCount (n : ℕ) : DaemonDatum name settings
      { metricName := metricNameMessageCount, dimensions := [("ProducerDaemon", name)],
        value := Float.ofNat n }
  /-- The size of a batch an output loop read. -/
  | batchSize {n : ℕ} (hn : 1 ≤ n ∧ n ≤ settings.batchSize) : DaemonDatum name settings
      { metricName := metricNameBatchSize, dimensions := [("ProducerDaemon", name)],
        value := Float.ofNat n }
  /-- The number of messages one aggregate folds. -/
  | aggregateSize {n : ℕ} (hn : 1 ≤ n ∧ n ≤ settings.aggregationSize) : DaemonDatum name settings
      { metricName := metricNameAggregateSize, dimensions := [("ProducerDaemon", name)],
        value := Float.ofNat n }
  /-- How long an output loop waited for its batch, in milliseconds. -/
  | idleDuration {ms : ℕ} (hms : ms * 1000000 ≤ settings.interval) : DaemonDatum name settings
      { priority := priorityHigh, metricName := metricNameIdleDuration,
        dimensions := [("ProducerDaemon", name)], unit := unitMillisecondsAverage,
        value := Float.ofNat ms }

/-- Every datum the daemon has handed its metric writer is one it may write. -/
def MetricOk (d : ProducerDaemon Msg) : Prop := ∀ μ ∈ d.metric, DaemonDatum d.name d.settings μ

namespace MetricOk

variable {d : ProducerDaemon Msg}

theorem new (name : String) (settings : ProducerDaemonSettings) :
    MetricOk (ProducerDaemon.new name settings : ProducerDaemon Msg) := by
  simp [MetricOk, ProducerDaemon.new]

/-- A method that writes no datum and keeps the name and settings keeps the data well formed. -/
theorem of_metric_eq {d' : ProducerDaemon Msg} (h : MetricOk d) (hname : d'.name = d.name)
    (hsettings : d'.settings = d.settings) (hmetric : d'.metric = d.metric) : MetricOk d' := by
  rw [MetricOk, hname, hsettings, hmetric]
  exact h

theorem writeMetricMessageCount (h : MetricOk d) (n : ℕ) :
    MetricOk (d.writeMetricMessageCount n) := by
  simp only [MetricOk, writeMetricMessageCount_eq, writeMetricCount_metric, writeMetricCount_name,
    writeMetricCount_settings, List.mem_append, List.mem_singleton]
  rintro μ (hμ | rfl)
  · exact h μ hμ
  · exact .messageCount n

theorem withAggregated (h : MetricOk d) (batch : List Msg) : MetricOk (d.withAggregated batch) :=
  (h.writeMetricMessageCount batch.length).of_metric_eq rfl rfl rfl

theorem flushBatch (h : MetricOk d) : MetricOk d.flushBatch :=
  h.of_metric_eq (flushBatch_name d) (flushBatch_settings d) (flushBatch_metric d)

theorem appendBatch (h : MetricOk d) (cs : List (WritableMessage Msg)) :
    MetricOk (d.appendBatch cs) :=
  h.of_metric_eq (appendBatch_name d cs) (appendBatch_settings d cs) (appendBatch_metric d cs)

/-- A fold of a non-empty aggregate buffer writes its size, between one and
`AggregationSize`. -/
theorem takeAggregate (h : MetricOk d) (hne : d.aggregate ≠ []) (ok : Bool) :
    MetricOk (d.takeAggregate ok) := by
  have := List.length_pos.2 hne
  have := d.settings.aggregationSize_pos
  simp only [MetricOk, takeAggregate_metric, writeMetricAggregateSize_eq, writeMetricCount_metric,
    takeAggregate_name, takeAggregate_settings, List.mem_append, List.mem_singleton]
  rintro μ (hμ | rfl)
  · exact h μ hμ
  · exact .aggregateSize (by simp only [List.length_take]; omega)

/-- A pass of an output loop writes the size of a batch pushed earlier, and its idle time
clamped to the interval. -/
theorem outputLoopStep (h : MetricOk d) (hb : Bounded d) {idleDuration : ℕ}
    {d' : ProducerDaemon Msg} (hr : d.outputLoopStep idleDuration = some d') : MetricOk d' := by
  unfold ProducerDaemon.outputLoopStep at hr
  cases hread : d.outCh.read with
  | none => simp [hread] at hr
  | some r =>
    obtain ⟨batch, outCh⟩ := r
    simp only [hread, Option.map_some', Option.some.injEq] at hr
    subst hr
    have hbatch := hb.pushed batch (OutputChannel.read_eq_some hread).2.2.2
    have hidle : (if idleDuration > d.settings.interval then d.settings.interval else idleDuration) /
        1000000 * 1000000 ≤ d.settings.interval :=
      (Nat.div_mul_le_self _ _).trans (by split <;> omega)
    simp only [MetricOk, writeMetricIdleDuration_metric, writeMetricBatchSize_eq,
      writeMetricCount_metric, writeMetricIdleDuration_name, writeMetricIdleDuration_settings,
      writeMetricCount_name, writeMetricCount_settings, List.mem_append, List.mem_singleton]
    rintro μ ((hμ | rfl) | rfl)
    · exact h μ hμ
    · exact .batchSize hbatch
    · exact .idleDuration hidle

/-- Every step keeps the data well formed, given the bounds `Bounded` keeps. -/
theorem step (h : MetricOk d) (hb : Bounded d) {ev : Event Msg} {d' : ProducerDaemon Msg}
    (hs : Step d ev d') : MetricOk d' := by
  have hflushAll : ∀ m : AggregateMarshaller Msg, MetricOk (d.flushAll m).2 := by
    intro m
    rcases flushAll_cases d m with ⟨-, hf⟩ | ⟨hne, _, hf⟩ | ⟨hne, _, hf⟩ <;> rw [hf]
    · exact h.flushBatch
    · exact h.takeAggregate hne false
    · exact MetricOk.flushBatch ((h.takeAggregate hne true).of_metric_eq rfl rfl rfl)
  cases hs with
  | write m batch =>
    have hw := h.withAggregated batch
    have hne (hle : d.settings.aggregationSize ≤ (d.aggregate ++ batch).length) :
        (d.withAggregated batch).aggregate ≠ [] := List.ne_nil_of_length_pos (by
      have := d.settings.aggregationSize_pos
      simp only [withAggregated_aggregate]; omega)
    rcases write_cases d m batch with ⟨-, hw'⟩ | ⟨-, -, hw'⟩ | ⟨-, hle, _, hw'⟩ | ⟨-, hle, _, hw'⟩ <;>
      rw [hw']
    · exact (h.writeMetricMessageCount _).appendBatch _
    · exact hw.appendBatch _
    · exact hw.takeAggregate (hne hle) false
    · exact (hw.takeAggregate (hne hle) true).appendBatch _
  | tick m => exact hflushAll m
  | read _ hr => exact h.outputLoopStep hb hr
  | close m _ =>
    rw [close_snd]
    exact (hflushAll m).of_metric_eq rfl rfl rfl

end MetricOk

/-- Along every run from a new daemon, every datum handed to the metric writer carries the
daemon's name as its one dimension and is the message count of a `Write`, the size of a batch
read, between one and `BatchSize`, the size of an aggregate, between one and `AggregationSize`,
or an idle time of at most one `Interval`, in milliseconds and with high priority. -/
theorem metric_data_bounded {name : String} {settings : ProducerDaemonSettings}
    {evs : List (Event Msg)} {d : ProducerDaemon Msg}
    (hrun : Run (ProducerDaemon.new name settings) evs d) :
    ∀ μ ∈ d.metric, DaemonDatum name settings μ := by
  have h := hrun.inv (fun d => Bounded d ∧ MetricOk d) (fun hs h => ⟨h.1.step hs, h.2.step h.1 hs⟩)
    ⟨Bounded.new name settings, MetricOk.new name settings⟩
  have hname : d.name = name := hrun.name
  have hsettings : d.settings = settings := hrun.settings
  rw [← hname, ← hsettings]
  exact h.2

theorem metric_data_bounded_after_read :
    ∃ (evs : List (Event ℕ)) (d : ProducerDaemon ℕ),
      Run (ProducerDaemon.new "p" { ProducerDaemonSettings.default with
        batchSize := 2, batchSize_pos := by decide }) evs d ∧
      d.metric.map MetricDatum.metricName =
        [metricNameMessageCount, metricNameBatchSize, metricNameIdleDuration] ∧
      ∀ μ ∈ d.metric, DaemonDatum "p" { ProducerDaemonSettings.default with
        batchSize := 2, batchSize_pos := by decide } μ :=
  have hrun := (Run.nil (ProducerDaemon.new "p" { ProducerDaemonSettings.default with
    batchSize := 2, batchSize_pos := by decide })).snoc (Step.write (fun _ _ => .ok 0) [1, 2, 3]) |>.snoc
    (Step.read 90000000000 rfl)
  ⟨_, _, hrun, rfl, metric_data_bounded hrun⟩

/-! ## Validity and the default metrics -/

/-- `getProducerDaemonDefaultMetrics`. -/
def getProducerDaemonDefaultMetrics (name : String) : List MetricDatum :=
  [{ priority := priorityHigh, metricName := metricNameMessageCount,
      dimensions := [("ProducerDaemon", name)], unit := unitCount, value := 0.0 },
    { priority := priorityHigh, metricName := metricNameBatchSize,
      dimensions := [("ProducerDaemon", name)], unit := unitCountAverage, value := 0.0 },
    { priority := priorityHigh, metricName := metricNameAggregateSize,
      dimensions := [("ProducerDaemon", name)], unit := unitCountAverage, value := 0.0 }]

/-- An idle time passes `IsValid`; each of the three counts fails it for want of a priority,
and the default metric of its name and dimension passes it. -/
theorem DaemonDatum.isValid {name : String} {settings : ProducerDaemonSettings} {μ : MetricDatum}
    (h : DaemonDatum name settings μ) :
    (μ.metricName = metricNameIdleDuration ∧ μ.isValid = .ok ()) ∨
      (μ.isValid = .error ("metric " ++ μ.metricName ++ " has no priority") ∧
        ∃ dflt ∈ getProducerDaemonDefaultMetrics name, dflt.metricName = μ.metricName ∧
          dflt.dimensions = μ.dimensions ∧ dflt.isValid = .ok ()) := by
  cases h with
  | messageCount n => exact .inr ⟨rfl, _, List.mem_cons_self _ _, rfl, rfl, rfl⟩
  | batchSize hn =>
    exact .inr ⟨rfl, _, List.mem_cons_of_mem _ (List.mem_cons_self _ _), rfl, rfl, rfl⟩
  | aggregateSize hn =>
    exact .inr ⟨rfl, _, List.mem_cons_of_mem _ (List.mem_cons_of_mem _ (List.mem_cons_self _ _)),
      rfl, rfl, rfl⟩
  | idleDuration hms => exact .inl ⟨rfl, rfl⟩

end Gosoline.Stream
