import Gosoline.Mon.Metric

/-!
# The CloudWatch metric writer

`cwWriter.Write` turns a batch of metric data into CloudWatch data with `buildMetricData` and
sends them with `PutMetricData`, `chunkSizeCloudWatch` at a time, in order. A datum is dropped
when its priority is below the writer's, when its time (the current time for the zero time) lies
outside the week before and the hour after the current time, when a dimension has an empty name
or value, or when the CloudWatch datum fails its own `Validate`. A failed call is logged and the
remaining chunks are still sent.

The CloudWatch types and `Validate` belong to the AWS SDK: the types are modelled with the fields
the writer fills, and `Validate` is a parameter, `validate`. `MetricSettings` is declared outside
the sources we have. The clock is read as one instant `now`, as a fake clock gives it; logging
is left out.
-/

namespace Gosoline.Mon

/-- `chunkSizeCloudWatch`. -/
def chunkSizeCloudWatch : ℕ := 20

/-- `minusOneWeek`. -/
def minusOneWeek : Duration := -1 * 7 * 24 * nsPerHour

/-- `plusOneHour`. -/
def plusOneHour : Duration := 1 * nsPerHour

/-- `MetricSettings`, with the fields `Write` reads. -/
structure MetricSettings where
  enabled : Bool
  project : String
  environment : String
  family : String
  application : String

/-- `cloudwatch.Dimension`. -/
structure CwDimension where
  name : String
  value : String

/-- `cloudwatch.MetricDatum`, with the fields `buildMetricData` sets. -/
structure CwDatum where
  metricName : String
  dimensions : List CwDimension
  timestamp : Time
  value : Float
  unit : String

/-- `cloudwatch.PutMetricDataInput`. -/
structure PutMetricDataInput where
  metricData : List CwDatum
  «namespace» : String

/-- `cwWriter.GetPriority`. -/
def getPriority : ℤ := priorityHigh

section Writer

variable (validate : CwDatum → Except String Unit) (now : Time)

/-- The loop of `buildMetricData` over the dimensions of a datum, in the order the range meets
them: the CloudWatch dimensions, and whether `err` is set for a dimension with an empty name or
value. The error's text is only logged. -/
def buildDimensions (dimensions : List CwDimension) (err : Bool) :
    List (String × String) → List CwDimension × Bool
  | [] => (dimensions, err)
  | (n, v) :: dims => buildDimensions (dimensions ++ [⟨n, v⟩]) (err || (n == "" || v == "")) dims

/-- One pass of the loop of `buildMetricData`: the CloudWatch datum of `data`, or `none` where
the loop continues. -/
def buildDatum (start «end» : Time) (data : MetricDatum) : Option CwDatum :=
  if data.priority < getPriority then none else
  let timestamp := if data.timestamp = 0 then now else data.timestamp
  if timestamp < start ∨ «end» < timestamp then none else
  let (dimensions, err) := buildDimensions [] false data.dimensions
  if err then none else
  let datum : CwDatum := ⟨data.metricName, dimensions, timestamp, data.value, data.unit⟩
  match validate datum with
  | .error _ => none
  | .ok () => some datum

/-- The loop of `buildMetricData` over the batch, `metricData` holding what it kept so far. -/
def collectMetricData (start «end» : Time) (metricData : List CwDatum) :
    List MetricDatum → List CwDatum
  | [] => metricData
  | data :: batch =>
    match buildDatum validate now start «end» data with
    | none => collectMetricData start «end» metricData batch
    | some datum => collectMetricData start «end» (metricData ++ [datum]) batch

/-- `buildMetricData`, which never returns an error. -/
def buildMetricData (batch : List MetricDatum) : Except String (List CwDatum) :=
  .ok (collectMetricData validate now (now + minusOneWeek) (now + plusOneHour) [] batch)

/-- The loop of `Write` that sends `metricData[i:]`, `chunkSizeCloudWatch` at a time: the
inputs of its `PutMetricData` calls, in order. -/
def putChunks (metricData : List CwDatum) («namespace» : String) (i : ℕ) : List PutMetricDataInput :=
  if i < metricData.length then
    let «end» := if i + chunkSizeCloudWatch > metricData.length then metricData.length
      else i + chunkSizeCloudWatch
    ⟨(metricData.drop i).take («end» - i), «namespace»⟩ ::
      putChunks metricData «namespace» (i + chunkSizeCloudWatch)
  else []
termination_by metricData.length - i
decreasing_by unfold chunkSizeCloudWatch; omega

/-- The namespace `Write` sends under, `Project/Environment/Family/Application`. -/
def metricNamespace (settings : MetricSettings) : String :=
  settings.project ++ "/" ++ settings.environment ++ "/" ++ settings.family ++ "/" ++
    settings.application

/-- `cwWriter.Write`: the inputs of the `PutMetricData` calls it makes, in order. -/
def write (settings : MetricSettings) (batch : List MetricDatum) : List PutMetricDataInput :=
  if !settings.enabled || batch.length == 0 then [] else
  match buildMetricData validate now batch with
  | .error _ => []
  | .ok metricData => putChunks metricData (metricNamespace settings) 0

/-- `cwWriter.WriteOne`. -/
def writeOne (settings : MetricSettings) (data : MetricDatum) : List PutMetricDataInput :=
  write validate now settings [data]

/-! ## What the writer keeps, as stated -/

/-- The time a datum is sent with: its own, or `now` for the zero time. -/
def stampedAt (data : MetricDatum) : Time := if data.timestamp = 0 then now else data.timestamp

/-- The CloudWatch datum of `data`: its name, dimensions, value and unit, at `stampedAt`. -/
def toCwDatum (data : MetricDatum) : CwDatum :=
  ⟨data.metricName, data.dimensions.map fun dim => ⟨dim.1, dim.2⟩, stampedAt now data, data.value,
    data.unit⟩

/-- The data the writer keeps: priority at least `PriorityHigh`, a time within the week before
and the hour after `now`, no dimension with an empty name or value, and a CloudWatch datum that
passes `Validate`. -/
def Kept (data : MetricDatum) : Prop :=
  priorityHigh ≤ data.priority ∧ now + minusOneWeek ≤ stampedAt now data ∧
    stampedAt now data ≤ now + plusOneHour ∧ (∀ dim ∈ data.dimensions, dim.1 ≠ "" ∧ dim.2 ≠ "") ∧
    (validate (toCwDatum now data)).toBool = true

instance : DecidablePred (Kept validate now) := fun data =>
  inferInstanceAs (Decidable (_ ∧ _ ∧ _ ∧ (∀ dim ∈ data.dimensions, _) ∧ _))

/-- The CloudWatch data of the kept entries, in batch order. -/
def keptData (batch : List MetricDatum) : List CwDatum :=
  (batch.filter fun data => decide (Kept validate now data)).map (toCwDatum now)

/-! ## The writer sends what `Kept` describes -/

theorem buildDimensions_eq (dimensions : List CwDimension) (err : Bool) (dims : List (String × String)) :
    buildDimensions dimensions err dims = (dimensions ++ dims.map fun dim => ⟨dim.1, dim.2⟩,
      err || dims.any fun dim => dim.1 == "" || dim.2 == "") := by
  induction dims generalizing dimensions err with
  | nil => simp [buildDimensions]
  | cons dim dims ih => simp [buildDimensions, ih, Bool.or_assoc]

theorem any_empty_eq_true_iff (dims : List (String × String)) :
    (dims.any fun dim => dim.1 == "" || dim.2 == "") = true ↔ ¬ ∀ dim ∈ dims, dim.1 ≠ "" ∧ dim.2 ≠ "" := by
  simp only [List.any_eq_true, Bool.or_eq_true, beq_iff_eq, not_forall, not_and_or, ne_eq, not_not,
    exists_prop]

theorem stampedAt_eq (data : MetricDatum) :
    stampedAt now data = if data.timestamp = 0 then now else data.timestamp := rfl

theorem toCwDatum_eq (data : MetricDatum) : toCwDatum now data =
    ⟨data.metricName, data.dimensions.map fun dim => ⟨dim.1, dim.2⟩, stampedAt now data, data.value,
      data.unit⟩ := rfl

/-- One pass of the loop keeps a datum exactly when `Kept` holds, as its `toCwDatum`. -/
theorem buildDatum_eq (data : MetricDatum) :
    buildDatum validate now (now + minusOneWeek) (now + plusOneHour) data =
      if Kept validate now data then some (toCwDatum now data) else none := by
  simp only [buildDatum, buildDimensions_eq, List.nil_append, Bool.false_or, getPriority,
    ← stampedAt_eq, ← toCwDatum_eq]
  by_cases hk : Kept validate now data
  · rw [if_pos hk]
    obtain ⟨hp, hstart, hend, hdims, hvalid⟩ := hk
    rw [if_neg (not_lt.2 hp), if_neg (not_or.2 ⟨not_lt.2 hstart, not_lt.2 hend⟩),
      if_neg (mt (any_empty_eq_true_iff _).1 (not_not.2 hdims))]
    revert hvalid
    cases validate (toCwDatum now data) <;> simp [Except.toBool]
  · rw [if_neg hk]
    split_ifs with hp ht hd
    · rfl
    · rfl
    · rfl
    · cases hv : validate (toCwDatum now data)
      · rfl
      · exact absurd ⟨not_lt.1 hp, not_lt.1 (not_or.1 ht).1, not_lt.1 (not_or.1 ht).2,
          not_not.1 (mt (any_empty_eq_true_iff _).2 hd), by simp [hv, Except.toBool]⟩ hk

/-- The loop over the batch appends the kept data to what it holds. -/
theorem collectMetricData_eq (metricData : List CwDatum) (batch : List MetricDatum) :
    collectMetricData validate now (now + minusOneWeek) (now + plusOneHour) metricData batch =
      metricData ++ keptData validate now batch := by
  induction batch generalizing metricData with
  | nil => simp [collectMetricData, keptData]
  | cons data batch ih =>
    by_cases hk : Kept validate now data <;>
      simp [collectMetricData, buildDatum_eq, hk, ih, keptData, List.filter_cons]

theorem buildMetricData_eq (batch : List MetricDatum) :
    buildMetricData validate now batch = .ok (keptData validate now batch) := by
  rw [buildMetricData, collectMetricData_eq, List.nil_append]

/-- What the chunk loop sends from index `i` on: `metricData[i:]`, in order, in calls of between
one and `chunkSizeCloudWatch` data, each under the namespace. -/
theorem putChunks_spec (metricData : List CwDatum) («namespace» : String) (i : ℕ) :
    ((putChunks metricData «namespace» i).map PutMetricDataInput.metricData).flatten =
        metricData.drop i ∧
      ∀ input ∈ putChunks metricData «namespace» i, 1 ≤ input.metricData.length ∧
        input.metricData.length ≤ chunkSizeCloudWatch ∧ input.«namespace» = «namespace» := by
  induction i using putChunks.induct metricData «namespace» with
  | case1 i hi ih =>
    rw [putChunks, if_pos hi]
    have hchunk : (metricData.drop i).take
        ((if i + chunkSizeCloudWatch > metricData.length then metricData.length
          else i + chunkSizeCloudWatch) - i) = (metricData.drop i).take chunkSizeCloudWatch := by
      split_ifs with h
      · rw [List.take_of_length_le (by simp), List.take_of_length_le (by simp; omega)]
      · congr 1; omega
    refine ⟨?_, ?_⟩
    · rw [List.map_cons, List.flatten_cons, ih.1, hchunk, ← List.drop_drop, List.take_append_drop]
    · intro input hinput
      rcases List.mem_cons.1 hinput with rfl | hinput
      · refine ⟨?_, ?_, rfl⟩ <;> simp only [List.length_take, List.length_drop, chunkSizeCloudWatch] <;>
          split_ifs <;> omega
      · exact ih.2 input hinput
  | case2 i hi =>
    rw [putChunks, if_neg hi, List.drop_eq_nil_of_le (Nat.le_of_not_lt hi)]
    simp

/-- For an enabled writer and any batch, the `PutMetricData` calls of `Write`, joined in call
order, carry exactly the data `buildMetricData` keeps, in batch order, and those are the data
`Kept` describes. Each call carries between one and `chunkSizeCloudWatch` data, and no call is
made when nothing is kept. -/
theorem write_sends_kept_data (settings : MetricSettings) (batch : List MetricDatum)
    (henabled : settings.enabled = true) :
    buildMetricData validate now batch = .ok (keptData validate now batch) ∧
    ((write validate now settings batch).map PutMetricDataInput.metricData).flatten =
        keptData validate now batch ∧
    (∀ input ∈ write validate now settings batch,
      1 ≤ input.metricData.length ∧ input.metricData.length ≤ chunkSizeCloudWatch) ∧
    (keptData validate now batch = [] → write validate now settings batch = []) := by
  have hempty : putChunks [] (metricNamespace settings) 0 = [] := by
    rw [putChunks]
    simp
  have hwrite : write validate now settings batch =
      putChunks (keptData validate now batch) (metricNamespace settings) 0 := by
    cases batch with
    | nil => rw [write, if_pos (by simp)]; exact hempty.symm
    | cons data batch => simp [write, henabled, buildMetricData_eq]
  obtain ⟨hflat, hcalls⟩ := putChunks_spec (keptData validate now batch) (metricNamespace settings) 0
  refine ⟨buildMetricData_eq validate now batch, ?_, fun input hinput => ?_, fun hnil => ?_⟩
  · rw [hwrite, hflat, List.drop_zero]
  · rw [hwrite] at hinput
    exact ⟨(hcalls input hinput).1, (hcalls input hinput).2.1⟩
  · rw [hwrite, hnil, hempty]

end Writer

theorem write_sends_kept_data_twenty_one :
    let calls := write (fun _ => .ok ()) 0 ⟨true, "p", "e", "f", "a"⟩
      (List.replicate 21 ⟨2, 0, "Requests", [], 1, "Count"⟩)
    (calls.map PutMetricDataInput.metricData).flatten.length = 21 ∧
      ∀ input ∈ calls, 1 ≤ input.metricData.length ∧ input.metricData.length ≤ 20 :=
  have h := write_sends_kept_data (fun _ => .ok ()) 0 ⟨true, "p", "e", "f", "a"⟩
    (List.replicate 21 ⟨2, 0, "Requests", [], 1, "Count"⟩) rfl
  ⟨by rw [h.2.1]; decide, h.2.2.1⟩

end Gosoline.Mon
