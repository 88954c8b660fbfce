import Gosoline.Mon.Metric
import Gosoline.Text

/-!
# The identity of a metric series

`MetricDatum.Id` names the series of a datum: its name, a colon, and the `DimensionKey`, which
writes each dimension as `name:value`, sorts these texts and joins them with `-`. A Go map is
ranged over in no fixed order; a `MetricDatum` here lists its dimensions in the order one range
loop met them, so lists with the same entries are the same map. Sorting makes the key the same
for every order. The separators are not escaped, so the key tells two series apart only when no
name or value holds a separator where it would be misread.
-/

namespace Gosoline.Mon

/-- The order of strings, decided on their characters so that `decide` can run it. -/
def decideStringLE : DecidableRel fun a b : String => a ≤ b := fun _ _ =>
  decidable_of_iff _ String.le_iff_toList_le.symm

/-- `sort.Strings`: ascending order. Lean orders strings by code points, which on UTF-8 text is
Go's byte order; a sorted permutation is unique, so the sorting algorithm does not matter. -/
def sortStrings (strs : List String) : List String :=
  @List.insertionSort String (· ≤ ·) decideStringLE strs

/-- `fmt.Sprintf("%s:%s", k, v)` for one dimension. -/
def dimensionText (dim : String × String) : String := dim.1 ++ ":" ++ dim.2

/-- `DimensionKey`. -/
def MetricDatum.dimensionKey (d : MetricDatum) : String :=
  String.intercalate "-" (sortStrings (d.dimensions.map dimensionText))

/-- `Id`. -/
def MetricDatum.id (d : MetricDatum) : String := d.metricName ++ ":" ++ d.dimensionKey

/-- Two lists of dimensions are the same map: each name has the same value in both, or none. -/
def SameMap (dims₁ dims₂ : List (String × String)) : Prop :=
  ∀ name, dims₁.lookup name = dims₂.lookup name

/-- No text of the datum holds a separator where `Id` would misread it: no `:` in the metric
name, no `:` or `-` in a dimension name, no `-` in a dimension value. -/
def MetricDatum.SeparatorFree (d : MetricDatum) : Prop :=
  ':' ∉ d.metricName.data ∧
    ∀ dim ∈ d.dimensions, ':' ∉ dim.1.data ∧ '-' ∉ dim.1.data ∧ '-' ∉ dim.2.data

instance : DecidablePred MetricDatum.SeparatorFree := fun d =>
  inferInstanceAs (Decidable (_ ∧ ∀ dim ∈ d.dimensions, _))

/-! ## Sorting -/

theorem sortStrings_perm (strs : List String) : (sortStrings strs).Perm strs :=
  @List.perm_insertionSort String (· ≤ ·) decideStringLE strs

theorem sortStrings_sorted (strs : List String) : (sortStrings strs).Sorted (· ≤ ·) :=
  @List.sorted_insertionSort String (· ≤ ·) decideStringLE _ _ strs

/-- Sorting forgets the order it was given. -/
theorem sortStrings_eq_of_perm {strs₁ strs₂ : List String} (h : strs₁.Perm strs₂) :
    sortStrings strs₁ = sortStrings strs₂ :=
  List.eq_of_perm_of_sorted (((sortStrings_perm _).trans h).trans (sortStrings_perm _).symm)
    (sortStrings_sorted _) (sortStrings_sorted _)

/-! ## Maps as lists of entries -/

section Maps

variable {dims dims₁ dims₂ : List (String × String)}

/-- With distinct names, an entry is in the list exactly when looking its name up finds its
value. -/
theorem mem_iff_lookup_eq_some (h : (dims.map Prod.fst).Nodup) {name value : String} :
    (name, value) ∈ dims ↔ dims.lookup name = some value := by
  induction dims with
  | nil => simp
  | cons dim dims ih =>
    obtain ⟨name', value'⟩ := dim
    rw [List.map_cons, List.nodup_cons] at h
    by_cases hname : name = name'
    · subst hname
      have hnot : (name, value) ∉ dims := fun hm => h.1 (List.mem_map.2 ⟨_, hm, rfl⟩)
      simp [List.lookup_cons, hnot, eq_comm]
    · have hbeq : (name == name') = false := by simpa using hname
      simp [List.lookup_cons, hname, hbeq, ih h.2]

/-- With distinct names, two lists are the same map exactly when they hold the same entries. -/
theorem sameMap_iff_perm (h₁ : (dims₁.map Prod.fst).Nodup) (h₂ : (dims₂.map Prod.fst).Nodup) :
    SameMap dims₁ dims₂ ↔ dims₁.Perm dims₂ := by
  rw [List.perm_ext_iff_of_nodup (h₁.of_map _) (h₂.of_map _)]
  constructor
  · rintro h ⟨name, value⟩
    rw [mem_iff_lookup_eq_some h₁, mem_iff_lookup_eq_some h₂, h name]
  · intro h name
    refine Option.ext fun value => ?_
    rw [Option.mem_def, Option.mem_def, ← mem_iff_lookup_eq_some h₁, ← mem_iff_lookup_eq_some h₂]
    exact h (name, value)

end Maps

/-! ## Reading a key back -/

theorem data_dimensionText (dim : String × String) :
    (dimensionText dim).data = dim.1.data ++ ':' :: dim.2.data := by
  simp [dimensionText, String.data_append]

theorem data_id (d : MetricDatum) : d.id.data = d.metricName.data ++ ':' :: d.dimensionKey.data := by
  simp [MetricDatum.id, String.data_append]

/-- Dimensions whose names hold no colon have different texts. -/
theorem dimensionText_inj {dim dim' : String × String} (h : ':' ∉ dim.1.data)
    (h' : ':' ∉ dim'.1.data) (htext : dimensionText dim = dimensionText dim') : dim = dim' := by
  rw [String.ext_iff, data_dimensionText, data_dimensionText] at htext
  obtain ⟨hname, hvalue⟩ := append_cons_inj_of_not_mem h h' htext
  exact Prod.ext (String.ext hname) (String.ext hvalue)

/-- Under `SeparatorFree`, the sorted texts of the dimensions are read back from the key. -/
theorem sortedTexts_eq_of_dimensionKey_eq {d₁ d₂ : MetricDatum} (hd₁ : d₁.SeparatorFree)
    (hd₂ : d₂.SeparatorFree) (h : d₁.dimensionKey = d₂.dimensionKey) :
    sortStrings (d₁.dimensions.map dimensionText) = sortStrings (d₂.dimensions.map dimensionText) := by
  have hparts : ∀ d : MetricDatum, d.SeparatorFree →
      ∀ l ∈ (sortStrings (d.dimensions.map dimensionText)).map String.data, l ≠ [] ∧ '-' ∉ l := by
    intro d hd l hl
    obtain ⟨s, hs, rfl⟩ := List.mem_map.1 hl
    obtain ⟨dim, hdim, rfl⟩ := List.mem_map.1 ((sortStrings_perm _).mem_iff.1 hs)
    obtain ⟨-, hname, hvalue⟩ := hd.2 dim hdim
    rw [data_dimensionText]
    exact ⟨by simp, by simp [hname, hvalue]⟩
  rw [String.ext_iff, MetricDatum.dimensionKey, MetricDatum.dimensionKey, data_intercalate,
    data_intercalate] at h
  exact List.map_injective_iff.2 (fun _ _ => String.ext) (intercalate_inj (hparts d₁ hd₁) (hparts d₂ hd₂) h)

/-- Under `SeparatorFree`, dimensions with the same texts are the same entries. -/
theorem perm_of_perm_dimensionText {d₁ d₂ : MetricDatum} (hd₁ : d₁.SeparatorFree)
    (hd₂ : d₂.SeparatorFree) (hn₁ : (d₁.dimensions.map Prod.fst).Nodup)
    (hn₂ : (d₂.dimensions.map Prod.fst).Nodup)
    (h : (d₁.dimensions.map dimensionText).Perm (d₂.dimensions.map dimensionText)) :
    d₁.dimensions.Perm d₂.dimensions := by
  have hsub : ∀ {a b : MetricDatum}, a.SeparatorFree → b.SeparatorFree →
      (a.dimensions.map dimensionText).Perm (b.dimensions.map dimensionText) →
      ∀ dim ∈ a.dimensions, dim ∈ b.dimensions := by
    intro a b ha hb hab dim hdim
    obtain ⟨dim', hdim', htext⟩ := List.mem_map.1 (hab.mem_iff.1 (List.mem_map_of_mem dimensionText hdim))
    rwa [← dimensionText_inj (hb.2 dim' hdim').1 (ha.2 dim hdim).1 htext]
  rw [List.perm_ext_iff_of_nodup (hn₁.of_map _) (hn₂.of_map _)]
  exact fun dim => ⟨hsub hd₁ hd₂ h dim, hsub hd₂ hd₁ h.symm dim⟩

/-! ## The identity of a series -/

/-- Two data of one name and one map of dimensions have one `Id`, whatever order their
dimensions were ranged over in. The converse holds when no text holds a separator where it
would be misread: then equal `Id`s mean one name and one map. -/
theorem id_eq_iff_same_series {d₁ d₂ : MetricDatum} (hn₁ : (d₁.dimensions.map Prod.fst).Nodup)
    (hn₂ : (d₂.dimensions.map Prod.fst).Nodup) :
    (d₁.metricName = d₂.metricName → SameMap d₁.dimensions d₂.dimensions → d₁.id = d₂.id) ∧
    (d₁.SeparatorFree → d₂.SeparatorFree →
      (d₁.id = d₂.id ↔ d₁.metricName = d₂.metricName ∧ SameMap d₁.dimensions d₂.dimensions)) := by
  have hsame : d₁.metricName = d₂.metricName → SameMap d₁.dimensions d₂.dimensions → d₁.id = d₂.id := by
    intro hname hmap
    rw [MetricDatum.id, MetricDatum.id, hname, MetricDatum.dimensionKey, MetricDatum.dimensionKey,
      sortStrings_eq_of_perm (((sameMap_iff_perm hn₁ hn₂).1 hmap).map dimensionText)]
  refine ⟨hsame, fun hd₁ hd₂ => ⟨fun h => ?_, fun h => hsame h.1 h.2⟩⟩
  rw [String.ext_iff, data_id, data_id] at h
  obtain ⟨hname, hkey⟩ := append_cons_inj_of_not_mem hd₁.1 hd₂.1 h
  have hsorted := sortedTexts_eq_of_dimensionKey_eq hd₁ hd₂ (String.ext hkey)
  have htexts : (d₁.dimensions.map dimensionText).Perm (d₂.dimensions.map dimensionText) :=
    (sortStrings_perm _).symm.trans (hsorted ▸ sortStrings_perm _)
  exact ⟨String.ext hname, (sameMap_iff_perm hn₁ hn₂).2 (perm_of_perm_dimensionText hd₁ hd₂ hn₁ hn₂ htexts)⟩

theorem id_eq_iff_same_series_reordered :
    SameMap [("x", "1"), ("y", "2")] [("y", "2"), ("x", "1")] :=
  (((@id_eq_iff_same_series ⟨2, 0, "m", [("x", "1"), ("y", "2")], 0, ""⟩
    ⟨2, 0, "m", [("y", "2"), ("x", "1")], 0, ""⟩ (by decide) (by decide)).2 (by decide) (by decide)).1
    (by decide)).2

/-- The separators are not escaped, so a value holding both of them merges two series of one
name: `{x: "1-y:2"}` and `{x: "1", y: "2"}` both have the `Id` `m:x:1-y:2`. -/
theorem id_merges_distinct_series :
    MetricDatum.id ⟨2, 0, "m", [("x", "1-y:2")], 0, ""⟩ =
        MetricDatum.id ⟨2, 0, "m", [("x", "1"), ("y", "2")], 0, ""⟩ ∧
      ¬ SameMap [("x", "1-y:2")] [("x", "1"), ("y", "2")] :=
  ⟨by decide, fun h => absurd (h "y") (by decide)⟩

end Gosoline.Mon
