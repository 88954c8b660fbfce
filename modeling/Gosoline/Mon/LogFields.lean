import Gosoline.Time

/-!
# The field values of a log record

A logger's fields are Go maps `map[string]interface{}`. Before a field reaches a formatter,
`prepareForLog` rewrites its value: an error becomes its text, which `encoding/json` would
otherwise drop, and maps, structs, pointers, slices and arrays are copied into plain maps and
slices of prepared values, so that the logger owns the whole value. `mergeMapStringInterface`
builds the fields of a derived logger and of a record: the entries of the receiver and then
those of the input, each value prepared, a later key replacing an earlier one.

A value is told apart by the case of `prepareForLog`'s type switch and by the kind `reflect`
reports for it. A Go map is given by its entries in the order one range loop meets them. A map
built here by assignment keeps each key at the place where it was first assigned, which is one
of the orders a range over it may meet.

`Value` is an inductive type, so it holds only acyclic values: a value built from finitely many
maps, structs, pointers and slices, none of which leads back to itself. Go can build cyclic ones,
a map that holds itself or a pointer cycle, and `prepareForLog` has no cycle check: on such a
value it recurses until the stack overflows and never returns. Those values are outside the
model, and every result here is about the acyclic values.
-/

namespace Gosoline.Mon

/-- An acyclic Go `interface{}` value, as `prepareForLog` tells values apart. A cyclic value,
on which `prepareForLog` never returns, cannot be built. -/
inductive Value where
  /-- The nil interface. -/
  | nil
  /-- A value whose type implements `error`; `text` is what its `Error` returns. -/
  | error (text : String)
  /-- A `time.Time`. -/
  | time (t : Time)
  /-- A string. -/
  | string (s : String)
  /-- A value of another kind that the switch returns as it is (a number, a bool, a channel,
  a function), by its printed form. -/
  | scalar (text : String)
  /-- A `map[string]interface{}`. -/
  | stringMap (entries : List (String × Value))
  /-- A map of another type, each key as `fmt.Sprint` prints it. -/
  | map (entries : List (String × Value))
  /-- A pointer or an interface: nil, or the value it holds. -/
  | ptr (elem : Option Value)
  /-- A struct: for each field its name, whether `CanInterface` holds of it (the field is
  exported), and its value. -/
  | struct (fields : List (String × Bool × Value))
  /-- A slice: nil, or its elements. -/
  | slice (elems : Option (List Value))
  /-- An array. -/
  | array (elems : List Value)

instance : Inhabited Value := ⟨.nil⟩

/-- `Fields`, a `map[string]interface{}`, by its entries. -/
abbrev Fields := List (String × Value)

/-- The assignment `m[k] = v`: a key already in the map keeps its place and takes the new
value, a new key comes last. -/
def assign (k : String) (v : Value) : Fields → Fields
  | [] => [(k, v)]
  | (k', v') :: m => if k' = k then (k, v) :: m else (k', v') :: assign k v m

mutual

/-- `prepareForLog`. A `map[string]interface{}` is copied by `mergeMapStringInterface(t, nil)`,
whose loop over the nil input does nothing. -/
def prepareForLog : Value → Value
  | .nil => .nil
  | .error text => .string text
  | .time t => .time t
  | .string s => .string s
  | .scalar text => .scalar text
  | .stringMap entries => .stringMap (assignPrepared [] entries)
  | .map entries => .stringMap (assignPrepared [] entries)
  | .ptr none => .nil
  | .ptr (some elem) => prepareForLog elem
  | .struct fields => .stringMap (assignFields [] fields)
  | .slice none => .nil
  | .slice (some elems) => .slice (some (prepareElems elems))
  | .array elems => .slice (some (prepareElems elems))

/-- The loop `for k, v := range m { newMap[k] = prepareForLog(v) }`. -/
def assignPrepared (newMap : Fields) : Fields → Fields
  | [] => newMap
  | (k, v) :: entries => assignPrepared (assign k (prepareForLog v) newMap) entries

/-- The loop over the fields of a struct; a field that cannot be interfaced is skipped. -/
def assignFields (newMap : Fields) : List (String × Bool × Value) → Fields
  | [] => newMap
  | (name, canInterface, v) :: fields =>
    assignFields (if canInterface then assign name (prepareForLog v) newMap else newMap) fields

/-- The loop that fills `newArray`. -/
def prepareElems : List Value → List Value
  | [] => []
  | v :: elems => prepareForLog v :: prepareElems elems

end

/-- `mergeMapStringInterface`: a new map holding the entries of `receiver` and then those of
`input`, each value prepared. -/
def mergeMapStringInterface (receiver input : Fields) : Fields :=
  assignPrepared (assignPrepared [] receiver) input

mutual

/-- The values `prepareForLog` returns: nil, a time, a string or another plain value, a
`map[string]interface{}` with distinct keys, or a slice that is not nil, each of whose parts
is prepared too. No error, pointer, struct, array or map of another type is left at any
depth. -/
def Prepared : Value → Prop
  | .nil | .time _ | .string _ | .scalar _ => True
  | .stringMap entries => (entries.map Prod.fst).Nodup ∧ EntriesPrepared entries
  | .slice (some elems) => ElemsPrepared elems
  | _ => False

/-- Every value of the entries is prepared. -/
def EntriesPrepared : Fields → Prop
  | [] => True
  | (_, v) :: entries => Prepared v ∧ EntriesPrepared entries

/-- Every element is prepared. -/
def ElemsPrepared : List Value → Prop
  | [] => True
  | v :: elems => Prepared v ∧ ElemsPrepared elems

end

theorem entriesPrepared_iff {entries : Fields} :
    EntriesPrepared entries ↔ ∀ e ∈ entries, Prepared e.2 := by
  induction entries with
  | nil => exact iff_of_true trivial fun _ h => absurd h (List.not_mem_nil _)
  | cons e entries ih =>
    obtain ⟨k, v⟩ := e
    rw [List.forall_mem_cons, ← ih]
    rfl

/-! ## Assignment -/

section Assign

variable {k k' : String} {v : Value} {m : Fields}

theorem assign_of_not_mem (hk : k ∉ m.map Prod.fst) : assign k v m = m ++ [(k, v)] := by
  induction m with
  | nil => rfl
  | cons e m ih =>
    rw [List.map_cons, List.mem_cons, not_or] at hk
    rw [assign, if_neg (Ne.symm hk.1), ih hk.2, List.cons_append]

theorem keys_assign : (assign k v m).map Prod.fst =
    if k ∈ m.map Prod.fst then m.map Prod.fst else m.map Prod.fst ++ [k] := by
  induction m with
  | nil => rfl
  | cons e m ih =>
    obtain ⟨k', v'⟩ := e
    by_cases he : k' = k
    · subst he
      rw [assign, if_pos rfl, List.map_cons, List.map_cons, if_pos (List.mem_cons_self _ _)]
    · simp only [assign, if_neg he, List.map_cons, ih, List.mem_cons, Ne.symm he, false_or]
      split_ifs <;> rfl

/-- Assignment keeps the keys of a map distinct. -/
theorem nodup_keys_assign (hm : (m.map Prod.fst).Nodup) : ((assign k v m).map Prod.fst).Nodup := by
  rw [keys_assign]
  split_ifs with hk
  · exact hm
  · exact hm.append (List.nodup_singleton k) (List.disjoint_singleton.2 hk)

theorem mem_assign {e : String × Value} (he : e ∈ assign k v m) : e ∈ m ∨ e = (k, v) := by
  induction m with
  | nil => exact .inr (List.mem_singleton.1 he)
  | cons e' m ih =>
    rw [assign] at he
    split_ifs at he
    · rcases List.mem_cons.1 he with rfl | he
      · exact .inr rfl
      · exact .inl (List.mem_cons_of_mem _ he)
    · rcases List.mem_cons.1 he with rfl | he
      · exact .inl (List.mem_cons_self _ _)
      · exact (ih he).imp_left (List.mem_cons_of_mem _)

/-- One step of `List.lookup`, as an `if`. -/
theorem lookup_cons (k k' : String) (v : Value) (m : Fields) :
    ((k, v) :: m).lookup k' = if k' = k then some v else m.lookup k' := by
  by_cases h : k' = k
  · simp [List.lookup, h]
  · simp [List.lookup, beq_eq_false_iff_ne.2 h, h]

end Assign

/-! ## The copy loops -/

theorem assignPrepared_append (m entries entries' : Fields) :
    assignPrepared m (entries ++ entries') = assignPrepared (assignPrepared m entries) entries' := by
  induction entries generalizing m with
  | nil => rfl
  | cons e entries ih => exact ih _

theorem nodup_keys_assignPrepared {m : Fields} (hm : (m.map Prod.fst).Nodup) (entries : Fields) :
    ((assignPrepared m entries).map Prod.fst).Nodup := by
  induction entries generalizing m with
  | nil => exact hm
  | cons e entries ih => exact ih (nodup_keys_assign hm)

theorem nodup_keys_assignFields {m : Fields} (hm : (m.map Prod.fst).Nodup)
    (fields : List (String × Bool × Value)) : ((assignFields m fields).map Prod.fst).Nodup := by
  induction fields generalizing m with
  | nil => exact hm
  | cons f fields ih =>
    obtain ⟨name, canInterface, v⟩ := f
    cases canInterface
    · exact ih hm
    · exact ih (nodup_keys_assign hm)

theorem entriesPrepared_assign {k : String} {v : Value} {m : Fields} (hv : Prepared v)
    (hm : EntriesPrepared m) : EntriesPrepared (assign k v m) :=
  entriesPrepared_iff.2 fun e he => (mem_assign he).elim (entriesPrepared_iff.1 hm e) fun h => h ▸ hv

theorem entriesPrepared_assignPrepared {m : Fields} (hm : EntriesPrepared m) {entries : Fields}
    (hentries : ∀ e ∈ entries, Prepared (prepareForLog e.2)) :
    EntriesPrepared (assignPrepared m entries) := by
  induction entries generalizing m with
  | nil => exact hm
  | cons e entries ih =>
    exact ih (entriesPrepared_assign (hentries e (List.mem_cons_self _ _)) hm)
      fun e he => hentries e (List.mem_cons_of_mem _ he)

theorem entriesPrepared_assignFields {m : Fields} (hm : EntriesPrepared m)
    {fields : List (String × Bool × Value)} (hfields : ∀ f ∈ fields, Prepared (prepareForLog f.2.2)) :
    EntriesPrepared (assignFields m fields) := by
  induction fields generalizing m with
  | nil => exact hm
  | cons f fields ih =>
    obtain ⟨name, canInterface, v⟩ := f
    have hrest : ∀ f ∈ fields, Prepared (prepareForLog f.2.2) :=
      fun f hf => hfields f (List.mem_cons_of_mem _ hf)
    cases canInterface
    · exact ih hm hrest
    · exact ih (entriesPrepared_assign (hfields _ (List.mem_cons_self _ _)) hm) hrest

/-! ## What `prepareForLog` returns -/

mutual

theorem prepared_prepareForLog : ∀ v : Value, Prepared (prepareForLog v)
  | .nil | .error _ | .time _ | .string _ | .scalar _ | .ptr none | .slice none => trivial
  | .stringMap entries | .map entries =>
    ⟨nodup_keys_assignPrepared (m := []) List.nodup_nil entries,
      entriesPrepared_assignPrepared (m := []) trivial (prepared_prepareForLog_entries entries)⟩
  | .ptr (some elem) => prepared_prepareForLog elem
  | .struct fields =>
    ⟨nodup_keys_assignFields (m := []) List.nodup_nil fields,
      entriesPrepared_assignFields (m := []) trivial (prepared_prepareForLog_fields fields)⟩
  | .slice (some elems) | .array elems => prepared_prepareElems elems

theorem prepared_prepareForLog_entries :
    ∀ entries : Fields, ∀ e ∈ entries, Prepared (prepareForLog e.2)
  | [] => fun _ he => absurd he (List.not_mem_nil _)
  | (_, v) :: entries => fun e he => by
    rcases List.mem_cons.1 he with rfl | he
    · exact prepared_prepareForLog v
    · exact prepared_prepareForLog_entries entries e he

theorem prepared_prepareForLog_fields :
    ∀ fields : List (String × Bool × Value), ∀ f ∈ fields, Prepared (prepareForLog f.2.2)
  | [] => fun _ hf => absurd hf (List.not_mem_nil _)
  | (_, _, v) :: fields => fun f hf => by
    rcases List.mem_cons.1 hf with rfl | hf
    · exact prepared_prepareForLog v
    · exact prepared_prepareForLog_fields fields f hf

theorem prepared_prepareElems : ∀ elems : List Value, ElemsPrepared (prepareElems elems)
  | [] => trivial
  | v :: elems => ⟨prepared_prepareForLog v, prepared_prepareElems elems⟩

end

mutual

theorem prepareForLog_of_prepared : ∀ v : Value, Prepared v → prepareForLog v = v
  | .nil, _ | .time _, _ | .string _, _ | .scalar _, _ => rfl
  | .stringMap entries, ⟨hnodup, hentries⟩ => by
    rw [prepareForLog, assignPrepared_of_prepared entries [] hentries hnodup, List.nil_append]
  | .slice (some elems), helems => by
    rw [prepareForLog, prepareElems_of_prepared elems helems]
  | .error _, h | .map _, h | .ptr _, h | .struct _, h | .slice none, h | .array _, h => h.elim

/-- Copying entries that are prepared and have distinct keys, none of them already in the new
map, appends them to it. -/
theorem assignPrepared_of_prepared : ∀ entries m : Fields, EntriesPrepared entries →
    ((m ++ entries).map Prod.fst).Nodup → assignPrepared m entries = m ++ entries
  | [], m, _, _ => (List.append_nil m).symm
  | (k, v) :: entries, m, ⟨hv, hentries⟩, hnodup => by
    rw [List.map_append, List.map_cons] at hnodup
    have hk : k ∉ m.map Prod.fst := fun hk => List.disjoint_of_nodup_append hnodup hk
      (List.mem_cons_self _ _)
    have hnodup' : ((m ++ [(k, v)] ++ entries).map Prod.fst).Nodup := by
      simpa only [List.map_append, List.map_cons, List.map_nil, List.append_assoc,
        List.singleton_append] using hnodup
    rw [assignPrepared, prepareForLog_of_prepared v hv, assign_of_not_mem hk,
      assignPrepared_of_prepared entries _ hentries hnodup', List.append_assoc, List.singleton_append]

theorem prepareElems_of_prepared : ∀ elems : List Value, ElemsPrepared elems → prepareElems elems = elems
  | [], _ => rfl
  | v :: elems, ⟨hv, helems⟩ => by
    rw [prepareElems, prepareForLog_of_prepared v hv, prepareElems_of_prepared elems helems]

end

example : prepareForLog (.ptr (some (.struct [("Err", true, .error "boom"), ("secret", false, .scalar "1")]))) =
    .stringMap [("Err", .string "boom")] := rfl

/-! ## Merging maps -/

/-- A map as `mergeMapStringInterface` leaves it: distinct keys, prepared values. -/
def MergedMap (m : Fields) : Prop := (m.map Prod.fst).Nodup ∧ EntriesPrepared m

theorem mergedMap_mergeMapStringInterface (receiver input : Fields) :
    MergedMap (mergeMapStringInterface receiver input) :=
  ⟨nodup_keys_assignPrepared (nodup_keys_assignPrepared (m := []) List.nodup_nil _) _,
    entriesPrepared_assignPrepared (entriesPrepared_assignPrepared (m := []) trivial
      (prepared_prepareForLog_entries _)) (prepared_prepareForLog_entries _)⟩

/-- Merging nothing into a merged map gives it back. -/
theorem mergeMapStringInterface_nil_of_mergedMap {m : Fields} (hm : MergedMap m) :
    mergeMapStringInterface m [] = m := by
  rw [mergeMapStringInterface, assignPrepared_of_prepared m [] hm.2 hm.1, List.nil_append]
  rfl

theorem mergeMapStringInterface_mergeMapStringInterface (receiver input input' : Fields) :
    mergeMapStringInterface (mergeMapStringInterface receiver input) input' =
      mergeMapStringInterface receiver (input ++ input') := by
  have hm := mergedMap_mergeMapStringInterface receiver input
  show assignPrepared (assignPrepared [] (mergeMapStringInterface receiver input)) input' = _
  rw [assignPrepared_of_prepared _ [] hm.2 hm.1, List.nil_append, mergeMapStringInterface,
    mergeMapStringInterface, assignPrepared_append]

/-- Merging inputs one after another into a merged map is merging them all at once. -/
theorem foldl_mergeMapStringInterface {m : Fields} (hm : MergedMap m) (inputs : List Fields) :
    inputs.foldl mergeMapStringInterface m = mergeMapStringInterface m inputs.flatten := by
  induction inputs generalizing m with
  | nil => exact (mergeMapStringInterface_nil_of_mergedMap hm).symm
  | cons input inputs ih =>
    rw [List.foldl_cons, ih (mergedMap_mergeMapStringInterface m input),
      mergeMapStringInterface_mergeMapStringInterface, List.flatten_cons]

end Gosoline.Mon
