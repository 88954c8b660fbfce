import Mathlib.Data.List.Basic
import Mathlib.Data.String.Basic

/-!
# Texts joined at separators

The keys of this development are texts joined at separator characters: a day and a currency
code at `-`, a metric name and its dimensions at `:` and `-`. A key can be read back into its
parts when a separator cannot stand where it would be misread. These lemmas say so at the level
of the characters, `String.data`.
-/

namespace Gosoline

/-- A separator that occurs in neither prefix splits two joined lists the same way. -/
theorem append_cons_inj_of_not_mem {sep : Char} {l l' m m' : List Char} (hl : sep ∉ l)
    (hl' : sep ∉ l') (h : l ++ sep :: m = l' ++ sep :: m') : l = l' ∧ m = m' := by
  induction l generalizing l' with
  | nil =>
    cases l' with
    | nil => simpa using h
    | cons y l' =>
      simp only [List.nil_append, List.cons_append, List.cons.injEq] at h
      exact absurd (h.1 ▸ List.mem_cons_self _ _) hl'
  | cons x l ih =>
    cases l' with
    | nil =>
      simp only [List.nil_append, List.cons_append, List.cons.injEq] at h
      exact absurd (h.1 ▸ List.mem_cons_self _ _) hl
    | cons y l' =>
      simp only [List.cons_append, List.cons.injEq] at h
      obtain ⟨rfl, h⟩ := h
      have := ih (fun hm => hl (List.mem_cons_of_mem _ hm)) (fun hm => hl' (List.mem_cons_of_mem _ hm)) h
      exact ⟨congrArg _ this.1, this.2⟩

/-- Joining after a prefix of the first part is joining with the prefix in front. -/
theorem intercalate_append_cons {α : Type} (sep x y : List α) (ls : List (List α)) :
    sep.intercalate ((x ++ y) :: ls) = x ++ sep.intercalate (y :: ls) := by
  cases ls with
  | nil => simp [List.intercalate]
  | cons l ls => simp [List.intercalate, List.intersperse_cons_cons]

/-- `strings.Join` at the level of characters. -/
theorem data_intercalate (sep : String) (strs : List String) :
    (String.intercalate sep strs).data = sep.data.intercalate (strs.map String.data) := by
  cases strs with
  | nil => rfl
  | cons s strs =>
    induction strs generalizing s with
    | nil => simp [String.intercalate, String.intercalate.go, List.intercalate]
    | cons t strs ih =>
      have hgo : String.intercalate sep (s :: t :: strs) = String.intercalate sep ((s ++ sep ++ t) :: strs) :=
        rfl
      rw [hgo, ih, List.map_cons, List.map_cons, String.data_append, String.data_append,
        List.append_assoc, intercalate_append_cons, intercalate_append_cons]
      simp [List.intercalate, List.intersperse_cons_cons]

/-- Parts that are never empty and never hold the separator are read back from their join. -/
theorem intercalate_inj {sep : Char} {ls ls' : List (List Char)} (hls : ∀ l ∈ ls, l ≠ [] ∧ sep ∉ l)
    (hls' : ∀ l ∈ ls', l ≠ [] ∧ sep ∉ l) (h : [sep].intercalate ls = [sep].intercalate ls') :
    ls = ls' := by
  have hsplit := congrArg (List.splitOn sep) h
  cases ls with
  | nil =>
    cases ls' with
    | nil => rfl
    | cons l' ls' =>
      change List.splitOn sep [] = _ at hsplit
      rw [List.splitOn_nil, List.splitOn_intercalate _ _ (fun l hl => (hls' l hl).2)
        (List.cons_ne_nil _ _)] at hsplit
      exact absurd (List.cons.inj hsplit).1.symm (hls' l' (List.mem_cons_self _ _)).1
  | cons l ls =>
    rw [List.splitOn_intercalate _ _ (fun l hl => (hls l hl).2) (List.cons_ne_nil _ _)] at hsplit
    cases ls' with
    | nil =>
      change _ = List.splitOn sep [] at hsplit
      rw [List.splitOn_nil] at hsplit
      exact absurd (List.cons.inj hsplit).1 (hls l (List.mem_cons_self _ _)).1
    | cons l' ls' =>
      rwa [List.splitOn_intercalate _ _ (fun l hl => (hls' l hl).2) (List.cons_ne_nil _ _)] at hsplit

end Gosoline
