import Gosoline.Stream.ProducerDaemon

/-!
# The registry of producer daemons

`ProvideProducerDaemon` hands out one daemon per name from the package-level map
`producerDaemons`, and `ResetProducerDaemons` empties it; both hold `producerDaemonLock` for
their whole body, so any interleaving of calls is a sequence of them in lock order.

A Go map holds a key apart from its value: `producerDaemons[name], err = NewProducerDaemon(...)`
stores the pointer even when `err` is set, and that pointer is then `nil`. The key stays, so every
later call for the name takes the first branch and returns the stored `nil` with a `nil` error.
What does hold in every run is that, between two resets, every call for a name after the first
returns the first call's pointer, with a `nil` error.
-/

namespace Gosoline.Stream

variable {P : Type}

/-- `map[string]*ProducerDaemon`, the daemons being of type `P`: `none` is an absent key,
`some none` a key holding `nil`. -/
def ProducerDaemons (P : Type) := String → Option (Option P)

namespace ProducerDaemons

/-- `map[string]*ProducerDaemon{}`. -/
def empty : ProducerDaemons P := fun _ => none

/-- The index expression `producerDaemons[name]`: the zero value `nil` for an absent key. -/
def get (m : ProducerDaemons P) (name : String) : Option P := (m name).getD none

/-- The assignment `producerDaemons[name] = d`. -/
def set (m : ProducerDaemons P) (name : String) (d : Option P) : ProducerDaemons P :=
  Function.update m name (some d)

@[simp] theorem empty_apply (k : String) : (empty : ProducerDaemons P) k = none := rfl

@[simp] theorem set_apply_self (m : ProducerDaemons P) (name : String) (d : Option P) :
    m.set name d name = some d := Function.update_same _ _ _

theorem set_apply_of_ne (m : ProducerDaemons P) {name k : String} (d : Option P) (hk : k ≠ name) :
    m.set name d k = m k := Function.update_noteq hk _ _

theorem get_of_apply {m : ProducerDaemons P} {name : String} {d : Option P}
    (hd : m name = some d) : m.get name = d := by
  simp [get, hd]

@[simp] theorem get_set_self (m : ProducerDaemons P) (name : String) (d : Option P) :
    (m.set name d).get name = d :=
  get_of_apply (set_apply_self m name d)

end ProducerDaemons

open ProducerDaemons

/-- `NewProducerDaemon`. `output` is what `NewConfigurableOutput` returned for the name's
settings and `fresh` the daemon the function allocates; the result is Go's pair of a pointer and
an error, `none` standing for `nil`. -/
def newProducerDaemon (name : String) (output : Except String Unit) (fresh : P) :
    Option P × Option String :=
  match output with
  | .error err => (none, some ("can not create output for producer daemon " ++ name ++ ": " ++ err))
  | .ok () => (some fresh, none)

/-- `ProvideProducerDaemon`: the pair it returns and the map it leaves. The stored pointer and
the error come from one tuple assignment, so the key is written whether or not `err` is set. -/
def provideProducerDaemon (m : ProducerDaemons P) (name : String) (output : Except String Unit)
    (fresh : P) : (Option P × Option String) × ProducerDaemons P :=
  match m name with
  | some _ => ((m.get name, none), m)
  | none =>
    let (d, err) := newProducerDaemon name output fresh
    let m := m.set name d
    match err with
    | some err => ((none, some err), m)
    | none => ((m.get name, none), m)

/-- `ResetProducerDaemons`. -/
def resetProducerDaemons : ProducerDaemons P := empty

/-- A call made under `producerDaemonLock`: `ProvideProducerDaemon` for a name, with what its
construction would meet, or `ResetProducerDaemons`. -/
inductive RegistryCall (P : Type) where
  | provide (name : String) (output : Except String Unit) (fresh : P)
  | reset

/-- Calls in lock order from the map `m`: what each `ProvideProducerDaemon` call returned, oldest
first, and the map they leave. -/
def runRegistry (m : ProducerDaemons P) : List (RegistryCall P) →
    List (Option P × Option String) × ProducerDaemons P
  | [] => ([], m)
  | .provide name output fresh :: calls =>
    let (r, m) := provideProducerDaemon m name output fresh
    let (rs, m) := runRegistry m calls
    (r :: rs, m)
  | .reset :: calls => runRegistry resetProducerDaemons calls

/-! ## What one call does -/

/-- A call for a name already in the map returns its entry with a `nil` error and changes
nothing. -/
theorem provideProducerDaemon_of_present {m : ProducerDaemons P} {name : String} {d : Option P}
    (hd : m name = some d) (output : Except String Unit) (fresh : P) :
    provideProducerDaemon m name output fresh = ((d, none), m) := by
  simp [provideProducerDaemon, hd, get_of_apply hd]

/-- A call for an absent name stores whatever pointer the construction returned, `nil` on a
failure, and returns the construction's pair. -/
theorem provideProducerDaemon_of_absent {m : ProducerDaemons P} {name : String}
    (hm : m name = none) (output : Except String Unit) (fresh : P) :
    provideProducerDaemon m name output fresh =
      (newProducerDaemon name output fresh, m.set name (newProducerDaemon name output fresh).1) := by
  cases output <;> simp [provideProducerDaemon, newProducerDaemon, hm]

/-- A construction that fails still stores `nil` under the name, so the next call for it, whose
construction would succeed, returns `nil` with a `nil` error. -/
theorem provide_after_failed_construction_returns_nil_nil :
    (runRegistry (P := ℕ) empty [.provide "p" (.error "no output") 1]).2 "p" = some none ∧
    (runRegistry (P := ℕ) empty [.provide "p" (.error "no output") 1, .provide "p" (.ok ()) 2]).1 =
      [(none, some "can not create output for producer daemon p: no output"), (none, none)] := by
  decide

/-- After a call the name is present and holds the pointer the call returned. -/
theorem provideProducerDaemon_apply_self (m : ProducerDaemons P) (name : String)
    (output : Except String Unit) (fresh : P) :
    (provideProducerDaemon m name output fresh).2 name =
      some (provideProducerDaemon m name output fresh).1.1 := by
  cases hm : m name with
  | some d => simp [provideProducerDaemon_of_present hm, hm]
  | none => simp [provideProducerDaemon_of_absent hm]

/-- A call never changes or removes an entry that is already there. -/
theorem provideProducerDaemon_keeps {m : ProducerDaemons P} {k : String} {d : Option P}
    (hk : m k = some d) (name : String) (output : Except String Unit) (fresh : P) :
    (provideProducerDaemon m name output fresh).2 k = some d := by
  cases hm : m name with
  | some _ =>
    rw [provideProducerDaemon_of_present hm]
    exact hk
  | none =>
    have hne : k ≠ name := fun h => by simp [h, hm] at hk
    rw [provideProducerDaemon_of_absent hm]
    exact (set_apply_of_ne _ _ hne).trans hk

/-- Calls with no reset among them keep every entry already there. -/
theorem runRegistry_keeps {m : ProducerDaemons P} {k : String} {d : Option P} (hk : m k = some d)
    {calls : List (RegistryCall P)} (hcalls : RegistryCall.reset ∉ calls) :
    (runRegistry m calls).2 k = some d := by
  induction calls generalizing m with
  | nil => exact hk
  | cons c calls ih =>
    cases c with
    | provide name output fresh =>
      exact ih (provideProducerDaemon_keeps hk name output fresh) (fun h => hcalls (.tail _ h))
    | reset => exact absurd (.head _) hcalls

/-! ## Runs of calls -/

/-- Between two resets, every call for a name after the first returns the first call's pointer
with a `nil` error, whatever other calls came in between: the daemon it constructed, or `nil` if
that construction failed. -/
theorem provide_repeats_first_result (m : ProducerDaemons P) (name : String)
    (output output' : Except String Unit) (fresh fresh' : P) {calls : List (RegistryCall P)}
    (hcalls : RegistryCall.reset ∉ calls) :
    (provideProducerDaemon (runRegistry (provideProducerDaemon m name output fresh).2 calls).2
        name output' fresh').1 =
      ((provideProducerDaemon m name output fresh).1.1, none) := by
  have hkept := runRegistry_keeps (provideProducerDaemon_apply_self m name output fresh) hcalls
  rw [provideProducerDaemon_of_present hkept]

theorem provide_repeats_first_result_after_failure :
    RegistryCall.reset ∉ [RegistryCall.provide "q" (.ok ()) 3] ∧
    (provideProducerDaemon (runRegistry (provideProducerDaemon empty "p" (.error "no output") 1).2
        [.provide "q" (.ok ()) 3]).2 "p" (.ok ()) 2).1 = (none, none) :=
  ⟨by simp, provide_repeats_first_result empty "p" (.error "no output") (.ok ()) 1 2 (by simp)⟩

/-- Every entry of the map is a daemon, not `nil`. -/
def NoNilEntries (m : ProducerDaemons P) : Prop := ∀ k d, m k = some d → d.isSome

theorem noNilEntries_empty : NoNilEntries (empty : ProducerDaemons P) := fun _ _ h => by simp at h

/-- A call whose construction would succeed keeps the map free of `nil` and returns a daemon with
a `nil` error. -/
theorem provideProducerDaemon_of_ok {m : ProducerDaemons P} (hm : NoNilEntries m) (name : String)
    (fresh : P) :
    NoNilEntries (provideProducerDaemon m name (.ok ()) fresh).2 ∧
      ((provideProducerDaemon m name (.ok ()) fresh).1.1.isSome ∧
        (provideProducerDaemon m name (.ok ()) fresh).1.2 = none) := by
  cases hn : m name with
  | some d =>
    rw [provideProducerDaemon_of_present hn]
    exact ⟨hm, hm name d hn, rfl⟩
  | none =>
    rw [provideProducerDaemon_of_absent hn]
    refine ⟨fun k d hk => ?_, rfl, rfl⟩
    by_cases hkn : k = name
    · subst hkn
      simp only [set_apply_self, newProducerDaemon, Option.some.injEq] at hk
      simp [← hk]
    · exact hm k d ((set_apply_of_ne _ _ hkn).symm.trans hk)

/-- If no construction fails, every call of a run from a map without `nil` entries returns a
daemon with a `nil` error. -/
theorem runRegistry_of_ok {m : ProducerDaemons P} (hm : NoNilEntries m) {calls : List (RegistryCall P)}
    (hok : ∀ name output fresh, RegistryCall.provide name output fresh ∈ calls → output = .ok ()) :
    ∀ r ∈ (runRegistry m calls).1, r.1.isSome ∧ r.2 = none := by
  induction calls generalizing m with
  | nil => simp [runRegistry]
  | cons c calls ih =>
    have hok' := fun name output fresh (h : RegistryCall.provide name output fresh ∈ calls) =>
      hok name output fresh (.tail _ h)
    cases c with
    | provide name output fresh =>
      obtain rfl := hok name output fresh (.head _)
      obtain ⟨hm', hr⟩ := provideProducerDaemon_of_ok hm name fresh
      simp only [runRegistry, List.mem_cons, forall_eq_or_imp]
      exact ⟨hr, ih hm' hok'⟩
    | reset => exact ih noNilEntries_empty hok'

/-- In every run in which no construction fails, every `ProvideProducerDaemon` call, for any
names and across any resets, returns a daemon with a `nil` error. -/
theorem provide_returns_daemon_without_failures {calls : List (RegistryCall P)}
    (hok : ∀ name output fresh, RegistryCall.provide name output fresh ∈ calls → output = .ok ()) :
    ∀ r ∈ (runRegistry empty calls).1, r.1.isSome ∧ r.2 = none :=
  runRegistry_of_ok noNilEntries_empty hok

theorem provide_returns_daemon_without_failures_across_reset :
    (∀ name output fresh, RegistryCall.provide name output fresh ∈
        [.provide "p" (.ok ()) 1, .reset, .provide "p" (.ok ()) 2] → output = .ok ()) ∧
    ∀ r ∈ (runRegistry empty [.provide "p" (.ok ()) 1, .reset, .provide "p" (.ok ()) 2]).1,
      r.1.isSome ∧ r.2 = none :=
  have hok : ∀ name output fresh, RegistryCall.provide name output fresh ∈
      [.provide "p" (.ok ()) 1, .reset, .provide "p" (.ok ()) 2] → output = .ok () := by
    simp only [List.mem_cons, List.not_mem_nil]
    rintro _ _ _ (h | h | h | h) <;> cases h <;> rfl
  ⟨hok, provide_returns_daemon_without_failures hok⟩

end Gosoline.Stream
