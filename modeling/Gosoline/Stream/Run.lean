import Gosoline.Stream.ProducerDaemon

/-!
# Runs of the producer daemon

`Write`, each tick of `tickerLoop` and `close` hold `lck` for their whole body, and only these
bodies touch the two buffers or push onto the output channel; the output loops only read the
channel. Whatever the number of callers and however their calls interleave, an execution is
therefore a sequence of these critical sections, in the order their callers acquired `lck`,
with reads of the output loops between them. A `Run` is such a sequence, so a theorem about
every `Run` holds of every interleaving.
-/

namespace Gosoline.Stream

/-- What one step of a run shows: a `Write` of `batch` by some caller, a tick of the ticker
loop, an output loop reading a batch, or the final `close`. -/
inductive Event (Msg : Type) where
  | write (batch : List Msg)
  | tick
  | read
  | close
  deriving DecidableEq

variable {Msg : Type}

open ProducerDaemon

/-- One step. The marshaller is chosen afresh at each critical section. `close` is run once,
by `Run` on shutdown, and the ticker may fire between any two critical sections (a reset only
postpones it). -/
inductive Step : ProducerDaemon Msg → Event Msg → ProducerDaemon Msg → Prop
  | write {d : ProducerDaemon Msg} (marshaller : AggregateMarshaller Msg) (batch : List Msg) :
      Step d (.write batch) (d.write marshaller batch).2
  | tick {d : ProducerDaemon Msg} (marshaller : AggregateMarshaller Msg) :
      Step d .tick (d.flushAll marshaller).2
  | read {d d' : ProducerDaemon Msg} (idleDuration : ℕ) (h : d.outputLoopStep idleDuration = some d') :
      Step d .read d'
  | close {d : ProducerDaemon Msg} (marshaller : AggregateMarshaller Msg) (h : d.outCh.closed = false) :
      Step d .close (d.close marshaller).2

/-- A run from `d` to `d'` and its events, oldest first. -/
inductive Run : ProducerDaemon Msg → List (Event Msg) → ProducerDaemon Msg → Prop
  | nil (d : ProducerDaemon Msg) : Run d [] d
  | snoc {d d' d'' : ProducerDaemon Msg} {evs : List (Event Msg)} {ev : Event Msg} :
      Run d evs d' → Step d' ev d'' → Run d (evs ++ [ev]) d''

/-- The messages of the run's `Write` calls, in the order they acquired `lck`. -/
def written : List (Event Msg) → List Msg
  | [] => []
  | .write batch :: evs => batch ++ written evs
  | _ :: evs => written evs

@[simp] theorem written_nil : written ([] : List (Event Msg)) = [] := rfl

@[simp] theorem written_append (evs evs' : List (Event Msg)) :
    written (evs ++ evs') = written evs ++ written evs' := by
  induction evs with
  | nil => rfl
  | cons ev evs ih => cases ev <;> simp [written, ih]

@[simp] theorem written_singleton (ev : Event Msg) :
    written [ev] = match ev with | .write batch => batch | _ => [] := by
  cases ev <;> simp [written]

/-- An invariant kept by every step holds after every run. -/
theorem Run.inv (I : ProducerDaemon Msg → Prop) (hstep : ∀ {d ev d'}, Step d ev d' → I d → I d')
    {d d' : ProducerDaemon Msg} {evs : List (Event Msg)} (hrun : Run d evs d') (h0 : I d) : I d' := by
  induction hrun with
  | nil => exact h0
  | snoc _ hs ih => exact hstep hs ih

/-! ## What every step keeps -/

theorem outputLoopStep_eq {d d' : ProducerDaemon Msg} {idleDuration : ℕ}
    (h : d.outputLoopStep idleDuration = some d') :
    d'.name = d.name ∧ d'.settings = d.settings ∧ d'.aggregate = d.aggregate ∧ d'.batch = d.batch ∧
      d'.marshalled = d.marshalled ∧ d'.outCh.pushed = d.outCh.pushed ∧
      d'.outCh.closed = d.outCh.closed := by
  unfold outputLoopStep at h
  cases hr : d.outCh.read with
  | none => simp [hr] at h
  | some r =>
    obtain ⟨batch, outCh⟩ := r
    simp only [hr, Option.map_some', Option.some.injEq] at h
    subst h
    obtain ⟨hp, hc, -, -⟩ := OutputChannel.read_eq_some hr
    simp [hp, hc]

/-- No step renames the daemon or changes its settings. -/
theorem Step.settings_eq {d d' : ProducerDaemon Msg} {ev : Event Msg} (h : Step d ev d') :
    d'.settings = d.settings ∧ d'.name = d.name := by
  cases h with
  | write m batch =>
    rcases write_cases d m batch with ⟨-, h⟩ | ⟨-, -, h⟩ | ⟨-, -, _, h⟩ | ⟨-, -, _, h⟩ <;> simp [h]
  | tick m => rcases flushAll_cases d m with ⟨-, h⟩ | ⟨-, _, h⟩ | ⟨-, _, h⟩ <;> simp [h]
  | read _ h => exact ⟨(outputLoopStep_eq h).2.1, (outputLoopStep_eq h).1⟩
  | close m _ =>
    rw [close_snd]
    rcases flushAll_cases d m with ⟨-, h⟩ | ⟨-, _, h⟩ | ⟨-, _, h⟩ <;> simp [h]

/-- A closed output channel stays closed. -/
theorem Step.closed {d d' : ProducerDaemon Msg} {ev : Event Msg} (h : Step d ev d')
    (hc : d.outCh.closed = true) : d'.outCh.closed = true := by
  cases h with
  | write m batch =>
    rcases write_cases d m batch with ⟨-, h⟩ | ⟨-, -, h⟩ | ⟨-, -, _, h⟩ | ⟨-, -, _, h⟩ <;> simp [h, hc]
  | tick m => rcases flushAll_cases d m with ⟨-, h⟩ | ⟨-, _, h⟩ | ⟨-, _, h⟩ <;> simp [h, hc]
  | read _ h => rw [(outputLoopStep_eq h).2.2.2.2.2.2, hc]
  | close m _ => simp [close_snd]

/-- Only `close` closes the output channel. -/
theorem Step.open {d d' : ProducerDaemon Msg} {ev : Event Msg} (h : Step d ev d')
    (hev : ev ≠ .close) (hc : d.outCh.closed = false) : d'.outCh.closed = false := by
  cases h with
  | write m batch =>
    rcases write_cases d m batch with ⟨-, h⟩ | ⟨-, -, h⟩ | ⟨-, -, _, h⟩ | ⟨-, -, _, h⟩ <;> simp [h, hc]
  | tick m => rcases flushAll_cases d m with ⟨-, h⟩ | ⟨-, _, h⟩ | ⟨-, _, h⟩ <;> simp [h, hc]
  | read _ h => rw [(outputLoopStep_eq h).2.2.2.2.2.2, hc]
  | close => exact absurd rfl hev

/-- A run keeps the settings. -/
theorem Run.settings {d d' : ProducerDaemon Msg} {evs : List (Event Msg)} (hrun : Run d evs d') :
    d'.settings = d.settings :=
  hrun.inv (fun d' => d'.settings = d.settings) (fun hs h => (hs.settings_eq.1).trans h) rfl

/-- A run keeps the name. -/
theorem Run.name {d d' : ProducerDaemon Msg} {evs : List (Event Msg)} (hrun : Run d evs d') :
    d'.name = d.name :=
  hrun.inv (fun d' => d'.name = d.name) (fun hs h => (hs.settings_eq.2).trans h) rfl

end Gosoline.Stream
