import Gosoline.Mon.Metric

/-!
# Messages, aggregates and the output channel

The producer daemon buffers `WritableMessage`s, folds runs of them into one aggregate message
through an injected `AggregateMarshaller`, and hands ready batches to an `OutputChannel` that
its output loops drain.
-/

namespace Gosoline.Stream

/-- The `interface{}` values of an attribute map. -/
inductive AttributeValue where
  | bool (b : Bool)
  | string (s : String)
  deriving DecidableEq, Repr

/-- An attribute map, `map[string]interface{}`, by its entries. -/
abbrev Attributes := List (String × AttributeValue)

/-- `AttributeAggregate`. -/
def attributeAggregate : String := "goso.aggregate"

/-- `WritableMessage`, as the daemon moves it: a producer's message, or the message the
marshaller built from an aggregate, which remembers the messages it was built from. -/
inductive WritableMessage (Msg : Type) where
  | raw (msg : Msg)
  | aggregate (body : List Msg) (msg : Msg)
  deriving DecidableEq, Repr

/-- The producers' messages a carrier stands for. -/
def WritableMessage.unfold {Msg : Type} : WritableMessage Msg → List Msg
  | raw msg => [msg]
  | aggregate body _ => body

@[simp] theorem WritableMessage.unfold_raw {Msg : Type} (msg : Msg) :
    (WritableMessage.raw msg).unfold = [msg] := rfl

@[simp] theorem WritableMessage.unfold_aggregate {Msg : Type} (body : List Msg) (msg : Msg) :
    (WritableMessage.aggregate body msg).unfold = body := rfl

@[simp] theorem WritableMessage.flatMap_unfold_map_raw {Msg : Type} (msgs : List Msg) :
    (msgs.map WritableMessage.raw).flatMap WritableMessage.unfold = msgs := by
  induction msgs <;> simp_all

/-- `AggregateMarshaller`: builds one message from a body and attribute maps, or fails. -/
abbrev AggregateMarshaller (Msg : Type) := List Msg → List Attributes → Except String Msg

/-- `BuildAggregateMessage`: the marshaller receives the given attribute maps followed by
`{goso.aggregate: true}`. -/
def buildAggregateMessage {Msg : Type} (marshaller : AggregateMarshaller Msg) (aggregate : List Msg)
    (attributes : List Attributes) : Except String (WritableMessage Msg) :=
  (marshaller aggregate (attributes ++ [[(attributeAggregate, .bool true)]])).map
    (WritableMessage.aggregate aggregate)

/-- Modelled from the spec: `OutputChannel`, "a fixed-capacity, closable queue of ready
batches ... Once closed, no further pushes occur; pending items already queued are still
delivered to workers before the queue reports drained". `pushed` lists every batch written to
it, oldest first, and the output loops have taken the first `taken` of them. Capacity only
decides how long a push waits, so it is not part of the state. -/
structure OutputChannel (Msg : Type) where
  pushed : List (List (WritableMessage Msg))
  taken : ℕ
  closed : Bool
  taken_le : taken ≤ pushed.length

namespace OutputChannel

variable {Msg : Type}

/-- `NewOutputChannel`: empty and open. -/
def new : OutputChannel Msg := ⟨[], 0, false, le_rfl⟩

/-- `Write`: queue a batch; a closed channel drops it. -/
def write (c : OutputChannel Msg) (batch : List (WritableMessage Msg)) : OutputChannel Msg :=
  if c.closed then c
  else { c with pushed := c.pushed ++ [batch], taken_le := by simp; have := c.taken_le; omega }

/-- `Read`: the oldest batch not yet taken, or `none` when every pushed batch has been taken
(an output loop then waits, or stops once the channel is closed). -/
def read (c : OutputChannel Msg) : Option (List (WritableMessage Msg) × OutputChannel Msg) :=
  if h : c.taken < c.pushed.length then some (c.pushed[c.taken], { c with taken := c.taken + 1, taken_le := h })
  else none

/-- `Close`. -/
def close (c : OutputChannel Msg) : OutputChannel Msg := { c with closed := true }

@[simp] theorem write_of_closed {c : OutputChannel Msg} (h : c.closed = true) (batch) :
    c.write batch = c := by simp [write, h]

@[simp] theorem write_pushed_of_open {c : OutputChannel Msg} (h : c.closed = false) (batch) :
    (c.write batch).pushed = c.pushed ++ [batch] := by simp [write, h]

@[simp] theorem write_closed (c : OutputChannel Msg) (batch) : (c.write batch).closed = c.closed := by
  unfold write; split <;> rfl

@[simp] theorem close_pushed (c : OutputChannel Msg) : c.close.pushed = c.pushed := rfl

@[simp] theorem close_closed (c : OutputChannel Msg) : c.close.closed = true := rfl

/-- A read takes the oldest waiting batch and changes nothing else. -/
theorem read_eq_some {c c' : OutputChannel Msg} {batch} (h : c.read = some (batch, c')) :
    c'.pushed = c.pushed ∧ c'.closed = c.closed ∧ c'.taken = c.taken + 1 ∧ batch ∈ c.pushed := by
  unfold read at h
  split at h
  · cases h
    exact ⟨rfl, rfl, rfl, List.getElem_mem _⟩
  · cases h

end OutputChannel

end Gosoline.Stream
