import NodeAsm.Output.Sink

/-!
# Buffers

A buffer gathers small writes on their way to a sink. What it holds is passed on
when a write exceeds its free space and when it is flushed. It keeps the first
fault of the sink: from then on it takes nothing more, and every flush gives that
fault.
-/

namespace NodeAsm

/-- The number of bytes that a buffer can hold. -/
def Buffer.capacity : Nat := 4096

/-- Bytes on their way to a sink. -/
structure Buffer where
  /-- The bytes held back, the latest first. -/
  held : Text
  held_le : held.length ≤ Buffer.capacity
  /-- The first fault of the sink. -/
  fault : Option Fault
  deriving Repr

namespace Buffer

/-- A buffer before the first write. -/
def empty : Buffer :=
  ⟨[], Nat.zero_le _, none⟩

/-- Holds back a text that fits. -/
def hold (b : Buffer) (t : Text) (fits : b.held.length + t.length ≤ capacity) : Buffer :=
  { b with
    held := t.reverse ++ b.held
    held_le := by
      rw [List.length_append, List.length_reverse, Nat.add_comm]
      exact fits }

/-- Hands a text to the sink and holds nothing back. -/
def passOn (s : Sink) (t : Text) : Buffer × Sink :=
  let (sink, fault) := s.write t
  (⟨[], Nat.zero_le _, fault⟩, sink)

/-- Writes a text through an empty buffer. A text that exceeds the buffer goes to
the sink at once. -/
def writeEmpty (s : Sink) (t : Text) : Buffer × Sink :=
  if fits : empty.held.length + t.length ≤ capacity then (empty.hold t fits, s) else passOn s t

/-- Writes a text. One that exceeds the free space first fills the buffer, which is
then passed on. -/
def write (b : Buffer) (s : Sink) (t : Text) : Buffer × Sink :=
  if b.fault.isSome then (b, s)
  else if fits : b.held.length + t.length ≤ capacity then (b.hold t fits, s)
  else if b.held.isEmpty then writeEmpty s t
  else
    let free := capacity - b.held.length
    let (b, s) := passOn s (b.held.reverse ++ t.take free)
    if b.fault.isSome then (b, s) else writeEmpty s (t.drop free)

/-- Writes texts one after the other. -/
def writeAll (b : Buffer) (s : Sink) (ts : List Text) : Buffer × Sink :=
  ts.foldl (fun (b, s) t => b.write s t) (b, s)

/-- Passes on what is held. -/
def flush (b : Buffer) (s : Sink) : Buffer × Sink :=
  if b.fault.isSome || b.held.isEmpty then (b, s) else passOn s b.held.reverse

end Buffer

end NodeAsm
