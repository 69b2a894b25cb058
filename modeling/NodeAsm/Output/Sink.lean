import NodeAsm.Fault

/-!
# Sinks

A sink takes the bytes of the output. It may have room for a limited number of
bytes; a write that exceeds the room stores what still fits and fails, and so
does every later write.
-/

namespace NodeAsm

/-- Where output goes. -/
structure Sink where
  /-- The number of bytes that still fit, if that is limited. -/
  room : Option Nat
  /-- What was written, the latest first. -/
  written : List Text
  deriving DecidableEq, Repr

namespace Sink

/-- The empty sink without a limit. -/
def unlimited : Sink :=
  ⟨none, []⟩

/-- The empty sink with room for `n` bytes. -/
def limited (n : Nat) : Sink :=
  ⟨some n, []⟩

/-- The bytes stored. -/
def stored (s : Sink) : Text :=
  s.written.reverse.flatten

/-- The fault of a write that exceeds the room. -/
def full : Fault :=
  .plain "disk full"

/-- Writes a text, and says whether all of it fitted. -/
def write (s : Sink) (t : Text) : Sink × Option Fault :=
  match s.room with
  | none => (⟨none, t :: s.written⟩, none)
  | some n =>
      if t.length ≤ n then (⟨some (n - t.length), t :: s.written⟩, none)
      else (⟨some 0, t.take n :: s.written⟩, some full)

/-- What is stored of a text is as much of it as the room allows. -/
theorem stored_write (s : Sink) (t : Text) :
    (s.write t).1.stored = s.stored ++ s.room.elim t t.take := by
  unfold write
  split
  next unbounded => simp [stored, unbounded]
  next n bounded =>
      split
      next fits => simp [stored, bounded, List.take_of_length_le fits]
      next => simp [stored, bounded]

/-- A write takes up room, and all of it if it fails. -/
theorem room_write (s : Sink) (t : Text) : (s.write t).1.room = s.room.map (· - t.length) := by
  unfold write
  split
  next unbounded => rw [unbounded, Option.map_none]
  next n bounded =>
      rw [bounded, Option.map_some]
      split
      next => rfl
      next exceeds => rw [Nat.sub_eq_zero_of_le (Nat.le_of_not_le exceeds)]

/-- A write fails exactly if the text exceeds the room. -/
theorem write_eq_none_iff (s : Sink) (t : Text) :
    (s.write t).2 = none ↔ ∀ n, s.room = some n → t.length ≤ n := by
  unfold write
  split
  next unbounded => simp [unbounded]
  next n bounded => split <;> simp_all

end Sink

end NodeAsm
