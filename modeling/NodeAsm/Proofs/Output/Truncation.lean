import NodeAsm.Output.Format

/-!
# Output cut off by a limit

A sink with a limit stores the front of all that was written to it. A buffer in front
of the sink changes when bytes arrive but neither which nor in what order, and keeps
the news of a failure until it is flushed. So both emitters that write the blocks of
programs one after the other, with and without a buffer, leave the front of all blocks
in the sink and tell of every byte that is missing.
-/

namespace NodeAsm

/-! ## Limits -/

/-- A text that does not exceed a limit, if there is one. -/
def Fits (limit : Option Nat) (t : Text) : Prop :=
  ∀ n, limit = some n → t.length ≤ n

/-- As much of a text as a limit allows. -/
def cutTo (limit : Option Nat) (t : Text) : Text :=
  limit.elim t t.take

theorem fits_none (t : Text) : Fits none t := by
  intro n unlimited
  contradiction

theorem fits_some_iff (n : Nat) (t : Text) : Fits (some n) t ↔ t.length ≤ n := by
  simp [Fits]

theorem fits_nil (limit : Option Nat) : Fits limit [] := by
  intro n _
  exact Nat.zero_le n

/-- A limit that a text exceeds is exceeded by whatever continues it. -/
theorem Fits.of_isPrefix {limit : Option Nat} {front t : Text} (fits : Fits limit t)
    (first : front <+: t) : Fits limit front := by
  intro n limited
  exact Nat.le_trans first.length_le (fits n limited)

/-- Nothing behind the limit is stored. -/
theorem cutTo_of_not_fits {limit : Option Nat} {front t : Text} (exceeds : ¬ Fits limit front)
    (first : front <+: t) : cutTo limit front = cutTo limit t := by
  cases limit with
  | none => exact absurd (fits_none front) exceeds
  | some n =>
      rw [fits_some_iff] at exceeds
      rcases first with ⟨rest, rfl⟩
      exact (List.take_append_of_le_length (Nat.le_of_not_le exceeds)).symm

/-! ## Sinks -/

namespace Sink

/-- A sink with a limit that text `t` was written to. -/
structure Took (limit : Option Nat) (t : Text) (s : Sink) : Prop where
  stored : s.stored = cutTo limit t
  room : s.room = limit.map (· - t.length)

theorem took_nil (limit : Option Nat) : Took limit [] ⟨limit, []⟩ := by
  cases limit <;> exact ⟨by simp [Sink.stored, cutTo], rfl⟩

variable {limit : Option Nat} {t : Text} {s : Sink}

/-- A write to a sink that has not failed fails exactly if the limit is exceeded. -/
theorem Took.write_eq_none_iff (took : s.Took limit t) (fits : Fits limit t) (u : Text) :
    (s.write u).2 = none ↔ Fits limit (t ++ u) := by
  rw [Sink.write_eq_none_iff, took.room]
  cases limit with
  | none => simp [Fits]
  | some n =>
      have within := fits n rfl
      simp only [Option.map_some, Option.some.injEq, forall_eq', fits_some_iff, List.length_append]
      omega

theorem Took.write (took : s.Took limit t) (u : Text) : (s.write u).1.Took limit (t ++ u) := by
  constructor
  · rw [stored_write, took.stored, took.room]
    cases limit with
    | none => rfl
    | some n => exact List.take_append.symm
  · rw [room_write, took.room, Option.map_map]
    apply Option.map_congr
    intro n _
    rw [List.length_append]
    exact Nat.sub_sub n t.length u.length

end Sink

/-! ## Buffers -/

namespace Buffer

/-- Text `t` was written to a buffer before a sink with a limit. Until the sink fails,
it has taken what the buffer does not hold; from then on it has taken all that it can
take. -/
inductive Took (limit : Option Nat) (t : Text) (b : Buffer) (s : Sink) : Prop
  | sound {passed : Text} (healthy : b.fault = none) (fits : Fits limit passed)
      (took : s.Took limit passed) (parts : t = passed ++ b.held.reverse)
  | failed (broken : b.fault.isSome) (exceeds : ¬ Fits limit t) (stored : s.stored = cutTo limit t)

variable {limit : Option Nat} {t : Text} {b : Buffer} {s : Sink}

theorem took_nil (limit : Option Nat) : empty.Took limit [] ⟨limit, []⟩ :=
  .sound rfl (fits_nil limit) (Sink.took_nil limit) rfl

/-- What is handed to a sink that has not failed is taken, unless the limit is
exceeded. -/
theorem took_passOn (took : s.Took limit t) (fits : Fits limit t) (u : Text) :
    (passOn s u).2.Took limit (t ++ u) ∧
      ((passOn s u).1.fault = none ↔ Fits limit (t ++ u)) :=
  ⟨took.write u, took.write_eq_none_iff fits u⟩

theorem took_of_passOn (took : s.Took limit t) (fits : Fits limit t) (u : Text) :
    (passOn s u).1.Took limit (t ++ u) (passOn s u).2 := by
  obtain ⟨written, fault⟩ := took_passOn took fits u
  by_cases within : Fits limit (t ++ u)
  · exact .sound (fault.mpr within) within written (List.append_nil _).symm
  · have broken : (Buffer.passOn s u).1.fault.isSome :=
      Option.isSome_iff_ne_none.mpr fun healthy => within (fault.mp healthy)
    exact .failed broken within written.stored

/-- Once the sink has failed, further text changes nothing. -/
theorem Took.of_broken (took : b.Took limit t s) (broken : b.fault.isSome) {u : Text}
    (first : t <+: u) : b.Took limit u s := by
  cases took with
  | sound healthy =>
      rw [healthy] at broken
      contradiction
  | failed _ exceeds stored =>
      refine .failed broken (fun fits => exceeds (fits.of_isPrefix first)) ?_
      rw [stored]
      exact cutTo_of_not_fits exceeds first

theorem took_hold {passed : Text} (healthy : b.fault = none) (fits : Fits limit passed)
    (took : s.Took limit passed) (u : Text) (room : b.held.length + u.length ≤ capacity) :
    (b.hold u room).Took limit (passed ++ b.held.reverse ++ u) s := by
  have held : (b.hold u room).held.reverse = b.held.reverse ++ u := by simp [hold]
  refine .sound healthy fits took ?_
  rw [held, List.append_assoc]

theorem took_writeEmpty (took : s.Took limit t) (fits : Fits limit t) (u : Text) :
    (writeEmpty s u).1.Took limit (t ++ u) (writeEmpty s u).2 := by
  unfold writeEmpty
  split
  next room =>
      have held := took_hold (b := empty) rfl fits took u room
      rw [show t ++ empty.held.reverse = t from List.append_nil t] at held
      exact held
  next => exact took_of_passOn took fits u

/-- A write reaches the buffer, the sink or both, and none of its bytes is lost unless
the sink fails. -/
theorem Took.write (took : b.Took limit t s) (u : Text) :
    (b.write s u).1.Took limit (t ++ u) (b.write s u).2 := by
  unfold Buffer.write
  split
  next broken => exact took.of_broken broken (List.prefix_append t u)
  next working =>
      rcases took with ⟨healthy, fits, took, rfl⟩ | ⟨broken, _, _⟩
      · split
        next room => exact took_hold healthy fits took u room
        next =>
            split
            next none =>
                rw [List.isEmpty_iff.mp none, List.reverse_nil, List.append_nil]
                exact took_writeEmpty took fits u
            next =>
                -- The buffer is filled with the front of the text and passed on.
                have drained := took_of_passOn took fits
                  (b.held.reverse ++ u.take (capacity - b.held.length))
                rw [← List.append_assoc] at drained
                simp only
                split
                next broken =>
                    exact drained.of_broken broken
                      ((List.prefix_append_right_inj _).mpr (List.take_prefix _ u))
                next working =>
                    obtain ⟨taken, fault⟩ := took_passOn took fits
                      (b.held.reverse ++ u.take (capacity - b.held.length))
                    have within := fault.mp (Option.not_isSome_iff_eq_none.mp working)
                    have rest := took_writeEmpty taken within (u.drop (capacity - b.held.length))
                    simpa only [List.append_assoc, List.take_append_drop] using rest
      · contradiction

theorem Took.writeAll (took : b.Took limit t s) (us : List Text) :
    (b.writeAll s us).1.Took limit (t ++ us.flatten) (b.writeAll s us).2 := by
  induction us generalizing t b s with
  | nil =>
      rw [List.flatten_nil, List.append_nil]
      exact took
  | cons u us inductionHypothesis =>
      have later := inductionHypothesis (took.write u)
      rw [List.append_assoc] at later
      exact later

/-- A flush empties the buffer and tells of every byte that is missing. -/
theorem Took.flush (took : b.Took limit t s) :
    (b.flush s).2.stored = cutTo limit t ∧ ((b.flush s).1.fault = none ↔ Fits limit t) := by
  rcases took with ⟨healthy, fits, took, rfl⟩ | ⟨broken, exceeds, stored⟩
  · cases held : b.held with
    | nil =>
        have idle : b.flush s = (b, s) := by simp [Buffer.flush, held]
        rw [idle, List.reverse_nil, List.append_nil]
        exact ⟨took.stored, fun _ => fits, fun _ => healthy⟩
    | cons c rest =>
        have handed : b.flush s = passOn s b.held.reverse := by simp [Buffer.flush, healthy, held]
        obtain ⟨taken, fault⟩ := took_passOn took fits b.held.reverse
        rw [handed, ← held]
        exact ⟨taken.stored, fault⟩
  · have idle : b.flush s = (b, s) := by simp [Buffer.flush, broken]
    rw [idle]
    constructor
    · exact stored
    · constructor
      · intro healthy
        rw [healthy] at broken
        contradiction
      · intro fits
        contradiction

end Buffer

/-! ## Emitters -/

/-- An emitter that writes a block for each program. `Taken limit t o` says that text
`t` went to output `o` and that no program was refused on the way. -/
structure Pours (e : Emitter Output) (block : Program → Text)
    (Taken : Option Nat → Text → Output → Prop) : Prop where
  start : ∀ limit : Option Nat, Taken limit [] (.toSink ⟨limit, []⟩)
  accept : ∀ {limit : Option Nat} {t : Text} {o : Output} (p : Program), Taken limit t o →
    (e.emit o p).2 = none → Taken limit (t ++ block p) (e.emit o p).1
  refuse : ∀ {limit : Option Nat} {t : Text} {o : Output} (p : Program), Taken limit t o →
    (e.emit o p).2 ≠ none → ¬ Fits limit (t ++ block p) ∧
      (e.flush (e.emit o p).1).1.sink.stored = cutTo limit (t ++ block p)
  flush : ∀ {limit : Option Nat} {t : Text} {o : Output}, Taken limit t o →
    (e.flush o).1.sink.stored = cutTo limit t ∧ ((e.flush o).2 = none ↔ Fits limit t)

namespace Output

/-- Hexadecimal text is never refused. What is missing shows in the flush. -/
theorem pours_hexEmitter :
    Pours hexEmitter hexBlock fun limit t o => o.buffer.Took limit t o.sink where
  start := Buffer.took_nil
  accept p took _ := took.writeAll (hexPieces p)
  refuse _ _ refused := absurd rfl refused
  flush took := took.flush

/-- A frame that does not fit is refused at once. -/
theorem pours_progEmitter :
    Pours progEmitter frame fun limit t o => o.sink.Took limit t ∧ Fits limit t where
  start limit := ⟨Sink.took_nil limit, fits_nil limit⟩
  accept p taken accepted := by
    have fault := taken.1.write_eq_none_iff taken.2 (frame p)
    exact ⟨taken.1.write (frame p), fault.mp (Option.map_eq_none_iff.mp accepted)⟩
  refuse p taken refused := by
    have fault := taken.1.write_eq_none_iff taken.2 (frame p)
    constructor
    · intro fits
      exact refused (Option.map_eq_none_iff.mpr (fault.mpr fits))
    · exact (taken.1.write (frame p)).stored
  flush taken := ⟨taken.1.stored, fun _ => taken.2, fun _ => rfl⟩

end Output

end NodeAsm
