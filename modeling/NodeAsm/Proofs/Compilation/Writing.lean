import NodeAsm.Proofs.Assembler.Delivery
import NodeAsm.Proofs.Compilation.Protocol
import NodeAsm.Proofs.Output.Truncation

/-!
# What a compilation writes

The steps of a compilation matter to its emitter only through their programs, so the
laws of output are stated over lists of programs. In the formats without documents, an
output with limited room receives the front of what an unlimited one receives, and the
compilation tells of an output that is not whole. Where every byte is taken, the only
fault left is that of a document stream without documents.
-/

namespace NodeAsm

namespace Compilation

open Assembler

/-! ## Programs and steps -/

theorem emitAll_append {σ : Type} (e : Emitter σ) (output : σ) (ps qs : List Program) :
    emitAll e output (ps ++ qs) =
      match emitAll e output ps with
      | (output, none) => emitAll e output qs
      | (output, some f) => (output, some f) := by
  induction ps generalizing output with
  | nil => rfl
  | cons p ps inductionHypothesis =>
      rcases emitted : e.emit output p with ⟨next, fault⟩
      cases fault with
      | none => simp only [List.cons_append, emitAll, emitted, inductionHypothesis]
      | some f => simp only [List.cons_append, emitAll, emitted]

/-- Carrying out steps emits their programs up to the first that is refused. -/
theorem emitSteps_eq_emitAll {σ : Type} (e : Emitter σ) (output : σ) (steps : List Step) :
    ((emitSteps e output steps).output, (emitSteps e output steps).fault) =
      emitAll e output (programs (steps.flatMap Step.events)) := by
  induction steps generalizing output with
  | nil => rfl
  | cons step steps inductionHypothesis =>
      rw [List.flatMap_cons, programs_append, emitAll_append]
      rcases emitted : emitAll e output (programs step.events) with ⟨next, fault⟩
      cases fault with
      | none =>
          simp only [emitSteps, emitted]
          exact inductionHypothesis next
      | some f => simp only [emitSteps, emitted]

theorem output_conclude {σ : Type} (c : Compilation) (e : Emitter σ) (outcome : Outcome σ)
    (stopped : Option Fault) :
    (c.conclude e outcome stopped).output = (e.flush outcome.output).1 := by
  cases stopped <;> rfl

section Run

variable {σ : Type} (c : Compilation) (e : Emitter σ) (output : σ) (source : Source)
  (cancelAfter : Option Nat)

/-- The programs of what is read of a source. -/
def programsRead : List Program :=
  programs (c.assembler.events (callsFor source cancelAfter))

theorem emission_eq_emitAll :
    ((c.emission e output source cancelAfter).output,
        (c.emission e output source cancelAfter).fault) =
      emitAll e output (c.programsRead source cancelAfter) :=
  emitSteps_eq_emitAll e output _

theorem output_run :
    (c.run e output source cancelAfter).output =
      (e.flush (emitAll e output (c.programsRead source cancelAfter)).1).1 := by
  rw [run_eq, output_conclude, ← emission_eq_emitAll]
  rfl

theorem fault_run_eq_emitAll :
    (c.run e output source cancelAfter).fault =
      ((emitAll e output (c.programsRead source cancelAfter)).2.or
        (source.read cancelAfter).2.fault?).or
          ((e.flush (emitAll e output (c.programsRead source cancelAfter)).1).2.map
            (.noted "flush output")) := by
  rw [run_eq, fault_conclude, ← emission_eq_emitAll]
  rfl

/-- A compilation whose emitter refuses nothing returns the programs of all that was
read. -/
theorem programs_run_of_accepted
    (accepted : (emitAll e output (c.programsRead source cancelAfter)).2 = none) :
    (c.run e output source cancelAfter).programs = c.programsRead source cancelAfter := by
  rw [← emission_eq_emitAll] at accepted
  obtain ⟨taken, refused, carries⟩ := c.exists_carries_run e output source cancelAfter
  have none : refused = none := by
    rw [← Option.map_eq_none_iff, ← carries.fault]
    exact accepted
  have all : (c.emission e output source cancelAfter).steps =
      c.assembler.steps .start (callsFor source cancelAfter) := carries.all none
  rw [programs_run, performed, all, length_steps, List.take_length]
  rfl

end Run

/-! ## Limited room -/

variable {e : Emitter Output} {block : Program → Text} {Taken : Option Nat → Text → Output → Prop}

/-- Emitting programs leaves the front of their blocks, and either a program is refused
or the flush fails if that is not all. -/
theorem emitAll_of_pours (pours : Pours e block Taken) {limit : Option Nat} {t : Text} {o : Output}
    (taken : Taken limit t o) (ps : List Program) :
    (e.flush (emitAll e o ps).1).1.sink.stored = cutTo limit (t ++ ps.flatMap block) ∧
      ((emitAll e o ps).2 = none ∧ (e.flush (emitAll e o ps).1).2 = none ↔
        Fits limit (t ++ ps.flatMap block)) := by
  induction ps generalizing t o with
  | nil =>
      obtain ⟨stored, fault⟩ := pours.flush taken
      rw [List.flatMap_nil, List.append_nil]
      exact ⟨stored, fun flushed => fault.mp flushed.2, fun fits => ⟨rfl, fault.mpr fits⟩⟩
  | cons p ps inductionHypothesis =>
      have accept := pours.accept p taken
      have refuse := pours.refuse p taken
      rcases emitted : e.emit o p with ⟨next, fault⟩
      rw [emitted] at accept refuse
      rw [List.flatMap_cons, ← List.append_assoc]
      cases fault with
      | none =>
          simp only [emitAll, emitted]
          exact inductionHypothesis (accept rfl)
      | some f =>
          obtain ⟨exceeds, stored⟩ := refuse (by simp)
          have first := List.prefix_append (t ++ block p) (ps.flatMap block)
          simp only [emitAll, emitted]
          constructor
          · rw [stored]
            exact cutTo_of_not_fits exceeds first
          · constructor
            · rintro ⟨accepted, _⟩
              contradiction
            · intro fits
              exact absurd (fits.of_isPrefix first) exceeds

section Pouring

variable (c : Compilation) (source : Source) (cancelAfter : Option Nat)

/-- What a compilation leaves in its sink. -/
theorem stored_run (pours : Pours e block Taken) (limit : Option Nat) :
    (c.run e (.toSink ⟨limit, []⟩) source cancelAfter).output.sink.stored =
      cutTo limit ((c.programsRead source cancelAfter).flatMap block) := by
  rw [output_run]
  exact (emitAll_of_pours pours (pours.start limit) _).1

/-- A compilation ends well exactly if it reads the whole source and all blocks fit. -/
theorem fault_run_eq_none_iff (pours : Pours e block Taken) (limit : Option Nat) :
    (c.run e (.toSink ⟨limit, []⟩) source cancelAfter).fault = none ↔
      source.Uncut cancelAfter ∧
        Fits limit ((c.programsRead source cancelAfter).flatMap block) := by
  have written := (emitAll_of_pours pours (pours.start limit) (c.programsRead source cancelAfter)).2
  rw [List.nil_append] at written
  rw [fault_run_eq_emitAll, ← written]
  simp only [Option.or_eq_none_iff, Option.map_eq_none_iff, Source.Stop.fault?_eq_none_iff]
  constructor
  · rintro ⟨⟨accepted, ended⟩, flushed⟩
    exact ⟨Source.uncut_of_read_eq_ended ended, accepted, flushed⟩
  · rintro ⟨uncut, accepted, flushed⟩
    exact ⟨⟨accepted, by rw [Source.read_eq_of_uncut uncut]⟩, flushed⟩

/-- An unlimited output refuses nothing. -/
theorem emitAll_unlimited (pours : Pours e block Taken) (ps : List Program) :
    (emitAll e (.toSink .unlimited) ps).2 = none :=
  ((emitAll_of_pours pours (pours.start none) ps).2.mpr (fits_none _)).1

end Pouring

/-- The formats in which the output is the blocks of the programs one after the
other. -/
inductive WrittenAs : Format → (Program → Text) → Prop
  | hex : WrittenAs .hex Output.hexBlock
  | prog : WrittenAs .prog Output.frame

theorem WrittenAs.pours {format : Format} {block : Program → Text}
    (written : WrittenAs format block) : ∃ Taken, Pours format.emitter block Taken := by
  cases written with
  | hex => exact ⟨_, Output.pours_hexEmitter⟩
  | prog => exact ⟨_, Output.pours_progEmitter⟩

/-- An output with room for `n` bytes receives the first `n` bytes of what an unlimited
one receives, which are the blocks of all programs. A compilation that reads its whole
source ends well exactly if nothing is missing. -/
theorem truncated_output (c : Compilation) {format : Format} {block : Program → Text}
    (written : WrittenAs format block) (source : Source) (cancelAfter : Option Nat) (n : Nat) :
    let whole := c.run format.emitter (.toSink .unlimited) source cancelAfter
    let cut := c.run format.emitter (.toSink (.limited n)) source cancelAfter
    whole.output.sink.stored = whole.programs.flatMap block ∧
      cut.output.sink.stored = whole.output.sink.stored.take n ∧
      (source.Uncut cancelAfter →
        (cut.fault = none ↔ whole.output.sink.stored.length ≤ n)) := by
  intro whole cut
  obtain ⟨Taken, pours⟩ := written.pours
  have all : whole.output.sink.stored = (c.programsRead source cancelAfter).flatMap block :=
    stored_run c source cancelAfter pours none
  have programs : whole.programs = c.programsRead source cancelAfter :=
    programs_run_of_accepted c _ _ source cancelAfter (emitAll_unlimited pours _)
  rw [programs, all]
  constructor
  · rfl
  · constructor
    · exact stored_run c source cancelAfter pours (some n)
    · intro uncut
      have fault := fault_run_eq_none_iff c source cancelAfter pours (some n)
      rw [fits_some_iff] at fault
      exact fault.trans (and_iff_right uncut)

/-- A source whose output exceeds a buffer. -/
def manyNodes : Source :=
  ⟨(List.replicate 49 ("@1\n" : Text)).flatten, none⟩

/-- What the source leaves in a sink. -/
def manyNodesRun (s : Sink) : Outcome Output :=
  (⟨.wrap, true, false⟩ : Compilation).run Format.hex.emitter (.toSink s) manyNodes none

theorem truncated_output_of_manyNodes :
    manyNodes.Uncut none ∧
      (manyNodesRun .unlimited).output.sink.stored.length = 4116 ∧
      (manyNodesRun (.limited 4100)).output.sink.stored =
        (manyNodesRun .unlimited).output.sink.stored.take 4100 ∧
      (manyNodesRun (.limited 4115)).fault ≠ none ∧
      (manyNodesRun (.limited 4116)).fault = none := by
  have uncut : manyNodes.Uncut none := ⟨rfl, by simp⟩
  have cut (n : Nat) :
      (manyNodesRun .unlimited).output.sink.stored =
          (manyNodesRun .unlimited).programs.flatMap Output.hexBlock ∧
        (manyNodesRun (.limited n)).output.sink.stored =
          (manyNodesRun .unlimited).output.sink.stored.take n ∧
        (manyNodes.Uncut none → ((manyNodesRun (.limited n)).fault = none ↔
          (manyNodesRun .unlimited).output.sink.stored.length ≤ n)) :=
    truncated_output ⟨.wrap, true, false⟩ .hex manyNodes none n
  have programs : (manyNodesRun .unlimited).programs =
      programsRead ⟨.wrap, true, false⟩ manyNodes none :=
    programs_run_of_accepted _ _ _ manyNodes none (emitAll_unlimited Output.pours_hexEmitter _)
  have count : (programsRead ⟨.wrap, true, false⟩ manyNodes none).length = 49 := by decide +kernel
  have length : (manyNodesRun .unlimited).output.sink.stored.length = 4116 := by
    rw [(cut 0).1, programs]
    simp [List.length_flatMap, count, slotCount]
  refine ⟨uncut, length, (cut 4100).2.1, ?_, ((cut 4116).2.2 uncut).mpr length.le⟩
  intro faultless
  have short := ((cut 4115).2.2 uncut).mp faultless
  omega

/-! ## Room for every byte -/

/-- Where every byte is taken, documents are counted and none is refused. -/
theorem emitAll_yamlEmitter {o : Output} (unlimited : o.sink.room = none) (sound : o.broken = false)
    (ps : List Program) :
    (emitAll Output.yamlEmitter o ps).2 = none ∧
      (emitAll Output.yamlEmitter o ps).1.documents = o.documents + ps.length ∧
      (emitAll Output.yamlEmitter o ps).1.broken = false := by
  induction ps generalizing o with
  | nil => exact ⟨rfl, rfl, sound⟩
  | cons p ps inductionHypothesis =>
      have taken (t : Text) : (o.sink.write t).2 = none :=
        (o.sink.write_eq_none_iff t).mpr fun n limited => by
          rw [unlimited] at limited
          contradiction
      have accepted : (Output.yamlEmitter.emit o p).2 = none := by
        simp [Output.yamlEmitter, taken, sound]
      have room : (Output.yamlEmitter.emit o p).1.sink.room = none := by
        simp [Output.yamlEmitter, Sink.room_write, unlimited]
      have still : (Output.yamlEmitter.emit o p).1.broken = false := by
        simp [Output.yamlEmitter, taken, sound]
      have count : (Output.yamlEmitter.emit o p).1.documents = o.documents + 1 := rfl
      rcases emitted : Output.yamlEmitter.emit o p with ⟨next, fault⟩
      rw [emitted] at accepted room still count
      obtain ⟨all, documents, broken⟩ := inductionHypothesis room still
      subst accepted
      simp only [emitAll, emitted]
      refine ⟨all, ?_, broken⟩
      rw [documents, count, List.length_cons]
      omega

theorem flush_yamlEmitter {o : Output} (sound : o.broken = false) :
    (Output.yamlEmitter.flush o).2 =
      if o.documents = 0 then some (.noted "close yaml stream" Output.streamFault) else none := by
  by_cases none : o.documents = 0
  · simp [Output.yamlEmitter, none]
  · simp [Output.yamlEmitter, none, sound]

theorem completedSections_callsOf_eq_nil_iff (count : Nat) (ls : List Text) :
    completedSections count (callsOf ls) = [] ↔ ∀ line ∈ ls, ¬ Directive.Marked line := by
  induction ls generalizing count with
  | nil => simp [callsOf, completedSections]
  | cons line ls inductionHypothesis =>
      have completed : ∃ call ∈ callsOf ls, call.Closes := ⟨.finish, by simp [callsOf], trivial⟩
      rw [callsOf_cons, completedSections, List.forall_mem_cons]
      by_cases marked : Directive.Marked line
      · simp [marked, completed]
      · simp [marked, inductionHypothesis]

/-- A source delivers no program exactly if it has no directive. -/
theorem programs_callsOf_eq_nil_iff (a : Assembler) (ls : List Text) :
    programs (a.events (callsOf ls)) = [] ↔ ∀ line ∈ ls, ¬ Directive.Marked line := by
  rw [events_eq_eventsFrom, programs_eventsFrom_of_outside a rfl, List.map_eq_nil_iff]
  exact completedSections_callsOf_eq_nil_iff 0 ls

/-- Where the source can be read and every byte is taken, a compilation fails only for
a stream of documents that has none, because no line of the source is a directive. -/
theorem fault_run_unlimited (c : Compilation) (format : Format) (text : Text) :
    (c.run format.emitter (.toSink .unlimited) ⟨text, none⟩ none).fault =
      if format = .yaml ∧ ∀ line ∈ Source.lines text, ¬ Directive.Marked line then
        some (.noted "flush output" (.noted "close yaml stream" Output.streamFault))
      else none := by
  have uncut : Source.Uncut ⟨text, none⟩ none := ⟨rfl, by simp⟩
  cases format with
  | hex =>
      rw [if_neg (by simp)]
      exact (fault_run_eq_none_iff c _ none Output.pours_hexEmitter none).mpr ⟨uncut, fits_none _⟩
  | prog =>
      rw [if_neg (by simp)]
      exact (fault_run_eq_none_iff c _ none Output.pours_progEmitter none).mpr ⟨uncut, fits_none _⟩
  | yaml =>
      obtain ⟨accepted, documents, sound⟩ := emitAll_yamlEmitter (o := .toSink .unlimited) rfl rfl
        (c.programsRead ⟨text, none⟩ none)
      have calls : callsFor ⟨text, none⟩ none = callsOf (Source.lines text) := by
        rw [callsFor, Source.read_eq_of_uncut uncut]
        rfl
      have count : (c.programsRead ⟨text, none⟩ none).length = 0 ↔
          ∀ line ∈ Source.lines text, ¬ Directive.Marked line := by
        rw [List.length_eq_zero_iff, programsRead, calls]
        exact programs_callsOf_eq_nil_iff c.assembler (Source.lines text)
      have begun : (Output.toSink .unlimited).documents = 0 := rfl
      rw [begun, Nat.zero_add] at documents
      have flushed := flush_yamlEmitter sound
      simp only [documents, count] at flushed
      simp only [Format.emitter, fault_run_eq_emitAll, accepted, Source.read_eq_of_uncut uncut,
        Source.Stop.fault?, flushed, Option.none_or, true_and]
      split
      · rfl
      · rfl

/-- A source with code and no node is compiled in two formats and fails in the third,
though nothing is wrong with source and output. -/
theorem fault_run_of_codeOnly :
    let c : Compilation := ⟨.wrap, false, false⟩
    let fault (format : Format) :=
      (c.run format.emitter (.toSink .unlimited) ⟨"NOP\n", none⟩ none).fault
    fault .hex = none ∧ fault .prog = none ∧ fault .yaml ≠ none := by
  decide +kernel

end Compilation

end NodeAsm
