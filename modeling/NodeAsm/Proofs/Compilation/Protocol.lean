import NodeAsm.Proofs.Assembler.Run
import NodeAsm.Proofs.Source.Lines

/-!
# The emitter protocol

A compilation has several ways to end: a read error, a cancellation, an emitter that
refuses a program within the source or at its end, and the end itself. On all of them
it hands programs to the emitter until one is refused, flushes once, and returns the
programs it handed out. The calls are observed through an emitter that records them.
-/

namespace NodeAsm

/-- One call of an emitter with the fault it returned. -/
inductive EmitterCall where
  | emit (p : Program) (fault : Option Fault)
  | flush (fault : Option Fault)

/-- An emitter that records its calls and is otherwise the same. -/
def Emitter.recording {σ : Type} (e : Emitter σ) : Emitter (σ × List EmitterCall) where
  emit s p := (((e.emit s.1 p).1, s.2 ++ [.emit p (e.emit s.1 p).2]), (e.emit s.1 p).2)
  flush s := (((e.flush s.1).1, s.2 ++ [.flush (e.flush s.1).2]), (e.flush s.1).2)

namespace Compilation

open Assembler

/-- The fault of a refused program. -/
def emitFault (refusal : Program × Fault) : Fault :=
  .noted ("emit node " ++ Numeral.ofInt refusal.1.node) refusal.2

/-- The calls of an emitter that accepts some programs and then refuses one, if it
does. -/
def emitCalls (accepted : List Program) (refused : Option (Program × Fault)) :
    List EmitterCall :=
  accepted.map (.emit · none) ++ refused.toList.map fun refusal => .emit refusal.1 (some refusal.2)

/-! ## Carrying out steps -/

theorem emitSteps_cons_of_accepted {σ : Type} {e : Emitter σ} {output : σ} {step : Step}
    (accepts : (emitAll e output (programs step.events)).2 = none) (rest : List Step) :
    emitSteps e output (step :: rest) =
      let emission := emitSteps e (emitAll e output (programs step.events)).1 rest
      { emission with steps := step :: emission.steps } := by
  rcases emitted : emitAll e output (programs step.events) with ⟨output, fault⟩
  rw [emitted] at accepts
  subst accepts
  simp only [emitSteps, emitted]

theorem emitSteps_cons_of_refused {σ : Type} {e : Emitter σ} {output : σ} {step : Step} {f : Fault}
    (refuses : (emitAll e output (programs step.events)).2 = some f) (rest : List Step) :
    emitSteps e output (step :: rest) =
      ⟨(emitAll e output (programs step.events)).1, [step], some f⟩ := by
  rcases emitted : emitAll e output (programs step.events) with ⟨output, fault⟩
  rw [emitted] at refuses
  subst refuses
  simp only [emitSteps, emitted]

/-- The emitter accepts `accepted` of the programs of some steps, and then refuses
`refused`, if anything; the steps are carried out up to the refusal. -/
structure Carries {σ : Type} (e : Emitter σ) (output : σ) (steps : List Step)
    (accepted : List Program) (refused : Option (Program × Fault)) : Prop where
  first : (emitSteps e output steps).steps <+: steps
  all : refused = none → (emitSteps e output steps).steps = steps
  programs : programs ((emitSteps e output steps).steps.flatMap Step.events) =
    accepted ++ refused.toList.map Prod.fst
  fault : (emitSteps e output steps).fault = refused.map emitFault
  recorded : ∀ calls, emitSteps e.recording (output, calls) steps =
    ⟨((emitSteps e output steps).output, calls ++ emitCalls accepted refused),
      (emitSteps e output steps).steps, (emitSteps e output steps).fault⟩

/-- An emitter takes at most one program in a step, so that none is left behind a
refusal. -/
theorem exists_emitAll {σ : Type} (e : Emitter σ) (output : σ) {ps : List Program}
    (single : ps.length ≤ 1) :
    ∃ accepted refused, ps = accepted ++ refused.toList.map Prod.fst ∧
      (emitAll e output ps).2 = refused.map emitFault ∧
      ∀ calls, emitAll e.recording (output, calls) ps =
        (((emitAll e output ps).1, calls ++ emitCalls accepted refused),
          (emitAll e output ps).2) := by
  cases ps with
  | nil => exact ⟨[], none, rfl, rfl, by simp [emitAll, emitCalls]⟩
  | cons p ps =>
      have last : ps = [] := List.eq_nil_of_length_eq_zero (by simpa using single)
      subst last
      rcases emitted : e.emit output p with ⟨next, fault⟩
      cases fault with
      | none => exact ⟨[p], none, rfl, by simp [emitAll, emitted],
          by simp [emitAll, emitted, Emitter.recording, emitCalls]⟩
      | some f => exact ⟨[], some (p, f), rfl, by simp [emitAll, emitted, emitFault],
          by simp [emitAll, emitted, Emitter.recording, emitCalls]⟩

theorem exists_carries {σ : Type} (e : Emitter σ) (output : σ) {steps : List Step}
    (single : ∀ step ∈ steps, (programs step.events).length ≤ 1) :
    ∃ accepted refused, Carries e output steps accepted refused := by
  induction steps generalizing output with
  | nil =>
      exact ⟨[], none, List.prefix_refl _, fun _ => rfl, rfl, rfl, by simp [emitSteps, emitCalls]⟩
  | cons step steps inductionHypothesis =>
      obtain ⟨taken, refusal, parts, fault, recorded⟩ :=
        exists_emitAll e output (single step List.mem_cons_self)
      -- The recording emitter gets the same answer and takes the same branch.
      have recordedFault (calls : List EmitterCall) :
          (emitAll e.recording (output, calls) (programs step.events)).2 =
            refusal.map emitFault := by
        rw [recorded, fault]
      cases refusal with
      | some refusal =>
          have stopped := emitSteps_cons_of_refused fault steps
          refine ⟨taken, some refusal, ?_, ?_, ?_, ?_, ?_⟩
          · rw [stopped]
            exact (List.prefix_cons_inj step).mpr List.nil_prefix
          · intro accepts
            contradiction
          · rw [stopped, List.flatMap_singleton]
            exact parts
          · rw [stopped]
            rfl
          · intro calls
            rw [emitSteps_cons_of_refused (recordedFault calls) steps, stopped, recorded]
      | none =>
          have goesOn := emitSteps_cons_of_accepted fault steps
          obtain ⟨accepted, refused, rest⟩ :=
            inductionHypothesis (emitAll e output (programs step.events)).1
              fun other member => single other (List.mem_cons_of_mem _ member)
          refine ⟨taken ++ accepted, refused, ?_, ?_, ?_, ?_, ?_⟩
          · rw [goesOn]
            exact (List.prefix_cons_inj step).mpr rest.first
          · intro accepts
            rw [goesOn]
            exact congrArg (step :: ·) (rest.all accepts)
          · rw [goesOn, List.flatMap_cons, programs_append, rest.programs, parts]
            simp
          · rw [goesOn, rest.fault]
          · intro calls
            rw [emitSteps_cons_of_accepted (recordedFault calls) steps, goesOn, recorded]
            simp only [rest.recorded, emitCalls, List.map_append, List.append_assoc]
            simp

end Compilation

/-! ## Programs of a cut source -/

namespace Assembler

theorem length_programs_of_mem_steps {a : Assembler} {s : State} {calls : List Call} {step : Step}
    (member : step ∈ a.steps s calls) : (programs step.events).length ≤ 1 := by
  induction calls generalizing s with
  | nil => contradiction
  | cons call calls inductionHypothesis =>
      rcases List.mem_cons.mp member with rfl | later
      · rw [programs_perform]
        split <;> simp
      · exact inductionHypothesis later

theorem take_steps (a : Assembler) (s : State) (calls : List Call) (n : Nat) :
    (a.steps s calls).take n = a.steps s (calls.take n) := by
  induction calls generalizing s n with
  | nil => simp [steps]
  | cons call calls inductionHypothesis =>
      cases n with
      | zero => rfl
      | succ n => simp [steps, inductionHypothesis]

/-- A line that is cut short completes the node being read exactly if the whole line
does. -/
theorem programs_feed_of_cut (a : Assembler) (s : State) {tail line : Text} (nonempty : tail ≠ [])
    (front : tail <+: line) :
    programs (a.perform s (.feed tail)).events = programs (a.perform s (.feed line)).events := by
  have closes : Call.Closes (.feed tail) ↔ Call.Closes (.feed line) := by
    obtain ⟨rest, rfl⟩ := front
    obtain ⟨b, tail, rfl⟩ := List.exists_cons_of_ne_nil nonempty
    exact Iff.rfl
  simp only [programs_perform, closes]

/-- The programs of lines that are cut off come first among those of any source that
goes on with them. -/
theorem isPrefix_programs_of_cutOf (a : Assembler) (s : State) {ls more : List Text}
    (cut : Source.CutOf ls more) :
    programs (a.eventsFrom s (ls.map .feed)) <+: programs (a.eventsFrom s (callsOf more)) := by
  induction cut generalizing s with
  | nil more => exact List.nil_prefix
  | cut nonempty front more =>
      -- Whether a line is a directive shows in its first byte, which the cut leaves.
      simp only [List.map_cons, List.map_nil, callsOf, List.cons_append, eventsFrom_cons,
        eventsFrom_nil, programs_append, programs_feed_of_cut a s nonempty front]
      exact (List.prefix_append_right_inj _).mpr List.nil_prefix
  | cons line _ inductionHypothesis =>
      simp only [List.map_cons, callsOf, List.cons_append, eventsFrom_cons, programs_append]
      exact (List.prefix_append_right_inj _).mpr (inductionHypothesis _)

end Assembler

namespace Compilation

open Assembler

/-! ## Whole compilations -/

/-- An outcome of a recording emitter. -/
def Outcome.recorded {σ : Type} (o : Outcome σ) (record : List EmitterCall) :
    Outcome (σ × List EmitterCall) :=
  ⟨o.programs, o.log, (o.output, record), o.transcript, o.fault⟩

/-- Ends a compilation that was stopped by a fault or not at all. -/
def conclude {σ : Type} (c : Compilation) (e : Emitter σ) (outcome : Outcome σ) :
    Option Fault → Outcome σ
  | some f => abort e outcome f
  | none => complete c e outcome

theorem programs_conclude {σ : Type} (c : Compilation) (e : Emitter σ) (outcome : Outcome σ)
    (stopped : Option Fault) : (c.conclude e outcome stopped).programs = outcome.programs := by
  cases stopped <;> rfl

theorem fault_conclude {σ : Type} (c : Compilation) (e : Emitter σ) (outcome : Outcome σ)
    (stopped : Option Fault) :
    (c.conclude e outcome stopped).fault =
      stopped.or ((e.flush outcome.output).2.map (.noted "flush output")) := by
  cases stopped <;> rfl

/-- However a compilation ends, it flushes once more and no more. -/
theorem conclude_recorded {σ : Type} (c : Compilation) (e : Emitter σ) (outcome : Outcome σ)
    (record : List EmitterCall) (stopped : Option Fault) :
    c.conclude e.recording (outcome.recorded record) stopped =
      (c.conclude e outcome stopped).recorded
        (record ++ [.flush (e.flush outcome.output).2]) := by
  cases stopped <;> rfl

section Run

variable {σ : Type} (c : Compilation) (e : Emitter σ) (output : σ) (source : Source)
  (cancelAfter : Option Nat)

/-- The calls for what is read of a source. -/
def callsFor : List Call :=
  calls (source.read cancelAfter).1 (source.read cancelAfter).2

/-- What is emitted of a source. -/
def emission : Emission σ :=
  emitSteps e output (c.assembler.steps .start (callsFor source cancelAfter))

/-- The calls that a compilation carries out before it stops. -/
def performed : List Call :=
  (callsFor source cancelAfter).take (c.emission e output source cancelAfter).steps.length

/-- The outcome before the output is flushed. -/
def unflushed : Outcome σ :=
  let events := (c.emission e output source cancelAfter).steps.flatMap Step.events
  { programs := programs events
    log := ⟨(faults events).map Issue.ofFault⟩
    output := (c.emission e output source cancelAfter).output
    transcript := (c.emission e output source cancelAfter).steps.flatMap
      (Transcript.stepShown c.listing)
    fault := none }

/-- A compilation emits what it can and is ended by a refusal or by what stops the
reading, the refusal first. -/
theorem run_eq :
    c.run e output source cancelAfter =
      c.conclude e (c.unflushed e output source cancelAfter)
        ((c.emission e output source cancelAfter).fault.or (source.read cancelAfter).2.fault?) :=
  rfl

theorem exists_carries_run :
    ∃ accepted refused,
      Carries e output (c.assembler.steps .start (callsFor source cancelAfter)) accepted refused :=
  exists_carries e output fun _ member => length_programs_of_mem_steps member

theorem steps_emission :
    (c.emission e output source cancelAfter).steps =
      c.assembler.steps .start (c.performed e output source cancelAfter) := by
  obtain ⟨accepted, refused, carries⟩ := c.exists_carries_run e output source cancelAfter
  rw [performed, ← take_steps]
  exact List.prefix_iff_eq_take.mp carries.first

/-- The programs of a compilation are those of the calls it carries out. -/
theorem programs_run :
    (c.run e output source cancelAfter).programs =
      programs (c.assembler.events (c.performed e output source cancelAfter)) := by
  rw [run_eq, programs_conclude, unflushed, steps_emission]
  rfl

variable {c e output source cancelAfter} {accepted : List Program} {refused : Option (Program × Fault)}

/-- Recording changes nothing but the output, and the record ends with the flush. -/
theorem run_recording
    (carries : Carries e output (c.assembler.steps .start (callsFor source cancelAfter))
      accepted refused) :
    c.run e.recording (output, []) source cancelAfter =
      (c.run e output source cancelAfter).recorded
        (emitCalls accepted refused ++
          [.flush (e.flush (c.emission e output source cancelAfter).output).2]) := by
  have recorded : c.emission e.recording (output, []) source cancelAfter =
      ⟨((c.emission e output source cancelAfter).output, emitCalls accepted refused),
        (c.emission e output source cancelAfter).steps,
        (c.emission e output source cancelAfter).fault⟩ := carries.recorded []
  have outcome : c.unflushed e.recording (output, []) source cancelAfter =
      (c.unflushed e output source cancelAfter).recorded (emitCalls accepted refused) := by
    rw [unflushed, recorded]
    rfl
  rw [run_eq, run_eq, outcome, recorded, conclude_recorded]
  rfl

/-- A refusal goes before what stops the reading, and both before a failed flush. -/
theorem fault_run
    (carries : Carries e output (c.assembler.steps .start (callsFor source cancelAfter))
      accepted refused) :
    (c.run e output source cancelAfter).fault =
      ((refused.map emitFault).or (source.read cancelAfter).2.fault?).or
        ((e.flush (c.emission e output source cancelAfter).output).2.map
          (.noted "flush output")) := by
  rw [run_eq, fault_conclude, ← carries.fault]
  rfl

/-- A compilation that ends well has read the whole source and emits its programs. -/
theorem programs_run_of_fault_eq_none
    (faultless : (c.run e output source cancelAfter).fault = none) :
    (c.run e output source cancelAfter).programs =
      programs (c.assembler.events (callsOf (Source.lines source.text))) := by
  obtain ⟨accepted, refused, carries⟩ := c.exists_carries_run e output source cancelAfter
  rw [fault_run carries] at faultless
  simp only [Option.or_eq_none_iff, Option.map_eq_none_iff, Source.Stop.fault?_eq_none_iff] at faultless
  obtain ⟨⟨accepts, ended⟩, _⟩ := faultless
  have whole : callsFor source cancelAfter = callsOf (Source.lines source.text) := by
    rw [callsFor, Source.read_eq_of_uncut (Source.uncut_of_read_eq_ended ended)]
    rfl
  have all : (c.emission e output source cancelAfter).steps =
      c.assembler.steps .start (callsFor source cancelAfter) := carries.all accepts
  rw [programs_run, performed, all, length_steps, List.take_length, whole]

end Run

/-! ## Completions of what was read -/

/-- Text `t` goes on with the lines that some calls have read. It is those lines alone
if the calls have met the end. -/
structure Completes (performed : List Call) (t : Text) : Prop where
  goesOn : (fedLines performed).flatten <+: t
  atEnd : .finish ∈ performed → t = (fedLines performed).flatten

/-- The first calls for some lines are those for the first lines, or all of them. -/
theorem eq_of_isPrefix_calls {ls : List Text} {stop : Source.Stop} {front : List Call}
    (first : front <+: calls ls stop) :
    (∃ read, read <+: ls ∧ front = read.map .feed) ∨ stop = .ended ∧ front = callsOf ls := by
  cases stop with
  | ended =>
      rcases List.prefix_concat_iff.mp first with whole | fed
      · exact Or.inr ⟨rfl, whole⟩
      · exact Or.inl (List.prefix_map_iff.mp fed)
  | unreadable message => exact Or.inl (List.prefix_map_iff.mp first)
  | cancelled => exact Or.inl (List.prefix_map_iff.mp first)

/-- The programs of what was read come first among those of every completion. -/
theorem isPrefix_programs_of_completes (a : Assembler) {source : Source}
    {cancelAfter : Option Nat} {front : List Call} (first : front <+: callsFor source cancelAfter)
    {t : Text} (completes : Completes front t) :
    programs (a.events front) <+: programs (a.events (callsOf (Source.lines t))) := by
  rcases eq_of_isPrefix_calls first with ⟨read, within, rfl⟩ | ⟨ended, rfl⟩
  · have goesOn := completes.goesOn
    rw [fedLines_map_feed] at goesOn
    have isLines : Source.IsLines read := (Source.isLines_lines source.text).of_isPrefix
      (within.trans (Source.isPrefix_lines_read source cancelAfter))
    exact isPrefix_programs_of_cutOf a .start (isLines.cutOf_lines goesOn)
  · have whole : (source.read cancelAfter).1 = Source.lines source.text := by
      rw [Source.read_eq_of_uncut (Source.uncut_of_read_eq_ended ended)]
    have text : t = source.text := by
      rw [completes.atEnd (by simp [callsOf]), fedLines_callsOf, whole, Source.flatten_lines]
    subst text
    exact whole ▸ List.prefix_refl _

/-- On every path a compilation calls the emitter with programs until one is refused,
then flushes it, and returns the programs it called with. These come first among the
programs of a faultless compilation of whatever completes what was read, and are all
of them if nothing goes wrong. The first thing that goes wrong is returned. -/
theorem emitter_protocol {σ : Type} (c : Compilation) (e : Emitter σ) (output : σ)
    (source : Source) (cancelAfter : Option Nat) :
    ∃ (accepted : List Program) (refused : Option (Program × Fault)) (flushed : Option Fault),
      c.run e.recording (output, []) source cancelAfter =
        (c.run e output source cancelAfter).recorded
          (accepted.map (.emit · none) ++
            refused.toList.map (fun refusal => .emit refusal.1 (some refusal.2)) ++
              [.flush flushed]) ∧
      (c.run e output source cancelAfter).programs =
        accepted ++ refused.toList.map Prod.fst ∧
      (∀ {τ : Type} (other : Emitter τ) (otherOutput : τ) (completion : Source)
          (cancel : Option Nat),
        Completes (c.performed e output source cancelAfter) completion.text →
        (c.run other otherOutput completion cancel).fault = none →
        (c.run e output source cancelAfter).programs <+:
          (c.run other otherOutput completion cancel).programs) ∧
      (∀ {τ : Type} (other : Emitter τ) (otherOutput : τ) (same : Source) (cancel : Option Nat),
        (c.run e output source cancelAfter).fault = none →
        same.text = source.text → (c.run other otherOutput same cancel).fault = none →
        (c.run e output source cancelAfter).programs =
          (c.run other otherOutput same cancel).programs) ∧
      (c.run e output source cancelAfter).fault =
        ((refused.map emitFault).or (source.read cancelAfter).2.fault?).or
          (flushed.map (.noted "flush output")) ∧
      ((c.run e output source cancelAfter).fault = none ↔
        source.Uncut cancelAfter ∧ refused = none ∧ flushed = none) := by
  obtain ⟨accepted, refused, carries⟩ := c.exists_carries_run e output source cancelAfter
  have fault := fault_run carries
  refine ⟨accepted, refused, (e.flush (c.emission e output source cancelAfter).output).2,
    ?_, ?_, ?_, ?_, fault, ?_⟩
  · exact run_recording carries
  · rw [run_eq, programs_conclude]
    exact carries.programs
  · intro τ other otherOutput completion cancel completes faultless
    rw [programs_run, programs_run_of_fault_eq_none faultless]
    exact isPrefix_programs_of_completes c.assembler (List.take_prefix _ _) completes
  · intro τ other otherOutput same cancel own text faultless
    rw [programs_run_of_fault_eq_none own, programs_run_of_fault_eq_none faultless, text]
  · rw [fault]
    simp only [Option.or_eq_none_iff, Option.map_eq_none_iff, Source.Stop.fault?_eq_none_iff]
    constructor
    · rintro ⟨⟨accepts, ended⟩, flushes⟩
      exact ⟨Source.uncut_of_read_eq_ended ended, accepts, flushes⟩
    · rintro ⟨uncut, accepts, flushes⟩
      exact ⟨⟨accepts, by rw [Source.read_eq_of_uncut uncut]⟩, flushes⟩

/-- An emitter that refuses its second program and cannot be flushed. -/
def stubborn : Emitter Nat where
  emit count _ := (count + 1, if count = 1 then some (.plain "full") else none)
  flush count := (count, some (.plain "closed"))

/-- A source that breaks off within its last directive. -/
def cutSource : Source :=
  ⟨"@1\nNOP\n@2\n@3", some "broken"⟩

/-- A source that goes on where the other breaks off. -/
def uncutSource : Source :=
  ⟨"@1\nNOP\n@2\n@34\nNOP", none⟩

theorem emitter_protocol_of_cutSource :
    let c : Compilation := ⟨.wrap, true, false⟩
    let hex := c.run Output.hexEmitter (.toSink .unlimited) uncutSource none
    let prog := c.run Output.progEmitter (.toSink .unlimited) uncutSource none
    Completes (c.performed stubborn 0 cutSource none) uncutSource.text ∧
      hex.fault = none ∧ prog.fault = none ∧
      (c.run stubborn 0 cutSource none).programs.length = 2 ∧
      (c.run stubborn 0 cutSource none).programs <+: hex.programs ∧
      hex.programs = prog.programs := by
  intro c hex prog
  have completes : Completes (c.performed stubborn 0 cutSource none) uncutSource.text :=
    ⟨by decide +kernel, by decide +kernel⟩
  have hexFaultless : hex.fault = none := by decide +kernel
  have progFaultless : prog.fault = none := by decide +kernel
  have count : (c.run stubborn 0 cutSource none).programs.length = 2 := by decide +kernel
  obtain ⟨_, _, _, _, _, first, _⟩ := emitter_protocol c stubborn 0 cutSource none
  obtain ⟨_, _, _, _, _, _, all, _⟩ :=
    emitter_protocol c Output.hexEmitter (.toSink .unlimited) uncutSource none
  exact ⟨completes, hexFaultless, progFaultless, count,
    first Output.hexEmitter (.toSink .unlimited) uncutSource none completes hexFaultless,
    all Output.progEmitter (.toSink .unlimited) uncutSource none hexFaultless rfl progFaultless⟩

end Compilation

end NodeAsm
