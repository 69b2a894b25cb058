import NodeAsm.Proofs.Assembler.Language
import NodeAsm.Proofs.Machine.RoundTrip

/-!
# Delivered programs compile again

A delivered program can be written as a source: a directive with its index, then
for each slot a line labelled with the number of the slot that holds the
disassembled word. This source is read without fault and gives the same node and
the same words. That holds of every program that any run delivers, since every
node holds words of the instruction set only, also behind faults.
-/

namespace NodeAsm

open InstructionSet

/-! ## Words of delivered programs -/

namespace Slot

/-- A slot with a word of the instruction set, or with a jump that waits for its
target. -/
def Emits : Slot → Prop
  | final word _ => Emitted word
  | pending word _ _ => ∃ op ∈ nodeOpcodes, op.kind = .jump ∧ word = op.base

theorem emits_idle : Slot.idle.Emits := by
  have member : ⟨"JMP", .jump, 0xC000#16⟩ ∈ nodeOpcodes := by decide
  exact Emitted.jump member rfl ⟨0, by decide⟩

theorem emits_slotFor (mnemonic first second label : Text) (origin : Origin) :
    (Assembler.slotFor (node.encode mnemonic first second).value label origin).Emits := by
  obtain ⟨plain, jump⟩ := emitted_encode_node mnemonic first second
  unfold Assembler.slotFor
  split
  · rename_i isJump
    exact jump isJump
  · rename_i other
    exact plain other

end Slot

namespace Node

/-- A node that a directive began and that holds such slots only. -/
structure Emits (n : Node) : Prop where
  index : ∃ k < Directive.nodeCount, n.index = (k : Nat)
  slots : ∀ i : Fin slotCount, (n.slots.get i).Emits

theorem emits_idle {k : Nat} (within : k < Directive.nodeCount) (line : Int) :
    (idle k line).Emits where
  index := ⟨k, within, rfl⟩
  slots i := by
    have slot : (idle k line).slots.get i = Slot.idle := Vector.getElem_replicate i.isLt
    rw [slot]
    exact Slot.emits_idle

theorem emitted_resolveSlot (n : Node) {s : Slot} (emits : s.Emits) :
    Emitted (n.resolveSlot s).word := by
  cases s with
  | final word origin => exact emits
  | pending word label origin =>
      obtain ⟨op, member, jump, rfl⟩ := emits
      simp only [resolveSlot]
      cases found : n.lookup label with
      | some target =>
          exact .jump member jump ⟨target, (exists_of_lookup_eq_some found).1⟩
      | none =>
          rw [← withTarget_zero member jump]
          exact .jump member jump ⟨0, by decide⟩

theorem get_slots_store (n : Node) (i j : Fin slotCount) (s : Slot) :
    (n.store i s).slots.get j = if i = j then s else n.slots.get j :=
  n.slots_store i j s

theorem words_program (n : Node) :
    n.program.words = List.ofFn fun i : Fin slotCount => (n.resolveSlot (n.slots.get i)).word := by
  apply List.ext_getElem
  · simp
  · intro i _ _
    simp only [Program.words, program, List.getElem_map, Vector.getElem_toList, Vector.getElem_map,
      List.getElem_ofFn]
    rfl

theorem Emits.emitted_of_mem {n : Node} (emits : n.Emits) {w : Word}
    (member : w ∈ n.program.words) : Emitted w := by
  rw [words_program, List.mem_ofFn] at member
  obtain ⟨i, rfl⟩ := member
  exact n.emitted_resolveSlot (emits.slots i)

end Node

namespace Assembler

theorem emits_invariant (policy : OverflowPolicy) :
    (⟨.node, policy⟩ : Assembler).NodeInvariant Node.Emits where
  idle line read := Node.emits_idle (Directive.value_lt_of_read?_eq_some read) line
  bind name slot line emits :=
    ⟨by simpa using emits.index, fun i => by simpa using emits.slots i⟩
  store i mnemonic first second label raw line emits := by
    refine ⟨emits.index, fun j => ?_⟩
    rw [Node.get_slots_store]
    split
    · exact Slot.emits_slotFor mnemonic first second label _
    · exact emits.slots j

end Assembler

/-! ## The source of a program -/

open Grammar Statement

/-- The line of a slot: its number as label, and its word disassembled. -/
def slotLine (slot : Nat) (w : Word) : Text :=
  Numeral.ofNat slot ++ ": " ++ InstructionSet.node.disassemble w

/-- The directive that selects a node. -/
def directiveLine (index : Int) : Text :=
  Directive.marker :: Numeral.ofInt index

/-- The source of a program. -/
def Program.source (p : Program) : List Text :=
  directiveLine p.node :: p.words.mapIdx slotLine

theorem read?_directiveLine {k : Nat} (within : k < Directive.nodeCount) :
    Directive.read? (directiveLine k) = some (.clean k) := by
  have index := Directive.index?_of_digits (Numeral.ofNat_ne_nil k)
    fun b member => Numeral.isDigit_of_mem_ofNat member
  rw [Numeral.value_ofNat, Nat.mod_eq_of_lt within] at index
  simp only [directiveLine, Numeral.ofInt_natCast, Directive.read?, if_true, index]

theorem not_marked_slotLine (slot : Nat) (w : Word) : ¬ Directive.Marked (slotLine slot w) := by
  intro marked
  cases digits : Numeral.ofNat slot with
  | nil => exact Numeral.ofNat_ne_nil slot digits
  | cons b rest =>
      have head : b = Directive.marker := by
        simpa [Directive.Marked, slotLine, digits] using marked
      have digit := Numeral.isDigit_of_mem_ofNat (digits ▸ List.mem_cons_self : b ∈ Numeral.ofNat slot)
      exact Numeral.ne_of_isDigit digit rfl head

/-- The line of a slot has the number of the slot as label and recovers its word. -/
theorem read_slotLine (slot : Nat) {w : Word} (emitted : Emitted w) :
    labelOf (slotLine slot w) = Numeral.ofNat slot ∧ Recovers (wordsOf (slotLine slot w)) w := by
  obtain ⟨words, splits, recovers⟩ := disassemble_recovers emitted
  have unmarked : labelMarker ∉ Numeral.ofNat slot := by
    intro member
    exact absurd (Numeral.isDigit_of_mem_ofNat member) (by decide)
  obtain ⟨label, read⟩ := read_labelled (isWord_ofNat slot) unmarked splits
  refine ⟨label, ?_⟩
  rw [slotLine, read]
  exact recovers

/-! ### The lines of the slots -/

section Slots

variable {words : List Word}

theorem getElem?_mapIdx_slotLine {i : Nat} {line : Text}
    (found : (words.mapIdx slotLine)[i]? = some line) :
    ∃ w ∈ words, words[i]? = some w ∧ line = slotLine i w := by
  rw [List.getElem?_mapIdx, Option.map_eq_some_iff] at found
  obtain ⟨w, at_i, rfl⟩ := found
  exact ⟨w, List.mem_of_getElem? at_i, at_i, rfl⟩

theorem exists_of_mem_mapIdx_slotLine {line : Text} (member : line ∈ words.mapIdx slotLine) :
    ∃ i, ∃ w ∈ words, words[i]? = some w ∧ line = slotLine i w := by
  obtain ⟨i, found⟩ := List.mem_iff_getElem?.mp member
  exact ⟨i, getElem?_mapIdx_slotLine found⟩

theorem codeCount_mapIdx_slotLine_le (size : words.length = slotCount) :
    codeCount (words.mapIdx slotLine) ≤ slotCount := by
  rw [← size, ← List.length_mapIdx]
  exact List.countP_le_length

/-- Every line of a slot is code, so the code lines before it are the slots before
it. -/
theorem codeCount_take_mapIdx_slotLine (emitted : ∀ w ∈ words, Emitted w) {i : Nat}
    (within : i ≤ words.length) : codeCount ((words.mapIdx slotLine).take i) = i := by
  have all : ∀ line ∈ (words.mapIdx slotLine).take i, decide (wordsOf line ≠ []) = true := by
    intro line member
    obtain ⟨j, w, wordMember, _, rfl⟩ := exists_of_mem_mapIdx_slotLine (List.mem_of_mem_take member)
    exact decide_eq_true (read_slotLine j (emitted w wordMember)).2.nonempty
  rw [codeCount_eq, codeSize, List.countP_eq_length.mpr all]
  simpa using within

/-- The lines of the slots are short, valid and fit their node. -/
theorem clean_mapIdx_slotLine (emitted : ∀ w ∈ words, Emitted w)
    (size : words.length = slotCount) : Clean (words.mapIdx slotLine) where
  short line member := by
    obtain ⟨i, w, wordMember, _, rfl⟩ := exists_of_mem_mapIdx_slotLine member
    exact (read_slotLine i (emitted w wordMember)).2.short
  fits := by
    rw [← codeCount_eq]
    exact codeCount_mapIdx_slotLine_le size
  valid line member code := by
    obtain ⟨i, w, wordMember, _, rfl⟩ := exists_of_mem_mapIdx_slotLine member
    exact (faults_encode_node_eq_nil_iff (wordAt_zero_ne_nil code) _ _).mp
      (read_slotLine i (emitted w wordMember)).2.faultless

/-- The number that a jump names is the label of its target. -/
theorem targeted_mapIdx_slotLine (emitted : ∀ w ∈ words, Emitted w)
    (size : words.length = slotCount) : Targeted (words.mapIdx slotLine) := by
  intro line member jump
  obtain ⟨i, w, wordMember, _, rfl⟩ := exists_of_mem_mapIdx_slotLine member
  obtain ⟨target, operand, _⟩ := (read_slotLine i (emitted w wordMember)).2.jump
    ((isJump_encode_node_iff _ _ _).mpr jump)
  have within : (target : Nat) < (words.mapIdx slotLine).length := by
    rw [List.length_mapIdx, size]
    exact target.isLt
  obtain ⟨v, targetMember, _, line⟩ :=
    getElem?_mapIdx_slotLine (List.getElem?_eq_getElem within)
  have label := (read_slotLine target (emitted v targetMember)).1
  have named : wordAt (slotLine i w) 1 = Numeral.ofNat target := operand
  refine ⟨named ▸ Numeral.ofNat_ne_nil _, (words.mapIdx slotLine).take target,
    (words.mapIdx slotLine)[(target : Nat)], (words.mapIdx slotLine).drop (target + 1), ?_, ?_, ?_⟩
  · rw [List.getElem_cons_drop, List.take_append_drop]
  · rw [line, label, named]
  · have before := codeCount_take_mapIdx_slotLine emitted (i := target) (by omega)
    rw [codeCount_eq] at before
    rw [before]
    exact target.isLt

/-- The lines of the slots as lines of a section: the slots before a line are the
code lines before it. -/
theorem mem_sectionLines_mapIdx_iff (emitted : ∀ w ∈ words, Emitted w) {first : Nat}
    {l : SectionLine} :
    l ∈ sectionLines first (words.mapIdx slotLine) ↔
      ∃ w, words[l.codeBefore]? = some w ∧
        l = ⟨first + l.codeBefore + 1, l.codeBefore, Statement.read (slotLine l.codeBefore w)⟩ := by
  rw [sectionLines, List.mem_mapIdx]
  have count {i : Nat} (within : i ≤ words.length) :=
    codeCount_take_mapIdx_slotLine emitted within
  constructor
  · rintro ⟨i, within, rfl⟩
    obtain ⟨w, _, found, line⟩ := getElem?_mapIdx_slotLine (List.getElem?_eq_getElem within)
    rw [List.length_mapIdx] at within
    simp only [count (Nat.le_of_lt within), line]
    exact ⟨w, found, rfl⟩
  · rintro ⟨w, found, place⟩
    obtain ⟨within, word⟩ := List.getElem?_eq_some_iff.mp found
    refine ⟨l.codeBefore, by simpa using within, ?_⟩
    rw [count (Nat.le_of_lt within), List.getElem_mapIdx, word]
    exact place.symm

variable {policy : OverflowPolicy}

/-- Each slot number leads to its slot. -/
theorem lookup_ofNat (emitted : ∀ w ∈ words, Emitted w) (size : words.length = slotCount)
    (index line : Int) (first : Nat) (target : Fin slotCount) :
    ((⟨.node, policy⟩ : Assembler).sectionNode index line
      (sectionLines first (words.mapIdx slotLine))).lookup (Numeral.ofNat target) =
        some (target : Nat) := by
  have fits := codeCount_mapIdx_slotLine_le size
  have within : (target : Nat) < words.length := by
    rw [size]
    exact target.isLt
  have own : (Statement.read (slotLine target words[(target : Nat)])).value.label =
      Numeral.ofNat target :=
    (label_read _).trans (read_slotLine target (emitted _ (List.getElem_mem within))).1
  have bound := (Assembler.lookup_sectionNode_ne_none_iff ⟨.node, policy⟩ fits index line
    (Numeral.ofNat target)).mpr ⟨Numeral.ofNat_ne_nil _,
      ⟨first + target + 1, target, Statement.read (slotLine target words[(target : Nat)])⟩,
      (mem_sectionLines_mapIdx_iff emitted).mpr ⟨_, List.getElem?_eq_getElem within, rfl⟩,
      own, target.isLt⟩
  obtain ⟨slot, found⟩ := Option.ne_none_iff_exists'.mp bound
  obtain ⟨_, l, member, label, rfl⟩ :=
    Assembler.exists_of_lookup_sectionNode_eq_some fits found
  obtain ⟨w, at_slot, place⟩ := (mem_sectionLines_mapIdx_iff emitted).mp member
  rw [place] at label
  have number : Numeral.ofNat l.codeBefore = Numeral.ofNat target := by
    rw [← label]
    exact ((label_read _).trans (read_slotLine _ (emitted w (List.mem_of_getElem? at_slot))).1).symm
  rw [found, Numeral.ofNat_injective number]

/-- In a node where each slot number leads to its slot, the line of a slot gives
back its word. -/
theorem word_resolveSlot_slotLine {n : Node}
    (bound : ∀ target : Fin slotCount, n.lookup (Numeral.ofNat target) = some (target : Nat))
    {w : Word} (emitted : Emitted w) (number i : Nat) :
    (n.resolveSlot ((⟨number, i, Statement.read (slotLine i w)⟩ : SectionLine).content
      ⟨.node, policy⟩)).word = w := by
  have recovers := (read_slotLine i emitted).2
  rw [SectionLine.content, Assembler.encoded_read]
  change (n.resolveSlot (Assembler.slotFor (encodeWords (wordsOf (slotLine i w))).value
    ((Statement.read (slotLine i w)).value.operand 0) _)).word = w
  by_cases jump : (encodeWords (wordsOf (slotLine i w))).value.isJump
  · obtain ⟨target, operand, word⟩ := recovers.jump jump
    have label : (Statement.read (slotLine i w)).value.operand 0 = Numeral.ofNat target :=
      (operand_read_eq _ Nat.zero_lt_two).trans operand
    simp only [Assembler.slotFor, if_pos jump, Node.resolveSlot, label, bound target]
    exact word
  · rw [Assembler.slotFor, if_neg jump]
    exact recovers.plain jump

/-- The lines of the slots give back the words. -/
theorem words_sectionNode (emitted : ∀ w ∈ words, Emitted w) (size : words.length = slotCount)
    (index line : Int) (first : Nat) :
    ((⟨.node, policy⟩ : Assembler).sectionNode index line
      (sectionLines first (words.mapIdx slotLine))).program.words = words := by
  have fits := codeCount_mapIdx_slotLine_le size
  rw [Node.words_program]
  apply List.ext_getElem
  · rw [List.length_ofFn, size]
  · intro i _ within
    have word := emitted _ (List.getElem_mem within)
    have slot := Assembler.sectionSlot_of_mem (a := ⟨.node, policy⟩) fits
      (l := ⟨first + i + 1, i, Statement.read (slotLine i words[i])⟩)
      ((mem_sectionLines_mapIdx_iff emitted).mpr ⟨_, List.getElem?_eq_getElem within, rfl⟩)
      ((isCode_read _).mpr (read_slotLine i word).2.nonempty) (i := ⟨i, size ▸ within⟩) rfl
    rw [List.getElem_ofFn]
    simp only [Assembler.slots_sectionNode, slot]
    exact word_resolveSlot_slotLine (lookup_ofNat emitted size index line first) word _ _

end Slots

/-! ## Reading the source -/

namespace Assembler

/-- The events of a source that is one section with a faultless directive. -/
theorem events_callsOf_section (a : Assembler) {directive : Text} {k : Nat}
    (read : Directive.read? directive = some (.clean k)) {body : List Text}
    (plain : ∀ line ∈ body, ¬ Directive.Marked line) :
    a.events (callsOf (directive :: body)) =
      (a.sectionFaults (sectionStart (.clean k) 1) body).map .fault ++
        completion (a.sectionState (sectionStart (.clean k) 1) body) := by
  have fresh := fresh_sectionStart (.clean k) 1
  have split : a.events (callsOf (directive :: body)) =
      a.eventsFrom (sectionStart (.clean k) 1) (callsOf body) :=
    eventsFrom_callsOf_directive a .start [] read body
  rw [split, eventsFrom_callsOf, eventsFrom_section a fresh plain,
    stateAfter_section a fresh plain]

/-- Whatever run delivered a program, its source is read without fault and gives
one program, with the same node and the same words. -/
theorem recompile_source (policy other : OverflowPolicy) (calls : List Call) {p : Program}
    (delivered : p ∈ programs ((⟨.node, policy⟩ : Assembler).events calls)) :
    faults ((⟨.node, other⟩ : Assembler).events (callsOf p.source)) = [] ∧
      ∃ q, programs ((⟨.node, other⟩ : Assembler).events (callsOf p.source)) = [q] ∧
        q.node = p.node ∧ q.words = p.words := by
  have start : State.start.node.Emits := Node.emits_idle (by decide) 0
  obtain ⟨n, emits, rfl⟩ := (emits_invariant policy).exists_of_mem_programs start delivered
  obtain ⟨k, within, index⟩ := emits.index
  have emitted : ∀ w ∈ n.program.words, Emitted w := fun w member => emits.emitted_of_mem member
  have size : n.program.words.length = slotCount := Program.length_words n.program
  have plain : ∀ line ∈ n.program.words.mapIdx slotLine, ¬ Directive.Marked line := by
    intro line member
    obtain ⟨i, w, _, _, rfl⟩ := exists_of_mem_mapIdx_slotLine member
    exact not_marked_slotLine i w
  have source : n.program.source = directiveLine k :: n.program.words.mapIdx slotLine :=
    congrArg (fun index => directiveLine index :: n.program.words.mapIdx slotLine) index
  obtain ⟨faultless, resolved⟩ :=
    (section_eq_nil_iff other (sectionStart (.clean k) 1) _).mpr
      ⟨clean_mapIdx_slotLine emitted size, fun _ => targeted_mapIdx_slotLine emitted size⟩
  rw [source, events_callsOf_section _ (read?_directiveLine within) plain, faultless,
    List.map_nil, List.nil_append]
  refine ⟨resolved, _, programs_completion _, index.symm, ?_⟩
  exact words_sectionNode emitted size _ _ _

/-- A run with an unknown mnemonic, bad operands, a literal that hides its opcode and
an unbound label. -/
def faultyCalls : List Call :=
  [.feed "@-1 x", .feed "FOO", .feed "MOV 5000, Q", .feed "SUB -7", .feed "JNZ nowhere"]

theorem recompile_source_of_faulty :
    let p := ((⟨.node, .discard⟩ : Assembler).stateAfter .start faultyCalls).node.program
    p ∈ programs ((⟨.node, .discard⟩ : Assembler).events (faultyCalls ++ [.finish])) ∧
      faults ((⟨.node, .wrap⟩ : Assembler).events (callsOf p.source)) = [] ∧
      ∃ q, programs ((⟨.node, .wrap⟩ : Assembler).events (callsOf p.source)) = [q] ∧
        q.node = p.node ∧ q.words = p.words := by
  have delivered : ((⟨.node, .discard⟩ : Assembler).stateAfter .start faultyCalls).node.program ∈
      programs ((⟨.node, .discard⟩ : Assembler).events (faultyCalls ++ [.finish])) := by
    decide +kernel
  exact ⟨delivered, recompile_source .discard .wrap (faultyCalls ++ [.finish]) delivered⟩

end Assembler

end NodeAsm
