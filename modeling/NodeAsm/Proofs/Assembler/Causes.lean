import NodeAsm.Proofs.Assembler.Run

/-!
# The causes of faults

Each part of the assembler reports faults of its own kinds. Splitting a line
reports superfluous words, encoding reports operands and mnemonics, a directive
its missing index, and a completed node its unbound labels. Only the placing of
code reports too many lines. None of these faults is joined from others, so an
instruction whose faults come as one is reported operand by operand.
-/

namespace NodeAsm

namespace Fault

theorem filter_has_map_located (c : Cause) (node line : Int) (fs : List Fault) :
    (fs.map (located node line)).filter (has c) = (fs.filter (has c)).map (located node line) := by
  rw [List.filter_map]
  rfl

end Fault

namespace Statement

theorem exists_of_mem_faults_read {line : Text} {f : Fault} (member : f ∈ (read line).faults) :
    ∃ extra, f = .tooManyArguments extra := by
  simp only [read] at member
  split at member
  · contradiction
  · exact ⟨_, List.mem_singleton.mp member⟩

end Statement

namespace Register

theorem eq_of_mem_faults_read {t : Text} {f : Fault} (member : f ∈ (read t).faults) :
    f = .unknownRegister t := by
  unfold read at member
  split at member
  · contradiction
  · exact List.mem_singleton.mp member

end Register

namespace Operand

theorem eq_of_mem_faults_encode {t : Text} {f : Fault} (member : f ∈ (encode t).faults) :
    f = .literalRange t ∨ f = .unknownRegister t := by
  unfold encode at member
  split at member
  · simp only at member
    split at member
    · contradiction
    · exact Or.inl (List.mem_singleton.mp member)
  · exact Or.inr (Register.eq_of_mem_faults_read member)

end Operand

namespace InstructionSet

theorem exists_of_mem_faults_assemble {op : Opcode} {first second : Text} {f : Fault}
    (member : f ∈ (assemble op first second).faults) :
    ∃ t, f = .literalRange t ∨ f = .unknownRegister t := by
  unfold assemble at member
  split at member
  · rcases List.mem_append.mp member with source | destination
    · exact ⟨first, Operand.eq_of_mem_faults_encode source⟩
    · exact ⟨second, Or.inr (Register.eq_of_mem_faults_read destination)⟩
  · exact ⟨first, Operand.eq_of_mem_faults_encode member⟩
  · contradiction

theorem exists_of_mem_faults_encode {isa : InstructionSet} {mnemonic first second : Text}
    {f : Fault} (member : f ∈ (isa.encode mnemonic first second).faults) :
    ∃ t, f = .literalRange t ∨ f = .unknownRegister t ∨ f = .unknownOpcode t := by
  unfold encode at member
  split at member
  · contradiction
  · split at member
    · obtain ⟨t, range | register⟩ := exists_of_mem_faults_assemble member
      · exact ⟨t, Or.inl range⟩
      · exact ⟨t, Or.inr (Or.inl register)⟩
    · exact ⟨mnemonic, Or.inr (Or.inr (List.mem_singleton.mp member))⟩

/-- None of the faults of an instruction is itself joined, so splitting their joint
fault gives them back. -/
theorem split_fault?_encode (isa : InstructionSet) (mnemonic first second : Text) :
    Fault.split (isa.encode mnemonic first second).fault? =
      (isa.encode mnemonic first second).faults := by
  apply Fault.split_join?
  intro f member
  obtain ⟨t, rfl | rfl | rfl⟩ := exists_of_mem_faults_encode member
  · rfl
  · rfl
  · rfl

end InstructionSet

namespace Node

/-- The fault of an unbound label stands at the line of a jump of the node. -/
theorem exists_pending_of_mem_undefinedLabels {n : Node} {f : Fault}
    (member : f ∈ n.undefinedLabels) :
    ∃ (i : Fin slotCount) (word : Word) (label : Text) (origin : Origin),
      n.slots.get i = .pending word label origin ∧
        f = .located n.index origin.line (.undefinedLabel label) := by
  obtain ⟨s, slotMember, fault⟩ := List.mem_filterMap.mp member
  obtain ⟨i, within, slot⟩ := List.mem_iff_getElem.mp slotMember
  have bound : i < slotCount := by simpa using within
  rw [Vector.getElem_toList] at slot
  obtain ⟨word, label, origin, rfl, _, rfl⟩ := slotFault?_eq_some_iff.mp fault
  exact ⟨⟨i, bound⟩, word, label, origin, slot, rfl⟩

theorem exists_of_mem_undefinedLabels {n : Node} {f : Fault} (member : f ∈ n.undefinedLabels) :
    ∃ line label, f = .located n.index line (.undefinedLabel label) := by
  obtain ⟨_, _, label, origin, _, fault⟩ := exists_pending_of_mem_undefinedLabels member
  exact ⟨origin.line, label, fault⟩

end Node

namespace Directive

theorem exists_of_mem_faults_read? {line : Text} {index : Checked Nat}
    (read : read? line = some index) {f : Fault} (member : f ∈ index.faults) :
    f = .badNodeIndex line := by
  cases line with
  | nil => simp [read?] at read
  | cons b rest =>
      simp only [read?] at read
      split at read
      · split at read
        · cases read
          contradiction
        · cases read
          exact List.mem_singleton.mp member
      · contradiction

end Directive

namespace Assembler

/-! ## Who reports too many lines -/

theorem filter_tooManyLines_read (line : Text) :
    (Statement.read line).faults.filter (Fault.has .tooManyLines) = [] := by
  apply List.filter_eq_nil_iff.mpr
  intro f member
  obtain ⟨extra, rfl⟩ := Statement.exists_of_mem_faults_read member
  simp [Fault.tooManyArguments, Fault.has]

theorem filter_tooManyLines_encode (isa : InstructionSet) (mnemonic first second : Text) :
    (isa.encode mnemonic first second).faults.filter (Fault.has .tooManyLines) = [] := by
  apply List.filter_eq_nil_iff.mpr
  intro f member
  obtain ⟨t, rfl | rfl | rfl⟩ := InstructionSet.exists_of_mem_faults_encode member
  · simp [Fault.literalRange, Fault.has]
  · simp [Fault.unknownRegister, Fault.has]
  · simp [Fault.unknownOpcode, Fault.has]

theorem filter_tooManyLines_completion (s : State) :
    (faults (completion s)).filter (Fault.has .tooManyLines) = [] := by
  rw [faults_completion]
  apply List.filter_eq_nil_iff.mpr
  intro f member
  split at member
  · obtain ⟨line, label, rfl⟩ := Node.exists_of_mem_undefinedLabels member
    simp [Fault.undefinedLabel, Fault.has]
  · contradiction

theorem filter_tooManyLines_directiveFaults {text : Text} {index : Checked Nat}
    (read : Directive.read? text = some index) (line : Nat) :
    (directiveFaults index line).filter (Fault.has .tooManyLines) = [] := by
  apply List.filter_eq_nil_iff.mpr
  intro f member
  obtain ⟨inner, innerMember, rfl⟩ := List.mem_map.mp member
  rw [Directive.exists_of_mem_faults_read? read innerMember]
  simp [Fault.badNodeIndex, Fault.has]

/-- A call that completes a node reports no overflow. -/
theorem filter_tooManyLines_of_closes (a : Assembler) (s : State) {call : Call}
    (closes : call.Closes) :
    (faults (a.perform s call).events).filter (Fault.has .tooManyLines) = [] := by
  obtain ⟨fs, events, own⟩ := perform_of_closes a s closes
  rw [events, faults_append, List.filter_append, filter_tooManyLines_completion,
    List.append_nil, faults_map_fault]
  rcases own with rfl | ⟨index, line, text, read, rfl⟩
  · rfl
  · exact filter_tooManyLines_directiveFaults read line

end Assembler

end NodeAsm
