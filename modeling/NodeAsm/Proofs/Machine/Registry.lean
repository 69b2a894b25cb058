import Mathlib.Data.List.Induction
import NodeAsm.Proofs.Assembler.Causes
import NodeAsm.Proofs.Machine.Registration

/-!
# What registrations leave behind

Behind any sequence of registrations an instruction set lists each mnemonic once, where
it was first registered, and with what was registered last. A registry keeps the same
table in two parts, an index by mnemonic and the order of the mnemonics. Its parts stay
in step, whichever mnemonics are registered again, so it does not matter which of the two
is read: encoding looks opcodes up, disassembly goes through the list.
-/

namespace NodeAsm

namespace InstructionSet

/-! ## First and last registrations -/

/-- What was registered last under a mnemonic. -/
def lastRegistration? (ops : List Opcode) (mnemonic : Text) : Option Opcode :=
  ops.findRev? fun op => op.mnemonic == mnemonic

theorem lastRegistration?_concat (ops : List Opcode) (op : Opcode) (mnemonic : Text) :
    lastRegistration? (ops ++ [op]) mnemonic =
      if op.mnemonic = mnemonic then some op else lastRegistration? ops mnemonic := by
  simp only [lastRegistration?, List.findRev?_eq_find?_reverse, List.reverse_append,
    List.reverse_singleton, List.singleton_append, List.find?_cons]
  split
  next same => rw [if_pos (eq_of_beq same)]
  next other => rw [if_neg (by simpa using other)]

theorem ofRegistrations_concat (name : Text) (ops : List Opcode) (op : Opcode) :
    ofRegistrations name (ops ++ [op]) = (ofRegistrations name ops).register op := by
  rw [ofRegistrations, List.foldl_concat]
  rfl

/-- The last registration of a mnemonic is what is found under it. -/
theorem lookup_ofRegistrations (name : Text) (ops : List Opcode) (mnemonic : Text) :
    (ofRegistrations name ops).lookup mnemonic = lastRegistration? ops mnemonic := by
  induction ops using List.reverseRecOn with
  | nil => rfl
  | append_singleton ops op inductionHypothesis =>
      rw [ofRegistrations_concat, lookup_register, lastRegistration?_concat, inductionHypothesis]

theorem eraseDups_concat (ts : List Text) (t : Text) :
    (ts ++ [t]).eraseDups = if t ∈ ts then ts.eraseDups else ts.eraseDups ++ [t] := by
  rw [List.eraseDups_append, List.removeAll, List.filter_singleton]
  split
  next seen => simp [seen]
  next new => simp [new, List.eraseDups_cons]

/-- The mnemonics stand in the order of their first registrations. -/
theorem mnemonics_ofRegistrations (name : Text) (ops : List Opcode) :
    (ofRegistrations name ops).opcodes.map Opcode.mnemonic =
      (ops.map Opcode.mnemonic).eraseDups := by
  induction ops using List.reverseRecOn with
  | nil => rfl
  | append_singleton ops op inductionHypothesis =>
      rw [ofRegistrations_concat, mnemonics_register, inductionHypothesis, List.map_append,
        List.map_singleton, eraseDups_concat]
      simp only [List.mem_eraseDups]

theorem registered_iff (name : Text) (ops : List Opcode) (mnemonic : Text) :
    mnemonic ∈ (ofRegistrations name ops).opcodes.map Opcode.mnemonic ↔
      mnemonic ∈ ops.map Opcode.mnemonic := by
  rw [mnemonics_ofRegistrations, List.mem_eraseDups]

theorem Distinct.lookup_eq_some_iff {isa : InstructionSet} (distinct : isa.Distinct)
    (mnemonic : Text) (op : Opcode) :
    isa.lookup mnemonic = some op ↔ op ∈ isa.opcodes ∧ op.mnemonic = mnemonic := by
  constructor
  · intro found
    exact ⟨List.mem_of_find?_eq_some found, mnemonic_of_lookup_eq_some found⟩
  · rintro ⟨member, rfl⟩
    exact distinct.lookup_of_mem member

/-! ## Encoding -/

theorem encode_of_lookup_eq_none {isa : InstructionSet} {mnemonic : Text} (named : mnemonic ≠ [])
    (missing : isa.lookup mnemonic = none) (first second : Text) :
    isa.encode mnemonic first second = ⟨0#16, [.unknownOpcode mnemonic]⟩ := by
  rw [encode, if_neg (by simpa using named), missing]

/-- An instruction is reported as unknown exactly if nothing is found under its mnemonic. -/
theorem exists_unknownOpcode_iff (isa : InstructionSet) {mnemonic : Text} (named : mnemonic ≠ [])
    (first second : Text) :
    (∃ f ∈ (isa.encode mnemonic first second).faults, f.has .unknownOpcode) ↔
      isa.lookup mnemonic = none := by
  constructor
  · rintro ⟨f, member, unknown⟩
    cases found : isa.lookup mnemonic with
    | none => rfl
    | some op =>
        rw [encode_of_lookup_eq_some named found] at member
        obtain ⟨t, rfl | rfl⟩ := exists_of_mem_faults_assemble member <;> contradiction
  · intro missing
    rw [encode_of_lookup_eq_none named missing]
    exact ⟨_, List.mem_singleton_self _, rfl⟩

end InstructionSet

/-! ## The table in two parts -/

/-- A table of opcodes in two parts. -/
structure Registry where
  /-- The opcode of each mnemonic. -/
  index : Std.HashMap Text Opcode
  /-- The mnemonics in the order in which they were first registered. -/
  order : List Text

namespace Registry

/-- The registry without opcodes. -/
def empty : Registry :=
  ⟨∅, []⟩

/-- Adds an opcode. A mnemonic that is registered already keeps its place. -/
def register (r : Registry) (op : Opcode) : Registry where
  index := r.index.insert op.mnemonic op
  order := if op.mnemonic ∈ r.index then r.order else r.order ++ [op.mnemonic]

/-- The registry that registering opcodes one after the other makes. -/
def ofRegistrations (ops : List Opcode) : Registry :=
  ops.foldl register empty

/-- The opcode that stands for none. -/
def noOpcode : Opcode :=
  ⟨[], .nullary, 0#16⟩

/-- The opcodes in order. A mnemonic without an opcode would show as `noOpcode`. -/
def opcodes (r : Registry) : List Opcode :=
  r.order.map fun mnemonic => r.index.getD mnemonic noOpcode

/-- A registry and an instruction set that have been told the same. -/
structure Represents (r : Registry) (isa : InstructionSet) : Prop where
  order : r.order = isa.opcodes.map Opcode.mnemonic
  index : ∀ mnemonic, r.index[mnemonic]? = isa.lookup mnemonic

theorem represents_empty (name : Text) : empty.Represents (.empty name) where
  order := rfl
  index _ := Std.HashMap.getElem?_empty

theorem Represents.mem_index_iff {r : Registry} {isa : InstructionSet} (same : r.Represents isa)
    (mnemonic : Text) : mnemonic ∈ r.index ↔ mnemonic ∈ r.order := by
  rw [Std.HashMap.mem_iff_isSome_getElem?, same.index, same.order, Option.isSome_iff_ne_none, Ne,
    InstructionSet.lookup_eq_none_iff, not_not]

/-- One more registration keeps the two the same. -/
theorem Represents.register {r : Registry} {isa : InstructionSet} (same : r.Represents isa)
    (op : Opcode) : (r.register op).Represents (isa.register op) where
  order := by
    simp only [Registry.register, same.mem_index_iff]
    rw [InstructionSet.mnemonics_register, same.order]
  index mnemonic := by
    simp only [Registry.register]
    rw [Std.HashMap.getElem?_insert, InstructionSet.lookup_register, same.index]
    simp only [beq_iff_eq]

theorem Represents.foldl_register {r : Registry} {isa : InstructionSet} (same : r.Represents isa)
    (ops : List Opcode) :
    (ops.foldl Registry.register r).Represents (ops.foldl InstructionSet.register isa) := by
  induction ops generalizing r isa with
  | nil => exact same
  | cons op ops inductionHypothesis => exact inductionHypothesis (same.register op)

theorem represents_ofRegistrations (name : Text) (ops : List Opcode) :
    (ofRegistrations ops).Represents (.ofRegistrations name ops) :=
  (represents_empty name).foldl_register ops

/-- Reading the index in order gives the list of the instruction set. -/
theorem Represents.opcodes_eq {r : Registry} {isa : InstructionSet} (same : r.Represents isa)
    (distinct : isa.Distinct) : r.opcodes = isa.opcodes := by
  have read : ∀ op ∈ isa.opcodes, r.index.getD op.mnemonic noOpcode = op := by
    intro op member
    rw [Std.HashMap.getD_eq_getD_getElem?, same.index, distinct.lookup_of_mem member,
      Option.getD_some]
  calc
    r.opcodes = isa.opcodes.map fun op => r.index.getD op.mnemonic noOpcode := by
      rw [opcodes, same.order, List.map_map]
      rfl
    _ = isa.opcodes.map id := List.map_congr_left read
    _ = isa.opcodes := List.map_id _

/-- The two parts of a registry are in step. -/
structure InStep (r : Registry) : Prop where
  nodup : r.order.Nodup
  mem_order_iff : ∀ mnemonic, mnemonic ∈ r.order ↔ mnemonic ∈ r.index

theorem Represents.inStep {r : Registry} {isa : InstructionSet} (same : r.Represents isa)
    (distinct : isa.Distinct) : r.InStep where
  nodup := by
    rw [same.order]
    exact distinct
  mem_order_iff mnemonic := (same.mem_index_iff mnemonic).symm

end Registry

namespace InstructionSet

/-- What any sequence of registrations leaves behind. The order and the index of the
registry are in step, and the instruction set is what they say. It lists each mnemonic
that was registered once, in the order of the first registrations and with what was
registered last. The entry of a mnemonic and nothing else is found under it. An
instruction with a mnemonic is reported as unknown exactly if the mnemonic was never
registered, and is otherwise encoded by what was registered last. -/
theorem registrations_reflected (name : Text) (ops : List Opcode) :
    let isa := ofRegistrations name ops
    let registry := Registry.ofRegistrations ops
    registry.InStep ∧ registry.opcodes = isa.opcodes ∧
      (∀ mnemonic, registry.index[mnemonic]? = isa.lookup mnemonic) ∧
      isa.opcodes.map Opcode.mnemonic = (ops.map Opcode.mnemonic).eraseDups ∧
      (∀ op ∈ isa.opcodes, lastRegistration? ops op.mnemonic = some op) ∧
      (∀ mnemonic op, isa.lookup mnemonic = some op ↔
        op ∈ isa.opcodes ∧ op.mnemonic = mnemonic) ∧
      ∀ mnemonic first second, mnemonic ≠ [] →
        ((∃ f ∈ (isa.encode mnemonic first second).faults, f.has .unknownOpcode) ↔
            mnemonic ∉ ops.map Opcode.mnemonic) ∧
          (mnemonic ∈ ops.map Opcode.mnemonic → ∃ op, lastRegistration? ops mnemonic = some op ∧
            isa.encode mnemonic first second = assemble op first second) := by
  intro isa registry
  have distinct : isa.Distinct := distinct_ofRegistrations name ops
  have same : registry.Represents isa := Registry.represents_ofRegistrations name ops
  have unregistered : ∀ mnemonic, isa.lookup mnemonic = none ↔
      mnemonic ∉ ops.map Opcode.mnemonic := by
    intro mnemonic
    rw [lookup_eq_none_iff, registered_iff]
  refine ⟨same.inStep distinct, same.opcodes_eq distinct, same.index,
    mnemonics_ofRegistrations name ops, ?_, distinct.lookup_eq_some_iff, ?_⟩
  · intro op member
    rw [← lookup_ofRegistrations name]
    exact distinct.lookup_of_mem member
  · intro mnemonic first second named
    constructor
    · rw [exists_unknownOpcode_iff isa named, unregistered]
    · intro registered
      cases found : isa.lookup mnemonic with
      | none => exact absurd registered ((unregistered mnemonic).mp found)
      | some op =>
          exact ⟨op, (lookup_ofRegistrations name ops mnemonic).symm.trans found,
            encode_of_lookup_eq_some named found first second⟩

/-- Three registrations, of which the last changes the class and the base of the first. -/
def reregistered : List Opcode :=
  [⟨"A", .nullary, 0xE000#16⟩, ⟨"B", .unary, 0x8000#16⟩, ⟨"A", .move, 0x0000#16⟩]

theorem registrations_reflected_of_reregistered :
    (ofRegistrations "tiny" reregistered).opcodes.map Opcode.mnemonic = ["A", "B"] ∧
      ((ofRegistrations "tiny" reregistered).encode "A" "5" "ACC").value = 0x1005#16 ∧
      ∃ f ∈ ((ofRegistrations "tiny" reregistered).encode "C" "5" "ACC").faults,
        f.has .unknownOpcode := by
  obtain ⟨_, _, _, mnemonics, _, _, encoded⟩ := registrations_reflected "tiny" reregistered
  refine ⟨mnemonics, ?_, ?_⟩
  · obtain ⟨op, last, word⟩ := (encoded "A" "5" "ACC" (by decide)).2 (by decide)
    have replaced : lastRegistration? reregistered "A" = some ⟨"A", .move, 0x0000#16⟩ := by decide
    rw [word, Option.some.inj (last.symm.trans replaced)]
    decide
  · exact (encoded "C" "5" "ACC" (by decide)).1.mpr (by decide)

end InstructionSet

end NodeAsm
