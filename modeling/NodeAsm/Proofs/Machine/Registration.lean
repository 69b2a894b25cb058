import Mathlib.Data.List.Nodup
import NodeAsm.Machine.InstructionSet

/-!
# Registered opcodes

Registering opcodes one after the other keeps one entry for each mnemonic, since an
opcode replaces the entry of its mnemonic in place. So every entry is found under its
own mnemonic, and one more registration changes what is found under its mnemonic only.
-/

namespace NodeAsm.InstructionSet

/-- The instruction set that registering opcodes one after the other makes. -/
def ofRegistrations (name : Text) (ops : List Opcode) : InstructionSet :=
  ops.foldl register (empty name)

/-- No two entries have the same mnemonic. -/
def Distinct (isa : InstructionSet) : Prop :=
  (isa.opcodes.map Opcode.mnemonic).Nodup

theorem distinct_empty (name : Text) : (empty name).Distinct :=
  List.nodup_nil

theorem lookup_eq_none_iff {isa : InstructionSet} {mnemonic : Text} :
    isa.lookup mnemonic = none ↔ mnemonic ∉ isa.opcodes.map Opcode.mnemonic := by
  rw [lookup, List.find?_eq_none, List.mem_map]
  constructor
  · rintro other ⟨op, member, named⟩
    exact other op member (beq_iff_eq.mpr named)
  · intro unregistered op member named
    exact unregistered ⟨op, member, eq_of_beq named⟩

theorem mnemonic_replace (op entry : Opcode) :
    (if entry.mnemonic = op.mnemonic then op else entry).mnemonic = entry.mnemonic := by
  split
  next same => exact same.symm
  next => rfl

theorem mnemonic_of_lookup_eq_some {isa : InstructionSet} {mnemonic : Text} {op : Opcode}
    (found : isa.lookup mnemonic = some op) : op.mnemonic = mnemonic := by
  have named := List.find?_some found
  exact eq_of_beq named

/-- An instruction is encoded by the entry of its mnemonic. -/
theorem encode_of_lookup_eq_some {isa : InstructionSet} {mnemonic : Text} (named : mnemonic ≠ [])
    {op : Opcode} (found : isa.lookup mnemonic = some op) (first second : Text) :
    isa.encode mnemonic first second = assemble op first second := by
  rw [encode, if_neg (by simpa using named), found]

/-- One more registration adds the mnemonic at the end, unless it is there already. -/
theorem mnemonics_register (isa : InstructionSet) (op : Opcode) :
    (isa.register op).opcodes.map Opcode.mnemonic =
      if op.mnemonic ∈ isa.opcodes.map Opcode.mnemonic then isa.opcodes.map Opcode.mnemonic
      else isa.opcodes.map Opcode.mnemonic ++ [op.mnemonic] := by
  unfold register
  cases found : isa.lookup op.mnemonic with
  | some old =>
      have registered : op.mnemonic ∈ isa.opcodes.map Opcode.mnemonic := by
        by_contra unregistered
        rw [lookup_eq_none_iff.mpr unregistered] at found
        contradiction
      -- The new entry bears the mnemonic of the old one, so the list of mnemonics stays.
      rw [if_pos registered]
      simp only [List.map_map, Function.comp_def, mnemonic_replace]
  | none =>
      rw [if_neg (lookup_eq_none_iff.mp found)]
      simp only [List.map_append, List.map_singleton]

theorem lookup_replace (isa : InstructionSet) (op : Opcode) (mnemonic : Text) :
    lookup { isa with
        opcodes := isa.opcodes.map fun old => if old.mnemonic = op.mnemonic then op else old }
        mnemonic =
      (isa.lookup mnemonic).map fun old => if old.mnemonic = op.mnemonic then op else old := by
  rw [lookup, lookup, List.find?_map]
  simp only [Function.comp_def, mnemonic_replace]

/-- One more registration decides what is found under its mnemonic and under no other. -/
theorem lookup_register (isa : InstructionSet) (op : Opcode) (mnemonic : Text) :
    (isa.register op).lookup mnemonic =
      if op.mnemonic = mnemonic then some op else isa.lookup mnemonic := by
  unfold register
  cases found : isa.lookup op.mnemonic with
  | some old =>
      rw [lookup_replace]
      split
      next same => rw [← same, found, Option.map_some, if_pos (mnemonic_of_lookup_eq_some found)]
      next other =>
          cases entry : isa.lookup mnemonic with
          | none => rfl
          | some kept =>
              have named := mnemonic_of_lookup_eq_some entry
              rw [Option.map_some, if_neg (fun same => other (same.symm.trans named))]
  | none =>
      have appended : lookup { isa with opcodes := isa.opcodes ++ [op] } mnemonic =
          (isa.lookup mnemonic).or (if op.mnemonic = mnemonic then some op else none) := by
        simp only [lookup, List.find?_append, List.find?_singleton, beq_iff_eq]
      rw [appended]
      split
      next same => rw [← same, found, Option.none_or]
      next => rw [Option.or_none]

/-- One more registration keeps the mnemonics apart. -/
theorem Distinct.register {isa : InstructionSet} (distinct : isa.Distinct) (op : Opcode) :
    (isa.register op).Distinct := by
  rw [Distinct, mnemonics_register]
  split
  next => exact distinct
  next new =>
      rw [← List.concat_eq_append]
      exact distinct.concat new

/-- So do further registrations. -/
theorem Distinct.foldl_register {isa : InstructionSet} (distinct : isa.Distinct)
    (ops : List Opcode) : (ops.foldl InstructionSet.register isa).Distinct := by
  induction ops generalizing isa with
  | nil => exact distinct
  | cons op ops inductionHypothesis => exact inductionHypothesis (distinct.register op)

theorem distinct_ofRegistrations (name : Text) (ops : List Opcode) :
    (ofRegistrations name ops).Distinct :=
  (distinct_empty name).foldl_register ops

/-- Every entry is found under its mnemonic. -/
theorem Distinct.lookup_of_mem {isa : InstructionSet} (distinct : isa.Distinct) {op : Opcode}
    (member : op ∈ isa.opcodes) : isa.lookup op.mnemonic = some op := by
  cases found : isa.lookup op.mnemonic with
  | none => exact absurd (List.mem_map_of_mem member) (lookup_eq_none_iff.mp found)
  | some other =>
      have equal : other = op :=
        List.inj_on_of_nodup_map distinct (List.mem_of_find?_eq_some found) member
          (mnemonic_of_lookup_eq_some found)
      rw [equal]

end NodeAsm.InstructionSet
