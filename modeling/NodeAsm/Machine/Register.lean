import NodeAsm.Fault

/-!
# Registers

A node has eight registers, four of which lead to its neighbours. Each has a code
of three bits.
-/

namespace NodeAsm

/-- A register of a node. -/
inductive Register where
  | nil | acc | any | last | left | right | up | down
  deriving DecidableEq, Repr

namespace Register

/-- Every register in the order of the codes. -/
def all : List Register :=
  [nil, acc, any, last, left, right, up, down]

@[simp]
theorem mem_all (r : Register) : r ∈ all := by
  cases r <;> decide

/-- The code of a register. -/
def code : Register → Nat
  | nil => 0
  | acc => 1
  | any => 2
  | last => 3
  | left => 4
  | right => 5
  | up => 6
  | down => 7

/-- The register with the given code, taken modulo eight. -/
def ofCode (n : Nat) : Register :=
  match n % 8 with
  | 0 => nil
  | 1 => acc
  | 2 => any
  | 3 => last
  | 4 => left
  | 5 => right
  | 6 => up
  | _ => down

theorem code_lt (r : Register) : r.code < 8 := by
  cases r <;> decide

@[simp]
theorem ofCode_code (r : Register) : ofCode r.code = r := by
  cases r <;> rfl

/-- The name of a register in source text. -/
def name : Register → Text
  | nil => "NIL"
  | acc => "ACC"
  | any => "ANY"
  | last => "LAST"
  | left => "LEFT"
  | right => "RIGHT"
  | up => "UP"
  | down => "DOWN"

/-- The register with the given name. Names match byte for byte. -/
def ofName? (t : Text) : Option Register :=
  all.find? fun r => r.name == t

@[simp]
theorem ofName?_name (r : Register) : ofName? r.name = some r := by
  cases r <;> decide

/-- The name of the register with code `n`, or a placeholder where there is no
such register. -/
def nameOfCode (n : Nat) : Text :=
  if n < 8 then (ofCode n).name else "Register(" ++ Numeral.ofNat n ++ ")"

/-- Reads a register name. An unknown name stands for `nil`. -/
def read (t : Text) : Checked Register :=
  match ofName? t with
  | some r => .clean r
  | none => ⟨nil, [.unknownRegister t]⟩

end Register

end NodeAsm
