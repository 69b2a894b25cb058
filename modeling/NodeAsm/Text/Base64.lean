import NodeAsm.Text.Basic

/-!
# Base 64

The standard alphabet with padding, both ways. Reading skips line breaks.
-/

namespace NodeAsm.Base64

/-- The digit of a value below sixty-four. -/
def digit (n : Nat) : UInt8 :=
  if n < 26 then UInt8.ofNat (0x41 + n)
  else if n < 52 then UInt8.ofNat (0x61 + n - 26)
  else if n < 62 then UInt8.ofNat (0x30 + n - 52)
  else if n = 62 then 0x2B
  else 0x2F

/-- The padding byte. -/
def pad : UInt8 := 0x3D

/-- Writes three bytes as four digits, and the last one or two with padding. -/
def encode : Text → Text
  | [] => []
  | [a] =>
      let n := a.toNat * 0x10000
      [digit (n / 0x40000), digit (n / 0x1000 % 0x40), pad, pad]
  | [a, b] =>
      let n := a.toNat * 0x10000 + b.toNat * 0x100
      [digit (n / 0x40000), digit (n / 0x1000 % 0x40), digit (n / 0x40 % 0x40), pad]
  | a :: b :: c :: rest =>
      let n := a.toNat * 0x10000 + b.toNat * 0x100 + c.toNat
      digit (n / 0x40000) :: digit (n / 0x1000 % 0x40) :: digit (n / 0x40 % 0x40) ::
        digit (n % 0x40) :: encode rest

/-- The value of a digit. -/
def value? (b : UInt8) : Option Nat :=
  if 0x41 ≤ b && b ≤ 0x5A then some (b.toNat - 0x41)
  else if 0x61 ≤ b && b ≤ 0x7A then some (b.toNat - 0x61 + 26)
  else if 0x30 ≤ b && b ≤ 0x39 then some (b.toNat - 0x30 + 52)
  else if b = 0x2B then some 62
  else if b = 0x2F then some 63
  else none

/-- Reads groups of four digits. Only the last group may be padded. -/
def decodeGroups? : Text → Option Text
  | [] => some []
  | a :: b :: c :: d :: rest => do
      let a ← value? a
      let b ← value? b
      if c = pad && d = pad && rest.isEmpty then
        some [UInt8.ofNat (a * 4 + b / 16)]
      else
        let c ← value? c
        if d = pad && rest.isEmpty then
          some [UInt8.ofNat (a * 4 + b / 16), UInt8.ofNat (b % 16 * 16 + c / 4)]
        else
          let d ← value? d
          let tail ← decodeGroups? rest
          some (UInt8.ofNat (a * 4 + b / 16) :: UInt8.ofNat (b % 16 * 16 + c / 4) ::
            UInt8.ofNat (c % 4 * 64 + d) :: tail)
  | _ => none

/-- Reads padded digits, which may be broken into lines. -/
def decode? (t : Text) : Option Text :=
  decodeGroups? (t.filter fun b => b != Text.cr && b != Text.lf)

end NodeAsm.Base64
