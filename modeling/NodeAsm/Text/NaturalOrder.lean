import NodeAsm.Text.Numeral
import NodeAsm.Text.Utf8
import NodeAsm.Unicode.Basic
import NodeAsm.Unicode.Letter

/-!
# Natural order of names

Names are ordered so that a number inside them counts by its value: `a2` comes
before `a10`. The first characters that differ decide. Two letters compare by
code point; a letter comes after everything else, except directly behind a
digit, where it comes first; otherwise the numbers that start there compare by
value, then by length, then by code point.
-/

namespace NodeAsm.Text

/-- The value of the digits at the start of `codes`, continuing from `start`.
It wraps at sixty-four bits. -/
def leadingNumber (start : Int) (codes : List Nat) : Int :=
  (codes.takeWhile Unicode.isDecimalDigit).foldl
    (fun (v : Int) (code : Nat) => Numeral.wrap64 (10 * v + ((code : Int) - 0x30))) start

/-- How two tails compare whose first code points `x` and `y` differ. `before`
lists the equal code points in front of them, the nearest first. -/
def tailBefore (before : List Nat) (x : Nat) (xs : List Nat) (y : Nat) (ys : List Nat) : Bool :=
  let afterDigit := (before.head?.map Unicode.isDecimalDigit).getD false
  match Unicode.isLetter x, Unicode.isLetter y with
  | true, true => x < y
  | true, false => afterDigit
  | false, true => !afterDigit
  | false, false =>
      let zero := x = 0x30 || y = 0x30
      let inNumber := (before.takeWhile Unicode.isDecimalDigit).any (· != 0x30)
      let start : Int := if zero && inNumber then 1 else 0
      let m := leadingNumber start (x :: xs)
      let n := leadingNumber start (y :: ys)
      if m ≠ n then m < n
      else
        let i := ((x :: xs).takeWhile Unicode.isDecimalDigit).length
        let j := ((y :: ys).takeWhile Unicode.isDecimalDigit).length
        if i ≠ j then i < j else x < y

/-- Whether the first list of code points comes before the second. -/
def codesBefore (before : List Nat) : List Nat → List Nat → Bool
  | [], [] => false
  | [], _ :: _ => true
  | _ :: _, [] => false
  | x :: xs, y :: ys =>
      if x = y then codesBefore (x :: before) xs ys else tailBefore before x xs y ys

/-- Whether `s` comes before `t` in natural order. -/
def naturallyBefore (s t : Text) : Bool :=
  codesBefore [] (s.glyphs.map Glyph.code) (t.glyphs.map Glyph.code)

end NodeAsm.Text
