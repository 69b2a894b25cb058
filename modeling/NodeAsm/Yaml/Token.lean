import NodeAsm.Yaml.CommentReading

/-!
# YAML tokens

The tokens of a stream, and how anchors, tags and directives are read.
-/

namespace NodeAsm.Yaml

/-- What a token is. -/
inductive TokenKind where
  | streamStart
  | streamEnd
  | versionDirective (major minor : Nat)
  | tagDirective (handle expansion : Text)
  | documentStart
  | documentEnd
  | blockSequenceStart
  | blockMappingStart
  | blockEnd
  | flowSequenceStart
  | flowSequenceEnd
  | flowMappingStart
  | flowMappingEnd
  | blockEntry
  | flowEntry
  | key
  | value
  | reference (name : Text)
  | anchor (name : Text)
  | tag (handle suffix : Text)
  | scalar (text : Text) (plain : Bool)
  deriving DecidableEq, Repr

/-- A token and where it starts and stops. -/
structure Token where
  kind : TokenKind
  start : Mark
  stop : Mark
  deriving DecidableEq, Repr

namespace Token

/-! ## Anchors and tags -/

/-- Whether a code point may follow an anchor. -/
def endsName (n : Nat) : Bool :=
  isBlankOrEnd n || [0x3F, 0x3A, 0x2C, 0x5D, 0x7D, 0x25, 0x40, 0x60].contains n

/-- The name of an anchor or alias behind its indicator. -/
def anchorName : Scan Text := do
  let start ← Scan.mark
  Scan.skip 1
  let name ← Scan.takeWhile isNameChar
  if name.isEmpty || !endsName (← Scan.here) then
    Scan.fail start "did not find expected alphabetic or numeric character"
  else return Text.ofChars name

/-- Whether a code point may stand in the address of a tag, escapes apart. -/
def isUriChar (n : Nat) : Bool :=
  isNameChar n
    || [0x3B, 0x2F, 0x3F, 0x3A, 0x40, 0x26, 0x3D, 0x2B, 0x24, 0x2C, 0x2E, 0x21, 0x7E, 0x2A, 0x27,
        0x28, 0x29, 0x5B, 0x5D].contains n

/-- The value of a hexadecimal digit. -/
def hexValue? (n : Nat) : Option Nat :=
  if n < 0x80 then (Numeral.digitValue? (UInt8.ofNat n)).filter (· < 16) else none

/-- The byte of an escape at the cursor. -/
def uriByte? (c : Cursor) : Option UInt8 :=
  if c.here = 0x25 then do
    let high ← hexValue? (c.peek 1)
    let low ← hexValue? (c.peek 2)
    some (UInt8.ofNat (high * 16 + low))
  else none

/-- Reads the byte of an escape that satisfies `allowed`. -/
def uriByte (start : Mark) (allowed : UInt8 → Bool) (message : Text) : Scan UInt8 := do
  Scan.demand 3
  match uriByte? (← get) with
  | none => Scan.fail start "did not find URI escaped octet"
  | some b =>
      if allowed b then
        Scan.skip 3
        return b
      else Scan.fail start message

/-- The escaped bytes that complete a character of which `n` are missing. -/
def uriTrail (start : Mark) : Nat → Scan Text
  | 0 => return []
  | n + 1 => do
      let b ← uriByte start (fun b => 0x80 ≤ b && b < 0xC0)
        "found an incorrect trailing UTF-8 octet"
      return b :: (← uriTrail start n)

/-- The bytes of one escaped character. -/
def uriEscape (start : Mark) : Scan Text := do
  let b ← uriByte start (fun b => (sequenceLength? b).isSome)
    "found an incorrect leading UTF-8 octet"
  return b :: (← uriTrail start ((sequenceLength? b).getD 1 - 1))

/-- The address of a tag behind the bytes in `read`, the latest of which comes
first. The first argument bounds the number of characters. -/
def uriChars (start : Mark) : Nat → Text → Scan Text
  | 0, read => return read.reverse
  | bound + 1, read => do
      Scan.demand 1
      let n ← Scan.here
      if n = 0x25 then
        let bytes ← uriEscape start
        uriChars start bound (bytes.reverse ++ read)
      else if isUriChar n then
        Scan.skip 1
        uriChars start bound (UInt8.ofNat n :: read)
      else return read.reverse

/-- The address of a tag, which continues `head` behind its first character. -/
def uri (start : Mark) (head : Text) : Scan Text := do
  let t ← uriChars start (← get).bound []
  if head.isEmpty && t.isEmpty then Scan.fail start "did not find expected tag URI"
  else return head.tail ++ t

/-- The handle of a tag: an exclamation mark, a name and perhaps another mark. -/
def tagHandle (start : Mark) (inDirective : Bool) : Scan Text := do
  Scan.demand 1
  if (← Scan.here) ≠ 0x21 then Scan.fail start "did not find expected '!'"
  else
    Scan.skip 1
    let name ← Scan.takeWhile isNameChar
    if (← Scan.here) = 0x21 then
      Scan.skip 1
      return "!" ++ Text.ofChars name ++ "!"
    else if inDirective && !name.isEmpty then Scan.fail start "did not find expected '!'"
    else return "!" ++ Text.ofChars name

/-- The handle and suffix of a tag that starts at `start`. -/
def tagParts (start : Mark) : Scan (Text × Text) := do
  Scan.demand 2
  if (← Scan.peek 1) = 0x3C then
    Scan.skip 2
    let suffix ← uri start []
    if (← Scan.here) ≠ 0x3E then Scan.fail start "did not find the expected '>'"
    else
      Scan.skip 1
      return ([], suffix)
  else
    let handle ← tagHandle start false
    if handle.length > 1 && handle.getLast? = some 0x21 then
      let suffix ← uri start []
      return (handle, suffix)
    else
      let suffix ← uri start handle
      return if suffix.isEmpty then ([], handle) else ("!", suffix)

/-- A tag. -/
def tagKind : Scan TokenKind := do
  let start ← Scan.mark
  let (handle, suffix) ← tagParts start
  Scan.demand 1
  if isBlankOrEnd (← Scan.here) then return .tag handle suffix
  else Scan.fail start "did not find expected whitespace or line break"

/-! ## Directives -/

/-- One of the numbers of a version, of at most `digits` digits, behind `value`. -/
def versionDigits (start : Mark) : Nat → Option Nat → Scan Nat
  | digits, value => do
      Scan.demand 1
      let n ← Scan.here
      if 0x30 ≤ n && n ≤ 0x39 then
        match digits with
        | 0 => Scan.fail start "found extremely long version number"
        | digits + 1 =>
            Scan.skip 1
            versionDigits start digits (some (value.getD 0 * 10 + (n - 0x30)))
      else
        match value with
        | some value => return value
        | none => Scan.fail start "did not find expected version number"

/-- The numbers of a version. -/
def version (start : Mark) : Scan TokenKind := do
  Scan.skipBlanks
  let major ← versionDigits start 2 none
  if (← Scan.here) ≠ 0x2E then Scan.fail start "did not find expected digit or '.' character"
  else
    Scan.skip 1
    let minor ← versionDigits start 2 none
    return .versionDirective major minor

/-- The handle of a directive and what it stands for. -/
def tagDefinition (start : Mark) : Scan TokenKind := do
  Scan.skipBlanks
  let handle ← tagHandle start true
  Scan.demand 1
  if !isBlank (← Scan.here) then Scan.fail start "did not find expected whitespace"
  else
    Scan.skipBlanks
    let expansion ← uri start []
    Scan.demand 1
    if isBlankOrEnd (← Scan.here) then return .tagDirective handle expansion
    else Scan.fail start "did not find expected whitespace or line break"

/-- The content of a directive by its name. -/
def directiveContent (start : Mark) (name : Text) : Scan TokenKind :=
  if name = "YAML" then version start
  else if name = "TAG" then tagDefinition start
  else Scan.fail start "found unknown directive name"

/-- The end of a line on which nothing but a comment may follow. -/
def restOfLine (start : Mark) : Scan Unit := do
  Scan.skipBlanks
  if (← Scan.here) = 0x23 then Scan.toLineEnd
  let n ← Scan.here
  if !isBreakOrEnd n then Scan.fail start "did not find expected comment or line break"
  else if isBreak n then
    let _ ← Scan.readLine

/-- A directive with the rest of its line. The token stops in front of that. -/
def directive : Scan Token := do
  let start ← Scan.mark
  Scan.skip 1
  let name ← Scan.takeWhile isNameChar
  if name.isEmpty then Scan.fail start "could not find expected directive name"
  else if !isBlankOrEnd (← Scan.here) then
    Scan.fail start "found unexpected non-alphabetical character"
  else
    let kind ← directiveContent start (Text.ofChars name)
    let stop ← Scan.mark
    restOfLine start
    return ⟨kind, start, stop⟩

end Token

end NodeAsm.Yaml
