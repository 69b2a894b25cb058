import Mathlib.Data.Int.ModEq
import Mathlib.Data.List.TakeWhile
import NodeAsm.Proofs.Text.Numeral
import NodeAsm.Source.Directive

/-!
# The index of a directive

A directive is read without fault exactly if a digit follows its marker, with
nothing but blanks and one sign in between. The index is the value of the digits
modulo the number of nodes, although it is reduced at every digit. A directive
denotes exactly what is read from it: the representative of its signed numeral, of
whatever length, or node zero with a fault.
-/

namespace NodeAsm.Directive

/-- A directive line with a digit behind its blanks and its sign. -/
def Indexed (line : Text) : Prop :=
  ∃ blanks sign digit rest, line = marker :: (blanks ++ sign ++ digit :: rest) ∧
    (∀ b ∈ blanks, isBlank b) ∧ (sign = [] ∨ sign = [0x2B] ∨ sign = [0x2D]) ∧
    Numeral.isDigit digit

theorem isBlank_eq_false_of_isDigit {b : UInt8} (digit : Numeral.isDigit b) :
    isBlank b = false := by
  simp only [Numeral.isDigit, isBlank, Text.space, Text.tab, Text.cr, Bool.and_eq_true,
    decide_eq_true_eq] at digit ⊢
  grind

theorem splitSign_eq (t : Text) :
    ∃ sign, (sign = [] ∨ sign = [0x2B] ∨ sign = [0x2D]) ∧ t = sign ++ (Numeral.splitSign t).2 := by
  cases t with
  | nil => exact ⟨[], Or.inl rfl, rfl⟩
  | cons b rest =>
      by_cases minus : b = 0x2D
      · exact ⟨[0x2D], by simp, by simp [Numeral.splitSign, minus]⟩
      · by_cases plus : b = 0x2B
        · exact ⟨[0x2B], by simp, by simp [Numeral.splitSign, plus]⟩
        · exact ⟨[], by simp, by simp [Numeral.splitSign, minus, plus]⟩

/-- Behind blanks and a sign, a digit is where the index begins. -/
theorem splitSign_dropWhile (blanks sign rest : Text) {digit : UInt8}
    (blank : ∀ b ∈ blanks, isBlank b) (signed : sign = [] ∨ sign = [0x2B] ∨ sign = [0x2D])
    (isDigit : Numeral.isDigit digit) :
    Numeral.splitSign ((blanks ++ sign ++ digit :: rest).dropWhile isBlank) =
      (sign == [0x2D], digit :: rest) := by
  rw [List.append_assoc, List.dropWhile_append_of_pos blank]
  have minus : digit ≠ 0x2D := Numeral.ne_of_isDigit isDigit rfl
  have plus : digit ≠ 0x2B := Numeral.ne_of_isDigit isDigit rfl
  rcases signed with rfl | rfl | rfl
  · rw [List.nil_append, List.dropWhile_cons_of_neg (by simp [isBlank_eq_false_of_isDigit isDigit])]
    simp [Numeral.splitSign, minus, plus]
  · rfl
  · rfl

theorem index?_eq_none_iff (t : Text) :
    index? t = none ↔
      (Numeral.splitSign (t.dropWhile isBlank)).2.takeWhile Numeral.isDigit = [] := by
  simp only [index?, List.isEmpty_iff]
  split <;> simp_all

theorem index?_ne_none_iff_indexed (t : Text) : index? t ≠ none ↔ Indexed (marker :: t) := by
  rw [ne_eq, index?_eq_none_iff]
  constructor
  · intro nonempty
    obtain ⟨sign, signed, parts⟩ := splitSign_eq (t.dropWhile isBlank)
    cases found : (Numeral.splitSign (t.dropWhile isBlank)).2 with
    | nil => simp [found] at nonempty
    | cons digit rest =>
        have isDigit : Numeral.isDigit digit := by
          by_contra other
          rw [found, List.takeWhile_cons_of_neg other] at nonempty
          exact nonempty rfl
        refine ⟨t.takeWhile isBlank, sign, digit, rest, ?_,
          fun b member => List.mem_takeWhile_imp member, signed, isDigit⟩
        rw [← found, List.append_assoc, ← parts, List.takeWhile_append_dropWhile]
  · rintro ⟨blanks, sign, digit, rest, line, blank, signed, isDigit⟩
    have parts : t = blanks ++ sign ++ digit :: rest := (List.cons.inj line).2
    rw [parts, splitSign_dropWhile blanks sign rest blank signed isDigit,
      List.takeWhile_cons_of_pos isDigit]
    exact List.cons_ne_nil _ _

/-- Exactly the indexed lines are read without fault. -/
theorem faults_eq_nil_iff_indexed {line : Text} {index : Checked Nat}
    (read : read? line = some index) : index.faults = [] ↔ Indexed line := by
  cases line with
  | nil => simp [read?] at read
  | cons b rest =>
      by_cases marked : b = marker
      · subst marked
        rw [← index?_ne_none_iff_indexed]
        simp only [read?, if_true] at read
        cases found : index? rest with
        | some n =>
            rw [found] at read
            cases read
            simp [Checked.clean]
        | none =>
            rw [found] at read
            cases read
            simp
      · simp [read?, marked] at read

/-! ## The value of the index -/

/-- Reducing at every digit is reducing once. -/
theorem reducedValue_eq (digits : Text) : reducedValue digits = Numeral.value digits % nodeCount := by
  have fold : ∀ v w : Nat, v = w % nodeCount →
      digits.foldl (fun v b => (v * 10 + (b.toNat - 0x30)) % nodeCount) v =
        digits.foldl (fun v b => 10 * v + (b.toNat - 0x30)) w % nodeCount := by
    induction digits with
    | nil => exact fun v w reduced => reduced
    | cons b rest inductionHypothesis =>
        intro v w reduced
        apply inductionHypothesis
        simp only [reduced, nodeCount]
        omega
  exact fold 0 0 rfl

theorem index?_lt {t : Text} {n : Nat} (read : index? t = some n) : n < nodeCount := by
  simp only [index?] at read
  split at read
  · contradiction
  · have value := Option.some.inj read
    rw [← value, reducedValue_eq]
    split
    · exact Nat.mod_lt _ (by decide)
    · exact Nat.mod_lt _ (by decide)

/-- Every directive selects a node that exists. -/
theorem value_lt_of_read?_eq_some {line : Text} {index : Checked Nat}
    (read : read? line = some index) : index.value < nodeCount := by
  cases line with
  | nil => simp [read?] at read
  | cons b rest =>
      simp only [read?] at read
      split at read
      · split at read
        · rename_i found
          cases read
          exact index?_lt found
        · cases read
          exact Nat.zero_lt_of_ne_zero (by decide)
      · contradiction

/-! ## What a directive denotes -/

/-- The bytes that may stand in front of an index: the space, and the tab, the line feed, the
vertical tab, the form feed and the carriage return. -/
def blankBytes : List UInt8 :=
  [0x20, 0x09, 0x0A, 0x0B, 0x0C, 0x0D]

theorem isBlank_iff_mem_blankBytes (b : UInt8) : isBlank b ↔ b ∈ blankBytes := by
  simp only [isBlank, Text.space, Text.tab, Text.cr, blankBytes, Bool.or_eq_true, beq_iff_eq,
    Bool.and_eq_true, List.mem_cons, List.not_mem_nil, or_false]
  grind

/-- Behind its marker, blanks and at most one sign, `line` goes on with the digits `digits`,
which no further digit follows. -/
structure Spells (line sign digits : Text) : Prop where
  parts : ∃ blanks rest, line = marker :: (blanks ++ sign ++ digits ++ rest) ∧
    (∀ b ∈ blanks, b ∈ blankBytes) ∧ ∀ b ∈ rest.head?, Numeral.isDigit b = false
  signed : sign = [] ∨ sign = [0x2B] ∨ sign = [0x2D]
  nonempty : digits ≠ []
  all : ∀ b ∈ digits, Numeral.isDigit b

/-- The integer of a run of digits behind a sign. -/
def signedValue (sign digits : Text) : Int :=
  let magnitude : Nat := Nat.ofDigits 10 (digits.reverse.map fun b => b.toNat - 0x30)
  if sign = [0x2D] then -(magnitude : Int) else magnitude

/-- What a directive line denotes: the index congruent to its numeral, or node zero and the
fault of a missing index. -/
inductive Denotes (line : Text) : Checked Nat → Prop where
  | numbered {sign digits : Text} {n : Nat} : Spells line sign digits → n < 256 →
      n ≡ signedValue sign digits [ZMOD 256] → Denotes line (.clean n)
  | unnumbered : line.head? = some marker → (∀ sign digits, ¬ Spells line sign digits) →
      Denotes line ⟨0, [.noted ("directive " ++ line.dropLineEnd.quote) (.cause .badNodeIndex)]⟩

/-- An indexed line spells the longest run of digits that begins with its first digit. -/
theorem indexed_iff_exists_spells (line : Text) :
    Indexed line ↔ ∃ sign digits, Spells line sign digits := by
  constructor
  · rintro ⟨blanks, sign, digit, rest, rfl, blank, signed, isDigit⟩
    refine ⟨sign, (digit :: rest).takeWhile Numeral.isDigit, ?_, signed, ?_, ?_⟩
    · refine ⟨blanks, (digit :: rest).dropWhile Numeral.isDigit, ?_, ?_, ?_⟩
      · rw [List.append_assoc (blanks ++ sign), List.takeWhile_append_dropWhile]
      · intro b member
        exact (isBlank_iff_mem_blankBytes b).mp (blank b member)
      · intro b first
        have stops := List.head?_dropWhile_not Numeral.isDigit (digit :: rest)
        rw [first] at stops
        exact stops
    · rw [List.takeWhile_cons_of_pos isDigit]
      exact List.cons_ne_nil _ _
    · intro b member
      exact List.mem_takeWhile_imp member
  · rintro ⟨sign, digits, ⟨blanks, rest, rfl, blank, _⟩, signed, nonempty, all⟩
    cases digits with
    | nil => exact absurd rfl nonempty
    | cons digit digits =>
        refine ⟨blanks, sign, digit, digits ++ rest, ?_, ?_, signed, all digit List.mem_cons_self⟩
        · simp only [List.append_assoc, List.cons_append]
        · intro b member
          exact (isBlank_iff_mem_blankBytes b).mpr (blank b member)

/-- Digits end where the longest run of them ends. -/
theorem takeWhile_isDigit_append {digits rest : Text} (all : ∀ b ∈ digits, Numeral.isDigit b)
    (stops : ∀ b ∈ rest.head?, Numeral.isDigit b = false) :
    (digits ++ rest).takeWhile Numeral.isDigit = digits := by
  rw [List.takeWhile_append_of_pos all]
  cases rest with
  | nil => rw [List.takeWhile_nil, List.append_nil]
  | cons b rest =>
      have stop : ¬ Numeral.isDigit b := by simp [stops b rfl]
      rw [List.takeWhile_cons_of_neg stop, List.append_nil]

/-- The index that is read from a spelled numeral. -/
theorem index?_of_spells {blanks sign digits rest : Text} (blank : ∀ b ∈ blanks, b ∈ blankBytes)
    (signed : sign = [] ∨ sign = [0x2B] ∨ sign = [0x2D]) (nonempty : digits ≠ [])
    (all : ∀ b ∈ digits, Numeral.isDigit b) (stops : ∀ b ∈ rest.head?, Numeral.isDigit b = false) :
    index? (blanks ++ sign ++ digits ++ rest) =
      some (if sign = [0x2D] then (256 - Numeral.value digits % 256) % 256
        else Numeral.value digits % 256) := by
  have run := takeWhile_isDigit_append all stops
  have filled : digits.isEmpty = false := by simpa using nonempty
  cases digits with
  | nil => contradiction
  | cons digit digits =>
      have split := splitSign_dropWhile blanks sign (digits ++ rest)
        (fun b member => (isBlank_iff_mem_blankBytes b).mpr (blank b member)) signed
        (all digit List.mem_cons_self)
      rw [List.cons_append] at run
      rw [List.append_assoc (blanks ++ sign), List.cons_append]
      simp only [index?, split, run, filled, reducedValue_eq, beq_iff_eq, nodeCount]
      rfl

/-- A run of digits alone is read as its value modulo the number of nodes. -/
theorem index?_of_digits {digits : Text} (nonempty : digits ≠ [])
    (all : ∀ b ∈ digits, Numeral.isDigit b) :
    index? digits = some (Numeral.value digits % nodeCount) := by
  have index := @index?_of_spells [] [] digits [] (by simp) (Or.inl rfl) nonempty all (by simp)
  simpa [nodeCount] using index

theorem read?_of_index?_eq_some {t : Text} {n : Nat} (found : index? t = some n) :
    read? (marker :: t) = some (.clean n) := by
  simp only [read?, if_true, found]

/-- A numeral of any length is read as the index congruent to it. -/
theorem exists_read?_of_spells {line sign digits : Text} (spells : Spells line sign digits) :
    ∃ n, read? line = some (.clean n) ∧ n < 256 ∧ n ≡ signedValue sign digits [ZMOD 256] := by
  obtain ⟨⟨blanks, rest, rfl, blank, stops⟩, signed, nonempty, all⟩ := spells
  have index := index?_of_spells blank signed nonempty all stops
  refine ⟨_, read?_of_index?_eq_some index, ?_, ?_⟩
  · split <;> exact Nat.mod_lt _ (by decide)
  · rw [signedValue, ← Numeral.value_eq_ofDigits, Int.ModEq]
    split <;> omega

theorem read?_of_not_spells {line : Text} (marked : line.head? = some marker)
    (silent : ∀ sign digits, ¬ Spells line sign digits) :
    read? line = some ⟨0, [.badNodeIndex line]⟩ := by
  cases line with
  | nil => contradiction
  | cons b rest =>
      obtain rfl : b = marker := Option.some.inj marked
      have missing : index? rest = none := by
        by_contra found
        obtain ⟨sign, digits, spells⟩ :=
          (indexed_iff_exists_spells _).mp ((index?_ne_none_iff_indexed rest).mp found)
        exact silent sign digits spells
      simp only [read?, if_true, missing]

/-- What a line denotes is read from it. -/
theorem Denotes.read?_eq {line : Text} {index : Checked Nat} (denotes : Denotes line index) :
    read? line = some index := by
  cases denotes with
  | @numbered sign digits n spells small congruent =>
      obtain ⟨m, read, bounded, same⟩ := exists_read?_of_spells spells
      have equal : (m : Int) ≡ n [ZMOD 256] := same.trans congruent.symm
      rw [Int.ModEq] at equal
      obtain rfl : m = n := by omega
      exact read
  | unnumbered marked silent => exact read?_of_not_spells marked silent

/-- Every line that begins with the marker denotes something. -/
theorem exists_denotes {line : Text} (marked : line.head? = some marker) :
    ∃ index, Denotes line index := by
  by_cases spelled : ∃ sign digits, Spells line sign digits
  · obtain ⟨sign, digits, spells⟩ := spelled
    obtain ⟨n, _, small, congruent⟩ := exists_read?_of_spells spells
    exact ⟨_, .numbered spells small congruent⟩
  · exact ⟨_, .unnumbered marked fun sign digits spells => spelled ⟨sign, digits, spells⟩⟩

theorem head?_eq_of_read?_eq_some {line : Text} {index : Checked Nat}
    (read : read? line = some index) : line.head? = some marker := by
  cases line with
  | nil => contradiction
  | cons b rest =>
      by_cases marked : b = marker
      · rw [marked, List.head?_cons]
      · simp [read?, marked] at read

/-- A line is read as a directive exactly if it begins with the marker, and then as exactly
what it denotes. -/
theorem read?_eq_some_iff_denotes (line : Text) :
    ((∃ index, read? line = some index) ↔ line.head? = some 0x40) ∧
      ∀ index, read? line = some index ↔ Denotes line index := by
  constructor
  · constructor
    · rintro ⟨index, read⟩
      exact head?_eq_of_read?_eq_some read
    · intro marked
      obtain ⟨index, denotes⟩ := exists_denotes marked
      exact ⟨index, denotes.read?_eq⟩
  · intro index
    constructor
    · intro read
      obtain ⟨other, denotes⟩ := exists_denotes (head?_eq_of_read?_eq_some read)
      obtain rfl : other = index := Option.some.inj (denotes.read?_eq.symm.trans read)
      exact denotes
    · exact Denotes.read?_eq

example : read? "@ \t-99999999999999999999 left" = some (.clean 1) :=
  rfl

end NodeAsm.Directive
