import Mathlib.Data.List.DropRight
import NodeAsm.Source.Statement

/-!
# Words and labels of a line

The scanner reads a line byte by byte. Said of the line as a whole, it cuts off
the comment, takes as label the piece directly before the first colon, and takes
as words the nonempty pieces between delimiters of what remains. This file states
that description with the list functions of the library and shows that the scanner
meets it on every line.
-/

namespace NodeAsm.Statement

/-! ## Pieces between delimiters -/

/-- Whether a byte belongs to a word. -/
def isWordByte (b : UInt8) : Bool :=
  !isDelimiter b

/-- The nonempty pieces of a text between delimiters. -/
def pieces (t : Text) : List Text :=
  (t.splitOnP isDelimiter).filter fun piece => !piece.isEmpty

@[simp]
theorem pieces_nil : pieces [] = [] :=
  rfl

/-- The pieces on both sides of a delimiter are independent. -/
theorem pieces_append_cons (front back : Text) {b : UInt8} (delimiter : isDelimiter b) :
    pieces (front ++ b :: back) = pieces front ++ pieces back := by
  rw [pieces, List.splitOnP_append_cons front back delimiter, List.filter_append]
  rfl

theorem pieces_concat (t : Text) {b : UInt8} (delimiter : isDelimiter b) :
    pieces (t ++ [b]) = pieces t := by
  rw [pieces_append_cons t [] delimiter, pieces_nil, List.append_nil]

theorem pieces_cons (t : Text) {b : UInt8} (delimiter : isDelimiter b) :
    pieces (b :: t) = pieces t :=
  pieces_append_cons [] t delimiter

/-- A text without delimiters is one piece, unless it is empty. -/
theorem pieces_of_forall_isWordByte {t : Text} (bytes : ∀ b ∈ t, isWordByte b) :
    pieces t = if t = [] then [] else [t] := by
  have whole : t.splitOnP isDelimiter = [t] := by
    apply List.splitOnP_eq_singleton
    intro b member
    simpa [isWordByte] using bytes b member
  rw [pieces, whole]
  cases t with
  | nil => rfl
  | cons b rest => rfl

/-- The pieces of a text are those in front of its last run of word bytes, and
that run. -/
theorem pieces_eq_append_rtakeWhile (t : Text) :
    pieces t = pieces (t.rdropWhile isWordByte) ++
      if t.rtakeWhile isWordByte = [] then [] else [t.rtakeWhile isWordByte] := by
  have run : pieces (t.rtakeWhile isWordByte) =
      if t.rtakeWhile isWordByte = [] then [] else [t.rtakeWhile isWordByte] :=
    pieces_of_forall_isWordByte fun _ member => List.mem_rtakeWhile_imp member
  have parts : t.rdropWhile isWordByte ++ t.rtakeWhile isWordByte = t :=
    List.rdropWhile_append_rtakeWhile
  rw [← run]
  rcases List.eq_nil_or_concat (t.rdropWhile isWordByte) with front | ⟨front, b, ends⟩
  · rw [front, List.nil_append] at parts
    rw [front, pieces_nil, List.nil_append, parts]
  · have delimiter : isDelimiter b := by
      have last := List.rdropWhile_last_not isWordByte t (by simp [ends])
      simpa [ends, isWordByte] using last
    rw [List.concat_eq_append] at ends
    rw [ends, List.append_assoc, List.singleton_append] at parts
    rw [ends, pieces_concat front delimiter, ← pieces_append_cons front _ delimiter, parts]

/-- `ending` is the longest end of a text in which no delimiter stands. -/
structure LongestWordEnd (t ending : Text) : Prop where
  isSuffix : ending <:+ t
  bytes : ∀ b ∈ ending, isWordByte b
  longest : ∀ other, other <:+ t → (∀ b ∈ other, isWordByte b) → other <:+ ending

theorem longestWordEnd_rtakeWhile (t : Text) : LongestWordEnd t (t.rtakeWhile isWordByte) where
  isSuffix := List.rtakeWhile_suffix isWordByte t
  bytes _ member := List.mem_rtakeWhile_imp member
  longest other ends bytes := by
    obtain ⟨front, rfl⟩ := ends
    have kept : (front ++ other).rtakeWhile isWordByte = front.rtakeWhile isWordByte ++ other := by
      induction other using List.reverseRecOn with
      | nil => simp
      | append_singleton other b inductionHypothesis =>
          rw [← List.append_assoc, List.rtakeWhile_concat_pos _ _ _ (bytes b (by simp)),
            inductionHypothesis fun c member => bytes c (List.mem_append_left _ member),
            List.append_assoc]
    rw [kept]
    exact List.suffix_append _ _

/-! ## The description of a line -/

/-- A line without its comment. -/
def uncommented (line : Text) : Text :=
  line.takeWhile fun b => b != commentMarker

/-- The part of a line before its first colon, and all of it if it has none. -/
def beforeColon (line : Text) : Text :=
  (uncommented line).takeWhile fun b => b != labelMarker

/-- The part of a line behind its first colon. -/
def behindColon (line : Text) : Text :=
  ((uncommented line).dropWhile fun b => b != labelMarker).tail

theorem uncommented_eq_append {line : Text} (colon : labelMarker ∈ uncommented line) :
    uncommented line = beforeColon line ++ labelMarker :: behindColon line := by
  have parts : beforeColon line ++ (uncommented line).dropWhile (fun b => b != labelMarker) =
      uncommented line :=
    List.takeWhile_append_dropWhile
  cases rest : (uncommented line).dropWhile (fun b => b != labelMarker) with
  | nil =>
      have none := List.dropWhile_eq_nil_iff.mp rest labelMarker colon
      simp at none
  | cons b back =>
      have head : b = labelMarker := by
        have stopped := List.head?_dropWhile_not (fun b => b != labelMarker) (uncommented line)
        simpa [rest] using stopped
      rw [behindColon, rest, List.tail_cons, ← head, ← rest]
      exact parts.symm

theorem ne_labelMarker_of_mem_beforeColon {line : Text} {b : UInt8}
    (member : b ∈ beforeColon line) : b ≠ labelMarker := by
  simpa using List.mem_takeWhile_imp member

/-- The label of a line: the word bytes directly before the first colon, empty if
there is no colon. -/
def labelOf (line : Text) : Text :=
  if labelMarker ∈ uncommented line then (beforeColon line).rtakeWhile isWordByte else []

/-- The words of a line outside its label and its comment. -/
def wordsOf (line : Text) : List Text :=
  if labelMarker ∈ uncommented line then
    pieces ((beforeColon line).rdropWhile isWordByte) ++ pieces (behindColon line)
  else pieces (uncommented line)

/-- What a line stands for: its label, the first word as mnemonic, the second and
third as operands, and the line without its end. The words behind these are reported. -/
def described (line : Text) : Checked Statement :=
  ⟨{ label := labelOf line
     opcode := (wordsOf line).headD []
     operands := ((wordsOf line).drop 1).take 2
     raw := line.rdropWhile fun b => b == Text.cr || b == Text.lf },
    if (wordsOf line).length ≤ 3 then []
    else
      [.noted ("unexpected " ++ [Text.space].intercalate ((wordsOf line).drop 3))
        (.cause .tooManyArguments)]⟩

/-! ## The scanner -/

namespace Scan

theorem run_eq_foldl (s : Scan) (line : Text) :
    s.run line = ((uncommented line).foldl step s).endWord := by
  induction line generalizing s with
  | nil => rfl
  | cons b rest inductionHypothesis =>
      by_cases comment : b = commentMarker
      · simp [run, uncommented, comment]
      · simp only [run, if_neg comment, inductionHypothesis, uncommented]
        rw [List.takeWhile_cons_of_pos (by simpa using comment), List.foldl_cons]

theorem step_of_isDelimiter (s : Scan) {b : UInt8} (delimiter : isDelimiter b) :
    s.step b = s.endWord := by
  have colon : b ≠ labelMarker := by
    rintro rfl
    exact absurd delimiter (by decide)
  simp [step, colon, delimiter]

theorem step_of_isWordByte (s : Scan) {b : UInt8} (byte : isWordByte b)
    (unlabelled : ¬ (b = labelMarker ∧ s.label = none)) :
    s.step b = { s with word := b :: s.word } := by
  have delimiter : isDelimiter b = false := by simpa [isWordByte] using byte
  simp [step, unlabelled, delimiter]

theorem words_endWord (s : Scan) :
    s.endWord.words.reverse =
      s.words.reverse ++ if s.word.reverse = [] then [] else [s.word.reverse] := by
  cases word : s.word with
  | nil => simp [endWord, word]
  | cons b rest => simp [endWord, word]

/-- Behind a text in which no colon ends a label, the word being read is the last
run of word bytes, and the words are the pieces before it. -/
theorem foldl_step (s : Scan) (bytes : ∀ b ∈ s.word, isWordByte b) (t : Text)
    (unlabelled : ∀ b ∈ t, ¬ (b = labelMarker ∧ s.label = none)) :
    (t.foldl step s).label = s.label ∧
      (t.foldl step s).word.reverse = (s.word.reverse ++ t).rtakeWhile isWordByte ∧
      (t.foldl step s).words.reverse =
        s.words.reverse ++ pieces ((s.word.reverse ++ t).rdropWhile isWordByte) := by
  induction t using List.reverseRecOn with
  | nil =>
      have own : ∀ b ∈ s.word.reverse, isWordByte b := by simpa using bytes
      rw [List.append_nil, List.rtakeWhile_eq_self_iff.mpr own,
        List.rdropWhile_eq_nil_iff.mpr own]
      exact ⟨rfl, rfl, by simp⟩
  | append_singleton t b inductionHypothesis =>
      obtain ⟨label, word, words⟩ := inductionHypothesis fun other member =>
        unlabelled other (List.mem_append_left _ member)
      have last := unlabelled b (by simp)
      rw [List.foldl_append, List.foldl_cons, List.foldl_nil, ← List.append_assoc]
      by_cases byte : isWordByte b
      · rw [step_of_isWordByte _ byte (by rwa [label]), List.rtakeWhile_concat_pos _ _ _ byte,
          List.rdropWhile_concat_pos _ _ _ byte]
        exact ⟨label, by rw [List.reverse_cons, word], words⟩
      · have delimiter : isDelimiter b := by simpa [isWordByte] using byte
        rw [step_of_isDelimiter _ delimiter, List.rtakeWhile_concat_neg _ _ _ byte,
          List.rdropWhile_concat_neg _ _ _ byte, pieces_concat _ delimiter, words_endWord, word,
          words, pieces_eq_append_rtakeWhile (s.word.reverse ++ t), List.append_assoc]
        refine ⟨?_, ?_, rfl⟩
        · unfold endWord
          split
          · exact label
          · exact label
        · unfold endWord
          split
          · simp_all
          · rfl

@[simp]
theorem label_endWord (s : Scan) : s.endWord.label = s.label := by
  unfold endWord
  split <;> rfl

/-- A text in which no colon ends a label is read into its pieces. -/
theorem foldl_step_endWord (s : Scan) (empty : s.word = []) (t : Text)
    (unlabelled : ∀ b ∈ t, ¬ (b = labelMarker ∧ s.label = none)) :
    (t.foldl step s).endWord.label = s.label ∧
      (t.foldl step s).endWord.words.reverse = s.words.reverse ++ pieces t := by
  obtain ⟨label, word, words⟩ := foldl_step s (by simp [empty]) t unlabelled
  rw [empty, List.reverse_nil, List.nil_append] at word words
  rw [label_endWord, words_endWord, word, words, pieces_eq_append_rtakeWhile t,
    List.append_assoc]
  exact ⟨label, rfl⟩

/-- The scanner finds the label and the words of a line. -/
theorem run_start (line : Text) :
    (start.run line).label.getD [] = labelOf line ∧
      (start.run line).words.reverse = wordsOf line := by
  rw [run_eq_foldl, labelOf, wordsOf]
  by_cases colon : labelMarker ∈ uncommented line
  · obtain ⟨label, word, words⟩ := foldl_step start (by simp [start]) (beforeColon line)
      fun b member marker => ne_labelMarker_of_mem_beforeColon member marker.1
    have colonStep : ((beforeColon line).foldl step start).step labelMarker =
        ⟨some ((beforeColon line).foldl step start).word.reverse, [],
          ((beforeColon line).foldl step start).words⟩ :=
      if_pos ⟨rfl, label⟩
    have rest := foldl_step_endWord
      ⟨some ((beforeColon line).foldl step start).word.reverse, [],
        ((beforeColon line).foldl step start).words⟩ rfl (behindColon line) (by simp)
    rw [if_pos colon, if_pos colon, uncommented_eq_append colon, List.foldl_append,
      List.foldl_cons, colonStep, rest.1, rest.2, words]
    exact ⟨word, rfl⟩
  · have whole := foldl_step_endWord start rfl (uncommented line)
      fun b member marker => colon (marker.1 ▸ member)
    rw [if_neg colon, if_neg colon, whole.1, whole.2]
    exact ⟨rfl, rfl⟩

end Scan

/-! ## Reading a line -/

theorem label_read (line : Text) : (read line).value.label = labelOf line :=
  (Scan.run_start line).1

theorem opcode_read (line : Text) : (read line).value.opcode = (wordsOf line).headD [] := by
  rw [← (Scan.run_start line).2]
  rfl

theorem operands_read (line : Text) :
    (read line).value.operands = ((wordsOf line).take maxWords).tail := by
  rw [← (Scan.run_start line).2]
  rfl

/-- Exactly the words past the second operand are reported. -/
theorem faults_read (line : Text) :
    (read line).faults =
      if (wordsOf line).length ≤ maxWords then []
      else [.tooManyArguments ((wordsOf line).drop maxWords)] := by
  rw [← (Scan.run_start line).2]
  simp only [read, List.isEmpty_iff, List.drop_eq_nil_iff]

theorem ne_nil_of_mem_pieces {t piece : Text} (member : piece ∈ pieces t) : piece ≠ [] := by
  simpa using (List.mem_filter.mp member).2

theorem ne_nil_of_mem_wordsOf {line word : Text} (member : word ∈ wordsOf line) : word ≠ [] := by
  unfold wordsOf at member
  split at member
  · rcases List.mem_append.mp member with front | back
    · exact ne_nil_of_mem_pieces front
    · exact ne_nil_of_mem_pieces back
  · exact ne_nil_of_mem_pieces member

/-- No delimiter stands within a piece. -/
theorem isWordByte_of_mem_pieces {t piece : Text} (member : piece ∈ pieces t) {b : UInt8}
    (inside : b ∈ piece) : isWordByte b := by
  have split : piece ∈ t.splitOnP isDelimiter := (List.mem_filter.mp member).1
  clear member
  induction t generalizing piece with
  | nil =>
      rw [List.splitOnP_nil, List.mem_singleton] at split
      rw [split] at inside
      contradiction
  | cons c t inductionHypothesis =>
      obtain ⟨front, rest, parts⟩ :=
        List.exists_cons_of_ne_nil (List.splitOnP_ne_nil isDelimiter t)
      rw [parts] at inductionHypothesis
      rw [List.splitOnP_cons_eq_if_modifyHead, parts] at split
      by_cases delimiter : isDelimiter c
      · rw [if_pos delimiter] at split
        rcases List.mem_cons.mp split with rfl | later
        · contradiction
        · exact inductionHypothesis inside later
      · rw [if_neg delimiter, List.modifyHead_cons] at split
        rcases List.mem_cons.mp split with rfl | later
        · rcases List.mem_cons.mp inside with rfl | inFront
          · simpa [isWordByte] using delimiter
          · exact inductionHypothesis inFront List.mem_cons_self
        · exact inductionHypothesis inside (List.mem_cons_of_mem _ later)

theorem isWordByte_of_mem_wordsOf {line word : Text} (member : word ∈ wordsOf line) {b : UInt8}
    (inside : b ∈ word) : isWordByte b := by
  unfold wordsOf at member
  split at member
  · rcases List.mem_append.mp member with front | back
    · exact isWordByte_of_mem_pieces front inside
    · exact isWordByte_of_mem_pieces back inside
  · exact isWordByte_of_mem_pieces member inside

/-- A line is code exactly if it has a word. -/
theorem isCode_read (line : Text) : (read line).value.isCode ↔ wordsOf line ≠ [] := by
  rw [isCode, opcode_read]
  cases words : wordsOf line with
  | nil => simp
  | cons word rest =>
      have member : word ∈ wordsOf line := by
        rw [words]
        exact List.mem_cons_self
      simpa using ne_nil_of_mem_wordsOf member

/-- Every line is read as it is described, and its label is the longest run of word
bytes that ends at the first colon. -/
theorem read_eq_described (line : Text) :
    read line = described line ∧
      (labelMarker ∈ uncommented line → LongestWordEnd (beforeColon line) (labelOf line)) := by
  constructor
  · obtain ⟨label, words⟩ := Scan.run_start line
    have operands : ((wordsOf line).take maxWords).tail = ((wordsOf line).drop 1).take 2 := by
      rw [← List.drop_one, List.drop_take]
      rfl
    have faults : (if ((wordsOf line).drop maxWords).isEmpty then []
        else [Fault.tooManyArguments ((wordsOf line).drop maxWords)]) = (described line).faults := by
      simp only [List.isEmpty_iff, List.drop_eq_nil_iff, Fault.tooManyArguments,
        Text.joinWith_eq_intercalate]
      rfl
    simp only [read, label, words, operands, faults]
    rfl
  · intro colon
    rw [labelOf, if_pos colon]
    exact longestWordEnd_rtakeWhile (beforeColon line)

/-- A line with words in front of its label, a further colon and too many words. -/
def crowded : Text :=
  "x lo,p:hi:\tMOV 1 ,#q:\r\n"

theorem read_eq_described_of_crowded :
    labelMarker ∈ uncommented crowded ∧ LongestWordEnd "x lo,p" (read crowded).value.label ∧
      read crowded =
        ⟨⟨"p", "x", ["lo", "hi:"], "x lo,p:hi:\tMOV 1 ,#q:"⟩,
          [.noted "unexpected MOV 1" (.cause .tooManyArguments)]⟩ := by
  have colon : labelMarker ∈ uncommented crowded := by decide
  obtain ⟨whole, label⟩ := read_eq_described crowded
  refine ⟨colon, ?_, ?_⟩
  · rw [label_read]
    exact label colon
  · rw [whole]
    rfl

/-! ## Lines put together from words -/

/-- A text that is read as one word. -/
def IsWord (t : Text) : Prop :=
  t ≠ [] ∧ ∀ b ∈ t, isWordByte b ∧ b ≠ commentMarker

instance (t : Text) : Decidable (IsWord t) :=
  decidable_of_iff (t ≠ [] ∧ t.all fun b => isWordByte b && b != commentMarker)
    (by simp [IsWord])

/-- A text without comment that is split into `words`. -/
structure Splits (t : Text) (words : List Text) : Prop where
  pieces : pieces t = words
  plain : ∀ b ∈ t, b ≠ commentMarker

theorem IsWord.splits {t : Text} (word : IsWord t) : Splits t [t] where
  pieces := by
    rw [pieces_of_forall_isWordByte fun b member => (word.2 b member).1, if_neg word.1]
  plain b member := (word.2 b member).2

theorem Splits.append_cons {front back : Text} {first second : List Text}
    (frontSplits : Splits front first) (backSplits : Splits back second) {b : UInt8}
    (delimiter : isDelimiter b) : Splits (front ++ b :: back) (first ++ second) where
  pieces := by
    rw [pieces_append_cons front back delimiter, frontSplits.pieces, backSplits.pieces]
  plain c member := by
    rcases List.mem_append.mp member with inFront | inRest
    · exact frontSplits.plain c inFront
    · rcases List.mem_cons.mp inRest with rfl | inBack
      · rintro rfl
        exact absurd delimiter (by decide)
      · exact backSplits.plain c inBack

theorem Splits.space {t word : Text} {words : List Text} (splits : Splits t words)
    (isWord : IsWord word) : Splits (t ++ " " ++ word) (words ++ [word]) := by
  rw [List.append_assoc]
  exact splits.append_cons isWord.splits (by decide)

theorem Splits.comma {t word : Text} {words : List Text} (splits : Splits t words)
    (isWord : IsWord word) : Splits (t ++ ", " ++ word) (words ++ [word]) := by
  have empty : Splits [] [] := ⟨rfl, by simp⟩
  rw [List.append_assoc]
  exact splits.append_cons (empty.append_cons isWord.splits (b := Text.space) (by decide))
    (by decide)

/-- A label, a colon and a text are read as such. -/
theorem read_labelled {label t : Text} {words : List Text} (isWord : IsWord label)
    (unmarked : labelMarker ∉ label) (splits : Splits t words) :
    labelOf (label ++ ": " ++ t) = label ∧ wordsOf (label ++ ": " ++ t) = words := by
  have parts : label ++ ": " ++ t = label ++ labelMarker :: Text.space :: t :=
    List.append_assoc _ _ _
  have whole : uncommented (label ++ ": " ++ t) = label ++ labelMarker :: Text.space :: t := by
    rw [parts]
    apply List.takeWhile_eq_self_iff.mpr
    intro b member
    rw [bne_iff_ne]
    rcases List.mem_append.mp member with inLabel | inRest
    · exact (isWord.2 b inLabel).2
    · rcases List.mem_cons.mp inRest with rfl | inRest
      · decide
      · rcases List.mem_cons.mp inRest with rfl | inText
        · decide
        · exact splits.plain b inText
  have names : ∀ b ∈ label, (b != labelMarker) = true := by
    intro b member
    rw [bne_iff_ne]
    rintro rfl
    exact unmarked member
  have before : beforeColon (label ++ ": " ++ t) = label := by
    rw [beforeColon, whole, List.takeWhile_append_of_pos names,
      List.takeWhile_cons_of_neg (by simp), List.append_nil]
  have behind : behindColon (label ++ ": " ++ t) = Text.space :: t := by
    rw [behindColon, whole, List.dropWhile_append_of_pos names,
      List.dropWhile_cons_of_neg (by simp), List.tail_cons]
  have colon : labelMarker ∈ uncommented (label ++ ": " ++ t) := by
    rw [whole]
    simp
  have bytes : ∀ b ∈ label, isWordByte b := fun b member => (isWord.2 b member).1
  rw [labelOf, wordsOf, if_pos colon, if_pos colon, before, behind,
    List.rtakeWhile_eq_self_iff.mpr bytes, List.rdropWhile_eq_nil_iff.mpr bytes, pieces_nil,
    List.nil_append, pieces_cons t (by decide), splits.pieces]
  exact ⟨rfl, rfl⟩

end NodeAsm.Statement
