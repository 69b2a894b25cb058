import NodeAsm.Proofs.Diagnostics.Shadowing

/-!
# What lint reports

Lint first reports every program whose node was defined before, then goes through the
labels of each program. The warnings about one name depend on the bindings of that name
alone: they come from a contest between these bindings, whose winner is the earliest of
those with the lowest slot. Every other binding is reported once as shadowed, and the name
is reported as unused at its first binding if no jump names it.
-/

namespace NodeAsm.Lint

/-! ## Nodes defined before -/

/-- The warning that the node of `p` was defined by `first`. -/
def redefined (p first : Program) : Issue :=
  ⟨.lint, .warning, p.node, p.line,
    "node " ++ Numeral.ofInt p.node ++ " is defined more than once", none,
    some (.firstLine first.line)⟩

/-- The warning about the program at position `i`, if its node stands already among the
programs before it. -/
def redefinitionAt (ps : List Program) (i : Nat) : Option Issue :=
  ps[i]?.bind fun p => ((ps.take i).find? fun q => q.node = p.node).map (redefined p)

theorem redefinitionAt_append (before : List Program) (p : Program) (after : List Program) :
    redefinitionAt (before ++ p :: after) before.length =
      (before.find? fun q => q.node = p.node).map (redefined p) := by
  rw [redefinitionAt, List.getElem?_append_right (Nat.le_refl _), Nat.sub_self,
    List.getElem?_cons_zero, List.take_left]
  rfl

/-- `seen` has each node of some programs with the line of the first of them. -/
def Lists (seen : List (Int × Int)) (before : List Program) : Prop :=
  ∀ node, seen.lookup node = (before.find? fun q => q.node = node).map Program.line

namespace Lists

variable {seen : List (Int × Int)} {before : List Program} {p : Program}

theorem exists_of_some {line : Int} (lists : Lists seen before)
    (found : seen.lookup p.node = some line) :
    ∃ first, before.find? (fun q => q.node = p.node) = some first ∧ first.line = line :=
  Option.map_eq_some_iff.mp ((lists p.node).symm.trans found)

theorem eq_none (lists : Lists seen before) (missed : seen.lookup p.node = none) :
    before.find? (fun q => q.node = p.node) = none :=
  Option.map_eq_none_iff.mp ((lists p.node).symm.trans missed)

/-- A node that is listed stays listed with its first line. -/
theorem again {line : Int} (lists : Lists seen before) (found : seen.lookup p.node = some line) :
    Lists seen (before ++ [p]) := by
  intro node
  rw [lists node, List.find?_append]
  by_cases same : p.node = node
  · subst same
    obtain ⟨first, earlier, _⟩ := lists.exists_of_some found
    rw [earlier]
    rfl
  · simp [same]

/-- A new node is listed behind the others. -/
theorem new (lists : Lists seen before) (missed : seen.lookup p.node = none) :
    Lists (seen ++ [(p.node, p.line)]) (before ++ [p]) := by
  intro node
  rw [List.lookup_append, lists node, List.find?_append]
  by_cases same : p.node = node
  · subst same
    simp [lists.eq_none missed]
  · have other : (node == p.node) = false := by simpa using Ne.symm same
    simp [same, List.lookup_cons, other]

end Lists

/-- Behind some programs, each further program is reported whose node stands before it. -/
theorem redefinitions_eq {seen : List (Int × Int)} {before : List Program}
    (lists : Lists seen before) (ps : List Program) :
    redefinitions seen ps =
      (List.range ps.length).filterMap fun i =>
        redefinitionAt (before ++ ps) (before.length + i) := by
  induction ps generalizing seen before with
  | nil => rfl
  | cons p ps inductionHypothesis =>
      have positions : ((fun i => redefinitionAt (before ++ p :: ps) (before.length + i)) ∘
            Nat.succ) =
          fun i => redefinitionAt (before ++ [p] ++ ps) ((before ++ [p]).length + i) := by
        funext i
        simp only [Function.comp_apply, List.append_assoc, List.singleton_append,
          List.length_append, List.length_singleton]
        rw [Nat.add_assoc, Nat.add_comm 1 i]
      rw [List.length_cons, List.range_succ_eq_map, List.filterMap_cons, List.filterMap_map,
        Nat.add_zero, redefinitionAt_append, positions, redefinitions]
      cases found : seen.lookup p.node with
      | some line =>
          obtain ⟨first, earlier, rfl⟩ := lists.exists_of_some found
          rw [← inductionHypothesis (lists.again found), earlier]
          rfl
      | none =>
          rw [← inductionHypothesis (lists.new found), lists.eq_none found]
          rfl

/-- The programs reported are those whose node stands before them. -/
theorem redefinitions_nil_eq (ps : List Program) :
    redefinitions [] ps = (List.range ps.length).filterMap (redefinitionAt ps) := by
  have lists : Lists [] [] := fun _ => rfl
  have reports := redefinitions_eq lists ps
  simpa only [List.nil_append, List.length_nil, Nat.zero_add] using reports

/-! ## One name -/

/-- Whether an issue is about a label. -/
def isAbout (name : Text) (i : Issue) : Bool :=
  i.detail = some (.label name)

/-- The warnings that the bindings of one name give behind the winner so far. -/
def contestIssues (p : Program) (winner : Binding) : List Binding → List Issue
  | [] => []
  | b :: bs =>
      if b.slot < winner.slot then shadowed p.node winner b :: contestIssues p b bs
      else shadowed p.node b winner :: contestIssues p winner bs

/-- The warnings about one name, given its winner so far and its bindings to come. -/
def nameIssues (p : Program) : Option Binding → List Binding → List Issue
  | some winner, bs => contestIssues p winner bs
  | none, [] => []
  | none, b :: bs =>
      (if isReferenced p b.name then [] else [unused p.node b]) ++ contestIssues p b bs

/-- Replacing the binding of a name keeps all names, so each name is found where it was. -/
theorem find?_map_replace (seen : List Binding) (b : Binding) (name : Text) :
    (seen.map fun s => if s.name = b.name then b else s).find? (fun s => s.name == name) =
      (seen.find? fun s => s.name == name).map fun s => if s.name = b.name then b else s := by
  have names : ((fun s : Binding => s.name == name) ∘ fun s => if s.name = b.name then b else s) =
      fun s => s.name == name := by
    funext s
    simp only [Function.comp_apply]
    split
    next same => rw [same]
    next => rfl
  rw [List.find?_map, names]

theorem find?_enter_of_ne (seen : List Binding) {b : Binding} {name : Text}
    (other : b.name ≠ name) :
    (enter seen b).find? (fun s => s.name == name) = seen.find? fun s => s.name == name := by
  unfold enter
  split
  · split
    · rw [find?_map_replace]
      cases found : seen.find? fun s => s.name == name with
      | none => rfl
      | some s =>
          have named := List.find?_some found
          have apart : s.name ≠ b.name := fun same => other (same.symm.trans (eq_of_beq named))
          rw [Option.map_some, if_neg apart]
    · rfl
  · rw [List.find?_append, List.find?_singleton, beq_eq_false_iff_ne.mpr other]
    simp

theorem find?_enter_self (seen : List Binding) (b : Binding) :
    (enter seen b).find? (fun s => s.name == b.name) =
      match seen.find? fun s => s.name == b.name with
      | some first => some (if b.slot < first.slot then b else first)
      | none => some b := by
  unfold enter
  cases found : seen.find? fun s => s.name == b.name with
  | some first =>
      have named := List.find?_some found
      by_cases lower : b.slot < first.slot
      · simp only [if_pos lower]
        rw [find?_map_replace, found, Option.map_some, if_pos (eq_of_beq named)]
      · simp only [if_neg lower]
        exact found
  | none => simp [List.find?_append, found]

theorem isAbout_shadowed (node : Int) (hidden winner : Binding) (name : Text) :
    isAbout name (shadowed node hidden winner) = decide (hidden.name = name) := by
  simp [isAbout, shadowed, Issue.lintWarning]

theorem isAbout_unused (node : Int) (b : Binding) (name : Text) :
    isAbout name (unused node b) = decide (b.name = name) := by
  simp [isAbout, unused, Issue.lintWarning]

/-- One binding gives a warning that it or the winner of its name is shadowed, or that it is
unused. -/
theorem exists_of_issue?_eq_some {p : Program} {seen : List Binding} {b : Binding} {i : Issue}
    (gives : issue? p seen b = some i) :
    (∃ first ∈ seen, first.name = b.name ∧
      (i = shadowed p.node first b ∨ i = shadowed p.node b first)) ∨ i = unused p.node b := by
  unfold issue? at gives
  cases found : seen.find? fun first => first.name == b.name with
  | some first =>
      have named := List.find?_some found
      rw [found] at gives
      obtain rfl := Option.some.inj gives
      refine Or.inl ⟨first, List.mem_of_find?_eq_some found, eq_of_beq named, ?_⟩
      split
      · exact Or.inl rfl
      · exact Or.inr rfl
  | none =>
      rw [found] at gives
      simp only at gives
      split at gives
      · contradiction
      · exact Or.inr (Option.some.inj gives).symm

/-- So its warnings are about its own name only. -/
theorem isAbout_of_issue?_eq_some {p : Program} {seen : List Binding} {b : Binding} {i : Issue}
    (gives : issue? p seen b = some i) (name : Text) : isAbout name i = decide (b.name = name) := by
  rcases exists_of_issue?_eq_some gives with ⟨first, _, named, rfl | rfl⟩ | rfl
  · rw [isAbout_shadowed, named]
  · exact isAbout_shadowed p.node b first name
  · exact isAbout_unused p.node b name

/-- The warnings about a name depend on the bindings of that name alone. -/
theorem filter_isAbout_bindingIssues (p : Program) (name : Text) (seen bs : List Binding) :
    (bindingIssues p seen bs).filter (isAbout name) =
      nameIssues p (seen.find? fun s => s.name == name) (bs.filter fun b => b.name = name) := by
  induction bs generalizing seen with
  | nil => cases seen.find? fun s => s.name == name <;> rfl
  | cons b bs inductionHypothesis =>
      rw [bindingIssues_cons, List.filter_append, inductionHypothesis]
      by_cases same : b.name = name
      · subst same
        have kept : (issue? p seen b).toList.filter (isAbout b.name) =
            (issue? p seen b).toList := by
          apply List.filter_eq_self.mpr
          intro i member
          rw [isAbout_of_issue?_eq_some (Option.mem_toList.mp member)]
          exact decide_eq_true rfl
        rw [kept, find?_enter_self, List.filter_cons_of_pos (by simp), issue?]
        cases seen.find? fun s => s.name == b.name with
        | some first =>
            by_cases lower : b.slot < first.slot <;> simp [nameIssues, contestIssues, lower]
        | none => by_cases jumped : isReferenced p b.name <;> simp [nameIssues, jumped]
      · have dropped : (issue? p seen b).toList.filter (isAbout name) = [] := by
          apply List.filter_eq_nil_iff.mpr
          intro i member
          rw [isAbout_of_issue?_eq_some (Option.mem_toList.mp member)]
          simpa using same
        rw [dropped, find?_enter_of_ne seen same, List.filter_cons_of_neg (by simpa using same),
          List.nil_append]

/-! ## The contest -/

/-- `i` says that the binding of a name with this line and slot is shadowed. -/
def TellsShadowed (p : Program) (name : Text) (place : Int × Int) (i : Issue) : Prop :=
  ∃ other : Int, i = ⟨.lint, .warning, p.node, place.1,
    "label " ++ name.quote ++ " at slot " ++ Numeral.ofInt place.2 ++ " is shadowed by slot "
      ++ Numeral.ofInt other, none, some (.label name)⟩

/-- The line and the slot of a binding. -/
def place (b : Binding) : Int × Int :=
  (b.line, b.slot)

theorem tellsShadowed_shadowed (p : Program) (hidden winner : Binding) :
    TellsShadowed p hidden.name (place hidden) (shadowed p.node hidden winner) :=
  ⟨winner.slot, rfl⟩

/-- The winner of a contest: the earliest of the bindings with the lowest slot. -/
structure Wins (front : List Binding) (winner : Binding) (back : List Binding) : Prop where
  before : ∀ b ∈ front, winner.slot < b.slot
  behind : ∀ b ∈ back, winner.slot ≤ b.slot

/-- The warnings `shadows` tell of each binding of a name but the winner. -/
def TellsLosers (p : Program) (name : Text) (bound : List Binding) (shadows : List Issue) : Prop :=
  ∃ front winner back places, bound = front ++ winner :: back ∧ Wins front winner back ∧
    places.Perm ((front ++ back).map place) ∧ List.Forall₂ (TellsShadowed p name) places shadows

namespace TellsLosers

variable {p : Program} {name : Text} {first b : Binding} {rest : List Binding}
  {shadows : List Issue}

theorem singleton (p : Program) (name : Text) (b : Binding) : TellsLosers p name [b] [] :=
  ⟨[], b, [], [], rfl, ⟨by simp, by simp⟩, List.Perm.refl _, .nil⟩

/-- A binding with a lower slot behind the first hides the first. -/
theorem first_hidden (tells : TellsLosers p name (b :: rest) shadows) (lower : b.slot < first.slot)
    {i : Issue} (told : TellsShadowed p name (place first) i) :
    TellsLosers p name (first :: b :: rest) (i :: shadows) := by
  obtain ⟨front, winner, back, places, split, wins, perm, each⟩ := tells
  have least : winner.slot ≤ b.slot := by
    have member : b ∈ front ++ winner :: back := split ▸ List.mem_cons_self
    rcases List.mem_append.mp member with early | late
    · exact Int.le_of_lt (wins.before b early)
    · rcases List.mem_cons.mp late with rfl | late
      · exact Int.le_refl _
      · exact wins.behind b late
  refine ⟨first :: front, winner, back, place first :: places, by rw [split, List.cons_append],
    ⟨?_, wins.behind⟩, perm.cons _, .cons told each⟩
  intro x member
  rcases List.mem_cons.mp member with rfl | early
  · omega
  · exact wins.before x early

/-- A binding behind the first whose slot is no lower is hidden. -/
theorem second_hidden (tells : TellsLosers p name (first :: rest) shadows)
    (higher : first.slot ≤ b.slot) {i : Issue} (told : TellsShadowed p name (place b) i) :
    TellsLosers p name (first :: b :: rest) (i :: shadows) := by
  obtain ⟨front, winner, back, places, split, wins, perm, each⟩ := tells
  -- Either the first binding wins, or it loses to a later one and stands in front of it.
  cases front with
  | nil =>
      obtain ⟨rfl, rfl⟩ := List.cons.inj split
      refine ⟨[], first, b :: rest, place b :: places, rfl, ⟨by simp, ?_⟩, perm.cons _,
        .cons told each⟩
      intro x member
      rcases List.mem_cons.mp member with rfl | late
      · exact higher
      · exact wins.behind x late
  | cons head front =>
      obtain ⟨rfl, rfl⟩ := List.cons.inj split
      have lost : winner.slot < first.slot := wins.before first List.mem_cons_self
      refine ⟨first :: b :: front, winner, back, place b :: places, rfl, ⟨?_, wins.behind⟩,
        (perm.cons _).trans (List.Perm.swap ..), .cons told each⟩
      intro x member
      rcases List.mem_cons.mp member with rfl | member
      · exact lost
      · rcases List.mem_cons.mp member with rfl | early
        · omega
        · exact wins.before x (List.mem_cons_of_mem _ early)

theorem length_eq (tells : TellsLosers p name (first :: rest) shadows) :
    shadows.length = rest.length := by
  obtain ⟨front, winner, back, places, split, _, perm, each⟩ := tells
  have bound := congrArg List.length split
  have told := perm.length_eq
  rw [each.length_eq] at told
  simp only [List.length_cons, List.length_append, List.length_map] at bound told
  omega

end TellsLosers

/-- The loser of each comparison is reported, so in the end all but the winner are. -/
theorem tellsLosers_contestIssues (p : Program) (name : Text) {first : Binding}
    {rest : List Binding} (named : ∀ b ∈ first :: rest, b.name = name) :
    TellsLosers p name (first :: rest) (contestIssues p first rest) := by
  induction rest generalizing first with
  | nil => exact .singleton p name first
  | cons b rest inductionHypothesis =>
      have firstNamed : first.name = name := named first (by simp)
      have nextNamed : b.name = name := named b (by simp)
      rw [contestIssues]
      split
      next lower =>
        apply TellsLosers.first_hidden _ lower (firstNamed ▸ tellsShadowed_shadowed p first b)
        exact inductionHypothesis fun x member => named x (List.mem_cons_of_mem _ member)
      next higher =>
        apply TellsLosers.second_hidden _ (Int.not_lt.mp higher)
          (nextNamed ▸ tellsShadowed_shadowed p b first)
        apply inductionHypothesis
        intro x member
        rcases List.mem_cons.mp member with rfl | later
        · exact firstNamed
        · exact named x (List.mem_cons_of_mem _ (List.mem_cons_of_mem _ later))

/-! ## Jumps -/

/-- Some slot holds a jump to the label. -/
def Jumped (p : Program) (name : Text) : Prop :=
  ∃ i : Fin slotCount, (p.entries.get i).word.isJump ∧ (p.entries.get i).jumpLabel = name

instance (p : Program) (name : Text) : Decidable (Jumped p name) :=
  inferInstanceAs (Decidable (∃ _, _))

theorem isReferenced_eq (p : Program) {name : Text} (named : name ≠ []) :
    isReferenced p name = decide (Jumped p name) := by
  rw [Bool.eq_iff_iff, decide_eq_true_iff, isReferenced, List.isEmpty_eq_false_iff.mpr named,
    Bool.not_false, Bool.true_and, List.any_eq_true]
  constructor
  · rintro ⟨e, member, jumps⟩
    obtain ⟨i, inside, rfl⟩ := Vector.mem_iff_getElem.mp (Vector.mem_toList_iff.mp member)
    rw [Bool.and_eq_true, beq_iff_eq] at jumps
    exact ⟨⟨i, inside⟩, jumps⟩
  · rintro ⟨i, jumps, label⟩
    refine ⟨p.entries.get i, Vector.mem_toList_iff.mpr (Vector.getElem_mem i.isLt), ?_⟩
    rw [Bool.and_eq_true, beq_iff_eq]
    exact ⟨jumps, label⟩

/-- The warning that no jump names the label of a binding. -/
def neverJumped (p : Program) (b : Binding) : Issue :=
  ⟨.lint, .warning, p.node, b.line, "label " ++ b.name.quote ++ " is never jumped to", none,
    some (.label b.name)⟩

/-- Every label warning is about the name of a binding. -/
theorem exists_isAbout_of_mem_bindingIssues {p : Program} {seen bs : List Binding} {i : Issue}
    (member : i ∈ bindingIssues p seen bs) : ∃ b ∈ bs, isAbout b.name i := by
  induction bs generalizing seen with
  | nil => contradiction
  | cons b bs inductionHypothesis =>
      rw [bindingIssues_cons] at member
      rcases List.mem_append.mp member with now | later
      · have own := isAbout_of_issue?_eq_some (Option.mem_toList.mp now) b.name
        exact ⟨b, List.mem_cons_self, by simp [own]⟩
      · obtain ⟨x, member, about⟩ := inductionHypothesis later
        exact ⟨x, List.mem_cons_of_mem _ member, about⟩

/-! ## All warnings -/

/-- The warnings about the labels of a program: none about other names, and for each name one
for every binding but the winner, behind one at the first binding if no jump names it. -/
structure LabelsDescribed (p : Program) (warnings : List Issue) : Prop where
  bound : ∀ i ∈ warnings, ∃ b ∈ p.bindings, isAbout b.name i
  name : ∀ name first rest, p.bindings.filter (fun b => b.name = name) = first :: rest →
    ∃ shadows, warnings.filter (isAbout name) =
        (if Jumped p name then [] else [neverJumped p first]) ++ shadows ∧
      shadows.length = rest.length ∧ TellsLosers p name (first :: rest) shadows

theorem labelsDescribed_labelIssues {p : Program} (named : ∀ b ∈ p.bindings, b.name ≠ []) :
    LabelsDescribed p (labelIssues p) where
  bound _ := exists_isAbout_of_mem_bindingIssues
  name name first rest bindings := by
    have member {b : Binding} (inside : b ∈ first :: rest) : b ∈ p.bindings ∧ b.name = name := by
      rw [← bindings] at inside
      simpa using inside
    obtain ⟨bound, rfl⟩ := member List.mem_cons_self
    have tells := tellsLosers_contestIssues p first.name fun b inside => (member inside).2
    refine ⟨contestIssues p first rest, ?_, tells.length_eq, tells⟩
    rw [labelIssues, filter_isAbout_bindingIssues, bindings, List.find?_nil, nameIssues,
      isReferenced_eq p (named first bound)]
    by_cases jumped : Jumped p first.name
    · simp [jumped]
    · simp [jumped, unused, neverJumped, Issue.lintWarning]

/-- Lint reports nothing but warnings: first the programs whose node was defined before, and
then program by program the shadowed bindings and the unused names. -/
theorem issues_described {ps : List Program}
    (named : ∀ p ∈ ps, ∀ b ∈ p.bindings, b.name ≠ []) :
    (∀ i ∈ issues ps, i.severity = .warning) ∧
      issues ps = (List.range ps.length).filterMap (redefinitionAt ps) ++ ps.flatMap labelIssues ∧
        ∀ p ∈ ps, LabelsDescribed p (labelIssues p) := by
  refine ⟨fun _ => severity_of_mem_issues, ?_, ?_⟩
  · rw [issues, redefinitions_nil_eq]
  · intro p member
    exact labelsDescribed_labelIssues (named p member)

/-- A program that binds the name x to the slots three, one and one again. -/
def tied : Program :=
  { Program.zero with bindings := [⟨"x", 3, 2⟩, ⟨"x", 1, 3⟩, ⟨"x", 1, 4⟩] }

/-- Of three bindings of one name, the second wins against a higher slot and a tie. -/
theorem issues_described_of_tied :
    (∀ p ∈ [tied, tied], ∀ b ∈ p.bindings, b.name ≠ []) ∧
      issues [tied, tied] = redefined tied tied :: (labelIssues tied ++ labelIssues tied) ∧
      ∃ shadows, (labelIssues tied).filter (isAbout "x") = neverJumped tied ⟨"x", 3, 2⟩ :: shadows ∧
        shadows.length = 2 ∧ TellsLosers tied "x" tied.bindings shadows := by
  have named : ∀ p ∈ [tied, tied], ∀ b ∈ p.bindings, b.name ≠ [] := by decide
  obtain ⟨_, all, labels⟩ := issues_described named
  obtain ⟨shadows, about, count, tells⟩ := (labels tied (by simp)).name "x" _ _ rfl
  exact ⟨named, all, shadows, about, count, tells⟩

end NodeAsm.Lint
