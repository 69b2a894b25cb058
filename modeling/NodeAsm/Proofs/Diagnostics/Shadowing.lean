import Mathlib.Data.List.Nodup
import Mathlib.Data.List.Perm.Basic
import NodeAsm.Diagnostics.Lint

/-!
# Shadowed bindings

While lint reads the bindings of a program, it keeps one winner for each name. A
binding that meets the winner of its name replaces it if its slot is lower, and the
loser of the two is reported as shadowed. At the end every binding is either the
winner of its name or reported, and the winner has the lowest slot.
-/

namespace NodeAsm.Lint

/-! ## One binding -/

/-- The winners after one more binding. -/
def enter (seen : List Binding) (b : Binding) : List Binding :=
  match seen.find? fun first => first.name == b.name with
  | some first =>
      if b.slot < first.slot then seen.map fun s => if s.name = b.name then b else s else seen
  | none => seen ++ [b]

/-- The loser that one more binding makes, if its name has a winner. -/
def loser? (seen : List Binding) (b : Binding) : Option Binding :=
  (seen.find? fun first => first.name == b.name).map fun first =>
    if b.slot < first.slot then first else b

/-- The losers that some bindings make. -/
def losers (seen : List Binding) : List Binding → List Binding
  | [] => []
  | b :: bs => (loser? seen b).toList ++ losers (enter seen b) bs

/-- Every binding of `entered` is the winner of its name or one of the losers. -/
structure Contest (entered winners losers : List Binding) : Prop where
  split : entered.Perm (winners ++ losers)
  names : (winners.map Binding.name).Nodup
  least : ∀ w ∈ winners, ∀ b ∈ entered, b.name = w.name → w.slot ≤ b.slot
  covered : ∀ b ∈ entered, ∃ w ∈ winners, w.name = b.name

namespace Contest

variable {entered winners hidden : List Binding} {b first : Binding}

theorem nil : Contest [] [] [] :=
  ⟨List.Perm.refl _, List.nodup_nil, by simp, by simp⟩

/-- A binding of a new name wins. -/
theorem new (contest : Contest entered winners hidden) (other : ∀ w ∈ winners, w.name ≠ b.name) :
    Contest (entered ++ [b]) (winners ++ [b]) hidden where
  split := by
    rw [List.perm_iff_count]
    intro x
    have count := contest.split.count_eq x
    simp only [List.count_append] at count ⊢
    omega
  names := by
    rw [List.map_append, List.map_singleton, ← List.concat_eq_append]
    apply List.Nodup.concat _ contest.names
    intro member
    obtain ⟨w, winner, same⟩ := List.mem_map.mp member
    exact other w winner same
  least w winner x member same := by
    rcases List.mem_append.mp winner with old | last
    · rcases List.mem_append.mp member with earlier | now
      · exact contest.least w old x earlier same
      · rw [List.mem_singleton.mp now] at same
        exact absurd same.symm (other w old)
    · rw [List.mem_singleton.mp last] at same ⊢
      rcases List.mem_append.mp member with earlier | now
      · obtain ⟨v, winner, name⟩ := contest.covered x earlier
        exact absurd (name.trans same) (other v winner)
      · obtain rfl := List.mem_singleton.mp now
        exact Int.le_refl _
  covered x member := by
    rcases List.mem_append.mp member with earlier | now
    · obtain ⟨w, winner, name⟩ := contest.covered x earlier
      exact ⟨w, List.mem_append_left _ winner, name⟩
    · exact ⟨b, by simp, by rw [List.mem_singleton.mp now]⟩

/-- A binding whose slot is no lower than that of the winner loses. -/
theorem loses (contest : Contest entered winners hidden) (winner : first ∈ winners)
    (named : first.name = b.name) (higher : first.slot ≤ b.slot) :
    Contest (entered ++ [b]) winners (hidden ++ [b]) where
  split := by
    rw [← List.append_assoc]
    exact contest.split.append_right [b]
  names := contest.names
  least w other x member same := by
    rcases List.mem_append.mp member with earlier | now
    · exact contest.least w other x earlier same
    · rw [List.mem_singleton.mp now] at same ⊢
      have only : first = w :=
        List.inj_on_of_nodup_map contest.names winner other (named.trans same)
      exact only ▸ higher
  covered x member := by
    rcases List.mem_append.mp member with earlier | now
    · exact contest.covered x earlier
    · exact ⟨first, winner, by rw [List.mem_singleton.mp now, named]⟩

/-- No other winner has the name of a winner. -/
theorem name_ne {front back : List Binding}
    (contest : Contest entered (front ++ first :: back) hidden) {w : Binding}
    (member : w ∈ front ++ back) : w.name ≠ first.name := by
  intro same
  have distinct := contest.names
  rw [List.map_append, List.map_cons, List.nodup_middle, ← List.map_append,
    List.nodup_cons] at distinct
  exact distinct.1 (List.mem_map.mpr ⟨w, member, same⟩)

/-- A binding with a lower slot takes the place of the winner. -/
theorem wins {front back : List Binding}
    (contest : Contest entered (front ++ first :: back) hidden)
    (named : first.name = b.name) (lower : b.slot < first.slot) :
    Contest (entered ++ [b]) (front ++ b :: back) (hidden ++ [first]) := by
  have winner : first ∈ front ++ first :: back := by simp
  have mem_iff (x w : Binding) : w ∈ front ++ x :: back ↔ w = x ∨ w ∈ front ++ back := by
    simp only [List.mem_append, List.mem_cons]
    exact or_left_comm
  constructor
  · rw [List.perm_iff_count]
    intro x
    have count := contest.split.count_eq x
    simp only [List.count_append, List.count_cons, List.count_nil] at count ⊢
    omega
  · have distinct := contest.names
    rw [List.map_append, List.map_cons] at distinct ⊢
    rw [← named]
    exact distinct
  · intro w member x entering same
    rcases (mem_iff b w).mp member with rfl | other
    · rcases List.mem_append.mp entering with earlier | now
      · have below := contest.least first winner x earlier (same.trans named.symm)
        omega
      · obtain rfl := List.mem_singleton.mp now
        exact Int.le_refl _
    · rcases List.mem_append.mp entering with earlier | now
      · exact contest.least w ((mem_iff first w).mpr (Or.inr other)) x earlier same
      · rw [List.mem_singleton.mp now] at same
        exact absurd (same.symm.trans named.symm) (contest.name_ne other)
  · intro x entering
    rcases List.mem_append.mp entering with earlier | now
    · obtain ⟨w, old, name⟩ := contest.covered x earlier
      rcases (mem_iff first w).mp old with rfl | other
      · exact ⟨b, (mem_iff b b).mpr (Or.inl rfl), named.symm.trans name⟩
      · exact ⟨w, (mem_iff b w).mpr (Or.inr other), name⟩
    · exact ⟨b, (mem_iff b b).mpr (Or.inl rfl), by rw [List.mem_singleton.mp now]⟩

/-- Replacing the winners of a name replaces one winner. -/
theorem map_replace {front back : List Binding}
    (contest : Contest entered (front ++ first :: back) hidden) (named : first.name = b.name) :
    (front ++ first :: back).map (fun s => if s.name = b.name then b else s) =
      front ++ b :: back := by
  have kept {part : List Binding} (sub : part ⊆ front ++ back) :
      part.map (fun s => if s.name = b.name then b else s) = part := by
    have same : part.map (fun s => if s.name = b.name then b else s) = part.map fun s => s := by
      apply List.map_congr_left
      intro w member
      exact if_neg fun name => contest.name_ne (sub member) (name.trans named.symm)
    rw [same, List.map_id']
  rw [List.map_append, List.map_cons, if_pos named, kept (List.subset_append_left _ _),
    kept (List.subset_append_right _ _)]

/-- One more binding. -/
theorem enter (contest : Contest entered winners hidden) (b : Binding) :
    Contest (entered ++ [b]) (enter winners b) (hidden ++ (loser? winners b).toList) := by
  unfold Lint.enter loser?
  cases found : winners.find? fun first => first.name == b.name with
  | none =>
      have other : ∀ w ∈ winners, w.name ≠ b.name := by
        simpa using List.find?_eq_none.mp found
      simpa using contest.new other
  | some first =>
      obtain ⟨match', front, back, rfl, _⟩ := List.find?_eq_some_iff_append.mp found
      have named : first.name = b.name := beq_iff_eq.mp match'
      by_cases lower : b.slot < first.slot
      · simpa [lower, contest.map_replace named] using contest.wins named lower
      · simpa [lower] using contest.loses (by simp) named (Int.not_lt.mp lower)

/-- Further bindings. -/
theorem foldl_enter (contest : Contest entered winners hidden) (bs : List Binding) :
    Contest (entered ++ bs) (bs.foldl Lint.enter winners) (hidden ++ losers winners bs) := by
  induction bs generalizing entered winners hidden with
  | nil => simpa [losers] using contest
  | cons b bs inductionHypothesis =>
      have rest := inductionHypothesis (contest.enter b)
      simpa [losers] using rest

end Contest

/-! ## What is reported -/

/-- The warning that one more binding gives. -/
def issue? (p : Program) (seen : List Binding) (b : Binding) : Option Issue :=
  match seen.find? fun first => first.name == b.name with
  | some first =>
      some (if b.slot < first.slot then shadowed p.node first b else shadowed p.node b first)
  | none => if isReferenced p b.name then none else some (unused p.node b)

theorem bindingIssues_cons (p : Program) (seen : List Binding) (b : Binding) (bs : List Binding) :
    bindingIssues p seen (b :: bs) =
      (issue? p seen b).toList ++ bindingIssues p (enter seen b) bs := by
  unfold issue? enter
  rw [bindingIssues]
  cases seen.find? fun first => first.name == b.name with
  | some first => by_cases lower : b.slot < first.slot <;> simp [lower]
  | none => by_cases referenced : isReferenced p b.name <;> simp [referenced]

/-- A loser is reported as shadowed, and a binding of a new name at most as unused. -/
theorem issue?_eq (p : Program) (seen : List Binding) (b : Binding) :
    (∃ h w, loser? seen b = some h ∧ issue? p seen b = some (shadowed p.node h w)) ∨
      loser? seen b = none ∧ ∀ i ∈ issue? p seen b, i = unused p.node b := by
  unfold issue? loser?
  cases seen.find? fun first => first.name == b.name with
  | some first =>
      by_cases lower : b.slot < first.slot
      · exact Or.inl ⟨first, b, by simp [lower], by simp [lower]⟩
      · exact Or.inl ⟨b, first, by simp [lower], by simp [lower]⟩
  | none => by_cases referenced : isReferenced p b.name <;> simp [referenced]

/-- Every loser is reported as shadowed. -/
theorem exists_shadowed_of_mem_losers (p : Program) {seen bs : List Binding} {h : Binding}
    (lost : h ∈ losers seen bs) : ∃ w, shadowed p.node h w ∈ bindingIssues p seen bs := by
  induction bs generalizing seen with
  | nil => contradiction
  | cons b bs inductionHypothesis =>
      rw [bindingIssues_cons]
      rcases List.mem_append.mp lost with now | later
      · rcases issue?_eq p seen b with ⟨l, w, loses, issue⟩ | ⟨none, _⟩
        · rw [loses, Option.toList_some, List.mem_singleton] at now
          exact ⟨w, by simp [issue, now]⟩
        · simp [none] at now
      · obtain ⟨w, member⟩ := inductionHypothesis later
        exact ⟨w, List.mem_append_right _ member⟩

/-- Only losers are reported as shadowed, and all other warnings are about unused
labels. -/
theorem exists_of_mem_bindingIssues {p : Program} {seen bs : List Binding} {i : Issue}
    (member : i ∈ bindingIssues p seen bs) :
    (∃ h ∈ losers seen bs, ∃ w, i = shadowed p.node h w) ∨ ∃ b, i = unused p.node b := by
  induction bs generalizing seen with
  | nil => contradiction
  | cons b bs inductionHypothesis =>
      rw [bindingIssues_cons] at member
      rcases List.mem_append.mp member with now | later
      · rcases issue?_eq p seen b with ⟨l, w, loses, issue⟩ | ⟨_, only⟩
        · rw [issue, Option.toList_some, List.mem_singleton] at now
          exact Or.inl ⟨l, by simp [losers, loses], w, now⟩
        · exact Or.inr ⟨b, only i (Option.mem_toList.mp now)⟩
      · rcases inductionHypothesis later with ⟨h, lost, w, issue⟩ | unused
        · exact Or.inl ⟨h, List.mem_append_right _ lost, w, issue⟩
        · exact Or.inr unused

theorem severity_of_mem_redefinitions {seen : List (Int × Int)} {ps : List Program} {i : Issue}
    (member : i ∈ redefinitions seen ps) : i.severity = .warning := by
  induction ps generalizing seen with
  | nil => contradiction
  | cons p ps inductionHypothesis =>
      unfold redefinitions at member
      split at member
      · rcases List.mem_cons.mp member with rfl | later
        · rfl
        · exact inductionHypothesis later
      · exact inductionHypothesis member

/-- Lint reports nothing but warnings. -/
theorem severity_of_mem_issues {ps : List Program} {i : Issue} (member : i ∈ issues ps) :
    i.severity = .warning := by
  rcases List.mem_append.mp member with redefined | labels
  · exact severity_of_mem_redefinitions redefined
  · obtain ⟨p, _, issue⟩ := List.mem_flatMap.mp labels
    rcases exists_of_mem_bindingIssues issue with ⟨h, _, w, rfl⟩ | ⟨b, rfl⟩
    · rfl
    · rfl

theorem shadowed_ne_unused (node : Int) (h w b : Binding) : shadowed node h w ≠ unused node b := by
  intro same
  have name : h.name = b.name := by
    simpa [shadowed, unused, Issue.lintWarning] using congrArg Issue.detail same
  have message : (" at slot " : Text) ++ (Numeral.ofInt h.slot ++ (" is shadowed by slot " ++
      Numeral.ofInt w.slot)) = (" is never jumped to" : Text) := by
    have whole := congrArg Issue.message same
    simp only [shadowed, unused, Issue.lintWarning, name, List.append_assoc] at whole
    exact List.append_cancel_left (List.append_cancel_left whole)
  -- The texts part at their second byte.
  have front := congrArg (List.take 2) message
  rw [List.take_append_of_le_length (by decide)] at front
  exact absurd front (by decide)

/-- Lint reports a binding as shadowed. -/
def Reported (p : Program) (b : Binding) : Prop :=
  ∃ winner, shadowed p.node b winner ∈ labelIssues p

/-- Where all bindings stand on lines of their own, exactly one binding of each name
is not reported as shadowed, and no other has a lower slot. -/
theorem exists_winner {p : Program} (lines : (p.bindings.map Binding.line).Nodup) {name : Text}
    (bound : ∃ b ∈ p.bindings, b.name = name) :
    ∃ winner, (∀ b, (b ∈ p.bindings ∧ b.name = name ∧ ¬ Reported p b) ↔ b = winner) ∧
      ∀ b ∈ p.bindings, b.name = name → winner.slot ≤ b.slot := by
  have contest : Contest p.bindings (p.bindings.foldl enter []) (losers [] p.bindings) := by
    simpa using Contest.nil.foldl_enter p.bindings
  obtain ⟨b, member, rfl⟩ := bound
  obtain ⟨winner, wins, named⟩ := contest.covered b member
  have entered : winner ∈ p.bindings := contest.split.mem_iff.mpr (List.mem_append_left _ wins)
  have unreported : ¬ Reported p winner := by
    rintro ⟨w, issue⟩
    rcases exists_of_mem_bindingIssues issue with ⟨h, lost, v, same⟩ | ⟨other, same⟩
    · have line : winner.line = h.line := congrArg Issue.line same
      have hidden : h ∈ p.bindings := contest.split.mem_iff.mpr (List.mem_append_right _ lost)
      have equal : winner = h := List.inj_on_of_nodup_map lines entered hidden line
      have distinct := contest.split.nodup_iff.mp (List.Nodup.of_map _ lines)
      exact List.disjoint_of_nodup_append distinct wins (equal ▸ lost)
    · exact shadowed_ne_unused p.node winner w other same
  refine ⟨winner, fun x => ⟨?_, ?_⟩, fun x other same => ?_⟩
  · rintro ⟨other, same, silent⟩
    rcases List.mem_append.mp (contest.split.mem_iff.mp other) with alsoWins | lost
    · exact List.inj_on_of_nodup_map contest.names alsoWins wins (same.trans named.symm)
    · exact absurd (exists_shadowed_of_mem_losers p lost) silent
  · rintro rfl
    exact ⟨entered, named, unreported⟩
  · exact contest.least winner wins x other (same.trans named.symm)

end NodeAsm.Lint
