import RuleQuery.Proofs.Peg.Derivation

/-!
**Where the nodes of a match stand.**

The tree of a match holds, for every rule that matched, the place where it started and the text that
it took.

* `Node.occurrences`: the nodes of a rule in trees, in the order of the trees;
* `Matches.inOrder`: for an atomic rule that takes characters, **the order of the trees is the order of
  the text**: each occurrence stands in the text at its place, and starts before the next one.
-/

namespace RuleQuery.Peg

variable {ρ : Type}

/-- A match of a rule: the bytes before it and the text that it took. -/
structure Occurrence where
  /-- The number of bytes before it. -/
  start : Nat
  /-- The text that it took. -/
  text : List Char

mutual

/-- **The matches of a rule in a tree**, in order. -/
def Node.occurrences [DecidableEq ρ] (r : ρ) : Node ρ → List Occurrence
  | .mk rule start text children =>
    (if rule = r then [⟨start, text⟩] else []) ++ Node.allOccurrences r children

/-- The matches of a rule in trees, in order. -/
def Node.allOccurrences [DecidableEq ρ] (r : ρ) : List (Node ρ) → List Occurrence
  | [] => []
  | node :: rest => node.occurrences r ++ Node.allOccurrences r rest

end

namespace Node

variable [DecidableEq ρ] {r : ρ}

theorem allOccurrences_append (xs ys : List (Node ρ)) :
    allOccurrences r (xs ++ ys) = allOccurrences r xs ++ allOccurrences r ys := by
  induction xs with
  | nil => rfl
  | cons node xs ih =>
    rw [List.cons_append, allOccurrences, ih, allOccurrences, List.append_assoc]

theorem allOccurrences_same (start : Nat) (text : List Char) (children : List (Node ρ)) :
    allOccurrences r [.mk r start text children] = ⟨start, text⟩ :: allOccurrences r children := by
  rw [allOccurrences, occurrences, if_pos rfl, allOccurrences, List.append_nil]
  rfl

theorem allOccurrences_other {rule : ρ} (other : rule ≠ r) (start : Nat) (text : List Char)
    (children : List (Node ρ)) :
    allOccurrences r [.mk rule start text children] = allOccurrences r children := by
  rw [allOccurrences, occurrences, if_neg other, allOccurrences, List.append_nil, List.nil_append]

end Node

/-! ### Places -/

/-- **The occurrence has characters, and stands in the text taken from a position on.** -/
structure Occurrence.Inside (position : Nat) (taken : List Char) (o : Occurrence) : Prop where
  solid : o.text ≠ []
  place : ∃ before after, before ++ o.text ++ after = taken ∧
    o.start = position + Text.byteCount before

namespace Occurrence.Inside

variable {position : Nat} {taken more : List Char} {o : Occurrence}

theorem start_le (inside : o.Inside position taken) : position ≤ o.start := by
  obtain ⟨-, before, after, -, start⟩ := inside
  omega

theorem start_lt (inside : o.Inside position taken) :
    o.start < position + Text.byteCount taken := by
  obtain ⟨solid, before, after, rfl, start⟩ := inside
  have some := Text.byteCount_pos solid
  rw [Text.byteCount_append, Text.byteCount_append]
  omega

/-- It stays in its place when more is taken after it. -/
theorem append (inside : o.Inside position taken) (more : List Char) :
    o.Inside position (taken ++ more) := by
  obtain ⟨solid, before, after, rfl, start⟩ := inside
  exact ⟨solid, before, after ++ more, by simp, start⟩

/-- It stays in its place when something has been taken before it. -/
theorem after (inside : o.Inside (position + Text.byteCount taken) more) :
    o.Inside position (taken ++ more) := by
  obtain ⟨solid, before, after, rfl, start⟩ := inside
  refine ⟨solid, taken ++ before, after, by simp, ?_⟩
  rw [start, Text.byteCount_append, Nat.add_assoc]

end Occurrence.Inside

/-- **The occurrences stand in the text taken from a position on, in this order.** -/
structure InOrder (position : Nat) (taken : List Char) (os : List Occurrence) : Prop where
  inside : ∀ o ∈ os, o.Inside position taken
  sorted : os.Pairwise fun o o' => o.start < o'.start

namespace InOrder

variable {position : Nat} {taken more : List Char} {os os' : List Occurrence}

theorem nil (position : Nat) (taken : List Char) : InOrder position taken [] :=
  ⟨nofun, .nil⟩

/-- A rule that takes a whole text stands in it alone. -/
theorem single (position : Nat) (some : taken ≠ []) : InOrder position taken [⟨position, taken⟩] := by
  refine ⟨List.forall_mem_singleton.2 ⟨some, [], [], ?_, rfl⟩, List.pairwise_singleton _ _⟩
  rw [List.nil_append, List.append_nil]

/-- What is taken later starts later. -/
theorem append (first : InOrder position taken os)
    (second : InOrder (position + Text.byteCount taken) more os') :
    InOrder position (taken ++ more) (os ++ os') := by
  refine ⟨List.forall_mem_append.2 ⟨?_, ?_⟩, List.pairwise_append.2 ⟨first.sorted, second.sorted, ?_⟩⟩
  · exact fun o member => (first.inside o member).append more
  · exact fun o member => (second.inside o member).after
  · intro o member o' member'
    have before := (first.inside o member).start_lt
    have after := (second.inside o' member').start_le
    omega

/-- The occurrences stay in order when more is taken after them. -/
theorem extend (ordered : InOrder position taken os) (more : List Char) :
    InOrder position (taken ++ more) os :=
  ⟨fun o member => (ordered.inside o member).append more, ordered.sorted⟩

/-- What comes later in the list starts later. -/
theorem start_lt {before after : List Occurrence} {o : Occurrence}
    (ordered : InOrder position taken (before ++ o :: after)) : ∀ o' ∈ after, o.start < o'.start := by
  have sorted := (List.pairwise_append.1 ordered.sorted).2.1
  exact (List.pairwise_cons.1 sorted).1

end InOrder

/-! ### Matches -/

variable {g : Grammar ρ} {e : Expression ρ} {position : Nat} {s taken rest : List Char}
  {nodes : List (Node ρ)} {outcome : Outcome ρ} {r : ρ}

/-- The two parts of the text make up the text, and a rule that has to take characters does so. -/
theorem Matches.splits (derivation : Matches g (.rule r) position s (.ok nodes taken rest)) :
    taken ++ rest = s ∧ (g.consuming r = true → taken ≠ []) := by
  have ranked : (Expression.rule r).ranked g.toRanking g.top = true := by
    simpa [Expression.ranked] using g.rank_lt_top r
  have splits := (g.run g.top (.rule r) ranked position s).2
  rwa [derivation.run_eq] at splits

/-- **An atomic rule that takes characters occurs in the order of the text.** -/
theorem Matches.inOrder [DecidableEq ρ] (leaf : g.visibility r = .atomic)
    (consuming : g.consuming r = true) (derivation : Matches g e position s outcome)
    (ends : outcome = .ok nodes taken rest) :
    InOrder position taken (Node.allOccurrences r nodes) := by
  induction derivation generalizing nodes taken rest with
  | @rule name position s outcome inside ih =>
    cases outcome with
    | fail => cases ends
    | ok inner text after =>
      cases seen : g.visibility name with
      | silent =>
        rw [seen] at ends
        cases ends
        exact ih rfl
      | plain =>
        rw [seen] at ends
        cases ends
        have other : name ≠ r := by
          rintro rfl
          rw [leaf] at seen
          cases seen
        rw [Node.allOccurrences_other other]
        exact ih rfl
      | atomic =>
        rw [seen] at ends
        cases ends
        -- nothing below an atomic node is left, so that it stands alone
        by_cases same : name = r
        · subst same
          rw [Node.allOccurrences_same]
          exact .single position ((Matches.atomic seen inside).splits.2 consuming)
        · rw [Node.allOccurrences_other same]
          exact .nil position taken
  | next _ _ first second =>
    obtain ⟨_, _, rfl, rfl, rfl⟩ := Outcome.exists_of_after_eq_ok ends
    rw [Node.allOccurrences_append]
    exact (first rfl).append (second rfl)
  | again _ _ first others =>
    obtain ⟨_, _, rfl, rfl, rfl⟩ := Outcome.exists_of_after_eq_ok ends
    rw [Node.allOccurrences_append]
    exact (first rfl).append (others rfl)
  | first _ _ found => exact found ends
  | second _ _ _ other => exact other ends
  | optional _ found => exact found ends
  | _ =>
    cases ends
    try exact .nil _ _

end RuleQuery.Peg
