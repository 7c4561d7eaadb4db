import RuleQuery.Plan.Variable

/-!
**Free names for variables.**

* `FreeName`: the name that a wanted one gets beside taken ones. It is the wanted name, or its
  numbered form with the smallest number that is free.
* `FreeName.unique`: there is only one.
* `Arena.firstFree?_eq_some_iff`: a search with a limit finds the free form with the least number.
* `Arena.exists_least_number`: the search of an arena stops in time. With the wanted name, the forms
  that it tries are one more than the taken names, so that one of them is free.
* `Arena.uniqueName_free`: so it finds the free name.
* `Arena.declareUnique_nodup`: names that differ keep differing.
-/

namespace RuleQuery.Plan

/-- **The name that a wanted one gets beside the taken ones.** -/
inductive FreeName (taken : List String) (base : String) : String → Prop where
  /-- The wanted name is free. -/
  | wanted (free : base ∉ taken) : FreeName taken base base
  /-- The wanted name is taken, and so are its numbered forms up to the number. -/
  | numbered (number : Nat) (used : base ∈ taken)
      (below : ∀ smaller < number, Arena.numbered base (smaller + 1) ∈ taken)
      (free : Arena.numbered base (number + 1) ∉ taken) :
      FreeName taken base (Arena.numbered base (number + 1))

namespace FreeName

variable {taken : List String} {base name other : String}

/-- A free name is not taken. -/
theorem not_mem (named : FreeName taken base name) : name ∉ taken := by
  cases named with
  | wanted free => exact free
  | numbered _ _ _ free => exact free

/-- **There is one free name for a wanted one.** -/
theorem unique (named : FreeName taken base name) (renamed : FreeName taken base other) :
    name = other := by
  cases named with
  | wanted free =>
    cases renamed with
    | wanted _ => rfl
    | numbered _ used _ _ => exact absurd used free
  | numbered number used below free =>
    cases renamed with
    | wanted free' => exact absurd used free'
    | numbered number' _ below' free' =>
      rcases Nat.lt_trichotomy number number' with less | same | more
      · exact absurd (below' number less) free
      · rw [same]
      · exact absurd (below number' more) free'

end FreeName

namespace Arena

/-! ### Numbered forms -/

theorem numbered_toList (base : String) (number : Nat) :
    (numbered base number).toList = base.toList ++ '_' :: Nat.toDigits 10 number := by
  simp [numbered, Text.ofNat]

/-- Numbered forms with different numbers are different. -/
theorem numbered_injective (base : String) {first second : Nat}
    (same : numbered base first = numbered base second) : first = second := by
  have lists := congrArg String.toList same
  rw [numbered_toList, numbered_toList] at lists
  have digits := (List.cons.inj (List.append_cancel_left lists)).2
  rw [← Nat.ofDigitChars_ten_toDigits (n := first), digits, Nat.ofDigitChars_ten_toDigits]

/-- A numbered form is longer than the name. -/
theorem numbered_ne (base : String) (number : Nat) : numbered base number ≠ base := by
  intro same
  have lengths := congrArg (fun name => name.toList.length) same
  rw [numbered_toList] at lengths
  simp at lengths

/-! ### The search -/

/-- **Not all of the searched forms are taken.** With the wanted name they would be more than the
taken names. -/
theorem exists_numbered_free {taken : List String} {base : String} (used : base ∈ taken) :
    ∃ number < taken.length, numbered base (number + 1) ∉ taken := by
  apply Classical.byContradiction
  intro none
  have all : ∀ number < taken.length, numbered base (number + 1) ∈ taken := by
    intro number small
    exact Classical.byContradiction fun free => none ⟨number, small, free⟩
  let forms := (List.range taken.length).map fun number => numbered base (number + 1)
  have distinct : (base :: forms).Nodup := by
    rw [List.nodup_cons]
    constructor
    · intro inside
      obtain ⟨number, _, same⟩ := List.mem_map.1 inside
      exact numbered_ne base _ same
    · refine List.Pairwise.map _ ?_ List.nodup_range
      intro first second different same
      exact different (Nat.succ.inj (numbered_injective base same))
  have inside : base :: forms ⊆ taken := by
    intro name member
    rcases List.mem_cons.1 member with rfl | member
    · exact used
    · obtain ⟨number, small, rfl⟩ := List.mem_map.1 member
      exact all number (List.mem_range.1 small)
  have short := distinct.length_le_of_subset inside
  rw [List.length_cons, List.length_map, List.length_range] at short
  omega

theorem containsName_iff {arena : Arena} {name : String} :
    arena.containsName name = true ↔ name ∈ arena.names := by
  simp [containsName]

/-- **What a search finds**: the form with the least number, below the limit, that is free. -/
theorem firstFree?_eq_some_iff {arena : Arena} {base name : String} {limit : Nat} :
    arena.firstFree? base limit = some name ↔
      ∃ number < limit, numbered base (number + 1) = name ∧ name ∉ arena.names ∧
        ∀ smaller < number, numbered base (smaller + 1) ∈ arena.names := by
  rw [firstFree?, List.find?_map, Option.map_eq_some_iff]
  simp only [List.find?_range_eq_some, List.mem_range, Function.comp_apply, Bool.not_not,
    Bool.not_eq_true', Bool.eq_false_iff, ne_eq, containsName_iff]
  constructor
  · rintro ⟨number, ⟨free, small, below⟩, rfl⟩
    exact ⟨number, small, rfl, free, below⟩
  · rintro ⟨number, small, rfl, free, below⟩
    exact ⟨number, ⟨free, small, below⟩, rfl⟩

/-- A search among as many forms as there are variables finds one, if the wanted name is taken. -/
theorem exists_firstFree? {arena : Arena} {base : String} (used : base ∈ arena.names) :
    ∃ name, arena.firstFree? base arena.size = some name := by
  have size : arena.names.length = arena.size := by simp [names, Arena.size]
  obtain ⟨number, small, free⟩ := exists_numbered_free used
  have tried : numbered base (number + 1) ∈
      (List.range arena.size).map fun n => numbered base (n + 1) :=
    List.mem_map_of_mem (List.mem_range.2 (size ▸ small))
  rw [← Option.isSome_iff_exists, firstFree?, List.find?_isSome]
  exact ⟨_, tried, by simpa [containsName] using free⟩

/-- **The least number** that makes a taken name free is at most the number of variables. -/
theorem exists_least_number {arena : Arena} {base : String} (used : base ∈ arena.names) :
    ∃ number < arena.size, arena.uniqueName base = numbered base (number + 1) ∧
      numbered base (number + 1) ∉ arena.names ∧
      ∀ smaller < number, numbered base (smaller + 1) ∈ arena.names := by
  obtain ⟨name, found⟩ := exists_firstFree? used
  have named : arena.uniqueName base = name := by
    rw [uniqueName, if_pos (containsName_iff.2 used), found, Option.getD_some]
  obtain ⟨number, small, rfl, free, below⟩ := firstFree?_eq_some_iff.1 found
  exact ⟨number, small, named, free, below⟩

/-- **The search finds the free name.** -/
theorem uniqueName_free (arena : Arena) (base : String) :
    FreeName arena.names base (arena.uniqueName base) := by
  by_cases used : base ∈ arena.names
  · obtain ⟨number, _, named, free, below⟩ := exists_least_number used
    rw [named]
    exact .numbered number used below free
  · rw [uniqueName, if_neg (mt containsName_iff.1 used)]
    exact .wanted used

/-- The names with one more under a free name. -/
theorem names_declareUnique (arena : Arena) (base : String) (kind : VariableKind) :
    (arena.declareUnique base kind).names = arena.names ++ [arena.uniqueName base] := by
  simp [declareUnique, declare, names]

/-- **Names stay different** when a variable is declared under a free one. -/
theorem declareUnique_nodup {arena : Arena} (distinct : arena.names.Nodup) (base : String)
    (kind : VariableKind) : (arena.declareUnique base kind).names.Nodup := by
  have free := (arena.uniqueName_free base).not_mem
  rw [names_declareUnique, List.nodup_append]
  refine ⟨distinct, by simp, fun name member other single same => ?_⟩
  rw [List.mem_singleton.1 single] at same
  exact free (same ▸ member)

end Arena

end RuleQuery.Plan
