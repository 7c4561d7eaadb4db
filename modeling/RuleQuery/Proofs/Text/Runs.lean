/-!
**Runs of characters, and lists read item by item.**
-/

namespace RuleQuery.Text

/-- A run of a class, with no character of the class after it. -/
theorem run_append {inClass : Char → Bool} {w rest : List Char} (inside : ∀ c ∈ w, inClass c = true)
    (ends : ∀ c ∈ rest.head?, inClass c = false) :
    (w ++ rest).takeWhile inClass = w ∧ (w ++ rest).dropWhile inClass = rest := by
  rw [List.takeWhile_append_of_pos inside, List.dropWhile_append_of_pos inside]
  cases rest with
  | nil => exact ⟨List.append_nil w, rfl⟩
  | cons c rest =>
    have other : ¬ inClass c = true := by simp [ends c rfl]
    rw [List.takeWhile_cons_of_neg other, List.dropWhile_cons_of_neg other, List.append_nil]
    exact ⟨rfl, rfl⟩

/-- Items that are read back one by one are read back as a list. -/
theorem mapM_map_of_inverse {α β : Type} {make : α → β} {read : β → Option α} {as : List α}
    (inverse : ∀ a ∈ as, read (make a) = some a) : (as.map make).mapM read = some as := by
  induction as with
  | nil => rfl
  | cons a as ih =>
    rw [List.forall_mem_cons] at inverse
    simp [List.mapM_cons, inverse.1, ih inverse.2]

end RuleQuery.Text
