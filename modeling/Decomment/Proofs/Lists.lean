import Mathlib.Data.List.Infix

/-! Splitting a list at a separator and joining the pieces back, for lines and for the components
of a path alike.
-/

namespace Decomment

variable {α : Type}

/-- No piece of a split holds the separator, by induction on the list. -/
theorem not_mem_of_mem_splitOn [BEq α] [LawfulBEq α] {sep : α} {xs piece : List α}
    (member : piece ∈ xs.splitOn sep)
    : sep ∉ piece := by
  induction xs generalizing piece with
  | nil => simp_all
  | cons x rest ih =>
      rw [List.splitOn_cons_eq_if_modifyHead] at member
      split at member
      · rcases List.mem_cons.mp member with rfl | inner
        · simp
        · exact ih inner
      · rename_i notSep
        obtain ⟨first, others, split⟩ := List.exists_cons_of_ne_nil (List.splitOn_ne_nil sep rest)
        rw [split, List.modifyHead_cons] at member
        rcases List.mem_cons.mp member with rfl | inner
        · have firstClean : sep ∉ first := ih (by rw [split]; simp)
          simp only [List.mem_cons, not_or]
          exact ⟨fun same => notSep (by simp [same]), firstClean⟩
        · exact ih (by rw [split]; simp [inner])

/-- Joining the first pieces gives a prefix of joining them all, by induction on the first
pieces. -/
theorem prefix_intercalate (sep : List α) (front rest : List (List α))
    : sep.intercalate front <+: sep.intercalate (front ++ rest) := by
  induction front with
  | nil => exact List.nil_prefix
  | cons piece others ih =>
      cases others with
      | nil =>
          cases rest with
          | nil => simp
          | cons next more =>
              rw [List.singleton_append, List.intercalate_cons_cons, List.intercalate_singleton,
                List.append_assoc]
              exact List.prefix_append _ _
      | cons next more =>
          rw [List.cons_append, List.cons_append, List.intercalate_cons_cons,
            List.intercalate_cons_cons]
          rw [List.cons_append] at ih
          exact (List.prefix_append_right_inj _).mpr ih

/-- Dropping a front of elements that a filter removes leaves what the filter keeps. -/
theorem filter_dropWhile {keep drop : α → Bool} (removed : ∀ x, drop x = true → keep x = false)
    (xs : List α) : (xs.dropWhile drop).filter keep = xs.filter keep := by
  induction xs with
  | nil => rfl
  | cons x rest ih =>
      rw [List.dropWhile_cons]
      split
      · rename_i dropped
        rw [ih, List.filter_cons_of_neg (by simp [removed x dropped])]
      · rfl

end Decomment
