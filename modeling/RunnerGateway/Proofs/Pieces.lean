import Mathlib
import RunnerGateway.Text.Blank

/-!
# Texts in pieces

The pieces of a text are what stands between the occurrences of a separator.  They are the only
pieces without the separator that join to the text (`pieces_eq_iff`).  What follows a given start of
a text is there only if the text has that start.
-/

namespace RunnerGateway
namespace Text

variable {sep : Char} {cs : List Char}

theorem pieces_eq_splitOn (sep : Char) (cs : List Char) : pieces sep cs = cs.splitOn sep := by
  induction cs with
  | nil => rfl
  | cons c cs ih =>
      rw [pieces, ih, List.splitOn_eq_splitOnP, List.splitOn_eq_splitOnP,
        List.splitOnP_cons_eq_if_modifyHead]
      simp only [beq_iff_eq]
      split
      · rfl
      · cases hrest : cs.splitOnP fun x => x == sep with
        | nil => exact absurd hrest (List.splitOnP_ne_nil _ _)
        | cons piece rest => rfl

theorem pieces_ne_nil (sep : Char) (cs : List Char) : pieces sep cs ≠ [] := by
  rw [pieces_eq_splitOn]
  exact List.splitOn_ne_nil sep cs

theorem not_mem_of_mem_pieces {piece : List Char} (h : piece ∈ pieces sep cs) : sep ∉ piece := by
  induction cs generalizing piece with
  | nil =>
      obtain rfl := List.mem_singleton.1 h
      exact List.not_mem_nil
  | cons c cs ih =>
      rw [pieces] at h
      split at h
      · rcases List.mem_cons.1 h with rfl | hrest
        · exact List.not_mem_nil
        · exact ih hrest
      · rename_i hc
        split at h
        · rename_i hnone
          exact absurd hnone (pieces_ne_nil sep cs)
        · rename_i first rest hpieces
          rcases List.mem_cons.1 h with rfl | hrest
          · have hfirst : sep ∉ first := ih (by simp [hpieces])
            simpa [Ne.symm hc] using hfirst
          · exact ih (by simp [hpieces, hrest])

/-- The pieces of a text are those that join to it and do not have the separator. -/
theorem pieces_eq_iff {ps : List (List Char)} :
    pieces sep cs = ps ↔ ps ≠ [] ∧ (∀ piece ∈ ps, sep ∉ piece) ∧ [sep].intercalate ps = cs := by
  constructor
  · rintro rfl
    refine ⟨pieces_ne_nil sep cs, fun piece => not_mem_of_mem_pieces, ?_⟩
    rw [pieces_eq_splitOn]
    exact List.intercalate_splitOn sep
  · rintro ⟨hne, hclean, rfl⟩
    rw [pieces_eq_splitOn]
    exact List.splitOn_intercalate sep hclean hne

theorem after?_eq_some_iff {start rest : List Char} :
    after? start cs = some rest ↔ cs = start ++ rest := by
  induction start generalizing cs with
  | nil => simp [after?]
  | cons a start ih =>
      cases cs with
      | nil => simp [after?]
      | cons c cs =>
          by_cases hac : a = c
          · simp [after?, hac, ih]
          · simp [after?, hac, Ne.symm hac]

end Text
end RunnerGateway
