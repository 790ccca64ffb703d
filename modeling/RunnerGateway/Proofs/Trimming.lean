import Mathlib.Data.List.DropRight
import RunnerGateway.Text.Blank

/-!
# Blanks around a text

A text is trimmed by dropping the blanks at its start, and then those at its end.  What is dropped
at the end of a list is the longest run of unwanted elements there, so nothing is dropped exactly if
the list does not end in one.
-/

namespace RunnerGateway
namespace Text

/-! ## The end of a list -/

section End

variable {α : Type} {p : α → Bool} {xs : List α}

/-- The list ends in an element with the property. -/
def EndsIn (p : α → Bool) (xs : List α) : Prop :=
  ∃ x, xs.getLast? = some x ∧ p x = true

theorem endsIn_concat {x : α} : EndsIn p (xs ++ [x]) ↔ p x = true := by
  simp [EndsIn]

theorem dropEndWhile_eq_rdropWhile (p : α → Bool) (xs : List α) :
    dropEndWhile p xs = xs.rdropWhile p :=
  rfl

/-- What remains after unwanted elements were dropped from the end does not end in one. -/
theorem not_endsIn_dropEndWhile (p : α → Bool) (xs : List α) : ¬EndsIn p (dropEndWhile p xs) := by
  rintro ⟨x, hlast, hx⟩
  have hfirst := List.head?_dropWhile_not p xs.reverse
  rw [dropEndWhile, List.getLast?_reverse] at hlast
  rw [hlast] at hfirst
  exact Bool.false_ne_true (hfirst.symm.trans hx)

/-- Nothing is dropped from a list exactly if it does not end in an unwanted element. -/
theorem dropEndWhile_eq_self_iff : dropEndWhile p xs = xs ↔ ¬EndsIn p xs := by
  constructor
  · intro h
    rw [← h]
    exact not_endsIn_dropEndWhile p xs
  · intro h
    rw [dropEndWhile_eq_rdropWhile, List.rdropWhile_eq_self_iff]
    intro hne hlast
    exact h ⟨xs.getLast hne, List.getLast?_eq_some_getLast hne, hlast⟩

theorem dropEndWhile_append_replicate {x : α} (hx : p x = true) (n : Nat) :
    dropEndWhile p (xs ++ List.replicate n x) = dropEndWhile p xs := by
  induction n with
  | zero => simp
  | succ n ih =>
      rw [List.replicate_succ', ← List.append_assoc, dropEndWhile_eq_rdropWhile,
        List.rdropWhile_concat_pos p _ x hx]
      exact ih

/-- What was dropped is a run of the unwanted element, if there is only one. -/
theorem exists_eq_dropEndWhile_append [DecidableEq α] (x : α) (xs : List α) :
    ∃ n, xs = dropEndWhile (fun y => y = x) xs ++ List.replicate n x := by
  let p : α → Bool := fun y => y = x
  have hrun : xs.rtakeWhile p = List.replicate (xs.rtakeWhile p).length x := by
    refine List.eq_replicate_of_mem fun y hy => ?_
    simpa [p] using List.mem_rtakeWhile_imp hy
  refine ⟨(xs.rtakeWhile p).length, ?_⟩
  rw [← hrun, dropEndWhile_eq_rdropWhile]
  exact List.rdropWhile_append_rtakeWhile.symm

theorem dropEndWhile_sublist (p : α → Bool) (xs : List α) :
    (dropEndWhile p xs).Sublist xs :=
  (List.rdropWhile_prefix p xs).sublist

/-- Whatever is left after something was dropped from the end starts as before. -/
theorem head?_dropEndWhile {x : α} (h : (dropEndWhile p xs).head? = some x) :
    xs.head? = some x := by
  obtain ⟨rest, hrest⟩ := List.rdropWhile_prefix p (l := xs)
  rw [← hrest, ← dropEndWhile_eq_rdropWhile, List.head?_append, h]
  rfl

end End

/-! ## Blanks -/

section Blanks

variable {cs : List Char}

theorem trimBlank_sublist (cs : List Char) : (trimBlank cs).Sublist cs :=
  (dropEndWhile_sublist isBlank _).trans (List.dropWhile_sublist isBlank)

/-- Nothing remains of a text exactly if it is blank. -/
theorem trimBlank_eq_nil_iff : trimBlank cs = [] ↔ ∀ c ∈ cs, isBlank c = true := by
  rw [trimBlank, dropEndWhile_eq_rdropWhile, List.rdropWhile_eq_nil_iff]
  constructor
  · intro h
    -- The first character that is not dropped at the start would be no blank.
    have hfirst := List.head?_dropWhile_not isBlank cs
    cases hrest : cs.dropWhile isBlank with
    | nil => exact List.dropWhile_eq_nil_iff.1 hrest
    | cons c rest =>
        rw [hrest] at hfirst h
        exact absurd (h c List.mem_cons_self) (by simpa using hfirst)
  · intro h c hc
    exact h c ((List.dropWhile_sublist isBlank).mem hc)

/-- What remains of a text does not start with a blank. -/
theorem isBlank_eq_false_of_head?_trimBlank {c : Char} (h : (trimBlank cs).head? = some c) :
    isBlank c = false := by
  have hfirst := List.head?_dropWhile_not isBlank cs
  rw [head?_dropEndWhile h] at hfirst
  exact hfirst

/-- A text without a blank at its start is trimmed at its end only. -/
theorem trimBlank_eq_self_iff (hstart : ∀ c, cs.head? = some c → isBlank c = false) :
    trimBlank cs = cs ↔ ¬EndsIn isBlank cs := by
  have hdrop : cs.dropWhile isBlank = cs := by
    cases cs with
    | nil => rfl
    | cons c cs => exact List.dropWhile_cons_of_neg (by simp [hstart c rfl])
  rw [trimBlank, hdrop, dropEndWhile_eq_self_iff]

end Blanks

end Text
end RunnerGateway
