import Mathlib
import RunnerGateway.Text.Numeral

/-!
# Reading decimal numerals

A text is the decimal of a number if it has digits only, no zero in front of others, and the digits
have that value; `isDecimal_iff` says that this is the text that is printed for the number.  What
the readers accept is described by `readNat_eq_ok_iff`: they take digits with any number of zeros in
front and a sign `+`, so that a text that is read need not be the one that is printed.
-/

namespace RunnerGateway
namespace Text

/-- The text is the decimal of `n`, as it is written without need. -/
structure IsDecimal (text : String) (n : Nat) : Prop where
  nonempty : text.toList ≠ []
  digits : ∀ c ∈ text.toList, c.isDigit = true
  /-- Only zero itself begins with a zero. -/
  leading : text.toList.head? = some '0' → text.toList = ['0']
  value : Nat.ofDigitChars 10 text.toList 0 = n

/-! ## Digits -/

theorem isDigit_iff {c : Char} : c.isDigit = true ↔ 48 ≤ c.toNat ∧ c.toNat ≤ 57 := by
  simp only [Char.isDigit, Bool.and_eq_true, decide_eq_true_eq]
  exact Iff.rfl

theorem digit?_eq_some {c : Char} (hc : c.isDigit = true) : digit? c = some (c.toNat - '0'.toNat) :=
  if_pos (isDigit_iff.1 hc)

theorem digit?_eq_none {c : Char} (hc : ¬c.isDigit = true) : digit? c = none :=
  if_neg fun h => hc (isDigit_iff.2 h)

theorem digitChar_toNat_sub {c : Char} (hc : c.isDigit = true) :
    Nat.digitChar (c.toNat - '0'.toNat) = c := by
  obtain ⟨hlow, hhigh⟩ := isDigit_iff.1 hc
  have hzero : '0'.toNat = 48 := rfl
  apply Char.toNat_inj.1
  rw [hzero, Nat.toNat_digitChar_of_lt_ten (by omega)]
  omega

/-- More digits never make a number smaller. -/
theorem le_ofDigitChars (ds : List Char) (value : Nat) : value ≤ Nat.ofDigitChars 10 ds value := by
  induction ds generalizing value with
  | nil => exact Nat.le_refl value
  | cons c ds ih =>
      rw [Nat.ofDigitChars_cons]
      exact le_trans (by omega) (ih _)

/-! ## Printed numerals -/

theorem head?_toDigits_eq_zero_iff {n : Nat} : (Nat.toDigits 10 n).head? = some '0' ↔ n = 0 := by
  induction n using Nat.strongRecOn with
  | ind n ih =>
      rcases Nat.lt_or_ge n 10 with hlt | hge
      · rw [Nat.toDigits_of_lt_base hlt]
        interval_cases n <;> decide
      · have hhead : (Nat.toDigits 10 n).head? = (Nat.toDigits 10 (n / 10)).head? := by
          rw [Nat.toDigits_of_base_le (by decide) hge, List.head?_append_of_ne_nil _
            Nat.toDigits_ne_nil]
        rw [hhead, ih (n / 10) (by omega)]
        omega

/-- Digits without a zero in front are those of their value. -/
theorem toDigits_ofDigitChars {ds : List Char} (hne : ds ≠ [])
    (hdigits : ∀ c ∈ ds, c.isDigit = true) (hleading : ds.head? = some '0' → ds = ['0']) :
    Nat.toDigits 10 (Nat.ofDigitChars 10 ds 0) = ds := by
  induction ds using List.reverseRecOn with
  | nil => exact (hne rfl).elim
  | append_singleton init c ih =>
      have hc : c.isDigit = true := hdigits c (by simp)
      have hlt : c.toNat - '0'.toNat < 10 := by
        have hzero : '0'.toNat = 48 := rfl
        have hhigh := (isDigit_iff.1 hc).2
        omega
      have hlast : Nat.toDigits 10 (c.toNat - '0'.toNat) = [c] := by
        rw [Nat.toDigits_of_lt_base hlt, digitChar_toNat_sub hc]
      rw [Nat.ofDigitChars_append, Nat.ofDigitChars_cons, Nat.ofDigitChars_nil]
      by_cases hinit : init = []
      · subst hinit
        simpa using hlast
      · -- What stands before the last digit does not begin with a zero, so its value is positive.
        have hhead : init.head? ≠ some '0' := by
          intro hzero
          have heq := hleading (by rw [List.head?_append_of_ne_nil _ hinit, hzero])
          have hlen := congrArg List.length heq
          have hpos := List.length_pos_iff.2 hinit
          simp only [List.length_append, List.length_singleton] at hlen
          omega
        have hvalue := ih hinit (fun d hd => hdigits d (List.mem_append_left _ hd))
          fun hzero => (hhead hzero).elim
        have hpos : 0 < Nat.ofDigitChars 10 init 0 := by
          refine Nat.pos_of_ne_zero fun hzero => hhead ?_
          rw [← hvalue, hzero]
          rfl
        rw [← Nat.toDigits_append_toDigits (by decide) hpos hlt, hvalue, hlast]

theorem isDecimal_numeral (n : Nat) : IsDecimal (numeral n) n where
  nonempty := by simp [numeral]
  digits := by
    intro c hc
    rw [numeral, String.toList_ofList] at hc
    exact Nat.isDigit_of_mem_toDigits (by decide) (by decide) hc
  leading := by
    rw [numeral, String.toList_ofList, head?_toDigits_eq_zero_iff]
    rintro rfl
    rfl
  value := by
    rw [numeral, String.toList_ofList]
    exact Nat.ofDigitChars_toDigits (by decide) (by decide)

/-- The decimal of a number is what is printed for it. -/
theorem isDecimal_iff {text : String} {n : Nat} : IsDecimal text n ↔ text = numeral n := by
  constructor
  · intro h
    rw [numeral, ← h.value, toDigits_ofDigitChars h.nonempty h.digits h.leading,
      String.ofList_toList]
  · rintro rfl
    exact isDecimal_numeral n

/-! ## Read numerals -/

/-- Digits are read on as long as the value stays within the limit. -/
theorem continueNumeral_eq_ok_iff {limit : Nat} {overflow : NumeralFault} {ds : List Char}
    {value n : Nat} (hvalue : value ≤ limit) :
    continueNumeral limit overflow value ds = .ok n ↔
      (∀ c ∈ ds, c.isDigit = true) ∧ Nat.ofDigitChars 10 ds value = n ∧ n ≤ limit := by
  induction ds generalizing value with
  | nil =>
      simp only [continueNumeral, Except.ok.injEq, List.not_mem_nil, false_implies, implies_true,
        true_and, Nat.ofDigitChars_nil]
      constructor
      · rintro rfl
        exact ⟨rfl, hvalue⟩
      · exact And.left
  | cons c ds ih =>
      rw [continueNumeral, Nat.ofDigitChars_cons, List.forall_mem_cons]
      by_cases hc : c.isDigit = true
      · rw [digit?_eq_some hc, Nat.mul_comm 10 value]
        by_cases hnext : value * 10 + (c.toNat - '0'.toNat) ≤ limit
        · simp only [if_pos hnext, ih hnext, hc, true_and]
        · simp only [if_neg hnext, reduceCtorEq, hc, true_and, false_iff]
          rintro ⟨-, rfl, hle⟩
          exact hnext ((le_ofDigitChars ds _).trans hle)
      · simp [digit?_eq_none hc, hc]

theorem readDigits_eq_ok_iff {limit : Nat} {overflow : NumeralFault} {ds : List Char} {n : Nat} :
    readDigits limit overflow ds = .ok n ↔
      ds ≠ [] ∧ (∀ c ∈ ds, c.isDigit = true) ∧ Nat.ofDigitChars 10 ds 0 = n ∧ n ≤ limit := by
  cases ds with
  | nil => simp [readDigits]
  | cons c ds =>
      rw [readDigits, continueNumeral_eq_ok_iff (Nat.zero_le limit)]
      · simp
      · nofun

/-- A natural number is read from its digits, with a sign `+` or without one. -/
theorem readNat_eq_ok_iff {limit : Nat} {cs : List Char} {n : Nat} :
    readNat limit cs = .ok n ↔
      ∃ ds, (cs = ds ∨ cs = '+' :: ds) ∧ ds ≠ [] ∧ (∀ c ∈ ds, c.isDigit = true) ∧
        Nat.ofDigitChars 10 ds 0 = n ∧ n ≤ limit := by
  unfold readNat
  split
  · simp
  · rename_i ds
    rw [readDigits_eq_ok_iff]
    constructor
    · intro h
      exact ⟨ds, Or.inr rfl, h⟩
    · rintro ⟨ds', rfl | heq, h⟩
      · exact absurd (h.2.1 '+' List.mem_cons_self) (by decide)
      · obtain rfl := (List.cons.inj heq).2
        exact h
  · rename_i hnil hplus
    rw [readDigits_eq_ok_iff]
    constructor
    · intro h
      exact ⟨cs, Or.inl rfl, h⟩
    · rintro ⟨ds, rfl | rfl, h⟩
      · exact h
      · exact (hplus ds rfl).elim

theorem le_maxWord_of_readWord {text : String} {n : Nat} (h : readWord text = .ok n) :
    n ≤ maxWord := by
  obtain ⟨ds, -, -, -, -, hle⟩ := readNat_eq_ok_iff.1 h
  exact hle

/-- What is printed for a word is read back. -/
theorem readWord_numeral {n : Nat} (hn : n ≤ maxWord) : readWord (numeral n) = .ok n := by
  have h := isDecimal_numeral n
  exact readNat_eq_ok_iff.2 ⟨_, Or.inl rfl, h.nonempty, h.digits, h.value, hn⟩

end Text
end RunnerGateway
