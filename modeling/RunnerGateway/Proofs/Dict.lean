import Mathlib
import RunnerGateway.Json.Basic

/-!
# Maps from texts

A `Dict` is looked up by its keys, and `insert`, `erase` and `ofList` are described by what is then
found.  As long as the keys ascend, a map is determined by what is found in it.
-/

namespace RunnerGateway
namespace Dict

variable {α : Type} {d d' : Dict α} {key k : String} {value v : α}

/-! ## Looking up -/

@[simp] theorem get?_nil (key : String) : get? ([] : Dict α) key = none := rfl

theorem get?_cons (d : Dict α) (k : String) (v : α) (key : String) :
    get? ((k, v) :: d) key = if key = k then some v else get? d key := by
  rw [get?, List.lookup_cons]
  by_cases h : key = k
  · simp [h]
  · rw [beq_false_of_ne h, if_neg h]
    rfl

theorem get?_insert (d : Dict α) (k : String) (v : α) (key : String) :
    get? (insert d k v) key = if key = k then some v else get? d key := by
  induction d with
  | nil => simp [insert, get?_cons]
  | cons entry d ih =>
      obtain ⟨k', v'⟩ := entry
      by_cases hlt : k < k'
      · simp [insert, hlt, get?_cons]
      · by_cases heq : k = k'
        · subst heq
          simp only [insert, lt_self_iff_false, if_false, if_true, get?_cons]
          by_cases hkey : key = k <;> simp [hkey]
        · simp only [insert, hlt, heq, if_false, get?_cons, ih]
          by_cases hkey : key = k'
          · have hne : key ≠ k := fun h => heq (h.symm.trans hkey)
            simp [hkey, Ne.symm heq]
          · simp [hkey]

theorem get?_filter_of_key {p : String → Bool} (d : Dict α) (key : String) :
    get? (d.filter fun entry => p entry.1) key = if p key then get? d key else none := by
  induction d with
  | nil => simp
  | cons entry d ih =>
      obtain ⟨k, v⟩ := entry
      by_cases hp : p k = true
      · rw [List.filter_cons_of_pos (by simpa using hp), get?_cons, get?_cons, ih]
        by_cases hkey : key = k
        · simp [hkey, hp]
        · simp [hkey]
      · rw [List.filter_cons_of_neg (by simpa using hp), get?_cons, ih]
        by_cases hkey : key = k
        · simp [hkey, hp]
        · simp [hkey]

theorem get?_erase (d : Dict α) (k key : String) :
    get? (erase d k) key = if key = k then none else get? d key := by
  have h := get?_filter_of_key (p := fun found => found ≠ k) d key
  by_cases hkey : key = k <;> simpa [erase, hkey] using h

theorem mem_of_get? (h : get? d key = some v) : (key, v) ∈ d := by
  induction d with
  | nil => simp at h
  | cons entry d ih =>
      obtain ⟨k, v'⟩ := entry
      rw [get?_cons] at h
      by_cases hkey : key = k
      · have hv : v' = v := by simpa [hkey] using h
        simp [hkey, hv]
      · exact List.mem_cons_of_mem _ (ih (by simpa [hkey] using h))

theorem get?_eq_none_of_forall_ne (h : ∀ entry ∈ d, entry.1 ≠ key) : get? d key = none := by
  cases hfound : get? d key with
  | none => rfl
  | some v => exact (h _ (mem_of_get? hfound) rfl).elim

theorem get?_append (d d' : Dict α) (key : String) :
    get? (d ++ d') key = (get? d key).or (get? d' key) := by
  induction d with
  | nil => rfl
  | cons entry d ih =>
      obtain ⟨k, v⟩ := entry
      rw [List.cons_append, get?_cons, get?_cons, ih]
      by_cases hkey : key = k <;> simp [hkey]

/-! ## Ascending keys -/

theorem sorted_cons_iff : Sorted ((k, v) :: d) ↔ (∀ entry ∈ d, k < entry.1) ∧ Sorted d := by
  simp [Sorted, keys]

instance (d : Dict α) : Decidable (Sorted d) :=
  inferInstanceAs (Decidable (d.keys.Pairwise (· < ·)))

@[simp] theorem sorted_nil : Sorted ([] : Dict α) := List.Pairwise.nil

theorem mem_insert_key {entry : String × α} (h : entry ∈ insert d k v) :
    entry = (k, v) ∨ entry ∈ d := by
  induction d with
  | nil => exact Or.inl (by simpa [insert] using h)
  | cons head d ih =>
      obtain ⟨k', v'⟩ := head
      rw [insert] at h
      split at h
      · simpa using h
      · split at h
        · rcases List.mem_cons.1 h with h | h
          · exact Or.inl h
          · exact Or.inr (List.mem_cons_of_mem _ h)
        · rcases List.mem_cons.1 h with h | h
          · exact Or.inr (by simp [h])
          · rcases ih h with h | h
            · exact Or.inl h
            · exact Or.inr (List.mem_cons_of_mem _ h)

theorem sorted_insert (hd : Sorted d) (k : String) (v : α) : Sorted (insert d k v) := by
  induction d with
  | nil => simp [insert, sorted_cons_iff]
  | cons entry d ih =>
      obtain ⟨k', v'⟩ := entry
      obtain ⟨hlt, hsorted⟩ := sorted_cons_iff.1 hd
      rw [insert]
      split
      · rename_i hk
        refine sorted_cons_iff.2 ⟨?_, hd⟩
        intro entry hentry
        rcases List.mem_cons.1 hentry with rfl | hentry
        · exact hk
        · exact lt_trans hk (hlt entry hentry)
      · split
        · rename_i heq
          subst heq
          exact sorted_cons_iff.2 ⟨hlt, hsorted⟩
        · rename_i hk hne
          refine sorted_cons_iff.2 ⟨?_, ih hsorted⟩
          intro entry hentry
          rcases mem_insert_key hentry with rfl | hentry
          · exact lt_of_le_of_ne (not_lt.1 hk) (Ne.symm hne)
          · exact hlt entry hentry

theorem Sorted.filter (hd : Sorted d) (p : String × α → Bool) : Sorted (d.filter p) := by
  have hsub : (keys (d.filter p)).Sublist (keys d) := List.filter_sublist.map Prod.fst
  exact List.Pairwise.sublist hsub hd

theorem sorted_map_snd {β : Type} {f : String × α → β} :
    Sorted (d.map fun entry => (entry.1, f entry)) ↔ Sorted d := by
  simp [Sorted, keys, Function.comp_def]

/-- Maps with ascending keys in which the same is found are the same. -/
theorem ext_get? (hd : Sorted d) (hd' : Sorted d') (h : ∀ key, get? d key = get? d' key) :
    d = d' := by
  induction d generalizing d' with
  | nil =>
      cases d' with
      | nil => rfl
      | cons entry d' =>
          obtain ⟨k, v⟩ := entry
          simpa [get?_cons] using h k
  | cons entry d ih =>
      obtain ⟨k, v⟩ := entry
      obtain ⟨hlt, hsorted⟩ := sorted_cons_iff.1 hd
      cases d' with
      | nil => simpa [get?_cons] using h k
      | cons entry' d' =>
          obtain ⟨k', v'⟩ := entry'
          obtain ⟨hlt', hsorted'⟩ := sorted_cons_iff.1 hd'
          -- The first keys are the least ones of their maps, and each is found in the other.
          have hkk : k = k' := by
            by_contra hne
            have hk : get? d' k = some v := by
              simpa [get?_cons, hne] using (h k).symm
            have hk' : get? d k' = some v' := by
              simpa [get?_cons, Ne.symm hne] using h k'
            exact lt_asymm (hlt _ (mem_of_get? hk')) (hlt' _ (mem_of_get? hk))
          subst hkk
          have hvv : v = v' := by simpa [get?_cons] using h k
          subst hvv
          have hrest : d = d' := by
            refine ih hsorted hsorted' fun key => ?_
            by_cases hkey : key = k
            · subst hkey
              rw [get?_eq_none_of_forall_ne fun entry hentry => (hlt entry hentry).ne',
                get?_eq_none_of_forall_ne fun entry hentry => (hlt' entry hentry).ne']
            · simpa [get?_cons, hkey] using h key
          rw [hrest]

/-! ## Maps of lists -/

theorem ofList_concat (pairs : List (String × α)) (pair : String × α) :
    ofList (pairs ++ [pair]) = insert (ofList pairs) pair.1 pair.2 := by
  simp [ofList]

theorem sorted_ofList (pairs : List (String × α)) : Sorted (ofList pairs) := by
  induction pairs using List.reverseRecOn with
  | nil => simp [ofList]
  | append_singleton pairs pair ih =>
      rw [ofList_concat]
      exact sorted_insert ih _ _

/-- Of two pairs with one key the later one is found. -/
theorem get?_ofList (pairs : List (String × α)) (key : String) :
    get? (ofList pairs) key = get? pairs.reverse key := by
  induction pairs using List.reverseRecOn with
  | nil => rfl
  | append_singleton pairs pair ih =>
      rw [ofList_concat, get?_insert, List.reverse_append, List.reverse_singleton,
        List.singleton_append, get?_cons, ih]

theorem mem_of_mem_ofList {pairs : List (String × α)} {entry : String × α}
    (h : entry ∈ ofList pairs) : entry ∈ pairs := by
  induction pairs using List.reverseRecOn with
  | nil => simp [ofList] at h
  | append_singleton pairs pair ih =>
      rw [ofList_concat] at h
      rcases mem_insert_key h with rfl | h
      · simp
      · exact List.mem_append_left _ (ih h)

theorem get?_eq_some_iff_mem (hd : (keys d).Nodup) : get? d key = some v ↔ (key, v) ∈ d := by
  refine ⟨mem_of_get?, fun hmem => ?_⟩
  induction d with
  | nil => simp at hmem
  | cons entry d ih =>
      obtain ⟨k, v'⟩ := entry
      obtain ⟨hk, hrest⟩ := List.nodup_cons.1 hd
      rw [get?_cons]
      rcases List.mem_cons.1 hmem with heq | hlater
      · obtain ⟨rfl, rfl⟩ := Prod.mk.inj heq
        simp
      · have hne : key ≠ k := fun h => hk (List.mem_map.2 ⟨_, hlater, h⟩)
        simp [hne, ih hrest hlater]

/-- If every key stands once, the order of the pairs does not matter. -/
theorem get?_reverse_of_nodup (hd : (keys d).Nodup) (key : String) :
    get? d.reverse key = get? d key := by
  have hrev : (keys d.reverse).Nodup := by
    simpa [keys, List.map_reverse] using hd
  refine Option.ext fun v => ?_
  rw [get?_eq_some_iff_mem hrev, get?_eq_some_iff_mem hd, List.mem_reverse]

theorem Sorted.nodup (hd : Sorted d) : (keys d).Nodup :=
  List.Pairwise.imp (fun h => ne_of_lt h) hd

theorem get?_ofList_of_nodup {pairs : List (String × α)} (hd : (keys pairs).Nodup)
    (key : String) : get? (ofList pairs) key = get? pairs key := by
  rw [get?_ofList, get?_reverse_of_nodup hd]

/-- A map with ascending keys is the map of its pairs. -/
theorem ofList_eq_self (hd : Sorted d) : ofList d = d :=
  ext_get? (sorted_ofList d) hd fun key => get?_ofList_of_nodup hd.nodup key

end Dict
end RunnerGateway
