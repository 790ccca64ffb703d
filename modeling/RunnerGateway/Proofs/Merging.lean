import Mathlib
import RunnerGateway.Model.Merge
import RunnerGateway.Proofs.Dict

/-!
# Which models a merged list has

`ModelList.merge` puts the lists of all backends together.  `serves_merge_iff` says which positions
the merged list has under which model, and `orderly_merge` that it has every model once, with
positions in ascending order.  Apart from the positions it has the first entry of each model
(`map_bare_merge`).  The times of loaded models change neither.
-/

namespace RunnerGateway

open Json

/-! ## Names of models -/

namespace Text

theorem after?_append (start rest : List Char) : after? start (start ++ rest) = some rest := by
  induction start with
  | nil => cases rest <;> rfl
  | cons c start ih => simp [after?, ih]

end Text

namespace Backend

/-- A backend gets back the name that it told. -/
theorem unqualify_qualify (b : Backend) (model : String) :
    b.unqualify (b.qualify model) = model := by
  unfold unqualify qualify
  cases b.config.space with
  | none => rfl
  | some space =>
      have hsplit : (space ++ "." ++ model).toList = (space ++ ".").toList ++ model.toList := by
        simp
      simp only [hsplit, Text.after?_append, String.ofList_toList]

@[simp] theorem decorate_model (b : Backend) (e : ModelEntry) :
    (b.decorate e).model = b.qualify e.model := by
  unfold decorate
  split <;> rfl

theorem mem_decorateModels_iff {b : Backend} {models : List ModelEntry} {e : ModelEntry} :
    e ∈ b.decorateModels models ↔
      ∃ own ∈ models, b.config.allows own.model = true ∧ b.decorate own = e := by
  simp only [decorateModels, List.mem_map, List.mem_filter, and_assoc]

end Backend

/-! ## The first of each name -/

section Firsts

variable {α β : Type} {name : α → String} {items : List α} {a : α}

/-- One more item, unless there is one of its name. -/
def addFirst (name : α → String) (kept : List α) (a : α) : List α :=
  if name a ∈ kept.map name then kept else kept ++ [a]

/-- The first item of each name. -/
def firsts (name : α → String) (items : List α) : List α :=
  items.foldl (addFirst name) []

theorem firsts_concat (items : List α) (a : α) :
    firsts name (items ++ [a]) = addFirst name (firsts name items) a := by
  simp [firsts]

theorem map_addFirst {f : α → β} {name' : β → String} (h : ∀ a, name' (f a) = name a)
    (kept : List α) (a : α) :
    (addFirst name kept a).map f = addFirst name' (kept.map f) (f a) := by
  have hnames : (kept.map f).map name' = kept.map name := by
    simp [Function.comp_def, h]
  unfold addFirst
  rw [hnames, h]
  split <;> simp

theorem map_firsts {f : α → β} {name' : β → String} (h : ∀ a, name' (f a) = name a)
    (items : List α) : (firsts name items).map f = firsts name' (items.map f) := by
  induction items using List.reverseRecOn with
  | nil => rfl
  | append_singleton items a ih =>
      rw [firsts_concat, map_addFirst h, ih, List.map_append, List.map_singleton, firsts_concat]

theorem firsts_sublist (name : α → String) (items : List α) :
    (firsts name items).Sublist items := by
  induction items using List.reverseRecOn with
  | nil => exact List.Sublist.slnil
  | append_singleton items a ih =>
      rw [firsts_concat, addFirst]
      split
      · exact ih.trans (List.sublist_append_left _ _)
      · exact ih.append (List.Sublist.refl [a])

theorem mem_map_firsts_iff {n : String} :
    n ∈ (firsts name items).map name ↔ n ∈ items.map name := by
  induction items using List.reverseRecOn with
  | nil => rfl
  | append_singleton items a ih =>
      rw [firsts_concat, addFirst, List.map_append, List.mem_append, ← ih]
      split
      · rename_i hold
        refine ⟨.inl, fun h => h.elim id fun hn => ?_⟩
        rw [List.map_singleton, List.mem_singleton] at hn
        exact hn ▸ hold
      · rw [List.map_append, List.mem_append]

/-- If the items stand in an order, the first of each name are those before which none of the same
name comes. -/
theorem mem_firsts_iff {before : α → α → Prop} (hasymm : ∀ a b, before a b → ¬before b a)
    (h : items.Pairwise before) :
    a ∈ firsts name items ↔ a ∈ items ∧ ∀ b ∈ items, name b = name a → ¬before b a := by
  induction items using List.reverseRecOn with
  | nil => simp [firsts]
  | append_singleton items last ih =>
      obtain ⟨hitems, -, hlast⟩ := List.pairwise_append.1 h
      have hlater : ∀ b ∈ items, before b last :=
        fun b hb => hlast b hb last (List.mem_singleton_self last)
      have hfirst : a ∈ items →
          ((∀ b ∈ items ++ [last], name b = name a → ¬before b a) ↔
            ∀ b ∈ items, name b = name a → ¬before b a) := by
        intro ha
        rw [List.forall_mem_append, List.forall_mem_singleton]
        exact and_iff_left fun _ => hasymm a last (hlater a ha)
      rw [firsts_concat, addFirst]
      split
      · rename_i hold
        obtain ⟨b, hb, hname⟩ := List.mem_map.1 (mem_map_firsts_iff.1 hold)
        rw [ih hitems, List.mem_append, List.mem_singleton]
        constructor
        · rintro ⟨ha, hnone⟩
          exact ⟨.inl ha, (hfirst ha).2 hnone⟩
        · rintro ⟨ha | rfl, hnone⟩
          · exact ⟨ha, (hfirst ha).1 hnone⟩
          · exact absurd (hlater b hb) (hnone b (List.mem_append_left _ hb) hname)
      · rename_i hnew
        rw [List.mem_append, ih hitems, List.mem_append, List.mem_singleton]
        constructor
        · rintro (⟨ha, hnone⟩ | rfl)
          · exact ⟨.inl ha, (hfirst ha).2 hnone⟩
          · refine ⟨.inr rfl, fun b hb hname => ?_⟩
            rcases List.mem_append.1 hb with hb | hb
            · exact absurd (mem_map_firsts_iff.2 (List.mem_map.2 ⟨b, hb, hname⟩)) hnew
            · obtain rfl := List.mem_singleton.1 hb
              exact fun hself => hasymm b b hself hself
        · rintro ⟨ha | rfl, hnone⟩
          · exact .inl ⟨ha, (hfirst ha).1 hnone⟩
          · exact .inr rfl

end Firsts

/-! ## Merged lists -/

/-- An entry that nobody serves. -/
def ModelEntry.bare (e : ModelEntry) : ModelEntry :=
  { e with urls := [] }

namespace ModelList

/-- The list has an entry of `model` that lists the position `idx`. -/
def Serves (models : List ModelEntry) (model : String) (idx : Nat) : Prop :=
  ∃ e ∈ models, e.model = model ∧ idx ∈ e.urls

/-- Every model stands once, with at least one position, in ascending order and below `bound`. -/
structure Orderly (bound : Nat) (models : List ModelEntry) : Prop where
  nodup : (models.map ModelEntry.model).Nodup
  nonempty : ∀ e ∈ models, e.urls ≠ []
  ascending : ∀ e ∈ models, e.urls.Pairwise (· < ·)
  below : ∀ e ∈ models, ∀ idx ∈ e.urls, idx < bound

/-! ## One more entry -/

theorem mem_addPosition_iff {urls : List Nat} {idx i : Nat} :
    i ∈ addPosition urls idx ↔ i ∈ urls ∨ i = idx := by
  unfold addPosition
  split
  · rename_i hlast
    have hmem : idx ∈ urls := List.mem_of_getLast? hlast
    constructor
    · exact Or.inl
    · rintro (hi | rfl)
      · exact hi
      · exact hmem
  · simp

theorem addPosition_ne_nil (urls : List Nat) (idx : Nat) : addPosition urls idx ≠ [] :=
  List.ne_nil_of_mem (mem_addPosition_iff.2 (Or.inr rfl))

/-- A position that is not the last one is above all others, if none is above it. -/
theorem pairwise_addPosition {urls : List Nat} {idx : Nat} (h : urls.Pairwise (· < ·))
    (hbelow : ∀ i ∈ urls, i < idx + 1) : (addPosition urls idx).Pairwise (· < ·) := by
  unfold addPosition
  split
  · exact h
  · rename_i hlast
    refine List.pairwise_append.2 ⟨h, List.pairwise_singleton _ _, ?_⟩
    intro i hi j hj
    obtain rfl := List.mem_singleton.1 hj
    rcases List.eq_nil_or_concat' urls with rfl | ⟨init, last, rfl⟩
    · simp at hi
    · have hne : last ≠ j := fun heq => hlast (by simp [heq])
      have hle : last < j + 1 := hbelow last (by simp)
      rcases List.mem_append.1 hi with hinit | hi
      · have hlt : i < last := (List.pairwise_append.1 h).2.2 i hinit last (by simp)
        omega
      · obtain rfl := List.mem_singleton.1 hi
        omega

theorem serves_mergeEntry_iff {idx i : Nat} {e : ModelEntry} {models : List ModelEntry}
    {model : String} :
    Serves (mergeEntry idx e models) model i ↔
      Serves models model i ∨ e.model = model ∧ i = idx := by
  induction models with
  | nil => simp [Serves, mergeEntry]
  | cons m models ih =>
      unfold mergeEntry
      split
      · rename_i hmodel
        simp only [Serves, List.mem_cons, exists_eq_or_imp, mem_addPosition_iff, ← hmodel]
        rw [and_or_left, or_right_comm]
      · have hcons : ∀ rest, Serves (m :: rest) model i ↔
            (m.model = model ∧ i ∈ m.urls) ∨ Serves rest model i := by
          intro rest
          simp [Serves]
        rw [hcons, hcons, ih, or_assoc]

theorem map_model_bare (models : List ModelEntry) :
    (models.map ModelEntry.bare).map ModelEntry.model = models.map ModelEntry.model := by
  simp [Function.comp_def, ModelEntry.bare]

theorem map_bare_mergeEntry (idx : Nat) (e : ModelEntry) (models : List ModelEntry) :
    (mergeEntry idx e models).map ModelEntry.bare =
      addFirst ModelEntry.model (models.map ModelEntry.bare) e.bare := by
  rw [addFirst, map_model_bare]
  induction models with
  | nil => rfl
  | cons m models ih =>
      rw [mergeEntry]
      by_cases hmodel : m.model = e.model
      · rw [if_pos hmodel, if_pos (by simp [ModelEntry.bare, hmodel])]
        rfl
      · have hmem : e.bare.model ∈ (m :: models).map ModelEntry.model ↔
            e.bare.model ∈ models.map ModelEntry.model := by
          simp [ModelEntry.bare, Ne.symm hmodel]
        rw [if_neg hmodel, List.map_cons, ih]
        simp only [hmem]
        split <;> rfl

theorem map_model_mergeEntry (idx : Nat) (e : ModelEntry) (models : List ModelEntry) :
    (mergeEntry idx e models).map ModelEntry.model =
      if e.model ∈ models.map ModelEntry.model then models.map ModelEntry.model
      else models.map ModelEntry.model ++ [e.model] := by
  rw [← map_model_bare, map_bare_mergeEntry, addFirst, apply_ite (List.map ModelEntry.model),
    List.map_append, map_model_bare]
  rfl

theorem mem_mergeEntry {idx : Nat} {e found : ModelEntry} {models : List ModelEntry}
    (h : found ∈ mergeEntry idx e models) :
    found = { e with urls := [idx] } ∨ found ∈ models ∨
      ∃ m ∈ models, found = { m with urls := addPosition m.urls idx } := by
  induction models with
  | nil => exact Or.inl (by simpa [mergeEntry] using h)
  | cons m models ih =>
      unfold mergeEntry at h
      split at h
      · rcases List.mem_cons.1 h with h | h
        · exact Or.inr (Or.inr ⟨m, List.mem_cons_self, h⟩)
        · exact Or.inr (Or.inl (List.mem_cons_of_mem _ h))
      · rcases List.mem_cons.1 h with h | h
        · exact Or.inr (Or.inl (by simp [h]))
        · rcases ih h with h | h | ⟨m', hm', h⟩
          · exact Or.inl h
          · exact Or.inr (Or.inl (List.mem_cons_of_mem _ h))
          · exact Or.inr (Or.inr ⟨m', List.mem_cons_of_mem _ hm', h⟩)

theorem Orderly.mergeEntry {idx : Nat} {models : List ModelEntry}
    (h : Orderly (idx + 1) models) (e : ModelEntry) :
    Orderly (idx + 1) (mergeEntry idx e models) where
  nodup := by
    rw [map_model_mergeEntry]
    split
    · exact h.nodup
    · rename_i hnew
      rw [List.nodup_append]
      refine ⟨h.nodup, List.nodup_singleton _, ?_⟩
      rintro a ha b hb rfl
      exact hnew (List.mem_singleton.1 hb ▸ ha)
  nonempty := by
    intro found hfound
    rcases mem_mergeEntry hfound with rfl | hmem | ⟨m, -, rfl⟩
    · simp
    · exact h.nonempty found hmem
    · exact addPosition_ne_nil _ _
  ascending := by
    intro found hfound
    rcases mem_mergeEntry hfound with rfl | hmem | ⟨m, hm, rfl⟩
    · simp
    · exact h.ascending found hmem
    · exact pairwise_addPosition (h.ascending m hm) (h.below m hm)
  below := by
    intro found hfound i hi
    rcases mem_mergeEntry hfound with rfl | hmem | ⟨m, hm, rfl⟩
    · obtain rfl := List.mem_singleton.1 hi
      exact Nat.lt_succ_self i
    · exact h.below found hmem i hi
    · rcases mem_addPosition_iff.1 hi with hi | rfl
      · exact h.below m hm i hi
      · exact Nat.lt_succ_self i

theorem Orderly.mono {bound bound' : Nat} {models : List ModelEntry}
    (h : Orderly bound models) (hle : bound ≤ bound') : Orderly bound' models :=
  ⟨h.nodup, h.nonempty, h.ascending,
    fun e he idx hidx => lt_of_lt_of_le (h.below e he idx hidx) hle⟩

/-! ## Lists and lists of lists -/

theorem serves_mergeList_iff {idx i : Nat} {list : Option (List ModelEntry)}
    {models : List ModelEntry} {model : String} :
    Serves (mergeList models idx list) model i ↔
      Serves models model i ∨ i = idx ∧ ∃ e ∈ list.getD [], e.model = model := by
  unfold mergeList
  induction list.getD [] generalizing models with
  | nil => simp
  | cons e rest ih =>
      rw [List.foldl_cons, ih, serves_mergeEntry_iff]
      simp only [List.mem_cons, exists_eq_or_imp]
      tauto

theorem Orderly.mergeList {idx : Nat} {models : List ModelEntry} (h : Orderly idx models)
    (list : Option (List ModelEntry)) : Orderly (idx + 1) (mergeList models idx list) := by
  have hstart := h.mono (Nat.le_succ idx)
  unfold ModelList.mergeList
  clear h
  induction list.getD [] generalizing models with
  | nil => exact hstart
  | cons e rest ih => exact ih (hstart.mergeEntry e)

theorem serves_mergeFrom_iff {idx i : Nat} {lists : List (Option (List ModelEntry))}
    {models : List ModelEntry} {model : String} :
    Serves (mergeFrom models idx lists) model i ↔
      Serves models model i ∨ ∃ k list, lists[k]? = some (some list) ∧ i = idx + k ∧
        ∃ e ∈ list, e.model = model := by
  induction lists generalizing models idx with
  | nil => simp [mergeFrom]
  | cons list lists ih =>
      rw [mergeFrom, ih, serves_mergeList_iff, or_assoc]
      refine or_congr_right ?_
      constructor
      · rintro (⟨hi, e, he, hmodel⟩ | ⟨k, found, hfound, hi, hexists⟩)
        · cases list with
          | none => simp at he
          | some found => exact ⟨0, found, rfl, by omega, e, he, hmodel⟩
        · exact ⟨k + 1, found, by simpa using hfound, by omega, hexists⟩
      · rintro ⟨k, found, hfound, hi, hexists⟩
        cases k with
        | zero =>
            have hlist : list = some found := by simpa using hfound
            subst hlist
            exact Or.inl ⟨by omega, hexists⟩
        | succ k => exact Or.inr ⟨k, found, by simpa using hfound, by omega, hexists⟩

theorem Orderly.mergeFrom {idx : Nat} {models : List ModelEntry} (h : Orderly idx models)
    (lists : List (Option (List ModelEntry))) :
    Orderly (idx + lists.length) (mergeFrom models idx lists) := by
  induction lists generalizing models idx with
  | nil => simpa [ModelList.mergeFrom] using h
  | cons list lists ih =>
      have hrest := ih (h.mergeList list)
      rw [ModelList.mergeFrom, List.length_cons]
      exact hrest.mono (by omega)

/-- A merged list has a position under a model if the list at that position has the model. -/
theorem serves_merge_iff {lists : List (Option (List ModelEntry))} {model : String} {i : Nat} :
    Serves (merge lists) model i ↔
      ∃ list, lists[i]? = some (some list) ∧ ∃ e ∈ list, e.model = model := by
  rw [merge, serves_mergeFrom_iff]
  constructor
  · rintro (⟨e, he, -⟩ | ⟨k, list, hlist, hi, hexists⟩)
    · simp at he
    · obtain rfl : i = k := by omega
      exact ⟨list, hlist, hexists⟩
  · rintro ⟨list, hlist, hexists⟩
    exact Or.inr ⟨i, list, hlist, by omega, hexists⟩

theorem orderly_merge (lists : List (Option (List ModelEntry))) :
    Orderly lists.length (merge lists) := by
  have hnil : Orderly 0 [] := ⟨by simp, by simp, by simp, by simp⟩
  simpa [merge] using hnil.mergeFrom lists

theorem map_bare_mergeFrom (lists : List (Option (List ModelEntry))) (models : List ModelEntry)
    (idx : Nat) :
    (mergeFrom models idx lists).map ModelEntry.bare =
      ((lists.flatMap fun list => list.getD []).map ModelEntry.bare).foldl
        (addFirst ModelEntry.model) (models.map ModelEntry.bare) := by
  induction lists generalizing models idx with
  | nil => rfl
  | cons list lists ih =>
      have hlist : (mergeList models idx list).map ModelEntry.bare =
          ((list.getD []).map ModelEntry.bare).foldl (addFirst ModelEntry.model)
            (models.map ModelEntry.bare) := by
        unfold mergeList
        induction list.getD [] generalizing models with
        | nil => rfl
        | cons e rest ih => rw [List.foldl_cons, ih, map_bare_mergeEntry]; rfl
      rw [mergeFrom, ih, hlist, List.flatMap_cons, List.map_append, List.foldl_append]

/-- Apart from the positions, a merged list has the first entry of each model. -/
theorem map_bare_merge (lists : List (Option (List ModelEntry))) :
    (merge lists).map ModelEntry.bare =
      firsts ModelEntry.model
        ((lists.flatMap fun list => list.getD []).map ModelEntry.bare) :=
  map_bare_mergeFrom lists [] 0

/-! ## Times of loaded models -/

@[simp] theorem annotateEntry_model (loaded : List ModelEntry) (e : ModelEntry) :
    (annotateEntry loaded e).model = e.model := by
  unfold annotateEntry
  split <;> rfl

@[simp] theorem annotateEntry_urls (loaded : List ModelEntry) (e : ModelEntry) :
    (annotateEntry loaded e).urls = e.urls := by
  unfold annotateEntry
  split <;> rfl

theorem serves_annotate_iff {models loaded : List ModelEntry} {model : String} {i : Nat} :
    Serves (annotate models loaded) model i ↔ Serves models model i := by
  simp [Serves, annotate]

theorem Orderly.annotate {bound : Nat} {models : List ModelEntry} (h : Orderly bound models)
    (loaded : List ModelEntry) : Orderly bound (annotate models loaded) where
  nodup := by simpa [ModelList.annotate, Function.comp_def] using h.nodup
  nonempty := by simpa [ModelList.annotate] using h.nonempty
  ascending := by simpa [ModelList.annotate] using h.ascending
  below := by simpa [ModelList.annotate] using h.below

end ModelList
end RunnerGateway
