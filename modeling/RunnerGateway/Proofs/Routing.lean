import RunnerGateway.Proofs.Freshness

/-!
# Which backend a model is routed to

A request for a model first looks up the model's entry, and later reads the configuration in which
the positions of the entry are backends.  `Resolved` is all that a thread can have done when it has
chosen a backend.  Wherever the entry was found, it is one of a list that was fetched.
-/

namespace RunnerGateway
namespace Gateway

open Exchange Http

/-! ## Looking up and choosing -/

/-- How a thread found the entry of a model since `start`. -/
inductive Found (model : String) (start : List Act) : List Act → ModelEntry → Prop
  | routed (e : ModelEntry) : Found model start (.did (.routed model) (some e) :: start) e
  | cached {models : List ModelEntry} {e : ModelEntry} (hmem : e ∈ models)
      (hmodel : e.model = model) :
      Found model start (.did .cached (some models) :: .did (.routed model) none :: start) e
  | obtained {past : List Act} {models : List ModelEntry} {e : ModelEntry}
      (hobtained : Obtained start past models) (hmem : e ∈ models) (hmodel : e.model = model) :
      Found model start past e

theorem find?_models {models : List ModelEntry} {model : String} {e : ModelEntry}
    (h : (ModelList.mk models).find? model = some e) : e ∈ models ∧ e.model = model := by
  have hfound : models.find? (fun found => found.model = model) = some e := h
  exact ⟨List.mem_of_find?_eq_some hfound, by simpa using List.find?_some hfound⟩

theorem mem_of_get?_routesOf {models : List ModelEntry} {model : String} {e : ModelEntry}
    (h : Dict.get? (State.routesOf models) model = some e) : e ∈ models ∧ e.model = model := by
  obtain ⟨found, hfound, hpair⟩ := List.mem_map.1 (Dict.mem_of_mem_ofList (Dict.mem_of_get? h))
  obtain ⟨hmodel, rfl⟩ := Prod.mk.inj hpair
  exact ⟨hfound, hmodel⟩

/-- A thread chose a backend since `start`: it found an entry, and then read the configuration in
which the backend stands at a position of the entry. -/
def Resolved (model : String) (start past : List Act) (b : Backend) : Prop :=
  ∃ rest c between e, past = rest ++ .did .config c :: between ∧
    Found model start between e ∧ b ∈ serving c e

theorem lookup_ensures (model : String) (past : List Act) :
    (lookup model).Ensures Sourced past fun later found =>
      ∀ e, found = some e → Found model past later e := by
  unfold lookup
  rw [Task.ensures_bind_iff]
  refine ⟨trivial, fun found _ => ?_⟩
  cases found with
  | some entry =>
      intro e he
      obtain rfl := Option.some.inj he
      exact .routed entry
  | none =>
      change (allModels >>= _).Ensures Sourced _ _
      rw [Task.ensures_bind_iff]
      unfold allModels
      rw [Task.ensures_bind_iff]
      refine ⟨trivial, fun kept _ => ?_⟩
      cases kept with
      | some models =>
          intro e he
          obtain ⟨hmem, hmodel⟩ := find?_models he
          exact .cached hmem hmodel
      | none =>
          have hsuffix : past <:+ .did .cached none :: .did (.routed model) none :: past :=
            (List.suffix_cons _ _).trans (List.suffix_cons _ _)
          refine (refreshWithin_ensures 2 hsuffix).mono fun later models hobtained => ?_
          intro e he
          obtain ⟨hmem, hmodel⟩ := find?_models he
          exact .obtained hobtained hmem hmodel

theorem candidates_ensures (model : String) (past : List Act) :
    (candidates model).Ensures Sourced past fun later bs =>
      ∃ c between e, later = .did .config c :: between ∧ Found model past between e ∧
        bs = serving c e := by
  refine Attempt.ensures_bind (Attempt.ensures_lift ?_)
  refine (lookup_ensures model past).mono fun between found hfound => ?_
  cases found with
  | none => exact Attempt.ensures_throw _
  | some e =>
      refine Attempt.ensures_bind (Attempt.ensures_lift (Task.ensures_perform.2 ?_))
      refine ⟨trivial, fun c _ => Attempt.ensures_pure ?_⟩
      exact ⟨c, between, e, rfl, hfound e rfl, rfl⟩

theorem atTurn_mem {α : Type} (first : α) (others : List α) (turn : UInt64) :
    atTurn first others turn ∈ first :: others :=
  List.get_mem _ _

theorem select_ensures (model : String) (past : List Act) :
    (select model).Ensures Sourced past (Resolved model past) := by
  refine Attempt.ensures_bind ((candidates_ensures model past).mono fun later result h => ?_)
  intro bs hbs
  obtain ⟨c, between, e, rfl, hfound, hserving⟩ := h bs hbs
  cases bs with
  | nil => exact Attempt.ensures_throw _
  | cons first others =>
      refine Attempt.ensures_bind (Attempt.ensures_lift (Task.ensures_perform.2 ?_))
      refine ⟨trivial, fun turn _ => Attempt.ensures_pure ?_⟩
      refine ⟨[_], c, between, e, rfl, hfound, ?_⟩
      rw [← hserving]
      exact atTurn_mem first others turn

theorem firstServing_ensures (model : String) (past : List Act) :
    (firstServing model).Ensures Sourced past (Resolved model past) := by
  refine Attempt.ensures_bind ((candidates_ensures model past).mono fun later result h => ?_)
  intro bs hbs
  obtain ⟨c, between, e, rfl, hfound, hserving⟩ := h bs hbs
  cases bs with
  | nil => exact Attempt.ensures_throw _
  | cons first others =>
      refine Attempt.ensures_pure ⟨[], c, between, e, rfl, hfound, ?_⟩
      rw [← hserving]
      exact List.mem_cons_self

theorem mem_serving_iff {c : RunnerConfig} {e : ModelEntry} {b : Backend} :
    b ∈ serving c e ↔ b.idx ∈ e.urls ∧ c.backend? b.idx = some b ∧ b.isEnabled = true := by
  simp only [serving, List.mem_filter, List.mem_filterMap]
  constructor
  · rintro ⟨⟨idx, hidx, hb⟩, henabled⟩
    obtain rfl := RunnerConfig.backend?_idx hb
    exact ⟨hidx, hb, henabled⟩
  · rintro ⟨hidx, hb, henabled⟩
    exact ⟨⟨b.idx, hidx, hb⟩, henabled⟩

/-! ## Where entries come from -/

namespace Log

variable {seed : RunnerConfig} {log : Log} {i : Nat} {model : String} {start : List Act}
  {e : ModelEntry}

theorem exists_kept_of_routed (h : log.routed model = some e) :
    ∃ models, log.kept = some models ∧ e ∈ models ∧ e.model = model := by
  obtain ⟨models, hkept, hget⟩ := Option.bind_eq_some_iff.1 h
  exact ⟨models, hkept, mem_of_get?_routesOf hget⟩

theorem exists_fetched_of_kept {models : List ModelEntry} (hheeds : log.Heeds Sourced)
    (htrue : log.Truthful seed) (hkept : log.kept = some models) :
    ∃ c tags loaded, models = fetched c tags loaded := by
  obtain ⟨-, c, tags, loaded, -, -, -, hmodels, -⟩ := exists_fetching_of_kept hheeds htrue hkept
  exact ⟨c, tags, loaded, hmodels⟩

/-- The entry that a thread found is in a list that was fetched. -/
theorem exists_fetched_of_found (hheeds : log.Heeds Sourced) (htrue : log.Truthful seed)
    (hfound : Found model start (past i log) e) :
    ∃ c tags loaded, e ∈ fetched c tags loaded := by
  generalize hpast : past i log = recent at hfound
  cases hfound with
  | routed e =>
      obtain ⟨idle, earlier, rfl, -, -⟩ := exists_of_past_eq_cons hpast
      obtain ⟨models, hkept, hmem, -⟩ := exists_kept_of_routed (htrue.act (i := i)).symm
      obtain ⟨c, tags, loaded, rfl⟩ :=
        exists_fetched_of_kept hheeds.of_append.2 htrue.of_append.2 hkept
      exact ⟨c, tags, loaded, hmem⟩
  | cached hmem hmodel =>
      obtain ⟨idle, earlier, rfl, -, -⟩ := exists_of_past_eq_cons hpast
      have hkept : kept earlier = some _ := htrue.act (i := i)
      obtain ⟨c, tags, loaded, rfl⟩ :=
        exists_fetched_of_kept hheeds.of_append.2 htrue.of_append.2 hkept
      exact ⟨c, tags, loaded, hmem⟩
  | obtained hobtained hmem hmodel =>
      obtain ⟨c, tags, loaded, -, -, -, -, rfl, -⟩ := hobtained
      exact ⟨c, tags, loaded, hmem⟩

end Log

end Gateway
end RunnerGateway
