import RunnerGateway.Proofs.Discipline
import RunnerGateway.Proofs.Merging

/-!
# The list of all models

`fetchModels` reads the configuration, asks the enabled backends for their models and then for the
loaded ones, and puts the answers together.  Its acts are `fetching` and its result is `fetched` for
some answers of the backends (`fetchModels_ensures`), and any
answers may come (`fetchModels_leads`).
-/

namespace RunnerGateway

open Json Exchange

/-! ## Backends by position -/

namespace RunnerConfig

variable {c : RunnerConfig}

theorem filterMap_getElem?_range {α β : Type} (f : Nat → α → β) (items : List α) :
    ((List.range items.length).filterMap fun i => (items[i]?).map (f i)) = items.mapIdx f := by
  induction items using List.reverseRecOn with
  | nil => rfl
  | append_singleton items item ih =>
      have hfront : ((List.range items.length).filterMap fun i =>
          ((items ++ [item])[i]?).map (f i)) = items.mapIdx f := by
        rw [← ih]
        refine List.filterMap_congr fun i hi => ?_
        rw [List.getElem?_append_left (List.mem_range.1 hi)]
      rw [List.length_append, List.length_singleton, List.range_succ, List.filterMap_append,
        hfront, List.mapIdx_concat]
      simp

/-- The backends stand at their positions. -/
theorem backends_getElem? (c : RunnerConfig) (idx : Nat) : c.backends[idx]? = c.backend? idx := by
  have hlist : c.backends = c.baseUrls.mapIdx fun i url =>
      { idx := i, url := url, config := (c.entryFor? i url).getD {} } :=
    filterMap_getElem?_range _ c.baseUrls
  rw [hlist, List.getElem?_mapIdx, backend?]

theorem backend?_idx {idx : Nat} {b : Backend} (h : c.backend? idx = some b) : b.idx = idx := by
  obtain ⟨url, -, rfl⟩ := Option.map_eq_some_iff.1 h
  rfl

theorem map_idx_backends (c : RunnerConfig) :
    c.backends.map Backend.idx = List.range c.backends.length := by
  refine List.ext_getElem? fun idx => ?_
  rw [List.getElem?_map, backends_getElem?]
  rcases Nat.lt_or_ge idx c.backends.length with hidx | hidx
  · have hsome : c.backend? idx = some c.backends[idx] := by
      rw [← backends_getElem?, List.getElem?_eq_getElem hidx]
    rw [hsome, List.getElem?_range hidx, Option.map_some, backend?_idx hsome]
  · have hnone : c.backend? idx = none := by
      rw [← backends_getElem?, List.getElem?_eq_none hidx]
    rw [hnone, List.getElem?_eq_none (by simpa using hidx), Option.map_none]

theorem nodup_idx_backends (c : RunnerConfig) : (c.backends.map Backend.idx).Nodup := by
  rw [map_idx_backends]
  exact List.nodup_range

end RunnerConfig

namespace Gateway

/-! ## What is asked, and what is made of the answers -/

/-- The backends that are asked. -/
def asked (c : RunnerConfig) : List Backend :=
  c.backends.filter Backend.isEnabled

/-- The calls for what the backends tell at a path. -/
def listingCalls (c : RunnerConfig) (path : String) : List Call :=
  (asked c).map (listingCall path)

/-- The outcomes for the backends that are asked, if `answer` gives the one for each position. -/
def outcomesOf (c : RunnerConfig) (answer : Nat → Outcome) : List Outcome :=
  (asked c).map fun b => answer b.idx

/-- The adapted lists of the backends by position; who is not enabled or does not answer gives
none. -/
def listsOf (adapt : Backend → List ModelEntry → List ModelEntry) (c : RunnerConfig)
    (answer : Nat → Outcome) : List (Option (List ModelEntry)) :=
  c.backends.map fun b =>
    if b.isEnabled then (value? (answer b.idx)).map fun v => adapt b (ModelList.reported v)
    else none

/-- The list of all models, if the backends answer as `tags` and `loaded` tell. -/
def fetched (c : RunnerConfig) (tags loaded : Nat → Outcome) : List ModelEntry :=
  if c.enabled then
    ModelList.annotate (ModelList.merge (listsOf Backend.decorateModels c tags))
      (ModelList.merge (listsOf Backend.decorateLoaded c loaded))
  else []

/-- What is done to get the list of all models, latest first. -/
def fetching (c : RunnerConfig) (tags loaded : Nat → Outcome) : List Act :=
  if c.enabled then
    [.did (.exchange (listingCalls c "/api/ps")) (outcomesOf c loaded),
      .sent (listingCalls c "/api/ps"),
      .did (.exchange (listingCalls c "/api/tags")) (outcomesOf c tags),
      .sent (listingCalls c "/api/tags"),
      .did .config c]
  else [.did .config c]

@[simp] theorem length_outcomesOf (c : RunnerConfig) (answer : Nat → Outcome) (path : String) :
    (outcomesOf c answer).length = (listingCalls c path).length := by
  simp [outcomesOf, listingCalls]

theorem exists_map_eq_of_nodup {α β γ : Type} [DecidableEq β] [Inhabited γ] {f : α → β}
    {items : List α} {values : List γ} (hnodup : (items.map f).Nodup)
    (hlen : values.length = items.length) :
    ∃ g : β → γ, items.map (fun a => g (f a)) = values := by
  induction items generalizing values with
  | nil =>
      rw [List.length_nil, List.length_eq_zero_iff] at hlen
      exact ⟨fun _ => default, by simp [hlen]⟩
  | cons item items ih =>
      obtain ⟨value, values, rfl⟩ := List.exists_cons_of_length_eq_add_one hlen
      obtain ⟨hnew, hrest⟩ := List.nodup_cons.1 hnodup
      obtain ⟨g, hg⟩ := ih hrest (by simpa using hlen)
      refine ⟨Function.update g (f item) value, ?_⟩
      rw [List.map_cons, Function.update_self, ← hg]
      congr 1
      refine List.map_congr_left fun a ha => ?_
      have hne : f a ≠ f item := fun h => hnew (h ▸ List.mem_map_of_mem ha)
      rw [Function.update_of_ne hne]

/-- Every list of as many outcomes as calls gives one outcome to each position. -/
theorem exists_outcomesOf {c : RunnerConfig} {path : String} {outcomes : List Outcome}
    (hlen : outcomes.length = (listingCalls c path).length) :
    ∃ answer, outcomesOf c answer = outcomes := by
  have hsub : ((asked c).map Backend.idx).Sublist (c.backends.map Backend.idx) :=
    List.filter_sublist.map Backend.idx
  have : Inhabited Outcome := ⟨.error .badValue⟩
  exact exists_map_eq_of_nodup (hsub.nodup c.nodup_idx_backends)
    (by simpa [listingCalls] using hlen)

theorem spread_map (bs : List Backend) (answer : Nat → Outcome) :
    spread bs ((bs.filter Backend.isEnabled).map fun b => answer b.idx) =
      bs.map fun b => if b.isEnabled then some (answer b.idx) else none := by
  induction bs with
  | nil => rfl
  | cons b bs ih =>
      cases hb : b.isEnabled with
      | true =>
          rw [List.filter_cons_of_pos hb, List.map_cons, spread, if_pos hb, List.head?_cons,
            List.tail_cons, ih, List.map_cons, if_pos hb]
      | false =>
          have hb' : ¬b.isEnabled = true := by simp [hb]
          rw [List.filter_cons_of_neg hb', spread, if_neg hb', ih, List.map_cons, if_neg hb']

/-- What the backends report, put together. -/
theorem mergeReports_spread (adapt : Backend → List ModelEntry → List ModelEntry)
    (c : RunnerConfig) (answer : Nat → Outcome) :
    mergeReports adapt (c.backends.zip ((spread c.backends (outcomesOf c answer)).map fun outcome =>
      (outcome.bind value?).map ModelList.reported)) =
      ModelList.merge (listsOf adapt c answer) := by
  have hspread := spread_map c.backends answer
  rw [mergeReports, outcomesOf, asked, hspread, List.map_map, ← List.map_prod_left_eq_zip,
    List.map_map, listsOf]
  congr 1
  refine List.map_congr_left fun b _ => ?_
  cases hb : b.isEnabled <;> simp [Function.comp_def, hb]

/-! ## What `fetchModels` does -/

theorem fetchModels_eq :
    fetchModels = Task.config >>= fun c =>
      if c.enabled then
        Task.exchange (listingCalls c "/api/tags") >>= fun tags =>
          Task.exchange (listingCalls c "/api/ps") >>= fun loaded =>
            let reported (outcomes : List Outcome) :=
              c.backends.zip ((spread c.backends outcomes).map fun outcome =>
                (outcome.bind value?).map ModelList.reported)
            pure (ModelList.annotate (mergeReports Backend.decorateModels (reported tags))
              (mergeReports Backend.decorateLoaded (reported loaded)))
      else pure [] := by
  unfold fetchModels
  congr 1
  funext c
  unfold fetchLoaded
  cases c.enabled <;> rfl

/-- Whatever is wanted of all answers of the backends is ensured. -/
theorem fetchModels_ensures {allowed : Discipline} {past : List Act}
    {wanted : List Act → List ModelEntry → Prop}
    (hconfig : ∀ past, allowed past .config)
    (hexchange : ∀ past c path, .did .config c ∈ past →
      allowed past (.exchange (listingCalls c path)))
    (h : ∀ c tags loaded, wanted (fetching c tags loaded ++ past) (fetched c tags loaded)) :
    fetchModels.Ensures allowed past wanted := by
  rw [fetchModels_eq, Task.ensures_config_bind_iff]
  refine ⟨hconfig past, fun c => ?_⟩
  have hc := h c
  cases henabled : c.enabled with
  | false =>
      simp only [fetching, fetched, henabled, Bool.false_eq_true, if_false] at hc ⊢
      exact hc (fun _ => .error .badValue) (fun _ => .error .badValue)
  | true =>
      simp only [fetching, fetched, henabled, if_true] at hc ⊢
      rw [Task.ensures_exchange_bind_iff]
      refine ⟨hexchange _ c _ (by simp), fun tags htags => ?_⟩
      rw [Task.ensures_exchange_bind_iff]
      refine ⟨hexchange _ c _ (by simp), fun loaded hloaded => ?_⟩
      obtain ⟨tagsOf, rfl⟩ := exists_outcomesOf htags
      obtain ⟨loadedOf, rfl⟩ := exists_outcomesOf hloaded
      rw [Task.ensures_pure, mergeReports_spread, mergeReports_spread]
      exact hc tagsOf loadedOf

/-- Whatever the backends answer, a list comes out. -/
theorem fetchModels_leads (c : RunnerConfig) (tags loaded : Nat → Outcome) (past : List Act) :
    fetchModels.Leads past (fetching c tags loaded ++ past) (fetched c tags loaded) := by
  rw [fetchModels_eq]
  refine Task.Leads.step c trivial ?_
  change Task.Leads (if c.enabled = true then _ else _) _ _ _
  cases henabled : c.enabled with
  | false =>
      simp only [fetching, fetched, henabled, Bool.false_eq_true, if_false]
      exact .done _ _
  | true =>
      simp only [fetching, fetched, henabled, if_true]
      refine Task.Leads.step (outcomesOf c tags) (length_outcomesOf _ _ _) ?_
      refine Task.Leads.step (outcomesOf c loaded) (length_outcomesOf _ _ _) ?_
      rw [← mergeReports_spread, ← mergeReports_spread]
      exact .done _ _

/-- What `fetchModels` can do, and what comes out of it. -/
theorem fetchModels_leads_iff {past later : List Act} {models : List ModelEntry} :
    fetchModels.Leads past later models ↔
      ∃ c tags loaded, later = fetching c tags loaded ++ past ∧
        models = fetched c tags loaded := by
  constructor
  · intro h
    have hensures : fetchModels.Ensures (fun _ _ => True) past fun later models =>
        ∃ c tags loaded, later = fetching c tags loaded ++ past ∧
          models = fetched c tags loaded :=
      fetchModels_ensures (fun _ => trivial) (fun _ _ _ _ => trivial)
        fun c tags loaded => ⟨c, tags, loaded, rfl, rfl⟩
    exact hensures.of_leads h
  · rintro ⟨c, tags, loaded, rfl, rfl⟩
    exact fetchModels_leads c tags loaded past

/-- From the answers of the backends comes one list. -/
theorem fetchModels_leads_fetching_iff {c : RunnerConfig} {tags loaded : Nat → Outcome}
    {past : List Act} {models : List ModelEntry} :
    fetchModels.Leads past (fetching c tags loaded ++ past) models ↔
      models = fetched c tags loaded := by
  constructor
  · intro h
    exact h.unique (fetchModels_leads c tags loaded past)
  · rintro rfl
    exact fetchModels_leads c tags loaded past

/-- Every list is orderly, and its positions are those of backends. -/
theorem orderly_fetched (c : RunnerConfig) (tags loaded : Nat → Outcome) :
    ModelList.Orderly c.backends.length (fetched c tags loaded) := by
  unfold fetched
  split
  · have hmerge := (ModelList.orderly_merge (listsOf Backend.decorateModels c tags)).annotate
      (ModelList.merge (listsOf Backend.decorateLoaded c loaded))
    simpa [listsOf] using hmerge
  · exact ⟨by simp, by simp, by simp, by simp⟩

end Gateway
end RunnerGateway
