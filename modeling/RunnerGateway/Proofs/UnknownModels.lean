import RunnerGateway.Proofs.Rounds

/-!
# Models that are not in the map

A lookup that does not find its model in the map turns to the list of all models.  If a list is
kept and fresh it ends there, and no backend is asked.  Otherwise the list is fetched, so that every
enabled backend is asked, and the model is unknown exactly if none of them offers it.
-/

namespace RunnerGateway
namespace Gateway

open Exchange

/-! ## Models that nobody offers -/

/-- No enabled backend offers a model that is called `model` in the catalogue. -/
def Unoffered (c : RunnerConfig) (tags : Nat → Outcome) (model : String) : Prop :=
  ∀ idx b own, c.backend? idx = some b → Offers b (tags idx) own → b.qualify own ≠ model

theorem find?_eq_none_iff {models : List ModelEntry} {model : String} :
    (ModelList.mk models).find? model = none ↔ ∀ e ∈ models, e.model ≠ model := by
  have hfind : (ModelList.mk models).find? model =
      models.find? fun found => found.model = model := rfl
  rw [hfind, List.find?_eq_none]
  simp

/-- A model is not in the list exactly if nobody offers it. -/
theorem find?_fetched_eq_none_iff {c : RunnerConfig} (hc : c.enabled = true)
    (tags loaded : Nat → Outcome) (model : String) :
    (ModelList.mk (fetched c tags loaded)).find? model = none ↔ Unoffered c tags model := by
  rw [find?_eq_none_iff]
  constructor
  · rintro h idx b own hb hoffers hmodel
    have hserves : ModelList.Serves (fetched c tags loaded) model idx :=
      (serves_fetched_iff hc).2 ⟨b, own, hb, hoffers, hmodel⟩
    obtain ⟨e, he, hname, -⟩ := hserves
    exact h e he hname
  · rintro h e he hname
    obtain ⟨idx, hidx⟩ :=
      List.exists_mem_of_ne_nil e.urls ((orderly_fetched c tags loaded).nonempty e he)
    obtain ⟨b, own, hb, hoffers, hmodel⟩ := (serves_fetched_iff hc).1 ⟨e, he, hname, hidx⟩
    exact h idx b own hb hoffers hmodel

/-! ## Lookups that nothing interrupts -/

section Run

variable {σ : Type} {rules : Rules} {s : State}

/-- The enabled backends are asked for their models, and then for the loaded ones. -/
theorem exists_fetchModels_run (rules : Rules) (net : Network σ) (s : State) (n : σ) :
    let asked := net.exchange n (listingCalls s.config "/api/tags")
    let told := net.exchange asked.2 (listingCalls s.config "/api/ps")
    ∃ tags loaded n', fetchModels.run rules net s n = (fetched s.config tags loaded, s, n') ∧
      (s.config.enabled = true → asked.1 = outcomesOf s.config tags ∧ n' = told.2) := by
  intro asked told
  obtain ⟨tags, htags⟩ :=
    exists_outcomesOf (net.length_exchange n (listingCalls s.config "/api/tags"))
  obtain ⟨loaded, hloaded⟩ :=
    exists_outcomesOf (net.length_exchange asked.2 (listingCalls s.config "/api/ps"))
  have hread : Task.config.run rules net s n = (s.config, s, n) := rfl
  by_cases hc : s.config.enabled = true
  · have hasked : (Task.exchange (listingCalls s.config "/api/tags")).run rules net s n =
        (outcomesOf s.config tags, s, asked.2) := by
      rw [htags]
      rfl
    have htold : (Task.exchange (listingCalls s.config "/api/ps")).run rules net s asked.2 =
        (outcomesOf s.config loaded, s, told.2) := by
      rw [hloaded]
      rfl
    refine ⟨tags, loaded, told.2, ?_, fun _ => ⟨htags.symm, rfl⟩⟩
    rw [fetchModels_eq, Task.run_bind_of_eq hread, if_pos hc, Task.run_bind_of_eq hasked,
      Task.run_bind_of_eq htold, fetched, if_pos hc, ← mergeReports_spread, ← mergeReports_spread]
    rfl
  · refine ⟨tags, loaded, n, ?_, fun henabled => absurd henabled hc⟩
    rw [fetchModels_eq, Task.run_bind_of_eq hread, if_neg hc, fetched, if_neg hc]
    rfl

/-- A list that is fetched with nothing in between is kept. -/
theorem refresh_run {models : List ModelEntry} {net : Network σ} {n n' : σ}
    (h : fetchModels.run rules net s n = (models, s, n')) :
    refresh.run rules net s n = (models, (s.publish s.generation models).2, n') := by
  have hread : Task.generation.run rules net s n = (s.generation, s, n) := rfl
  have hkept : (Task.publish s.generation models).run rules net s n' =
      (true, (s.publish s.generation models).2, n') := by
    have hkeeps : (s.publish s.generation models).1 = true := by rw [State.publish, if_pos rfl]
    rw [← hkeeps]
    rfl
  rw [refresh, refreshWithin_succ, attemptCatalogue, Task.run_bind_of_eq hread,
    Task.run_bind_of_eq h, Task.run_bind_of_eq hkept]
  rfl

/-- A model that is not in the map is looked for in a new list, if no fresh one is kept. -/
theorem exists_lookup_run {model : String} (hmap : Dict.get? s.routes model = none)
    (hold : s.cached rules = none) (net : Network σ) (n : σ) :
    let asked := net.exchange n (listingCalls s.config "/api/tags")
    let told := net.exchange asked.2 (listingCalls s.config "/api/ps")
    ∃ tags loaded n', (lookup model).run rules net s n =
        ((ModelList.mk (fetched s.config tags loaded)).find? model,
          (s.publish s.generation (fetched s.config tags loaded)).2, n') ∧
      (s.config.enabled = true → asked.1 = outcomesOf s.config tags ∧ n' = told.2) := by
  intro asked told
  obtain ⟨tags, loaded, n', hfetched, hasked⟩ := exists_fetchModels_run rules net s n
  have hrouted : (Task.routed model).run rules net s n = (none, s, n) := by
    change (Dict.get? s.routes model, s, n) = _
    rw [hmap]
  have hcached : Task.cached.run rules net s n = (none, s, n) := by
    change (s.cached rules, s, n) = _
    rw [hold]
  have hall : allModels.run rules net s n =
      (fetched s.config tags loaded,
        (s.publish s.generation (fetched s.config tags loaded)).2, n') := by
    rw [allModels, Task.run_bind_of_eq hcached]
    exact refresh_run hfetched
  refine ⟨tags, loaded, n', ?_, hasked⟩
  rw [lookup, Task.run_bind_of_eq hrouted]
  exact Task.run_bind_of_eq hall

end Run

/-! ## Lookups among other threads -/

theorem Trial.sent_mem_acts {t : Trial} (hc : t.config.enabled = true) :
    .sent (listingCalls t.config "/api/tags") ∈ t.acts := by
  simp [Trial.acts, Trial.work, fetching, hc]

theorem Trial.config_suffix_acts (t : Trial) (before : List Act) :
    .did .config t.config :: .did .generation t.generation :: before <:+ t.acts ++ before := by
  obtain ⟨asking, hasking⟩ := exists_fetching_eq_concat t.config t.tags t.loaded
  refine ⟨.did (.publish t.generation t.models) t.kept :: asking, ?_⟩
  simp [Trial.acts, Trial.work, hasking]

namespace System

variable {rules : Rules} {s : System} {i : Nat} {model : String} {events : List Event}

/-- How a lookup by thread `i`, in the course of `events`, came to `found`: by the map, or by a kept
list that was fresh when it was read, and then without a call to anybody; or no fresh list was kept,
and of the rounds of a refresh the last one, under the configuration of its moment, asked all the
enabled backends, of which none offers a model that was not found. -/
inductive LookupEnds (rules : Rules) (s : System) (events : List Event) (i : Nat)
    (model : String) : Option ModelEntry → Prop
  | known {e : ModelEntry}
      (hread : s.Performs rules events i (s.log.past i) (.routed model) (some e))
      (hpast : (s.run rules events).log.past i =
        .did (.routed model) (some e) :: s.log.past i) :
      LookupEnds rules s events i model (some e)
  | listed {models : List ModelEntry}
      (hmissed : s.Performs rules events i (s.log.past i) (.routed model) none)
      (hread : s.Performs rules events i (.did (.routed model) none :: s.log.past i) .cached
        (some models))
      (hpast : (s.run rules events).log.past i =
        .did .cached (some models) :: .did (.routed model) none :: s.log.past i) :
      LookupEnds rules s events i model ((ModelList.mk models).find? model)
  | sought {found : Option ModelEntry} {before : List Act} {t : Trial}
      (hmissed : s.Performs rules events i (s.log.past i) (.routed model) none)
      (hold : s.Performs rules events i (.did (.routed model) none :: s.log.past i) .cached none)
      (hbefore : .did .cached none :: .did (.routed model) none :: s.log.past i <:+ before)
      (hread : s.Performs rules events i (.did .generation t.generation :: before) .config
        t.config)
      (hpast : (s.run rules events).log.past i = t.acts ++ before)
      (hlist : found = (ModelList.mk t.models).find? model)
      (hfound : t.config.enabled = true →
        .sent (listingCalls t.config "/api/tags") ∈ t.acts ∧
          (found = none ↔ Unoffered t.config t.tags model)) :
      LookupEnds rules s events i model found

theorem lookupEnds_of_leads {found : Option ModelEntry}
    (h : (lookup model).Leads (s.log.past i) ((s.run rules events).log.past i) found) :
    s.LookupEnds rules events i model found := by
  have hmissed : .did (.routed model) none :: s.log.past i <:+ (s.run rules events).log.past i →
      s.Performs rules events i (s.log.past i) (.routed model) none :=
    performs_of_suffix (fun _ => Op.noConfusion) (List.suffix_refl _)
  have hread : ∀ kept : Option (List ModelEntry),
      .did .cached kept :: .did (.routed model) none :: s.log.past i <:+
        (s.run rules events).log.past i →
      s.Performs rules events i (.did (.routed model) none :: s.log.past i) .cached kept :=
    fun kept => performs_of_suffix (fun _ => Op.noConfusion) (List.suffix_cons _ _)
  rcases lookup_leads_cases h with ⟨e, rfl, hpast⟩ | ⟨models, rfl, hpast⟩ | ⟨models, rfl, hnew⟩
  · refine .known (performs_of_suffix (fun _ => Op.noConfusion) (List.suffix_refl _) ?_) hpast
    exact hpast ▸ List.suffix_refl _
  · refine .listed (hmissed ?_) (hread _ ?_) hpast
    · exact hpast ▸ List.suffix_cons _ _
    · exact hpast ▸ List.suffix_refl _
  · obtain ⟨trials, t, hpast, rfl, -⟩ := exists_trials_of_leads hnew
    rw [Trial.pastAfter_concat] at hpast
    have hbefore := Trial.suffix_pastAfter
      (.did .cached none :: .did (.routed model) none :: s.log.past i) trials
    have hstart : s.log.past i <:+ .did .cached none :: .did (.routed model) none :: s.log.past i :=
      (List.suffix_cons _ _).trans (List.suffix_cons _ _)
    refine .sought (hmissed ((List.suffix_cons _ _).trans hnew.suffix)) (hread _ hnew.suffix)
      hbefore (performs_of_suffix (fun _ => Op.noConfusion)
        ((hstart.trans hbefore).trans (List.suffix_cons _ _)) ?_) hpast rfl fun hc => ?_
    · rw [hpast]
      exact Trial.config_suffix_acts t _
    · exact ⟨Trial.sent_mem_acts hc, find?_fetched_eq_none_iff hc t.tags t.loaded model⟩

end System

/-! ## Unknown models -/

/-- A model that is not in the map is sought at the backends exactly if no fresh list is kept.  With
nothing in between, a lookup then asks all enabled backends, and finds nothing exactly if none of
them offers the model; but if a fresh list is kept, it looks there and asks nobody, and after any
events the model is not in that list either.  Among other threads a lookup that comes to its end has
come there in one of these ways too, under the configuration of the moment. -/
theorem unknown_model_is_sought_unless_list_is_fresh (rules : Rules) (model : String) :
    (∀ (s : State) (σ : Type) (net : Network σ) (n : σ), Dict.get? s.routes model = none →
      (∀ models, s.cached rules = some models →
        (lookup model).run rules net s n = ((ModelList.mk models).find? model, s, n)) ∧
      (s.cached rules = none → s.config.enabled = true →
        let asked := net.exchange n (listingCalls s.config "/api/tags")
        let told := net.exchange asked.2 (listingCalls s.config "/api/ps")
        ∃ tags found s', asked.1 = outcomesOf s.config tags ∧
          (lookup model).run rules net s n = (found, s', told.2) ∧
          (found = none ↔ Unoffered s.config tags model))) ∧
    ∀ (seed : RunnerConfig) (store : Option Store) (events : List Event),
      let s := (System.start seed store).run rules events
      (∀ models, s.state.cached rules = some models → Dict.get? s.state.routes model = none →
        (ModelList.mk models).find? model = none) ∧
      ∀ (i : Nat) (job : Job) (k : Option ModelEntry → Task job.Result),
        s.threads[i]? = some ⟨job, .going (lookup model >>= k)⟩ → ∀ later,
          (∃ progress, (s.run rules later).threads[i]? = some ⟨job, progress⟩ ∧
            progress.Remains k) ∨
          ∃ before event after found, later = before ++ event :: after ∧
            (s.run rules (before ++ [event])).threads[i]? = some ⟨job, .going (k found)⟩ ∧
            s.LookupEnds rules (before ++ [event]) i model found := by
  refine ⟨fun s σ net n hmap => ⟨fun models hcached => ?_, fun hold hc => ?_⟩,
    fun seed store events => ?_⟩
  · rw [lookup_run hcached, hmap, Option.none_or]
  · obtain ⟨tags, loaded, n', hrun, hasked⟩ := exists_lookup_run hmap hold net n
    obtain ⟨htags, rfl⟩ := hasked hc
    exact ⟨tags, _, _, htags, hrun, find?_fetched_eq_none_iff hc tags loaded model⟩
  · intro s
    have hreachable : s.Reachable rules seed :=
      (System.reachable_start rules seed store).run events
    refine ⟨fun models hcached hmap => ?_, fun i job k hthread later => ?_⟩
    · rw [← hreachable.get?_routes_eq_find? (hreachable.kept_of_cached hcached), hmap]
    · rcases System.remains_or_ends hreachable.follows hthread ⟨.routed model, _, rfl⟩ later with
        ⟨progress, -, -, hprogress, hremains, -⟩ |
        ⟨before, event, after, act, found, hlater, hlog, hleads, hended⟩
      · exact .inl ⟨progress, hprogress, hremains⟩
      · rw [← System.run_concat] at hleads hended
        exact .inr ⟨before, event, after, found, hlater, hended,
          System.lookupEnds_of_leads hleads⟩

/-- Every backend tells the model `z` by now, and the requests to all of them are counted. -/
def tellingZ : Network Nat := fun count _ =>
  (match nestedAnswer 1 with
    | .ok reply => .answered reply
    | .error _ => .lost, count + 1)

/-- A thread asks the only backend and finds the model. -/
def lookingUp : List Event :=
  [.begins (.select "z"), .moves 0, .moves 0, .moves 0, .moves 0, .moves 0,
    .answered 0 [nestedAnswer 1], .moves 0, .answered 0 [.error .badValue], .moves 0]

/-- A second after the backend told another model, both of its paths are asked again, and a thread
that looks for the model on its own finds it too. -/
theorem unknown_model_is_sought_after_a_second :
    let s := ((System.start { baseUrls := ["http://a"] } none).run {}
      (refreshing ++ [.passes 1000])).state
    let t := (System.start { baseUrls := ["http://a"] } none).run {} [.begins (.select "z")]
    (Dict.get? s.routes "z" = none ∧ s.cached {} = none ∧ s.config.enabled = true) ∧
      (∃ tags found s', (lookup "z").run {} tellingZ s 0 = (found, s', 2) ∧ found.isSome ∧
        (found = none ↔ Unoffered s.config tags "z")) ∧
      ∃ k before event after found,
        t.threads[0]? = some ⟨.select "z", .going (lookup "z" >>= k)⟩ ∧
        lookingUp.tail ++ [.moves 0, .moves 0] = before ++ event :: after ∧
        t.LookupEnds {} (before ++ [event]) 0 "z" found := by
  intro s t
  have hmap : Dict.get? s.routes "z" = none := Option.isNone_iff_eq_none.1 (by decide +kernel)
  have hold : s.cached {} = none := Option.isNone_iff_eq_none.1 (by decide +kernel)
  have hc : s.config.enabled = true := by decide +kernel
  have hsome : ((lookup "z").run {} tellingZ s 0).1.isSome = true := by decide +kernel
  have hcount : ((lookup "z").run {} tellingZ s 0).2.2 = 2 := by decide +kernel
  obtain ⟨k, hselect⟩ := exists_select_eq_bind {} "z"
  have hthread : t.threads[0]? = some ⟨.select "z", .going (lookup "z" >>= k)⟩ :=
    hselect ▸ System.getElem?_threads_begins {} (System.start { baseUrls := ["http://a"] } none)
      (.select "z")
  obtain ⟨hrun, hthreads⟩ := unknown_model_is_sought_unless_list_is_fresh {} "z"
  obtain ⟨tags, found, s', -, hfound, hiff⟩ := (hrun s Nat tellingZ 0 hmap).2 hold hc
  rw [hfound] at hsome hcount
  refine ⟨⟨hmap, hold, hc⟩, ⟨tags, found, s', hcount ▸ hfound, hsome, hiff⟩, ?_⟩
  obtain ⟨-, hlooks⟩ := hthreads { baseUrls := ["http://a"] } none [.begins (.select "z")]
  rcases hlooks 0 (.select "z") k hthread (lookingUp.tail ++ [.moves 0, .moves 0]) with
    ⟨progress, hprogress, hremains⟩ | ⟨before, event, after, found, hlater, -, hends⟩
  · have hdone : ((t.run {} (lookingUp.tail ++ [.moves 0, .moves 0])).threads[0]?.map
        fun t => t.progress.isDone) = some true := by decide +kernel
    rw [hprogress, Option.map_some, hremains.isDone_eq_false] at hdone
    exact nomatch hdone
  · exact ⟨k, before, event, after, found, hthread, hlater, hends⟩

/-- While the list is fresh a lookup finds no model that the backend has got since, and asks
nobody. -/
theorem unknown_model_is_not_sought_at_once :
    let s := ((System.start { baseUrls := ["http://a"] } none).run {} refreshing).state
    s.config.enabled = true ∧ Dict.get? s.routes "z" = none ∧
      (lookup "z").run {} tellingZ s 0 = (none, s, 0) ∧
      (fetchModels.run {} tellingZ s 0).1.map ModelEntry.model = ["z"] := by
  intro s
  have hmap : Dict.get? s.routes "z" = none := Option.isNone_iff_eq_none.1 (by decide +kernel)
  have hmodels : ((s.cached {}).map fun models => models.map ModelEntry.model) =
      some ["y.z"] := by decide +kernel
  obtain ⟨models, hcached, hlist⟩ := Option.map_eq_some_iff.1 hmodels
  have hunlisted : (ModelList.mk models).find? "z" = none := by
    rw [find?_eq_none_iff]
    intro e he hmodel
    have hmem := List.mem_map_of_mem (f := ModelEntry.model) he
    rw [hlist, hmodel] at hmem
    exact absurd hmem (by decide)
  refine ⟨by decide +kernel, hmap, ?_, by decide +kernel⟩
  rw [lookup_run hcached, hmap, hunlisted]
  rfl

end Gateway
end RunnerGateway
