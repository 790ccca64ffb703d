import RunnerGateway.Proofs.Moments
import RunnerGateway.Proofs.Routing

/-!
# The map of routes is an index of the kept list

The list of models and the map that requests are routed by are kept apart and read at different
moments.  They agree after every event: the map has one entry for each model of the kept list, as
the list has every model once.  So a model is found in the map exactly if it is found in the list,
and a lookup tells the same whether it ends at the map or at the list.
-/

namespace RunnerGateway

theorem Dict.ofList_perm {α : Type} {pairs : List (String × α)} (hd : (Dict.keys pairs).Nodup) :
    (Dict.ofList pairs).Perm pairs := by
  have hkeys : (Dict.keys (Dict.ofList pairs)).Nodup := (Dict.sorted_ofList pairs).nodup
  refine (List.perm_ext_iff_of_nodup hkeys.of_map hd.of_map).2 fun pair => ?_
  rw [← Dict.get?_eq_some_iff_mem hkeys, Dict.get?_ofList_of_nodup hd, Dict.get?_eq_some_iff_mem hd]

namespace Gateway

open Exchange

/-! ## The map of a list -/

section Map

variable {models : List ModelEntry} {model : String} {e : ModelEntry}

theorem keys_map_model (models : List ModelEntry) :
    Dict.keys (models.map fun e => (e.model, e)) = models.map ModelEntry.model := by
  simp [Dict.keys]

/-- If every model stands once, the map has one entry for each. -/
theorem State.routesOf_perm (h : (models.map ModelEntry.model).Nodup) :
    (State.routesOf models).Perm (models.map fun e => (e.model, e)) :=
  Dict.ofList_perm (by rwa [keys_map_model])

theorem State.get?_routesOf_eq_some_iff (h : (models.map ModelEntry.model).Nodup) :
    Dict.get? (State.routesOf models) model = some e ↔ e ∈ models ∧ e.model = model := by
  have hkeys : (Dict.keys (models.map fun e => (e.model, e))).Nodup := by rwa [keys_map_model]
  rw [State.routesOf, Dict.get?_ofList_of_nodup hkeys, Dict.get?_eq_some_iff_mem hkeys,
    List.mem_map]
  constructor
  · rintro ⟨found, hfound, hpair⟩
    obtain ⟨rfl, rfl⟩ := Prod.mk.inj hpair
    exact ⟨hfound, rfl⟩
  · rintro ⟨he, rfl⟩
    exact ⟨e, he, rfl⟩

theorem find?_eq_some_iff_of_nodup (h : (models.map ModelEntry.model).Nodup) :
    (ModelList.mk models).find? model = some e ↔ e ∈ models ∧ e.model = model := by
  refine ⟨find?_models, fun ⟨he, hmodel⟩ => ?_⟩
  cases hfound : (ModelList.mk models).find? model with
  | none =>
      have hnone := List.find?_eq_none.1 hfound e he
      simp [hmodel] at hnone
  | some found =>
      obtain ⟨hmem, hsame⟩ := find?_models hfound
      rw [List.inj_on_of_nodup_map h hmem he (hsame.trans hmodel.symm)]

end Map

/-! ## Looking a model up -/

section Lookup

variable {rules : Rules} {models : List ModelEntry} {model : String} {past later : List Act}
  {found : Option ModelEntry}

/-- A lookup ends at the map if the model is there, and else in the list. -/
theorem lookup_run {σ : Type} {s : State} (h : s.cached rules = some models) (net : Network σ)
    (n : σ) : (lookup model).run rules net s n =
      ((Dict.get? s.routes model).or ((ModelList.mk models).find? model), s, n) := by
  have hread : (Task.routed model).run rules net s n = (Dict.get? s.routes model, s, n) := rfl
  rw [lookup, Task.run_bind_of_eq hread]
  cases Dict.get? s.routes model with
  | some e => rfl
  | none =>
      change (allModels >>= _).run rules net s n = _
      rw [Task.run_bind_of_eq (allModels_run_of_cached h net n)]
      rfl

theorem lookup_run_of_routed {σ : Type} {s : State} {e : ModelEntry}
    (h : Dict.get? s.routes model = some e) (net : Network σ) (n : σ) :
    (lookup model).run rules net s n = (some e, s, n) := by
  have hread : (Task.routed model).run rules net s n = (some e, s, n) := by
    change (Dict.get? s.routes model, s, n) = _
    rw [h]
  rw [lookup, Task.run_bind_of_eq hread]
  rfl

/-- A lookup finds the model in the map, or looks for it in the kept list, or in a new one because
the kept list was too old. -/
theorem lookup_leads_cases (h : (lookup model).Leads past later found) :
    (∃ e, found = some e ∧ later = .did (.routed model) (some e) :: past) ∨
      (∃ models, found = (ModelList.mk models).find? model ∧
        later = .did .cached (some models) :: .did (.routed model) none :: past) ∨
      ∃ models, found = (ModelList.mk models).find? model ∧
        refresh.Leads (.did .cached none :: .did (.routed model) none :: past) later models := by
  obtain ⟨between, routed, hrouted, h⟩ := Task.leads_bind_iff.1 h
  obtain ⟨-, rfl⟩ := Task.leads_perform_iff.1 hrouted
  cases routed with
  | some e =>
      obtain ⟨rfl, rfl⟩ := Task.leads_pure_iff.1 h
      exact .inl ⟨e, rfl, rfl⟩
  | none =>
      obtain ⟨between, all, hall, h⟩ := Task.leads_bind_iff.1 h
      obtain ⟨rfl, rfl⟩ := Task.leads_pure_iff.1 h
      obtain ⟨between, cached, hcached, hall⟩ := Task.leads_bind_iff.1 hall
      obtain ⟨-, rfl⟩ := Task.leads_perform_iff.1 hcached
      cases cached with
      | some models =>
          obtain ⟨rfl, rfl⟩ := Task.leads_pure_iff.1 hall
          exact .inr (.inl ⟨_, rfl, rfl⟩)
      | none => exact .inr (.inr ⟨all, rfl, hall⟩)

end Lookup

namespace System

variable {rules : Rules} {seed : RunnerConfig} {s : System} {i : Nat} {job : Job}

/-! ## Reachable systems -/

/-- What holds of a gateway at all times after its start with the configuration `seed`. -/
structure Reachable (rules : Rules) (seed : RunnerConfig) (s : System) : Prop where
  agrees : s.Agrees seed
  heeds : s.Heeds Sourced fun _ _ _ => True
  follows : s.Follows rules

theorem Reachable.run (h : s.Reachable rules seed) (events : List Event) :
    (s.run rules events).Reachable rules seed where
  agrees := h.agrees.run events
  heeds := h.heeds.sourced events
  follows := h.follows.run events

theorem reachable_start (rules : Rules) (seed : RunnerConfig) (store : Option Store) :
    (System.start seed store).Reachable rules seed where
  agrees := Agrees.start seed store
  heeds := Heeds.start _ _ seed store
  follows := EachThread.start _ seed store

/-- The kept list has every model once. -/
theorem Reachable.nodup_of_kept {models : List ModelEntry} (h : s.Reachable rules seed)
    (hkept : s.log.kept = some models) : (models.map ModelEntry.model).Nodup := by
  obtain ⟨i, c, tags, loaded, later, earlier, -, rfl, -, -⟩ :=
    Log.exists_fetching_of_kept h.heeds.log h.agrees.log hkept
  exact (orderly_fetched c tags loaded).nodup

theorem Reachable.routes_of_kept {models : List ModelEntry} (h : s.Reachable rules seed)
    (hkept : s.log.kept = some models) : s.state.routes = State.routesOf models := by
  rw [h.agrees.routes, hkept]
  rfl

theorem Reachable.kept_of_cached {models : List ModelEntry} (h : s.Reachable rules seed)
    (hcached : s.state.cached rules = some models) : s.log.kept = some models := by
  obtain ⟨kept, hfilter, rfl⟩ := Option.map_eq_some_iff.1 hcached
  rw [← h.agrees.catalogue, (Option.filter_eq_some_iff.1 hfilter).1, Option.map_some]

/-- A model is found in the map exactly if it is found in the list. -/
theorem Reachable.get?_routes_eq_find? {models : List ModelEntry} (h : s.Reachable rules seed)
    (hkept : s.log.kept = some models) (model : String) :
    Dict.get? s.state.routes model = (ModelList.mk models).find? model := by
  have hnodup := h.nodup_of_kept hkept
  refine Option.ext fun e => ?_
  rw [h.routes_of_kept hkept, State.get?_routesOf_eq_some_iff hnodup,
    find?_eq_some_iff_of_nodup hnodup]

/-! ## Lookups among other threads -/

/-- What a lookup by thread `i` comes to in the course of `later`, without a call to anybody: it is
going on, and has at most not found the model in the map, or it came to its end with one event, at
which what it found is the element of that model in the list of all models. -/
def LooksUp (rules : Rules) (s : System) (i : Nat) (model : String)
    (k : Option ModelEntry → Task job.Result) (later : List Event) : Prop :=
  (∃ progress, (s.run rules later).threads[i]? = some ⟨job, progress⟩ ∧ progress.Remains k ∧
    ((s.run rules later).log.past i = s.log.past i ∨
      (s.run rules later).log.past i = .did (.routed model) none :: s.log.past i)) ∨
  ∃ before event after models found, later = before ++ event :: after ∧
    (s.run rules before).state.cached rules = some models ∧
    (∀ e, found = some e ↔ e ∈ models ∧ e.model = model) ∧
    (found.isSome ∧ ((s.run rules before).step rules event).log.past i =
        .did (.routed model) found :: s.log.past i ∨
      ((s.run rules before).step rules event).log.past i =
        .did .cached (some models) :: .did (.routed model) none :: s.log.past i) ∧
    ((s.run rules before).step rules event).threads[i]? = some ⟨job, .going (k found)⟩

/-- An operation that a thread performed with an event had the answer that the state gives. -/
theorem did_of_step {t : System} {event : Event} {op : Op} {answer : op.Answer} {act : Act}
    {past : List Act} (hlog : (t.step rules event).log = (i, act) :: t.log)
    (hpast : (t.step rules event).log.past i = .did op answer :: past)
    (hop : ∀ calls, op ≠ .exchange calls) :
    answer = (t.state.perform rules (fun _ => []) op).1 := by
  rw [hlog, Log.past_cons_self] at hpast
  obtain ⟨rfl, -⟩ := List.cons.inj hpast
  rcases (steps_step t event).acts hlog with ⟨calls, hact, -⟩ | ⟨calls, outcomes, hact, -⟩ |
    ⟨op', -, hact, -⟩
  · exact nomatch hact
  · cases hact
    exact absurd rfl (hop calls)
  · cases hact
    rfl

/-- With one of the events thread `i`, which had done what `past` tells, performs an operation, and
gets the answer that the state gives at that moment. -/
def Performs (rules : Rules) (s : System) (events : List Event) (i : Nat) (past : List Act)
    (op : Op) (answer : op.Answer) : Prop :=
  ∃ before event after, events = before ++ event :: after ∧
    (s.run rules before).log.past i = past ∧
    ((s.run rules before).step rules event).log = (i, .did op answer) :: (s.run rules before).log ∧
    answer = ((s.run rules before).state.perform rules (fun _ => []) op).1

/-- What a thread did since, it did with one of the events. -/
theorem performs_of_suffix {op : Op} {answer : op.Answer} {past : List Act} {events : List Event}
    (hop : ∀ calls, op ≠ .exchange calls) (hstart : s.log.past i <:+ past)
    (hsuffix : .did op answer :: past <:+ (s.run rules events).log.past i) :
    s.Performs rules events i past op answer := by
  have hne : .did op answer :: past ≠ s.log.past i := by
    intro heq
    have hlen := hstart.length_le
    rw [← heq, List.length_cons] at hlen
    omega
  obtain ⟨before, event, after, act, rfl, hlog, hpast⟩ :=
    exists_event_of_suffix events hne (hstart.trans (List.suffix_cons _ _)) hsuffix
  have hanswer := did_of_step hlog hpast hop
  rw [hlog, Log.past_cons_self] at hpast
  obtain ⟨rfl, hbefore⟩ := List.cons.inj hpast
  exact ⟨before, event, after, rfl, hbefore, hlog, hanswer⟩

/-- Whenever one of the events happens, the kept list is fresh. -/
def StaysFresh (rules : Rules) (s : System) (events : List Event) : Prop :=
  ∀ before event, before ++ [event] <+: events → ((s.run rules before).state.cached rules).isSome

/-- As long as the kept list is fresh, no lookup finds it too old. -/
theorem not_cached_none_suffix {later : List Event} {model : String}
    (hfresh : s.StaysFresh rules later) :
    ¬.did .cached none :: .did (.routed model) none :: s.log.past i <:+
      (s.run rules later).log.past i := by
  intro hsuffix
  have hstart : s.log.past i <:+
      .did .cached none :: .did (.routed model) none :: s.log.past i :=
    (List.suffix_cons _ _).trans (List.suffix_cons _ _)
  have hne : .did .cached none :: .did (.routed model) none :: s.log.past i ≠ s.log.past i := by
    intro heq
    have hlen := congrArg List.length heq
    simp only [List.length_cons] at hlen
    omega
  obtain ⟨before, event, after, act, rfl, hlog, hpast⟩ :=
    exists_event_of_suffix later hne hstart hsuffix
  have hnone : none = (s.run rules before).state.cached rules :=
    did_of_step hlog hpast (fun _ => Op.noConfusion)
  have hsome := hfresh before event ⟨after, by simp⟩
  rw [← hnone] at hsome
  exact Bool.false_ne_true hsome

theorem Reachable.looksUp {model : String} {k : Option ModelEntry → Task job.Result}
    (h : s.Reachable rules seed)
    (hthread : s.threads[i]? = some ⟨job, .going (lookup model >>= k)⟩) (later : List Event)
    (hfresh : s.StaysFresh rules later) : s.LooksUp rules i model k later := by
  rcases remains_or_ends h.follows hthread ⟨.routed model, _, rfl⟩ later with
    ⟨progress, whole, found, hprogress, hremains, hleads, hsuffix, hne⟩ |
    ⟨before, event, after, act, found, rfl, hlog, hleads, hended⟩
  · refine .inl ⟨progress, hprogress, hremains, ?_⟩
    have hrecent : (s.run rules later).log.past i <:+
        .did (.routed model) none :: s.log.past i := by
      rcases lookup_leads_cases hleads with ⟨e, -, rfl⟩ | ⟨models, -, rfl⟩ | ⟨models, -, hnew⟩
      · exact ((List.suffix_cons_iff.1 hsuffix).resolve_left hne).trans (List.suffix_cons _ _)
      · exact (List.suffix_cons_iff.1 hsuffix).resolve_left hne
      · have hold := (List.suffix_or_suffix_of_suffix hsuffix hnew.suffix).resolve_right
          (not_cached_none_suffix hfresh)
        refine (List.suffix_cons_iff.1 hold).resolve_left fun hsame => ?_
        exact not_cached_none_suffix hfresh ⟨[], hsame.symm⟩
    rcases List.suffix_cons_iff.1 hrecent with hmissed | hnothing
    · exact .inr hmissed
    · exact .inl (hnothing.eq_of_length_le (past_suffix_run rules s later i).length_le)
  · have hbefore : before ++ [event] <+: before ++ event :: after := ⟨after, by simp⟩
    obtain ⟨models, hcached⟩ := Option.isSome_iff_exists.1 (hfresh before event hbefore)
    have hreachable := h.run before
    have hkept := hreachable.kept_of_cached hcached
    have hlist : ∀ e, (ModelList.mk models).find? model = some e ↔ e ∈ models ∧ e.model = model :=
      fun e => find?_eq_some_iff_of_nodup (hreachable.nodup_of_kept hkept)
    refine .inr ⟨before, event, after, models, found, rfl, hcached, ?_⟩
    rcases lookup_leads_cases hleads with
      ⟨e, rfl, hpast⟩ | ⟨listed, rfl, hpast⟩ | ⟨fresh, -, hnew⟩
    · have hrouted : some e = Dict.get? (s.run rules before).state.routes model :=
        did_of_step hlog hpast (fun _ => Op.noConfusion)
      rw [hreachable.get?_routes_eq_find? hkept] at hrouted
      exact ⟨hrouted ▸ hlist, .inl ⟨rfl, hpast⟩, hended⟩
    · have hlisted : some listed = (s.run rules before).state.cached rules :=
        did_of_step hlog hpast (fun _ => Op.noConfusion)
      obtain rfl := Option.some.inj (hlisted.trans hcached)
      exact ⟨hlist, .inr hpast, hended⟩
    · -- The list would have been too old at one of the events.
      have hold := hnew.suffix
      rw [← run_concat] at hold
      refine absurd hold (not_cached_none_suffix fun first next hfirst => ?_)
      exact hfresh first next (hfirst.trans hbefore)

end System

/-! ## The index -/

/-- After any events, among any threads, the map has exactly one entry for each element of the list
that was kept last, under its model, and none if the list was thrown away.  So as long as the list
is fresh a lookup finds exactly the element of its model in the list of all models, and a model that
is in the map is found without a call to anybody. -/
theorem routes_index_catalogue (rules : Rules) (seed : RunnerConfig) (store : Option Store)
    (events : List Event) :
    let s := (System.start seed store).run rules events
    s.state.catalogue.map Catalogue.models = s.log.kept ∧
      (s.log.kept = none → s.state.routes = []) ∧
      (∀ models, s.log.kept = some models → (models.map ModelEntry.model).Nodup ∧
        s.state.routes.Perm (models.map fun e => (e.model, e))) ∧
      (∀ models, s.state.cached rules = some models →
        ∀ (σ : Type) (net : Network σ) (n : σ),
          allModels.run rules net s.state n = (models, s.state, n) ∧
          ∀ model, ∃ found, (lookup model).run rules net s.state n = (found, s.state, n) ∧
            ∀ e, found = some e ↔ e ∈ models ∧ e.model = model) ∧
      ∀ (i : Nat) (job : Job) (model : String) (k : Option ModelEntry → Task job.Result),
        s.threads[i]? = some ⟨job, .going (lookup model >>= k)⟩ →
          (∀ e, Dict.get? s.state.routes model = some e →
            s.step rules (.moves i) =
              s.advance i ⟨job, .going (k (some e))⟩ (.did (.routed model) (some e)) s.state) ∧
          ∀ later, s.StaysFresh rules later → s.LooksUp rules i model k later := by
  intro s
  have hreachable : s.Reachable rules seed := (System.reachable_start rules seed store).run events
  refine ⟨hreachable.agrees.catalogue, fun hnone => ?_, fun models hkept => ?_,
    fun models hcached σ net n => ?_, fun i job model k hthread => ⟨fun e he => ?_, ?_⟩⟩
  · rw [hreachable.agrees.routes, hnone]
    rfl
  · have hnodup := hreachable.nodup_of_kept hkept
    rw [hreachable.routes_of_kept hkept]
    exact ⟨hnodup, State.routesOf_perm hnodup⟩
  · refine ⟨allModels_run_of_cached hcached net n, fun model => ⟨_, lookup_run hcached net n, ?_⟩⟩
    have hkept := hreachable.kept_of_cached hcached
    intro e
    rw [hreachable.get?_routes_eq_find? hkept, Option.or_self,
      find?_eq_some_iff_of_nodup (hreachable.nodup_of_kept hkept)]
  · have hmove := System.step_moves rules hthread (fun _ => Op.noConfusion)
    have hread : (s.state.perform rules (fun _ => []) (.routed model)) = (some e, s.state) := by
      rw [← he]
      rfl
    rw [hmove, hread]
    rfl
  · exact fun later hfresh => hreachable.looksUp hthread later hfresh

/-- Choosing a backend begins with a lookup. -/
theorem exists_select_eq_bind (rules : Rules) (model : String) :
    ∃ k : Option ModelEntry → Task (Job.select model).Result,
      (Job.select model).task rules = lookup model >>= k :=
  ⟨_, (Task.bind_bind _ _ _).trans (Task.bind_bind (lookup model) _ _)⟩

theorem System.getElem?_threads_begins (rules : Rules) (s : System) (job : Job) :
    (s.step rules (.begins job)).threads[s.threads.length]? =
      some ⟨job, .going (job.task rules)⟩ := by
  simp [System.step]

/-- One backend is asked for its models. -/
def refreshing : List Event :=
  [.begins .refresh, .moves 0, .moves 0, .moves 0, .answered 0 [nestedAnswer 0], .moves 0,
    .answered 0 [.error .badValue], .moves 0]

/-- After a backend was asked for its models, a backend is chosen for one of them. -/
def refreshingAndSelecting : List Event :=
  refreshing ++ [.begins (.select "y.z")]

/-- The request finds its model in the map and in the list, and no other model is found. -/
theorem routes_index_catalogue_selecting :
    let s := (System.start { baseUrls := ["http://a"] } none).run {} refreshingAndSelecting
    ∃ models k, s.state.cached {} = some models ∧ models.map ModelEntry.model = ["y.z"] ∧
      s.threads[1]? = some ⟨.select "y.z", .going (lookup "y.z" >>= k)⟩ ∧
      s.LooksUp {} 1 "y.z" k [.moves 1] ∧
      ∀ (σ : Type) (net : Network σ) (n : σ),
        (lookup "y.w").run {} net s.state n = (none, s.state, n) := by
  intro s
  have hmodels : ((s.state.cached {}).map fun models => models.map ModelEntry.model) =
      some ["y.z"] := by decide +kernel
  obtain ⟨models, hcached, hlist⟩ := Option.map_eq_some_iff.1 hmodels
  obtain ⟨k, hselect⟩ := exists_select_eq_bind {} "y.z"
  have hthread : s.threads[1]? = some ⟨.select "y.z", .going (lookup "y.z" >>= k)⟩ := by
    have hbegun := System.getElem?_threads_begins {}
      ((System.start { baseUrls := ["http://a"] } none).run {} refreshing) (.select "y.z")
    have hone : ((System.start { baseUrls := ["http://a"] } none).run {}
        refreshing).threads.length = 1 := by decide +kernel
    rw [hone, ← System.run_concat] at hbegun
    rw [← hselect]
    exact hbegun
  have hfresh : s.StaysFresh {} [.moves 1] := by
    intro before event hbefore
    obtain rfl : before = [] := by simpa using hbefore.length_le
    decide +kernel
  obtain ⟨-, -, -, hrun, hlooks⟩ :=
    routes_index_catalogue {} { baseUrls := ["http://a"] } none refreshingAndSelecting
  refine ⟨models, k, hcached, hlist, hthread, (hlooks 1 (.select _) _ k hthread).2 _ hfresh,
    fun σ net n => ?_⟩
  obtain ⟨found, hfound, hiff⟩ := (hrun models hcached σ net n).2 "y.w"
  rw [hfound]
  cases found with
  | none => rfl
  | some e =>
      obtain ⟨he, hmodel⟩ := (hiff e).1 rfl
      have hmem := List.mem_map_of_mem (f := ModelEntry.model) he
      rw [hlist, hmodel] at hmem
      exact absurd hmem (by decide)

end Gateway
end RunnerGateway
