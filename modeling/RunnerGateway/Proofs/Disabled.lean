import RunnerGateway.Proofs.Answers
import RunnerGateway.Proofs.Freshness
import RunnerGateway.Proofs.Sequence
import RunnerGateway.Proofs.Threads

/-!
# A gateway whose interface is disabled

The switch of the interface is looked at where lists are made, and nowhere else: a request for a
model is routed by the catalogue alone.  But the catalogue is thrown away after every update, and
what is kept after that was made under the new configuration.  So a gateway that is disabled, and
owes nothing, has nothing in its catalogue (`System.idle_of_disabled`), and finds no backend for any
model.  A request that has been answered owes nothing (`owes_of_leads_respond`), so this is so after
any sequence of requests.
-/

namespace RunnerGateway
namespace Gateway

open Exchange Http

/-! ## Who owes throwing the catalogue away -/

/-- Who did this has written a configuration, and did not throw the catalogue away since. -/
def owes : List Act → Bool
  | [] => false
  | act :: past => if act.isWrite then true else if act.isInvalidation then false else owes past

theorem Log.mem_owing_iff {i : Nat} {log : Log} : i ∈ log.owing ↔ owes (past i log) = true := by
  induction log with
  | nil => simp [Log.owing, owes]
  | cons entry log ih =>
      obtain ⟨j, act⟩ := entry
      by_cases hij : j = i
      · subst hij
        rw [past_cons_self, owes, Log.owing]
        by_cases hwrite : act.isWrite = true
        · simp [hwrite]
        · by_cases hinv : act.isInvalidation = true
          · simp [hwrite, hinv]
          · simpa [hwrite, hinv] using ih
      · rw [past_cons_of_ne hij, ← ih, Log.owing]
        have hne : i ≠ j := fun h => hij h.symm
        split
        · simp [hne]
        · split
          · simp [hne]
          · rfl

/-- No configuration is written. -/
def Unwritten : Discipline :=
  fun _ op => ∀ form, op ≠ .configure form

theorem unwritten_letsServe {e : Endpoint} (he : e ≠ .configUpdate) (idx : Option Nat) :
    Discipline.LetsServe Unwritten e idx := by
  have hask : Discipline.LetsAsk Unwritten := by
    apply letsAsk_of_permits
    rintro op hasks past form rfl
    exact hasks
  exact
    { toLetsAsk := hask
      select := fun _ _ => heeds_select_of_permits hask.toLetsLook fun _ => nofun
      sending := fun _ _ _ _ _ _ _ => fun _ => nofun
      configure := fun h => absurd h he
      invalidate := fun _ _ => nofun }

theorem owes_did_of_unwritten {past : List Act} {op : Op} (hop : Unwritten past op)
    (answer : op.Answer) (h : owes past = false) :
    owes (.did op answer :: (op.prelude ++ past)) = false := by
  cases op with
  | configure form => exact absurd rfl (hop form)
  | invalidate => rfl
  | _ => exact h

/-- Who writes nothing owes nothing in the end. -/
theorem owes_of_leads {α : Type} {t : Task α} {past later : List Act} {a : α}
    {wanted : List Act → α → Prop} (hleads : t.Leads past later a)
    (h : t.Ensures Unwritten past wanted) (hpast : owes past = false) : owes later = false := by
  induction hleads with
  | done past a => exact hpast
  | step answer hadmits hrest ih =>
      exact ih (h.2 answer hadmits) (owes_did_of_unwritten h.1 answer hpast)

/-- Who changes the configuration throws the catalogue away after that. -/
theorem changeConfig_ensures (r : Request) :
    (changeConfig r).run.Ensures (fun _ _ => True) [] fun later _ => owes later = false := by
  unfold changeConfig
  cases hbody : bodyOf r with
  | error e => rfl
  | ok v =>
      rw [attempt_ok, pure_bind]
      cases hdecode : ConfigUpdate.decode v with
      | error cause => rfl
      | ok form =>
          refine ⟨trivial, fun written _ => ?_⟩
          cases written with
          | error e => rfl
          | ok config => exact ⟨trivial, fun _ _ => rfl⟩

/-- A request that has been answered owes nothing. -/
theorem owes_of_leads_respond {rules : Rules} {r : Request} {later : List Act}
    {response : Response} (h : (respond rules r).Leads [] later response) :
    owes later = false := by
  rcases served_or_exists_respond rules r with ⟨route, idx, hserved⟩ | ⟨response', hrespond⟩
  · rw [respond_of_served hserved] at h
    obtain ⟨between, result, hserve, hrest⟩ := Task.leads_bind_iff.1 h
    obtain ⟨rfl, -⟩ := Task.leads_pure_iff.1 hrest
    by_cases hupdate : route.endpoint = .configUpdate
    · rw [hupdate] at hserve
      exact (changeConfig_ensures r).of_leads hserve
    · have hheeds : (serve rules r idx route.endpoint).Heeds Unwritten :=
        heeds_serve (unwritten_letsServe hupdate idx) rules r
      exact owes_of_leads hserve (hheeds []) rfl
  · rw [hrespond] at h
    obtain ⟨rfl, -⟩ := Task.leads_pure_iff.1 h
    rfl

/-- Where all threads have answered requests, nothing is owed. -/
theorem System.owing_eq_nil_of_answered {rules : Rules} {seed : RunnerConfig}
    {store : Option Store} {events : List Event}
    (h : ∀ thread ∈ ((System.start seed store).run rules events).threads, thread.Answered) :
    ((System.start seed store).run rules events).log.owing = [] := by
  refine List.eq_nil_iff_forall_not_mem.2 fun i howing => ?_
  have howes := Log.mem_owing_iff.1 howing
  cases hthread : ((System.start seed store).run rules events).threads[i]? with
  | none =>
      have hbegun := (follows_run rules seed store events).begun i
        (List.getElem?_eq_none_iff.1 hthread)
      rw [hbegun] at howes
      exact nomatch howes
  | some thread =>
      obtain ⟨r, response, rfl⟩ := h thread (List.mem_of_getElem? hthread)
      rw [owes_of_leads_respond (System.leads_of_done hthread)] at howes
      exact nomatch howes

/-! ## Idle states -/

/-- The interface is disabled, and there is nothing in the catalogue. -/
structure State.Idle (s : State) : Prop where
  disabled : s.config.enabled = false
  routes : s.routes = []
  catalogue : ∀ kept, s.catalogue = some kept → kept.models = []

/-- In every interleaving a gateway that is disabled, and owes nothing, is idle. -/
theorem System.idle_of_disabled {rules : Rules} {seed : RunnerConfig} {store : Option Store}
    {events : List Event}
    (hdisabled : ((System.start seed store).run rules events).state.config.enabled = false)
    (howing : ((System.start seed store).run rules events).log.owing = []) :
    ((System.start seed store).run rules events).state.Idle := by
  generalize hs : (System.start seed store).run rules events = s at hdisabled howing ⊢
  have hheeds : s.log.Heeds Sourced :=
    hs ▸ heeds_log (fun job => heeds_job sourced_isOpen heeds_refresh rules job) seed store events
  have hagrees : s.Agrees seed := hs ▸ (System.Agrees.start seed store).run events
  -- Whatever is kept was fetched under the present configuration.
  have hkept : ∀ models, s.log.kept = some models → models = [] := by
    intro models hmodels
    obtain ⟨i, tags, loaded, later, earlier, -, hfetched, -, -⟩ :=
      Log.exists_fetching_of_kept_of_owing hheeds hagrees.log hmodels howing
    rw [← hagrees.config] at hfetched
    simpa [fetched, hdisabled] using hfetched
  refine ⟨hdisabled, ?_, ?_⟩
  · rw [hagrees.routes]
    cases hlog : s.log.kept with
    | none => rfl
    | some models =>
        obtain rfl := hkept models hlog
        rfl
  · intro kept hcatalogue
    refine hkept kept.models ?_
    rw [← hagrees.catalogue, hcatalogue, Option.map_some]

/-! ## What is done in idle states -/

/-- In every idle state the task ends with `a`, calls nobody, and leaves the state idle. -/
def Task.Idles {α : Type} (rules : Rules) (a : α) (t : Task α) : Prop :=
  ∀ s : State, s.Idle → ∃ s' : State, s'.Idle ∧
    ∀ (σ : Type) (net : Network σ) (n : σ), t.run rules net s n = (a, s', n)

section Idling

variable {α β : Type} {rules : Rules} {a : α} {b : β} {t : Task α}

theorem Task.idles_pure (rules : Rules) (a : α) : (pure a : Task α).Idles rules a :=
  fun s hs => ⟨s, hs, fun _ _ _ => rfl⟩

theorem Task.Idles.bind {f : α → Task β} (h : t.Idles rules a) (hf : (f a).Idles rules b) :
    (t >>= f).Idles rules b := by
  intro s hs
  obtain ⟨between, hbetween, hfirst⟩ := h s hs
  obtain ⟨s', hs', hsecond⟩ := hf between hbetween
  refine ⟨s', hs', fun σ net n => ?_⟩
  rw [Task.run_bind_of_eq (hfirst σ net n), hsecond σ net n]

/-- After an error an attempt goes no further. -/
theorem Attempt.idles_bind_of_error {x : Attempt α} {f : α → Attempt β} {e : GatewayError}
    (h : x.run.Idles rules (.error e)) : (x >>= f).run.Idles rules (.error e) :=
  Task.Idles.bind h (Task.idles_pure rules _)

theorem Attempt.idles_lift (h : t.Idles rules a) :
    (monadLift t : Attempt α).run.Idles rules (.ok a) :=
  Task.Idles.bind h (Task.idles_pure rules _)

/-- What only reads the configuration, and minds only that the interface is disabled, idles. -/
theorem Task.OnlyReads.idles (h : t.OnlyReads (fun c => c.enabled = false) a) (rules : Rules) :
    t.Idles rules a :=
  fun s hs => ⟨s, hs, fun _ net n => h.run rules net hs.disabled n⟩

theorem onlyReads_fetchLoaded {c : RunnerConfig} (hc : c.enabled = false) :
    (fetchLoaded c).OnlyReads (fun c => c.enabled = false) [] := by
  rw [fetchLoaded, hc]
  exact .done

theorem onlyReads_loadedModels : loadedModels.OnlyReads (fun c => c.enabled = false) [] :=
  .reads fun _ hc => onlyReads_fetchLoaded hc

theorem onlyReads_fetchModels : fetchModels.OnlyReads (fun c => c.enabled = false) [] := by
  rw [fetchModels_eq]
  refine .reads fun c hc => ?_
  change Task.OnlyReads _ _ (if c.enabled = true then _ else _)
  rw [hc]
  exact .done

theorem onlyReads_lowestVersion :
    lowestVersion.run.OnlyReads (fun c => c.enabled = false) (.ok (.bool false)) := by
  refine .reads fun c hc => ?_
  change Task.OnlyReads _ _ (ExceptT.run (if c.enabled = true then _ else _))
  rw [hc]
  exact .done

theorem onlyReads_version (idx : Option Nat) :
    (version idx).run.OnlyReads (fun c => c.enabled = false)
      (.ok (.ofJson 200 (.obj [("version", .bool false)]))) := by
  cases idx with
  | none => exact onlyReads_lowestVersion.bind .done
  | some idx =>
      refine .reads fun c hc => ?_
      change Task.OnlyReads _ _ (ExceptT.run (if c.enabled = true then _ else _))
      rw [hc]
      exact .done

/-- A new catalogue is made and kept, with nothing in it. -/
theorem idles_refresh (rules : Rules) : refresh.Idles rules [] := by
  intro s hs
  refine ⟨{ s with catalogue := some ⟨s.now, []⟩, routes := [] }, ?_, fun σ net n => ?_⟩
  · refine ⟨hs.disabled, rfl, ?_⟩
    rintro kept hkept
    obtain rfl := Option.some.inj hkept
    rfl
  · have hfetch := onlyReads_fetchModels.run rules net hs.disabled n
    have hpublish : s.publish s.generation [] =
        (true, { s with catalogue := some ⟨s.now, []⟩, routes := [] }) := if_pos rfl
    have hkept : (Task.publish s.generation []).run rules net s n =
        (true, { s with catalogue := some ⟨s.now, []⟩, routes := [] }, n) := by
      change ((s.publish s.generation []).1, (s.publish s.generation []).2, n) = _
      rw [hpublish]
    change (fetchModels >>= fun models => Task.publish s.generation models >>= _).run rules net s n
      = _
    rw [Task.run_bind_of_eq hfetch, Task.run_bind_of_eq hkept]
    rfl

theorem idles_allModels (rules : Rules) : allModels.Idles rules [] := by
  intro s hs
  cases hcached : s.cached rules with
  | some models =>
      obtain ⟨kept, hfilter, rfl⟩ := Option.map_eq_some_iff.1 hcached
      have hnil := hs.catalogue kept (Option.filter_eq_some_iff.1 hfilter).1
      refine ⟨s, hs, fun σ net n => ?_⟩
      rw [allModels_run_of_cached hcached, hnil]
  | none =>
      obtain ⟨s', hs', hrefresh⟩ := idles_refresh rules s hs
      refine ⟨s', hs', fun σ net n => ?_⟩
      have hread : Task.cached.run rules net s n = (none, s, n) := by
        change (s.cached rules, s, n) = _
        rw [hcached]
      rw [allModels, Task.run_bind_of_eq hread]
      exact hrefresh σ net n

theorem idles_routed (rules : Rules) (model : String) :
    (Task.routed model).Idles rules none := by
  intro s hs
  refine ⟨s, hs, fun σ net n => ?_⟩
  change (Dict.get? s.routes model, s, n) = _
  rw [hs.routes]
  rfl

theorem idles_lookup (rules : Rules) (model : String) : (lookup model).Idles rules none :=
  (idles_routed rules model).bind ((idles_allModels rules).bind (Task.idles_pure rules none))

theorem idles_candidates (rules : Rules) (model : String) :
    (candidates model).run.Idles rules (.error (.modelNotFound model)) :=
  Task.Idles.bind (Attempt.idles_lift (idles_lookup rules model)) (Task.idles_pure rules _)

/-- No backend is found for any model. -/
theorem idles_choose {e : Endpoint} (he : e ≠ .pull) (rules : Rules) (model : String) :
    (e.choose none model).run.Idles rules (.error (.modelNotFound model)) := by
  have hselect : (select model).run.Idles rules (.error (.modelNotFound model)) :=
    Attempt.idles_bind_of_error (idles_candidates rules model)
  cases e with
  | pull => exact absurd rfl he
  | delete => exact Attempt.idles_bind_of_error (idles_candidates rules model)
  | _ => exact hselect

end Idling

/-! ## Requests to a disabled gateway -/

/-- What a request gets from a gateway whose interface is disabled. -/
inductive Denial (r : Request) : Route → Response → Prop
  | tags : Denial r ⟨.tags, none⟩ (.ofJson 200 (.obj [("models", .arr [])]))
  | loaded : Denial r ⟨.loaded, none⟩ (.ofJson 200 (.obj [("models", .arr [])]))
  | version (position : Option (List Char)) :
      Denial r ⟨.version, position⟩ (.ofJson 200 (.obj [("version", .bool false)]))
  | model {e : Endpoint} {v : Json} (hv : bodyOf r = .ok v) (haccepts : e.Accepts v)
      (he : e ≠ .pull) :
      Denial r ⟨e, none⟩ (.ofJson 400
        (.obj [("error", .str ("Model '" ++ e.sought none v ++ "' was not found"))]))

/-- All requests that need an enabled interface are denied, whatever becomes of calls, and no call
is made for them. -/
def State.Denies (rules : Rules) (s : State) : Prop :=
  ∀ r route idx response, Served rules r route idx → Denial r route response →
    ∃ s' : State, ∀ (σ : Type) (net : Network σ) (n : σ),
      (respond rules r).run rules net s n = (r.shown response, s', n)

theorem idles_serve_of_denial {rules : Rules} {r : Request} {route : Route} {idx : Option Nat}
    {response : Response} (hserved : Served rules r route idx) (h : Denial r route response) :
    ∃ result, (serve rules r idx route.endpoint).run.Idles rules result ∧
      Response.ofResult result = response := by
  cases h with
  | tags =>
      obtain rfl : none = idx := Except.ok.inj hserved.index
      exact ⟨_, (Attempt.idles_lift (idles_allModels rules)).bind (Task.idles_pure rules _), rfl⟩
  | loaded =>
      have hloaded : loadedModels.Idles rules [] := onlyReads_loadedModels.idles rules
      exact ⟨_, (Attempt.idles_lift hloaded).bind (Task.idles_pure rules _), rfl⟩
  | version position => exact ⟨_, (onlyReads_version idx).idles rules, rfl⟩
  | @model e v hv haccepts he =>
      obtain rfl : none = idx := Except.ok.inj hserved.index
      obtain ⟨members, rfl⟩ := exists_obj_of_accepts haccepts
      have hpasses : e.PassesOn rules r none (.obj members) := passesOn_of_accepts hv haccepts
      obtain ⟨method, path, -, body, -, hserve⟩ := hpasses
      refine ⟨.error (.modelNotFound (e.sought none (.obj members))), ?_, rfl⟩
      rw [hserve]
      exact Attempt.idles_bind_of_error (idles_choose he rules _)

/-- An idle gateway denies what needs an enabled interface. -/
theorem State.Idle.denies {s : State} (hs : s.Idle) (rules : Rules) : s.Denies rules := by
  intro r route idx response hserved hdenial
  obtain ⟨result, hidles, rfl⟩ := idles_serve_of_denial hserved hdenial
  have hrespond : (respond rules r).Idles rules (r.shown (.ofResult result)) := by
    rw [respond_of_served hserved]
    exact hidles.bind (Task.idles_pure rules _)
  obtain ⟨s', -, hrun⟩ := hrespond s hs
  exact ⟨s', hrun⟩

/-- A gateway whose interface is disabled denies what needs it, and calls nobody for that: after any
sequence of requests, whatever the backends answered, and in every interleaving in which no thread
owes throwing the catalogue away. -/
theorem disabled_gateway_calls_nobody (rules : Rules) (seed : RunnerConfig)
    (store : Option Store) :
    (∀ (σ : Type) (net : Network σ) (n : σ) (requests : List (Nat × Request)),
      let s := (answerAll rules net requests (System.start seed store).state n).1
      s.config.enabled = false → s.Denies rules) ∧
    ∀ events,
      let s := (System.start seed store).run rules events
      s.state.config.enabled = false → s.log.owing = [] → s.state.Denies rules := by
  constructor
  · intro σ net n requests s hdisabled
    -- The requests are one of the interleavings, and in the end all of them are answered.
    obtain ⟨events, -, hstate, hanswered⟩ :=
      System.exists_run_eq_answerAll rules net requests n (s := System.start seed store) (by
        simp [System.start])
    have hs : s = ((System.start seed store).run rules events).state := hstate.symm
    rw [hs] at hdisabled ⊢
    exact (System.idle_of_disabled hdisabled (System.owing_eq_nil_of_answered hanswered)).denies
      rules
  · intro events s hdisabled howing
    exact (System.idle_of_disabled hdisabled howing).denies rules

/-- A request for the catalogue. -/
def askingCatalogue : Request where
  method := "GET"
  path := "/api/tags"

/-- A request to disable the interface. -/
def disablingInterface : Request where
  method := "POST"
  path := "/config/update"
  headers := [.ofText contentType jsonType]
  body :=
    ("\x7b\"ENABLE_DOCKER_MODEL_RUNNER_API\":false," ++
      "\"DOCKER_MODEL_RUNNER_BASE_URLS\":[\"http://a\"]," ++
      "\"DOCKER_MODEL_RUNNER_API_CONFIGS\":\x7b\x7d\x7d").toUTF8.toList

/-- A network on which every request gets the list of one model. -/
def listingNetwork : Network Unit :=
  fun _ _ => ((nestedAnswer 1).toOption.elim .lost .answered, ())

/-- After the catalogue was asked for it has a model, and after the interface was disabled the
catalogue is empty, and nobody is asked for it any more. -/
theorem disabled_gateway_calls_nobody_after_caching :
    let start := (System.start { baseUrls := ["http://a"] } none).state
    let cached := (answerAll {} listingNetwork [(0, askingCatalogue)] start ()).1
    let disabled :=
      (answerAll {} listingNetwork [(0, askingCatalogue), (0, disablingInterface)] start ()).1
    (cached.catalogue.map fun kept => kept.models.map ModelEntry.model) = some ["z"] ∧
      disabled.config.enabled = false ∧
      ∃ s' : State, ∀ (net : Network (List WireRequest)) (sent : List WireRequest),
        (respond {} askingCatalogue).run {} net disabled sent =
          (.ofJson 200 (.obj [("models", .arr [])]), s', sent) := by
  intro start cached disabled
  have hdisabled : disabled.config.enabled = false := by decide +kernel
  refine ⟨by decide +kernel, hdisabled, ?_⟩
  have hserved : Served {} askingCatalogue ⟨.tags, none⟩ none :=
    ⟨by decide +kernel, rfl, by decide, rfl⟩
  obtain ⟨s', hrun⟩ := (disabled_gateway_calls_nobody {} { baseUrls := ["http://a"] } none).1 Unit
    listingNetwork () [(0, askingCatalogue), (0, disablingInterface)] hdisabled askingCatalogue
    ⟨.tags, none⟩ none _ hserved .tags
  refine ⟨s', fun net sent => ?_⟩
  rw [hrun (List WireRequest) net sent, Request.shown_eq_self (by decide)]

end Gateway
end RunnerGateway
