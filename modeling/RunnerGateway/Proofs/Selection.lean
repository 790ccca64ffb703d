import RunnerGateway.Proofs.Turns
import RunnerGateway.Proofs.UnknownModels

/-!
# Which backend is chosen

The positions of a model come from the catalogue, which may have been made under another
configuration; what stands at a position, and whether it may be used, is settled by the
configuration that is read when the entry has been found.  So whatever the catalogue says, a backend
that is chosen is one of the present configuration, and choosing fails only if the model is unknown
or none of its positions can be used.
-/

namespace RunnerGateway

namespace RunnerConfig

variable {c : RunnerConfig} {idx : Nat} {b : Backend}

/-- A backend stands at the position, and its entry does not disable it. -/
def Usable (c : RunnerConfig) (idx : Nat) : Prop :=
  idx < c.baseUrls.length ∧ ((c.backendConfig? idx).getD {}).enable = true

theorem backend?_eq_some_iff :
    c.backend? idx = some b ↔ b.idx = idx ∧ c.baseUrls[idx]? = some b.url ∧
      b.config = (c.backendConfig? idx).getD {} := by
  rw [backend?, backendConfig?, Option.map_eq_some_iff]
  constructor
  · rintro ⟨url, hurl, rfl⟩
    refine ⟨rfl, hurl, ?_⟩
    rw [hurl, Option.bind_some]
  · rintro ⟨rfl, hurl, hconfig⟩
    refine ⟨b.url, hurl, ?_⟩
    rw [hurl, Option.bind_some] at hconfig
    rw [← hconfig]

theorem usable_iff : c.Usable idx ↔ ∃ b, c.backend? idx = some b ∧ b.isEnabled = true := by
  constructor
  · rintro ⟨hidx, henable⟩
    refine ⟨⟨idx, c.baseUrls[idx], (c.backendConfig? idx).getD {}⟩, ?_, henable⟩
    exact backend?_eq_some_iff.2 ⟨rfl, List.getElem?_eq_getElem hidx, rfl⟩
  · rintro ⟨b, hb, henabled⟩
    obtain ⟨-, hurl, hconfig⟩ := backend?_eq_some_iff.1 hb
    exact ⟨(List.getElem?_eq_some_iff.1 hurl).1, hconfig ▸ henabled⟩

end RunnerConfig

namespace Gateway

open Exchange

/-! ## Ways to choose -/

/-- How one of the backends of a model is chosen. -/
inductive Choice
  /-- The one whose turn it is. -/
  | inTurn
  /-- The one in front. -/
  | foremost

namespace Choice

variable {way : Choice} {model : String} {bs : List Backend} {result : Except GatewayError Backend}
  {c : RunnerConfig} {e : ModelEntry}

/-- The choice of a backend. -/
def choose : Choice → String → Attempt Backend
  | .inTurn => select
  | .foremost => firstServing

/-- What is done as soon as the backends that serve the model are known. -/
def pick (way : Choice) (model : String) :
    List Backend → Task (Except GatewayError Backend)
  | [] => pure (.error (.noBackendsAvailable model))
  | first :: others =>
    match way with
    | .inTurn => Task.turn model >>= fun turn => pure (.ok (atTurn first others turn))
    | .foremost => pure (.ok first)

/-- What is done as soon as the entry of the model has been looked up. -/
def resolve (way : Choice) (model : String) :
    Option ModelEntry → Task (Except GatewayError Backend)
  | none => pure (.error (.modelNotFound model))
  | some e => Task.config >>= fun c => way.pick model (serving c e)

theorem run_lift_bind {α β : Type} (t : Task α) (f : α → Attempt β) :
    (((liftM t : Attempt α) >>= f).run : Task (Except GatewayError β)) =
      t >>= fun a => (f a).run :=
  ExceptT.run_bind_lift t f

theorem run_candidates_bind {rest : List Backend → Attempt Backend}
    (hrest : ∀ bs, (rest bs).run = way.pick model bs) :
    (candidates model >>= rest).run = lookup model >>= way.resolve model := by
  rw [candidates, bind_assoc, run_lift_bind]
  refine congrArg _ (funext fun found => ?_)
  cases found with
  | none => rfl
  | some e =>
      dsimp only
      rw [bind_assoc, run_lift_bind, resolve]
      refine congrArg _ (funext fun c => ?_)
      rw [pure_bind]
      exact hrest _

/-- First the entry is looked up, then the configuration is read, and then one of the backends at
the positions of the entry is picked. -/
theorem run_choose (way : Choice) (model : String) :
    (way.choose model).run = lookup model >>= way.resolve model := by
  cases way with
  | inTurn =>
      refine run_candidates_bind fun bs => ?_
      cases bs with
      | nil => rfl
      | cons first others => rfl
  | foremost =>
      refine run_candidates_bind fun bs => ?_
      cases bs with
      | nil => rfl
      | cons first others => rfl

/-- What comes of picking one of some backends. -/
inductive Picks (way : Choice) (model : String) (bs : List Backend) :
    Except GatewayError Backend → Prop
  | nobody (hnone : bs = []) : Picks way model bs (.error (.noBackendsAvailable model))
  | somebody {b : Backend} (hmem : b ∈ bs) (hfirst : way = .foremost → bs.head? = some b) :
      Picks way model bs (.ok b)

theorem picks_of_leads {start later : List Act}
    (h : (way.pick model bs).Leads start later result) : way.Picks model bs result := by
  cases bs with
  | nil =>
      obtain ⟨-, rfl⟩ := Task.leads_pure_iff.1 h
      exact .nobody rfl
  | cons first others =>
      cases way with
      | inTurn =>
          obtain ⟨between, turn, -, hpure⟩ := Task.leads_bind_iff.1 h
          obtain ⟨-, rfl⟩ := Task.leads_pure_iff.1 hpure
          exact .somebody (atTurn_mem first others turn) nofun
      | foremost =>
          obtain ⟨-, rfl⟩ := Task.leads_pure_iff.1 h
          exact .somebody List.mem_cons_self fun _ => rfl

theorem picks_run {σ : Type} (way : Choice) (model : String) (bs : List Backend) (rules : Rules)
    (net : Network σ) (s : State) (n : σ) :
    way.Picks model bs ((way.pick model bs).run rules net s n).1 := by
  cases bs with
  | nil => exact .nobody rfl
  | cons first others =>
      cases way with
      | inTurn => exact .somebody (atTurn_mem first others _) nofun
      | foremost => exact .somebody List.mem_cons_self fun _ => rfl

/-! ## What the configuration settles -/

/-- What choosing comes to under the configuration `c`, if looking the model up came to `found`. -/
structure Selects (way : Choice) (c : RunnerConfig) (model : String) (found : Option ModelEntry)
    (result : Except GatewayError Backend) : Prop where
  /-- The model is unknown exactly if the lookup found nothing. -/
  unknown : result = .error (.modelNotFound model) ↔ found = none
  /-- There is no backend exactly if no position of the entry can be used. -/
  unavailable : result = .error (.noBackendsAvailable model) ↔
    ∃ e, found = some e ∧ ∀ idx ∈ e.urls, ¬c.Usable idx
  /-- Otherwise there is one. -/
  available : ∀ e, found = some e → (∃ idx ∈ e.urls, c.Usable idx) → ∃ b, result = .ok b
  /-- What is chosen is what the configuration has at a position of the entry that can be used. -/
  usable : ∀ b, result = .ok b → ∃ e, found = some e ∧ b.idx ∈ e.urls ∧ c.Usable b.idx ∧
    c.baseUrls[b.idx]? = some b.url ∧ b.config = (c.backendConfig? b.idx).getD {}
  /-- Of ascending positions the first that can be used is the least. -/
  least : way = .foremost → ∀ e b, found = some e → result = .ok b → e.urls.Pairwise (· < ·) →
    ∀ idx ∈ e.urls, c.Usable idx → b.idx ≤ idx

theorem exists_mem_serving_iff {idx : Nat} :
    (∃ b ∈ serving c e, b.idx = idx) ↔ idx ∈ e.urls ∧ c.Usable idx := by
  rw [RunnerConfig.usable_iff]
  constructor
  · rintro ⟨b, hb, rfl⟩
    obtain ⟨hidx, hbackend, henabled⟩ := mem_serving_iff.1 hb
    exact ⟨hidx, b, hbackend, henabled⟩
  · rintro ⟨hidx, b, hbackend, henabled⟩
    obtain rfl := RunnerConfig.backend?_idx hbackend
    exact ⟨b, mem_serving_iff.2 ⟨hidx, hbackend, henabled⟩, rfl⟩

theorem serving_eq_nil_iff : serving c e = [] ↔ ∀ idx ∈ e.urls, ¬c.Usable idx := by
  rw [List.eq_nil_iff_forall_not_mem]
  constructor
  · intro h idx hidx husable
    obtain ⟨b, hb, -⟩ := exists_mem_serving_iff.2 ⟨hidx, husable⟩
    exact h b hb
  · intro h b hb
    obtain ⟨hidx, husable⟩ := exists_mem_serving_iff.1 ⟨b, hb, rfl⟩
    exact h b.idx hidx husable

theorem selects_none (way : Choice) (c : RunnerConfig) (model : String) :
    way.Selects c model none (.error (.modelNotFound model)) where
  unknown := by simp
  unavailable := by simp
  available := nofun
  usable := nofun
  least := nofun

/-- Picking one of the backends that serve a model is choosing as the configuration settles it. -/
theorem Picks.selects (h : way.Picks model (serving c e) result) :
    way.Selects c model (some e) result := by
  cases h with
  | nobody hnone =>
      have hunusable := serving_eq_nil_iff.1 hnone
      refine ⟨by simp, by simpa using hunusable, ?_, nofun, nofun⟩
      rintro e' he ⟨idx, hidx, husable⟩
      obtain rfl := Option.some.inj he
      exact absurd husable (hunusable idx hidx)
  | @somebody b hmem hfirst =>
      obtain ⟨hidx, husable⟩ := exists_mem_serving_iff.1 ⟨b, hmem, rfl⟩
      obtain ⟨-, hbackend, -⟩ := mem_serving_iff.1 hmem
      obtain ⟨-, hurl, hconfig⟩ := RunnerConfig.backend?_eq_some_iff.1 hbackend
      constructor
      · simp
      · constructor
        · exact nofun
        · rintro ⟨e', he, hunusable⟩
          obtain rfl := Option.some.inj he
          exact absurd husable (hunusable b.idx hidx)
      · exact fun _ _ _ => ⟨b, rfl⟩
      · rintro b' hb
        obtain rfl := Except.ok.inj hb
        exact ⟨e, rfl, hidx, husable, hurl, hconfig⟩
      · rintro hway e' b' he hb hurls idx hidx' husable'
        obtain rfl := Option.some.inj he
        obtain rfl := Except.ok.inj hb
        obtain ⟨b', hb', rfl⟩ := exists_mem_serving_iff.2 ⟨hidx', husable'⟩
        have hascending := ascending_serving hurls c
        obtain ⟨others, hothers⟩ := List.head?_eq_some_iff.1 (hfirst hway)
        rw [hothers] at hb' hascending
        rw [List.map_cons, List.pairwise_cons] at hascending
        rcases List.mem_cons.1 hb' with rfl | hlater
        · exact le_rfl
        · exact (hascending.1 b'.idx (List.mem_map_of_mem hlater)).le

end Choice

/-! ## Entries with ascending positions -/

/-- The positions of every entry that is kept ascend. -/
structure State.Ascending (s : State) : Prop where
  routed : ∀ model e, Dict.get? s.routes model = some e → e.urls.Pairwise (· < ·)
  listed : ∀ kept, s.catalogue = some kept → ∀ e ∈ kept.models, e.urls.Pairwise (· < ·)

namespace State.Ascending

variable {s : State} {models : List ModelEntry}

theorem ofConfig (config : RunnerConfig) (store : Option Store) :
    ({ config, store } : State).Ascending where
  routed := nofun
  listed := nofun

theorem of_cached {rules : Rules} (h : s.Ascending) (hcached : s.cached rules = some models) :
    ∀ e ∈ models, e.urls.Pairwise (· < ·) := by
  obtain ⟨kept, hkept, rfl⟩ := Option.map_eq_some_iff.1 hcached
  exact h.listed kept (Option.filter_eq_some_iff.1 hkept).1

theorem publish (h : s.Ascending) (hmodels : ∀ e ∈ models, e.urls.Pairwise (· < ·)) (g : Nat) :
    (s.publish g models).2.Ascending := by
  rcases s.publish_cases g models with ⟨-, hkept⟩ | ⟨-, hrefused⟩
  · rw [hkept]
    constructor
    · intro model e he
      exact hmodels e (mem_of_get?_routesOf he).1
    · rintro catalogue hcatalogue
      obtain rfl := Option.some.inj hcatalogue
      exact hmodels
  · rw [hrefused]
    exact h

theorem configure (h : s.Ascending) (form : ConfigUpdate) : (s.configure form).2.Ascending := by
  rcases s.configure_cases form with ⟨store, hdone⟩ | ⟨e, hfailed⟩
  · rw [hdone]
    exact ⟨h.routed, h.listed⟩
  · rw [hfailed]
    exact h

/-- Only a list that is published can bring in positions. -/
theorem perform {rules : Rules} {deliver : List Call → List Outcome} {op : Op} (h : s.Ascending)
    (hop : ∀ g models, op = .publish g models → ∀ e ∈ models, e.urls.Pairwise (· < ·)) :
    (s.perform rules deliver op).2.Ascending := by
  cases op with
  | configure form => exact h.configure form
  | publish g models => exact h.publish (hop g models rfl) g
  | invalidate => exact ⟨nofun, nofun⟩
  | turn model => exact ⟨h.routed, h.listed⟩
  | config | cached | generation | routed | exchange => exact h

end State.Ascending

namespace System

variable {rules : Rules} {s : System} {i : Nat} {model : String}

theorem ascending_steps {s' : System} (hstep : s.Steps rules s') (hlog : s'.log.Heeds Sourced)
    (h : s.state.Ascending) : s'.state.Ascending := by
  cases hstep with
  | @performs i job op next hthread hop =>
      refine h.perform fun g models hpublish => ?_
      subst hpublish
      -- A list is published only as it was fetched.
      obtain ⟨c, tags, loaded, before, rfl, -⟩ := hlog.1
      exact (orderly_fetched c tags loaded).ascending
  | passes | closes => exact ⟨h.routed, h.listed⟩
  | stays | begins | sends | hears => exact h

/-- Among any threads all entries that are kept have ascending positions, if they had at first. -/
theorem ascending_run (hheeds : s.Heeds Sourced fun _ _ _ => True) (events : List Event)
    (h : s.state.Ascending) : (s.run rules events).state.Ascending := by
  refine run_induction_of_heeds (p := fun t => t.state.Ascending) h ?_ events
    (hheeds.sourced events).log
  intro t t' hlog ht hstep
  exact ascending_steps hstep hlog ht

/-- An entry that a lookup came to has ascending positions if those that are kept meanwhile have. -/
theorem LookupEnds.ascending {events : List Event} {e : ModelEntry}
    (h : s.LookupEnds rules events i model (some e))
    (hstate : ∀ before, (s.run rules before).state.Ascending) : e.urls.Pairwise (· < ·) := by
  generalize hfound : some e = found at h
  cases h with
  | known hread hpast =>
      obtain ⟨before, -, -, -, -, -, hanswer⟩ := hread
      exact (hstate before).routed model e (hfound.trans hanswer).symm
  | listed hmissed hread hpast =>
      obtain ⟨before, -, -, -, -, -, hanswer⟩ := hread
      exact (hstate before).of_cached hanswer.symm e (find?_models hfound.symm).1
  | @sought found before t hmissed hold hbefore hread hpast hlist hunoffered =>
      have hmem : e ∈ t.models := (find?_models (hfound.trans hlist).symm).1
      exact (orderly_fetched t.config t.tags t.loaded).ascending e hmem

end System

/-! ## Choosing with nothing in between -/

section Run

variable {σ : Type} {rules : Rules} {s : State} {model : String}

theorem config_publish (s : State) (g : Nat) (models : List ModelEntry) :
    (s.publish g models).2.config = s.config := by
  rcases s.publish_cases g models with ⟨-, hkept⟩ | ⟨-, hrefused⟩
  · rw [hkept]
  · rw [hrefused]

/-- A lookup leaves the configuration as it is, and what it finds has ascending positions if what is
kept has. -/
theorem exists_lookup_run_eq (rules : Rules) (model : String) (net : Network σ) (s : State)
    (n : σ) : ∃ found s' n', (lookup model).run rules net s n = (found, s', n') ∧
      s'.config = s.config ∧ (s.Ascending → ∀ e, found = some e → e.urls.Pairwise (· < ·)) := by
  cases hmap : Dict.get? s.routes model with
  | some e =>
      refine ⟨_, _, _, lookup_run_of_routed hmap net n, rfl, ?_⟩
      rintro hs e' he
      exact hs.routed model e' (hmap.trans he)
  | none =>
      cases hcached : s.cached rules with
      | some models =>
          refine ⟨_, _, _, lookup_run hcached net n, rfl, ?_⟩
          rintro hs e he
          rw [hmap, Option.none_or] at he
          exact hs.of_cached hcached e (find?_models he).1
      | none =>
          obtain ⟨tags, loaded, n', hrun, -⟩ := exists_lookup_run hmap hcached net n
          refine ⟨_, _, _, hrun, config_publish _ _ _, ?_⟩
          rintro - e he
          exact (orderly_fetched s.config tags loaded).ascending e (find?_models he).1

theorem Choice.selects_run (way : Choice) (rules : Rules) (model : String) (net : Network σ)
    (s : State) (n : σ) :
    way.Selects s.config model ((lookup model).run rules net s n).1
      ((way.choose model).run.run rules net s n).1 := by
  obtain ⟨found, s', n', hrun, hconfig, -⟩ := exists_lookup_run_eq rules model net s n
  rw [run_choose, Task.run_bind_of_eq hrun, hrun, ← hconfig]
  cases found with
  | none => exact selects_none way s'.config model
  | some e =>
      have hread : Task.config.run rules net s' n' = (s'.config, s', n') := rfl
      rw [resolve, Task.run_bind_of_eq hread]
      exact (picks_run way model (serving s'.config e) rules net s' n').selects

end Run

/-! ## Choosing among other threads -/

namespace System

variable {rules : Rules} {s : System} {i : Nat} {model : String}

/-- How thread `i`, in the course of `events`, chose a backend or failed to: a lookup came to
`found`, and if that is an entry the thread then read the configuration, which settled the rest. -/
def Chooses (rules : Rules) (s : System) (events : List Event) (i : Nat) (way : Choice)
    (model : String) (result : Except GatewayError Backend) : Prop :=
  ∃ first found c, first <+: events ∧ s.LookupEnds rules first i model found ∧
    (found.isSome → s.Performs rules events i ((s.run rules first).log.past i) .config c) ∧
    way.Selects c model found result ∧
    (s.state.Ascending → ∀ e, found = some e → e.urls.Pairwise (· < ·))

theorem chooses_of_leads {events : List Event} {way : Choice}
    {result : Except GatewayError Backend} (hheeds : s.Heeds Sourced fun _ _ _ => True)
    (h : (way.choose model).run.Leads (s.log.past i) ((s.run rules events).log.past i) result) :
    s.Chooses rules events i way model result := by
  rw [Choice.run_choose] at h
  obtain ⟨between, found, hlookup, hrest⟩ := Task.leads_bind_iff.1 h
  have hne : between ≠ s.log.past i := by
    rintro rfl
    exact absurd (hlookup.length_lt ⟨.routed model, _, rfl⟩) (lt_irrefl _)
  -- The lookup came to its end with one of the events.
  obtain ⟨before, event, after, act, hevents, -, hpast⟩ :=
    exists_event_of_suffix events hne hlookup.suffix hrest.suffix
  rw [← run_concat] at hpast
  have hends : s.LookupEnds rules (before ++ [event]) i model found :=
    lookupEnds_of_leads (hpast.symm ▸ hlookup)
  have hfirst : before ++ [event] <+: events := ⟨after, by simp [hevents]⟩
  cases found with
  | none =>
      obtain ⟨-, rfl⟩ := Task.leads_pure_iff.1 hrest
      exact ⟨_, none, {}, hfirst, hends, nofun, Choice.selects_none way {} model, fun _ => nofun⟩
  | some e =>
      obtain ⟨reading, c, hread, hpick⟩ := Task.leads_bind_iff.1 hrest
      obtain ⟨-, rfl⟩ := Task.leads_perform_iff.1 hread
      refine ⟨_, some e, c, hfirst, hends, fun _ => ?_, (Choice.picks_of_leads hpick).selects, ?_⟩
      · rw [hpast]
        exact performs_of_suffix (fun _ => Op.noConfusion) hlookup.suffix hpick.suffix
      · rintro hstate e' he
        obtain rfl := Option.some.inj he
        exact hends.ascending fun before => ascending_run hheeds before hstate

end System

/-! ## The present configuration settles the choice -/

/-- Whatever configuration and catalogue there are, a choice fails because the model is unknown
exactly if the lookup found nothing, and because there is no backend exactly if no position of the
entry can be used under the present configuration; otherwise it comes to what the present
configuration has at a position of the entry that can be used, and the one in front to the least
such position, since in every state that a gateway comes to the positions of an entry ascend.  Among
other threads a choice that comes to its end has come there so too, under the configuration that was
read after the lookup. -/
theorem present_configuration_settles_choice (rules : Rules) (model : String) :
    (∀ (seed : RunnerConfig) (store : Option Store) (events : List Event),
      ((System.start seed store).run rules events).state.Ascending) ∧
    ∀ (way : Choice) (s : State),
      (∀ (σ : Type) (net : Network σ) (n : σ),
        let found := ((lookup model).run rules net s n).1
        way.Selects s.config model found ((way.choose model).run.run rules net s n).1 ∧
          (s.Ascending → ∀ e, found = some e → e.urls.Pairwise (· < ·))) ∧
      ∀ (events : List Event),
        let t := ({ state := s } : System).run rules events
        (s.Ascending → t.state.Ascending) ∧
        ∀ (i : Nat) (job : Job) (k : Except GatewayError Backend → Task job.Result),
          t.threads[i]? = some ⟨job, .going ((way.choose model).run >>= k)⟩ → ∀ later,
            (∃ progress, (t.run rules later).threads[i]? = some ⟨job, progress⟩ ∧
              progress.Remains k) ∨
            ∃ before event after result, later = before ++ event :: after ∧
              (t.run rules (before ++ [event])).threads[i]? = some ⟨job, .going (k result)⟩ ∧
              t.Chooses rules (before ++ [event]) i way model result := by
  refine ⟨fun seed store events => ?_, fun way s => ⟨fun σ net n => ?_, ?_⟩⟩
  · exact System.ascending_run (System.Heeds.start _ _ seed store) events
      (State.Ascending.ofConfig seed store)
  · intro found
    obtain ⟨found', s', n', hrun, -, hascending⟩ := exists_lookup_run_eq rules model net s n
    refine ⟨way.selects_run rules model net s n, fun hs e he => hascending hs e ?_⟩
    rw [← he]
    exact (congrArg Prod.fst hrun).symm
  · intro events t
    have hstart : ({ state := s } : System).Heeds Sourced fun _ _ _ => True :=
      System.Heeds.ofState _ _ s
    refine ⟨System.ascending_run hstart events, fun i job k hthread later => ?_⟩
    have hheeds : t.Heeds Sourced fun _ _ _ => True := hstart.sourced events
    have hfollows : t.Follows rules := .run (System.EachThread.ofState _ s) events
    have hbegins : (way.choose model).run.Begins := by
      rw [Choice.run_choose]
      exact ⟨.routed model, _, rfl⟩
    rcases System.remains_or_ends hfollows hthread hbegins later with
      ⟨progress, -, -, hprogress, hremains, -⟩ |
      ⟨before, event, after, act, result, hlater, -, hleads, hended⟩
    · exact .inl ⟨progress, hprogress, hremains⟩
    · rw [← System.run_concat] at hleads hended
      exact .inr ⟨before, event, after, result, hlater, hended,
        System.chooses_of_leads hheeds hleads⟩

/-- Choosing by turns is a job of its own. -/
theorem exists_task_eq_choose_bind (rules : Rules) (model : String) :
    ∃ k : Except GatewayError Backend → Task (Job.select model).Result,
      (Job.select model).task rules = (Choice.inTurn.choose model).run >>= k :=
  ⟨Task.done, (Task.bind_done _).symm⟩

/-- The catalogue is made, and then the backends are turned around and the one that comes to the
first position is disabled. -/
def turningAround : List Event :=
  [.begins .refresh, .moves 0, .moves 0, .moves 0, .answered 0 [nestedAnswer 0, nestedAnswer 1],
    .moves 0, .answered 0 [.error .badValue, .error .badValue], .moves 0,
    .begins (.update
      { enabled := none
        baseUrls := ["http://b", "http://a"]
        apiConfigs := [("0", { enable := false })] }),
    .moves 1]

/-- The catalogue still has both positions, but only the backend that stands at the second one now
is chosen. -/
theorem present_configuration_settles_choice_turned_around :
    let s := ((System.start nestedSpaces none).run {} turningAround).state
    let t := ({ state := s } : System).run {} [.begins (.select "x.y.z")]
    (∃ e, Dict.get? s.routes "x.y.z" = some e ∧ e.urls = [0, 1] ∧ s.Ascending ∧
      ∀ way : Choice, ∃ b, ((way.choose "x.y.z").run.run {} tellingZ s 0).1 = .ok b ∧
        b.idx = 1 ∧ b.url = "http://a" ∧
        (way = .foremost → ∀ idx ∈ e.urls, s.config.Usable idx → b.idx ≤ idx)) ∧
      ∃ before event after result, [.moves 0, .moves 0, .moves 0] = before ++ event :: after ∧
        t.Chooses {} (before ++ [event]) 0 .inTurn "x.y.z" result := by
  intro s t
  have hurls : (Dict.get? s.routes "x.y.z").map ModelEntry.urls = some [0, 1] := by
    decide +kernel
  have hbase : s.config.baseUrls = ["http://b", "http://a"] := by decide +kernel
  have hfirst : ((s.config.backendConfig? 0).getD {}).enable = false := by decide +kernel
  have hsecond : ((s.config.backendConfig? 1).getD {}).enable = true := by decide +kernel
  obtain ⟨e, hmap, he⟩ := Option.map_eq_some_iff.1 hurls
  obtain ⟨hreached, hchooses⟩ := present_configuration_settles_choice {} "x.y.z"
  have hs : s.Ascending := hreached nestedSpaces none turningAround
  refine ⟨⟨e, hmap, he, hs, fun way => ?_⟩, ?_⟩
  · obtain ⟨hselects, hascending⟩ := (hchooses way s).1 Nat tellingZ 0
    rw [lookup_run_of_routed hmap] at hselects hascending
    have husable : s.config.Usable 1 := ⟨by rw [hbase]; decide, hsecond⟩
    obtain ⟨b, hb⟩ := hselects.available e rfl ⟨1, by rw [he]; decide, husable⟩
    obtain ⟨e', he', hidx, hb', hurl, -⟩ := hselects.usable b hb
    obtain rfl := Option.some.inj he'
    have hone : b.idx = 1 := by
      rw [he, List.mem_pair] at hidx
      refine hidx.resolve_left fun hzero => ?_
      rw [hzero] at hb'
      exact absurd (hfirst.symm.trans hb'.2) Bool.false_ne_true
    rw [hone, hbase] at hurl
    refine ⟨b, hb, hone, (Option.some.inj hurl).symm, fun hway => ?_⟩
    exact hselects.least hway e b rfl hb (hascending hs e rfl)
  · obtain ⟨k, htask⟩ := exists_task_eq_choose_bind {} "x.y.z"
    have hthread : t.threads[0]? =
        some ⟨.select "x.y.z", .going ((Choice.inTurn.choose "x.y.z").run >>= k)⟩ :=
      htask ▸ System.getElem?_threads_begins {} { state := s } (.select "x.y.z")
    obtain ⟨-, hends⟩ := (hchooses .inTurn s).2 [.begins (.select "x.y.z")]
    rcases hends 0 _ k hthread [.moves 0, .moves 0, .moves 0] with
      ⟨progress, hprogress, hremains⟩ | ⟨before, event, after, result, hlater, -, hchosen⟩
    · have hdone : ((t.run {} [.moves 0, .moves 0, .moves 0]).threads[0]?.map
          fun t => t.progress.isDone) = some true := by decide +kernel
      rw [hprogress, Option.map_some, hremains.isDone_eq_false] at hdone
      exact nomatch hdone
    · exact ⟨before, event, after, result, hlater, hchosen⟩

end Gateway
end RunnerGateway
