import RunnerGateway.Proofs.DecodedConfig
import RunnerGateway.Proofs.History

/-!
# Memory and store

An update writes the new configuration to the store before it takes it over, at one moment, because
it is the only one that holds the configuration for writing.  So the stored text stands for the
configuration in memory, whatever goes on at the same time, and a gateway that is started again goes
on with it.
-/

namespace RunnerGateway
namespace Gateway

open Json

/-! ## States -/

namespace State

/-- The store holds a text that is read as the configuration in memory. -/
def Persists (s : State) : Prop :=
  ∃ store text, s.store = some store ∧ Dict.get? store.settings Store.runnersKey = some text ∧
    RunnerConfig.read text = .ok s.config

variable {s : State} {form : ConfigUpdate} {config : RunnerConfig} {store store' : Store}

theorem eq_of_setRunners (h : store.setRunners config = .ok store') :
    store' = { store with
      settings := Dict.insert store.settings Store.runnersKey config.toJson.render } := by
  unfold Store.setRunners Store.set at h
  split at h
  · exact (Except.ok.inj h).symm
  · cases h

/-- What was stored last is what is read. -/
theorem persists_of_setRunners (hconfig : StorableEntries config.apiConfigs)
    (h : store.setRunners config = .ok store') :
    ({ s with config, store := some store' } : State).Persists := by
  obtain rfl := eq_of_setRunners h
  refine ⟨_, config.toJson.render, rfl, ?_, RunnerConfig.read_render hconfig⟩
  rw [Dict.get?_insert, if_pos rfl]

/-- An update that is made is stored as well, and one that is not made leaves both as they are. -/
theorem Persists.configure (h : s.Persists)
    (hform : (s.configure form).1.isOk = true → StorableEntries form.apiConfigs) :
    (s.configure form).2.Persists := by
  revert hform
  obtain ⟨store, text, hstore, htext, hread⟩ := h
  unfold State.configure
  simp only [hstore]
  cases hset : store.setRunners (s.config.applyUpdate form) with
  | ok store' =>
      intro hform
      exact persists_of_setRunners (s.config.storable_applyUpdate (hform rfl)) hset
  | error e =>
      intro _
      exact ⟨store, text, hstore, htext, hread⟩

/-- An update of a closed store fails, and nothing changes. -/
theorem configure_of_closed (hstore : s.store = some store) (hclosed : store.isOpen = false)
    (form : ConfigUpdate) :
    s.configure form = (.error (Store.closed "Failed to set setting"), s) := by
  simp [State.configure, hstore, Store.setRunners, Store.set, hclosed]

theorem configure_of_open (hstore : s.store = some store) (hopen : store.isOpen = true)
    (form : ConfigUpdate) :
    ∃ kept, s.configure form = (.ok (s.config.applyUpdate form),
      { s with config := s.config.applyUpdate form, store := some kept }) := by
  simp [State.configure, hstore, Store.setRunners, Store.set, hopen]

/-- Only an update changes what is in memory or in the store. -/
theorem Persists.perform (h : s.Persists) {rules : Rules} {deliver : List Exchange.Call →
    List Exchange.Outcome} (op : Op)
    (hforms : ∀ form, op = .configure form → (s.configure form).1.isOk = true →
      StorableEntries form.apiConfigs) :
    (s.perform rules deliver op).2.Persists := by
  cases op with
  | configure form => exact h.configure (hforms form rfl)
  | publish generation models =>
      simp only [State.perform, State.publish]
      split
      · exact h
      · exact h
  | config | cached | generation | invalidate | routed | turn | exchange => exact h

/-! ## Starting -/

theorem load_of_text {text : String} (hopen : store.isOpen = true)
    (htext : Dict.get? store.settings Store.runnersKey = some text)
    (hread : RunnerConfig.read text = .ok config) (seed : RunnerConfig) :
    State.load seed store = .ok { config, store := some store } := by
  have hrunners : store.runners? = .ok (some config) := by
    simp only [Store.runners?, Store.get?, hopen, if_true, htext, hread, bind, Except.bind,
      Except.mapError]
    rfl
  simp only [State.load, hrunners, bind, Except.bind]
  rfl

/-- A loaded state has what the store held, or else the given configuration, which it now holds. -/
theorem load_cases {seed : RunnerConfig} (h : State.load seed store = .ok s) :
    (∃ text config, Dict.get? store.settings Store.runnersKey = some text ∧
      RunnerConfig.read text = .ok config ∧ s = { config, store := some store }) ∨
    (Dict.get? store.settings Store.runnersKey = none ∧
      ∃ kept, store.setRunners seed = .ok kept ∧ s = { config := seed, store := some kept }) := by
  obtain ⟨found, hfound, h⟩ := exists_ok_of_bind h
  obtain ⟨text?, htext, hread⟩ := exists_ok_of_bind hfound
  have hget : Dict.get? store.settings Store.runnersKey = text? := by
    unfold Store.get? at htext
    split at htext
    · exact Except.ok.inj htext
    · cases htext
  cases text? with
  | none =>
      cases hread
      obtain ⟨kept, hkept, hstate⟩ := exists_ok_of_bind h
      cases hstate
      exact .inr ⟨hget, kept, hkept, rfl⟩
  | some text =>
      obtain ⟨config, hconfig, hfound⟩ := exists_ok_of_bind hread
      cases hfound
      cases h
      exact .inl ⟨text, config, hget, eq_ok_of_mapError hconfig, rfl⟩

/-- The loaded state is as new, and its store holds its configuration. -/
theorem persists_load {seed : RunnerConfig} (hload : State.load seed store = .ok s)
    (hseed : Dict.get? store.settings Store.runnersKey = none →
      StorableEntries seed.apiConfigs) :
    s = { config := s.config, store := s.store } ∧ s.Persists := by
  rcases load_cases hload with ⟨text, config, htext, hread, rfl⟩ | ⟨hnone, kept, hkept, rfl⟩
  · exact ⟨rfl, store, text, rfl, htext, hread⟩
  · have hpersists : ({ ({} : State) with config := seed, store := some kept } : State).Persists :=
      persists_of_setRunners (hseed hnone) hkept
    exact ⟨rfl, hpersists⟩

end State

/-! ## Runs -/

/-- The update that was made. -/
def Act.applied? : Act → Option ConfigUpdate
  | .did (.configure form) (.ok _) => some form
  | _ => none

theorem Act.written?_of_applied?_eq_none {act : Act} (h : act.applied? = none) :
    act.written? = none := by
  cases act with
  | sent calls => rfl
  | did op answer =>
      cases op with
      | configure form =>
          cases answer with
          | ok config => cases h
          | error e => rfl
      | _ => rfl

theorem Act.exists_of_applied?_eq_some {act : Act} {form : ConfigUpdate}
    (h : act.applied? = some form) : ∃ config, act = .did (.configure form) (.ok config) := by
  cases act with
  | sent calls => cases h
  | did op answer =>
      cases op with
      | configure form' =>
          cases answer with
          | ok config =>
              obtain rfl := Option.some.inj h
              exact ⟨config, rfl⟩
          | error e => cases h
      | _ => cases h

/-- The updates that were made, the first one first. -/
def Log.applied (log : Log) : List ConfigUpdate :=
  (log.filterMap fun entry => entry.2.applied?).reverse

theorem Log.applied_cons (i : Nat) (act : Act) (log : Log) :
    Log.applied ((i, act) :: log) = log.applied ++ act.applied?.toList := by
  cases h : act.applied? <;> simp [Log.applied, h]

theorem Log.applied_subset {earlier later : Log} (h : earlier <:+ later) :
    earlier.applied ⊆ later.applied := by
  obtain ⟨more, rfl⟩ := h
  intro form hform
  simp only [Log.applied, List.mem_reverse, List.filterMap_append, List.mem_append] at hform ⊢
  exact .inr hform

/-- The configuration that a log tells comes from the updates, one after the other. -/
theorem Log.config_eq_foldl {seed : RunnerConfig} {log : Log} (h : log.Truthful seed) :
    log.config seed = log.applied.foldl RunnerConfig.applyUpdate seed := by
  induction log with
  | nil => rfl
  | cons entry log ih =>
      obtain ⟨i, act⟩ := entry
      obtain ⟨hact, hlog⟩ := h
      have hrest := ih hlog
      rw [Log.config_cons]
      cases happlied : act.applied? with
      | none =>
          have hwritten := Act.written?_of_applied?_eq_none happlied
          simpa [Log.applied_cons, happlied, hwritten] using hrest
      | some form =>
          obtain ⟨config, rfl⟩ := Act.exists_of_applied?_eq_some happlied
          have hconfig : config = (Log.config seed log).applyUpdate form := hact
          rw [Log.applied_cons, List.foldl_append, ← hrest]
          exact hconfig

namespace System

variable {rules : Rules} {s : System}

theorem persists_of_perform (h : s.state.Persists) {i : Nat} {op : Op}
    (hforms : ∀ form ∈ Log.applied ((i, .did op (s.state.perform rules (fun _ => []) op).1) ::
      s.log), StorableEntries form.apiConfigs) :
    (s.state.perform rules (fun _ => []) op).2.Persists := by
  refine h.perform op ?_
  rintro form rfl hok
  refine hforms form ?_
  cases hanswer : (s.state.configure form).1 with
  | error e =>
      rw [hanswer] at hok
      cases hok
  | ok config =>
      have happlied : (Act.did (.configure form) (s.state.configure form).1).applied? =
          some form := by rw [hanswer]; rfl
      change form ∈ Log.applied ((i, .did (.configure form) (s.state.configure form).1) :: s.log)
      simp [Log.applied_cons, happlied]

/-- Every step leaves memory and store in agreement. -/
theorem persists_steps {s' : System} (h : s.state.Persists) (hstep : s.Steps rules s')
    (hforms : ∀ form ∈ s'.log.applied, StorableEntries form.apiConfigs) : s'.state.Persists := by
  cases hstep with
  | stays | begins | passes => exact h
  | sends | hears => exact h
  | performs hthread hop => exact persists_of_perform h hforms
  | closes =>
      obtain ⟨store, text, hstore, htext, hread⟩ := h
      exact ⟨store.close, text, by simp [hstore], htext, hread⟩

theorem persists_run (h : s.state.Persists) (events : List Event)
    (hforms : ∀ form ∈ (s.run rules events).log.applied, StorableEntries form.apiConfigs) :
    (s.run rules events).state.Persists := by
  revert hforms
  -- Logs only grow, so that an earlier log has no other updates than the last one.
  refine run_induction (p := fun t => (∀ form ∈ t.log.applied, StorableEntries form.apiConfigs) →
    t.state.Persists) (fun _ => h) ?_ events
  intro t t' ht hstep hforms
  have hearlier : ∀ form ∈ t.log.applied, StorableEntries form.apiConfigs := by
    intro form hform
    exact hforms form (Log.applied_subset hstep.log_suffix hform)
  exact persists_steps (ht hearlier) hstep hforms

/-- A thread that asks a closed store for an update goes on with the error, and the gateway as it
was. -/
theorem step_of_closed {store : Store} {i : Nat} {job : Job} {form : ConfigUpdate}
    {next : Except GatewayError RunnerConfig → Task job.Result}
    (hstore : s.state.store = some store) (hclosed : store.isOpen = false)
    (hthread : s.threads[i]? = some ⟨job, .going (.step (.configure form) next)⟩) :
    ∃ e, s.step rules (.moves i) =
      s.advance i ⟨job, .going (next (.error e))⟩ (.did (.configure form) (.error e)) s.state := by
  refine ⟨Store.closed "Failed to set setting", ?_⟩
  simp [System.step, hthread, System.move, State.perform, State.configure_of_closed hstore hclosed]

theorem step_of_open {store : Store} {i : Nat} {job : Job} {form : ConfigUpdate}
    {next : Except GatewayError RunnerConfig → Task job.Result}
    (hstore : s.state.store = some store) (hopen : store.isOpen = true)
    (hthread : s.threads[i]? = some ⟨job, .going (.step (.configure form) next)⟩) :
    ∃ kept, s.step rules (.moves i) =
      s.advance i ⟨job, .going (next (.ok (s.state.config.applyUpdate form)))⟩
        (.did (.configure form) (.ok (s.state.config.applyUpdate form)))
        { s.state with config := s.state.config.applyUpdate form, store := some kept } := by
  obtain ⟨kept, hconfigure⟩ := State.configure_of_open hstore hopen form
  exact ⟨kept, by simp [System.step, hthread, System.move, State.perform, hconfigure]⟩

end System

/-- A gateway is loaded from a store, and goes through any events, among them the end of the store.
The updates that are made, and the first configuration if nothing was stored, come from JSON text
without floating-point numbers.  Then at any time

* the stored text is read as the configuration in memory,
* the configuration comes from the updates that were made, one after the other,
* an update is made if the store can be reached, and else fails and leaves the gateway as it is, and
* who loads the store again, with whatever first configuration, gets the one in memory. -/
theorem memory_and_store_agree (rules : Rules) {seed : RunnerConfig} {store : Store}
    {loaded : State} (hload : State.load seed store = .ok loaded)
    (hseed : Dict.get? store.settings Store.runnersKey = none →
      seed.Decoded ∧ FloatFreeEntries seed.apiConfigs)
    (events : List Event)
    (hforms : ∀ form ∈ (System.run rules { state := loaded } events).log.applied,
      form.Decoded ∧ FloatFreeEntries form.apiConfigs) :
    let s := System.run rules { state := loaded } events
    ∃ kept text, s.state.store = some kept ∧
      Dict.get? kept.settings Store.runnersKey = some text ∧
      RunnerConfig.read text = .ok s.state.config ∧
      s.state.config = s.log.applied.foldl RunnerConfig.applyUpdate loaded.config ∧
      (∀ i job form next, s.threads[i]? = some ⟨job, .going (.step (.configure form) next)⟩ →
        if kept.isOpen then
          ∃ later, s.step rules (.moves i) =
            s.advance i ⟨job, .going (next (.ok (s.state.config.applyUpdate form)))⟩
              (.did (.configure form) (.ok (s.state.config.applyUpdate form)))
              { s.state with config := s.state.config.applyUpdate form, store := some later }
        else
          ∃ e, s.step rules (.moves i) =
            s.advance i ⟨job, .going (next (.error e))⟩ (.did (.configure form) (.error e))
              s.state) ∧
      ∀ other, State.load other kept.reopen =
        .ok { config := s.state.config, store := some kept.reopen } := by
  intro s
  have hstorable : Dict.get? store.settings Store.runnersKey = none →
      StorableEntries seed.apiConfigs := by
    intro hnone
    obtain ⟨hdecoded, hfree⟩ := hseed hnone
    exact hdecoded.orderlyEntries.storable hfree
  obtain ⟨hnew, hpersists⟩ := State.persists_load hload hstorable
  obtain ⟨kept, text, hkept, htext, hread⟩ : s.state.Persists := by
    refine System.persists_run hpersists events fun form hform => ?_
    obtain ⟨hdecoded, hfree⟩ := hforms form hform
    exact hdecoded.orderlyEntries.storable hfree
  have hagrees : s.Agrees loaded.config := by
    have hstart : s = (System.start loaded.config loaded.store).run rules events :=
      congrArg (fun state => System.run rules { state } events) hnew
    rw [hstart]
    exact (System.Agrees.start loaded.config loaded.store).run events
  refine ⟨kept, text, hkept, htext, hread, ?_, ?_, ?_⟩
  · rw [hagrees.config, Log.config_eq_foldl hagrees.log]
  · intro i job form next hthread
    cases hopen : kept.isOpen with
    | true => exact System.step_of_open hkept hopen hthread
    | false => exact System.step_of_closed hkept hopen hthread
  · exact State.load_of_text rfl htext hread

/-- An update with one entry, which keeps a member that is no field. -/
def noting : ConfigUpdate where
  enabled := none
  baseUrls := ["http://a"]
  apiConfigs := [("0", { extra := [("note", .int 1)] })]

theorem noting_decoded : noting.Decoded := by
  let v : Json := .obj [(Record.apiConfigsKey, .obj [("0", .obj [("note", .int 1)])]),
    (Record.baseUrlsKey, .ofStrings ["http://a"])]
  have hparse : parseBytes v.render.toUTF8.toList = .ok v :=
    parse_render (by decide +kernel) (by decide)
  exact .ofValue hparse rfl

/-- An update that comes when the store has ended. -/
def late : ConfigUpdate :=
  { noting with baseUrls := [] }

/-- Two updates, and the end of the store between them. -/
def closedBetween : List Event :=
  [.begins (.update noting), .begins (.update late), .moves 0, .closes]

/-- The first update is made and stays, and the second one fails. -/
theorem memory_and_store_agree_closed :
    ∃ loaded, State.load {} {} = .ok loaded ∧
      let s := System.run {} { state := loaded } closedBetween
      s.state.config.baseUrls = ["http://a"] ∧
      ∃ kept text, s.state.store = some kept ∧ kept.isOpen = false ∧
        Dict.get? kept.settings Store.runnersKey = some text ∧
        RunnerConfig.read text = .ok s.state.config ∧
        s.log.applied = [noting] ∧
        (∃ e, s.step {} (.moves 1) = s.advance 1 ⟨.update late, .going (.done (.error e))⟩
          (.did (.configure late) (.error e)) s.state) ∧
        State.load { enabled := false } kept.reopen =
          .ok { config := s.state.config, store := some kept.reopen } := by
  refine ⟨_, rfl, ?_⟩
  intro s
  have hseed : Dict.get? ({} : Store).settings Store.runnersKey = none →
      ({} : RunnerConfig).Decoded ∧ FloatFreeEntries ({} : RunnerConfig).apiConfigs :=
    fun _ => ⟨.ofUrls true [], List.forall_mem_nil _⟩
  have happlied : s.log.applied = [noting] := rfl
  have hforms : ∀ form ∈ s.log.applied, form.Decoded ∧ FloatFreeEntries form.apiConfigs := by
    intro form hform
    rw [happlied] at hform
    obtain rfl := List.mem_singleton.1 hform
    refine ⟨noting_decoded, List.forall_mem_singleton.2 (List.forall_mem_singleton.2 ?_)⟩
    exact .int 1
  obtain ⟨kept, text, hkept, htext, hread, -, hupdates, hload⟩ :=
    memory_and_store_agree {} rfl hseed closedBetween hforms
  have hclosed : kept.isOpen = false := by
    have hstore : s.state.store.map Store.isOpen = some false := rfl
    have hkept : s.state.store = some kept := hkept
    rw [hkept] at hstore
    exact Option.some.inj hstore
  have hlate := hupdates 1 (.update late) late .done rfl
  rw [if_neg (by simp [hclosed])] at hlate
  exact ⟨by decide +kernel, kept, text, hkept, hclosed, htext, hread, happlied, hlate, hload _⟩

end Gateway
end RunnerGateway
