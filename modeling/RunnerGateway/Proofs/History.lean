import RunnerGateway.Proofs.Discipline

/-!
# What a log tells about the state

The configuration, the generation, the catalogue and the routes of a running gateway can be read off
its log, and so can every answer that was given on the way.  `System.Agrees.run` says so for
all interleavings; what follows about them is then a matter of logs alone.
-/

namespace RunnerGateway
namespace Gateway

open Exchange Http

namespace Log

/-- The configuration after what the log tells, which began with `seed`. -/
def config (seed : RunnerConfig) (log : Log) : RunnerConfig :=
  (log.findSome? fun entry => entry.2.written?).getD seed

/-- How often the catalogue was thrown away. -/
def generation (log : Log) : Nat :=
  log.countP fun entry => entry.2.isInvalidation

/-- The list that is kept as the catalogue. -/
def kept (log : Log) : Option (List ModelEntry) :=
  log.sinceInvalidation.findSome? fun entry => entry.2.published?

/-- The entry of a model in the kept list. -/
def routed (log : Log) (model : String) : Option ModelEntry :=
  log.kept.bind fun models => Dict.get? (State.routesOf models) model

/-- The answer that a thread got is the one that the log before it tells. -/
def ActTrue (seed : RunnerConfig) (log : Log) : Act → Prop
  | .did .config c => c = log.config seed
  | .did (.configure form) (.ok c) => c = (log.config seed).applyUpdate form
  | .did .cached (some models) => log.kept = some models
  | .did .generation g => g = log.generation
  | .did (.publish g _) kept => kept = decide (log.generation = g)
  | .did (.routed model) entry => entry = log.routed model
  | _ => True

/-- Every answer in the log is the one that the log before it tells. -/
def Truthful (seed : RunnerConfig) : Log → Prop
  | [] => True
  | (_, act) :: log => ActTrue seed log act ∧ Truthful seed log

variable {seed : RunnerConfig} {later earlier log : Log}

theorem Truthful.of_append (h : Truthful seed (later ++ earlier)) :
    Truthful seed earlier := by
  induction later with
  | nil => exact h
  | cons entry later ih => exact ih h.2

theorem Truthful.act {i : Nat} {act : Act}
    (h : Truthful seed (later ++ (i, act) :: earlier)) : ActTrue seed earlier act :=
  h.of_append.1

/-! ## Reading the log -/

theorem config_cons (i : Nat) (act : Act) :
    config seed ((i, act) :: log) = act.written?.getD (config seed log) := by
  cases h : act.written? <;> simp [config, h]

theorem generation_cons (i : Nat) (act : Act) :
    generation ((i, act) :: log) =
      generation log + if act.isInvalidation then 1 else 0 := by
  simp [generation, List.countP_cons]

theorem kept_cons (i : Nat) (act : Act) :
    kept ((i, act) :: log) =
      if act.isInvalidation then none else act.published?.or (kept log) := by
  cases hinv : act.isInvalidation with
  | true => simp [kept, sinceInvalidation, hinv]
  | false =>
      cases h : act.published? <;>
        simp [kept, sinceInvalidation, hinv, h]

/-- Without a write the configuration stays. -/
theorem config_append_of_no_write (h : ∀ entry ∈ later, entry.2.isWrite = false) :
    config seed (later ++ earlier) = config seed earlier := by
  induction later with
  | nil => rfl
  | cons entry later ih =>
      obtain ⟨i, act⟩ := entry
      have hact : act.written? = none := by
        simpa [Act.isWrite] using h (i, act) List.mem_cons_self
      rw [List.cons_append, config_cons, hact]
      exact ih fun entry hentry => h entry (List.mem_cons_of_mem _ hentry)

/-- As long as the generation is the same, the catalogue has not been thrown away. -/
theorem not_isInvalidation_of_generation_eq
    (h : generation (later ++ earlier) = generation earlier) :
    ∀ entry ∈ later, entry.2.isInvalidation = false := by
  have hzero : generation later = 0 := by
    simp only [generation, List.countP_append] at h ⊢
    omega
  simpa [generation, List.countP_eq_zero] using hzero

/-- A kept list was published, and the catalogue has not been thrown away since. -/
theorem exists_publish_of_kept {models : List ModelEntry} (h : kept log = some models) :
    ∃ later i g earlier, log = later ++ (i, .did (.publish g models) true) :: earlier ∧
      ∀ entry ∈ later, entry.2.isInvalidation = false := by
  induction log with
  | nil => simp [kept, sinceInvalidation] at h
  | cons entry log ih =>
      obtain ⟨i, act⟩ := entry
      rw [kept_cons] at h
      cases hinv : act.isInvalidation with
      | true => simp [hinv] at h
      | false =>
          cases hpub : act.published? with
          | none =>
              obtain ⟨later, j, g, earlier, rfl, hlater⟩ :=
                ih (by simpa [hinv, hpub] using h)
              refine ⟨(i, act) :: later, j, g, earlier, rfl, ?_⟩
              intro entry hentry
              rcases List.mem_cons.1 hentry with rfl | hentry
              · exact hinv
              · exact hlater entry hentry
          | some found =>
              have hfound : found = models := by simpa [hinv, hpub] using h
              subst found
              obtain ⟨g, rfl⟩ : ∃ g, act = .did (.publish g models) true := by
                unfold Act.published? at hpub
                split at hpub
                · obtain rfl := Option.some.inj hpub
                  exact ⟨_, rfl⟩
                · simp at hpub
              exact ⟨[], i, g, log, rfl, by simp⟩

/-! ## Debts -/

theorem owing_cons_of_not_isWrite {i : Nat} {act : Act} (h : act.isWrite = false)
    (hnil : owing log = []) : owing ((i, act) :: log) = [] := by
  simp [owing, h, hnil]

/-- Who owes nothing stays so without a write. -/
theorem owing_append_of_no_write (hnil : owing earlier = [])
    (h : ∀ entry ∈ later, entry.2.isWrite = false) : owing (later ++ earlier) = [] := by
  induction later with
  | nil => exact hnil
  | cons entry later ih =>
      apply owing_cons_of_not_isWrite (h entry List.mem_cons_self)
      exact ih fun entry hentry => h entry (List.mem_cons_of_mem _ hentry)

/-- Who wrote while the catalogue was not thrown away owes it. -/
theorem mem_owing_of_isWrite (hinv : ∀ entry ∈ later, entry.2.isInvalidation = false)
    {entry : Nat × Act} (hmem : entry ∈ later) (hwrite : entry.2.isWrite = true) :
    entry.1 ∈ owing (later ++ earlier) := by
  induction later with
  | nil => exact absurd hmem List.not_mem_nil
  | cons last later ih =>
      obtain ⟨hlast, hrest⟩ := List.forall_mem_cons.1 hinv
      rw [List.cons_append, owing]
      rcases List.mem_cons.1 hmem with rfl | hmem
      · rw [if_pos hwrite]
        exact List.mem_cons_self
      · split
        · exact List.mem_cons_of_mem _ (ih hrest hmem)
        · rw [if_neg (by simp [hlast])]
          exact ih hrest hmem

/-- If nothing is owed and the catalogue has not been thrown away for a while, then nothing has been
written in that while, since a write is paid for by throwing the catalogue away. -/
theorem no_write_of_owing_eq_nil (hnil : owing (later ++ earlier) = [])
    (hinv : ∀ entry ∈ later, entry.2.isInvalidation = false) :
    ∀ entry ∈ later, entry.2.isWrite = false := by
  intro entry hentry
  by_contra hwrite
  have howing : entry.1 ∈ owing (later ++ earlier) :=
    mem_owing_of_isWrite hinv hentry (by simpa using hwrite)
  rw [hnil] at howing
  exact absurd howing List.not_mem_nil

/-- What happened after the last time that the catalogue was thrown away. -/
theorem sublist_sinceInvalidation (earlier : Log)
    (h : ∀ entry ∈ later, entry.2.isInvalidation = false) :
    later.Sublist (sinceInvalidation (later ++ earlier)) := by
  have hall : later.takeWhile (fun entry => !entry.2.isInvalidation) = later :=
    List.takeWhile_eq_self_iff.2 fun entry hentry => by simp [h entry hentry]
  have hprefix : later <+: sinceInvalidation (later ++ earlier) := by
    rw [sinceInvalidation, List.takeWhile_append, if_pos (by rw [hall])]
    exact List.prefix_append _ _
  exact hprefix.sublist

end Log

/-! ## Systems -/

namespace System

variable {seed : RunnerConfig} {rules : Rules} {s : System}

/-- The state is what the log tells of it, and the log is truthful. -/
structure Agrees (seed : RunnerConfig) (s : System) : Prop where
  config : s.state.config = s.log.config seed
  generation : s.state.generation = s.log.generation
  catalogue : s.state.catalogue.map Catalogue.models = s.log.kept
  routes : s.state.routes = (s.log.kept.map State.routesOf).getD []
  log : s.log.Truthful seed

theorem Agrees.start (seed : RunnerConfig) (store : Option Store) :
    (System.start seed store).Agrees seed where
  config := rfl
  generation := rfl
  catalogue := rfl
  routes := rfl
  log := trivial

/-- An act that tells nothing new leaves the catalogue and the configuration as they are. -/
theorem Agrees.advance_of_silent (h : s.Agrees seed) {i : Nat} {thread : Thread} {act : Act}
    {state : State} (htrue : Log.ActTrue seed s.log act) (hwrite : act.written? = none)
    (hpub : act.published? = none) (hinv : act.isInvalidation = false)
    (hconfig : state.config = s.state.config)
    (hgeneration : state.generation = s.state.generation)
    (hcatalogue : state.catalogue = s.state.catalogue)
    (hroutes : state.routes = s.state.routes) :
    (s.advance i thread act state).Agrees seed where
  config := by simpa [System.advance, Log.config_cons, hwrite, hconfig] using h.config
  generation := by
    simpa [System.advance, Log.generation_cons, hinv, hgeneration] using h.generation
  catalogue := by
    simpa [System.advance, Log.kept_cons, hinv, hpub, hcatalogue] using h.catalogue
  routes := by simpa [System.advance, Log.kept_cons, hinv, hpub, hroutes] using h.routes
  log := ⟨htrue, h.log⟩

theorem Agrees.configure (h : s.Agrees seed) {i : Nat} {thread : Thread} (form : ConfigUpdate) :
    (s.advance i thread (.did (.configure form) (s.state.configure form).1)
      (s.state.configure form).2).Agrees seed := by
  have hsuccess : ∀ store, (s.advance i thread
      (.did (.configure form) (.ok (s.state.config.applyUpdate form)))
      { s.state with config := s.state.config.applyUpdate form, store }).Agrees seed := by
    intro store
    exact
      { config := by simp [System.advance, Log.config_cons, Act.written?]
        generation := by
          simpa [System.advance, Log.generation_cons, Act.isInvalidation] using h.generation
        catalogue := by
          simpa [System.advance, Log.kept_cons, Act.isInvalidation, Act.published?]
            using h.catalogue
        routes := by
          simpa [System.advance, Log.kept_cons, Act.isInvalidation, Act.published?]
            using h.routes
        log := ⟨by rw [Log.ActTrue, h.config], h.log⟩ }
  unfold State.configure
  cases hstore : s.state.store with
  | none =>
      have hnone := hsuccess s.state.store
      rw [hstore] at hnone
      simpa [hstore] using hnone
  | some store =>
      cases hset : store.setRunners (s.state.config.applyUpdate form) with
      | ok store => simpa [hset] using hsuccess (some store)
      | error e =>
          have hfailed : (s.advance i thread (.did (.configure form) (.error e)) s.state).Agrees
              seed := h.advance_of_silent trivial rfl rfl rfl rfl rfl rfl rfl
          simpa [hset] using hfailed

theorem Agrees.publish (h : s.Agrees seed) {i : Nat} {thread : Thread} (g : Nat)
    (models : List ModelEntry) :
    (s.advance i thread (.did (.publish g models) (s.state.publish g models).1)
      (s.state.publish g models).2).Agrees seed := by
  unfold State.publish
  by_cases hg : s.state.generation = g
  · simp only [if_pos hg]
    exact
      { config := by simpa [System.advance, Log.config_cons, Act.written?] using h.config
        generation := by
          simpa [System.advance, Log.generation_cons, Act.isInvalidation] using h.generation
        catalogue := by
          simp [System.advance, Log.kept_cons, Act.isInvalidation, Act.published?]
        routes := by simp [System.advance, Log.kept_cons, Act.isInvalidation, Act.published?]
        log := ⟨(decide_eq_true (h.generation.symm.trans hg)).symm, h.log⟩ }
  · simp only [if_neg hg]
    have hne : s.log.generation ≠ g := fun hlog => hg (h.generation.trans hlog)
    exact h.advance_of_silent (decide_eq_false hne).symm rfl rfl rfl rfl rfl rfl rfl

theorem Agrees.invalidate (h : s.Agrees seed) {i : Nat} {thread : Thread} :
    (s.advance i thread (.did .invalidate ()) s.state.invalidate).Agrees seed where
  config := by
    simpa [System.advance, State.invalidate, Log.config_cons, Act.written?] using h.config
  generation := by
    simp [System.advance, State.invalidate, Log.generation_cons, Act.isInvalidation,
      h.generation]
  catalogue := by
    simp [System.advance, State.invalidate, Log.kept_cons, Act.isInvalidation]
  routes := by simp [System.advance, State.invalidate, Log.kept_cons, Act.isInvalidation]
  log := ⟨trivial, h.log⟩

/-- An operation on the state leaves it as the log with that operation tells. -/
theorem Agrees.perform (h : s.Agrees seed) {i : Nat} {thread : Thread} (op : Op)
    (hop : ∀ calls, op ≠ .exchange calls) :
    (s.advance i thread (.did op (s.state.perform rules (fun _ => []) op).1)
      (s.state.perform rules (fun _ => []) op).2).Agrees seed := by
  cases op with
  | config => exact h.advance_of_silent h.config rfl rfl rfl rfl rfl rfl rfl
  | generation => exact h.advance_of_silent h.generation rfl rfl rfl rfl rfl rfl rfl
  | turn model => exact h.advance_of_silent trivial rfl rfl rfl rfl rfl rfl rfl
  | routed model =>
      refine h.advance_of_silent ?_ rfl rfl rfl rfl rfl rfl rfl
      simp only [Log.ActTrue, Log.routed, State.perform, h.routes]
      cases s.log.kept <;> rfl
  | cached =>
      refine h.advance_of_silent ?_ rfl rfl rfl rfl rfl rfl rfl
      cases hfound : s.state.cached rules with
      | none => simp [State.perform, hfound, Log.ActTrue]
      | some models =>
          obtain ⟨kept, hfilter, rfl⟩ := Option.map_eq_some_iff.1 hfound
          have hkept := (Option.filter_eq_some_iff.1 hfilter).1
          simp [State.perform, hfound, Log.ActTrue, ← h.catalogue, hkept]
  | configure form => exact h.configure form
  | publish g models => exact h.publish g models
  | invalidate => exact h.invalidate
  | exchange calls => exact (hop calls rfl).elim

theorem Agrees.steps {s' : System} (h : s.Agrees seed) (hstep : s.Steps rules s') :
    s'.Agrees seed := by
  cases hstep with
  | stays => exact h
  | sends hthread => exact h.advance_of_silent trivial rfl rfl rfl rfl rfl rfl rfl
  | performs hthread hop => exact h.perform _ hop
  | hears hthread hlen => exact h.advance_of_silent trivial rfl rfl rfl rfl rfl rfl rfl
  | begins job => exact ⟨h.config, h.generation, h.catalogue, h.routes, h.log⟩
  | passes ms => exact ⟨h.config, h.generation, h.catalogue, h.routes, h.log⟩
  | closes => exact ⟨h.config, h.generation, h.catalogue, h.routes, h.log⟩

/-- In every interleaving the state is what the log tells. -/
theorem Agrees.run (h : s.Agrees seed) (events : List Event) :
    (s.run rules events).Agrees seed :=
  run_induction h (fun _ _ hagrees hstep => hagrees.steps hstep) events

end System

end Gateway
end RunnerGateway
