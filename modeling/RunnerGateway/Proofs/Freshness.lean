import RunnerGateway.Proofs.Conduct
import RunnerGateway.Proofs.History
import RunnerGateway.Proofs.Membership

/-!
# A kept catalogue is up to date

A new catalogue is made in three moments or more: the generation is read, then the configuration,
then the backends are asked.  It is kept only if the catalogue was not thrown away in between.  The
discipline `Sourced` says this of single threads.  For logs it follows that everything behind a kept
catalogue was done after the catalogue was thrown away for the last time; and if no thread owes
throwing it away, the configuration behind it is the present one.
-/

namespace RunnerGateway
namespace Gateway

open Exchange Http

/-! ## How a catalogue is made -/

/-- A list may be kept right after the generation was read and the list was fetched. -/
def Sourced : Discipline
  | past, .publish g models =>
    ∃ c tags loaded before, models = fetched c tags loaded ∧
      past = fetching c tags loaded ++ .did .generation g :: before
  | _, _ => True

theorem sourced_isOpen : Discipline.IsOpen Sourced := by
  intro past op hop
  cases op with
  | publish g models => exact (hop g models rfl).elim
  | _ => trivial

/-- Since `start` the generation was read and the list was fetched, and it was tried to keep it. -/
def Obtained (start past : List Act) (models : List ModelEntry) : Prop :=
  ∃ c tags loaded g kept before, start <:+ before ∧ models = fetched c tags loaded ∧
    past = .did (.publish g models) kept :: (fetching c tags loaded ++ .did .generation g :: before)

theorem Obtained.suffix {start past : List Act} {models : List ModelEntry}
    (h : Obtained start past models) : start <:+ past := by
  obtain ⟨c, tags, loaded, g, kept, before, hsuffix, -, rfl⟩ := h
  have hgeneration : before <:+ .did .generation g :: before := List.suffix_cons _ _
  exact hsuffix.trans (hgeneration.trans
    ((List.suffix_append _ _).trans (List.suffix_cons _ _)))

/-- One attempt at a new catalogue, with what is done if the list was not kept. -/
def attemptCatalogue (next : List ModelEntry → Task (List ModelEntry)) :
    Task (List ModelEntry) :=
  Task.generation >>= fun g => fetchModels >>= fun models =>
    Task.publish g models >>= fun kept => if kept then pure models else next models

theorem refreshWithin_zero : refreshWithin 0 = attemptCatalogue pure := rfl

theorem refreshWithin_succ (more : Nat) :
    refreshWithin (more + 1) = attemptCatalogue fun _ => refreshWithin more := rfl

theorem attemptCatalogue_ensures {start past : List Act}
    {next : List ModelEntry → Task (List ModelEntry)}
    (hnext : ∀ later models, Obtained start later models →
      (next models).Ensures Sourced later (Obtained start))
    (hsuffix : start <:+ past) :
    (attemptCatalogue next).Ensures Sourced past (Obtained start) := by
  unfold attemptCatalogue
  rw [Task.ensures_bind_iff]
  refine ⟨trivial, fun g _ => ?_⟩
  change (fetchModels >>= _).Ensures Sourced _ _
  rw [Task.ensures_bind_iff]
  refine fetchModels_ensures (fun _ => trivial) (fun _ _ _ _ => trivial) fun c tags loaded => ?_
  rw [Task.ensures_bind_iff]
  refine ⟨⟨c, tags, loaded, past, rfl, rfl⟩, fun kept _ => ?_⟩
  have hobtained : Obtained start
      (.did (.publish g (fetched c tags loaded)) kept ::
        (fetching c tags loaded ++ .did .generation g :: past)) (fetched c tags loaded) :=
    ⟨c, tags, loaded, g, kept, past, hsuffix, rfl, rfl⟩
  cases kept with
  | true => exact hobtained
  | false => exact hnext _ _ hobtained

/-- However often it is tried, the list that comes out was obtained in the last attempt. -/
theorem refreshWithin_ensures (more : Nat) {start past : List Act} (hsuffix : start <:+ past) :
    (refreshWithin more).Ensures Sourced past (Obtained start) := by
  induction more generalizing past with
  | zero =>
      rw [refreshWithin_zero]
      refine attemptCatalogue_ensures (fun later models hobtained => ?_) hsuffix
      exact Task.ensures_pure.2 hobtained
  | succ more ih =>
      rw [refreshWithin_succ]
      exact attemptCatalogue_ensures (fun later models hobtained => ih hobtained.suffix) hsuffix

theorem heeds_refresh : refresh.Heeds Sourced :=
  fun past => (refreshWithin_ensures 2 (List.suffix_refl past)).mono fun _ _ _ => trivial

/-- Among any threads lists are kept only as they were fetched, if that was so at first. -/
theorem System.Heeds.sourced {rules : Rules} {s : System}
    (h : s.Heeds Sourced fun _ _ _ => True) (events : List Event) :
    (s.run rules events).Heeds Sourced fun _ _ _ => True :=
  h.run (fun job => heeds_job sourced_isOpen heeds_refresh rules job []) events

/-! ## What logs tell of a kept list -/

theorem exists_fetching_eq_concat (c : RunnerConfig) (tags loaded : Nat → Outcome) :
    ∃ asking, fetching c tags loaded = asking ++ [.did .config c] := by
  unfold fetching
  split
  · exact ⟨[_, _, _, _], rfl⟩
  · exact ⟨[], rfl⟩

namespace Log

theorem map_past_sublist (i : Nat) (log : Log) :
    ((past i log).map fun act => (i, act)).Sublist log := by
  induction log with
  | nil => exact List.Sublist.slnil
  | cons entry log ih =>
      obtain ⟨j, act⟩ := entry
      by_cases hij : j = i
      · subst hij
        rw [past_cons_self, List.map_cons]
        exact ih.cons_cons _
      · rw [past_cons_of_ne hij]
        exact ih.cons _

theorem past_append (i : Nat) (later earlier : Log) :
    past i (later ++ earlier) = past i later ++ past i earlier :=
  List.filterMap_append

/-- A thread fetched in a latest part of the log, with a configuration that it read there. -/
theorem exists_config_of_past_eq_fetching {i : Nat} {log : Log} {c : RunnerConfig}
    {tags loaded : Nat → Outcome} (h : past i log = fetching c tags loaded) :
    ∃ later earlier, log = later ++ (i, .did .config c) :: earlier ∧
      ((fetching c tags loaded).map fun act => (i, act)).Sublist
        (later ++ [(i, .did .config c)]) := by
  obtain ⟨asking, hasking⟩ := exists_fetching_eq_concat c tags loaded
  rw [hasking] at h
  obtain ⟨answering, reading, rfl, hanswering, hreading⟩ := exists_of_past_eq_append h
  obtain ⟨idle, earlier, rfl, hidle, -⟩ := exists_of_past_eq_cons hreading
  refine ⟨answering ++ idle, earlier, by simp, ?_⟩
  have hpast : past i (answering ++ idle ++ [(i, .did .config c)]) = fetching c tags loaded := by
    rw [past_append, past_append, hanswering, hidle, past_cons_self, past_nil, hasking,
      List.append_nil]
  rw [← hpast]
  exact map_past_sublist i _

/-- Behind a kept list stands a configuration that was read, and calls that were made, after the
catalogue was thrown away for the last time. -/
theorem exists_fetching_of_kept {seed : RunnerConfig} {log : Log} {models : List ModelEntry}
    (hheeds : log.Heeds Sourced) (htrue : log.Truthful seed) (hkept : log.kept = some models) :
    ∃ i c tags loaded later earlier, log = later ++ (i, .did .config c) :: earlier ∧
      models = fetched c tags loaded ∧
      (∀ entry ∈ later, entry.2.isInvalidation = false) ∧
      ((fetching c tags loaded).map fun act => (i, act)).Sublist
        (later ++ [(i, .did .config c)]) := by
  obtain ⟨after, i, g, before, rfl, hafter⟩ := exists_publish_of_kept hkept
  obtain ⟨c, tags, loaded, former, hmodels, hpast⟩ :
      Sourced (past i before) (.publish g models) := hheeds.act
  have hpublish : generation before = g := of_decide_eq_true (htrue.act (i := i)).symm
  obtain ⟨recent, rest, rfl, hrecent, hrest⟩ := exists_of_past_eq_append hpast
  obtain ⟨idle, first, rfl, -, -⟩ := exists_of_past_eq_cons hrest
  have hgeneration : g = generation first := htrue.of_append.2.of_append.act
  -- Between reading the generation and keeping the list, the generation was the same.
  have hsplit : recent ++ (idle ++ (i, Act.did .generation g) :: first) =
      (recent ++ (idle ++ [(i, Act.did .generation g)])) ++ first := by simp
  have hquiet := not_isInvalidation_of_generation_eq
    ((congrArg generation hsplit).symm.trans (hpublish.trans hgeneration))
  obtain ⟨asked, earlier, rfl, hsublist⟩ := exists_config_of_past_eq_fetching hrecent
  refine ⟨i, c, tags, loaded, after ++ (i, .did (.publish g models) true) :: asked,
    earlier ++ (idle ++ (i, .did .generation g) :: first), by simp, hmodels, ?_, ?_⟩
  · intro entry hentry
    rcases List.mem_append.1 hentry with hentry | hentry
    · exact hafter entry hentry
    · rcases List.mem_cons.1 hentry with rfl | hentry
      · rfl
      · exact hquiet entry (by simp [hentry])
  · refine hsublist.trans ?_
    rw [List.append_assoc, List.cons_append]
    exact (List.sublist_cons_self _ _).trans (List.sublist_append_right _ _)

/-- If nothing is owed, what stands behind a kept list is the present configuration. -/
theorem exists_fetching_of_kept_of_owing {seed : RunnerConfig} {log : Log}
    {models : List ModelEntry} (hheeds : log.Heeds Sourced) (htrue : log.Truthful seed)
    (hkept : log.kept = some models) (howing : log.owing = []) :
    ∃ i tags loaded later earlier, log = later ++ (i, .did .config (log.config seed)) :: earlier ∧
      models = fetched (log.config seed) tags loaded ∧
      (∀ entry ∈ later, entry.2.isInvalidation = false) ∧
      ((fetching (log.config seed) tags loaded).map fun act => (i, act)).Sublist
        (later ++ [(i, .did .config (log.config seed))]) := by
  obtain ⟨i, c, tags, loaded, later, earlier, hsplit, hmodels, hquiet, hsublist⟩ :=
    exists_fetching_of_kept hheeds htrue hkept
  -- Nothing was written since the configuration was read, so it is the present one.
  have hwrites : ∀ entry ∈ later, entry.2.isWrite = false :=
    no_write_of_owing_eq_nil (hsplit ▸ howing) hquiet
  have hread : c = config seed earlier := (hsplit ▸ htrue).act
  have hconfig : log.config seed = c := by
    rw [hsplit, config_append_of_no_write hwrites, config_cons, hread]
    rfl
  subst hconfig
  exact ⟨i, tags, loaded, later, earlier, hsplit, hmodels, hquiet, hsublist⟩

end Log

/-! ## The kept catalogue -/

/-- In every interleaving of requests, of new catalogues and of updates, the kept catalogue is up to
date whenever no thread owes throwing it away: the backends were asked since the catalogue was
thrown away for the last time, the list and the routes were made of their answers under the present
configuration, and every position in the list is the one of an enabled backend. -/
theorem catalogue_is_fresh (rules : Rules) (seed : RunnerConfig) (store : Option Store)
    (events : List Event) (kept : Catalogue)
    (hkept : ((System.start seed store).run rules events).state.catalogue = some kept)
    (howing : ((System.start seed store).run rules events).log.owing = []) :
    let s := (System.start seed store).run rules events
    ∃ i tags loaded,
      ((fetching s.state.config tags loaded).map fun act => (i, act)).Sublist
        s.log.sinceInvalidation ∧
      kept.models = fetched s.state.config tags loaded ∧
      s.state.routes = State.routesOf (fetched s.state.config tags loaded) ∧
      ∀ e ∈ kept.models, ∀ idx ∈ e.urls,
        ∃ b, s.state.config.backend? idx = some b ∧ b.isEnabled = true := by
  intro s
  have hheeds : s.Heeds Sourced fun _ _ _ => True := (System.Heeds.start _ _ seed store).run
    (fun job => heeds_job sourced_isOpen heeds_refresh rules job []) events
  have hagrees : s.Agrees seed := (System.Agrees.start seed store).run events
  have hlog : s.log.kept = some kept.models := by
    rw [← hagrees.catalogue, hkept, Option.map_some]
  obtain ⟨i, tags, loaded, later, earlier, hsplit, hmodels, hquiet, hsublist⟩ :=
    Log.exists_fetching_of_kept_of_owing hheeds.log hagrees.log hlog howing
  rw [← hagrees.config] at hsplit hmodels hsublist
  refine ⟨i, tags, loaded, ?_, hmodels, ?_, ?_⟩
  · have hrecent : ∀ entry ∈ later ++ [(i, Act.did .config s.state.config)],
        entry.2.isInvalidation = false := by
      intro entry hentry
      rcases List.mem_append.1 hentry with hentry | hentry
      · exact hquiet entry hentry
      · obtain rfl := List.mem_singleton.1 hentry
        rfl
    have hsince := Log.sublist_sinceInvalidation earlier hrecent
    rw [List.append_assoc, List.singleton_append, ← hsplit] at hsince
    exact hsublist.trans hsince
  · rw [hagrees.routes, hlog, hmodels]
    rfl
  · intro e he idx hidx
    rw [hmodels] at he
    have hserves : ModelList.Serves (fetched s.state.config tags loaded) e.model idx :=
      ⟨e, he, rfl, hidx⟩
    cases henabled : s.state.config.enabled with
    | false => simp [fetched, henabled] at he
    | true =>
        obtain ⟨b, own, hb, hoffers, -⟩ := (serves_fetched_iff henabled).1 hserves
        exact ⟨b, hb, hoffers.1⟩

/-- A request for another backend than the one before. -/
def changingBackend : Request where
  method := "POST"
  path := "/config/update"
  headers := [.ofText contentType jsonType]
  body :=
    ("\x7b\"DOCKER_MODEL_RUNNER_BASE_URLS\":[\"http://b\"]," ++
      "\"DOCKER_MODEL_RUNNER_API_CONFIGS\":\x7b\x7d\x7d").toUTF8.toList

/-- While the backend is asked for its models the configuration changes, so that the catalogue has
to be made again. -/
def overtakenRefresh : List Event :=
  [.begins .refresh, .moves 0, .moves 0, .moves 0,
    .begins (.respond changingBackend), .moves 1, .moves 1,
    .answered 0 [nestedAnswer 0], .moves 0, .answered 0 [.error .badValue], .moves 0,
    .moves 0, .moves 0, .moves 0, .answered 0 [nestedAnswer 1], .moves 0,
    .answered 0 [.error .badValue], .moves 0]

/-- After a race the kept list is that of the new backend. -/
theorem catalogue_is_fresh_overtaken :
    let s := (System.start { baseUrls := ["http://a"] } none).run {} overtakenRefresh
    s.state.config.baseUrls = ["http://b"] ∧ s.log.owing = [] ∧
      ∃ kept tags loaded, s.state.catalogue = some kept ∧
        kept.models.map ModelEntry.model = ["z"] ∧
        kept.models = fetched s.state.config tags loaded := by
  intro s
  have hmodels : (s.state.catalogue.map fun kept => kept.models.map ModelEntry.model) =
      some ["z"] := by decide +kernel
  have howing : s.log.owing = [] := by decide +kernel
  obtain ⟨kept, hkept, hlist⟩ := Option.map_eq_some_iff.1 hmodels
  obtain ⟨i, tags, loaded, -, hfetched, -, -⟩ :=
    catalogue_is_fresh {} { baseUrls := ["http://a"] } none overtakenRefresh kept hkept howing
  exact ⟨by decide +kernel, howing, kept, tags, loaded, hkept, hlist, hfetched⟩

end Gateway
end RunnerGateway
