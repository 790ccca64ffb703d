import RunnerGateway.Proofs.Index

/-!
# Rounds of a refresh

A new catalogue is made in up to three rounds: the generation is read, a list is fetched, and it is
kept unless the catalogue was thrown away in between.  A `Trial` is what one thread does in a round,
a `Round` has also what the others do meanwhile.  Here it is shown that a refresh goes on from a
round exactly if the round was disturbed and was not the third one, and that nothing it does changes
the state, but for keeping the list of an undisturbed round.
-/

namespace RunnerGateway
namespace Gateway

open Exchange

/-! ## What one thread does -/

/-- What a thread reads and hears in one round, and whether its list is kept. -/
structure Trial where
  generation : Nat
  config : RunnerConfig
  tags : Nat → Outcome
  loaded : Nat → Outcome
  kept : Bool

namespace Trial

/-- The list that is fetched. -/
def models (t : Trial) : List ModelEntry :=
  fetched t.config t.tags t.loaded

/-- What is done before it is tried to keep the list, latest first. -/
def work (t : Trial) : List Act :=
  fetching t.config t.tags t.loaded ++ [.did .generation t.generation]

/-- What is done in the round, latest first. -/
def acts (t : Trial) : List Act :=
  .did (.publish t.generation t.models) t.kept :: t.work

theorem acts_append (t : Trial) (start : List Act) :
    t.acts ++ start = .did (.publish t.generation t.models) t.kept ::
      (fetching t.config t.tags t.loaded ++ .did .generation t.generation :: start) := by
  simp [acts, work]

/-- The past after one round after the other. -/
def pastAfter (start : List Act) (trials : List Trial) : List Act :=
  trials.foldl (fun past t => t.acts ++ past) start

theorem pastAfter_concat (start : List Act) (trials : List Trial) (t : Trial) :
    pastAfter start (trials ++ [t]) = t.acts ++ pastAfter start trials := by
  simp [pastAfter]

theorem suffix_pastAfter (start : List Act) (trials : List Trial) :
    start <:+ pastAfter start trials := by
  induction trials generalizing start with
  | nil => exact List.suffix_refl start
  | cons t trials ih => exact (List.suffix_append t.acts start).trans (ih _)

theorem length_work_le (t : Trial) : t.work.length ≤ 6 := by
  unfold work fetching
  split <;> simp

theorem length_pastAfter_le (start : List Act) (trials : List Trial) :
    (pastAfter start trials).length ≤ start.length + 7 * trials.length := by
  induction trials generalizing start with
  | nil => exact le_refl _
  | cons t trials ih =>
      have hrest : (pastAfter start (t :: trials)).length ≤
          (t.acts ++ start).length + 7 * trials.length := ih (t.acts ++ start)
      have hwork := t.length_work_le
      rw [List.length_append, acts, List.length_cons] at hrest
      rw [List.length_cons]
      omega

/-- A past within some rounds has completed some of them and has begun the next. -/
theorem exists_unfinished {start past : List Act} {trials : List Trial} (hstart : start <:+ past)
    (hpast : past <:+ pastAfter start trials) (hne : past ≠ pastAfter start trials) :
    ∃ done t rest unfinished, trials = done ++ t :: rest ∧
      past = unfinished ++ pastAfter start done ∧ unfinished <:+ t.work := by
  induction trials generalizing start with
  | nil => exact absurd (hpast.eq_of_length (le_antisymm hpast.length_le hstart.length_le)) hne
  | cons t trials ih =>
      by_cases hround : t.acts ++ start <:+ past
      · obtain ⟨done, t', rest, unfinished, rfl, hsplit, hunfinished⟩ := ih hround hpast hne
        exact ⟨t :: done, t', rest, unfinished, rfl, hsplit, hunfinished⟩
      · have hwithin : past <:+ t.acts ++ start :=
          (List.suffix_or_suffix_of_suffix hpast
            (suffix_pastAfter (t.acts ++ start) trials)).resolve_right hround
        obtain ⟨unfinished, rfl⟩ := hstart
        obtain ⟨more, hmore⟩ := hwithin
        rw [← List.append_assoc] at hmore
        have hacts : unfinished <:+ t.acts := ⟨more, List.append_cancel_right hmore⟩
        refine ⟨[], t, trials, unfinished, rfl, rfl, ?_⟩
        rcases List.suffix_cons_iff.1 hacts with rfl | hwork
        · exact absurd (List.suffix_refl _) hround
        · exact hwork

end Trial

theorem leads_attemptCatalogue {next : List ModelEntry → Task (List ModelEntry)}
    {start later : List Act} {models : List ModelEntry}
    (h : (attemptCatalogue next).Leads start later models) :
    ∃ t : Trial, (t.kept = true ∧ later = t.acts ++ start ∧ models = t.models) ∨
      (t.kept = false ∧ (next t.models).Leads (t.acts ++ start) later models) := by
  obtain ⟨read, g, hread, h⟩ := Task.leads_bind_iff.1 h
  obtain ⟨-, rfl⟩ := Task.leads_perform_iff.1 hread
  obtain ⟨asked, found, hasked, h⟩ := Task.leads_bind_iff.1 h
  obtain ⟨c, tags, loaded, rfl, rfl⟩ := fetchModels_leads_iff.1 hasked
  obtain ⟨tried, kept, htried, h⟩ := Task.leads_bind_iff.1 h
  obtain ⟨-, rfl⟩ := Task.leads_perform_iff.1 htried
  refine ⟨⟨g, c, tags, loaded, kept⟩, ?_⟩
  rw [Trial.acts_append]
  cases kept with
  | true =>
      obtain ⟨rfl, rfl⟩ := Task.leads_pure_iff.1 h
      exact .inl ⟨rfl, rfl, rfl⟩
  | false => exact .inr ⟨rfl, h⟩

/-- A refresh with `more` further rounds goes on from each list that is not kept, as long as it
may. -/
theorem exists_trials_of_leads {more : Nat} {start later : List Act} {models : List ModelEntry}
    (h : (refreshWithin more).Leads start later models) :
    ∃ trials last, later = Trial.pastAfter start (trials ++ [last]) ∧ models = last.models ∧
      (∀ t ∈ trials, t.kept = false) ∧ trials.length ≤ more ∧
      (last.kept = false → trials.length = more) := by
  induction more generalizing start with
  | zero =>
      obtain ⟨t, ⟨-, hlater, hmodels⟩ | ⟨-, hrest⟩⟩ := leads_attemptCatalogue h
      · exact ⟨[], t, hlater, hmodels, by simp, le_refl 0, fun _ => rfl⟩
      · obtain ⟨hlater, hmodels⟩ := Task.leads_pure_iff.1 hrest
        exact ⟨[], t, hlater, hmodels, by simp, le_refl 0, fun _ => rfl⟩
  | succ more ih =>
      rw [refreshWithin_succ] at h
      obtain ⟨t, ⟨hkept, hlater, hmodels⟩ | ⟨hkept, hrest⟩⟩ := leads_attemptCatalogue h
      · exact ⟨[], t, hlater, hmodels, by simp, Nat.zero_le _,
          fun hlost => absurd (hkept.symm.trans hlost) (by decide)⟩
      · obtain ⟨trials, last, hlater, hmodels, hkepts, hlen, hlast⟩ := ih hrest
        refine ⟨t :: trials, last, hlater, hmodels, ?_, Nat.succ_le_succ hlen, fun hfalse => ?_⟩
        · exact List.forall_mem_cons.2 ⟨hkept, hkepts⟩
        · rw [List.length_cons, hlast hfalse]

/-! ## What all threads do -/

/-- A trial with what all threads did in the meantime, latest first. -/
structure Round extends Trial where
  /-- What was done between reading the generation and trying to keep the list. -/
  during : Log
  /-- What was done before the generation was read, since the round before. -/
  idle : Log

namespace Round

/-- The catalogue was thrown away between reading the generation and trying to keep the list. -/
def isDisturbed (r : Round) : Bool :=
  r.during.any fun entry => entry.2.isInvalidation

/-- The part of the log that a round of thread `i` takes. -/
def log (i : Nat) (r : Round) : Log :=
  (i, .did (.publish r.generation r.models) r.kept) ::
    (r.during ++ (i, .did .generation r.generation) :: r.idle)

/-- In the round thread `i` does nothing but fetch a list, which is kept if the round was not
disturbed. -/
structure Of (i : Nat) (r : Round) : Prop where
  fetching : r.during.past i = fetching r.config r.tags r.loaded
  idle : r.idle.past i = []
  kept : r.kept = !r.isDisturbed

theorem Of.isDisturbed {i : Nat} {r : Round} (h : r.Of i) (hlost : r.kept = false) :
    r.isDisturbed = true := by
  have hkept := h.kept
  rw [hlost] at hkept
  simpa using hkept.symm

end Round

namespace Log

variable {seed : RunnerConfig} {i : Nat} {base log : Log}

/-- The log after one round of thread `i` after the other. -/
def afterRounds (i : Nat) (base : Log) (rounds : List Round) : Log :=
  rounds.foldl (fun log r => r.log i ++ log) base

theorem afterRounds_concat (i : Nat) (base : Log) (rounds : List Round) (r : Round) :
    afterRounds i base (rounds ++ [r]) = r.log i ++ afterRounds i base rounds := by
  simp [afterRounds]

theorem suffix_afterRounds (i : Nat) (base : Log) (rounds : List Round) :
    base <:+ afterRounds i base rounds := by
  induction rounds generalizing base with
  | nil => exact List.suffix_refl base
  | cons r rounds ih => exact (List.suffix_append (r.log i) base).trans (ih _)

theorem generation_append (later earlier : Log) :
    generation (later ++ earlier) = generation later + generation earlier := by
  simp [generation, List.countP_append]

theorem generation_eq_zero_iff {later : Log} :
    generation later = 0 ↔ (later.any fun entry => entry.2.isInvalidation) = false := by
  simp [generation, List.countP_eq_zero]

/-- A list is kept exactly if its round was not disturbed. -/
theorem kept_eq_of_truthful {r : Round} {later : Log}
    (htrue : (later ++ (r.log i ++ base)).Truthful seed) : r.kept = !r.isDisturbed := by
  have hround : (r.log i ++ base).Truthful seed := htrue.of_append
  rw [Round.log, List.cons_append, List.append_assoc, List.cons_append] at hround
  obtain ⟨hkept, hrest⟩ := hround
  have hread : r.generation = generation (r.idle ++ base) := hrest.act (i := i)
  have hsame : generation (r.during ++ (i, Act.did .generation r.generation) ::
      (r.idle ++ base)) = r.generation ↔ generation r.during = 0 := by
    have hquiet : generation ((i, Act.did .generation r.generation) :: (r.idle ++ base)) =
        generation (r.idle ++ base) := generation_cons i _
    rw [generation_append, hquiet, ← hread]
    omega
  have hdecide : r.kept = decide (generation r.during = 0) :=
    Eq.trans hkept (decide_eq_decide.2 hsame)
  cases hdisturbed : r.isDisturbed with
  | false => rw [hdecide, generation_eq_zero_iff.2 hdisturbed]; rfl
  | true =>
      have hne : generation r.during ≠ 0 := by
        rw [Ne, generation_eq_zero_iff]
        exact fun hfalse => Bool.false_ne_true (hfalse.symm.trans hdisturbed)
      rw [hdecide, decide_eq_false hne]
      rfl

/-- Before an act of the thread stands everything after which the thread had done less. -/
theorem suffix_of_past_suffix {act : Act} {former : Log} (hbase : base <:+ log)
    (hact : (i, act) :: former <:+ log) (hpast : base.past i <:+ former.past i) :
    base <:+ former := by
  have hless : ¬(i, act) :: former <:+ base := by
    rintro ⟨more, rfl⟩
    have hlen := hpast.length_le
    rw [past_append, past_cons_self, List.length_append, List.length_cons] at hlen
    omega
  rcases List.suffix_cons_iff.1
    ((List.suffix_or_suffix_of_suffix hbase hact).resolve_right hless) with hsame | hformer
  · exact absurd ⟨[], hsame.symm⟩ hless
  · exact hformer

/-- What a thread did in a round and before stands in the log as a round after what was before. -/
theorem exists_round {t : Trial} {recent : List Act} (hbase : base <:+ log)
    (hpast : log.past i = recent ++ (t.acts ++ base.past i)) :
    ∃ (later : Log) (r : Round), r.toTrial = t ∧ log = later ++ (r.log i ++ base) ∧
      later.past i = recent ∧ r.during.past i = fetching r.config r.tags r.loaded ∧
      r.idle.past i = [] := by
  rw [Trial.acts_append] at hpast
  obtain ⟨later, tried, rfl, hlater, htried⟩ := exists_of_past_eq_append hpast
  obtain ⟨pause, asked, rfl, hpause, hasked⟩ := exists_of_past_eq_cons htried
  obtain ⟨during, read, rfl, hduring, hread⟩ := exists_of_past_eq_append hasked
  obtain ⟨quiet, former, rfl, hquiet, hformer⟩ := exists_of_past_eq_cons hread
  -- The generation was read after what was before.
  have hgeneration : (i, Act.did .generation t.generation) :: former <:+
      later ++ (pause ++ (i, Act.did (.publish t.generation t.models) t.kept) ::
        (during ++ (quiet ++ (i, Act.did .generation t.generation) :: former))) :=
    ⟨later ++ (pause ++ (i, Act.did (.publish t.generation t.models) t.kept) ::
      (during ++ quiet)), by simp⟩
  obtain ⟨idle, rfl⟩ := suffix_of_past_suffix hbase hgeneration ⟨[], hformer.symm⟩
  refine ⟨later ++ pause, ⟨t, during ++ quiet, idle⟩, rfl, ?_, ?_, ?_, ?_⟩
  · simp [Round.log]
  · rw [past_append, hlater, hpause, List.append_nil]
  · rw [past_append, hduring, hquiet, List.append_nil]
  · rw [past_append] at hformer
    exact List.append_left_eq_self.1 hformer

/-- If the last act of all is one of the thread, a time in which it did nothing came to nothing. -/
theorem eq_nil_of_past_eq_nil {act : Act} {later : Log} (h : (i, act) :: log = later ++ base)
    (hpast : later.past i = []) : later = [] := by
  cases later with
  | nil => rfl
  | cons entry later =>
      obtain ⟨rfl, -⟩ := List.cons.inj h
      rw [past_cons_self] at hpast
      exact nomatch hpast

/-- What a thread did in rounds stands in the log as rounds. -/
theorem exists_rounds {trials : List Trial} {unfinished : List Act} (htrue : log.Truthful seed)
    (hbase : base <:+ log)
    (hpast : log.past i = unfinished ++ Trial.pastAfter (base.past i) trials) :
    ∃ (rounds : List Round) (later : Log), rounds.map Round.toTrial = trials ∧
      (∀ r ∈ rounds, r.Of i) ∧ log = later ++ afterRounds i base rounds ∧
      later.past i = unfinished := by
  induction trials generalizing base with
  | nil =>
      obtain ⟨later, rfl⟩ := hbase
      rw [past_append] at hpast
      exact ⟨[], later, rfl, by simp, rfl, List.append_cancel_right hpast⟩
  | cons t trials ih =>
      obtain ⟨recent, hrecent⟩ := Trial.suffix_pastAfter (t.acts ++ base.past i) trials
      have hsplit : log.past i = (unfinished ++ recent) ++ (t.acts ++ base.past i) := by
        rw [hpast, List.append_assoc, hrecent]
        rfl
      obtain ⟨later, r, rfl, rfl, -, hfetching, hidle⟩ := exists_round hbase hsplit
      have hof : r.Of i := ⟨hfetching, hidle, kept_eq_of_truthful htrue⟩
      have hround : (r.log i ++ base).past i = r.acts ++ base.past i := by
        rw [Trial.acts_append, Round.log, List.cons_append, past_cons_self, List.append_assoc,
          past_append, hfetching, List.cons_append, past_cons_self, past_append, hidle,
          List.nil_append]
      obtain ⟨rounds, later', rfl, hrounds, hlog, hunfinished⟩ :=
        ih (List.suffix_append _ _) (by rw [hpast, hround]; rfl)
      exact ⟨r :: rounds, later', rfl, List.forall_mem_cons.2 ⟨hof, hrounds⟩, hlog, hunfinished⟩

end Log

/-! ## What a refresh does to the state -/

/-- An act after which the state is as before. -/
def Act.isQuiet : Act → Bool
  | .did (.publish _ _) kept => !(show Bool from kept)
  | .did (.configure _) _ | .did .invalidate _ | .did (.turn _) _ => false
  | _ => true

theorem Trial.isQuiet_work {t : Trial} {act : Act} (h : act ∈ t.work) : act.isQuiet = true := by
  rcases List.mem_append.1 h with h | h
  · unfold fetching at h
    split at h
    · simp only [List.mem_cons, List.not_mem_nil, or_false] at h
      rcases h with rfl | rfl | rfl | rfl | rfl <;> rfl
    · obtain rfl := List.mem_singleton.1 h
      rfl
  · obtain rfl := List.mem_singleton.1 h
    rfl

/-- Rounds whose lists are not kept change nothing. -/
theorem Trial.exists_quiet {trials : List Trial} (h : ∀ t ∈ trials, t.kept = false)
    (start : List Act) :
    ∃ acts, pastAfter start trials = acts ++ start ∧ ∀ act ∈ acts, act.isQuiet = true := by
  induction trials generalizing start with
  | nil => exact ⟨[], rfl, by simp⟩
  | cons t trials ih =>
      obtain ⟨hkept, hrest⟩ := List.forall_mem_cons.1 h
      obtain ⟨acts, hacts, hquiet⟩ := ih hrest (t.acts ++ start)
      refine ⟨acts ++ t.acts, by rw [List.append_assoc]; exact hacts, fun act hact => ?_⟩
      rcases List.mem_append.1 hact with hact | hact
      · exact hquiet act hact
      · rcases List.mem_cons.1 hact with rfl | hact
        · simp [Act.isQuiet, hkept]
        · exact isQuiet_work hact

namespace System

variable {rules : Rules} {s s' : System} {i : Nat}

theorem Steps.state_eq_of_quiet {act : Act} (hstep : s.Steps rules s')
    (hlog : s'.log = (i, act) :: s.log) (hquiet : act.isQuiet = true) : s'.state = s.state := by
  rcases hstep.acts hlog with ⟨-, -, hstate⟩ | ⟨-, -, -, hstate⟩ | ⟨op, hop, rfl, hstate⟩
  · exact hstate
  · exact hstate
  · rw [hstate]
    cases op with
    | exchange calls => exact absurd rfl (hop calls)
    | publish g models =>
        have hrefused : (s.state.publish g models).1 = false := by
          simpa [Act.isQuiet, State.perform] using hquiet
        change (s.state.publish g models).2 = s.state
        rcases s.state.publish_cases g models with ⟨-, hkept⟩ | ⟨-, hsame⟩
        · rw [hkept] at hrefused
          cases hrefused
        · rw [hsame]
    | configure form => cases hquiet
    | invalidate => cases hquiet
    | turn model => cases hquiet
    | _ => rfl

/-- A list that is kept becomes the catalogue, with an entry of the map for each of its models. -/
theorem Steps.state_eq_of_publish {g : Nat} {models : List ModelEntry} {kept : Bool}
    (hstep : s.Steps rules s') (hlog : s'.log = (i, .did (.publish g models) kept) :: s.log) :
    s'.state =
      if kept then
        { s.state with
          catalogue := some ⟨s.state.now, models⟩
          routes := State.routesOf models }
      else s.state := by
  rcases hstep.acts hlog with ⟨calls, hact, -⟩ | ⟨calls, outcomes, hact, -⟩ |
    ⟨op, hop, hact, hstate⟩
  · exact nomatch hact
  · exact nomatch hact
  · cases hact
    rw [hstate]
    change (s.state.publish g models).2 = if (s.state.publish g models).1 = true then _ else _
    rcases s.state.publish_cases g models with ⟨-, hkept⟩ | ⟨-, hrefused⟩
    · rw [hkept, if_pos rfl]
    · rw [hrefused, if_neg Bool.false_ne_true]

/-- None of the events with which thread `i` did something changed the state. -/
def LeavesState (rules : Rules) (s : System) (i : Nat) (events : List Event) : Prop :=
  ∀ first next rest act, events = first ++ next :: rest →
    ((s.run rules first).step rules next).log = (i, act) :: (s.run rules first).log →
    ((s.run rules first).step rules next).state = (s.run rules first).state

theorem leavesState_of_quiet {events : List Event} {acts : List Act}
    (hpast : (s.run rules events).log.past i = acts ++ s.log.past i)
    (hquiet : ∀ act ∈ acts, act.isQuiet = true) : s.LeavesState rules i events := by
  rintro first next rest act rfl hlog
  refine (steps_step _ next).state_eq_of_quiet hlog (hquiet act ?_)
  have hrun : s.run rules (first ++ next :: rest) =
      ((s.run rules first).step rules next).run rules rest := run_append rules s first _
  obtain ⟨since, hsince⟩ := past_suffix_run rules s first i
  obtain ⟨more, hmore⟩ := past_suffix_run rules ((s.run rules first).step rules next) rest i
  rw [← hrun, hpast, hlog, Log.past_cons_self, ← hsince, ← List.cons_append,
    ← List.append_assoc] at hmore
  rw [← List.append_cancel_right hmore]
  simp

/-- As long as no list of a refresh is kept it changes nothing. -/
theorem leavesState_of_trials {events : List Event} {trials : List Trial} {t : Trial}
    {unfinished : List Act}
    (hpast : (s.run rules events).log.past i =
      unfinished ++ Trial.pastAfter (s.log.past i) trials)
    (hkept : ∀ t ∈ trials, t.kept = false) (hunfinished : unfinished <:+ t.work) :
    s.LeavesState rules i events := by
  obtain ⟨acts, hacts, hquiet⟩ := Trial.exists_quiet hkept (s.log.past i)
  rw [hacts, ← List.append_assoc] at hpast
  refine leavesState_of_quiet hpast fun act hact => ?_
  rcases List.mem_append.1 hact with hact | hact
  · exact Trial.isQuiet_work (hunfinished.subset hact)
  · exact hquiet act hact

variable {job : Job} {seed : RunnerConfig} {k : List ModelEntry → Task job.Result}

/-- A refresh by thread `i` is going on after `later`: it has left less than three rounds behind it,
all of them disturbed, is within the next one, and has not changed the state.  It can go on, and of
the seven acts that a round takes at most, three times over, not all are done. -/
def Refreshing (rules : Rules) (s : System) (i : Nat) (k : List ModelEntry → Task job.Result)
    (later : List Event) : Prop :=
  ∃ (progress : Progress job.Result) (rounds : List Round) (unfinished : Log) (t : Trial),
    (s.run rules later).threads[i]? = some ⟨job, progress⟩ ∧ progress.Remains k ∧
    (s.run rules later).log = unfinished ++ Log.afterRounds i s.log rounds ∧
    rounds.length < 3 ∧ (∀ r ∈ rounds, r.Of i ∧ r.isDisturbed = true) ∧
    unfinished.past i <:+ t.work ∧ s.LeavesState rules i later ∧
    (∃ event act, ((s.run rules later).step rules event).log =
      (i, act) :: (s.run rules later).log) ∧
    ((s.run rules later).log.past i).length < (s.log.past i).length + 3 * 7

/-- A refresh by thread `i` ends with the event after `before`.  It took as many rounds as it needed
to one that was not disturbed, but not more than three.  The last list is what it ends with; if the
last round was not disturbed the list became the catalogue, and the map has exactly its models.
Otherwise the refresh has not changed the state. -/
def EndsRefresh (rules : Rules) (s : System) (i : Nat) (k : List ModelEntry → Task job.Result)
    (before : List Event) (event : Event) : Prop :=
  ∃ (rounds : List Round) (last : Round),
    let now := (s.run rules before).state
    let ended := (s.run rules before).step rules event
    ended.log = Log.afterRounds i s.log (rounds ++ [last]) ∧
    (∀ r ∈ rounds ++ [last], r.Of i) ∧
    (rounds ++ [last]).length =
      min 3 ((rounds ++ [last]).findIdx (fun r => !r.isDisturbed) + 1) ∧
    ended.threads[i]? = some ⟨job, .going (k last.models)⟩ ∧
    s.LeavesState rules i before ∧
    (last.isDisturbed = true → ended.state = now) ∧
    (last.isDisturbed = false →
      ended.state = { now with
        catalogue := some ⟨now.now, last.models⟩
        routes := State.routesOf last.models } ∧
      ∀ model e, Dict.get? ended.state.routes model = some e ↔
        e ∈ last.models ∧ e.model = model)

theorem Reachable.refreshing_of_leads {later : List Event} {progress : Progress job.Result}
    {whole : List Act} {models : List ModelEntry} (h : s.Reachable rules seed)
    (hprogress : (s.run rules later).threads[i]? = some ⟨job, progress⟩)
    (hremains : progress.Remains k) (hleads : refresh.Leads (s.log.past i) whole models)
    (hsuffix : (s.run rules later).log.past i <:+ whole)
    (hne : (s.run rules later).log.past i ≠ whole) : s.Refreshing rules i k later := by
  obtain ⟨trials, last, rfl, -, hkept, hlen, -⟩ := exists_trials_of_leads hleads
  obtain ⟨done, t, rest, unfinished, hsplit, hpast, hunfinished⟩ :=
    Trial.exists_unfinished (past_suffix_run rules s later i) hsuffix hne
  have hdone : done <+: trials := by
    rcases List.prefix_concat_iff.1 ⟨t :: rest, hsplit.symm⟩ with hall | hdone
    · have hcount := congrArg List.length hsplit
      rw [hall] at hcount
      simp at hcount
    · exact hdone
  obtain ⟨rounds, since, rfl, hof, hlog, rfl⟩ :=
    Log.exists_rounds (h.run later).agrees.log (log_suffix_run rules s later) hpast
  have hrounds : rounds.length ≤ 2 := by
    have hle := hdone.length_le
    rw [List.length_map] at hle
    omega
  refine ⟨progress, rounds, since, t, hprogress, hremains, hlog, ?_, fun r hr => ⟨hof r hr, ?_⟩,
    hunfinished, leavesState_of_trials hpast (fun t ht => hkept t (hdone.subset ht)) hunfinished,
    exists_step_of_remains rules hprogress hremains, ?_⟩
  · omega
  · exact (hof r hr).isDisturbed (hkept _ (hdone.subset (List.mem_map_of_mem hr)))
  · have hsince := hunfinished.length_le.trans t.length_work_le
    have hbefore := Trial.length_pastAfter_le (s.log.past i) (rounds.map Round.toTrial)
    rw [List.length_map] at hbefore
    rw [hpast, List.length_append]
    omega

/-- Rounds that were disturbed, and one after them that was not or was the third. -/
theorem length_rounds_eq {rounds : List Round} {last : Round}
    (hdisturbed : ∀ r ∈ rounds, r.isDisturbed = true) (hlen : rounds.length ≤ 2)
    (hlast : last.isDisturbed = true → rounds.length = 2) :
    (rounds ++ [last]).length =
      min 3 ((rounds ++ [last]).findIdx (fun r => !r.isDisturbed) + 1) := by
  have hnone : rounds.findIdx (fun r => !r.isDisturbed) = rounds.length :=
    List.findIdx_eq_length.2 fun r hr => by simp [hdisturbed r hr]
  rw [List.findIdx_append, hnone, if_neg (lt_irrefl _), List.length_append, List.length_singleton]
  cases h : last.isDisturbed with
  | false =>
      simp [h]
      omega
  | true =>
      have htwo := hlast h
      simp [h, htwo]

theorem Reachable.endsRefresh_of_leads {before : List Event} {event : Event} {act : Act}
    {models : List ModelEntry} (h : s.Reachable rules seed)
    (hlog : ((s.run rules before).step rules event).log = (i, act) :: (s.run rules before).log)
    (hleads : refresh.Leads (s.log.past i) (((s.run rules before).step rules event).log.past i)
      models)
    (hended : ((s.run rules before).step rules event).threads[i]? =
      some ⟨job, .going (k models)⟩) : s.EndsRefresh rules i k before event := by
  obtain ⟨trials, t, hpast, rfl, hkept, hlen, hlast⟩ := exists_trials_of_leads hleads
  have hreachable := h.run (before ++ [event])
  have hsuffix := log_suffix_run rules s (before ++ [event])
  rw [run_concat] at hreachable hsuffix
  have hwhole : ((s.run rules before).step rules event).log.past i =
      [] ++ Trial.pastAfter (s.log.past i) (trials ++ [t]) := hpast
  obtain ⟨rounds, since, hrounds, hof, hall, hsince⟩ :=
    Log.exists_rounds hreachable.agrees.log hsuffix hwhole
  obtain ⟨rounds, lasts, rfl, rfl, hlasts⟩ := List.map_eq_append_iff.1 hrounds
  obtain ⟨last, rfl, rfl⟩ := List.map_eq_singleton_iff.1 hlasts
  -- The last act of the thread is the last act of all.
  obtain rfl := Log.eq_nil_of_past_eq_nil (hlog.symm.trans hall) hsince
  rw [List.nil_append] at hall
  have hpublish : ((s.run rules before).step rules event).log =
      (i, .did (.publish last.generation last.models) last.kept) :: (s.run rules before).log := by
    rw [hall, Log.afterRounds_concat, Round.log, List.cons_append] at hlog ⊢
    rw [(List.cons.inj hlog).2]
  have hdisturbed : ∀ r ∈ rounds, r.isDisturbed = true := fun r hr =>
    (hof r (List.mem_append_left _ hr)).isDisturbed (hkept _ (List.mem_map_of_mem hr))
  have hkeeps : last.kept = !last.isDisturbed :=
    (hof last (List.mem_append_right _ (List.mem_singleton_self _))).kept
  have hstate := (steps_step (s.run rules before) event).state_eq_of_publish hpublish
  have hbefore : (s.run rules before).log.past i =
      last.work ++ Trial.pastAfter (s.log.past i) (rounds.map Round.toTrial) := by
    rw [Trial.pastAfter_concat, hpublish, Log.past_cons_self, Trial.acts, List.cons_append] at hpast
    exact (List.cons.inj hpast).2
  refine ⟨rounds, last, hall, hof, length_rounds_eq hdisturbed ?_ fun hlost => ?_, hended,
    leavesState_of_trials hbefore hkept (List.suffix_refl _), fun hlost => ?_,
    fun hundisturbed => ?_⟩
  · rwa [List.length_map] at hlen
  · rw [← hlast (by rw [hkeeps, hlost]; rfl), List.length_map]
  · rw [hstate, hkeeps, hlost]
    rfl
  · have hkeep : last.kept = true := by rw [hkeeps, hundisturbed]; rfl
    rw [if_pos hkeep] at hstate
    refine ⟨hstate, fun model e => ?_⟩
    rw [hstate]
    exact State.get?_routesOf_eq_some_iff
      (orderly_fetched last.config last.tags last.loaded).nodup

end System

/-! ## Refreshes -/

/-- However the catalogue is thrown away in the meantime, a refresh ends with the first round in
which it was not, or with the third one if it was in all three.  In the first case the list of that
round is what comes out, and is left as the catalogue and as the map.  In the second case the list
of the third round comes out, and whatever the state is was left by others. -/
theorem refresh_ends_with_undisturbed_round (rules : Rules) (seed : RunnerConfig)
    (store : Option Store) (events : List Event) (i : Nat) (job : Job)
    (k : List ModelEntry → Task job.Result)
    (hcall : ((System.start seed store).run rules events).threads[i]? =
      some ⟨job, .going (refresh >>= k)⟩) (later : List Event) :
    let s := (System.start seed store).run rules events
    s.Refreshing rules i k later ∨
      ∃ before event after, later = before ++ event :: after ∧
        s.EndsRefresh rules i k before event := by
  intro s
  have hreachable : s.Reachable rules seed := (System.reachable_start rules seed store).run events
  rcases System.remains_or_ends hreachable.follows hcall ⟨.generation, _, rfl⟩ later with
    ⟨progress, whole, models, hprogress, hremains, hleads, hsuffix, hne⟩ |
    ⟨before, event, after, act, models, hlater, hlog, hleads, hended⟩
  · exact .inl (hreachable.refreshing_of_leads hprogress hremains hleads hsuffix hne)
  · exact .inr ⟨before, event, after, hlater,
      hreachable.endsRefresh_of_leads hlog hleads hended⟩

/-- A refresh that a change of the configuration overtakes comes to its end. -/
theorem refresh_ends_with_undisturbed_round_overtaken :
    let s := (System.start { baseUrls := ["http://a"] } none).run {} [.begins .refresh]
    let k : List ModelEntry → Task Job.refresh.Result := pure
    s.threads[0]? = some ⟨.refresh, .going (refresh >>= k)⟩ ∧
      ∃ before event after, overtakenRefresh.tail = before ++ event :: after ∧
        s.EndsRefresh {} 0 k before event := by
  intro s k
  have hcall : s.threads[0]? = some ⟨.refresh, .going (refresh >>= k)⟩ :=
    congrArg (fun t => some (Thread.mk .refresh (.going t))) (bind_pure refresh).symm
  refine ⟨hcall, (refresh_ends_with_undisturbed_round {} { baseUrls := ["http://a"] } none
    [.begins .refresh] 0 .refresh k hcall overtakenRefresh.tail).resolve_left ?_⟩
  rintro ⟨progress, -, -, -, hprogress, hremains, -⟩
  have hdone : ((s.run {} overtakenRefresh.tail).threads[0]?.map fun t => t.progress.isDone) =
      some true := by decide +kernel
  rw [hprogress, Option.map_some, hremains.isDone_eq_false] at hdone
  exact nomatch hdone

end Gateway
end RunnerGateway
