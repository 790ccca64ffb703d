import RunnerGateway.Proofs.Persistence
import RunnerGateway.Proofs.Sequence
import RunnerGateway.Proofs.Threads

/-!
# Moments of a thread

A thread that comes to a task inside its job goes through it in steps, between which other threads
take theirs.  At any later time it is either still at that task, with something left to do, or there
was one event with which it came to the end of it (`System.remains_or_ends`).  What the single
events of the thread do to the state is said by `System.Steps.acts`.
-/

namespace RunnerGateway
namespace Gateway

open Exchange Http

/-! ## What is left of a task -/

/-- Every operation can get an answer. -/
theorem exists_admits (op : Op) : ∃ answer, op.Admits answer := by
  cases op with
  | config => exact ⟨({} : RunnerConfig), trivial⟩
  | configure form => exact ⟨Except.ok ({} : RunnerConfig), trivial⟩
  | cached => exact ⟨(none : Option (List ModelEntry)), trivial⟩
  | generation => exact ⟨(0 : Nat), trivial⟩
  | publish g models => exact ⟨false, trivial⟩
  | invalidate => exact ⟨(), trivial⟩
  | routed model => exact ⟨(none : Option ModelEntry), trivial⟩
  | turn model => exact ⟨(0 : UInt64), trivial⟩
  | exchange calls =>
      exact ⟨List.replicate calls.length (Except.error .badValue), List.length_replicate⟩

namespace Task

variable {α β : Type} {t rest rest' : Task α} {past between later : List Act} {a : α}

/-- A task that has something to do. -/
def Begins (t : Task α) : Prop :=
  ∃ op next, t = .step op next

theorem Leads.length_lt (h : t.Leads past later a) (ht : t.Begins) :
    past.length < later.length := by
  obtain ⟨op, next, rfl⟩ := ht
  cases h with
  | step answer hadmits hrest =>
      have hlen := hrest.suffix.length_le
      simp only [List.length_cons, List.length_append] at hlen
      omega

/-- If a task did something and later more, then the later was done by what was left. -/
theorem Reaches.of_suffix (h : t.Reaches past between rest) (h' : t.Reaches past later rest')
    (hsuffix : between <:+ later) : rest.Reaches between later rest' := by
  induction h with
  | here t past => exact h'
  | @step op next past between rest answer hadmits hrest ih =>
      have hfirst : .did op answer :: (op.prelude ++ past) <:+ later :=
        hrest.suffix.trans hsuffix
      cases h' with
      | here =>
          have hlen := hfirst.length_le
          simp only [List.length_cons, List.length_append] at hlen
          omega
      | step answer' hadmits' hrest' =>
          -- The same operation got one answer only.
          have hlen : (Act.did op answer :: (op.prelude ++ past)).length =
              (Act.did op answer' :: (op.prelude ++ past)).length := rfl
          have hsame := (List.suffix_of_suffix_length_le hfirst hrest'.suffix
            hlen.le).eq_of_length hlen
          obtain rfl : answer = answer' := by simpa using hsame
          exact ih hrest' hsuffix

/-- What is left of a task is settled by what was done. -/
theorem Reaches.unique (h : t.Reaches past later rest) (h' : t.Reaches past later rest') :
    rest = rest' := by
  have hrest := h.of_suffix h' (List.suffix_refl later)
  generalize hsame : later = same at hrest
  cases hrest with
  | here => rfl
  | step answer hadmits hmore =>
      have hlen := hmore.suffix.length_le
      rw [← hsame] at hlen
      simp only [List.length_cons, List.length_append] at hlen
      omega

/-- Between its calls and their answers a task does not stop. -/
theorem not_reaches_sent {calls : List Call} {next : List Outcome → Task α} :
    ¬(Task.step (.exchange calls) next).Reaches past (.sent calls :: past) rest := by
  intro h
  cases h with
  | step answer hadmits hrest => exact absurd hrest.suffix.length_le (by simp [Op.prelude])

theorem Reaches.leads (h : t.Reaches past between rest) (hrest : rest.Leads between later a) :
    t.Leads past later a := by
  induction h with
  | here t past => exact hrest
  | step answer hadmits hreaches ih => exact .step answer hadmits (ih hrest)

/-- While the first of two tasks is going on, the second is left. -/
theorem Reaches.bind {f : α → Task β} (h : t.Reaches past later rest) :
    (t >>= f).Reaches past later (rest >>= f) := by
  induction h with
  | here t past => exact .here _ past
  | step answer hadmits hreaches ih => exact .step answer hadmits ih

/-- Every task comes to an end. -/
theorem exists_leads (t : Task α) (past : List Act) : ∃ later a, t.Leads past later a := by
  induction t generalizing past with
  | done a => exact ⟨past, a, .done past a⟩
  | step op next ih =>
      obtain ⟨answer, hadmits⟩ := exists_admits op
      obtain ⟨later, a, hrest⟩ := ih answer (.did op answer :: (op.prelude ++ past))
      exact ⟨later, a, .step answer hadmits hrest⟩

end Task

/-- The thread has something left to do of a task after which it goes on with `k`. -/
inductive Progress.Remains {α β : Type} (k : α → Task β) : Progress β → Prop
  | operates {op : Op} (next : op.Answer → Task α) :
      Remains k (.going (.step op fun answer => next answer >>= k))
  | awaits {calls : List Call} (next : List Outcome → Task α) :
      Remains k (.waiting calls fun outcomes => next outcomes >>= k)

/-- The thread has nothing left to do. -/
def Progress.isDone {α : Type} : Progress α → Bool
  | .going (.done _) => true
  | _ => false

theorem Progress.Remains.isDone_eq_false {α β : Type} {k : α → Task β} {progress : Progress β}
    (h : progress.Remains k) : progress.isDone = false := by
  cases h <;> rfl

/-- The thread stands where its past leads from the task `t` and the past `start`. -/
def Progress.StandsAfter {α : Type} (t : Task α) (start past : List Act) : Progress α → Prop
  | .going rest => t.Reaches start past rest
  | .waiting calls next =>
    ∃ before, past = .sent calls :: before ∧ t.Reaches start before (.step (.exchange calls) next)

/-! ## Threads and what they did -/

namespace System

variable {rules : Rules} {s s' : System} {i : Nat} {job : Job}

/-- An event adds at most one act to the log. -/
theorem Steps.log_cases (hstep : s.Steps rules s') :
    s'.log = s.log ∨ ∃ i act, s'.log = (i, act) :: s.log := by
  cases hstep with
  | stays | begins | passes | closes => exact .inl rfl
  | sends | performs | hears => exact .inr ⟨_, _, rfl⟩

/-- What a thread did is what it performed on the state as it was, or a call or its answer, which
leave the state as it is. -/
theorem Steps.acts {act : Act} (hstep : s.Steps rules s') (hlog : s'.log = (i, act) :: s.log) :
    (∃ calls, act = .sent calls ∧ s'.state = s.state) ∨
      (∃ calls outcomes, act = .did (.exchange calls) outcomes ∧ s'.state = s.state) ∨
      ∃ op, (∀ calls, op ≠ .exchange calls) ∧
        act = .did op (s.state.perform rules (fun _ => []) op).1 ∧
        s'.state = (s.state.perform rules (fun _ => []) op).2 := by
  cases hstep with
  | stays | begins | passes | closes => exact absurd hlog (List.cons_ne_self _ _).symm
  | sends hthread =>
      obtain ⟨-, rfl⟩ := Prod.mk.inj (List.cons.inj hlog).1
      exact .inl ⟨_, rfl, rfl⟩
  | hears hthread hlen =>
      obtain ⟨-, rfl⟩ := Prod.mk.inj (List.cons.inj hlog).1
      exact .inr (.inl ⟨_, _, rfl, rfl⟩)
  | performs hthread hop =>
      obtain ⟨-, rfl⟩ := Prod.mk.inj (List.cons.inj hlog).1
      exact .inr (.inr ⟨_, hop, rfl, rfl⟩)

theorem log_suffix_run (rules : Rules) (s : System) (events : List Event) :
    s.log <:+ (s.run rules events).log :=
  run_induction (p := fun found => s.log <:+ found.log) (List.suffix_refl _)
    (fun _ _ h hstep => h.trans hstep.log_suffix) events

theorem past_suffix_run (rules : Rules) (s : System) (events : List Event) (i : Nat) :
    s.log.past i <:+ (s.run rules events).log.past i := by
  obtain ⟨recent, hrecent⟩ := log_suffix_run rules s events
  rw [← hrecent, Log.past, Log.past, List.filterMap_append]
  exact List.suffix_append _ _

theorem Steps.exists_thread {progress : Progress job.Result} (hstep : s.Steps rules s')
    (hthread : s.threads[i]? = some ⟨job, progress⟩) :
    ∃ progress, s'.threads[i]? = some ⟨job, progress⟩ := by
  have hlt := (List.getElem?_eq_some_iff.1 hthread).1
  have hadvance : ∀ {j : Nat} {other : Job} {old new : Progress other.Result},
      s.threads[j]? = some ⟨other, old⟩ →
        ∃ progress, (s.threads.set j ⟨other, new⟩)[i]? = some ⟨job, progress⟩ := by
    intro j other old new hold
    by_cases hij : j = i
    · subst hij
      obtain ⟨rfl, -⟩ := Thread.mk.inj (Option.some.inj (hold.symm.trans hthread))
      exact ⟨new, List.getElem?_set_self hlt⟩
    · exact ⟨progress, by rw [List.getElem?_set_ne hij, hthread]⟩
  cases hstep with
  | stays | passes | closes => exact ⟨progress, hthread⟩
  | begins other => exact ⟨progress, (List.getElem?_append_left hlt).trans hthread⟩
  | sends hold => exact hadvance hold
  | performs hold hop => exact hadvance hold
  | hears hold hlen => exact hadvance hold

/-- A thread stays with its job. -/
theorem exists_thread_run (rules : Rules) {progress : Progress job.Result}
    (hthread : s.threads[i]? = some ⟨job, progress⟩) (events : List Event) :
    ∃ progress, (s.run rules events).threads[i]? = some ⟨job, progress⟩ :=
  run_induction (p := fun found => ∃ progress, found.threads[i]? = some ⟨job, progress⟩)
    ⟨progress, hthread⟩ (fun _ _ ⟨_, hfound⟩ hstep => hstep.exists_thread hfound) events

/-- At any later time a thread stands where its past leads from where it stood. -/
theorem standsAfter_run {t : Task job.Result} (hfollows : s.Follows rules)
    (hthread : s.threads[i]? = some ⟨job, .going t⟩) (later : List Event) :
    ∃ progress, (s.run rules later).threads[i]? = some ⟨job, progress⟩ ∧
      progress.StandsAfter t (s.log.past i) ((s.run rules later).log.past i) := by
  obtain ⟨progress, hprogress⟩ := exists_thread_run rules hthread later
  have hlater : (s.run rules later).Follows rules := hfollows.run later
  have hbefore : (job.task rules).Reaches [] (s.log.past i) t := hfollows.threads i _ hthread
  have hafter := hlater.threads i _ hprogress
  have hsuffix := past_suffix_run rules s later i
  refine ⟨progress, hprogress, ?_⟩
  cases progress with
  | going rest => exact hbefore.of_suffix hafter hsuffix
  | waiting calls next =>
      obtain ⟨before, hpast, hreaches⟩ := hafter
      rw [hpast] at hsuffix
      rcases List.suffix_cons_iff.1 hsuffix with hsame | hsuffix
      · -- A thread that has just sent calls does not go on by itself.
        rw [hsame] at hbefore
        exact (Task.not_reaches_sent (hreaches.of_suffix hbefore (List.suffix_cons _ _))).elim
      · exact ⟨before, hpast, hbefore.of_suffix hreaches hsuffix⟩

/-- A thread that has come to its end does nothing more. -/
theorem ended_run {a : job.Result} (hfollows : s.Follows rules)
    (hthread : s.threads[i]? = some ⟨job, .going (.done a)⟩) (later : List Event) :
    (s.run rules later).threads[i]? = some ⟨job, .going (.done a)⟩ ∧
      (s.run rules later).log.past i = s.log.past i := by
  obtain ⟨progress, hprogress, hstands⟩ := standsAfter_run hfollows hthread later
  generalize hpast : (s.run rules later).log.past i = past at hstands
  cases progress with
  | going rest =>
      cases hstands
      exact ⟨hprogress, rfl⟩
  | waiting calls next =>
      obtain ⟨before, -, hreaches⟩ := hstands
      exact nomatch hreaches

/-- If a thread did more than at first, there was an event with which it did the last of it. -/
theorem exists_event_of_suffix {between : List Act} (later : List Event)
    (hne : between ≠ s.log.past i) (hstart : s.log.past i <:+ between)
    (hbetween : between <:+ (s.run rules later).log.past i) :
    ∃ before event after act, later = before ++ event :: after ∧
      ((s.run rules before).step rules event).log = (i, act) :: (s.run rules before).log ∧
      ((s.run rules before).step rules event).log.past i = between := by
  induction later using List.reverseRecOn with
  | nil =>
      have hlen := le_antisymm hbetween.length_le hstart.length_le
      exact absurd (hbetween.eq_of_length hlen) hne
  | append_singleton later event ih =>
      by_cases hearlier : between <:+ (s.run rules later).log.past i
      · obtain ⟨before, event', after, act, rfl, hlog, hpast⟩ := ih hearlier
        exact ⟨before, event', after ++ [event], act, by simp, hlog, hpast⟩
      · -- Then it was the last event with which the thread did it.
        rw [run_concat] at hbetween
        have hstep : (s.run rules later).Steps rules ((s.run rules later).step rules event) :=
          steps_step _ event
        rcases hstep.log_cases with hlog | ⟨j, act, hlog⟩
        · exact absurd (hlog ▸ hbetween) hearlier
        · by_cases hij : j = i
          · subst hij
            have hpast : ((s.run rules later).step rules event).log.past j =
                act :: (s.run rules later).log.past j := by rw [hlog, Log.past_cons_self]
            refine ⟨later, event, [], act, rfl, hlog, ?_⟩
            rw [hpast] at hbetween ⊢
            exact ((List.suffix_cons_iff.1 hbetween).resolve_right hearlier).symm
          · exact absurd (by rwa [hlog, Log.past_cons_of_ne hij] at hbetween) hearlier

/-- A thread that has something left to do can go on. -/
theorem exists_step_of_remains {α : Type} {k : α → Task job.Result} {progress : Progress job.Result}
    (rules : Rules) (hthread : s.threads[i]? = some ⟨job, progress⟩) (h : progress.Remains k) :
    ∃ event act, (s.step rules event).log = (i, act) :: s.log := by
  cases h with
  | @operates op next =>
      by_cases hop : ∀ calls, op ≠ .exchange calls
      · exact ⟨.moves i, _, congrArg System.log (step_moves rules hthread hop)⟩
      · obtain ⟨calls, rfl⟩ : ∃ calls, op = .exchange calls := by simpa using hop
        exact ⟨.moves i, _, congrArg System.log (step_moves_exchange rules hthread)⟩
  | @awaits calls next =>
      have hlen : (List.replicate calls.length (.error .badValue : Outcome)).length =
          calls.length := List.length_replicate
      exact ⟨.answered i _, _, congrArg System.log (step_answered rules hthread hlen)⟩

/-- One of the events is the one with which thread `i` comes to the end of `call`, and is left with
what it does with the result. -/
def Completes {α : Type} (rules : Rules) (s : System) (i : Nat) (call : Task α)
    (k : α → Task job.Result) (later : List Event) : Prop :=
  ∃ before event after act a, later = before ++ event :: after ∧
    ((s.run rules before).step rules event).log = (i, act) :: (s.run rules before).log ∧
    call.Leads (s.log.past i) (((s.run rules before).step rules event).log.past i) a ∧
    ((s.run rules before).step rules event).threads[i]? = some ⟨job, .going (k a)⟩

/-- A thread that comes to a task inside its job is later either still at it, and did only a part of
what belongs to it, or came to its end with one event, from which it went on with the result. -/
theorem remains_or_ends {α : Type} {call : Task α} {k : α → Task job.Result}
    (hfollows : s.Follows rules) (hthread : s.threads[i]? = some ⟨job, .going (call >>= k)⟩)
    (hbegins : call.Begins) (later : List Event) :
    (∃ progress whole a, (s.run rules later).threads[i]? = some ⟨job, progress⟩ ∧
      progress.Remains k ∧ call.Leads (s.log.past i) whole a ∧
      (s.run rules later).log.past i <:+ whole ∧ (s.run rules later).log.past i ≠ whole) ∨
    s.Completes rules i call k later := by
  obtain ⟨progress, hprogress, hstands⟩ := standsAfter_run hfollows hthread later
  -- The task came to its end at some time before the thread did what `past` tells.
  have hended : ∀ between a past rest, call.Leads (s.log.past i) between a →
      (k a).Reaches between past rest → past <:+ (s.run rules later).log.past i →
      s.Completes rules i call k later := by
    intro between a past rest hleads hrest hpast
    have hne : between ≠ s.log.past i := fun heq => (hleads.length_lt hbegins).ne (by rw [heq])
    obtain ⟨before, event, after, act, rfl, hlog, hsame⟩ :=
      exists_event_of_suffix later hne hleads.suffix (hrest.suffix.trans hpast)
    obtain ⟨found, hfound, hthere⟩ := standsAfter_run hfollows hthread (before ++ [event])
    rw [run_concat] at hfound hthere
    rw [hsame] at hthere
    have hreached : (call >>= k).Reaches (s.log.past i) between (k a) :=
      (Task.leads_iff_reaches.1 hleads).bind
    refine ⟨before, event, after, act, a, rfl, hlog, hsame.symm ▸ hleads, ?_⟩
    cases found with
    | going rest' => rw [hfound, Task.Reaches.unique hthere hreached]
    | waiting calls next =>
        obtain ⟨first, rfl, hfirst⟩ := hthere
        exact (Task.not_reaches_sent (hfirst.of_suffix hreached (List.suffix_cons _ _))).elim
  cases progress with
  | going rest =>
      rcases Task.Reaches.of_bind hstands with ⟨first, hfirst, rfl⟩ | ⟨between, a, hleads, hrest⟩
      · cases first with
        | done a =>
            exact .inr (hended _ a _ _ (Task.leads_iff_reaches.2 hfirst) (.here _ _)
              (List.suffix_refl _))
        | step op next =>
            obtain ⟨whole, a, hleads⟩ := (Task.step op next).exists_leads
              ((s.run rules later).log.past i)
            have hlt := hleads.length_lt ⟨op, next, rfl⟩
            exact .inl ⟨_, whole, a, hprogress, .operates next, hfirst.leads hleads, hleads.suffix,
              fun heq => hlt.ne (congrArg List.length heq)⟩
      · exact .inr (hended _ a _ _ hleads hrest (List.suffix_refl _))
  | waiting calls next =>
      obtain ⟨before, hpast, hreaches⟩ := hstands
      rcases hreaches.step_of_bind with ⟨first, hfirst, rfl⟩ | ⟨between, a, hleads, hrest⟩
      · obtain ⟨answer, hadmits⟩ := exists_admits (.exchange calls)
        obtain ⟨whole, a, hleads⟩ := (first answer).exists_leads
          (.did (.exchange calls) answer :: (Op.prelude (.exchange calls) ++ before))
        have hsuffix : Act.did (.exchange calls) answer :: .sent calls :: before <:+ whole :=
          hleads.suffix
        refine .inl ⟨_, whole, a, hprogress, .awaits first,
          (hfirst.perform hadmits).leads hleads, ?_, ?_⟩
        · rw [hpast]
          exact (List.suffix_cons _ _).trans hsuffix
        · rintro rfl
          rw [hpast] at hsuffix
          exact absurd hsuffix.length_le (by simp)
      · refine .inr (hended _ a _ _ hleads hrest ?_)
        rw [hpast]
        exact List.suffix_cons _ _

end System
end Gateway
end RunnerGateway
