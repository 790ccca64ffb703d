import RunnerGateway.Proofs.Discipline

/-!
# One request after the other

`Task.run` performs a task with nothing in between.  That is one of the interleavings: some events
bring a thread to the end of its task and leave the state that `Task.run` leaves
(`System.exists_run_eq`).  So what holds of all interleavings holds in particular after any sequence
of requests of which each is answered before the next one comes (`System.exists_run_eq_answerAll`).
-/

namespace RunnerGateway
namespace Gateway

open Exchange Http

/-! ## Tasks that nothing interrupts -/

section Run

variable {α β σ : Type} {rules : Rules} {net : Network σ} {s : State} {n : σ}

theorem Task.run_bind (t : Task α) (f : α → Task β) (s : State) (n : σ) :
    (t >>= f).run rules net s n =
      (f (t.run rules net s n).1).run rules net (t.run rules net s n).2.1
        (t.run rules net s n).2.2 := by
  change (t.bind f).run rules net s n = _
  induction t generalizing s n with
  | done a => rfl
  | step op next ih => exact ih _ _ _

/-- The second of two tasks starts with what the first one leaves. -/
theorem Task.run_bind_of_eq {t : Task α} {f : α → Task β} {a : α} {s' : State} {n' : σ}
    (h : t.run rules net s n = (a, s', n')) :
    (t >>= f).run rules net s n = (f a).run rules net s' n' := by
  rw [Task.run_bind, h]

/-- As long as it is fresh, the kept list is the list of all models. -/
theorem allModels_run_of_cached {models : List ModelEntry} (h : s.cached rules = some models)
    (net : Network σ) (n : σ) : allModels.run rules net s n = (models, s, n) := by
  have hread : Task.cached.run rules net s n = (some models, s, n) := by
    change (s.cached rules, s, n) = _
    rw [h]
  rw [allModels, Task.run_bind_of_eq hread]
  rfl

theorem Network.length_exchange (net : Network σ) (n : σ) (calls : List Call) :
    (net.exchange n calls).1.length = calls.length := by
  induction calls generalizing n with
  | nil => rfl
  | cons c calls ih => exact congrArg (· + 1) (ih _)

/-- Only calls depend on what becomes of calls. -/
theorem State.perform_of_ne {op : Op} (hop : ∀ calls, op ≠ .exchange calls)
    (deliver deliver' : List Call → List Outcome) :
    s.perform rules deliver op = s.perform rules deliver' op := by
  cases op with
  | exchange calls => exact (hop calls rfl).elim
  | _ => rfl

end Run

/-! ## The events of a single task -/

namespace System

variable {σ : Type} {s : System} {i : Nat} {job : Job}

theorem run_append (rules : Rules) (s : System) (events events' : List Event) :
    s.run rules (events ++ events') = (s.run rules events).run rules events' :=
  List.foldl_append

theorem run_concat (rules : Rules) (s : System) (events : List Event) (event : Event) :
    s.run rules (events ++ [event]) = (s.run rules events).step rules event :=
  run_append rules s events [event]

theorem step_moves_exchange (rules : Rules) {calls : List Call}
    {next : List Outcome → Task job.Result}
    (hthread : s.threads[i]? = some ⟨job, .going (.step (.exchange calls) next)⟩) :
    s.step rules (.moves i) = s.advance i ⟨job, .waiting calls next⟩ (.sent calls) s.state := by
  simp [System.step, hthread, System.move]

theorem step_moves (rules : Rules) {op : Op} {next : op.Answer → Task job.Result}
    (hthread : s.threads[i]? = some ⟨job, .going (.step op next)⟩)
    (hop : ∀ calls, op ≠ .exchange calls) :
    s.step rules (.moves i) =
      s.advance i ⟨job, .going (next (s.state.perform rules (fun _ => []) op).1)⟩
        (.did op (s.state.perform rules (fun _ => []) op).1)
        (s.state.perform rules (fun _ => []) op).2 := by
  cases op with
  | exchange calls => exact (hop calls rfl).elim
  | _ => simp [System.step, hthread, System.move]

theorem step_answered (rules : Rules) {calls : List Call} {next : List Outcome → Task job.Result}
    {outcomes : List Outcome} (hthread : s.threads[i]? = some ⟨job, .waiting calls next⟩)
    (hlen : outcomes.length = calls.length) :
    s.step rules (.answered i outcomes) =
      s.advance i ⟨job, .going (next outcomes)⟩ (.did (.exchange calls) outcomes) s.state := by
  simp [System.step, hthread, System.answer, hlen]

/-- The next operation of a thread that goes on alone takes one event, and two if it calls
backends. -/
theorem exists_run_step (rules : Rules) (net : Network σ) {op : Op}
    {next : op.Answer → Task job.Result}
    (hthread : s.threads[i]? = some ⟨job, .going (.step op next)⟩) (n : σ) :
    ∃ events, (∀ job', .begins job' ∉ events) ∧
      let done := s.state.perform rules (fun calls => (net.exchange n calls).1) op
      (s.run rules events).state = done.2 ∧
        (s.run rules events).threads = s.threads.set i ⟨job, .going (next done.1)⟩ := by
  by_cases hop : ∀ calls, op ≠ .exchange calls
  · refine ⟨[.moves i], by simp, ?_⟩
    have hstep : s.run rules [.moves i] = _ := step_moves rules hthread hop
    rw [hstep, State.perform_of_ne hop _ fun _ => []]
    exact ⟨rfl, rfl⟩
  · obtain ⟨calls, rfl⟩ : ∃ calls, op = .exchange calls := by simpa using hop
    have hi : i < s.threads.length := (List.getElem?_eq_some_iff.1 hthread).1
    refine ⟨[.moves i, .answered i (net.exchange n calls).1], by simp, ?_⟩
    have hsent := step_moves_exchange rules hthread
    have hwaits : (s.step rules (.moves i)).threads[i]? = some ⟨job, .waiting calls next⟩ := by
      rw [hsent]
      simp [System.advance, hi]
    have hstep : s.run rules [.moves i, .answered i (net.exchange n calls).1] = _ :=
      step_answered rules hwaits (net.length_exchange n calls)
    rw [hstep, hsent]
    exact ⟨rfl, List.set_set _⟩

/-- A thread that goes on alone comes to its end, with the result and the state of its task. -/
theorem exists_run_eq (rules : Rules) (net : Network σ) {t : Task job.Result}
    (hthread : s.threads[i]? = some ⟨job, .going t⟩) (n : σ) :
    ∃ events, (∀ job', .begins job' ∉ events) ∧
      (s.run rules events).state = (t.run rules net s.state n).2.1 ∧
      (s.run rules events).threads =
        s.threads.set i ⟨job, .going (.done (t.run rules net s.state n).1)⟩ := by
  induction t generalizing s n with
  | done a =>
      obtain ⟨hi, hget⟩ := List.getElem?_eq_some_iff.1 hthread
      refine ⟨[], by simp, rfl, ?_⟩
      change s.threads = s.threads.set i ⟨job, .going (.done a)⟩
      rw [← hget, List.set_getElem_self]
  | step op next ih =>
      obtain ⟨first, hfirst, hstate, hthreads⟩ := exists_run_step rules net hthread n
      have hi : i < s.threads.length := (List.getElem?_eq_some_iff.1 hthread).1
      obtain ⟨rest, hrest, hend, hended⟩ := ih _ (s := s.run rules first)
        (by rw [hthreads, List.getElem?_set_self hi]) (net.after n op)
      refine ⟨first ++ rest, ?_, ?_, ?_⟩
      · intro job' hmem
        exact (List.mem_append.1 hmem).elim (hfirst job') (hrest job')
      · rw [run_append, hend, hstate]
        rfl
      · rw [run_append, hended, hthreads, List.set_set, hstate]
        rfl

end System

/-! ## Sequences of requests -/

/-- The state and the network after requests, each of which comes some milliseconds after the
answer to the one before. -/
def answerAll {σ : Type} (rules : Rules) (net : Network σ) :
    List (Nat × Request) → State → σ → State × σ
  | [], s, n => (s, n)
  | (ms, r) :: requests, s, n =>
    let (_, s, n) := (respond rules r).run rules net { s with now := s.now + ms } n
    answerAll rules net requests s n

/-- The thread has answered a request. -/
def Thread.Answered (thread : Thread) : Prop :=
  ∃ r response, thread = ⟨.respond r, .going (.done response)⟩

namespace System

variable {σ : Type} {s : System}

/-- One request that is answered before anything else happens. -/
theorem exists_run_eq_respond (rules : Rules) (net : Network σ) (s : System) (ms : Nat)
    (r : Request) (n : σ) :
    ∃ events, (∀ job, .begins job ∈ events → job = .respond r) ∧
      let done := (respond rules r).run rules net { s.state with now := s.state.now + ms } n
      (s.run rules events).state = done.2.1 ∧
        (s.run rules events).threads = s.threads ++ [⟨.respond r, .going (.done done.1)⟩] := by
  have hbegun : (s.run rules [.passes ms, .begins (.respond r)]).threads[s.threads.length]? =
      some ⟨.respond r, .going (respond rules r)⟩ := by
    simp [System.run, System.step, Job.task]
  obtain ⟨events, hevents, hstate, hthreads⟩ := exists_run_eq rules net hbegun n
  refine ⟨[.passes ms, .begins (.respond r)] ++ events, ?_, ?_, ?_⟩
  · intro job hmem
    rcases List.mem_append.1 hmem with hmem | hmem
    · simpa using hmem
    · exact absurd hmem (hevents job)
  · rw [run_append, hstate]
    rfl
  · rw [run_append, hthreads]
    change (s.threads ++ [_]).set s.threads.length _ = _
    simp only [List.set_append_right, Nat.le_refl, Nat.sub_self, List.set_cons_zero]
    rfl

/-- Requests that are answered one after the other are one of the interleavings. -/
theorem exists_run_eq_answerAll (rules : Rules) (net : Network σ)
    (requests : List (Nat × Request)) (n : σ)
    (hs : ∀ thread ∈ s.threads, thread.Answered) :
    ∃ events, (∀ job, .begins job ∈ events → ∃ r, job = .respond r) ∧
      (s.run rules events).state = (answerAll rules net requests s.state n).1 ∧
      ∀ thread ∈ (s.run rules events).threads, thread.Answered := by
  induction requests generalizing s n with
  | nil => exact ⟨[], by simp, rfl, hs⟩
  | cons request requests ih =>
      obtain ⟨ms, r⟩ := request
      obtain ⟨first, hfirst, hstate, hthreads⟩ :=
        exists_run_eq_respond rules net s ms r n
      have hanswered : ∀ thread ∈ (s.run rules first).threads, thread.Answered := by
        intro thread hthread
        rw [hthreads] at hthread
        rcases List.mem_append.1 hthread with hthread | hthread
        · exact hs thread hthread
        · obtain rfl := List.mem_singleton.1 hthread
          exact ⟨r, _, rfl⟩
      obtain ⟨rest, hrest, hend, hended⟩ := ih _ hanswered
      refine ⟨first ++ rest, ?_, ?_, ?_⟩
      · intro job hmem
        rcases List.mem_append.1 hmem with hmem | hmem
        · exact ⟨r, hfirst job hmem⟩
        · exact hrest job hmem
      · rw [run_append, hend, hstate]
        rfl
      · rw [run_append]
        exact hended

end System

end Gateway
end RunnerGateway
