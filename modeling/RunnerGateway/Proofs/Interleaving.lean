import Mathlib
import RunnerGateway.Gateway.Service

/-!
# Many jobs at one time

`Task.run` performs a task without interruption.  Here any number of tasks go on at the same time:
a `System` is the state of the gateway together with the threads that work on it, and an `Event`
lets one thread make its next step, brings it the answers of backends, lets time pass, begins a new
job, or closes the database.  Calls leave at one moment and their answers come at a later one, so
that anything may happen in between.

The `Log` keeps what was done, latest first.  Facts about interleavings are facts about logs: every
entry tells which thread acted and what answer it got.
-/

namespace RunnerGateway
namespace Gateway

open Exchange Http

/-! ## What threads do -/

/-- What a thread did at one moment. -/
inductive Act
  /-- It performed an operation and got its answer. -/
  | did (op : Op) (answer : op.Answer)
  /-- It sent calls to backends, which have not answered yet. -/
  | sent (calls : List Call)

namespace Act

/-- The catalogue was thrown away. -/
def isInvalidation : Act → Bool
  | .did .invalidate _ => true
  | _ => false

/-- The configuration that was written. -/
def written? : Act → Option RunnerConfig
  | .did (.configure _) (.ok config) => some config
  | _ => none

/-- The list that was kept as the new catalogue. -/
def published? : Act → Option (List ModelEntry)
  | .did (.publish _ models) true => some models
  | _ => none

/-- A new configuration was written. -/
def isWrite (act : Act) : Bool :=
  act.written?.isSome

end Act

/-- What a thread did before it gets the answer of an operation: calls are sent first. -/
def Op.prelude : Op → List Act
  | .exchange calls => [.sent calls]
  | _ => []

/-- The answer is one that the operation can get: every call has one outcome. -/
def Op.Admits : (op : Op) → op.Answer → Prop
  | .exchange calls, outcomes => (outcomes : List Outcome).length = calls.length
  | _, _ => True

/-- What happened so far, latest first, each act with the number of its thread. -/
abbrev Log := List (Nat × Act)

namespace Log

/-- What one thread did so far, latest first. -/
def past (i : Nat) (log : Log) : List Act :=
  log.filterMap fun entry => if entry.1 = i then some entry.2 else none

/-- What happened since the catalogue was thrown away for the last time. -/
def sinceInvalidation (log : Log) : Log :=
  log.takeWhile fun entry => !entry.2.isInvalidation

/-- The threads that wrote a configuration and did not throw the catalogue away since. -/
def owing : Log → List Nat
  | [] => []
  | (i, act) :: log =>
    if act.isWrite then i :: owing log
    else if act.isInvalidation then (owing log).filter fun j => j ≠ i
    else owing log

end Log

/-! ## Jobs and threads -/

/-- What a thread is there for. -/
inductive Job
  | respond (request : Request)
  | refresh
  | update (form : ConfigUpdate)
  | select (model : String)

/-- What comes out of a job. -/
def Job.Result : Job → Type
  | .respond _ => Response
  | .refresh => List ModelEntry
  | .update _ => Except GatewayError RunnerConfig
  | .select _ => Except GatewayError Backend

/-- What has to be done for a job. -/
def Job.task (rules : Rules) : (job : Job) → Task job.Result
  | .respond request => Gateway.respond rules request
  | .refresh => Gateway.refresh
  | .update form => Task.configure form
  | .select model => (Gateway.select model).run

/-- How far a task has come: what remains of it, or the calls whose answers it waits for and what
remains after them. -/
inductive Progress (α : Type)
  | going (rest : Task α)
  | waiting (calls : List Call) (next : List Outcome → Task α)

/-- A job that has been begun. -/
structure Thread where
  job : Job
  progress : Progress job.Result

/-- The state of the gateway, the threads that work on it, and what they did. -/
structure System where
  state : State
  threads : List Thread := []
  log : Log := []

/-- What may happen next. -/
inductive Event
  | begins (job : Job)
  /-- A thread performs its next operation, or sends its next calls. -/
  | moves (thread : Nat)
  /-- The backends have answered the calls of a thread. -/
  | answered (thread : Nat) (outcomes : List Outcome)
  | passes (milliseconds : Nat)
  | closes

/-! ## What operations do to the state -/

namespace State

/-- A list is kept in the present generation only, and otherwise nothing happens. -/
theorem publish_cases (s : State) (g : Nat) (models : List ModelEntry) :
    (s.generation = g ∧ s.publish g models =
      (true, { s with catalogue := some ⟨s.now, models⟩, routes := routesOf models })) ∨
    (s.generation ≠ g ∧ s.publish g models = (false, s)) := by
  by_cases hg : s.generation = g
  · exact .inl ⟨hg, if_pos hg⟩
  · exact .inr ⟨hg, if_neg hg⟩

/-- An update changes the configuration and what is stored of it, or nothing. -/
theorem configure_cases (s : State) (form : ConfigUpdate) :
    (∃ store, s.configure form = (.ok (s.config.applyUpdate form),
      { s with config := s.config.applyUpdate form, store })) ∨
    ∃ e, s.configure form = (.error e, s) := by
  obtain ⟨config, store, generation, catalogue, routes, turns, now⟩ := s
  cases store with
  | none => exact .inl ⟨none, rfl⟩
  | some store =>
      cases hset : store.setRunners (config.applyUpdate form) with
      | ok kept => exact .inl ⟨some kept, by simp [configure, hset]⟩
      | error e => exact .inr ⟨e, by simp [configure, hset]⟩

end State

namespace System

/-- A gateway at its start. -/
def start (config : RunnerConfig) (store : Option Store) : System where
  state := { config, store }

/-- The system after thread `i` acted. -/
def advance (s : System) (i : Nat) (thread : Thread) (act : Act) (state : State) : System where
  state := state
  threads := s.threads.set i thread
  log := (i, act) :: s.log

/-- The system after thread `i` went on, if it has anything to do on its own. -/
def move (rules : Rules) (s : System) (i : Nat) : Thread → System
  | ⟨job, .going (.step (.exchange calls) next)⟩ =>
    s.advance i ⟨job, .waiting calls next⟩ (.sent calls) s.state
  | ⟨job, .going (.step op next)⟩ =>
    let (answer, state) := s.state.perform rules (fun _ => []) op
    s.advance i ⟨job, .going (next answer)⟩ (.did op answer) state
  | _ => s

/-- The system after the backends answered thread `i`, if it waits for as many answers. -/
def answer (s : System) (i : Nat) (outcomes : List Outcome) : Thread → System
  | ⟨job, .waiting calls next⟩ =>
    if outcomes.length = calls.length then
      s.advance i ⟨job, .going (next outcomes)⟩ (.did (.exchange calls) outcomes) s.state
    else s
  | _ => s

/-- The system after an event. -/
def step (rules : Rules) (s : System) : Event → System
  | .begins job => { s with threads := s.threads ++ [⟨job, .going (job.task rules)⟩] }
  | .moves i => (s.threads[i]?).elim s (s.move rules i)
  | .answered i outcomes => (s.threads[i]?).elim s (s.answer i outcomes)
  | .passes ms => { s with state := { s.state with now := s.state.now + ms } }
  | .closes => { s with state := { s.state with store := s.state.store.map Store.close } }

/-- The system after events, one after the other. -/
def run (rules : Rules) (s : System) (events : List Event) : System :=
  events.foldl (step rules) s

/-! ## What one event can do -/

/-- What becomes of a system at one moment. -/
inductive Steps (rules : Rules) (s : System) : System → Prop
  | stays : Steps rules s s
  | begins (job : Job) :
      Steps rules s { s with threads := s.threads ++ [⟨job, .going (job.task rules)⟩] }
  | sends {i : Nat} {job : Job} {calls : List Call} {next : List Outcome → Task job.Result}
      (hthread : s.threads[i]? = some ⟨job, .going (.step (.exchange calls) next)⟩) :
      Steps rules s (s.advance i ⟨job, .waiting calls next⟩ (.sent calls) s.state)
  | performs {i : Nat} {job : Job} {op : Op} {next : op.Answer → Task job.Result}
      (hthread : s.threads[i]? = some ⟨job, .going (.step op next)⟩)
      (hop : ∀ calls, op ≠ .exchange calls) :
      Steps rules s (s.advance i ⟨job, .going (next (s.state.perform rules (fun _ => []) op).1)⟩
        (.did op (s.state.perform rules (fun _ => []) op).1)
        (s.state.perform rules (fun _ => []) op).2)
  | hears {i : Nat} {job : Job} {calls : List Call} {next : List Outcome → Task job.Result}
      {outcomes : List Outcome} (hthread : s.threads[i]? = some ⟨job, .waiting calls next⟩)
      (hlen : outcomes.length = calls.length) :
      Steps rules s (s.advance i ⟨job, .going (next outcomes)⟩ (.did (.exchange calls) outcomes)
        s.state)
  | passes (ms : Nat) : Steps rules s { s with state := { s.state with now := s.state.now + ms } }
  | closes :
      Steps rules s { s with state := { s.state with store := s.state.store.map Store.close } }

variable {rules : Rules} {s : System}

theorem steps_move {i : Nat} {thread : Thread} (hthread : s.threads[i]? = some thread) :
    s.Steps rules (s.move rules i thread) := by
  unfold System.move
  split
  · exact .sends hthread
  · rename_i job op next hne
    refine .performs hthread ?_
    rintro calls rfl
    exact hne calls next rfl HEq.rfl
  · exact .stays

theorem steps_answer {i : Nat} {thread : Thread} (hthread : s.threads[i]? = some thread)
    (outcomes : List Outcome) : s.Steps rules (s.answer i outcomes thread) := by
  unfold System.answer
  split
  · split
    · rename_i hlen
      exact .hears hthread hlen
    · exact .stays
  · exact .stays

theorem steps_step (s : System) (event : Event) : s.Steps rules (s.step rules event) := by
  cases event with
  | begins job => exact .begins job
  | moves i =>
      cases hthread : s.threads[i]? with
      | none => simpa [System.step, hthread] using Steps.stays
      | some thread => simpa [System.step, hthread] using steps_move hthread
  | answered i outcomes =>
      cases hthread : s.threads[i]? with
      | none => simpa [System.step, hthread] using Steps.stays
      | some thread => simpa [System.step, hthread] using steps_answer hthread outcomes
  | passes ms => exact .passes ms
  | closes => exact .closes

theorem length_threads_move (s : System) (i : Nat) (thread : Thread) :
    (s.move rules i thread).threads.length = s.threads.length := by
  unfold System.move
  split <;> simp [System.advance]

theorem length_threads_answer (s : System) (i : Nat) (outcomes : List Outcome)
    (thread : Thread) : (s.answer i outcomes thread).threads.length = s.threads.length := by
  unfold System.answer
  split
  · split <;> simp [System.advance]
  · rfl

/-- Only beginning a job adds a thread. -/
theorem begins_of_threads_step {event : Event} {job : Job} {progress : Progress job.Result}
    (h : (s.step rules event).threads = s.threads ++ [⟨job, progress⟩]) :
    event = .begins job := by
  have hlen := congrArg List.length h
  rw [List.length_append, List.length_singleton] at hlen
  cases event with
  | begins job' =>
      have hthread := List.singleton_inj.1 (List.append_cancel_left h)
      exact congrArg Event.begins (Thread.mk.inj hthread).1
  | moves i =>
      cases hthread : s.threads[i]? with
      | none => simp [System.step, hthread] at hlen
      | some thread => simp [System.step, hthread, length_threads_move] at hlen
  | answered i outcomes =>
      cases hthread : s.threads[i]? with
      | none => simp [System.step, hthread] at hlen
      | some thread => simp [System.step, hthread, length_threads_answer] at hlen
  | passes ms => simp [System.step] at hlen
  | closes => simp [System.step] at hlen

/-- The log only grows. -/
theorem Steps.log_suffix {s' : System} (hstep : s.Steps rules s') : s.log <:+ s'.log := by
  cases hstep with
  | stays | begins | passes | closes => exact List.suffix_refl _
  | sends | performs | hears => exact List.suffix_cons _ _

/-- What holds at first and after every step holds after every run. -/
theorem run_induction {p : System → Prop} (hs : p s)
    (hsteps : ∀ t t', p t → t.Steps rules t' → p t') (events : List Event) :
    p (s.run rules events) := by
  induction events generalizing s with
  | nil => exact hs
  | cons event events ih => exact ih (hsteps s _ hs (steps_step s event))

end System

end Gateway
end RunnerGateway
