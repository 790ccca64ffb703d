import RunnerGateway.Proofs.Interleaving

/-!
# Disciplines of tasks

A discipline says which operations a thread may perform after which past.  `Task.Ensures` is the
weakest condition under which a task keeps to a discipline and ends with a wanted result: it looks
only at the task itself, and takes every answer into account that an operation can get.  The
conditions for tasks are put together from those of their parts.

What every job keeps to, every log keeps to: `System.Heeds.run` carries a discipline from the tasks
of the jobs over to all interleavings of them.
-/

namespace RunnerGateway
namespace Gateway

open Exchange Http

/-- Which operations may come after which past. -/
abbrev Discipline := List Act → Op → Prop

/-! ## Tasks -/

namespace Task

variable {allowed : Discipline} {α β : Type}

theorem bind_done (t : Task α) : t.bind .done = t := by
  induction t with
  | done a => rfl
  | step op next ih => exact congrArg (Task.step op) (funext ih)

theorem bind_bind {γ : Type} (t : Task α) (f : α → Task β) (g : β → Task γ) :
    (t.bind f).bind g = t.bind fun a => (f a).bind g := by
  induction t with
  | done a => rfl
  | step op next ih => exact congrArg (Task.step op) (funext ih)

instance : LawfulMonad Task :=
  LawfulMonad.mk' Task bind_done (fun _ _ => rfl) bind_bind

/-- After `past`, the task keeps to the discipline, and ends with a past and a result as wanted. -/
def Ensures (allowed : Discipline) :
    Task α → List Act → (List Act → α → Prop) → Prop
  | .done a, past, wanted => wanted past a
  | .step op next, past, wanted =>
    allowed past op ∧ ∀ answer, op.Admits answer →
      (next answer).Ensures allowed (.did op answer :: (op.prelude ++ past)) wanted

/-- The task keeps to the discipline after every past. -/
def Heeds (allowed : Discipline) (t : Task α) : Prop :=
  ∀ past, t.Ensures allowed past fun _ _ => True

/-- From `past` on, the task may do what makes the past `later`, and end with a result. -/
inductive Leads : Task α → List Act → List Act → α → Prop
  | done (past : List Act) (a : α) : Leads (.done a) past past a
  | step {op : Op} {next : op.Answer → Task α} {past later : List Act} {a : α}
      (answer : op.Answer) (hadmits : op.Admits answer)
      (hrest : Leads (next answer) (.did op answer :: (op.prelude ++ past)) later a) :
      Leads (.step op next) past later a

/-- Whatever a task may come to is as it ensures. -/
theorem Ensures.of_leads {t : Task α} {past later : List Act} {a : α}
    {wanted : List Act → α → Prop} (hleads : t.Leads past later a)
    (h : t.Ensures allowed past wanted) : wanted later a := by
  induction hleads with
  | done past a => exact h
  | step answer hadmits hrest ih => exact ih (h.2 answer hadmits)

/-- What a task does comes after what was done. -/
theorem Leads.suffix {t : Task α} {past later : List Act} {a : α}
    (h : t.Leads past later a) : past <:+ later := by
  induction h with
  | done past a => exact List.suffix_refl past
  | @step op next past later a answer hadmits hrest ih =>
      have hstep : past <:+ .did op answer :: (op.prelude ++ past) :=
        (List.suffix_append op.prelude past).trans (List.suffix_cons _ _)
      exact hstep.trans ih

/-- What a task does tells its result. -/
theorem Leads.unique {t : Task α} {past later : List Act} {a a' : α}
    (h : t.Leads past later a) (h' : t.Leads past later a') : a = a' := by
  induction h with
  | done past a =>
      cases h' with
      | done => rfl
  | @step op next past later a answer hadmits hrest ih =>
      cases h' with
      | step answer' hadmits' hrest' =>
          have hlen : (Act.did op answer :: (op.prelude ++ past)).length =
              (Act.did op answer' :: (op.prelude ++ past)).length := rfl
          have hsame := (List.suffix_of_suffix_length_le hrest.suffix hrest'.suffix
            hlen.le).eq_of_length hlen
          obtain rfl : answer = answer' := by simpa using hsame
          exact ih hrest'

theorem Ensures.mono {t : Task α} {past : List Act}
    {wanted wanted' : List Act → α → Prop} (h : t.Ensures allowed past wanted)
    (himp : ∀ later a, wanted later a → wanted' later a) :
    t.Ensures allowed past wanted' := by
  induction t generalizing past with
  | done a => exact himp past a h
  | step op next ih =>
      exact ⟨h.1, fun answer hadmits => ih answer (h.2 answer hadmits)⟩

/-- A task ends with what it leads to. -/
theorem ensures_leads (t : Task α) (past : List Act) :
    t.Ensures (fun _ _ => True) past fun later a => t.Leads past later a := by
  induction t generalizing past with
  | done a => exact .done past a
  | step op next ih =>
      refine ⟨trivial, fun answer hadmits => ?_⟩
      exact (ih answer _).mono fun later a hrest => .step answer hadmits hrest

/-- What a task ensures holds of what it leads to. -/
theorem Ensures.and_leads {t : Task α} {past : List Act} {wanted : List Act → α → Prop}
    (h : t.Ensures allowed past wanted) :
    t.Ensures allowed past fun later a => wanted later a ∧ t.Leads past later a := by
  induction t generalizing past with
  | done a => exact ⟨h, .done past a⟩
  | step op next ih =>
      refine ⟨h.1, fun answer hadmits => ?_⟩
      refine (ih answer (h.2 answer hadmits)).mono fun later a hrest => ?_
      exact ⟨hrest.1, .step answer hadmits hrest.2⟩

/-- Two tasks, one after the other, lead to what the second leads to from where the first ends. -/
theorem leads_bind_iff {t : Task α} {f : α → Task β} {past later : List Act} {b : β} :
    (t >>= f).Leads past later b ↔
      ∃ between a, t.Leads past between a ∧ (f a).Leads between later b := by
  change (t.bind f).Leads past later b ↔ _
  induction t generalizing past with
  | done a =>
      constructor
      · intro h
        exact ⟨past, a, .done past a, h⟩
      · rintro ⟨between, a', hfirst, h⟩
        cases hfirst
        exact h
  | step op next ih =>
      constructor
      · intro h
        cases h with
        | step answer hadmits hrest =>
            obtain ⟨between, a, hfirst, h⟩ := (ih answer).1 hrest
            exact ⟨between, a, .step answer hadmits hfirst, h⟩
      · rintro ⟨between, a, hfirst, h⟩
        cases hfirst with
        | step answer hadmits hrest =>
            exact .step answer hadmits ((ih answer).2 ⟨between, a, hrest, h⟩)

theorem leads_pure_iff {a a' : α} {past later : List Act} :
    (pure a : Task α).Leads past later a' ↔ later = past ∧ a' = a := by
  constructor
  · intro h
    cases h
    exact ⟨rfl, rfl⟩
  · rintro ⟨rfl, rfl⟩
    exact .done later a'

theorem leads_perform_iff {op : Op} {past later : List Act} {answer : op.Answer} :
    (perform op).Leads past later answer ↔
      op.Admits answer ∧ later = .did op answer :: (op.prelude ++ past) := by
  constructor
  · intro h
    cases h with
    | step found hadmits hrest =>
        cases hrest with
        | done => exact ⟨hadmits, rfl⟩
  · rintro ⟨hadmits, rfl⟩
    exact .step answer hadmits (.done _ _)

/-- The second of two tasks starts with the past that the first one leaves. -/
theorem ensures_bind_iff {t : Task α} {f : α → Task β} {past : List Act}
    {wanted : List Act → β → Prop} :
    (t >>= f).Ensures allowed past wanted ↔
      t.Ensures allowed past fun later a => (f a).Ensures allowed later wanted := by
  change (t.bind f).Ensures allowed past wanted ↔ _
  induction t generalizing past with
  | done a => exact Iff.rfl
  | step op next ih =>
      simp only [Task.bind, Ensures]
      constructor
      · rintro ⟨hop, hrest⟩
        exact ⟨hop, fun answer hadmits => (ih answer).1 (hrest answer hadmits)⟩
      · rintro ⟨hop, hrest⟩
        exact ⟨hop, fun answer hadmits => (ih answer).2 (hrest answer hadmits)⟩

theorem ensures_pure {a : α} {past : List Act} {wanted : List Act → α → Prop} :
    (pure a : Task α).Ensures allowed past wanted ↔ wanted past a :=
  Iff.rfl

theorem ensures_perform {op : Op} {past : List Act}
    {wanted : List Act → op.Answer → Prop} :
    (perform op).Ensures allowed past wanted ↔
      allowed past op ∧ ∀ answer, op.Admits answer →
        wanted (.did op answer :: (op.prelude ++ past)) answer :=
  Iff.rfl

theorem ensures_config_bind_iff {f : RunnerConfig → Task β} {past : List Act}
    {wanted : List Act → β → Prop} :
    (Task.config >>= f).Ensures allowed past wanted ↔
      allowed past .config ∧ ∀ c : RunnerConfig,
        (f c).Ensures allowed (.did .config c :: past) wanted := by
  rw [ensures_bind_iff]
  exact and_congr_right fun _ => ⟨fun h c => h c trivial, fun h c _ => h c⟩

theorem ensures_exchange_bind_iff {calls : List Call} {f : List Outcome → Task β}
    {past : List Act} {wanted : List Act → β → Prop} :
    (Task.exchange calls >>= f).Ensures allowed past wanted ↔
      allowed past (.exchange calls) ∧ ∀ outcomes : List Outcome,
        outcomes.length = calls.length →
          (f outcomes).Ensures allowed
            (.did (.exchange calls) outcomes :: .sent calls :: past) wanted :=
  ensures_bind_iff

theorem heeds_pure (a : α) : (pure a : Task α).Heeds allowed :=
  fun _ => trivial

theorem heeds_bind {t : Task α} {f : α → Task β} (ht : t.Heeds allowed)
    (hf : ∀ a, (f a).Heeds allowed) : (t >>= f).Heeds allowed := by
  intro past
  rw [ensures_bind_iff]
  exact (ht past).mono fun later a _ => hf a later

theorem heeds_perform {op : Op} (hop : ∀ past, allowed past op) :
    (perform op).Heeds allowed :=
  fun past => ⟨hop past, fun _ _ => trivial⟩

end Task

/-! ## Attempts -/

namespace Attempt

variable {allowed : Discipline} {α β : Type}

/-- The attempt keeps to the discipline, whether it fails or not. -/
def Heeds (allowed : Discipline) (x : Attempt α) : Prop :=
  Task.Heeds allowed x.run

theorem heeds_pure (a : α) : Attempt.Heeds allowed (pure a) :=
  Task.heeds_pure _

theorem heeds_throw (e : GatewayError) : Attempt.Heeds allowed (throw e : Attempt α) :=
  Task.heeds_pure _

theorem heeds_attempt (r : Except GatewayError α) : Attempt.Heeds allowed (attempt r) :=
  Task.heeds_pure r

theorem heeds_mk {t : Task (Except GatewayError α)} (ht : t.Heeds allowed) :
    Attempt.Heeds allowed (ExceptT.mk t) :=
  ht

theorem heeds_bind {x : Attempt α} {f : α → Attempt β} (hx : Attempt.Heeds allowed x)
    (hf : ∀ a, Attempt.Heeds allowed (f a)) : Attempt.Heeds allowed (x >>= f) := by
  refine Task.heeds_bind hx fun result => ?_
  cases result with
  | ok a => exact hf a
  | error e => exact Task.heeds_pure _

/-- From `past` on, what comes after the first attempt may come at any time. -/
theorem ensures_bind_of_heeds {x : Attempt α} {f : α → Attempt β} {past : List Act}
    (hx : x.run.Ensures allowed past fun _ _ => True) (hf : ∀ a, Attempt.Heeds allowed (f a)) :
    (x >>= f).run.Ensures allowed past fun _ _ => True := by
  refine Task.ensures_bind_iff.2 (hx.mono fun later result _ => ?_)
  cases result with
  | ok a => exact hf a later
  | error e => trivial

/-- What comes after the first attempt has to keep to the discipline only where that attempt
ends. -/
theorem heeds_bind_of_leads {x : Attempt α} {f : α → Attempt β} (hx : Attempt.Heeds allowed x)
    (hf : ∀ start later a, x.run.Leads start later (.ok a) →
      (f a).run.Ensures allowed later fun _ _ => True) :
    Attempt.Heeds allowed (x >>= f) := by
  intro past
  refine Task.ensures_bind_iff.2 ((hx past).and_leads.mono fun later result hresult => ?_)
  obtain ⟨-, hleads⟩ := hresult
  cases result with
  | ok a => exact hf past later a hleads
  | error e => trivial

/-- Only what comes after success has to keep to the discipline. -/
theorem heeds_attempt_bind {r : Except GatewayError α} {f : α → Attempt β}
    (hf : ∀ a, r = .ok a → Attempt.Heeds allowed (f a)) :
    Attempt.Heeds allowed (attempt r >>= f) := by
  cases r with
  | error e => exact Task.heeds_pure _
  | ok a => exact hf a rfl

/-- A task as an attempt that does not fail. -/
theorem heeds_lift {t : Task α} (ht : t.Heeds allowed) :
    Attempt.Heeds allowed (monadLift t : Attempt α) :=
  Task.heeds_bind ht fun _ => Task.heeds_pure _

/-- After `past`, the attempt keeps to the discipline, and if it does not fail, it ends as
wanted. -/
def Ensures (allowed : Discipline) (past : List Act) (wanted : List Act → α → Prop)
    (x : Attempt α) : Prop :=
  Task.Ensures allowed x.run past fun later result => ∀ a, result = .ok a → wanted later a

theorem ensures_pure {a : α} {past : List Act} {wanted : List Act → α → Prop}
    (h : wanted past a) : Attempt.Ensures allowed past wanted (pure a) := by
  intro a' ha'
  obtain rfl := Except.ok.inj ha'
  exact h

theorem ensures_throw {past : List Act} {wanted : List Act → α → Prop} (e : GatewayError) :
    Attempt.Ensures allowed past wanted (throw e) :=
  fun _ ha => nomatch ha

theorem ensures_lift {t : Task α} {past : List Act} {wanted : List Act → α → Prop}
    (h : t.Ensures allowed past wanted) :
    Attempt.Ensures allowed past wanted (monadLift t) := by
  refine Task.ensures_bind_iff.2 (h.mono fun later a hwanted => ?_)
  exact ensures_pure hwanted

theorem ensures_bind {x : Attempt α} {f : α → Attempt β} {past : List Act}
    {wanted : List Act → β → Prop}
    (h : Attempt.Ensures allowed past (fun later a => (f a).Ensures allowed later wanted) x) :
    Attempt.Ensures allowed past wanted (x >>= f) := by
  refine Task.ensures_bind_iff.2 (h.mono fun later result hresult => ?_)
  cases result with
  | ok a => exact hresult a rfl
  | error e => exact ensures_throw e

/-- One attempt after the other leads to what the second leads to if the first does not fail. -/
theorem leads_bind_iff {x : Attempt α} {f : α → Attempt β} {past later : List Act}
    {result : Except GatewayError β} :
    (x >>= f).run.Leads past later result ↔
      (∃ between a, x.run.Leads past between (.ok a) ∧ (f a).run.Leads between later result) ∨
        ∃ e, x.run.Leads past later (.error e) ∧ result = .error e := by
  have hbind : (x >>= f).run.Leads past later result ↔ ∃ between found,
      x.run.Leads past between found ∧
        Task.Leads (ExceptT.bindCont f found) between later result := Task.leads_bind_iff
  rw [hbind]
  constructor
  · rintro ⟨between, found, hx, hf⟩
    cases found with
    | ok a => exact .inl ⟨between, a, hx, hf⟩
    | error e =>
        obtain ⟨rfl, rfl⟩ := Task.leads_pure_iff.1 hf
        exact .inr ⟨e, hx, rfl⟩
  · rintro (⟨between, a, hx, hf⟩ | ⟨e, hx, rfl⟩)
    · exact ⟨between, .ok a, hx, hf⟩
    · exact ⟨later, .error e, hx, .done later _⟩

theorem leads_pure_iff {a : α} {past later : List Act} {result : Except GatewayError α} :
    (pure a : Attempt α).run.Leads past later result ↔ later = past ∧ result = .ok a :=
  Task.leads_pure_iff

theorem leads_throw_iff {e : GatewayError} {past later : List Act}
    {result : Except GatewayError α} :
    (throw e : Attempt α).run.Leads past later result ↔ later = past ∧ result = .error e :=
  Task.leads_pure_iff

theorem leads_lift_iff {t : Task α} {past later : List Act} {result : Except GatewayError α} :
    (monadLift t : Attempt α).run.Leads past later result ↔
      ∃ a, t.Leads past later a ∧ result = .ok a := by
  have hbind : (monadLift t : Attempt α).run.Leads past later result ↔ ∃ between a,
      t.Leads past between a ∧ Task.Leads (pure (.ok a)) between later result := Task.leads_bind_iff
  rw [hbind]
  constructor
  · rintro ⟨between, a, ht, hdone⟩
    obtain ⟨rfl, rfl⟩ := Task.leads_pure_iff.1 hdone
    exact ⟨a, ht, rfl⟩
  · rintro ⟨a, ht, rfl⟩
    exact ⟨later, a, ht, .done later _⟩

end Attempt

/-! ## Logs -/

namespace Log

@[simp] theorem past_nil (i : Nat) : past i [] = [] := rfl

@[simp] theorem past_cons_self (i : Nat) (act : Act) (log : Log) :
    past i ((i, act) :: log) = act :: past i log := by
  simp [past]

@[simp] theorem past_cons_of_ne {i j : Nat} (hij : j ≠ i) (act : Act) (log : Log) :
    past i ((j, act) :: log) = past i log := by
  simp [past, hij]

/-- The latest part of a thread's past comes from a latest part of the log. -/
theorem exists_of_past_eq_append {i : Nat} {log : Log} {recent before : List Act}
    (h : past i log = recent ++ before) :
    ∃ later earlier, log = later ++ earlier ∧ past i later = recent ∧
      past i earlier = before := by
  obtain ⟨later, earlier, hlog, hrecent, hbefore⟩ := List.filterMap_eq_append_iff.1 h
  exact ⟨later, earlier, hlog, hrecent, hbefore⟩

/-- The latest act of a thread stands in the log with nothing of the thread after it. -/
theorem exists_of_past_eq_cons {i : Nat} {log : Log} {act : Act} {before : List Act}
    (h : past i log = act :: before) :
    ∃ later earlier, log = later ++ (i, act) :: earlier ∧ past i later = [] ∧
      past i earlier = before := by
  obtain ⟨later, entry, earlier, hlog, hlater, hentry, hbefore⟩ :=
    List.filterMap_eq_cons_iff.1 h
  obtain ⟨j, found⟩ := entry
  have hj : j = i ∧ found = act := by simpa using hentry
  obtain ⟨rfl, rfl⟩ := hj
  refine ⟨later, earlier, hlog, ?_, hbefore⟩
  exact List.filterMap_eq_nil_iff.2 hlater

/-- What a thread did at one moment was allowed after its past; calls are judged when they are
sent, and answers come to calls that were sent just before. -/
def ActHeeds (allowed : Discipline) (past : List Act) : Act → Prop
  | .sent calls => allowed past (.exchange calls)
  | .did (.exchange calls) outcomes =>
    (outcomes : List Outcome).length = calls.length ∧ past.head? = some (.sent calls)
  | .did op _ => allowed past op

/-- Every act of the log was allowed after the past of its thread. -/
def Heeds (allowed : Discipline) : Log → Prop
  | [] => True
  | (i, act) :: log => ActHeeds allowed (past i log) act ∧ Heeds allowed log

theorem Heeds.of_append {allowed : Discipline} {later earlier : Log}
    (h : Heeds allowed (later ++ earlier)) : Heeds allowed earlier := by
  induction later with
  | nil => exact h
  | cons entry later ih => exact ih h.2

theorem Heeds.act {allowed : Discipline} {later earlier : Log} {i : Nat} {act : Act}
    (h : Heeds allowed (later ++ (i, act) :: earlier)) :
    ActHeeds allowed (past i earlier) act :=
  h.of_append.1

end Log

/-! ## Systems -/

/-- What is wanted of the pasts and the results of jobs. -/
abbrev Promise := (job : Job) → List Act → job.Result → Prop

/-- A thread keeps to the discipline from here on, and ends as wanted. -/
def Progress.Heeds {α : Type} (allowed : Discipline) (wanted : List Act → α → Prop)
    (past : List Act) : Progress α → Prop
  | .going rest => rest.Ensures allowed past wanted
  | .waiting calls next =>
    past.head? = some (.sent calls) ∧
      ∀ outcomes : List Outcome, outcomes.length = calls.length →
        (next outcomes).Ensures allowed (.did (.exchange calls) outcomes :: past) wanted

namespace System

variable {allowed : Discipline} {wanted : Promise} {rules : Rules} {s : System}

/-- The condition holds of every thread with its past. -/
structure EachThread (p : Thread → List Act → Prop) (s : System) : Prop where
  threads : ∀ i (thread : Thread), s.threads[i]? = some thread → p thread (s.log.past i)
  /-- Only threads that have been begun have a past. -/
  begun : ∀ i, s.threads.length ≤ i → s.log.past i = []

theorem EachThread.ofState (p : Thread → List Act → Prop) (state : State) :
    ({ state } : System).EachThread p where
  threads := by simp
  begun := by simp

theorem EachThread.start (p : Thread → List Act → Prop) (config : RunnerConfig)
    (store : Option Store) : (System.start config store).EachThread p :=
  EachThread.ofState p _

theorem EachThread.advance {p : Thread → List Act → Prop} (h : s.EachThread p) {i : Nat}
    {old thread : Thread} {act : Act} (hold : s.threads[i]? = some old)
    (hthread : p thread (act :: s.log.past i)) (state : State) :
    (s.advance i thread act state).EachThread p where
  threads := by
    intro j found hfound
    by_cases hij : i = j
    · subst j
      have hi : i < s.threads.length := (List.getElem?_eq_some_iff.1 hold).1
      have heq : thread = found := by simpa [System.advance, hi] using hfound
      subst heq
      simpa [System.advance] using hthread
    · have hother : s.threads[j]? = some found := by
        simpa [System.advance, hij] using hfound
      simpa [System.advance, hij] using h.threads j found hother
  begun := by
    intro j hj
    have hi : i < s.threads.length := (List.getElem?_eq_some_iff.1 hold).1
    have hlen : s.threads.length ≤ j := by simpa [System.advance] using hj
    have hij : i ≠ j := by omega
    simpa [System.advance, hij] using h.begun j hlen

theorem EachThread.begin {p : Thread → List Act → Prop} (h : s.EachThread p) (thread : Thread)
    (hthread : p thread []) :
    ({ s with threads := s.threads ++ [thread] } : System).EachThread p where
  threads := by
    intro i found hfound
    simp only [List.getElem?_append] at hfound
    split at hfound
    · exact h.threads i found hfound
    · rename_i hlen
      obtain ⟨hi, hnew⟩ := List.getElem?_eq_some_iff.1 hfound
      rw [List.getElem_singleton] at hnew
      subst hnew
      -- A thread that begins has no past.
      change p thread (s.log.past i)
      rw [h.begun i (Nat.not_lt.1 hlen)]
      exact hthread
  begun := by
    intro i hi
    have hi : s.threads.length + 1 ≤ i := by simpa using hi
    exact h.begun i (by omega)

/-- What has been done kept to the discipline, and what remains to be done will; who has ended has
ended as wanted. -/
structure Heeds (allowed : Discipline) (wanted : Promise) (s : System) : Prop where
  log : s.log.Heeds allowed
  threads : ∀ i (thread : Thread), s.threads[i]? = some thread →
    thread.progress.Heeds allowed (wanted thread.job) (s.log.past i)
  /-- Only threads that have been begun have a past. -/
  begun : ∀ i, s.threads.length ≤ i → s.log.past i = []

theorem Heeds.ofState (allowed : Discipline) (wanted : Promise) (state : State) :
    ({ state } : System).Heeds allowed wanted := by
  obtain ⟨hthreads, hbegun⟩ := EachThread.ofState
    (fun thread past => thread.progress.Heeds allowed (wanted thread.job) past) state
  exact ⟨trivial, hthreads, hbegun⟩

theorem Heeds.start (allowed : Discipline) (wanted : Promise) (config : RunnerConfig)
    (store : Option Store) : (System.start config store).Heeds allowed wanted :=
  Heeds.ofState allowed wanted _

theorem Heeds.eachThread (h : s.Heeds allowed wanted) :
    s.EachThread fun thread past => thread.progress.Heeds allowed (wanted thread.job) past :=
  ⟨h.threads, h.begun⟩

/-- An act of one thread keeps the discipline if it is allowed and the rest of the thread keeps
to it. -/
theorem Heeds.advance (h : s.Heeds allowed wanted) {i : Nat} {old thread : Thread} {act : Act}
    {state : State} (hold : s.threads[i]? = some old)
    (hact : Log.ActHeeds allowed (s.log.past i) act)
    (hrest : thread.progress.Heeds allowed (wanted thread.job) (act :: s.log.past i)) :
    (s.advance i thread act state).Heeds allowed wanted := by
  obtain ⟨hthreads, hbegun⟩ := h.eachThread.advance hold hrest state
  exact ⟨⟨hact, h.log⟩, hthreads, hbegun⟩

theorem Heeds.begin (h : s.Heeds allowed wanted) {job : Job}
    (hjob : (job.task rules).Ensures allowed [] (wanted job)) :
    ({ s with threads := s.threads ++ [⟨job, .going (job.task rules)⟩] } : System).Heeds
      allowed wanted := by
  obtain ⟨hthreads, hbegun⟩ := h.eachThread.begin ⟨job, .going (job.task rules)⟩ hjob
  exact ⟨h.log, hthreads, hbegun⟩

/-- Every step keeps what all threads ensure, and the job that it begins, if it begins one. -/
theorem Heeds.steps {s' : System}
    (hjobs : ∀ job : Job, s'.threads = s.threads ++ [⟨job, .going (job.task rules)⟩] →
      (job.task rules).Ensures allowed [] (wanted job))
    (h : s.Heeds allowed wanted) (hstep : s.Steps rules s') : s'.Heeds allowed wanted := by
  cases hstep with
  | stays => exact h
  | begins job => exact h.begin (hjobs job rfl)
  | @sends i job calls next hthread =>
      -- Calls are sent: they were allowed when the thread came to them.
      obtain ⟨hop, hrest⟩ := h.threads i _ hthread
      exact h.advance hthread hop ⟨rfl, hrest⟩
  | @performs i job op next hthread hne =>
      obtain ⟨hop, hrest⟩ := h.threads i _ hthread
      cases op with
      | exchange calls => exact (hne calls rfl).elim
      | _ => exact h.advance hthread hop (hrest _ trivial)
  | @hears i job calls next outcomes hthread hlen =>
      obtain ⟨hsent, hrest⟩ := h.threads i _ hthread
      exact h.advance hthread ⟨hlen, hsent⟩ (hrest outcomes hlen)
  | passes ms => exact ⟨h.log, h.threads, h.begun⟩
  | closes => exact ⟨h.log, h.threads, h.begun⟩

/-- Every run keeps what the jobs ensure that are begun in it. -/
theorem Heeds.run_of_begins {events : List Event}
    (hjobs : ∀ job : Job, .begins job ∈ events →
      (job.task rules).Ensures allowed [] (wanted job))
    (h : s.Heeds allowed wanted) : (s.run rules events).Heeds allowed wanted := by
  induction events generalizing s with
  | nil => exact h
  | cons event events ih =>
      refine ih (fun job hjob => hjobs job (List.mem_cons_of_mem _ hjob)) ?_
      refine h.steps (fun job hthreads => hjobs job ?_) (steps_step s event)
      exact List.mem_cons.2 (.inl (begins_of_threads_step hthreads).symm)

theorem Heeds.run (hjobs : ∀ job : Job, (job.task rules).Ensures allowed [] (wanted job))
    (h : s.Heeds allowed wanted) (events : List Event) :
    (s.run rules events).Heeds allowed wanted :=
  h.run_of_begins fun job _ => hjobs job

/-- What holds at first, and stays so with every step after which the log keeps to the discipline,
holds after every run whose log does. -/
theorem run_induction_of_heeds {p : System → Prop} (hs : p s)
    (hsteps : ∀ t t', t'.log.Heeds allowed → p t → t.Steps rules t' → p t')
    (events : List Event) (hlog : (s.run rules events).log.Heeds allowed) :
    p (s.run rules events) := by
  revert hlog
  refine run_induction (p := fun t => t.log.Heeds allowed → p t) (fun _ => hs) ?_ events
  intro t t' ht hstep hlog
  obtain ⟨recent, hrecent⟩ := hstep.log_suffix
  have hsplit : Log.Heeds allowed (recent ++ t.log) := hrecent ▸ hlog
  exact hsteps t t' hlog (ht hsplit.of_append) hstep

/-- What all jobs keep to, is kept to by whatever happens. -/
theorem heeds_log (hjobs : ∀ job : Job, (job.task rules).Heeds allowed) (seed : RunnerConfig)
    (store : Option Store) (events : List Event) :
    ((System.start seed store).run rules events).log.Heeds allowed :=
  ((Heeds.start allowed (fun _ _ _ => True) seed store).run (fun job => hjobs job []) events).log

/-- A job that has ended did what its task leads to. -/
theorem leads_of_done {seed : RunnerConfig} {store : Option Store} {events : List Event} {i : Nat}
    {job : Job} {a : job.Result}
    (h : ((System.start seed store).run rules events).threads[i]? =
      some ⟨job, .going (.done a)⟩) :
    (job.task rules).Leads [] (((System.start seed store).run rules events).log.past i) a := by
  have hheeds : ((System.start seed store).run rules events).Heeds (fun _ _ => True)
      fun job later a => (job.task rules).Leads [] later a :=
    (Heeds.start _ _ seed store).run (fun job => Task.ensures_leads _ _) events
  exact hheeds.threads i _ h

end System

end Gateway
end RunnerGateway
