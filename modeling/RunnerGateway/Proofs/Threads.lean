import RunnerGateway.Proofs.Discipline

/-!
# Where threads stand

What remains of a task is settled by what was done: `Task.Reaches` leads from a task and a past to
what remains of it after a longer past.  In every interleaving each thread stands where its own past
leads from the task of its job (`System.follows_run`), whatever the other threads do.  So a
discipline that a single job keeps to tells what the threads of this job did, and of a thread that
waits for an answer it is known what it will do with it.
-/

namespace RunnerGateway
namespace Gateway

open Exchange Http

/-! ## Pasts that kept to a discipline -/

/-- Every act of a past was allowed after those before it. -/
def Heeded (allowed : Discipline) : List Act → Prop
  | [] => True
  | act :: past => Log.ActHeeds allowed past act ∧ Heeded allowed past

namespace Heeded

variable {allowed : Discipline} {past recent before : List Act}

theorem of_append (h : Heeded allowed (recent ++ before)) : Heeded allowed before := by
  induction recent with
  | nil => exact h
  | cons act recent ih => exact ih h.2

theorem mono {allowed' : Discipline} (h : Heeded allowed past)
    (himp : ∀ past op, allowed past op → allowed' past op) : Heeded allowed' past := by
  induction past with
  | nil => exact trivial
  | cons act past ih =>
      obtain ⟨hact, hpast⟩ := h
      refine ⟨?_, ih hpast⟩
      cases act with
      | sent calls => exact himp past _ hact
      | did op answer =>
          cases op with
          | exchange calls => exact hact
          | _ => exact himp past _ hact

/-- Calls that were sent were allowed when they were sent. -/
theorem exists_of_sent (h : Heeded allowed past) {calls : List Call} (hmem : .sent calls ∈ past) :
    ∃ before, Act.sent calls :: before <:+ past ∧ allowed before (.exchange calls) := by
  obtain ⟨recent, before, rfl⟩ := List.append_of_mem hmem
  have hsent : Log.ActHeeds allowed before (.sent calls) := h.of_append.1
  exact ⟨before, List.suffix_append _ _, hsent⟩

/-- An operation that was performed was allowed, and calls were sent before their answers came. -/
theorem exists_of_did (h : Heeded allowed past) {op : Op} {answer : op.Answer}
    (hmem : .did op answer ∈ past) : ∃ before, before <:+ past ∧ allowed before op := by
  obtain ⟨recent, before, rfl⟩ := List.append_of_mem hmem
  have hpast : before <:+ recent ++ Act.did op answer :: before :=
    (List.suffix_cons _ _).trans (List.suffix_append _ _)
  obtain ⟨hact, hbefore⟩ := h.of_append
  cases op with
  | exchange calls =>
      have hsent : Act.sent calls ∈ before := List.mem_of_mem_head? (by simp [hact.2])
      obtain ⟨earlier, hsuffix, hallowed⟩ := hbefore.exists_of_sent hsent
      exact ⟨earlier, ((List.suffix_cons _ _).trans hsuffix).trans hpast, hallowed⟩
  | _ => exact ⟨before, hpast, hact⟩

/-- After an operation that was allowed, a past still keeps to the discipline. -/
theorem did (h : Heeded allowed past) {op : Op} (hop : allowed past op) {answer : op.Answer}
    (hadmits : op.Admits answer) : Heeded allowed (.did op answer :: (op.prelude ++ past)) := by
  cases op with
  | exchange calls => exact ⟨⟨hadmits, rfl⟩, hop, h⟩
  | _ => exact ⟨hop, h⟩

end Heeded

/-! ## What remains of a task -/

namespace Task

variable {allowed : Discipline} {α β : Type}

/-- From `past` on, the task may do what makes the past `later`, and then `rest` remains of it. -/
inductive Reaches : Task α → List Act → List Act → Task α → Prop
  | here (rest : Task α) (past : List Act) : Reaches rest past past rest
  | step {op : Op} {next : op.Answer → Task α} {past later : List Act} {rest : Task α}
      (answer : op.Answer) (hadmits : op.Admits answer)
      (hrest : Reaches (next answer) (.did op answer :: (op.prelude ++ past)) later rest) :
      Reaches (.step op next) past later rest

/-- A task leads to a result if it reaches its end with it. -/
theorem leads_iff_reaches {t : Task α} {past later : List Act} {a : α} :
    t.Leads past later a ↔ t.Reaches past later (.done a) := by
  constructor
  · intro h
    induction h with
    | done past a => exact .here _ past
    | step answer hadmits hrest ih => exact .step answer hadmits ih
  · intro h
    generalize hrest : Task.done a = rest at h
    induction h with
    | here t past =>
        subst hrest
        exact .done past a
    | step answer hadmits hreaches ih => exact .step answer hadmits (ih hrest)

/-- Where a task stands before an operation, it stands after its answer when it has one. -/
theorem Reaches.perform {t : Task α} {past later : List Act} {op : Op}
    {next : op.Answer → Task α} (h : t.Reaches past later (.step op next)) {answer : op.Answer}
    (hadmits : op.Admits answer) :
    t.Reaches past (.did op answer :: (op.prelude ++ later)) (next answer) := by
  generalize hrest : Task.step op next = rest at h
  induction h with
  | here t past =>
      subst hrest
      exact .step answer hadmits (.here _ _)
  | step answer' hadmits' hreaches ih => exact .step answer' hadmits' (ih hrest)

theorem Reaches.suffix {t rest : Task α} {past later : List Act}
    (h : t.Reaches past later rest) : past <:+ later := by
  induction h with
  | here t past => exact List.suffix_refl past
  | @step op next past later rest answer hadmits hrest ih =>
      have hstep : past <:+ .did op answer :: (op.prelude ++ past) :=
        (List.suffix_append op.prelude past).trans (List.suffix_cons _ _)
      exact hstep.trans ih

/-- What a task ensures, what remains of it ensures. -/
theorem Ensures.of_reaches {t rest : Task α} {past later : List Act}
    {wanted : List Act → α → Prop} (hreaches : t.Reaches past later rest)
    (h : t.Ensures allowed past wanted) : rest.Ensures allowed later wanted := by
  induction hreaches with
  | here t past => exact h
  | step answer hadmits hrest ih => exact ih (h.2 answer hadmits)

/-- What a task did that keeps to a discipline, was allowed by it. -/
theorem Reaches.heeded {t rest : Task α} {past later : List Act} {wanted : List Act → α → Prop}
    (hreaches : t.Reaches past later rest) (h : t.Ensures allowed past wanted)
    (hpast : Heeded allowed past) : Heeded allowed later := by
  induction hreaches with
  | here t past => exact hpast
  | step answer hadmits hrest ih => exact ih (h.2 answer hadmits) (hpast.did h.1 hadmits)

/-- What a task did that keeps to a discipline, and ended, was allowed by it. -/
theorem Leads.heeded {t : Task α} {past later : List Act} {a : α} (hleads : t.Leads past later a)
    (h : t.Heeds allowed) (hpast : Heeded allowed past) : Heeded allowed later :=
  (leads_iff_reaches.1 hleads).heeded (h past) hpast

/-- Of two tasks, one after the other, either the first is still going on, or the second is. -/
theorem Reaches.of_bind {t : Task α} {f : α → Task β} {past later : List Act} {rest : Task β}
    (h : (t >>= f).Reaches past later rest) :
    (∃ first, t.Reaches past later first ∧ rest = first >>= f) ∨
      ∃ between a, t.Leads past between a ∧ (f a).Reaches between later rest := by
  change (t.bind f).Reaches past later rest at h
  induction t generalizing past with
  | done a => exact .inr ⟨past, a, .done past a, h⟩
  | step op next ih =>
      cases h with
      | here => exact .inl ⟨.step op next, .here _ _, rfl⟩
      | step answer hadmits hrest =>
          rcases ih answer hrest with ⟨first, hfirst, rfl⟩ | ⟨between, a, hleads, hsecond⟩
          · exact .inl ⟨first, .step answer hadmits hfirst, rfl⟩
          · exact .inr ⟨between, a, .step answer hadmits hleads, hsecond⟩

/-- The next operation of two tasks, one after the other, is that of the first or of the second. -/
theorem Reaches.step_of_bind {t : Task α} {f : α → Task β} {past later : List Act} {op : Op}
    {next : op.Answer → Task β} (h : (t >>= f).Reaches past later (.step op next)) :
    (∃ first, t.Reaches past later (.step op first) ∧ next = fun answer => first answer >>= f) ∨
      ∃ between a, t.Leads past between a ∧ (f a).Reaches between later (.step op next) := by
  rcases h.of_bind with ⟨first, hfirst, hrest⟩ | hsecond
  · cases first with
    | done a =>
        have hdone : .step op next = f a := hrest
        refine .inr ⟨later, a, leads_iff_reaches.2 hfirst, ?_⟩
        rw [hdone]
        exact .here _ _
    | step op' next' =>
        have hstep : .step op next = Task.step op' fun answer => next' answer >>= f := hrest
        obtain ⟨rfl, hnext⟩ := Task.step.inj hstep
        exact .inl ⟨next', hfirst, eq_of_heq hnext⟩
  · exact .inr hsecond

/-- A task that keeps to a discipline is allowed the operation before which it stands. -/
theorem Heeds.allowed_of_reaches {t : Task α} {past later : List Act} {op : Op}
    {next : op.Answer → Task α} (h : t.Heeds allowed)
    (hreaches : t.Reaches past later (.step op next)) : allowed later op :=
  ((h past).of_reaches hreaches).1

theorem reaches_pure_iff {a : α} {past later : List Act} {rest : Task α} :
    (pure a : Task α).Reaches past later rest ↔ later = past ∧ rest = pure a := by
  constructor
  · intro h
    cases h
    exact ⟨rfl, rfl⟩
  · rintro ⟨rfl, rfl⟩
    exact .here _ later

end Task

/-! ## Tasks that only read the configuration -/

/-- As long as it finds only configurations with the property `p`, the task does nothing but read
the configuration, and ends with `a`. -/
inductive Task.OnlyReads {α : Type} (p : RunnerConfig → Prop) (a : α) : Task α → Prop
  | done : OnlyReads p a (.done a)
  | reads {next : RunnerConfig → Task α} (hnext : ∀ c, p c → OnlyReads p a (next c)) :
      OnlyReads p a (.step .config next)

namespace Task

variable {α β : Type} {p : RunnerConfig → Prop} {a : α} {b : β} {t : Task α}

theorem OnlyReads.mono {q : RunnerConfig → Prop} (h : t.OnlyReads p a) (hq : ∀ c, q c → p c) :
    t.OnlyReads q a := by
  induction h with
  | done => exact .done
  | reads hnext ih => exact .reads fun c hc => ih c (hq c hc)

theorem OnlyReads.bind {f : α → Task β} (h : t.OnlyReads p a) (hf : (f a).OnlyReads p b) :
    (t >>= f).OnlyReads p b := by
  change (t.bind f).OnlyReads p b
  induction h with
  | done => exact hf
  | reads hnext ih => exact .reads ih

/-- Such a task leaves everything as it is, and calls nobody. -/
theorem OnlyReads.run {σ : Type} (h : t.OnlyReads p a) (rules : Rules) (net : Network σ) {s : State}
    (hs : p s.config) (n : σ) : t.run rules net s n = (a, s, n) := by
  induction h with
  | done => rfl
  | reads hnext ih => exact ih s.config hs

/-- What such a task did was to read the configuration, and it does nothing else after that. -/
theorem OnlyReads.of_reaches {past later : List Act} {rest : Task α} (h : t.OnlyReads p a)
    (hreaches : t.Reaches past later rest) (hlater : ∀ c, .did .config c ∈ later → p c)
    (hpast : ∀ act ∈ past, ∃ c, act = .did .config c) :
    (∀ act ∈ later, ∃ c, act = .did .config c) ∧ rest.OnlyReads p a := by
  induction hreaches with
  | here rest past => exact ⟨hpast, h⟩
  | @step op next past later rest answer hadmits hrest ih =>
      cases h with
      | reads hnext =>
          have hmem : Act.did .config answer ∈ later := hrest.suffix.mem List.mem_cons_self
          refine ih (hnext answer (hlater answer hmem)) hlater fun act hact => ?_
          rcases List.mem_cons.1 hact with rfl | hact
          · exact ⟨answer, rfl⟩
          · exact hpast act hact

end Task

namespace Attempt

variable {α β : Type} {p : RunnerConfig → Prop} {e : GatewayError}

/-- The next operation of two attempts, one after the other, is that of the first, or that of the
second if the first does not fail. -/
theorem reaches_step_of_bind {x : Attempt α} {f : α → Attempt β} {past later : List Act} {op : Op}
    {next : op.Answer → Task (Except GatewayError β)}
    (h : (x >>= f).run.Reaches past later (.step op next)) :
    (∃ first, x.run.Reaches past later (.step op first)) ∨
      ∃ between a, x.run.Leads past between (.ok a) ∧
        (f a).run.Reaches between later (.step op next) := by
  rcases Task.Reaches.step_of_bind h with ⟨first, hfirst, -⟩ | ⟨between, result, hleads, hsecond⟩
  · exact .inl ⟨first, hfirst⟩
  · cases result with
    | ok a => exact .inr ⟨between, a, hleads, hsecond⟩
    | error e => exact nomatch (Task.reaches_pure_iff.1 hsecond).2

/-- After an error an attempt goes no further. -/
theorem onlyReads_bind_of_error {x : Attempt α} {f : α → Attempt β}
    (h : x.run.OnlyReads p (.error e)) : (x >>= f).run.OnlyReads p (.error e) :=
  Task.OnlyReads.bind h .done

end Attempt

/-! ## Threads -/

/-- The thread stands where its past leads from the task of its job. -/
def Thread.Follows (rules : Rules) (past : List Act) : Thread → Prop
  | ⟨job, .going rest⟩ => (job.task rules).Reaches [] past rest
  | ⟨job, .waiting calls next⟩ =>
    ∃ before, past = .sent calls :: before ∧
      (job.task rules).Reaches [] before (.step (.exchange calls) next)

namespace System

variable {rules : Rules} {s : System}

/-- Every thread stands where its past leads. -/
def Follows (rules : Rules) (s : System) : Prop :=
  s.EachThread fun thread past => thread.Follows rules past

theorem Follows.steps {s' : System} (h : s.Follows rules) (hstep : s.Steps rules s') :
    s'.Follows rules := by
  cases hstep with
  | stays => exact h
  | begins job => exact EachThread.begin h _ (.here _ _)
  | @sends i job calls next hthread =>
      have hwaits : Thread.Follows rules (.sent calls :: s.log.past i) ⟨job, .waiting calls next⟩ :=
        ⟨_, rfl, h.threads i _ hthread⟩
      exact EachThread.advance h hthread hwaits _
  | @performs i job op next hthread hne =>
      have hreaches : (job.task rules).Reaches [] (s.log.past i) (.step op next) :=
        h.threads i _ hthread
      refine EachThread.advance h hthread ?_ _
      cases op with
      | exchange calls => exact (hne calls rfl).elim
      | _ => exact hreaches.perform trivial
  | @hears i job calls next outcomes hthread hlen =>
      obtain ⟨before, hpast, hreaches⟩ := h.threads i _ hthread
      refine EachThread.advance h hthread ?_ _
      rw [hpast]
      exact hreaches.perform hlen
  | passes ms => exact ⟨h.threads, h.begun⟩
  | closes => exact ⟨h.threads, h.begun⟩

theorem Follows.run (h : s.Follows rules) (events : List Event) :
    (s.run rules events).Follows rules :=
  run_induction (p := Follows rules) h (fun _ _ hfollows hstep => hfollows.steps hstep) events

/-- In every interleaving every thread stands where its past leads. -/
theorem follows_run (rules : Rules) (seed : RunnerConfig) (store : Option Store)
    (events : List Event) : ((System.start seed store).run rules events).Follows rules :=
  Follows.run (EachThread.start _ seed store) events

/-- What one job keeps to, its threads kept to. -/
theorem Follows.heeded {allowed : Discipline} (h : s.Follows rules) {i : Nat} {thread : Thread}
    (hthread : s.threads[i]? = some thread) (hjob : (thread.job.task rules).Heeds allowed) :
    Heeded allowed (s.log.past i) := by
  have hfollows := h.threads i thread hthread
  obtain ⟨job, progress⟩ := thread
  cases progress with
  | going rest => exact Task.Reaches.heeded hfollows (hjob []) trivial
  | waiting calls next =>
      obtain ⟨before, hpast, hreaches⟩ := hfollows
      rw [hpast]
      exact ⟨hjob.allowed_of_reaches hreaches, hreaches.heeded (hjob []) trivial⟩

end System

/-! ## Single calls -/

/-- The request of a thread that waits for one backend, and the call. -/
def Thread.sole? : Thread → Option (Request × Call)
  | ⟨.respond r, .waiting [call] _⟩ => some (r, call)
  | _ => none

theorem exists_of_sole? {thread : Thread} {r : Request} {call : Call}
    (h : thread.sole? = some (r, call)) :
    ∃ next : List Outcome → Task Response, thread = ⟨.respond r, .waiting [call] next⟩ := by
  unfold Thread.sole? at h
  split at h
  · rename_i next
    obtain ⟨rfl, rfl⟩ := Prod.mk.inj (Option.some.inj h)
    exact ⟨next, rfl⟩
  · exact nomatch h

/-- Who waits for replies has sent the calls. -/
theorem System.Follows.sent_of_waiting {rules : Rules} {s : System} (h : s.Follows rules) {i : Nat}
    {job : Job} {calls : List Call} {next : List Outcome → Task job.Result}
    (hthread : s.threads[i]? = some ⟨job, .waiting calls next⟩) : .sent calls ∈ s.log.past i := by
  obtain ⟨before, hpast, -⟩ := h.threads i _ hthread
  rw [hpast]
  exact List.mem_cons_self

/-- The request that a thread answers, and the one that the backend got whose reply it waits for. -/
def System.awaited? (s : System) (i : Nat) : Option (Request × WireRequest) :=
  ((s.threads[i]?).bind Thread.sole?).bind fun found =>
    found.2.request?.map fun w => (found.1, w)

theorem System.Follows.exists_of_awaited? {rules : Rules} {s : System} (h : s.Follows rules)
    {i : Nat} {r : Request} {w : WireRequest} (hawaited : s.awaited? i = some (r, w)) :
    ∃ thread call, s.threads[i]? = some thread ∧ thread.job = .respond r ∧
      .sent [call] ∈ s.log.past i ∧ call.request? = some w := by
  obtain ⟨⟨r', call⟩, hfound, hrequest⟩ := Option.bind_eq_some_iff.1 hawaited
  obtain ⟨w', hw, hsame⟩ := Option.map_eq_some_iff.1 hrequest
  obtain ⟨rfl, rfl⟩ := Prod.mk.inj hsame
  obtain ⟨thread, hthread, hsole⟩ := Option.bind_eq_some_iff.1 hfound
  obtain ⟨next, rfl⟩ := exists_of_sole? hsole
  exact ⟨_, call, hthread, rfl, h.sent_of_waiting hthread, hw⟩

end Gateway
end RunnerGateway
