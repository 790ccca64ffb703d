import RunnerGateway.Proofs.Selection

/-!
# Choices and the updates that overtake them

A request for a model first takes a list of models, and later reads the configuration in which the
positions of the list are backends.  A `Taking` is how the list was fetched and taken.  An update
that comes to its end while backends are asked makes the list be fetched again, so the list and the
backend can belong to different configurations in three ways only: the configuration was written
after the list had been taken, or before, but whoever wrote it had not thrown the catalogue away
yet, or the request made the list itself and was disturbed in each of its three rounds.
-/

namespace RunnerGateway
namespace Gateway

open Exchange Http

/-! ## Quiet logs -/

namespace Log

variable {log : Log} {i : Nat} {start : List Act}

/-- Nothing was written since thread `i` had done what it did at `start`, and nothing was owed
then. -/
def QuietSince (i : Nat) (start : List Act) (log : Log) : Prop :=
  ∃ recent before, log = recent ++ before ∧ past i before = start ∧ owing before = [] ∧
    ∀ entry ∈ recent, entry.2.isWrite = false

theorem QuietSince.owing_eq_nil (h : QuietSince i start log) : owing log = [] := by
  obtain ⟨recent, before, rfl, -, howing, hwrites⟩ := h
  exact owing_append_of_no_write howing hwrites

/-- The quiet began before the first act of the thread since `start`. -/
theorem QuietSince.of_append {later earlier : Log} {act : Act}
    (h : QuietSince i start (later ++ (i, act) :: earlier))
    (hsuffix : start <:+ past i earlier) :
    QuietSince i start earlier ∧ ∀ entry ∈ later, entry.2.isWrite = false := by
  obtain ⟨recent, before, hlog, hpast, howing, hwrites⟩ := h
  have hsplit : (later ++ [(i, act)]) ++ earlier = recent ++ before := by simpa using hlog
  rcases List.append_eq_append_iff.1 hsplit with
    ⟨between, hrecent, hearlier⟩ | ⟨between, hlater, hbefore⟩
  · refine ⟨⟨between, before, hearlier, hpast, howing, ?_⟩, ?_⟩
    · intro entry hentry
      exact hwrites entry (by simp [hrecent, hentry])
    · intro entry hentry
      exact hwrites entry (by simp [hrecent, hentry])
  · rcases List.eq_nil_or_concat' between with rfl | ⟨init, last, rfl⟩
    · obtain rfl : before = earlier := hbefore
      have hrecent : recent = later ++ [(i, act)] := by simpa using hlater.symm
      refine ⟨⟨[], before, rfl, hpast, howing, by simp⟩, ?_⟩
      intro entry hentry
      exact hwrites entry (by simp [hrecent, hentry])
    · -- Then the thread had already acted since `start`.
      obtain ⟨-, hlast⟩ := List.append_inj' (hlater.trans (List.append_assoc _ _ _).symm) rfl
      obtain rfl := List.singleton_inj.1 hlast
      have hlen := hsuffix.length_le
      rw [← hpast, hbefore, past_append, past_append, past_cons_self, past_nil] at hlen
      simp only [List.length_append, List.length_cons, List.length_nil] at hlen
      omega

end Log

/-! ## How a list is taken -/

/-- With the act a thread that looks for `model` took the list: it found an entry of the list in the
map, it was given the list as the kept one, or it had made the list itself and tried to keep it. -/
inductive Act.Takes (model : String) (models : List ModelEntry) : Act → Prop
  | routed {e : ModelEntry} (hmem : e ∈ models) (hmodel : e.model = model) :
      Takes model models (.did (.routed model) (some e))
  | listed : Takes model models (.did .cached (some models))
  | made (g : Nat) (kept : Bool) : Takes model models (.did (.publish g models) kept)

/-- How a thread came by a list of models, with what all threads did since it was fetched. -/
structure Taking where
  /-- What was done since the list was taken. -/
  since : Log
  act : Act
  /-- What was done before, since the configuration was read that the list was fetched under. -/
  middle : Log
  fetcher : Nat
  config : RunnerConfig
  tags : Nat → Outcome
  loaded : Nat → Outcome
  before : Log

namespace Taking

variable {i : Nat} {model : String} {start : List Act} {t : Taking}

/-- The list that was fetched. -/
def models (t : Taking) : List ModelEntry :=
  fetched t.config t.tags t.loaded

/-- The log before the list was taken. -/
def former (t : Taking) : Log :=
  t.middle ++ (t.fetcher, .did .config t.config) :: t.before

/-- The log with the act by which thread `i` took the list. -/
def taken (i : Nat) (t : Taking) : Log :=
  (i, t.act) :: t.former

/-- The log with all that was done since. -/
def log (i : Nat) (t : Taking) : Log :=
  t.since ++ t.taken i

/-- Thread `i` took the list, which was fetched by itself or by another thread, and has done nothing
since. -/
structure Of (i : Nat) (model : String) (t : Taking) : Prop where
  since : t.since.past i = []
  act : t.act.Takes model t.models
  fetching : ((fetching t.config t.tags t.loaded).map fun act => (t.fetcher, act)).Sublist
    (t.middle ++ [(t.fetcher, .did .config t.config)])

/-- Whoever wrote the configuration since the list was fetched had not thrown the catalogue away
since, when the list was taken. -/
def Settled (t : Taking) : Prop :=
  ∀ entry ∈ t.middle, entry.2.isWrite = true → entry.1 ∈ t.former.owing

/-- Thread `i`, which had done what `start` tells, did not find the model and made the list itself.
All three rounds of its refresh were disturbed, and the list is the one of the third. -/
def Thrice (i : Nat) (model : String) (start : List Act) (t : Taking) : Prop :=
  ∃ base first second third asked,
    Log.past i base = .did .cached none :: .did (.routed model) none :: start ∧
    t.taken i = Log.afterRounds i base [first, second, third] ∧
    third.during = t.middle ++ (i, .did .config t.config) :: asked ∧
    ∀ r ∈ [first, second, third], r.Of i ∧ r.isDisturbed = true

/-- A kept list is settled. -/
theorem exists_of_kept {seed : RunnerConfig} {since former : Log} {act : Act}
    {models : List ModelEntry} (hheeds : former.Heeds Sourced) (htrue : former.Truthful seed)
    (hkept : former.kept = some models) (hsince : since.past i = [])
    (hact : act.Takes model models) :
    ∃ t : Taking, since ++ (i, act) :: former = t.log i ∧ t.Of i model ∧ t.models = models ∧
      t.former = former ∧ t.Settled := by
  obtain ⟨j, c, tags, loaded, middle, before, rfl, rfl, hinv, hsublist⟩ :=
    Log.exists_fetching_of_kept hheeds htrue hkept
  refine ⟨⟨since, act, middle, j, c, tags, loaded, before⟩, rfl, ⟨hsince, hact, hsublist⟩, rfl, rfl,
    fun entry hentry hwrite => ?_⟩
  exact Log.mem_owing_of_isWrite hinv hentry hwrite

/-- A list that a thread made itself is settled if the last round was not disturbed, and otherwise
all three rounds were disturbed. -/
theorem exists_of_refresh {seed : RunnerConfig} {log base : Log} {models : List ModelEntry}
    (htrue : log.Truthful seed) (hbase : base <:+ log)
    (hpast : base.past i = .did .cached none :: .did (.routed model) none :: start)
    (hleads : refresh.Leads (base.past i) (log.past i) models) :
    ∃ t : Taking, log = t.log i ∧ t.Of i model ∧ t.models = models ∧ t.fetcher = i ∧
      base <:+ t.before ∧ (t.Settled ∨ t.Thrice i model start) := by
  obtain ⟨trials, trial, hwhole, rfl, hkept, hlen, hlast⟩ := exists_trials_of_leads hleads
  have hall : log.past i = [] ++ Trial.pastAfter (base.past i) (trials ++ [trial]) := hwhole
  obtain ⟨rounds, since, hrounds, hof, rfl, hsince⟩ := Log.exists_rounds htrue hbase hall
  obtain ⟨rounds, lasts, rfl, rfl, hlasts⟩ := List.map_eq_append_iff.1 hrounds
  obtain ⟨last, rfl, rfl⟩ := List.map_eq_singleton_iff.1 hlasts
  have hofLast : last.Of i := hof last (List.mem_append_right _ (List.mem_singleton_self _))
  obtain ⟨middle, asked, hduring, hsublist⟩ :=
    Log.exists_config_of_past_eq_fetching hofLast.fetching
  let t : Taking := ⟨since, .did (.publish last.generation last.models) last.kept, middle, i,
    last.config, last.tags, last.loaded, asked ++ (i, .did .generation last.generation) ::
      (last.idle ++ Log.afterRounds i base rounds)⟩
  have htaken : t.taken i = Log.afterRounds i base (rounds ++ [last]) := by
    rw [Log.afterRounds_concat, Round.log, hduring]
    simp [t, taken, former]
  refine ⟨t, congrArg (since ++ ·) htaken.symm, ⟨hsince, .made _ _, hsublist⟩, rfl, rfl, ?_, ?_⟩
  · have hafter : base <:+ last.idle ++ Log.afterRounds i base rounds :=
      (Log.suffix_afterRounds i base rounds).trans (List.suffix_append _ _)
    exact hafter.trans ((List.suffix_cons _ _).trans (List.suffix_append _ _))
  · cases hdisturbed : last.isDisturbed with
    | false =>
        refine .inl fun entry hentry hwrite => Log.mem_owing_of_isWrite ?_ hentry hwrite
        have hduringQuiet := List.any_eq_false.1 hdisturbed
        rw [hduring] at hduringQuiet
        intro entry hentry
        simpa using hduringQuiet entry (List.mem_append_left _ hentry)
    | true =>
        have hlost : last.kept = false := by rw [hofLast.kept, hdisturbed]; rfl
        have htwo : rounds.length = 2 := by rw [← hlast hlost, List.length_map]
        obtain ⟨first, second, rfl⟩ := List.length_eq_two.1 htwo
        refine .inr ⟨base, first, second, last, asked, hpast, htaken, hduring, fun r hr => ?_⟩
        have hmem : r ∈ [first, second] ++ [last] := hr
        refine ⟨hof r hmem, ?_⟩
        rcases List.mem_append.1 hmem with hr | hr
        · exact (hof _ (List.mem_append_left _ hr)).isDisturbed
            (hkept _ (List.mem_map_of_mem hr))
        · obtain rfl := List.mem_singleton.1 hr
          exact hdisturbed

/-- If it is quiet since the thread began, nothing was written since a settled list was fetched. -/
theorem Settled.no_write (h : t.Settled) (hstart : start <:+ Log.past i t.former)
    (hquiet : (t.log i).QuietSince i start) :
    ∀ entry ∈ t.since ++ t.middle, entry.2.isWrite = false := by
  obtain ⟨hformer, hsince⟩ := hquiet.of_append hstart
  intro entry hentry
  rcases List.mem_append.1 hentry with hentry | hentry
  · exact hsince entry hentry
  · by_contra hwrite
    have howing := h entry hentry (by simpa using hwrite)
    rw [hformer.owing_eq_nil] at howing
    exact absurd howing List.not_mem_nil

/-- If it is quiet since the thread began, nothing was written since it fetched a list itself. -/
theorem no_write_of_fetcher (hfetcher : t.fetcher = i) (hstart : start <:+ Log.past i t.before)
    (hquiet : (t.log i).QuietSince i start) :
    ∀ entry ∈ t.since ++ t.middle, entry.2.isWrite = false := by
  subst hfetcher
  have hlog : t.log t.fetcher = (t.since ++ (t.fetcher, t.act) :: t.middle) ++
      (t.fetcher, .did .config t.config) :: t.before := by
    simp [Taking.log, taken, former]
  rw [hlog] at hquiet
  intro entry hentry
  refine (hquiet.of_append hstart).2 entry ?_
  rcases List.mem_append.1 hentry with hentry | hentry
  · exact List.mem_append_left _ hentry
  · exact List.mem_append_right _ (List.mem_cons_of_mem _ hentry)

end Taking

namespace Log

variable {seed : RunnerConfig} {log : Log} {i : Nat} {model : String} {start : List Act}

/-- The entry that a lookup came to is one of a list that was taken.  The list is settled, or it was
made in three rounds that were all disturbed. -/
theorem exists_taking {e : ModelEntry} (hheeds : log.Heeds Sourced) (htrue : log.Truthful seed)
    (hleads : (lookup model).Leads start (log.past i) (some e)) :
    ∃ t : Taking, log = t.log i ∧ t.Of i model ∧ (e ∈ t.models ∧ e.model = model) ∧
      start <:+ past i t.former ∧ (t.Settled ∨ t.Thrice i model start) ∧
      (log.QuietSince i start → ∀ entry ∈ t.since ++ t.middle, entry.2.isWrite = false) := by
  rcases lookup_leads_cases hleads with ⟨found, he, hpast⟩ | ⟨models, he, hpast⟩ |
    ⟨models, he, hrefresh⟩
  · obtain rfl := Option.some.inj he
    obtain ⟨since, former, rfl, hsince, hstart⟩ := exists_of_past_eq_cons hpast
    obtain ⟨models, hkept, hmem, hmodel⟩ := exists_kept_of_routed (htrue.act (i := i)).symm
    obtain ⟨t, hlog, hof, rfl, rfl, hsettled⟩ := Taking.exists_of_kept hheeds.of_append.2
      htrue.of_append.2 hkept hsince (.routed hmem hmodel)
    have hsuffix : start <:+ past i t.former := by rw [hstart]
    exact ⟨t, hlog, hof, ⟨hmem, hmodel⟩, hsuffix, .inl hsettled,
      fun hquiet => hsettled.no_write hsuffix (hlog ▸ hquiet)⟩
  · obtain ⟨hmem, hmodel⟩ := find?_models he.symm
    obtain ⟨since, former, rfl, hsince, hstart⟩ := exists_of_past_eq_cons hpast
    have hkept : kept former = some models := htrue.act (i := i)
    obtain ⟨t, hlog, hof, rfl, rfl, hsettled⟩ := Taking.exists_of_kept hheeds.of_append.2
      htrue.of_append.2 hkept hsince .listed
    have hsuffix : start <:+ past i t.former := hstart ▸ List.suffix_cons _ _
    exact ⟨t, hlog, hof, ⟨hmem, hmodel⟩, hsuffix, .inl hsettled,
      fun hquiet => hsettled.no_write hsuffix (hlog ▸ hquiet)⟩
  · obtain ⟨hmem, hmodel⟩ := find?_models he.symm
    obtain ⟨recent, hrecent⟩ := hrefresh.suffix
    obtain ⟨later, base, rfl, -, hbase⟩ := exists_of_past_eq_append hrecent.symm
    rw [← hbase] at hrefresh
    obtain ⟨t, hlog, hof, rfl, hfetcher, ⟨more, hmore⟩, hcases⟩ :=
      Taking.exists_of_refresh htrue (List.suffix_append later base) hbase hrefresh
    have hstart : start <:+ past i base := by
      rw [hbase]
      exact (List.suffix_cons _ _).trans (List.suffix_cons _ _)
    have hbefore : start <:+ past i t.before := by
      rw [← hmore, past_append]
      exact hstart.trans (List.suffix_append _ _)
    have hsuffix : start <:+ past i t.former := by
      rw [Taking.former, past_append, hfetcher, past_cons_self]
      exact hbefore.trans ((List.suffix_cons _ _).trans (List.suffix_append _ _))
    exact ⟨t, hlog, hof, ⟨hmem, hmodel⟩, hsuffix, hcases,
      fun hquiet => Taking.no_write_of_fetcher hfetcher hbefore (hlog ▸ hquiet)⟩

end Log

/-! ## Updates while backends are asked -/

/-- Calls were sent. -/
def Act.isSent : Act → Bool
  | .sent _ => true
  | _ => false

theorem Act.Takes.isWrite {models : List ModelEntry} {model : String} {act : Act}
    (h : act.Takes model models) : act.isWrite = false := by
  cases h <;> rfl

theorem Act.Takes.isSent {models : List ModelEntry} {model : String} {act : Act}
    (h : act.Takes model models) : act.isSent = false := by
  cases h <;> rfl

namespace Log

variable {i n : Nat} {later earlier : Log}

/-- Since thread `i` had done `n` things, updates came to their end while it waited for answers:
configurations were written at no other time, and nothing was owed whenever the thread did
something. -/
def InFlight (i n : Nat) : Log → Prop
  | [] => True
  | (j, act) :: log =>
    (act.isWrite = true → n < (past i log).length → (past i log).head?.any Act.isSent = true) ∧
      (j = i → n ≤ (past i log).length → owing log = []) ∧ InFlight i n log

instance decidableInFlight (i n : Nat) : (log : Log) → Decidable (InFlight i n log)
  | [] => isTrue trivial
  | (_, _) :: log => @instDecidableAnd _ _ _ (@instDecidableAnd _ _ _ (decidableInFlight i n log))

theorem InFlight.of_append (h : InFlight i n (later ++ earlier)) : InFlight i n earlier := by
  induction later with
  | nil => exact h
  | cons entry later ih => exact ih h.2.2

end Log

namespace Taking

variable {i : Nat} {model : String} {start : List Act} {t : Taking}

theorem Of.not_isWrite_since (h : t.Of i model) (hstart : start <:+ Log.past i t.former)
    (hflight : (t.log i).InFlight i start.length) :
    ∀ entry ∈ t.since, entry.2.isWrite = false := by
  intro entry hentry
  obtain ⟨later, recent, hsince⟩ := List.append_of_mem hentry
  have hrecent : Log.past i recent = [] := by
    have hidle := h.since
    rw [hsince, Log.past_append] at hidle
    have hcons : Log.past i ([entry] ++ recent) = [] := (List.append_eq_nil_iff.1 hidle).2
    rw [Log.past_append] at hcons
    exact (List.append_eq_nil_iff.1 hcons).2
  have hpast : Log.past i (recent ++ t.taken i) = t.act :: Log.past i t.former := by
    rw [Log.past_append, hrecent, taken, Log.past_cons_self, List.nil_append]
  rw [Taking.log, hsince, List.append_assoc, List.cons_append] at hflight
  obtain ⟨hwaits, -, -⟩ := hflight.of_append
  by_contra hwrite
  -- The last act of the thread was to take the list, not to send calls.
  have hsent := hwaits (by simpa using hwrite) (by
    rw [hpast, List.length_cons]
    exact Nat.lt_succ_of_le hstart.length_le)
  rw [hpast, List.head?_cons, Option.any_some, h.act.isSent] at hsent
  exact Bool.false_ne_true hsent

/-- Updates that come to their end while the thread waits for answers are in what it settles on. -/
theorem Settled.no_write_of_inFlight (h : t.Settled) (hof : t.Of i model)
    (hstart : start <:+ Log.past i t.former) (hflight : (t.log i).InFlight i start.length) :
    ∀ entry ∈ t.since ++ t.middle, entry.2.isWrite = false := by
  intro entry hentry
  rcases List.mem_append.1 hentry with hentry | hentry
  · exact hof.not_isWrite_since hstart hflight entry hentry
  · have howing : t.former.owing = [] := hflight.of_append.2.1 rfl hstart.length_le
    by_contra hwrite
    have howes := h entry hentry (by simpa using hwrite)
    rw [howing] at howes
    exact absurd howes List.not_mem_nil

/-- In three disturbed rounds the catalogue was thrown away three times. -/
theorem Thrice.three_le_generation (h : t.Thrice i model start) :
    3 ≤ (t.log i).generation := by
  obtain ⟨base, first, second, third, -, -, htaken, -, hrounds⟩ := h
  have hround (r : Round) (hr : r ∈ [first, second, third]) : 1 ≤ (r.log i).generation := by
    have hdisturbed : r.during.generation ≠ 0 := fun hzero =>
      Bool.false_ne_true ((Log.generation_eq_zero_iff.1 hzero).symm.trans (hrounds r hr).2)
    have hlog : r.log i = [(i, .did (.publish r.generation r.models) r.kept)] ++
        (r.during ++ (i, .did .generation r.generation) :: r.idle) := rfl
    rw [hlog, Log.generation_append, Log.generation_append]
    omega
  have hlog : t.log i = t.since ++
      (third.log i ++ (second.log i ++ (first.log i ++ base))) :=
    congrArg (t.since ++ ·) htaken
  have hfirst := hround first (by simp)
  have hsecond := hround second (by simp)
  have hthird := hround third (by simp)
  rw [hlog]
  simp only [Log.generation_append]
  omega

end Taking

/-! ## The chosen backend -/

/-- Who has chosen a backend has looked the model up, and has then read the configuration in which
the backend stands at a position of the entry. -/
theorem Choice.exists_lookup_of_leads {way : Choice} {model : String} {start past : List Act}
    {b : Backend} (h : (way.choose model).run.Leads start past (.ok b)) :
    ∃ rest c between e, past = rest ++ .did .config c :: between ∧
      (lookup model).Leads start between (some e) ∧ b ∈ serving c e := by
  rw [run_choose] at h
  obtain ⟨between, found, hlookup, hrest⟩ := Task.leads_bind_iff.1 h
  cases found with
  | none => cases (Task.leads_pure_iff.1 hrest).2
  | some e =>
      obtain ⟨reading, c, hread, hpick⟩ := Task.leads_bind_iff.1 hrest
      obtain ⟨-, rfl⟩ := Task.leads_perform_iff.1 hread
      obtain ⟨rest, rfl⟩ := hpick.suffix
      cases picks_of_leads hpick with
      | somebody hmem hfirst => exact ⟨rest, c, between, e, rfl, hlookup, hmem⟩

/-- A backend at whose position a list serves the model under its own configuration has offered the
model. -/
theorem Taking.exists_offers {t : Taking} {model : String} {b : Backend}
    (hserves : ModelList.Serves t.models model b.idx) (hb : t.config.backend? b.idx = some b) :
    ∃ own, Offers b (t.tags b.idx) own ∧ b.qualify own = model := by
  have hc : t.config.enabled = true := by
    by_contra hdisabled
    obtain ⟨e, he, -⟩ := hserves
    simp [models, fetched, hdisabled] at he
  obtain ⟨b', own, hb', hoffers, hqualify⟩ := (serves_fetched_iff hc).1 hserves
  obtain rfl : b = b' := Option.some.inj (hb.symm.trans hb')
  exact ⟨own, hoffers, hqualify⟩

/-- Whenever a thread has chosen a backend for a model, by turns or as the first one, it had taken a
list of models that it or another thread had fetched, and the backend stands enabled at one of the
positions of the model in the configuration that the thread read afterwards.

If that is the configuration that the list was fetched under, the backend itself told the model.  It
is, if nothing was written in between.  It is not only if the configuration was written after the
list had been taken, or before, but whoever wrote it still owed throwing the catalogue away when the
list was taken, or all three rounds were disturbed in which the thread made the list itself.

So an update that comes to its end while the thread waits for the answers of backends does no harm,
unless there is one in each of three rounds; and if nothing is owed when the thread begins to choose
and nothing is written until it has chosen, then nothing was written in between. -/
theorem chosen_backend_is_listed (rules : Rules) (seed : RunnerConfig) (store : Option Store)
    (events : List Event) (i : Nat) (model : String) (start : List Act) (b : Backend)
    (h : let past := ((System.start seed store).run rules events).log.past i
      (select model).run.Leads start past (.ok b) ∨
        (firstServing model).run.Leads start past (.ok b)) :
    let log := ((System.start seed store).run rules events).log
    ∃ (t : Taking) (after : Log) (c : RunnerConfig),
      log = after ++ (i, .did .config c) :: t.log i ∧ t.Of i model ∧
      ModelList.Serves t.models model b.idx ∧ c.backend? b.idx = some b ∧ b.isEnabled = true ∧
      (t.config = c → ∃ own, Offers b (t.tags b.idx) own ∧ b.qualify own = model) ∧
      ((∀ entry ∈ t.since ++ t.middle, entry.2.isWrite = false) → t.config = c) ∧
      (t.config ≠ c → (∃ entry ∈ t.since, entry.2.isWrite = true) ∨
        (∃ entry ∈ t.middle, entry.2.isWrite = true ∧ entry.1 ∈ t.former.owing) ∨
        t.Thrice i model start) ∧
      ((t.log i).InFlight i start.length → t.config = c ∨ t.Thrice i model start) ∧
      (log.QuietSince i start → ∀ entry ∈ t.since ++ t.middle, entry.2.isWrite = false) := by
  intro log
  have hreachable := (System.reachable_start rules seed store).run events
  have hheeds : log.Heeds Sourced := hreachable.heeds.log
  have htrue : log.Truthful seed := hreachable.agrees.log
  obtain ⟨way, hleads⟩ : ∃ way : Choice, (way.choose model).run.Leads start (log.past i) (.ok b) :=
    h.elim (fun h => ⟨.inTurn, h⟩) fun h => ⟨.foremost, h⟩
  obtain ⟨rest, c, between, e, hpast, hlookup, hb⟩ := Choice.exists_lookup_of_leads hleads
  obtain ⟨hidx, hbackend, henabled⟩ := mem_serving_iff.1 hb
  obtain ⟨after, reading, hafter, -, hreading⟩ := Log.exists_of_past_eq_append hpast
  obtain ⟨idle, earlier, rfl, -, hbetween⟩ := Log.exists_of_past_eq_cons hreading
  have hlog : log = (after ++ idle) ++ (i, .did .config c) :: earlier := by simp [hafter]
  rw [hlog] at hheeds htrue
  have hread : c = Log.config seed earlier := htrue.act
  obtain ⟨t, rfl, hof, ⟨hmem, hmodel⟩, hstart, hcases, hquiet⟩ :=
    Log.exists_taking hheeds.of_append.2 htrue.of_append.2 (hbetween ▸ hlookup)
  have hserves : ModelList.Serves t.models model b.idx := ⟨e, hmem, hmodel, hidx⟩
  have hsame : (∀ entry ∈ t.since ++ t.middle, entry.2.isWrite = false) → t.config = c := by
    intro hwrites
    have hsplit : t.log i = (t.since ++ (i, t.act) :: t.middle) ++
        (t.fetcher, .did .config t.config) :: t.before := by
      simp [Taking.log, Taking.taken, Taking.former]
    have hfirst : t.config = Log.config seed t.before := (hsplit ▸ htrue.of_append.2).act
    have hall : ∀ entry ∈ t.since ++ (i, t.act) :: t.middle, entry.2.isWrite = false := by
      intro entry hentry
      rcases List.mem_append.1 hentry with hentry | hentry
      · exact hwrites entry (List.mem_append_left _ hentry)
      · rcases List.mem_cons.1 hentry with rfl | hentry
        · exact hof.act.isWrite
        · exact hwrites entry (List.mem_append_right _ hentry)
    rw [hread, hsplit, Log.config_append_of_no_write hall, Log.config_cons, ← hfirst]
    rfl
  refine ⟨t, after ++ idle, c, hlog, hof, hserves, hbackend, henabled, fun hc => ?_, hsame,
    fun hne => ?_, fun hflight => ?_, fun h => hquiet (Log.QuietSince.of_append (hlog ▸ h) ?_).1⟩
  · exact Taking.exists_offers hserves (hc ▸ hbackend)
  · rcases hcases with hsettled | hthrice
    · -- There was a write in between, and those of the middle are owed.
      obtain ⟨entry, hentry, hwrite⟩ : ∃ entry ∈ t.since ++ t.middle, entry.2.isWrite = true := by
        by_contra hnone
        exact hne (hsame (by simpa using hnone))
      rcases List.mem_append.1 hentry with hentry | hentry
      · exact .inl ⟨entry, hentry, hwrite⟩
      · exact .inr (.inl ⟨entry, hentry, hwrite, hsettled entry hentry hwrite⟩)
    · exact .inr (.inr hthrice)
  · exact hcases.imp (fun hsettled => hsame (hsettled.no_write_of_inFlight hof hstart hflight)) id
  · exact hbetween ▸ hlookup.suffix

/-! ## Choices at work -/

/-- The model and the backend of a job that has chosen one. -/
def chosen? : Thread → Option (String × Backend)
  | ⟨.select model, .going (.done (.ok b))⟩ => some (model, b)
  | _ => none

theorem leads_of_chosen {rules : Rules} {seed : RunnerConfig} {store : Option Store}
    {events : List Event} {i : Nat} {model : String} {b : Backend}
    (h : (((System.start seed store).run rules events).threads[i]?).bind chosen? =
      some (model, b)) :
    (select model).run.Leads [] (((System.start seed store).run rules events).log.past i)
      (.ok b) := by
  obtain ⟨thread, hthread, hchosen⟩ := Option.bind_eq_some_iff.1 h
  unfold chosen? at hchosen
  split at hchosen
  · obtain ⟨rfl, rfl⟩ := Prod.mk.inj (Option.some.inj hchosen)
    exact System.leads_of_done hthread
  · cases hchosen

/-- A gateway with one backend, after some events. -/
def afterEvents (events : List Event) : System :=
  (System.start { baseUrls := ["http://a"] } none).run {} events

theorem exists_chosen {events : List Event} {i : Nat} {url : String}
    (h : (((afterEvents events).threads[i]?).bind chosen?).map
      (fun found => (found.1, found.2.url)) = some ("z", url)) :
    ∃ b, (select "z").run.Leads [] ((afterEvents events).log.past i) (.ok b) ∧ b.url = url := by
  obtain ⟨⟨model, b⟩, hb, hfound⟩ := Option.map_eq_some_iff.1 h
  obtain ⟨rfl, hurl⟩ := Prod.mk.inj hfound
  exact ⟨b, leads_of_chosen hb, hurl⟩

/-- A round of thread 0 in which thread `j` answers a request while the first list is awaited. -/
def overtakenRound (j : Nat) (r : Request) : List Event :=
  [.moves 0, .moves 0, .moves 0, .begins (.respond r), .moves j, .moves j,
    .answered 0 [nestedAnswer 1], .moves 0, .answered 0 [.error .badValue], .moves 0]

/-- Another backend takes the place of the one that is asked, and is asked itself before it is
chosen. -/
def overtakenChoice : List Event :=
  [.begins (.select "z"), .moves 0, .moves 0] ++ overtakenRound 1 changingBackend ++
    [.moves 0, .moves 0, .moves 0, .answered 0 [nestedAnswer 1], .moves 0,
      .answered 0 [.error .badValue], .moves 0, .moves 0, .moves 0]

/-- The update comes to its end while the list is awaited, so that the chosen backend is the new
one, and it has told the model. -/
theorem chosen_backend_is_listed_overtaken :
    let log := (afterEvents overtakenChoice).log
    ∃ b answer own, (select "z").run.Leads [] (log.past 0) (.ok b) ∧
      (∃ entry ∈ log, entry.2.isWrite = true) ∧
      b.url = "http://b" ∧ Offers b answer own ∧ b.qualify own = "z" := by
  intro log
  obtain ⟨b, hleads, hurl⟩ : ∃ b, (select "z").run.Leads [] (log.past 0) (.ok b) ∧
      b.url = "http://b" := exists_chosen (by decide +kernel)
  have hwrites : (log.any fun entry => entry.2.isWrite) = true := by decide +kernel
  have honce : log.generation = 1 := by decide +kernel
  have hflight : log.InFlight 0 0 := by decide +kernel
  obtain ⟨t, after, c, hlog, -, -, -, -, hoffers, -, -, hsame, -⟩ :=
    chosen_backend_is_listed {} { baseUrls := ["http://a"] } none overtakenChoice 0 "z" [] b
      (.inl hleads)
  have hsplit : log = (after ++ [(0, .did .config c)]) ++ t.log 0 := by
    rw [List.append_assoc]
    exact hlog
  have hc : t.config = c := by
    refine (hsame (Log.InFlight.of_append (hsplit ▸ hflight))).resolve_right fun hthrice => ?_
    have hthree := hthrice.three_le_generation
    rw [hsplit, Log.generation_append] at honce
    omega
  obtain ⟨own, hoffer, hqualify⟩ := hoffers hc
  exact ⟨b, _, own, hleads, by simpa using hwrites, hurl, hoffer, hqualify⟩

/-- The URLs that were asked. -/
def Log.askedUrls (log : Log) : List String :=
  log.flatMap fun entry =>
    match entry.2 with
    | .sent calls => calls.map Call.url
    | _ => []

/-- Some thread fetched a list under a configuration in which the backend stands where the list has
the model. -/
def Log.Lists (log : Log) (model : String) (b : Backend) : Prop :=
  ∃ i c tags loaded, ((fetching c tags loaded).map fun act => (i, act)).Sublist log ∧
    c.backend? b.idx = some b ∧ ModelList.Serves (fetched c tags loaded) model b.idx

/-- A backend that stands where a list has a model was asked. -/
theorem Log.Lists.mem_askedUrls {log : Log} {model : String} {b : Backend}
    (h : log.Lists model b) : b.url ++ "/api/tags" ∈ log.askedUrls := by
  obtain ⟨i, c, tags, loaded, hsublist, hbackend, hserves⟩ := h
  have hc : c.enabled = true := by
    by_contra hdisabled
    obtain ⟨e, he, -⟩ := hserves
    simp [fetched, hdisabled] at he
  obtain ⟨b', own, hb', hoffers, -⟩ := (serves_fetched_iff hc).1 hserves
  obtain rfl : b = b' := Option.some.inj (hbackend.symm.trans hb')
  have hmem : b ∈ asked c := by
    refine List.mem_filter.2 ⟨?_, hoffers.1⟩
    exact List.mem_of_getElem? ((c.backends_getElem? b.idx).trans hbackend)
  have hsent : (i, Act.sent (listingCalls c "/api/tags")) ∈ log :=
    hsublist.subset (List.mem_map_of_mem (by simp [fetching, hc]))
  refine List.mem_flatMap.2 ⟨_, hsent, ?_⟩
  exact List.mem_map.2 ⟨listingCall "/api/tags" b, List.mem_map_of_mem hmem, rfl⟩

/-- A request for a third backend. -/
def movingOn : Request where
  method := "POST"
  path := "/config/update"
  headers := [.ofText contentType jsonType]
  body :=
    ("\x7b\"DOCKER_MODEL_RUNNER_BASE_URLS\":[\"http://c\"]," ++
      "\"DOCKER_MODEL_RUNNER_API_CONFIGS\":\x7b\x7d\x7d").toUTF8.toList

/-- Another backend takes the place of the one that was asked after its list was taken. -/
def movedLate : List Event :=
  lookingUp ++ [.begins (.respond changingBackend), .moves 1, .moves 1, .moves 0, .moves 0]

/-- Another backend has taken the place of the one that was asked, but its list is still kept. -/
def movedHalfway : List Event :=
  lookingUp ++ [.begins (.respond changingBackend), .moves 1, .begins (.select "z"), .moves 2,
    .moves 2, .moves 2]

/-- There are updates in all three rounds, and the last one is for a backend that is never asked. -/
def movedThrice : List Event :=
  [.begins (.select "z"), .moves 0, .moves 0] ++ overtakenRound 1 changingBackend ++
    overtakenRound 2 changingBackend ++ overtakenRound 3 movingOn ++ [.moves 0, .moves 0]

/-- After the events thread `i` has chosen the backend at a URL for the model "z", which no list has
where that backend stands. -/
def ChoosesUnlisted (events : List Event) (i : Nat) (url : String) : Prop :=
  ∃ b, (select "z").run.Leads [] ((afterEvents events).log.past i) (.ok b) ∧ b.url = url ∧
    ¬(afterEvents events).log.Lists "z" b

theorem choosesUnlisted_of_never_asked {events : List Event} {i : Nat} {url : String}
    (hchosen : (((afterEvents events).threads[i]?).bind chosen?).map
      (fun found => (found.1, found.2.url)) = some ("z", url))
    (hnever : (afterEvents events).log.askedUrls.contains (url ++ "/api/tags") = false) :
    ChoosesUnlisted events i url := by
  obtain ⟨b, hleads, hurl⟩ := exists_chosen hchosen
  refine ⟨b, hleads, hurl, fun hlists => ?_⟩
  have hasked := hurl ▸ hlists.mem_askedUrls
  exact absurd (List.contains_iff_mem.2 hasked) (by rw [hnever]; exact Bool.false_ne_true)

/-- A backend can be chosen that was never asked for its models: if it takes the place of another
one after the list was taken, or before the list is thrown away, or in the third of three rounds
that are all disturbed. -/
theorem chosen_backend_need_not_be_listed :
    ChoosesUnlisted movedLate 0 "http://b" ∧ ChoosesUnlisted movedHalfway 2 "http://b" ∧
      ChoosesUnlisted movedThrice 0 "http://c" :=
  ⟨choosesUnlisted_of_never_asked (by decide +kernel) (by decide +kernel),
    choosesUnlisted_of_never_asked (by decide +kernel) (by decide +kernel),
    choosesUnlisted_of_never_asked (by decide +kernel) (by decide +kernel)⟩

end Gateway
end RunnerGateway
