import RunnerGateway.Proofs.Conduct
import RunnerGateway.Proofs.Routing

/-!
# Taking turns

Each model has a cursor, and only choosing one of its backends by turns moves it.  The log tells how
often that was done, so in every interleaving the cursors are what the log tells.  As the backends
that serve a model stand in ascending order, choosing among them goes round: while a model is served
by the same backends, each of them is chosen once before any is chosen again.
-/

namespace RunnerGateway
namespace Gateway

open Exchange Http

/-! ## Going round -/

section Rounds

variable {α β : Type}

/-- The elements are taken from a list in its order, from a turn on, and after the last comes the
first. -/
def GoesRound (bs : List α) (turn : Nat) (picks : List α) : Prop :=
  ∀ n < picks.length, picks[n]? = bs[(turn + n) % bs.length]?

variable {bs picks : List α} {turn : Nat}

theorem goesRound_concat_iff {b : α} :
    GoesRound bs turn (picks ++ [b]) ↔
      GoesRound bs turn picks ∧ bs[(turn + picks.length) % bs.length]? = some b := by
  unfold GoesRound
  rw [List.length_append, List.length_singleton]
  constructor
  · intro h
    constructor
    · intro n hn
      have hpick := h n (by omega)
      rwa [List.getElem?_append_left hn] at hpick
    · have hlast := h picks.length (by omega)
      rw [List.getElem?_concat_length] at hlast
      exact hlast.symm
  · rintro ⟨h, hlast⟩ n hn
    rcases Nat.lt_succ_iff_lt_or_eq.1 hn with hn | rfl
    · rw [List.getElem?_append_left hn]
      exact h n hn
    · rw [List.getElem?_concat_length, hlast]

/-- One round takes every element once. -/
theorem GoesRound.eq_rotate (h : GoesRound bs turn picks) (hlen : picks.length = bs.length) :
    picks = bs.rotate turn := by
  apply List.ext_getElem?
  intro n
  by_cases hn : n < bs.length
  · rw [h n (hlen ▸ hn), List.getElem?_rotate hn, Nat.add_comm]
  · rw [List.getElem?_eq_none (by omega), List.getElem?_eq_none (by simpa using hn)]

theorem mod_eq_iff_modEq {k j : Nat} (hj : j < k) (turn n : Nat) :
    (turn + n) % k = j ↔ n ≡ j + turn * (k - 1) [MOD k] := by
  have hturn : turn + (j + turn * (k - 1)) = j + turn * k := by
    obtain ⟨k, rfl⟩ := Nat.exists_eq_succ_of_ne_zero (by omega : k ≠ 0)
    simp only [Nat.succ_sub_one, Nat.mul_succ]
    omega
  have hshift : turn + (j + turn * (k - 1)) ≡ j [MOD k] := by
    rw [hturn, Nat.ModEq, Nat.add_mul_mod_self_right]
  constructor
  · intro h
    have hmod : turn + n ≡ j [MOD k] := by rw [Nat.ModEq, h, Nat.mod_eq_of_lt hj]
    exact Nat.ModEq.add_left_cancel' turn (hmod.trans hshift.symm)
  · intro h
    have hmod : turn + n ≡ j [MOD k] := (h.add_left turn).trans hshift
    rw [hmod, Nat.mod_eq_of_lt hj]

/-- Of `n` turns each of `k` places gets as many as any other, or one more. -/
theorem count_turns_bounds {k j : Nat} (hj : j < k) (turn n : Nat) :
    n / k ≤ Nat.count (fun i => (turn + i) % k = j) n ∧
      Nat.count (fun i => (turn + i) % k = j) n ≤ n / k + 1 := by
  have hcount : Nat.count (fun i => (turn + i) % k = j) n =
      Nat.count (fun i => i ≡ j + turn * (k - 1) [MOD k]) n := by
    simp only [mod_eq_iff_modEq hj]
  rw [hcount, Nat.count_modEq_card n (by omega)]
  split <;> omega

/-- An element gets the turns of its place. -/
theorem GoesRound.count_eq [DecidableEq β] {f : α → β} (hnodup : (bs.map f).Nodup)
    (h : GoesRound bs turn picks) {j : Nat} (hj : j < bs.length) :
    (picks.map f).count (f bs[j]) =
      Nat.count (fun n => (turn + n) % bs.length = j) picks.length := by
  induction picks using List.reverseRecOn with
  | nil => simp
  | append_singleton picks b ih =>
      obtain ⟨hpicks, hlast⟩ := goesRound_concat_iff.1 h
      obtain ⟨hplace, rfl⟩ := List.getElem?_eq_some_iff.1 hlast
      have hsame : f bs[(turn + picks.length) % bs.length] = f bs[j] ↔
          (turn + picks.length) % bs.length = j := by
        have hplace' : (turn + picks.length) % bs.length < (bs.map f).length := by
          simpa using hplace
        have hj' : j < (bs.map f).length := by simpa using hj
        simpa using @List.Nodup.getElem_inj_iff _ _ hnodup _ hplace' _ hj'
      rw [List.map_append, List.count_append, ih hpicks, List.length_append, List.length_singleton,
        Nat.count_succ, List.map_singleton, List.count_singleton]
      simp only [beq_iff_eq, hsame]

/-- No element is taken more than once more often than another. -/
theorem GoesRound.count_le [DecidableEq β] {f : α → β} (hnodup : (bs.map f).Nodup)
    (h : GoesRound bs turn picks) {b b' : α} (hb : b ∈ bs) (hb' : b' ∈ bs) :
    (picks.map f).count (f b) ≤ (picks.map f).count (f b') + 1 := by
  obtain ⟨j, hj, rfl⟩ := List.getElem_of_mem hb
  obtain ⟨j', hj', rfl⟩ := List.getElem_of_mem hb'
  rw [h.count_eq hnodup hj, h.count_eq hnodup hj']
  have hmost := (count_turns_bounds hj turn picks.length).2
  have hleast := (count_turns_bounds hj' turn picks.length).1
  omega

/-- However often turns have been taken, there is an element whose turn it is. -/
theorem getElem?_atTurn (first : α) (others : List α) (turn : UInt64) :
    (first :: others)[turn.toNat % (first :: others).length]? = some (atTurn first others turn) :=
  List.getElem?_eq_getElem _

end Rounds

/-! ## What choosing does -/

/-- The model whose turn was taken. -/
def Act.turned? : Act → Option String
  | .did (.turn model) _ => some model
  | _ => none

theorem Act.exists_of_turned?_eq_some {act : Act} {model : String}
    (h : act.turned? = some model) : ∃ turn, act = .did (.turn model) turn := by
  unfold Act.turned? at h
  split at h
  · obtain rfl := Option.some.inj h
    exact ⟨_, rfl⟩
  · exact nomatch h

/-- The models whose turns were taken, latest first. -/
def turned (acts : List Act) : List String :=
  acts.filterMap Act.turned?

section Choosing

variable {model : String} {start later : List Act} {result : Except GatewayError Backend}

theorem eq_modelNotFound_of_candidates {e : GatewayError}
    (h : (candidates model).run.Leads start later (.error e)) : e = .modelNotFound model := by
  unfold candidates at h
  rcases Attempt.leads_bind_iff.1 h with ⟨between, entry, -, hrest⟩ | ⟨e', hlookup, -⟩
  · cases entry with
    | none =>
        obtain ⟨-, herror⟩ := Attempt.leads_throw_iff.1 hrest
        exact Except.error.inj herror
    | some entry =>
        rcases Attempt.leads_bind_iff.1 hrest with ⟨_, c, -, hpure⟩ | ⟨e', hconfig, -⟩
        · exact nomatch (Attempt.leads_pure_iff.1 hpure).2
        · obtain ⟨_, -, herror⟩ := Attempt.leads_lift_iff.1 hconfig
          exact nomatch herror
  · obtain ⟨_, -, herror⟩ := Attempt.leads_lift_iff.1 hlookup
    exact nomatch herror

/-- Choosing by turns finds the candidates, and takes one turn if there are any. -/
theorem leads_select_iff :
    (select model).run.Leads start later result ↔
      (∃ between first others turn,
        (candidates model).run.Leads start between (.ok (first :: others)) ∧
          later = .did (.turn model) turn :: between ∧
            result = .ok (atTurn first others turn)) ∨
        ((candidates model).run.Leads start later (.ok []) ∧
          result = .error (.noBackendsAvailable model)) ∨
        ((candidates model).run.Leads start later (.error (.modelNotFound model)) ∧
          result = .error (.modelNotFound model)) := by
  unfold select
  rw [Attempt.leads_bind_iff]
  constructor
  · rintro (⟨between, bs, hbs, hrest⟩ | ⟨e, hbs, rfl⟩)
    · cases bs with
      | nil =>
          obtain ⟨rfl, rfl⟩ := Attempt.leads_throw_iff.1 hrest
          exact .inr (.inl ⟨hbs, rfl⟩)
      | cons first others =>
          cases hrest with
          | step turn _ hdone =>
              obtain ⟨rfl, rfl⟩ := Task.leads_pure_iff.1 hdone
              exact .inl ⟨between, first, others, turn, hbs, rfl, rfl⟩
    · obtain rfl := eq_modelNotFound_of_candidates hbs
      exact .inr (.inr ⟨hbs, rfl⟩)
  · rintro (⟨between, first, others, turn, hbs, rfl, rfl⟩ | ⟨hbs, rfl⟩ | ⟨hbs, rfl⟩)
    · exact .inl ⟨between, _, hbs, .step turn trivial (.done _ _)⟩
    · exact .inl ⟨later, [], hbs, .done _ _⟩
    · exact .inr ⟨_, hbs, rfl⟩

theorem leads_select_of_candidates {first : Backend} {others : List Backend}
    (h : (candidates model).run.Leads start later (.ok (first :: others))) (turn : UInt64) :
    (select model).run.Leads start (.did (.turn model) turn :: later)
      (.ok (atTurn first others turn)) :=
  leads_select_iff.2 (.inl ⟨later, first, others, turn, h, rfl, rfl⟩)

/-- If the positions of an entry ascend, so do those of the backends that are found there. -/
theorem ascending_serving {e : ModelEntry} (h : e.urls.Pairwise (· < ·)) (c : RunnerConfig) :
    ((serving c e).map Backend.idx).Pairwise (· < ·) := by
  rw [List.pairwise_map]
  refine List.Pairwise.filter _ (h.filterMap c.backend? ?_)
  intro idx idx' hlt b hb b' hb'
  rw [RunnerConfig.backend?_idx hb, RunnerConfig.backend?_idx hb']
  exact hlt

end Choosing

/-! ## Who takes turns -/

/-- A turn of a model is taken by those who have found backends for it, at once. -/
def TakesTurns : Discipline
  | past, .turn model => ∃ start first others,
      (candidates model).run.Leads start past (.ok (first :: others))
  | _, _ => True

/-- No turn is taken. -/
def Waits : Discipline :=
  fun _ op => ∀ model, op ≠ .turn model

theorem takesTurns_letsAsk : Discipline.LetsAsk TakesTurns := by
  apply letsAsk_of_permits
  intro op hasks past
  cases op with
  | turn model => exact hasks.elim
  | _ => trivial

theorem takesTurns_select (model : String) : Attempt.Heeds TakesTurns (select model) := by
  refine Attempt.heeds_bind_of_leads (heeds_candidates takesTurns_letsAsk.toLetsLook model) ?_
  intro start later bs hbs
  cases bs with
  | nil => trivial
  | cons first others => exact ⟨⟨start, first, others, hbs⟩, fun _ _ => trivial⟩

theorem takesTurns_letsServe (e : Endpoint) (idx : Option Nat) :
    Discipline.LetsServe TakesTurns e idx where
  toLetsAsk := takesTurns_letsAsk
  select _ model := takesTurns_select model
  sending _ _ _ _ _ _ _ _ := trivial
  configure _ _ _ := trivial
  invalidate _ _ := trivial

theorem waits_letsAsk : Discipline.LetsAsk Waits := by
  apply letsAsk_of_permits
  rintro op hasks past model rfl
  exact hasks

/-- Who needs no turn takes none. -/
theorem waits_letsServe {e : Endpoint} {idx : Option Nat} (hturn : e.takesTurn idx = false) :
    Discipline.LetsServe Waits e idx where
  toLetsAsk := waits_letsAsk
  select hneeds := absurd hneeds (by simp [hturn])
  sending _ _ _ _ _ _ _ _ := nofun
  configure _ _ _ := nofun
  invalidate _ _ := nofun

theorem turned?_eq_none_of_waits {past : List Act} {op : Op} (h : Waits past op)
    (answer : op.Answer) : (Act.did op answer).turned? = none := by
  cases op with
  | turn model => exact absurd rfl (h model)
  | _ => rfl

theorem turned_prelude (op : Op) (past : List Act) : turned (op.prelude ++ past) = turned past := by
  cases op <;> rfl

/-- A task that waits takes no turns. -/
theorem turned_of_leads {α : Type} {t : Task α} {past later : List Act} {a : α}
    {wanted : List Act → α → Prop} (hleads : t.Leads past later a)
    (h : t.Ensures Waits past wanted) : turned later = turned past := by
  induction hleads with
  | done past a => rfl
  | @step op next past later a answer hadmits hrest ih =>
      obtain ⟨hop, hnext⟩ := h
      rw [ih (hnext answer hadmits), turned, List.filterMap_cons_none
        (turned?_eq_none_of_waits hop answer)]
      exact turned_prelude op past

theorem isIndexed_of_toEndpoint? {path : List Char} {e : Endpoint} {route : Route}
    (h : Route.toEndpoint? path e = some route) (hposition : route.position ≠ none) :
    route.endpoint.isIndexed = true := by
  unfold Route.toEndpoint? at h
  split at h
  · obtain rfl := Option.some.inj h
    exact absurd rfl hposition
  · split at h
    · rename_i hindexed
      obtain ⟨position, -, hroute⟩ := Option.bind_eq_some_iff.1 h
      split at hroute
      · exact nomatch hroute
      · obtain rfl := Option.some.inj hroute
        exact hindexed
    · exact nomatch h

theorem isIndexed_of_position {path : String} {route : Route}
    (hroute : Route.ofPath? path = some route) (hposition : route.position ≠ none) :
    route.endpoint.isIndexed = true := by
  obtain ⟨e, -, he⟩ := List.exists_of_findSome?_eq_some hroute
  exact isIndexed_of_toEndpoint? he hposition

theorem exists_index_of_position {route : Route} {idx : Option Nat}
    (hposition : route.position ≠ none) (hidx : route.index = .ok idx) : ∃ i, idx = some i := by
  obtain ⟨position, hsome⟩ := Option.ne_none_iff_exists'.1 hposition
  simp only [Route.index, hsome] at hidx
  cases hread : Route.readPosition position with
  | error e =>
      rw [hread] at hidx
      exact nomatch hidx
  | ok i =>
      rw [hread] at hidx
      exact ⟨i, (Except.ok.inj hidx).symm⟩

theorem takesTurn_of_isIndexed {e : Endpoint} (h : e.isIndexed = true) (idx : Nat) :
    e.takesTurn (some idx) = false := by
  cases e with
  | describe => exact nomatch h
  | _ => rfl

/-- A request that names the position of a backend takes no turn. -/
theorem heeds_waits_respond {rules : Rules} {r : Request} {route : Route}
    (hroute : Route.ofPath? r.path = some route) (hposition : route.position ≠ none) :
    (respond rules r).Heeds Waits := by
  apply heeds_respond
  intro route' hroute' _ idx hidx
  obtain rfl : route = route' := Option.some.inj (hroute.symm.trans hroute')
  apply waits_letsServe
  obtain ⟨i, rfl⟩ := exists_index_of_position hposition hidx
  exact takesTurn_of_isIndexed (isIndexed_of_position hroute hposition) i

/-! ## What is sent to the one whose turn it is -/

/-- What is sent to a backend, other than to ask for something, is sent to one whose turn it was,
and at once. -/
def PostsInTurn : Discipline
  | past, .exchange calls => ∀ c ∈ calls, c.method ≠ .get → ∃ model start b path,
      (select model).run.Leads start past (.ok b) ∧ c.url = b.endpoint path
  | _, _ => True

theorem postsInTurn_letsAsk : Discipline.LetsAsk PostsInTurn := by
  apply letsAsk_of_permits
  intro op hasks past
  cases op with
  | exchange calls =>
      intro c hc hpost
      exact absurd (hasks c hc) hpost
  | _ => trivial

theorem postsInTurn_select (model : String) : Attempt.Heeds PostsInTurn (select model) :=
  heeds_select_of_permits postsInTurn_letsAsk.toLetsLook fun _ => trivial

/-- Who has chosen a backend by turns may send it anything. -/
theorem postsInTurn_sending {model : String} {start later : List Act} {b : Backend}
    (hchosen : (select model).run.Leads start later (.ok b)) (path : String) (payload : Json)
    (key : Option String) (headers : Headers) :
    PostsInTurn later (.exchange [sending .post (b.endpoint path) payload key headers]) := by
  intro c hc _
  obtain rfl := List.mem_singleton.1 hc
  exact ⟨model, start, b, path, hchosen, rfl⟩

theorem postsInTurn_complete (rules : Rules) (r : Request) (c : Completion) :
    Attempt.Heeds PostsInTurn (complete rules r none c) := by
  refine Attempt.heeds_bind_of_leads (postsInTurn_select c.model) fun start later b hchosen => ?_
  split
  · exact ensures_postStream (postsInTurn_sending hchosen _ _ _ _) _
  · exact Attempt.ensures_bind_of_heeds (ensures_postJson (postsInTurn_sending hchosen _ _ _ _))
      fun _ => Attempt.heeds_pure _

theorem postsInTurn_embed (rules : Rules) (r : Request) (path : String) :
    Attempt.Heeds PostsInTurn (embed rules r none path) := by
  refine Attempt.heeds_bind (Attempt.heeds_attempt _) fun form => ?_
  refine Attempt.heeds_bind_of_leads (postsInTurn_select _) fun start later b hchosen => ?_
  exact Attempt.ensures_bind_of_heeds (ensures_postJson (postsInTurn_sending hchosen _ _ _ _))
    fun _ => Attempt.heeds_pure _

theorem postsInTurn_describe (rules : Rules) (r : Request) :
    Attempt.Heeds PostsInTurn (describe rules r) := by
  refine Attempt.heeds_bind (Attempt.heeds_attempt _) fun form => ?_
  refine Attempt.heeds_bind (Attempt.heeds_attempt _) fun named => ?_
  refine Attempt.heeds_bind_of_leads (postsInTurn_select _) fun start later b hchosen => ?_
  exact Attempt.ensures_bind_of_heeds (ensures_postJson (postsInTurn_sending hchosen _ _ _ _))
    fun _ => Attempt.heeds_pure _

theorem postsInTurn_serve {e : Endpoint} (hturn : e.takesTurn none = true) (rules : Rules)
    (r : Request) : Attempt.Heeds PostsInTurn (serve rules r none e) := by
  cases e with
  | chat =>
      exact Attempt.heeds_bind (Attempt.heeds_attempt _) fun f => postsInTurn_complete rules r _
  | generate =>
      exact Attempt.heeds_bind (Attempt.heeds_attempt _) fun f => postsInTurn_complete rules r _
  | embed => exact postsInTurn_embed rules r "/api/embed"
  | embeddings => exact postsInTurn_embed rules r "/api/embeddings"
  | describe => exact postsInTurn_describe rules r
  | _ => exact absurd hturn Bool.false_ne_true

/-- A request that names no position is passed on to the backend whose turn it is. -/
theorem postsInTurn_respond {rules : Rules} {r : Request} {route : Route}
    (hroute : Route.ofPath? r.path = some route) (hposition : route.position = none)
    (hturn : route.endpoint.takesTurn none = true) : (respond rules r).Heeds PostsInTurn := by
  apply heeds_respond_of_serve
  intro route' hroute' _ idx hidx
  obtain rfl : route = route' := Option.some.inj (hroute.symm.trans hroute')
  simp only [Route.index, hposition] at hidx
  obtain rfl : none = idx := Except.ok.inj hidx
  exact postsInTurn_serve hturn rules r

/-! ## Cursors -/

namespace Log

/-- How many turns of a model were taken. -/
def taken (model : String) (log : Log) : Nat :=
  (turned (log.map Prod.snd)).count model

/-- The cursor of a model, if any turn of it was taken. -/
def cursor? (model : String) (log : Log) : Option UInt64 :=
  if log.taken model = 0 then none else some (UInt64.ofNat (log.taken model))

/-- Every turn that was taken is the number of those before it. -/
def InTurn : Log → Prop
  | [] => True
  | (_, act) :: log =>
    (∀ model turn, act = .did (.turn model) turn → turn = UInt64.ofNat (taken model log)) ∧
      InTurn log

theorem InTurn.of_append {later earlier : Log} (h : InTurn (later ++ earlier)) :
    InTurn earlier := by
  induction later with
  | nil => exact h
  | cons entry later ih => exact ih h.2

theorem taken_cons_of_ne {model : String} {act : Act} (h : act.turned? ≠ some model) (i : Nat)
    (log : Log) : taken model ((i, act) :: log) = taken model log := by
  unfold taken turned
  rw [List.map_cons, List.filterMap_cons]
  cases hact : act.turned? with
  | none => rfl
  | some model' =>
      have hne : model' ≠ model := fun heq => h (hact.trans (congrArg some heq))
      exact List.count_cons_of_ne hne

theorem taken_cons_turn (model : String) (i : Nat) (turn : UInt64) (log : Log) :
    taken model ((i, .did (.turn model) turn) :: log) = taken model log + 1 :=
  List.count_cons_self

end Log

namespace System

variable {rules : Rules} {s : System}

/-- The cursors are what the log tells. -/
structure Cursors (s : System) : Prop where
  turns : ∀ model, Dict.get? s.state.turns model = s.log.cursor? model
  log : s.log.InTurn

theorem Cursors.start (config : RunnerConfig) (store : Option Store) :
    (System.start config store).Cursors where
  turns _ := rfl
  log := trivial

theorem turns_configure (s : State) (form : ConfigUpdate) :
    (s.configure form).2.turns = s.turns := by
  rcases s.configure_cases form with ⟨store, hdone⟩ | ⟨e, hfailed⟩
  · rw [hdone]
  · rw [hfailed]

theorem turns_publish (s : State) (g : Nat) (models : List ModelEntry) :
    (s.publish g models).2.turns = s.turns := by
  rcases s.publish_cases g models with ⟨-, hkept⟩ | ⟨-, hrefused⟩
  · rw [hkept]
  · rw [hrefused]

/-- All that one step can do to the log and the cursors. -/
theorem Steps.turns_cases {s' : System} (hstep : s.Steps rules s') :
    (s'.log = s.log ∧ s'.state.turns = s.state.turns) ∨
      (∃ i act, act.turned? = none ∧ s'.log = (i, act) :: s.log ∧
        s'.state.turns = s.state.turns) ∨
      ∃ i model, s'.log = (i, .did (.turn model) (s.state.turnOf model)) :: s.log ∧
        s'.state.turns = Dict.insert s.state.turns model (s.state.turnOf model + 1) := by
  cases hstep with
  | stays | begins | passes | closes => exact .inl ⟨rfl, rfl⟩
  | sends | hears => exact .inr (.inl ⟨_, _, rfl, rfl, rfl⟩)
  | @performs i job op next hthread hop =>
      cases op with
      | turn model => exact .inr (.inr ⟨i, model, rfl, rfl⟩)
      | exchange calls => exact absurd rfl (hop calls)
      | configure form => exact .inr (.inl ⟨i, _, rfl, rfl, turns_configure _ _⟩)
      | publish g models => exact .inr (.inl ⟨i, _, rfl, rfl, turns_publish _ _ _⟩)
      | _ => exact .inr (.inl ⟨i, _, rfl, rfl, rfl⟩)

/-- Only taking a turn of a model moves its cursor. -/
theorem Steps.exists_turn {s' : System} (hstep : s.Steps rules s') {model : String}
    (hmoved : Dict.get? s'.state.turns model ≠ Dict.get? s.state.turns model) :
    ∃ i turn, s'.log = (i, .did (.turn model) turn) :: s.log := by
  rcases hstep.turns_cases with ⟨-, hturns⟩ | ⟨-, -, -, -, hturns⟩ | ⟨i, model', hlog, hturns⟩
  · exact absurd (congrArg (Dict.get? · model) hturns) hmoved
  · exact absurd (congrArg (Dict.get? · model) hturns) hmoved
  · by_cases hmodel : model = model'
    · subst hmodel
      exact ⟨i, _, hlog⟩
    · rw [hturns, Dict.get?_insert, if_neg hmodel] at hmoved
      exact absurd rfl hmoved

/-- The turn that is taken next is the number of those that were taken. -/
theorem Cursors.turnOf (h : s.Cursors) (model : String) :
    s.state.turnOf model = UInt64.ofNat (s.log.taken model) := by
  rw [State.turnOf, h.turns, Log.cursor?]
  split
  · rename_i hzero
    rw [hzero]
    rfl
  · rfl

theorem Cursors.steps {s' : System} (h : s.Cursors) (hstep : s.Steps rules s') : s'.Cursors := by
  rcases hstep.turns_cases with ⟨hlog, hturns⟩ | ⟨i, act, hact, hlog, hturns⟩ |
    ⟨i, model, hlog, hturns⟩
  · exact ⟨fun model => by rw [hlog, hturns, h.turns], hlog ▸ h.log⟩
  · constructor
    · intro model
      rw [hturns, h.turns, hlog, Log.cursor?, Log.cursor?,
        Log.taken_cons_of_ne (by simp [hact])]
    · rw [hlog]
      refine ⟨?_, h.log⟩
      rintro model turn rfl
      exact nomatch hact
  · constructor
    · intro model'
      rw [hturns, Dict.get?_insert, hlog, Log.cursor?]
      by_cases hmodel : model' = model
      · subst hmodel
        rw [if_pos rfl, Log.taken_cons_turn, if_neg (Nat.succ_ne_zero _), h.turnOf,
          UInt64.ofNat_add]
        rfl
      · rw [if_neg hmodel, h.turns, Log.cursor?, Log.taken_cons_of_ne]
        simpa [Act.turned?] using fun heq => hmodel heq.symm
    · rw [hlog]
      refine ⟨?_, h.log⟩
      intro model' turn hact
      cases hact
      exact h.turnOf model

/-- In every interleaving the cursors are what the log tells. -/
theorem Cursors.run (h : s.Cursors) (events : List Event) : (s.run rules events).Cursors :=
  run_induction h (fun _ _ hcursors hstep => hcursors.steps hstep) events

end System

/-! ## Windows -/

namespace Log

variable {seed : RunnerConfig} {model : String} {bs picks : List Backend} {recent before : Log}

/-- What was chosen by turns for a model since `before`, earliest first, where all who chose had
found the same backends. -/
inductive Picks (model : String) (bs : List Backend) (before : Log) : Log → List Backend → Prop
  | nil : Picks model bs before [] []
  | other {i : Nat} {act : Act} {recent : Log} {picks : List Backend}
      (hact : act.turned? ≠ some model) (h : Picks model bs before recent picks) :
      Picks model bs before ((i, act) :: recent) picks
  | selects {i : Nat} {turn : UInt64} {start : List Act} {b : Backend} {recent : Log}
      {picks : List Backend}
      (hfound : (candidates model).run.Leads start (past i (recent ++ before)) (.ok bs))
      (hchosen : (select model).run.Leads start
        (.did (.turn model) turn :: past i (recent ++ before)) (.ok b))
      (h : Picks model bs before recent picks) :
      Picks model bs before ((i, .did (.turn model) turn) :: recent) (picks ++ [b])

theorem Picks.length_eq (h : Picks model bs before recent picks) :
    taken model (recent ++ before) = taken model before + picks.length := by
  induction h with
  | nil => rfl
  | other hact h ih => rw [List.cons_append, taken_cons_of_ne hact, ih]
  | selects hfound hchosen h ih =>
      rw [List.cons_append, taken_cons_turn, ih, List.length_append, List.length_singleton]
      rfl

/-- Who has found backends and takes a turn has chosen the one whose turn it is. -/
theorem eq_atTurn_of_selects {start past : List Act} {turn : UInt64} {b : Backend}
    (hfound : (candidates model).run.Leads start past (.ok bs))
    (hchosen : (select model).run.Leads start (.did (.turn model) turn :: past) (.ok b)) :
    bs[turn.toNat % bs.length]? = some b := by
  rcases leads_select_iff.1 hchosen with
    ⟨between, first, others, turn', hbs, hlater, hb⟩ | ⟨-, hb⟩ | ⟨-, hb⟩
  · obtain ⟨hact, rfl⟩ := List.cons.inj hlater
    obtain rfl : turn = turn' := by
      cases hact
      rfl
    obtain rfl : bs = first :: others := Except.ok.inj (hfound.unique hbs)
    obtain rfl := Except.ok.inj hb
    exact getElem?_atTurn first others turn
  · exact nomatch hb
  · exact nomatch hb

theorem Picks.goesRound (h : Picks model bs before recent picks)
    (hturns : InTurn (recent ++ before)) (htaken : taken model (recent ++ before) ≤ 2 ^ 64) :
    GoesRound bs (taken model before) picks := by
  induction h with
  | nil => exact fun n hn => absurd hn (Nat.not_lt_zero n)
  | other hact h ih =>
      rw [List.cons_append, taken_cons_of_ne hact] at htaken
      exact ih hturns.2 htaken
  | @selects i turn start b recent picks hfound hchosen h ih =>
      rw [List.cons_append, taken_cons_turn] at htaken
      refine goesRound_concat_iff.2 ⟨ih hturns.2 (by omega), ?_⟩
      have hturn : turn.toNat = taken model before + picks.length := by
        have hnumber : turn = UInt64.ofNat (taken model (recent ++ before)) :=
          hturns.1 model turn rfl
        rw [← h.length_eq, hnumber, UInt64.toNat_ofNat']
        exact Nat.mod_eq_of_lt (by omega)
      rw [← hturn]
      exact eq_atTurn_of_selects hfound hchosen

/-- The backends that serve a model have ascending positions. -/
theorem ascending_of_candidates {log : Log} {i : Nat} {start : List Act}
    (hheeds : log.Heeds Sourced) (htrue : log.Truthful seed)
    (hfound : (candidates model).run.Leads start (past i log) (.ok bs)) :
    (bs.map Backend.idx).Pairwise (· < ·) := by
  obtain ⟨c, between, e, hpast, hentry, rfl⟩ :=
    (candidates_ensures model start).of_leads hfound bs rfl
  obtain ⟨idle, earlier, rfl, -, hbetween⟩ := exists_of_past_eq_cons hpast
  obtain ⟨c₀, tags, loaded, hmem⟩ :=
    exists_fetched_of_found hheeds.of_append.2 htrue.of_append.2 (hbetween ▸ hentry)
  exact ascending_serving ((orderly_fetched c₀ tags loaded).ascending e hmem) c

theorem Picks.ascending (h : Picks model bs before recent picks)
    (hheeds : Heeds Sourced (recent ++ before)) (htrue : Truthful seed (recent ++ before))
    (hpicks : picks ≠ []) : (bs.map Backend.idx).Pairwise (· < ·) := by
  induction h with
  | nil => exact absurd rfl hpicks
  | other hact h ih => exact ih hheeds.2 htrue.2 hpicks
  | selects hfound hchosen h ih => exact ascending_of_candidates hheeds.2 htrue.2 hfound

end Log

/-! ## Fair turns -/

section Frames

variable {rules : Rules} {model : String} {start later : List Act}

theorem turned_of_leads_candidates {result : Except GatewayError (List Backend)}
    (h : (candidates model).run.Leads start later result) : turned later = turned start :=
  turned_of_leads h (heeds_candidates waits_letsAsk.toLetsLook model start)

theorem turned_of_leads_select {result : Except GatewayError Backend}
    (h : (select model).run.Leads start later result) :
    (∃ b, result = .ok b ∧ turned later = model :: turned start) ∨
      (result = .error (.modelNotFound model) ∨ result = .error (.noBackendsAvailable model)) ∧
        turned later = turned start := by
  rcases leads_select_iff.1 h with
    ⟨between, first, others, turn, hbs, rfl, rfl⟩ | ⟨hbs, rfl⟩ | ⟨hbs, rfl⟩
  · have hbetween := turned_of_leads_candidates hbs
    exact .inl ⟨_, rfl, congrArg (model :: ·) hbetween⟩
  · exact .inr ⟨.inr rfl, turned_of_leads_candidates hbs⟩
  · exact .inr ⟨.inl rfl, turned_of_leads_candidates hbs⟩

end Frames

theorem exists_select_of_turn {later earlier : Log} {i : Nat} {model : String} {turn : UInt64}
    (h : (later ++ (i, .did (.turn model) turn) :: earlier).Heeds TakesTurns) :
    ∃ start b, (select model).run.Leads start
      (.did (.turn model) turn :: earlier.past i) (.ok b) := by
  obtain ⟨start, first, others, hfound⟩ : ∃ start first others,
      (candidates model).run.Leads start (earlier.past i) (.ok (first :: others)) := h.act
  exact ⟨start, atTurn first others turn, leads_select_of_candidates hfound turn⟩

/-- In every interleaving the cursor of a model tells how often one of its backends was chosen by
turns, and nothing else moves it or gives the model a cursor.  As long as those who choose find the
same backends, these are chosen in the order of their positions, going round: one round has each of
them once, and at no time was one chosen more than once more often than another.  Who finds backends
always gets one, whatever the cursor is; no turn is taken by those who find none, who take the first
one, or who name a position.  A chat, a text, an embedding or a description that is asked for
without a position comes from the backend whose turn was taken for it. -/
theorem turns_go_round (rules : Rules) (seed : RunnerConfig) (store : Option Store)
    (events : List Event) :
    let s := (System.start seed store).run rules events
    (∀ model, Dict.get? s.state.turns model = s.log.cursor? model) ∧
      (∀ event model, Dict.get? (s.step rules event).state.turns model ≠
          Dict.get? s.state.turns model →
        ∃ i turn, (s.step rules event).log = (i, .did (.turn model) turn) :: s.log) ∧
      (∀ later i model turn (earlier : Log),
        s.log = later ++ (i, .did (.turn model) turn) :: earlier → ∃ start b,
          (select model).run.Leads start (.did (.turn model) turn :: earlier.past i) (.ok b)) ∧
      (∀ model bs later recent before picks, s.log = later ++ (recent ++ before) →
        Log.Picks model bs before recent picks → Log.taken model (recent ++ before) ≤ 2 ^ 64 →
          (picks ≠ [] → (bs.map Backend.idx).Pairwise (· < ·)) ∧
          (picks.length = bs.length → picks = bs.rotate (before.taken model)) ∧
          ∀ b ∈ bs, ∀ b' ∈ bs, (picks.map Backend.idx).count b.idx ≤
            (picks.map Backend.idx).count b'.idx + 1) ∧
      (∀ model start later first others turn,
        (candidates model).run.Leads start later (.ok (first :: others)) →
          (select model).run.Leads start (.did (.turn model) turn :: later)
            (.ok (atTurn first others turn))) ∧
      (∀ model start later result, (select model).run.Leads start later result →
        (∃ b, result = .ok b ∧ turned later = model :: turned start) ∨
          (result = .error (.modelNotFound model) ∨
            result = .error (.noBackendsAvailable model)) ∧ turned later = turned start) ∧
      (∀ model start later result, (firstServing model).run.Leads start later result →
        turned later = turned start) ∧
      (∀ r route start later response, Route.ofPath? r.path = some route →
        route.position ≠ none → (respond rules r).Leads start later response →
          turned later = turned start) ∧
      (∀ r route, Route.ofPath? r.path = some route → route.position = none →
        route.endpoint.takesTurn none = true → (respond rules r).Heeds PostsInTurn) ∧
      ∀ (first : Backend) (others : List Backend) (turn : UInt64),
        (first :: others)[turn.toNat % (first :: others).length]? =
          some (atTurn first others turn) := by
  intro s
  have hcursors : s.Cursors := (System.Cursors.start seed store).run events
  have hsourced : s.log.Heeds Sourced :=
    System.heeds_log (heeds_job sourced_isOpen heeds_refresh rules) seed store events
  have htakes : s.log.Heeds TakesTurns :=
    System.heeds_log (heeds_job_of_letsServe takesTurns_letsServe rules) seed store events
  have htrue : s.log.Truthful seed := ((System.Agrees.start seed store).run events).log
  refine ⟨hcursors.turns, ?_, ?_, ?_, ?_, ?_, ?_, ?_, ?_,
    fun first others turn => getElem?_atTurn first others turn⟩
  · intro event model hmoved
    exact (System.steps_step s event).exists_turn hmoved
  · intro later i model turn earlier hlog
    exact exists_select_of_turn (hlog ▸ htakes)
  · intro model bs later recent before picks hlog hpicks htaken
    have hturns : Log.InTurn (recent ++ before) := (hlog ▸ hcursors.log).of_append
    have hround := hpicks.goesRound hturns htaken
    have hascending (hne : picks ≠ []) : (bs.map Backend.idx).Pairwise (· < ·) :=
      hpicks.ascending (hlog ▸ hsourced).of_append (hlog ▸ htrue).of_append hne
    refine ⟨hascending, hround.eq_rotate, fun b hb b' hb' => ?_⟩
    by_cases hne : picks = []
    · simp [hne]
    · exact hround.count_le ((hascending hne).imp Nat.ne_of_lt) hb hb'
  · intro model start later first others turn hfound
    exact leads_select_of_candidates hfound turn
  · intro model start later result h
    exact turned_of_leads_select h
  · intro model start later result h
    exact turned_of_leads h (heeds_firstServing waits_letsAsk.toLetsLook model start)
  · intro r route start later response hroute hposition h
    exact turned_of_leads h (heeds_waits_respond hroute hposition start)
  · intro r route hroute hposition hturn
    exact postsInTurn_respond hroute hposition hturn

/-! ## Turns at work -/

/-- Who finds a model in the map of the catalogue has the backends at the entry's positions. -/
theorem leads_candidates_of_routed (model : String) (start : List Act) (c : RunnerConfig)
    (e : ModelEntry) :
    (candidates model).run.Leads start
      (.did .config c :: .did (.routed model) (some e) :: start) (.ok (serving c e)) :=
  .step (some e) trivial (.step c trivial (.done _ _))

/-- The positions that a thread found last, with the model that it looked for. -/
def Log.foundAt? (i : Nat) (log : Log) : Option (String × List Nat) :=
  match log.past i with
  | .did .config _ :: .did (.routed model) (some e) :: _ => some (model, e.urls)
  | _ => none

/-- A thread that has found positions has found the backends that stand there in a configuration
that has not changed. -/
theorem exists_candidates_of_foundAt {log : Log} {seed : RunnerConfig} {i : Nat} {model : String}
    {urls : List Nat} (htrue : log.Truthful seed)
    (hwrites : ∀ entry ∈ log, entry.2.isWrite = false)
    (h : log.foundAt? i = some (model, urls)) :
    ∃ start, (candidates model).run.Leads start (log.past i)
      (.ok ((urls.filterMap seed.backend?).filter Backend.isEnabled)) := by
  unfold Log.foundAt? at h
  split at h
  · rename_i c model' e start hpast
    obtain ⟨rfl, rfl⟩ := Prod.mk.inj (Option.some.inj h)
    obtain ⟨idle, earlier, rfl, -, -⟩ := Log.exists_of_past_eq_cons hpast
    have hconfig : c = Log.config seed earlier := htrue.act
    have hseed : Log.config seed earlier = seed := by
      have hearlier : ∀ entry ∈ earlier, entry.2.isWrite = false := fun entry hentry =>
        hwrites entry (by simp [hentry])
      have hkept : Log.config seed (earlier ++ []) = Log.config seed [] :=
        Log.config_append_of_no_write hearlier
      rwa [List.append_nil] at hkept
    obtain rfl : c = seed := hconfig.trans hseed
    refine ⟨start, ?_⟩
    rw [hpast]
    exact leads_candidates_of_routed _ start _ e
  · exact nomatch h

/-- A new catalogue is made, and then two threads choose at the same time. -/
def choosingTwice : List Event :=
  [.begins .refresh, .moves 0, .moves 0, .moves 0, .answered 0 [nestedAnswer 0, nestedAnswer 1],
    .moves 0, .answered 0 [.error .badValue, .error .badValue], .moves 0,
    .begins (.select "x.y.z"), .begins (.select "x.y.z"),
    .moves 1, .moves 2, .moves 1, .moves 2, .moves 2, .moves 1]

/-- What happens then. -/
def choosingLog : Log :=
  ((System.start nestedSpaces none).run {} choosingTwice).log

theorem exists_turns_of_take {log : Log} {i j : Nat} {model : String}
    (h : (log.map fun entry => (entry.1, entry.2.turned?)).take 2 =
      [(i, some model), (j, some model)]) :
    ∃ turn turn', log =
      [(i, .did (.turn model) turn), (j, .did (.turn model) turn')] ++ log.drop 2 := by
  match log with
  | [] => exact nomatch h
  | [_] => simp at h
  | (i', act) :: (j', act') :: log =>
      have hheads : (i' = i ∧ act.turned? = some model) ∧ j' = j ∧ act'.turned? = some model := by
        simpa using h
      obtain ⟨⟨rfl, hact⟩, rfl, hact'⟩ := hheads
      obtain ⟨turn, rfl⟩ := Act.exists_of_turned?_eq_some hact
      obtain ⟨turn', rfl⟩ := Act.exists_of_turned?_eq_some hact'
      exact ⟨turn, turn', rfl⟩

/-- Two threads that choose at the same time choose both backends of the model. -/
theorem turns_go_round_once :
    ∃ bs recent before picks, choosingLog = recent ++ before ∧
      Log.Picks "x.y.z" bs before recent picks ∧ bs.map Backend.idx = [0, 1] ∧ picks = bs := by
  have hagrees : ((System.start nestedSpaces none).run {} choosingTwice).Agrees nestedSpaces :=
    (System.Agrees.start nestedSpaces none).run choosingTwice
  have htrue : choosingLog.Truthful nestedSpaces := hagrees.log
  have htake : (choosingLog.map fun entry => (entry.1, entry.2.turned?)).take 2 =
      [(1, some "x.y.z"), (2, some "x.y.z")] := by decide +kernel
  have hwrites : (choosingLog.drop 2).all (fun entry => !entry.2.isWrite) = true := by
    decide +kernel
  have hnone : Log.taken "x.y.z" (choosingLog.drop 2) = 0 := by decide +kernel
  have hfound₁ : Log.foundAt? 1 (choosingLog.drop 2) = some ("x.y.z", [0, 1]) := by
    decide +kernel
  have hfound₂ : Log.foundAt? 2 (choosingLog.drop 2) = some ("x.y.z", [0, 1]) := by
    decide +kernel
  obtain ⟨turn, turn', hlog⟩ := exists_turns_of_take htake
  generalize choosingLog.drop 2 = before at hlog hwrites hnone hfound₁ hfound₂
  have hquiet : ∀ entry ∈ before, entry.2.isWrite = false := by simpa using hwrites
  have hbefore : Log.Truthful nestedSpaces before := (hlog ▸ htrue).of_append
  obtain ⟨start₁, hstart₁⟩ := exists_candidates_of_foundAt hbefore hquiet hfound₁
  obtain ⟨start₂, hstart₂⟩ := exists_candidates_of_foundAt hbefore hquiet hfound₂
  obtain ⟨first, second, hbs⟩ : ∃ first second,
      ([0, 1].filterMap nestedSpaces.backend?).filter Backend.isEnabled = [first, second] ∧
        first.idx = 0 ∧ second.idx = 1 :=
    ⟨_, _, rfl, rfl, rfl⟩
  obtain ⟨hbs, hfirst, hsecond⟩ := hbs
  rw [hbs] at hstart₁ hstart₂
  have hpicks : Log.Picks "x.y.z" [first, second] before
      [(1, .did (.turn "x.y.z") turn), (2, .did (.turn "x.y.z") turn')]
      [atTurn first [second] turn', atTurn first [second] turn] := by
    have hlast : Log.Picks "x.y.z" [first, second] before [(2, .did (.turn "x.y.z") turn')]
        [atTurn first [second] turn'] :=
      .selects hstart₂ (leads_select_of_candidates hstart₂ turn') .nil
    exact .selects hstart₁ (leads_select_of_candidates hstart₁ turn) hlast
  refine ⟨[first, second], _, before, _, hlog, hpicks, by simp [hfirst, hsecond], ?_⟩
  have htaken := hpicks.length_eq
  obtain ⟨-, -, -, hfair, -⟩ := turns_go_round {} nestedSpaces none choosingTwice
  obtain ⟨-, hround, -⟩ := hfair "x.y.z" [first, second] [] _ before _
    (hlog.trans (List.nil_append _).symm) hpicks (by rw [htaken, hnone]; simp)
  rw [hround rfl, hnone, List.rotate_zero]

end Gateway
end RunnerGateway
