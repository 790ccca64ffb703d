import RunnerGateway.Proofs.Answers
import RunnerGateway.Proofs.Sequence
import RunnerGateway.Proofs.Threads

/-!
# Requests that are rejected

A request is rejected if its client is not admitted, if the position in its path is no number or too
large, or if its body is not taken.  Most of this is settled by the request alone, and
only whether a position is too large has to be looked up in the configuration.  So nothing changes,
and no backend is called.
-/

namespace RunnerGateway
namespace Gateway

open Exchange Http Access

/-! ## Positions -/

/-- The position of the backend that an endpoint asks for, if it asks for one by its position. -/
def Endpoint.position? (idx : Option Nat) (e : Endpoint) : Option Nat :=
  if e = .pull then some (idx.getD 0) else if e.isIndexed then idx else none

/-- No backend has the position, and an endpoint that looks for it only if the interface is enabled
would look for it. -/
def Endpoint.Misses (e : Endpoint) (i : Nat) (c : RunnerConfig) : Prop :=
  c.backend? i = none ∧ (e = .version → c.enabled = true)

section Positions

variable {r : Request} {idx : Option Nat} {i : Nat} {e : Endpoint}

theorem onlyReads_backendAt {p : RunnerConfig → Prop} (hp : ∀ c, p c → c.backend? i = none) :
    (backendAt i).run.OnlyReads p (.error (.backendNotFound i)) := by
  refine .reads fun c hc => ?_
  change Task.OnlyReads p _ (ExceptT.bindCont _ (Except.ok c))
  dsimp only [ExceptT.bindCont]
  rw [hp c hc]
  exact .done

theorem choose_of_position? {method : Method} {path model : String}
    (htarget : e.target? = some (method, path)) (hposition : e.position? idx = some i) :
    e.choose idx model = backendAt i := by
  cases e with
  | pull =>
      obtain rfl := Option.some.inj hposition
      rfl
  | describe => cases hposition
  | chat | generate | embed | embeddings | delete =>
      obtain rfl : idx = some i := hposition
      rfl
  | _ => cases htarget

/-- A position without a backend is told as such, before anything else is done. -/
theorem onlyReads_serve_of_misses (rules : Rules) (htakes : e.Takes r)
    (hposition : e.position? idx = some i) :
    (serve rules r idx e).run.OnlyReads (e.Misses i) (.error (.backendNotFound i)) := by
  by_cases htarget : e.target? = none
  · -- Without a body, only the lists and the version of one backend are asked for.
    cases e with
    | tags =>
        obtain rfl : idx = some i := hposition
        exact Attempt.onlyReads_bind_of_error (onlyReads_backendAt fun c hc => hc.1)
    | version =>
        obtain rfl : idx = some i := hposition
        refine .reads fun c hc => ?_
        change Task.OnlyReads _ _ (ExceptT.run (if c.enabled = true then _ else _))
        rw [if_pos (hc.2 rfl)]
        exact Attempt.onlyReads_bind_of_error (onlyReads_backendAt fun c hc => hc.1)
    | status | verify | config | configUpdate | loaded => cases hposition
    | _ => cases htarget
  · obtain ⟨v, -, -, method, path, hsome, body, -, hserve⟩ :=
      exists_passesOn_of_takes rules idx htarget htakes
    rw [hserve, choose_of_position? hsome hposition]
    exact Attempt.onlyReads_bind_of_error (onlyReads_backendAt fun c hc => hc.1)

end Positions

/-! ## Objections -/

/-- Why a request is rejected. -/
inductive Objection
  /-- The client is not admitted. -/
  | access
  /-- The position in the path is no number. -/
  | position
  /-- The body is not acceptable as JSON, or it has no form that the endpoint takes. -/
  | body
  /-- No backend has the position. -/
  | range

namespace Objection

/-- The status of the answer. -/
def status (keys : Keys) (e : Endpoint) : Objection → Nat
  | .access => if e.audience = .administrators ∧ keys.hasAdminKey = false then 403 else 401
  | .position => 400
  | .body => 400
  | .range => 404

/-- The request is rejected for this reason under a configuration. -/
def Stands (rules : Rules) (r : Request) (route : Route) (c : RunnerConfig) : Objection → Prop
  | .access => ∃ e, route.endpoint.audience.admit rules.keys r.headers = .error e
  | .position =>
    route.endpoint.audience.admit rules.keys r.headers = .ok () ∧
      route.endpoint.methods.contains r.method = true ∧ ∃ e, route.index = .error e
  | .body => ∃ idx, Served rules r route idx ∧ ¬route.endpoint.Takes r
  | .range =>
    ∃ idx i, Served rules r route idx ∧ route.endpoint.Takes r ∧
      route.endpoint.position? idx = some i ∧ route.endpoint.Misses i c

end Objection

section Objections

variable {rules : Rules} {r : Request} {route : Route} {objection : Objection} {c : RunnerConfig}

theorem status_of_refusal {keys : Keys} {headers : Headers} {a : Audience} {e : GatewayError}
    (h : a.admit keys headers = .error e) :
    e.status = if a = .administrators ∧ keys.hasAdminKey = false then 403 else 401 := by
  cases a with
  | everyone => cases h
  | users =>
      have hstatus : e.status = 401 := by
        unfold Audience.admit at h
        simp only at h
        split at h
        · cases h
        · exact status_of_admitKey h
      simpa using hstatus
  | administrators =>
      unfold Audience.admit at h
      by_cases hkey : keys.hasAdminKey = true
      · simp only [hkey, if_true] at h
        split at h
        · cases h
        · simpa [hkey] using status_of_admitKey h
      · simp only [hkey] at h
        split at h
        · cases h
        · obtain rfl := Except.error.inj h
          simp [hkey, GatewayError.status]

theorem exists_of_index_eq_error {e : GatewayError} (h : route.index = .error e) :
    ∃ text, e = .validation text := by
  unfold Route.index at h
  split at h
  · cases h
  · rename_i position hposition
    unfold Route.readPosition at h
    split at h
    · exact ⟨_, (Except.error.inj h).symm⟩
    · split at h
      · cases h
      · exact ⟨_, (Except.error.inj h).symm⟩

/-- A request that is rejected does nothing but look up the configuration, and its answer tells
why. -/
theorem exists_onlyReads_of_stands (hroute : Route.ofPath? r.path = some route)
    (h : objection.Stands rules r route c) :
    ∃ response text, response.status = objection.status rules.keys route.endpoint ∧
      response.headers.head? = some (.ofText contentType jsonType) ∧
      response.body = .ofJson (.obj [("error", .str text)]) ∧
      (respond rules r).OnlyReads (fun c => objection.Stands rules r route c)
        (r.shown response) := by
  cases objection with
  | access =>
      obtain ⟨e, hrefused⟩ := h
      obtain ⟨more, hrespond⟩ := exists_respond_of_refused hroute hrefused
      have hstatus := status_of_refusal hrefused
      have hrange : 100 ≤ e.status ∧ e.status ≤ 999 := by
        rw [hstatus]
        split <;> decide
      refine ⟨{ Response.ofError e with headers := (Response.ofError e).headers ++ more },
        e.external, (responseStatus_eq_status hrange).trans hstatus, rfl, rfl, ?_⟩
      rw [hrespond]
      exact .done
  | position =>
      obtain ⟨hadmitted, hknown, e, hindex⟩ := h
      obtain ⟨text, rfl⟩ := exists_of_index_eq_error hindex
      refine ⟨.ofError (.validation text), text, rfl, rfl, rfl, ?_⟩
      rw [respond_of_unread hroute hadmitted hknown hindex]
      exact .done
  | body =>
      obtain ⟨idx, hserved, htakes⟩ := h
      obtain ⟨text, hthrow⟩ := exists_serve_eq_throw rules idx htakes
      refine ⟨.ofError (.validation text), text, rfl, rfl, rfl, ?_⟩
      rw [respond_of_served hserved, hthrow]
      exact .done
  | range =>
      obtain ⟨idx, i, hserved, htakes, hposition, -⟩ := h
      refine ⟨.ofError (.backendNotFound i), _, rfl, rfl, rfl, ?_⟩
      rw [respond_of_served hserved]
      have hserve := onlyReads_serve_of_misses rules htakes hposition
      refine (hserve.mono ?_).bind .done
      rintro c ⟨idx', i', hserved', -, hposition', hmisses⟩
      obtain rfl : idx = idx' := Except.ok.inj (hserved.index.symm.trans hserved'.index)
      obtain rfl : i = i' := Option.some.inj (hposition.symm.trans hposition')
      exact hmisses

end Objections

/-- A request to which an objection stands gets the status of the objection and a JSON object with
the text of an error, of which who asks for the headers alone gets no body.  It changes nothing and
calls no backend; and in every interleaving in which the objection stands under all configurations
that it finds, it does nothing but read the configuration. -/
theorem rejected_request_has_no_effect (rules : Rules) (r : Request) (route : Route)
    (objection : Objection) (c : RunnerConfig) (hroute : Route.ofPath? r.path = some route)
    (hstands : objection.Stands rules r route c) :
    ∃ response text, response.status = objection.status rules.keys route.endpoint ∧
      response.headers.head? = some (.ofText contentType jsonType) ∧
      response.body = .ofJson (.obj [("error", .str text)]) ∧
      (∀ (σ : Type) (net : Network σ) (s : State) (n : σ), s.config = c →
        (respond rules r).run rules net s n = (r.shown response, s, n)) ∧
      ∀ seed store events i progress,
        let s := (System.start seed store).run rules events
        s.threads[i]? = some ⟨.respond r, progress⟩ →
        (∀ c', .did .config c' ∈ s.log.past i → objection.Stands rules r route c') →
          (∀ act ∈ s.log.past i, ∃ c', act = .did .config c') ∧
          ∀ answer, progress = .going (.done answer) → answer = r.shown response := by
  obtain ⟨response, text, hstatus, htype, hbody, hreads⟩ :=
    exists_onlyReads_of_stands hroute hstands
  refine ⟨response, text, hstatus, htype, hbody, ?_, ?_⟩
  · rintro σ net s n rfl
    exact hreads.run rules net hstands n
  · intro seed store events i progress s hthread hconfigs
    have hfollows := (System.follows_run rules seed store events).threads i _ hthread
    cases progress with
    | going rest =>
        obtain ⟨hacts, hrest⟩ := hreads.of_reaches hfollows hconfigs (by simp)
        refine ⟨hacts, ?_⟩
        intro answer hanswer
        obtain rfl := Progress.going.inj hanswer
        cases hrest
        rfl
    | waiting calls next =>
        -- A request that only reads the configuration never waits for answers.
        obtain ⟨before, hpast, hreaches⟩ := hfollows
        have hbefore : ∀ c', Act.did .config c' ∈ before → objection.Stands rules r route c' := by
          intro c' hmem
          refine hconfigs c' ?_
          rw [hpast]
          exact List.mem_cons_of_mem _ hmem
        obtain ⟨-, hrest⟩ := hreads.of_reaches hreaches hbefore (by simp)
        exact nomatch hrest

/-- A request for the list of the backend at position 7. -/
def askingAtSeven : Request where
  method := "GET"
  path := "/api/tags/7"

/-- Without backends there is none at position 7. -/
theorem rejected_request_has_no_effect_at_seven :
    ∃ response : Response, response.status = 404 ∧
      ∀ s : State, s.config = {} → ∀ (net : Network (List WireRequest)) (sent : List WireRequest),
        (respond {} askingAtSeven).run {} net s sent = (response, s, sent) := by
  have hserved : Served {} askingAtSeven ⟨.tags, some ['7']⟩ (some 7) :=
    ⟨by decide +kernel, rfl, by decide, by decide +kernel⟩
  have hstands : Objection.range.Stands {} askingAtSeven ⟨.tags, some ['7']⟩ {} :=
    ⟨some 7, 7, hserved, fun hnone => (hnone rfl).elim, rfl, rfl, nofun⟩
  obtain ⟨response, text, hstatus, -, -, hrun, -⟩ :=
    rejected_request_has_no_effect {} askingAtSeven ⟨.tags, some ['7']⟩ .range {} hserved.found
      hstands
  refine ⟨response, hstatus, fun s hs net sent => ?_⟩
  rw [hrun (List WireRequest) net s sent hs, Request.shown_eq_self (by decide)]

/-- A request for the headers of the configuration. -/
def askingConfigHead : Request where
  method := "HEAD"
  path := "/config"

theorem ofJson_obj_ne_empty (members : Dict Json) : Body.ofJson (.obj members) ≠ {} := by
  intro h
  have hbytes : Json.utf8 (Json.chars (.obj members)) = [] := by
    rw [← Json.toList_toUTF8_ofList]
    exact congrArg Body.bytes h
  rw [Json.chars, Json.utf8_cons_ascii (by decide)] at hbytes
  exact List.cons_ne_nil _ _ hbytes

/-- Who asks for the headers alone is refused without a JSON object. -/
theorem refused_head_has_no_error_text :
    let rules : Rules := { keys := .ofSettings { adminKey := some "a" } }
    Objection.access.Stands rules askingConfigHead ⟨.config, none⟩ {} ∧
      ∀ (net : Network Unit) (s : State),
        ¬∃ text, ((respond rules askingConfigHead).run rules net s ()).1.body =
          .ofJson (.obj [("error", .str text)]) := by
  intro rules
  refine ⟨⟨.authentication "missing API key", by decide +kernel⟩, ?_⟩
  rintro net s ⟨text, htext⟩
  exact ofJson_obj_ne_empty _ htext.symm

end Gateway
end RunnerGateway
