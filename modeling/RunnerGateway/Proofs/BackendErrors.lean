import RunnerGateway.Proofs.Rejection
import RunnerGateway.Proofs.Turns

/-!
# Errors of backends

A backend that answers a request with an error is quoted: the client gets the status of the backend,
and a JSON object with one text that is made of the body (`Endpoint.errorText`).  There are two ways
to ask a backend, by passing a body on and by asking at a position; each makes the error in its own
way, but both are calls whose outcome is interpreted once and then settles the answer
(`reaches_calling`).  Up to that call nothing but a backend was chosen, so the catalogue was not
thrown away.
-/

namespace RunnerGateway
namespace Gateway

open Exchange Http

/-! ## The text for an error -/

namespace Endpoint

/-- What stands before an error that a backend tells: nothing where a body was passed on, and the
name of the runner where something was asked at a position. -/
def errorStart (e : Endpoint) : String :=
  if e.target?.isSome then "" else "Docker Model Runner: "

/-- The text that a client gets for the error of a backend. -/
def errorText (e : Endpoint) (reply : Reply) : String :=
  match reply.json? with
  | none => "Server Connection Error"
  | some v =>
    match v.given "error" with
    | some (.str text) => e.errorStart ++ text
    | some told => e.errorStart ++ told.render
    | none =>
      if e.target?.isSome then "Docker Model Runner: HTTP " ++ Text.numeral reply.status
      else "Server Connection Error"

end Endpoint

section Texts

variable {e : Endpoint}

theorem toldError?_eq (v : Json) :
    toldError? v = (v.given "error").map fun told =>
      match told with
      | .str text => text
      | told => told.render := by
  unfold toldError? Json.given
  cases v.field? "error" with
  | none => rfl
  | some told => cases told <;> rfl

/-- The error for a body that was passed on tells the text. -/
theorem error_eq_backend (htarget : e.target?.isSome = true) (reply : Reply) :
    reply.error = .backend reply.status (e.errorText reply) := by
  unfold Reply.error Endpoint.errorText
  cases reply.json? with
  | none => rfl
  | some v =>
      simp only [toldError?_eq, Endpoint.errorStart, htarget, if_true]
      cases v.given "error" with
      | none => rfl
      | some told => cases told <;> simp

/-- The error for what was asked at a position tells the text. -/
theorem listingError_eq_backend (htarget : e.target? = none) (reply : Reply) :
    reply.listingError = .backend reply.status (e.errorText reply) := by
  unfold Reply.listingError Endpoint.errorText
  cases reply.json? with
  | none => rfl
  | some v =>
      simp only [toldError?_eq, Endpoint.errorStart, htarget, Option.bind_some]
      cases v.given "error" with
      | none => rfl
      | some told => cases told <;> rfl

end Texts

/-! ## Calls that settle an answer -/

/-- Calls a backend, and makes a result or an error of the outcome. -/
def calling {α : Type} (c : Call) (interpret : Outcome → Except GatewayError α) : Attempt α := do
  attempt (interpret (← Task.call c))

/-- No backend is called. -/
def Silent : Discipline :=
  fun _ op => ∀ calls, op ≠ .exchange calls

section Calling

variable {α β : Type} {c : Call} {interpret : Outcome → Except GatewayError α} {f : α → Attempt β}
  {start later : List Act} {calls : List Call} {next : List Outcome → Task (Except GatewayError β)}

theorem run_calling (c : Call) (interpret : Outcome → Except GatewayError α)
    (f : α → Attempt β) :
    (calling c interpret >>= f).run = .step (.exchange [c]) fun outcomes : List Outcome =>
      (attempt (interpret (outcomes.head?.getD (.error .badValue))) >>= f).run := by
  change Task.step (.exchange [c]) _ = _
  congr 1
  funext outcomes
  cases (outcomes : List Outcome) <;> rfl

/-- Of a call, and what is done with its result without calling anybody, there is left after the
outcome what is made of it. -/
theorem reaches_calling (hf : ∀ a, (f a).Heeds Silent)
    (h : (calling c interpret >>= f).run.Reaches start later (.step (.exchange calls) next)) :
    later = start ∧ ∀ outcome, next [outcome] = (attempt (interpret outcome) >>= f).run := by
  rw [run_calling] at h
  cases h with
  | here => exact ⟨rfl, fun _ => rfl⟩
  | step outcomes hadmits hrest =>
      -- What comes after the outcome calls nobody, so it never stands before another call.
      have hsilent : (attempt (interpret
          ((outcomes : List Outcome).head?.getD (.error .badValue))) >>= f).Heeds Silent :=
        Attempt.heeds_attempt_bind fun a _ => hf a
      exact absurd rfl (Task.Heeds.allowed_of_reaches hsilent hrest calls)

end Calling

/-! ## Calls that a request is about -/

/-- The call is what the route is about: a body is passed on to a backend, or the list or the
version of the backend at a position is asked for. -/
def Route.Relays (call : Call) (route : Route) : Prop :=
  (∃ path, route.endpoint.target? = some (call.method, path)) ∨
    (route.endpoint = .tags ∨ route.endpoint = .version) ∧ route.position ≠ none

/-- The operation asks for something, keeps the catalogue that was asked for, or takes a turn. -/
def Chooses : Discipline :=
  fun _ op => op.Asks ∨ ∃ model, op = .turn model

/-- Nothing but the configuration is looked at. -/
def Reads : Discipline :=
  fun _ op => op = .config

theorem chooses_letsAsk : Discipline.LetsAsk Chooses :=
  letsAsk_of_permits fun _ hasks _ => .inl hasks

theorem heeds_chooses_choose (e : Endpoint) (idx : Option Nat) (model : String) :
    (e.choose idx model).Heeds Chooses :=
  heeds_choose chooses_letsAsk.toLetsLook (fun model _ => .inr ⟨model, rfl⟩) e idx model

theorem reads_permits_config : Discipline.Permits Reads .config :=
  fun _ => rfl

theorem chooses_of_reads {past : List Act} {op : Op} (h : Reads past op) : Chooses past op := by
  obtain rfl := h
  exact .inl trivial

theorem method_ne_get {e : Endpoint} {method : Method} {path : String}
    (htarget : e.target? = some (method, path)) : method ≠ .get := by
  rintro rfl
  cases e <;> cases htarget

section Relaying

variable {rules : Rules} {r : Request} {route : Route} {idx : Option Nat} {e : Endpoint}
  {call : Call} {start before : List Act}
  {next : List Outcome → Task (Except GatewayError Response)}

/-- A body is taken and passed on after a backend was chosen, and nothing is done after that but
what is made of the reply. -/
theorem relays_body {path : String} (htarget : e.target? = some (call.method, path))
    (h : (serve rules r idx e).run.Reaches [] before (.step (.exchange [call]) next)) :
    ∃ v b, bodyOf r = .ok v ∧ (e.choose idx (e.sought idx v)).run.Leads [] before (.ok b) ∧
      ∀ outcome, next [outcome] =
        (attempt (accepted outcome) >>= fun reply => e.answer v reply).run := by
  by_cases htakes : e.Takes r
  · obtain ⟨v, hv, -, _, _, -, body, -, hserve⟩ :=
      exists_passesOn_of_takes rules idx (by simp [htarget]) htakes
    rw [hserve] at h
    rcases Attempt.reaches_step_of_bind h with ⟨first, hfirst⟩ | ⟨between, b, hleads, hrest⟩
    · -- While a backend is chosen, backends are only asked for something.
      rcases (heeds_chooses_choose e idx _).allowed_of_reaches hfirst with hasks | ⟨model, hturn⟩
      · have hget : call.method = .get := hasks call List.mem_cons_self
        exact absurd hget (method_ne_get htarget)
      · exact nomatch hturn
    · have hanswer (reply : Reply) : (e.answer v reply).Heeds Silent :=
        heeds_answer (fun _ => nofun) e v reply
      obtain ⟨rfl, hnext⟩ := reaches_calling hanswer hrest
      exact ⟨v, b, hv, hleads, hnext⟩
  · obtain ⟨text, hthrow⟩ := exists_serve_eq_throw rules idx htakes
    rw [hthrow] at h
    exact nomatch (Task.reaches_pure_iff.1 h).2

/-- What is asked at a position is asked after the backend was found there. -/
theorem relays_fetch {i : Nat} {path : String} {headers : Headers} (hstart : Heeded Reads start)
    (h : Task.Reaches (ExceptT.run (backendAt i >>= fun b => do
        return Response.ofJson 200 (← fetch (b.endpoint path) b.config.bearerKey headers)))
      start before (.step (.exchange [call]) next)) :
    Heeded Reads before ∧
      ∀ reply, reply.isSuccess = false → next [.ok reply] = .done (.error reply.listingError) := by
  have hat : (backendAt i).Heeds Reads := heeds_backendAt reads_permits_config i
  rcases Attempt.reaches_step_of_bind h with ⟨first, hfirst⟩ | ⟨between, b, hleads, hrest⟩
  · exact nomatch hat.allowed_of_reaches hfirst
  · have hanswer (v : Json) : Attempt.Heeds Silent (pure (Response.ofJson 200 v)) :=
      Attempt.heeds_pure _
    obtain ⟨rfl, hnext⟩ := reaches_calling hanswer hrest
    refine ⟨hleads.heeded hat hstart, fun reply hreply => ?_⟩
    simp only [hnext, listing, hreply]
    rfl

/-- The version at a position is asked for if the interface is enabled. -/
theorem relays_version {i : Nat}
    (h : (version (some i)).run.Reaches [] before (.step (.exchange [call]) next)) :
    Heeded Reads before ∧
      ∀ reply, reply.isSuccess = false → next [.ok reply] = .done (.error reply.listingError) := by
  have hconfig : (monadLift Task.config : Attempt RunnerConfig).Heeds Reads :=
    Attempt.heeds_lift (heeds_config reads_permits_config)
  rcases Attempt.reaches_step_of_bind h with ⟨first, hfirst⟩ | ⟨between, c, hleads, hrest⟩
  · exact nomatch hconfig.allowed_of_reaches hfirst
  · by_cases henabled : c.enabled = true
    · rw [if_pos henabled] at hrest
      exact relays_fetch (hleads.heeded hconfig trivial) hrest
    · rw [if_neg henabled] at hrest
      exact nomatch (Task.reaches_pure_iff.1 hrest).2

/-- Up to a call a request has done nothing but choose a backend, by its position if that is given,
and an error of the backend is all that is left of the request. -/
structure Route.Quotes (before : List Act)
    (next : List Outcome → Task (Except GatewayError Response)) (route : Route) : Prop where
  chooses : Heeded Chooses before
  reads : route.position ≠ none → Heeded Reads before
  error : ∀ reply, reply.isSuccess = false → next [.ok reply] =
    .done (.error (.backend reply.status (route.endpoint.errorText reply)))

theorem quotes_of_target {path : String} (hserved : Served rules r route idx)
    (htarget : route.endpoint.target? = some (call.method, path))
    (h : (serve rules r idx route.endpoint).run.Reaches [] before (.step (.exchange [call]) next)) :
    route.Quotes before next := by
  have hsome : route.endpoint.target?.isSome = true := by simp [htarget]
  obtain ⟨v, b, -, hleads, hnext⟩ := relays_body htarget h
  refine ⟨hleads.heeded (heeds_chooses_choose _ _ _) trivial, fun hposition => ?_, ?_⟩
  · obtain ⟨i, rfl⟩ := exists_index_of_position hposition hserved.index
    have hindexed := isIndexed_of_position hserved.found hposition
    have hat : route.endpoint.position? (some i) = some i := by
      simp [Endpoint.position?, hindexed]
    rw [choose_of_position? htarget hat] at hleads
    exact hleads.heeded (heeds_backendAt reads_permits_config i) trivial
  · intro reply hreply
    have hrefused : accepted (.ok reply) = .error reply.error := by simp [accepted, hreply]
    rw [hnext, hrefused, error_eq_backend hsome]
    rfl

theorem quotes_of_position (hserved : Served rules r route idx)
    (hasks : route.endpoint = .tags ∨ route.endpoint = .version) (hposition : route.position ≠ none)
    (h : (serve rules r idx route.endpoint).run.Reaches [] before (.step (.exchange [call]) next)) :
    route.Quotes before next := by
  obtain ⟨i, rfl⟩ := exists_index_of_position hposition hserved.index
  have htarget : route.endpoint.target? = none := by
    rcases hasks with he | he <;> rw [he] <;> rfl
  have hfetched : Heeded Reads before ∧
      ∀ reply, reply.isSuccess = false → next [.ok reply] = .done (.error reply.listingError) := by
    rcases hasks with he | he
    · rw [he] at h
      have hstart : Heeded Reads [] := trivial
      exact relays_fetch hstart h
    · rw [he] at h
      exact relays_version h
  obtain ⟨hreads, herror⟩ := hfetched
  refine ⟨hreads.mono fun _ _ => chooses_of_reads, fun _ => hreads, fun reply hreply => ?_⟩
  rw [herror reply hreply, listingError_eq_backend htarget]

/-- A request before an operation passed all gates, and is at what its endpoint does. -/
theorem exists_served_of_reaches {op : Op} {next : op.Answer → Task Response}
    (hroute : Route.ofPath? r.path = some route)
    (h : (respond rules r).Reaches [] before (.step op next)) :
    ∃ idx first, Served rules r route idx ∧
      (serve rules r idx route.endpoint).run.Reaches [] before (.step op first) ∧
      ∀ answer, next answer = first answer >>= fun result => pure (r.shown (.ofResult result)) := by
  rcases served_or_exists_respond rules r with ⟨route', idx, hserved⟩ | ⟨response, hrespond⟩
  · obtain rfl : route = route' := Option.some.inj (hroute.symm.trans hserved.found)
    rw [respond_of_served hserved] at h
    rcases Task.Reaches.step_of_bind h with ⟨first, hfirst, rfl⟩ | ⟨between, result, -, hrest⟩
    · exact ⟨idx, first, hserved, hfirst, fun _ => rfl⟩
    · exact nomatch (Task.reaches_pure_iff.1 hrest).2
  · rw [hrespond] at h
    exact nomatch (Task.reaches_pure_iff.1 h).2

/-- A request that waits for the call that it is about was served up to that call. -/
theorem exists_quotes_of_relays {next : List Outcome → Task Response}
    (hroute : Route.ofPath? r.path = some route) (hrelays : route.Relays call)
    (h : (respond rules r).Reaches [] before (.step (.exchange [call]) next)) :
    ∃ first, route.Quotes before first ∧
      ∀ outcomes, next outcomes =
        first outcomes >>= fun result => pure (r.shown (.ofResult result)) := by
  obtain ⟨idx, first, hserved, hfirst, hnext⟩ := exists_served_of_reaches hroute h
  refine ⟨first, ?_, hnext⟩
  rcases hrelays with ⟨path, htarget⟩ | ⟨hasks, hposition⟩
  · exact quotes_of_target hserved htarget hfirst
  · exact quotes_of_position hserved hasks hposition hfirst

theorem ofError_backend {status : Nat} (h : 400 ≤ status ∧ status ≤ 599) (text : String) :
    Response.ofError (.backend status text) =
      .ofJson status (.obj [("error", .str text)]) := by
  have hstatus : GatewayError.responseStatus (.backend status text) = status :=
    responseStatus_eq_status ⟨by simp only [GatewayError.status]; omega,
      by simp only [GatewayError.status]; omega⟩
  rw [Response.ofError, hstatus]
  rfl

end Relaying

/-! ## Errors as clients get them -/

/-- When a backend answers what a request is about with an error, the request is answered with the
status of the backend, and with nothing but an object that has the text of the error, of which who
asks for the headers alone gets no body.  Nothing else changes; and up to then the request has not
thrown the catalogue away, nor written anything, and at a position it has only read the
configuration. -/
theorem backend_error_is_quoted (rules : Rules) (seed : RunnerConfig) (store : Option Store)
    (events : List Event) (i : Nat) (r : Request) (route : Route) (call : Call)
    (next : List Outcome → Task Response) (reply : Reply)
    (hroute : Route.ofPath? r.path = some route) (hrelays : route.Relays call)
    (hthread : ((System.start seed store).run rules events).threads[i]? =
      some ⟨.respond r, .waiting [call] next⟩)
    (hstatus : 400 ≤ reply.status ∧ reply.status ≤ 599) :
    let s := (System.start seed store).run rules events
    let answer : Response :=
      .ofJson reply.status (.obj [("error", .str (route.endpoint.errorText reply))])
    s.step rules (.answered i [.ok reply]) =
        s.advance i ⟨.respond r, .going (.done (r.shown answer))⟩
          (.did (.exchange [call]) [.ok reply]) s.state ∧
      ∀ op answer, .did op answer ∈ s.log.past i →
        (op.Asks ∨ ∃ model, op = .turn model) ∧ (route.position ≠ none → op = .config) := by
  intro s answer
  have hfollows := System.follows_run rules seed store events
  obtain ⟨before, hpast, hreaches⟩ := hfollows.threads i _ hthread
  obtain ⟨first, hquotes, hnext⟩ := exists_quotes_of_relays hroute hrelays hreaches
  constructor
  · have hfailed : reply.isSuccess = false := by
      simp only [Reply.isSuccess]
      grind
    have hrest : next [.ok reply] = .done (r.shown answer) := by
      rw [hnext, hquotes.error reply hfailed]
      exact congrArg (fun response => Task.done (r.shown response)) (ofError_backend hstatus _)
    have hstep : s.step rules (.answered i [.ok reply]) =
        s.advance i ⟨.respond r, .going (next [.ok reply])⟩
          (.did (.exchange [call]) [.ok reply]) s.state := by
      simp only [System.step, s, hthread]
      rfl
    -- The result of the job is an answer only after `Job.Result` is unfolded.
    simp only [hstep, hrest]
    rfl
  · intro op found hmem
    have hbefore : Act.did op found ∈ before := by
      rw [hpast] at hmem
      rcases List.mem_cons.1 hmem with hsent | hbefore
      · cases hsent
      · exact hbefore
    obtain ⟨earlier, -, hchosen⟩ := hquotes.chooses.exists_of_did hbefore
    refine ⟨hchosen, fun hposition => ?_⟩
    obtain ⟨earlier', -, hread⟩ := (hquotes.reads hposition).exists_of_did hbefore
    exact hread

/-- A wish to delete a model. -/
def deleting (path : String) : Request where
  method := "DELETE"
  path := path
  headers := [.ofText contentType jsonType]
  body := "\x7b\"model\":\"z:latest\"\x7d".toUTF8.toList

/-- An error that is no text, with a header that is nobody's business. -/
def structuredError : Reply where
  status := 503
  headers := [.ofText "X-Internal" "1"]
  body := { bytes := "\x7b\"error\":\x7b\"code\":7\x7d\x7d".toUTF8.toList }

/-- The error is quoted as JSON, without the header, and nothing is deleted from the catalogue. -/
theorem backend_error_is_quoted_deleting :
    let s := (System.start { baseUrls := ["http://a"] } none).run {}
      [.begins (.respond (deleting "/api/delete/0")), .moves 0, .moves 0]
    let s' := s.step {} (.answered 0 [.ok structuredError])
    s'.state = s.state ∧ s'.threads[0]? = some ⟨.respond (deleting "/api/delete/0"),
      .going (.done (.ofJson 503 (.obj [("error", .str "\x7b\"code\":7\x7d")])))⟩ := by
  intro s s'
  have hwaits : ((s.threads[0]?).bind Thread.sole?).map (fun found => (found.1, found.2.method)) =
      some (deleting "/api/delete/0", .delete) := by decide +kernel
  obtain ⟨⟨r, call⟩, hfound, hsame⟩ := Option.map_eq_some_iff.1 hwaits
  obtain ⟨rfl, hmethod⟩ := Prod.mk.inj hsame
  obtain ⟨thread, hthread, hsole⟩ := Option.bind_eq_some_iff.1 hfound
  obtain ⟨next, rfl⟩ := exists_of_sole? hsole
  have hroute : Route.ofPath? (deleting "/api/delete/0").path = some ⟨.delete, some ['0']⟩ := by
    decide +kernel
  have hrelays : Route.Relays call ⟨.delete, some ['0']⟩ := by
    refine .inl ⟨"/api/delete", ?_⟩
    rw [hmethod]
    rfl
  obtain ⟨hstep, -⟩ := backend_error_is_quoted {} { baseUrls := ["http://a"] } none _ 0 _ _ call
    next structuredError hroute hrelays hthread (by decide)
  have htext : Endpoint.delete.errorText structuredError = "\x7b\"code\":7\x7d" := by
    decide +kernel
  rw [Request.shown_eq_self (by decide), htext] at hstep
  have hs' : s' = _ := hstep
  have hlength : 0 < s.threads.length := by
    by_contra hnone
    simp [List.getElem?_eq_none (not_lt.1 hnone)] at hthread
  rw [hs']
  exact ⟨rfl, List.getElem?_set_self hlength⟩

/-- A network on which a backend lists a model, but does not delete it. -/
def refusingNetwork : Network Unit :=
  fun _ w =>
    let list := "\x7b\"models\":[\x7b\"model\":\"z:latest\"\x7d]\x7d".toUTF8.toList
    (.answered { status := if w.method = .delete then 500 else 200, body := { bytes := list } }, ())

/-- A network on which every request gets an error. -/
def failingNetwork : Network Unit :=
  fun _ _ => (.answered structuredError, ())

/-- A request for the headers of the list at position 0. -/
def askingHeadAtZero : Request where
  method := "HEAD"
  path := "/api/tags/0"

/-- A deletion that fails may have looked its model up in a new catalogue before, which is kept; and
who asks for the headers alone gets no text of an error. -/
theorem failed_deletion_may_keep_a_catalogue :
    let start := (System.start { baseUrls := ["http://a"] } none).state
    let deleted := (respond {} (deleting "/api/delete")).run {} refusingNetwork start ()
    let asked := (respond {} askingHeadAtZero).run {} failingNetwork start ()
    (deleted.1.status = 500 ∧ start.catalogue.isSome = false ∧
      deleted.2.1.catalogue.isSome = true) ∧
      asked.1.status = 503 ∧ ¬∃ text, asked.1.body = .ofJson (.obj [("error", .str text)]) := by
  intro start deleted asked
  refine ⟨⟨by decide +kernel, rfl, by decide +kernel⟩, by decide +kernel, ?_⟩
  have hempty : asked.1.body = {} := by decide +kernel
  rintro ⟨text, htext⟩
  exact ofJson_obj_ne_empty _ (htext.symm.trans hempty)

end Gateway
end RunnerGateway
