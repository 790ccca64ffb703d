import RunnerGateway.Proofs.Admission
import RunnerGateway.Proofs.Forwarding

/-!
# From requests to answers

A request is `Served` if it passes all gates: its path has a route, the client is admitted, the
method is one of the route's, and the position in the path is a number.  What is done for such a
request is what its endpoint does (`respond_of_served`); for any other nothing is done.  An endpoint
that reads a body begins with that, and goes no further if it does not take the body
(`exists_serve_eq_throw`).
-/

namespace RunnerGateway

namespace Http

/-- The answer that comes of an attempt. -/
def Response.ofResult : Except GatewayError Response → Response
  | .ok response => response
  | .error e => .ofError e

end Http

namespace Gateway

open Exchange Http

theorem settled_eq (x : Attempt Response) :
    settled x = x.run >>= fun result => pure (.ofResult result) := by
  unfold settled
  congr 1
  funext result
  cases result <;> rfl

/-! ## Requests that pass all gates -/

/-- The request passes all gates on its route, which names the position `idx`. -/
structure Served (rules : Rules) (r : Request) (route : Route) (idx : Option Nat) : Prop where
  found : Route.ofPath? r.path = some route
  admitted : route.endpoint.audience.admit rules.keys r.headers = .ok ()
  known : route.endpoint.methods.contains r.method = true
  index : route.index = .ok idx

section Requests

variable {rules : Rules} {r : Request} {route : Route} {idx : Option Nat}

/-- A request that passes all gates is served. -/
theorem respond_of_served (h : Served rules r route idx) :
    respond rules r =
      (serve rules r idx route.endpoint).run >>= fun result =>
        pure (r.shown (.ofResult result)) := by
  have hfollow : follow rules r route = serve rules r idx route.endpoint := by
    rw [follow, h.index]
    rfl
  simp only [respond, h.found, respondOn, h.admitted, h.known, if_true, settled_eq, hfollow,
    bind_assoc, pure_bind]
  rfl

/-- If the position is no number, nothing is done. -/
theorem respond_of_unread {e : GatewayError} (hroute : Route.ofPath? r.path = some route)
    (hadmitted : route.endpoint.audience.admit rules.keys r.headers = .ok ())
    (hknown : route.endpoint.methods.contains r.method = true) (hindex : route.index = .error e) :
    respond rules r = pure (r.shown (.ofError e)) := by
  have hfollow : follow rules r route = throw e := by
    rw [follow, hindex]
    rfl
  simp only [respond, hroute, respondOn, hadmitted, hknown, if_true, settled_eq, hfollow]
  rfl

/-- Either a request passes all gates, or nothing is done for it. -/
theorem served_or_exists_respond (rules : Rules) (r : Request) :
    (∃ route idx, Served rules r route idx) ∨ ∃ response, respond rules r = pure response := by
  cases hroute : Route.ofPath? r.path with
  | none =>
      refine .inr ⟨r.shown { status := 404 }, ?_⟩
      simp only [respond, hroute, pure_bind]
      rfl
  | some route =>
      cases hadmit : route.endpoint.audience.admit rules.keys r.headers with
      | error e =>
          obtain ⟨more, hrespond⟩ := exists_respond_of_refused hroute hadmit
          exact .inr ⟨_, hrespond⟩
      | ok admitted =>
          by_cases hknown : route.endpoint.methods.contains r.method = true
          · cases hindex : route.index with
            | error e => exact .inr ⟨_, respond_of_unread hroute hadmit hknown hindex⟩
            | ok idx => exact .inl ⟨route, idx, hroute, hadmit, hknown, hindex⟩
          · refine .inr ⟨r.shown (allowing route.endpoint { status := 405 }), ?_⟩
            simp only [respond, hroute, respondOn, hadmit, hknown]
            rfl

end Requests

/-! ## Bodies -/

namespace Endpoint

/-- The endpoint does something with the body of a request. -/
def readsBody (e : Endpoint) : Bool :=
  e.target?.isSome || e = .verify || e = .configUpdate

/-- The endpoint takes the body of the request. -/
def Takes (r : Request) : Endpoint → Prop
  | .verify => ∃ v form, bodyOf r = .ok v ∧ VerifyForm.decode v = .ok form
  | .configUpdate => ∃ v form, bodyOf r = .ok v ∧ ConfigUpdate.decode v = .ok form
  | e => e.target? ≠ none → ∃ v, bodyOf r = .ok v ∧ e.Accepts v

end Endpoint

theorem attempt_error_bind {α β : Type} (e : GatewayError) (f : α → Attempt β) :
    attempt (.error e) >>= f = throw e :=
  rfl

/-- A body that cannot be read is told to be invalid. -/
theorem exists_of_bodyOf_eq_error {r : Request} {e : GatewayError} (h : bodyOf r = .error e) :
    ∃ text, e = .validation text := by
  unfold bodyOf at h
  cases hjson : r.json with
  | error fault =>
      rw [hjson] at h
      exact ⟨_, (Except.error.inj h).symm⟩
  | ok v =>
      rw [hjson] at h
      cases h

/-- Either the body has the form, or it is told to be invalid. -/
theorem formOf_cases {F : Type} (parse : Json → Except FormFault F) (r : Request) :
    (∃ v f, bodyOf r = .ok v ∧ parse v = .ok f) ∨
      ∃ text, formOf parse r = .error (.validation text) := by
  cases hbody : bodyOf r with
  | error e =>
      obtain ⟨text, rfl⟩ := exists_of_bodyOf_eq_error hbody
      refine .inr ⟨text, ?_⟩
      rw [formOf, hbody]
      rfl
  | ok v =>
      cases hparse : parse v with
      | ok f => exact .inl ⟨v, f, rfl, hparse⟩
      | error fault =>
          refine .inr ⟨fault.message, ?_⟩
          simp [formOf, hbody, hparse, bind, Except.bind, Except.mapError]

section Bodies

variable {r : Request} {F : Type} {parse : Json → Except FormFault F}

/-- What begins with reading a form goes no further without one. -/
theorem exists_eq_throw_of_formOf {f : F → Attempt Response}
    (h : ¬∃ v, bodyOf r = .ok v ∧ ∃ form, parse v = .ok form) :
    ∃ text, attempt (formOf parse r) >>= f = throw (.validation text) := by
  rcases formOf_cases parse r with ⟨v, form, hv, hform⟩ | ⟨text, htext⟩
  · exact (h ⟨v, hv, form, hform⟩).elim
  · refine ⟨text, ?_⟩
    rw [htext, attempt_error_bind]

/-- What begins with reading the name of a model goes no further without one. -/
theorem exists_eq_throw_of_requireModel {f : ModelNameForm → String → Attempt Response}
    (h : ¬∃ v, bodyOf r = .ok v ∧ ∃ form model, ModelNameForm.parse v = .ok form ∧
      form.requireModel = .ok model) :
    ∃ text, (attempt (formOf ModelNameForm.parse r) >>= fun form =>
      attempt (form.requireModel.mapError fun fault => .validation fault.message) >>= f form) =
        throw (.validation text) := by
  rcases formOf_cases ModelNameForm.parse r with ⟨v, form, hv, hform⟩ | ⟨text, htext⟩
  · rw [formOf_eq_ok hv hform, attempt_ok, pure_bind]
    cases hnamed : form.requireModel with
    | ok model => exact (h ⟨v, hv, form, model, hform, hnamed⟩).elim
    | error fault => exact ⟨fault.message, rfl⟩
  · refine ⟨text, ?_⟩
    rw [htext, attempt_error_bind]

/-- What begins with reading a record goes no further without one. -/
theorem exists_eq_throw_of_decode {decode : Json → Except Json.Cause F} {f : F → Attempt Response}
    (h : ¬∃ v form, bodyOf r = .ok v ∧ decode v = .ok form) :
    ∃ text, (attempt (bodyOf r) >>= fun v =>
      attempt ((decode v).mapError fun cause => .validation cause.message) >>= f) =
        throw (.validation text) := by
  cases hbody : bodyOf r with
  | error e =>
      obtain ⟨text, rfl⟩ := exists_of_bodyOf_eq_error hbody
      exact ⟨text, rfl⟩
  | ok v =>
      rw [attempt_ok, pure_bind]
      cases hform : decode v with
      | ok form => exact (h ⟨v, form, hbody, hform⟩).elim
      | error cause => exact ⟨cause.message, rfl⟩

/-- An endpoint does nothing with a body that it does not take. -/
theorem exists_serve_eq_throw (rules : Rules) (idx : Option Nat) {e : Endpoint}
    (h : ¬e.Takes r) :
    ∃ text, serve rules r idx e = throw (.validation text) := by
  cases e with
  | chat => exact exists_eq_throw_of_formOf fun hform => h fun _ => hform
  | generate => exact exists_eq_throw_of_formOf fun hform => h fun _ => hform
  | embed => exact exists_eq_throw_of_formOf fun hform => h fun _ => hform
  | embeddings => exact exists_eq_throw_of_formOf fun hform => h fun _ => hform
  | pull => exact exists_eq_throw_of_formOf fun hform => h fun _ => hform
  | describe => exact exists_eq_throw_of_requireModel fun hform => h fun _ => hform
  | delete => exact exists_eq_throw_of_requireModel fun hform => h fun _ => hform
  | verify => exact exists_eq_throw_of_decode h
  | configUpdate => exact exists_eq_throw_of_decode h
  | status | version | tags | config | loaded => exact (h fun hnone => (hnone rfl).elim).elim

/-- The seven endpoints that pass bodies on do so with every body that they take. -/
theorem exists_passesOn_of_takes (rules : Rules) (idx : Option Nat) {e : Endpoint}
    (htarget : e.target? ≠ none) (htakes : e.Takes r) :
    ∃ v, bodyOf r = .ok v ∧ e.Accepts v ∧ e.PassesOn rules r idx v := by
  have haccepted : ∃ v, bodyOf r = .ok v ∧ e.Accepts v := by
    cases e with
    | verify | configUpdate => exact (htarget rfl).elim
    | _ => exact htakes htarget
  obtain ⟨v, hv, haccepts⟩ := haccepted
  obtain ⟨members, rfl⟩ := exists_obj_of_accepts haccepts
  exact ⟨_, hv, haccepts, passesOn_of_accepts hv haccepts⟩

end Bodies

/-- Where one may look a model up, and take turns at any time, a backend may be chosen. -/
theorem heeds_choose {allowed : Discipline} (hlook : allowed.LetsLook)
    (hturn : ∀ model, allowed.Permits (.turn model)) (e : Endpoint) (idx : Option Nat)
    (model : String) : (e.choose idx model).Heeds allowed := by
  have hat (i : Nat) : (backendAt i).Heeds allowed := heeds_backendAt hlook.config i
  have hselect (model : String) : (select model).Heeds allowed :=
    heeds_select_of_permits hlook (hturn model)
  cases e with
  | describe => exact hselect model
  | pull => exact hat _
  | delete =>
      cases idx with
      | some i => exact hat i
      | none => exact heeds_firstServing hlook model
  | _ => exact heeds_resolve hlook (fun _ => hselect) model

/-- No answer needs more than throwing the catalogue away. -/
theorem heeds_answer {allowed : Discipline} (hinvalidate : allowed.Permits .invalidate)
    (e : Endpoint) (v : Json) (reply : Reply) : (e.answer v reply).Heeds allowed := by
  have hdocument : (Endpoint.document reply).Heeds allowed :=
    Attempt.heeds_bind (Attempt.heeds_attempt _) fun _ => Attempt.heeds_pure _
  have hstream (mediaType : Option String) : Attempt.Heeds allowed
      (if Endpoint.wantsStream v = true then pure (reply.passOn mediaType)
      else Endpoint.document reply) := by
    split
    · exact Attempt.heeds_pure _
    · exact hdocument
  cases e with
  | chat => exact hstream (some linesType)
  | generate => exact hstream none
  | pull => exact Attempt.heeds_pure _
  | delete =>
      have hthrown : Task.invalidate.Heeds allowed := Task.heeds_perform hinvalidate
      exact Attempt.heeds_bind (Attempt.heeds_lift hthrown) fun _ => Attempt.heeds_pure _
  | _ => exact hdocument

/-- A body is passed on within a discipline that allows the one call to the backend that was
chosen. -/
theorem heeds_of_passesOn {allowed : Discipline} (hlook : allowed.LetsLook)
    (hturn : ∀ model, allowed.Permits (.turn model)) (hinvalidate : allowed.Permits .invalidate)
    {rules : Rules} {r : Request} {idx : Option Nat} {v : Json} {e : Endpoint}
    {call : Backend → Call} (hserve : serve rules r idx e = (do
      let b ← e.choose idx (e.sought idx v)
      let reply ← send (call b)
      e.answer v reply))
    (hcall : ∀ start past b, (e.choose idx (e.sought idx v)).run.Leads start past (.ok b) →
      allowed past (.exchange [call b])) :
    (serve rules r idx e).Heeds allowed := by
  rw [hserve]
  refine Attempt.heeds_bind_of_leads (heeds_choose hlook hturn _ _ _) ?_
  intro start past b hleads
  exact Attempt.ensures_bind_of_heeds (ensures_send (hcall start past b hleads)) fun _ =>
    heeds_answer hinvalidate _ _ _

end Gateway
end RunnerGateway
