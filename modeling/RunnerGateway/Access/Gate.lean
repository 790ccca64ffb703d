import RunnerGateway.Access.Keys
import RunnerGateway.Error

/-!
# Admission

Some routes are for everyone, some for users and some for administrators.  Users need a key only if
one is set; without a key for administration nobody is an administrator.
-/

namespace RunnerGateway
namespace Access

open Http

/-- Whom a route is for. -/
inductive Audience
  | everyone
  | users
  | administrators
  deriving DecidableEq, Repr

/-- The key of a request, which must be one that `accepts` takes. -/
def admitKey (headers : Headers) (accepts : String → Bool) (wrong : String) :
    Except GatewayError Unit :=
  match keyOf? headers with
  | none => .error (.authentication "missing API key")
  | some key => if accepts key then .ok () else .error (.authentication wrong)

/-- A request with the given headers may use a route for the audience. -/
def Audience.admit (keys : Keys) (headers : Headers) (a : Audience) : Except GatewayError Unit :=
  match a with
  | .everyone => .ok ()
  | .users =>
    if keys.disabled || !keys.needsUserKey then .ok ()
    else admitKey headers keys.isUserKey "invalid API key"
  | .administrators =>
    if keys.disabled then .ok ()
    else if keys.hasAdminKey then admitKey headers keys.isAdminKey "invalid admin API key"
    else .error (.authorization "admin API key is not configured")

end Access
end RunnerGateway
