import RunnerGateway.Access.Digest
import RunnerGateway.Http.Header

/-!
# Keys for the routes of the gateway

There is one key for administration and one for inference, each of which may be unset.  A request
carries its key in one of two headers.  The administrator's key opens the inference routes as well.
-/

namespace RunnerGateway
namespace Access

open Http

/-- The keys that are set. -/
structure Settings where
  adminKey : Option String := none
  userKey : Option String := none
  disabled : Bool := false

/-- The digests of the keys that are set, and whether they are looked at at all. -/
structure Keys where
  admin : Option Digest := none
  user : Option Digest := none
  disabled : Bool := false

namespace Keys

/-- The digests of the given keys. -/
def ofSettings (s : Settings) : Keys where
  admin := s.adminKey.map Digest.ofText
  user := s.userKey.map Digest.ofText
  disabled := s.disabled

/-- No key is looked at. -/
def unchecked : Keys where
  disabled := true

/-- A key for administration is set. -/
def hasAdminKey (k : Keys) : Bool :=
  k.admin.isSome

/-- Inference needs a key. -/
def needsUserKey (k : Keys) : Bool :=
  k.user.isSome

/-- The key is the one for administration. -/
def isAdminKey (k : Keys) (key : String) : Bool :=
  k.admin = some (Digest.ofText key)

/-- The key is one that opens the inference routes. -/
def isUserKey (k : Keys) (key : String) : Bool :=
  k.user = some (Digest.ofText key) || k.admin = some (Digest.ofText key)

end Keys

/-- The header for a bare key. -/
def keyHeader : String := "x-api-key"

/-- The header for a bearer key. -/
def bearerHeader : String := "authorization"

/-- What stands before a bearer key. -/
def bearerStart : List Char := ['B', 'e', 'a', 'r', 'e', 'r', ' ']

/-- The bare key of a request, unless it is empty or no plain text. -/
def bareKey? (hs : Headers) : Option (List Char) :=
  (Headers.text? hs keyHeader).filter fun key => !key.isEmpty

/-- The bearer key of a request without blanks around it, unless that leaves nothing. -/
def bearerKey? (hs : Headers) : Option (List Char) :=
  (((Headers.text? hs bearerHeader).bind (Text.after? bearerStart)).map Text.trimBlank).filter
    fun key => !key.isEmpty

/-- The key that a request carries; a bare key goes before a bearer key. -/
def keyOf? (hs : Headers) : Option String :=
  ((bareKey? hs).or (bearerKey? hs)).map String.ofList

end Access
end RunnerGateway
