import RunnerGateway.Http.Message
import RunnerGateway.Text.Base64
import RunnerGateway.Url

/-!
# Calls to backends

A call is what the gateway wants of a backend; a request on the wire is what a backend gets to see.
Between the two the URL is read, its user name and password become a header, and the key becomes
another one.  Some calls have no request at all, because their URL or a header value cannot be used.

The outcome of a call is the reply of the backend, or the reason why there is none.
-/

namespace RunnerGateway
namespace Exchange

open Http

/-- What is done with the resource of a URL. -/
inductive Method
  | get
  | post
  | delete
  deriving DecidableEq, Repr

/-- The method as it is sent. -/
def Method.label : Method → String
  | .get => "GET"
  | .post => "POST"
  | .delete => "DELETE"

/-- What the gateway wants of a backend. -/
structure Call where
  method : Method
  url : String
  key : Option String := none
  headers : Headers := []
  payload : Option Json := none

/-- What a backend gets to see. -/
structure WireRequest where
  method : Method
  url : Url
  headers : Headers
  body : List UInt8
  deriving DecidableEq, Repr

/-- Why a call got no reply. -/
inductive CallFault
  | badValue
  | badUrl (url : Option Url)
  | noConnection (url : Url)
  | late (url : Url)
  deriving DecidableEq, Repr

/-- The end of a message about a URL. -/
def forUrl (url : Url) : String :=
  " for url (" ++ url.toText ++ ")"

namespace CallFault

/-- The fault in words; a password is not shown. -/
def message : CallFault → String
  | .badValue => "builder error"
  | .badUrl none => "builder error"
  | .badUrl (some url) => "builder error" ++ forUrl url
  | .noConnection url => "error sending request" ++ forUrl url
  | .late url => "error sending request" ++ forUrl url

/-- The backend did not answer in time. -/
def isLate : CallFault → Bool
  | .late _ => true
  | _ => false

end CallFault

/-- A URL whose text can stand in a request: its scheme is that of a web page, and its host has only
characters that may stand in a request. -/
def canSend (url : Url) : Bool :=
  (url.scheme = "http" || url.scheme = "https") &&
    (url.host.getD "").toList.all fun c =>
      !(c = '"' || c = '\x60' || c = '\x7b' || c = '\x7d')

/-- The text of percent escapes that are UTF-8. -/
def unescaped? (text : String) : Option String :=
  String.fromUTF8? (Url.percentDecode text.toUTF8.toList).toByteArray

/-- The header for the user name and the password of a URL, if it has either. -/
def userHeader? (url : Url) : Option Header :=
  (unescaped? url.username).bind fun name =>
    let password := if url.password = "" then none else unescaped? url.password
    if name = "" ∧ password = none then none
    else
      let credentials := (name ++ ":" ++ password.getD "").toUTF8.toList
      some (.ofText "authorization" ("Basic " ++ String.ofList (Text.base64 credentials)))

/-- The header for a key, if the key can stand in one. -/
def keyHeader? (key : String) : Option Header :=
  (Header.valueOf? ("Bearer " ++ key)).map fun value => ⟨"authorization", value⟩

/-- The headers with those of `others` in place of their own ones of the same name. -/
def replaceHeaders (headers others : Headers) : Headers :=
  (headers.filter fun h => !others.any fun o => o.name = h.name) ++ others

namespace Call

/-- The headers of a call to a URL. -/
def wireHeaders (c : Call) (url : Url) : Except CallFault Headers :=
  let own := (userHeader? url).toList ++ [.ofText contentType jsonType]
  let headers := replaceHeaders own c.headers
  match c.key with
  | none => .ok headers
  | some key =>
    match keyHeader? key with
    | some header => .ok (headers ++ [header])
    | none => .error .badValue

/-- The URL of a call and the headers of its request. -/
def address (c : Call) : Except CallFault (Url × Headers) :=
  match Url.parse? c.url with
  | none => .error (.badUrl none)
  | some url =>
    if url.host = none then .error (.badUrl (some url))
    else
      match c.wireHeaders url with
      | .error fault => .error fault
      | .ok headers => if canSend url then .ok (url, headers) else .error (.badUrl (some url))

/-- The request of a call to a URL; neither the user nor the fragment of the URL stands in it. -/
def request (c : Call) (url : Url) (headers : Headers) : WireRequest where
  method := c.method
  url := { url with username := "", password := "", fragment := none }
  headers := headers
  body := (c.payload.map fun v => v.render.toUTF8.toList).getD []

/-- The request of a call, if it has one. -/
def request? (c : Call) : Option WireRequest :=
  match c.address with
  | .ok (url, headers) => some (c.request url headers)
  | .error _ => none

section Requests

variable {c : Call} {w : WireRequest}

/-- A call with a request has a URL that can be read, and can stand in a request. -/
theorem exists_of_address_eq_ok {url : Url} {headers : Headers}
    (h : c.address = .ok (url, headers)) :
    Url.parse? c.url = some url ∧ c.wireHeaders url = .ok headers ∧ canSend url = true := by
  unfold address at h
  split at h
  · cases h
  · rename_i url' hparse
    split at h
    · cases h
    · split at h
      · cases h
      · rename_i headers' hheaders
        split at h
        · rename_i hsend
          obtain ⟨rfl, rfl⟩ := Prod.mk.inj (Except.ok.inj h)
          exact ⟨hparse, hheaders, hsend⟩
        · cases h

theorem exists_of_request? (h : c.request? = some w) :
    ∃ url headers, Url.parse? c.url = some url ∧ c.wireHeaders url = .ok headers ∧
      canSend url = true ∧ w = c.request url headers := by
  unfold request? at h
  split at h
  · rename_i url headers haddress
    obtain ⟨hparse, hheaders, hsend⟩ := exists_of_address_eq_ok haddress
    exact ⟨url, headers, hparse, hheaders, hsend, (Option.some.inj h).symm⟩
  · cases h

theorem method_of_request? (h : c.request? = some w) : w.method = c.method := by
  obtain ⟨url, headers, -, -, -, rfl⟩ := exists_of_request? h
  rfl

/-- The body of a request is the text of what the call has to send. -/
theorem body_of_request? (h : c.request? = some w) :
    w.body = (c.payload.map fun v => v.render.toUTF8.toList).getD [] := by
  obtain ⟨url, headers, -, -, -, rfl⟩ := exists_of_request? h
  rfl

end Requests

end Call

/-- What a backend answers. -/
structure Reply where
  status : Nat
  headers : Headers := []
  body : Body := {}
  deriving DecidableEq, Repr

/-- The outcome of a call. -/
abbrev Outcome := Except CallFault Reply

/-- What the network makes of a request. -/
inductive Delivery
  | lost
  | late
  | answered (reply : Reply)
  deriving DecidableEq, Repr

/-- The outcome of a call to a URL whose request the network treats so. -/
def Delivery.outcome (url : Url) : Delivery → Outcome
  | .lost => .error (.noConnection url)
  | .late => .error (.late url)
  | .answered reply => .ok reply

/-- The outcome of a call, if `deliver` is what the network makes of requests. -/
def Call.outcome (c : Call) (deliver : WireRequest → Delivery) : Outcome :=
  match c.address with
  | .error fault => .error fault
  | .ok (url, headers) => (deliver (c.request url headers)).outcome url

end Exchange
end RunnerGateway
