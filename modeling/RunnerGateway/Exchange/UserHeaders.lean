import RunnerGateway.Http.Header

/-!
# Headers about the user

The host application tells in headers who the user is.  If the operator wishes so, these headers are
passed on to the backends, and with them the conversation that a request belongs to.  No other
header of a client is ever passed on.
-/

namespace RunnerGateway
namespace Exchange

open Http

/-- How the names of the headers about the user begin. -/
def userStart : String := "x-openwebui-user-"

/-- The header for the conversation. -/
def chatHeader : String := "x-openwebui-chat-id"

/-- The header is about the user. -/
def isUserHeader (h : Header) : Bool :=
  (Text.after? userStart.toList h.name.toList).isSome

/-- The headers about the user; of several with one name the last one counts. -/
def userHeaders (incoming : Headers) : Headers :=
  (incoming.filter isUserHeader).foldl (fun hs h => Headers.set hs h.name h.value) []

/-- The header for a conversation, if its identifier can stand in one. -/
def chatHeaders (chat : Option String) : Headers :=
  ((chat.bind Header.valueOf?).map fun value => (⟨chatHeader, value⟩ : Header)).toList

/-- The headers that are passed on with a request. -/
def forwarded (wished : Bool) (incoming : Headers) (chat : Option String) : Headers :=
  if wished then userHeaders incoming ++ chatHeaders chat else []

end Exchange
end RunnerGateway
