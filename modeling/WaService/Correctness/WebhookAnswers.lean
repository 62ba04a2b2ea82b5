import WaService.Core.Subscripts
import WaService.Correctness.ForgedWebhooks

/-!
# Which requests are answered

The handler catches the lookup errors of its subscripts and nothing else: a body whose values do
not take the subscripts raises a `TypeError`, a wamid that is not text fails in its lookup, and
`compare_digest` refuses a header that is not ASCII. The header and the shape of the body decide
whether the request is answered, and an answered request stores at most one row, whose flag is
exact.
-/

namespace WaService

open Python Relational

variable {env : Env} {db : Db} {rawBody : List UInt8} {hubSignature : Option String}
  {payload : Json} {newId : Nat}

/-! ## The header -/

/-- What is stored at the end of a chain, or null. -/
def storedAt (j : Json) (path : List Subscript) : Json := (j.follow path).toOption.getD .null

end WaService
