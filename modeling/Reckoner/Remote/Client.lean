import Reckoner.Net.Address
import Reckoner.Problem

/-!
# Clients of a remote calculator

A client of a calculator elsewhere. Input that cannot be an expression is answered at once, and a
text that is left when the blanks around it are removed is asked for, in a single request.
-/

namespace Reckoner.Remote

/-- A request: where it goes, and the query that it carries. -/
structure Request where
  address : String
  query : String
  deriving DecidableEq, Repr

structure Client where
  base : String
  /-- The seconds to wait for a reply. -/
  timeout : Binary64

/-! ## Problems -/

def problem (message : Json) (details : List (String × Json)) : Problem :=
  ⟨.remoteCalculation, message, details⟩

def unreachable : Problem :=
  problem (.str "Calculator service is unavailable.") []

def notJson : Problem :=
  problem (.str "Calculator response was not valid JSON.") []

def noEnvelope : Problem :=
  problem (.str "Calculator response did not match the result envelope.") []

def notConfigured : Problem :=
  problem (.str "CALC_HTTP_BASE_URL is not configured.") []

/-! ## Requests -/

namespace Client

/-- The client for a configured base address, without the slashes at its end; an empty one counts as
none. -/
def ofAddress? (base : Option String) (timeout : Binary64) : Except Problem Client :=
  match base with
  | none | some "" => .error notConfigured
  | some base => .ok ⟨String.ofList (Text.dropEnd '/' base.toList), timeout⟩

def address (c : Client) : String :=
  c.base ++ "/evaluate"

/-- The request for some input, or the answer that needs none. -/
def request? (c : Client) : Json → Except Envelope Request
  | .str s =>
    if s = "" then .error (.fail .invalidInput)
    else
      let text := Text.trim s.toList
      if text.isEmpty then .error (.fail .emptyInput) else .ok ⟨c.address, String.ofList text⟩
  | _ => .error (.fail .invalidInput)

end Client

end Reckoner.Remote
