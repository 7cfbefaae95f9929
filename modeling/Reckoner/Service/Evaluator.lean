import Reckoner.Query.Controller
import Reckoner.Settings

/-!
# The evaluator of queries

Queries are evaluated by the local calculator or by the remote one, as the settings say.
-/

namespace Reckoner.Service

/-- What evaluates queries, with the requests that it sends for a query. -/
structure Evaluator where
  consult : Query.Consult
  sends : String → List Remote.Request

namespace Evaluator

/-- The local calculator sends nothing. -/
def ofCalculator (c : Calculator) : Evaluator :=
  ⟨.ofCalculator c, fun _ => []⟩

def ofClient (c : Remote.Client) (network : Remote.Network) : Evaluator :=
  ⟨.ofClient c (.ofNetwork network), fun query =>
    (c.transfer (.ofNetwork network) (.str query)).sent⟩

def configured (s : Settings) (network : Remote.Network) : Except Problem Evaluator :=
  if s.isRemote then s.client?.map fun c => ofClient c network
  else .ok (ofCalculator s.calculator)

end Evaluator

end Reckoner.Service
