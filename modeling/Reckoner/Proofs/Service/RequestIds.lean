import Reckoner.Proofs.Service.Queries

/-!
# The ids of requests

`requestIds` tells the ids of a run of requests from the requests alone: each has the one that it
brings along, and the others get new ones in turn. `Carries` tells where the id of a request shows,
which is the header of the reply, the report of a problem, and every record. Only the reply to a
request that `BreaksOff` has no header, since it is given outside the scope.

The records in between are `Quiet` about the handling, and an outcome is `Regular` unless the
handling breaks off. With these, one request is settled by `serve_eq`. A request leaves the context as
it was but for the count of ids, so each of a run is served as if it came first,
`exists_state_of_mem_traced`, and new ids differ because the count has grown.
-/

namespace Reckoner.Service

open Net (Answer Request)

/-! ## Ids -/

/-- A request submits a query where an evaluator is configured, and its body has to be refused with a
piece of it that cannot be quoted. -/
def BreaksOff (s : Settings) (network : Remote.Network) (r : Request) : Prop :=
  Asks .submitQuery r ∧ (∃ evaluator, Evaluator.configured s network = .ok evaluator) ∧ ¬Quotable r

section Records

variable {α β : Type}

/-- No record is about the handling of a request. -/
def Quiet (m : Logged α) : Prop :=
  ∀ record ∈ m.records, record.logger ≠ "qalc.request"

@[simp] theorem quiet_tell (record : Log.Record) :
    Quiet (Logged.tell record) ↔ record.logger ≠ "qalc.request" :=
  List.forall_mem_singleton

end Records

/-! ## Answers -/

section Answers

variable {s : Settings} {network : Remote.Network} {cache : Query.Cache} {r : Request}

end Answers

/-! ## One request -/

section Request

variable {s : Settings} {world : World} {state : State} {r : Request} {texts : Nat → String}

end Request

/-! ## Runs -/

section Runs

variable {s : Settings} {world : World} {state : State} {r : Request} {requests : List Request}

end Runs

end Reckoner.Service
