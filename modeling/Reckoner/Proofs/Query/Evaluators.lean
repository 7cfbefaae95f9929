import Reckoner.Proofs.Envelope.Codec
import Reckoner.Proofs.Evaluation.Outcomes
import Reckoner.Proofs.Query.Settling
import Reckoner.Proofs.Remote.Outcomes

/-!
# The evaluators there are

A controller takes any evaluator. Two kinds of them are there, `IsEvaluator`: the local calculator,
and the clients of a remote one. The integers of the former are safe ones, and those of the latter
are read from a text, which has a bound to their digits. So the text of their values can always be
written, `IsEvaluator.not_unwritten`, and no submission to one of them breaks off.
-/

namespace Reckoner.Query

-- Powers are those of the core library, whatever else is in scope.
attribute [local instance (high)] instPowNat

/-! ## Answers -/

theorem result_ofCalculator (c : Calculator) (query : String) :
    (Consult.ofCalculator c query).result =
      (c.tryRun (.str query)).result.mapError fun _ => .broken :=
  rfl

theorem evaluate_of_ofCalculator {c : Calculator} {query : String} {e : Envelope}
    (answered : (Consult.ofCalculator c query).result = .ok e) : c.evaluate (.str query) = e := by
  rw [Calculator.evaluate_eq_enveloped]
  rw [result_ofCalculator] at answered
  cases tried : (c.tryRun (.str query)).result with
  | error fault => simp [tried, Except.mapError] at answered
  | ok envelope =>
    rw [tried] at answered
    exact Except.ok.inj answered

theorem result_ofClient_eq_ok_iff {client : Remote.Client} {transport : Remote.Transport}
    {query : String} {e : Envelope} :
    (Consult.ofClient client transport query).result = .ok e ↔
      (client.transfer transport (.str query)).outcome = .ok e := by
  show ((client.transfer transport (.str query)).outcome.mapError _) = .ok e ↔ _
  cases (client.transfer transport (.str query)).outcome <;> simp [Except.mapError]

/-- A local calculator, or a client of a remote one. -/
inductive IsEvaluator : Consult → Prop where
  | calculator (c : Calculator) : IsEvaluator (.ofCalculator c)
  | client (client : Remote.Client) (transport : Remote.Transport) :
      IsEvaluator (.ofClient client transport)

/-! ## Integers -/

theorem lt_of_isSafe {z : Int} (safe : isSafe z = true) : z.natAbs < 10 ^ Text.Digits.maxRun := by
  have bound : z.natAbs ≤ maxSafeInteger := of_decide_eq_true safe
  have small : maxSafeInteger < 10 ^ 16 := by decide
  have wide : 10 ^ 16 ≤ 10 ^ Text.Digits.maxRun := Nat.pow_le_pow_right (by decide) (by decide)
  omega

theorem lt_of_isRead {z : Int} (read : (Json.int z).IsRead) :
    z.natAbs < 10 ^ Text.Digits.maxRun := by
  cases read with
  | int short => exact (Text.Digits.length_ofNat_le_iff (by decide)).1 short

/-- What a client hands on was read from a text. -/
theorem isRead_of_transfer {client : Remote.Client} {transport : Remote.Transport} {input : Json}
    {value : Value} {detail : Option String}
    (success : (client.transfer transport input).outcome = .ok (.success value detail)) :
    value.toJson.IsRead := by
  obtain ⟨_, _, members, _, _, _, read, _, parts⟩ := client.exists_received_of_success success
  exact Envelope.isRead_of_accepted (Json.isRead_of_ofBytes? read)
    (Envelope.ofJson?_eq_ok_iff.2 ⟨members, rfl, parts⟩) rfl

/-- What an evaluator gives can be written. -/
theorem IsEvaluator.not_unwritten {consult : Consult} (evaluator : IsEvaluator consult)
    (query : String) : ¬Unwritten (consult query).result := by
  rintro ⟨z, detail, success, long⟩
  cases evaluator with
  | calculator c =>
    have safe := Calculator.isSafe_of_evaluate (evaluate_of_ofCalculator success)
    exact absurd (lt_of_isSafe safe) (Nat.not_lt.2 long)
  | client client transport =>
    rw [result_ofClient_eq_ok_iff] at success
    exact absurd (lt_of_isRead (isRead_of_transfer success)) (Nat.not_lt.2 long)

end Reckoner.Query
