import CyclicRedundancy.Error
import CyclicRedundancy.Register.Serial

/-!
# Building models

Two ways to a model. `Model.ofParameters` is for parameters that come from outside: it refuses a
width that no register has and computes the check value. `Model.published` is for parameters that
are known to be right and come with their check value: a width that no register has is a breach of
what its callers promise.
-/

namespace CyclicRedundancy

namespace Model

/-- The model of some parameters, with the check value that it really has. -/
def ofParameters (p : Parameters) : Except Error Model :=
  if h : 0 < p.width ∧ p.width ≤ 64 then
    let unchecked := cut p 0 h.1 h.2
    .ok (unchecked.withCheck (unchecked.serialChecksum checkMessage))
  else .error (.invalidWidth p.width)

/-- What a caller of `Model.published` failed to keep. -/
inductive Breach where
  /-- The width lies outside `1..64`. -/
  | width
  deriving DecidableEq, Repr

/-- The wording of a breach. -/
def Breach.message : Breach → String
  | .width => "CRC width must be 1..=64"

/-- The model of published parameters and their published check value. -/
def published (p : Parameters) (check : UInt64) : Except Breach Model :=
  if h : 0 < p.width ∧ p.width ≤ 64 then .ok (cut p check h.1 h.2) else .error .width

end Model

end CyclicRedundancy
