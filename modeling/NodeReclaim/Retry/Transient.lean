import NodeReclaim.Fault
import NodeReclaim.Value.Order

/-! Which faults are worth another attempt: transport errors, broken connections and timeouts, and
the statuses that ask for patience. -/
namespace NodeReclaim

namespace Retry

def patientStatuses : List Int := [408, 429, 500, 502, 503, 504]

/-- Whether a status asks for another attempt. Amounts count whatever their kind. -/
def isPatientStatus (status : Value) : Except Misuse Bool :=
  status.asKey.map fun v => patientStatuses.any fun n => v.same (.int n)

end Retry

/-- An error without a status is not transient on account of it. -/
def Fault.isTransient : Fault → Bool
  | raised cls _ status =>
    cls.isTransport || (cls.isHttp && status.any Retry.patientStatuses.contains) ||
      cls.isConnection
  | _ => false

end NodeReclaim
