/-! Results of the steps of a node cleanup. -/
namespace NodeReclaim

structure Report where
  nodeId : String
  alreadyAbsent : Bool := false
  vmDeleted : Bool := false
  nicsDeleted : Bool := false
  disksDeleted : Bool := false
  availabilitySetDeleted : Bool := false
deriving DecidableEq, Repr

/-- A node that was absent needs no step. -/
def Report.allSucceeded (r : Report) : Bool :=
  r.alreadyAbsent ||
    (r.vmDeleted && r.nicsDeleted && r.disksDeleted && r.availabilitySetDeleted)

end NodeReclaim
