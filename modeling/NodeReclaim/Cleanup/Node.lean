import NodeReclaim.Cleanup.Disks
import NodeReclaim.Cleanup.Shared
import NodeReclaim.Report

/-! Cleaning up after a node: the machine first, then what only it uses. The later steps run whether
or not the machine could be deleted. -/
namespace NodeReclaim.Cleanup
open Program

/-- Deletes the machine under the name it gives itself. -/
def machine (s : Settings) (m : Machine) : Program Bool := do
  Access.confirm s (← Access.delete s .vm ⟨m.group, m.name⟩)

def present (s : Settings) (nodeId : String) (m : Machine) : Program Report := do
  logStep ("destroying " ++ nodeId ++ " ...")
  let vmDeleted ← machine s m
  unless vmDeleted do logTrouble ("could not delete VM " ++ nodeId)
  let nicsDeleted ← network s m
  let disksDeleted ← disks s m
  let availabilitySetDeleted ← availabilitySet s m
  return { nodeId, vmDeleted, nicsDeleted, disksDeleted, availabilitySetDeleted }

def report (s : Settings) (nodeId : String) : Program Report := do
  let id ← ofExcept ((NodeId.parse nodeId).mapError .identifier)
  match ← Access.machine? s ⟨.text id.group, .text id.name⟩ with
  | none =>
    logStep (nodeId ++ " does not exist, nothing to destroy")
    return { nodeId, alreadyAbsent := true, vmDeleted := true }
  | some m => present s nodeId m

def node (s : Settings) (nodeId : String) : Program Bool := return (← report s nodeId).vmDeleted

end NodeReclaim.Cleanup
