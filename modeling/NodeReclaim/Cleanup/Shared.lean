import NodeReclaim.Cleanup.Network
import NodeReclaim.Deletion.Guard

/-! Reclaiming what several machines share once nothing uses it any more: availability sets,
security groups and whole resource groups. -/
namespace NodeReclaim.Cleanup
open Program

def isOrphaned (s : Settings) (found : Option AvailabilitySet) : Except Misuse Bool :=
  match found with
  | none => .ok false
  | some set => (set.hasTag s.ownershipKey s.ownershipValue).map fun owned => owned && set.isEmpty

/-- False only when an orphaned availability set of the machine could not be deleted. -/
def availabilitySet (s : Settings) (m : Machine) : Program Bool := do
  match m.availabilitySet with
  | none => pure true
  | some r =>
    if ← misuse (isOrphaned s (← Access.availabilitySet? s r.target)) then
      logStep ("deleting orphaned availability set " ++ r.shownName ++ " from " ++
        r.target.group.display ++ "...")
      Access.confirm s (← Access.delete s .availabilitySet r.target)
    else pure true

def naming (s : Settings) (levels : Nat) : Except Misuse Naming := do
  return ⟨← s.namingLead.shown levels, ← s.namingDelimiter.shown levels⟩

def groupOf : Value → Except Fault (List Char)
  | .text group => (Naming.groupOf group).mapError .naming
  | v => .error (.misuse (.missing v.kind "strip"))

/-- The name that a group shares under the settings. A malformed group is refused first. -/
def sharedName (s : Settings) (levels : Nat) (group : Value) : Except Fault String := do
  let g ← groupOf group
  return (← (naming s levels).mapError .misuse).join g

def unguardedSecurityGroup (s : Settings) (levels : Nat) (resourceGroup group : Value) : Program Bool := do
  let name ← ofExcept (sharedName s levels group)
  let target : Target := ⟨resourceGroup, .text name⟩
  match ← Access.securityGroup? s target with
  | none => pure false
  | some found =>
    if found.isInUse then pure false
    else
      logStep ("deleting orphaned security group " ++ name ++ " from " ++ resourceGroup.display ++
        "...")
      Access.confirm s (← Access.delete s .securityGroup target)

/-- True only if the security group was deleted; every fault is logged and counts as a failure. -/
def securityGroup (s : Settings) (resourceGroup group : Value) (levels : Nat := Value.usualLevels) :
    Program Bool := do
  let outcome ← (unguardedSecurityGroup s levels resourceGroup group).guarded
    ("Error deleting security groups for " ++ resourceGroup.display ++ " and group " ++
      group.display)
  return match outcome with
    | .ok deleted => deleted
    | .error _ => false

def resourceGroup (s : Settings) (group : Value) : Program Bool := do
  if (← Access.resources s group).isEmpty then
    logStep ("the resource group " ++ group.display ++ " is empty. Deleting...")
    Access.confirm s (← Access.deleteGroup s group)
  else pure false

end NodeReclaim.Cleanup
