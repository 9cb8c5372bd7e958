import NodeReclaim.Cleanup.Node
import NodeReclaim.Command.Invocation
import NodeReclaim.Settings.Load

/-! Carrying out a command. Settings that cannot be used and faults of an operation are reported in
one line; everything else that goes wrong leaves the program. -/
namespace NodeReclaim

/-- Faults that say that the settings cannot be used. -/
def Fault.isConfiguration : Fault → Bool
  | settings _ | clients _ => true
  | _ => false

namespace Command
open Program

def complain (text : String) : Program Bool := do
  print .err ("Error: " ++ text)
  return false

def conclude (success : Bool) (message failure : String) : Program Bool := do
  if success then
    print .out message
    return true
  else complain failure

def surprise (f : Fault) : Program Bool := do
  print .err ("Unexpected error: " ++ f.message)
  return false

/-- A malformed identifier is the caller's mistake, any other fault a surprise. -/
def explain (f : Fault) : Program Bool :=
  match f with
  | .identifier e => complain e.message
  | f => surprise f

/-- A subscription that is given and not empty takes the place of the loaded one. -/
def withSubscription (given : Option String) (s : Settings) : Settings :=
  match given with
  | some id => if id.isEmpty then s else { s with subscription := .text id }
  | none => s

def prepare (i : Invocation) (runtime : Runtime) : Program Settings := do
  let s := withSubscription i.subscription (← Settings.load i.config runtime)
  Access.connect s
  return s

def node (s : Settings) (id : String) : Program Bool := do
  match ← (Cleanup.node s id).attempt with
  | .ok deleted => conclude deleted ("Deleted " ++ id) ("Could not confirm deletion of " ++ id)
  | .error f => explain f

def mark (good : String) (succeeded : Bool) : String := if succeeded then good else "FAILED"

def reportLines (r : Report) : List String :=
  if r.alreadyAbsent then [r.nodeId ++ " does not exist"]
  else
    [ "VM:               " ++ mark "deleted" r.vmDeleted,
      "NICs/public IPs:  " ++ mark "deleted" r.nicsDeleted,
      "Managed disks:    " ++ mark "deleted" r.disksDeleted,
      "Availability set: " ++ mark "ok" r.availabilitySetDeleted ]

def nodeReport (s : Settings) (id : String) : Program Bool := do
  match ← (Cleanup.report s id).attempt with
  | .ok r =>
    (reportLines r).forM (print .out)
    return r.allSucceeded
  | .error f => explain f

def securityGroup (s : Settings) (levels : Nat) (resourceGroup group : String) : Program Bool := do
  let named := group ++ " in " ++ resourceGroup
  conclude (← Cleanup.securityGroup s (.text resourceGroup) (.text group) levels)
    ("Deleted security group of " ++ named)
    ("Security group of " ++ named ++ " was not deleted (missing, in use or failed)")

def resourceGroup (s : Settings) (name : String) : Program Bool := do
  match ← (Cleanup.resourceGroup s (.text name)).attempt with
  | .ok deleted =>
    conclude deleted ("Deleted resource group " ++ name)
      ("Resource group " ++ name ++ " was not deleted (not empty or failed)")
  | .error f => surprise f

def act (s : Settings) (levels : Nat) : Action → Program Bool
  | .node id false => node s id
  | .node id true => nodeReport s id
  | .securityGroup rg group => securityGroup s levels rg group
  | .group name => resourceGroup s name

def execute (i : Invocation) (runtime : Runtime := .usual) : Program Bool := do
  match ← (prepare i runtime).attempt with
  | .ok s => act s runtime.levels i.action
  | .error f => if f.isConfiguration then complain f.message else .fail f

end Command

end NodeReclaim
