import NodeReclaim.Access
import NodeReclaim.Deletion.Tally

/-! Deleting the network interfaces of a machine and the public addresses they carry. What is not
deleted is tallied and does not stop the others. -/
namespace NodeReclaim.Cleanup

def logStep (text : String) : Program Unit := .log .debug .cleanup (">> " ++ text)

def logTrouble (text : String) : Program Unit := .log .warning .cleanup (">> " ++ text)

def publicIp (s : Settings) (t : Tally) (r : Reference) : Program Tally := do
  logStep ("deleting public ip " ++ r.shownName ++ "...")
  let deleted ← Access.deletePublicIp s r.target
  return t.record ("public ip " ++ r.shownName) deleted

/-- An interface, then its public addresses, which have to be read before it is gone. -/
def interface (s : Settings) (t : Tally) (r : Reference) : Program Tally := do
  let found ← Access.interface? s r.target
  let publicIps := (found.map (·.publicIps)).getD []
  logStep ("destroying nic " ++ r.shownName ++ "...")
  let deleted ← Access.confirm s (← Access.delete s .nic r.target)
  publicIps.foldlM (publicIp s) (t.record ("nic " ++ r.shownName) deleted)

def network (s : Settings) (m : Machine) : Program Bool := do
  let t ← m.interfaces.foldlM (interface s) {}
  unless t.allSucceeded do
    logTrouble ("could not delete network resources: " ++ ", ".intercalate t.failed)
  return t.allSucceeded

end NodeReclaim.Cleanup
