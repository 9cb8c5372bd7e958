import NodeReclaim.Cleanup.Network

/-! Deleting the managed disks of a machine. All deletions are asked for before any is waited
for. -/
namespace NodeReclaim.Cleanup

/-- Pending jobs by the names of their disks, groups left aside. -/
abbrev DiskJobs := List (Option String × Job)

/-- A later job takes the place of an earlier one of the same name. -/
def DiskJobs.put (jobs : DiskJobs) (name : Option String) (job : Job) : DiskJobs :=
  if jobs.any fun j => j.1 == name then jobs.map fun j => if j.1 == name then (name, job) else j
  else jobs ++ [(name, job)]

def requestDisk (s : Settings) (jobs : DiskJobs) (d : ManagedDisk) : Program DiskJobs := do
  let r ← Program.misuse d.reference
  logStep ("deleting managed disk " ++ r.shownName ++ "...")
  let job ← Access.delete s .disk r.target
  return if job.isPending then jobs.put r.name job else jobs

def unconfirmed (s : Settings) : DiskJobs → Program (List (Option String))
  | [] => pure []
  | (name, job) :: rest => do
    let deleted ← Access.confirm s job
    let others ← unconfirmed s rest
    return if deleted then others else name :: others

/-- Names with a comma between them. A disk whose name is not known cannot be listed. -/
def listed (names : List (Option String)) : Except Misuse String :=
  match names.mapM id with
  | some known => .ok (",".intercalate known)
  | none => .error (.joined (names.findIdx (·.isNone)) Value.null.kind)

def disks (s : Settings) (m : Machine) : Program Bool := do
  let jobs ← m.managedDisks.foldlM (requestDisk s) []
  let failed ← unconfirmed s jobs
  unless failed.isEmpty do
    logTrouble ("could not delete disks: " ++ (← Program.misuse (listed failed)))
  return failed.isEmpty

end NodeReclaim.Cleanup
