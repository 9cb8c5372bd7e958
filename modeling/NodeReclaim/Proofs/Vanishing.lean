import NodeReclaim.Cleanup.Node
import NodeReclaim.Proofs.Access
import NodeReclaim.Proofs.Objects

/-! Resources that vanish. Another actor may take away what a cleanup is about to read, to delete or to
wait for, at any point of it. As long as every call is answered normally or by saying that nothing is
there, the cleanup returns, and it reports that all of it succeeded. -/
namespace NodeReclaim
open Program

def Fault.SaysGone (f : Fault) : Prop :=
  ∃ given status, f = .raised .notFound given status ∧ (status = none ∨ status = some 404)

theorem Fault.SaysGone.isNotFound {f : Fault} (h : f.SaysGone) : f.isNotFound = true := by
  obtain ⟨given, status, rfl, _⟩ := h
  rfl

theorem Fault.SaysGone.isTransient {f : Fault} (h : f.SaysGone) : f.isTransient = false := by
  obtain ⟨given, status, rfl, rfl | rfl⟩ := h <;> rfl

/-- What the provider keeps under a kind. The other kinds are not read when a node is cleaned up. -/
def IsObject : Kind → Value → Prop
  | .vm => IsMachine
  | .nic => IsInterface
  | .availabilitySet => IsAvailabilitySet
  | _ => fun _ => True

/-- A call is answered normally or by saying that nothing is there, and an operation that is waited for is
found to be over and to have succeeded. -/
def Exchange.IsPlain : Exchange → Prop
  | ⟨.get kind _, .ok v⟩ => v = .null ∨ IsObject kind v
  | ⟨.get .., .error f⟩ => f.SaysGone
  | ⟨.beginDelete .., .error f⟩ | ⟨.delete .., .error f⟩ | ⟨.wait .., .error f⟩ => f.isNotFound = true
  | ⟨.isDone _, reply⟩ => ∃ v, reply = .ok v ∧ v.isTruthy = true
  | ⟨.status _, reply⟩ => reply = .ok (.ok "Succeeded")
  | _ => True

theorem Retry.ensures_retrying {operation : Program α} {expected : Exchange → Prop}
    (hgranted : granted p.attempts = .ok attempts) (hpos : 0 < attempts)
    (h : operation.Ensures expected fun o => settles o = true ∧ post o) :
    (retrying p name operation).Ensures expected post := by
  obtain ⟨left, rfl⟩ := Nat.exists_eq_succ_of_ne_zero (Nat.ne_of_gt hpos)
  unfold retrying
  rw [hgranted, misuse_ok, done_bind]
  unfold attemptsFrom
  apply ensures_bind_iff.2
  apply ensures_attempt_iff.2
  apply h.mono
  rintro (f | a) ⟨settled, ho⟩
  · have hf : (!f.isTransient) = true := settled
    simp only [hf]
    exact ho
  · exact ho

namespace Access

section
variable {s : Settings} (hgranted : Retry.granted s.retryAttempts = .ok attempts)
  (hpos : 0 < attempts)
include hgranted hpos

theorem returns_object :
    (object s kind target).Returns Exchange.IsPlain fun v => v = .null ∨ IsObject kind v := by
  unfold object orIfAbsent
  apply ensures_recover_iff.2
  apply Retry.ensures_retrying (p := policy s) hgranted hpos
  apply ensures_require_iff.2
  rintro (f | v) hx
  · have gone : f.SaysGone := hx
    constructor
    · have persists : f.isTransient = false := gone.isTransient
      simp only [Retry.settles, persists, Bool.not_false]
    · simp only [gone.isNotFound, if_true]
      exact Returns.done (.inl rfl)
  · exact ⟨rfl, v, rfl, hx⟩

theorem returns_snapshot? {ofObject : Value → Except Misuse α} {good : α → Prop}
    (hconv : ∀ v, IsObject kind v → ∃ a, ofObject v = .ok a ∧ good a) :
    (snapshot? s kind target ofObject).Returns Exchange.IsPlain fun found =>
      ∀ a, found = some a → good a := by
  apply Returns.bind (returns_object hgranted hpos)
  intro v hv
  split
  · exact Returns.done nofun
  · have hobject : IsObject kind v := hv.resolve_left ‹_›
    apply Returns.bind (Returns.misuse (hconv v hobject))
    intro a ha
    apply Returns.done
    rintro _ ⟨⟩
    exact ha

theorem returns_read {ofObject : Value → Except Misuse α}
    (hconv : ∀ v, IsObject kind v → ∃ a, ofObject v = .ok a) :
    (snapshot? s kind target ofObject).Returns Exchange.IsPlain fun _ => True := by
  have read : (snapshot? s kind target ofObject).Returns Exchange.IsPlain fun found =>
      ∀ a, found = some a → True := by
    apply returns_snapshot? hgranted hpos
    intro v hv
    obtain ⟨a, ha⟩ := hconv v hv
    exact ⟨a, ha, trivial⟩
  exact read.mono fun _ _ => trivial

end

end Access

/-- There is an operation to wait for, unless there is nothing to wait for. -/
def Job.IsSound : Job → Prop
  | .done _ => True
  | .pending ticket _ => ticket.isSome = true

namespace Access

theorem returns_gone {f : Fault} {job : Job} (hf : f.isNotFound = true) (h : job.IsSound) :
    (if f.isNotFound then do logDeleted text; pure job else .fail f).Returns Exchange.IsPlain
      Job.IsSound := by
  rw [if_pos hf]
  exact Returns.log (Returns.done h)

theorem returns_delete (s : Settings) (kind : Kind) (target : Target) :
    (delete s kind target).Returns Exchange.IsPlain Job.IsSound := by
  apply delete_of_both
  · apply Returns.request
    rintro (f | _) hx
    · exact returns_gone hx trivial
    · exact Returns.done trivial
  · apply Returns.request
    rintro (f | _ | ticket) hx
    · exact returns_gone hx trivial
    · exact Returns.done trivial
    · exact Returns.done rfl

theorem returns_confirm (hjob : job.IsSound) :
    (confirm s job).Returns Exchange.IsPlain (· = true) := by
  rcases job with _ | ⟨_ | ticket, description⟩
  · exact Returns.done rfl
  · cases hjob
  · change (Job.confirmTicket s.deletionTimeout ticket _).Returns _ _
    rw [confirmTicket_eq]
    apply Returns.request
    rintro (f | _) hx
    · have gone : f.isNotFound = true := hx
      unfold judged
      dsimp only
      rw [if_pos gone]
      exact Returns.log (Returns.done rfl)
    · change (Job.settle s.deletionTimeout ticket _).Returns _ _
      have finished : (require (.isDone ticket) rfl).Returns Exchange.IsPlain
          fun v => v.isTruthy = true := Returns.require fun _ hx => hx
      have answered : (require (.status ticket) rfl).Returns Exchange.IsPlain (· = .ok "Succeeded") :=
        Returns.require fun _ hx => ⟨_, hx, rfl⟩
      have status : (Job.statusText ticket).Returns Exchange.IsPlain (· = "Succeeded") :=
        answered.bind fun _ written => written ▸ Returns.done rfl
      unfold Job.settle
      apply finished.bind
      intro v hv
      rw [hv]
      apply status.bind
      rintro _ rfl
      exact Returns.done rfl

theorem returns_deleteConfirmed (s : Settings) (kind : Kind) (target : Target) :
    (do confirm s (← delete s kind target)).Returns Exchange.IsPlain (· = true) :=
  Returns.bind (returns_delete s kind target) fun _ => returns_confirm

end Access

theorem Tally.allSucceeded_record {t : Tally} (h : t.allSucceeded = true) :
    (t.record name true).allSucceeded = true := by
  rw [allSucceeded_iff, failed_record, (allSucceeded_iff t).1 h]
  rfl

namespace Cleanup
open Access

theorem returns_publicIp (s : Settings) (r : Reference) (ht : t.allSucceeded = true) :
    (publicIp s t r).Returns Exchange.IsPlain fun t => t.allSucceeded = true := by
  apply Returns.log
  apply Returns.bind (returns_deleteConfirmed s .publicIp r.target)
  rintro _ rfl
  exact Returns.done (Tally.allSucceeded_record ht)

theorem returns_unconfirmed (hjobs : ∀ j ∈ jobs, j.2.IsSound) :
    (unconfirmed s jobs).Returns Exchange.IsPlain (· = []) := by
  induction jobs with
  | nil => exact Returns.done rfl
  | cons j rest ih =>
    apply Returns.bind (returns_confirm (hjobs j List.mem_cons_self))
    rintro _ rfl
    apply Returns.bind (ih fun j hj => hjobs j (List.mem_cons_of_mem _ hj))
    rintro _ rfl
    exact Returns.done rfl

theorem DiskJobs.mem_put {jobs : DiskJobs} (h : j ∈ jobs.put name job) : j ∈ jobs ∨ j.2 = job := by
  unfold put at h
  split at h
  · obtain ⟨i, hi, rfl⟩ := List.mem_map.1 h
    by_cases hn : i.1 == name
    · exact .inr (by rw [if_pos hn])
    · exact .inl (by rwa [if_neg hn])
  · rcases List.mem_append.1 h with hj | hj
    · exact .inl hj
    · obtain rfl := List.mem_singleton.1 hj
      exact .inr rfl

theorem returns_requestDisk (hd : ∃ r, d.reference = .ok r) (hjobs : ∀ j ∈ jobs, j.2.IsSound) :
    (requestDisk s jobs d).Returns Exchange.IsPlain fun jobs => ∀ j ∈ jobs, j.2.IsSound := by
  obtain ⟨r, hr⟩ := hd
  unfold requestDisk
  rw [hr, misuse_ok, done_bind]
  apply Returns.log
  apply Returns.bind (returns_delete s .disk r.target)
  intro job hjob
  apply Returns.done
  split
  · intro j hj
    rcases DiskJobs.mem_put hj with hj | hj
    · exact hjobs j hj
    · rw [hj]
      exact hjob
  · exact hjobs

theorem returns_disks (hm : ∀ d ∈ m.managedDisks, ∃ r, d.reference = .ok r) :
    (disks s m).Returns Exchange.IsPlain (· = true) := by
  have requested : (m.managedDisks.foldlM (requestDisk s) []).Returns Exchange.IsPlain
      fun jobs => ∀ j ∈ jobs, j.2.IsSound :=
    Returns.foldlM (fun _ d hd => returns_requestDisk (hm d hd)) nofun
  apply requested.bind
  intro jobs hjobs
  apply Returns.bind (returns_unconfirmed hjobs)
  rintro _ rfl
  exact Returns.done rfl

/-- Whether a set is an orphan can be told when the ownership key can be looked up. -/
theorem exists_isOrphaned (hkey : s.ownershipKey.asKey = .ok key) (found : Option AvailabilitySet) :
    ∃ orphaned, isOrphaned s found = .ok orphaned := by
  cases found with
  | none => exact ⟨_, rfl⟩
  | some set =>
    unfold isOrphaned AvailabilitySet.hasTag
    dsimp only
    rw [hkey]
    cases set.tags <;> exact ⟨_, rfl⟩

section
variable {s : Settings} (hgranted : Retry.granted s.retryAttempts = .ok attempts)
  (hpos : 0 < attempts)
include hgranted hpos

theorem returns_interface (r : Reference) (ht : t.allSucceeded = true) :
    (interface s t r).Returns Exchange.IsPlain fun t => t.allSucceeded = true := by
  have read : (interface? s r.target).Returns Exchange.IsPlain fun _ => True := by
    apply returns_read hgranted hpos
    intro nic hnic
    exact Interface.exists_ofObject hnic
  apply read.bind
  intro found _
  apply Returns.log
  apply Returns.bind (returns_delete s .nic r.target)
  intro job hjob
  apply Returns.bind (returns_confirm hjob)
  rintro _ rfl
  exact Returns.foldlM (fun _ r _ => returns_publicIp s r) (Tally.allSucceeded_record ht)

theorem returns_network (m : Machine) : (network s m).Returns Exchange.IsPlain (· = true) := by
  have tallied : (m.interfaces.foldlM (interface s) {}).Returns Exchange.IsPlain
      fun t => t.allSucceeded = true :=
    Returns.foldlM (fun _ r _ => returns_interface hgranted hpos r) rfl
  apply tallied.bind
  intro t ht
  rw [ht]
  exact Returns.done rfl

theorem returns_availabilitySet (hkey : s.ownershipKey.asKey = .ok key) (m : Machine) :
    (availabilitySet s m).Returns Exchange.IsPlain (· = true) := by
  unfold availabilitySet
  cases m.availabilitySet with
  | none => exact Returns.done rfl
  | some r =>
    have read : (availabilitySet? s r.target).Returns Exchange.IsPlain fun _ => True := by
      apply returns_read hgranted hpos
      intro set hset
      exact AvailabilitySet.exists_ofObject hset
    apply read.bind
    intro found _
    obtain ⟨orphaned, ho⟩ := exists_isOrphaned hkey found
    rw [ho, misuse_ok, done_bind]
    split
    · exact Returns.log (returns_deleteConfirmed s .availabilitySet r.target)
    · exact Returns.done rfl

theorem returns_present (hkey : s.ownershipKey.asKey = .ok key)
    (hm : ∀ d ∈ m.managedDisks, ∃ r, d.reference = .ok r) :
    (present s nodeId m).Returns Exchange.IsPlain fun out => out.allSucceeded = true := by
  apply Returns.log
  apply Returns.bind (returns_deleteConfirmed s .vm ⟨m.group, m.name⟩)
  rintro _ rfl
  apply Returns.bind (returns_network hgranted hpos m)
  rintro _ rfl
  apply Returns.bind (returns_disks hm)
  rintro _ rfl
  apply Returns.bind (returns_availabilitySet hgranted hpos hkey m)
  rintro _ rfl
  exact Returns.done rfl

theorem returns_report (hkey : s.ownershipKey.asKey = .ok key)
    (hp : NodeId.parse nodeId = .ok place) :
    (report s nodeId).Returns Exchange.IsPlain fun out => out.allSucceeded = true := by
  have read : (machine? s ⟨.text place.group, .text place.name⟩).Returns Exchange.IsPlain
      fun found => ∀ m, found = some m → ∀ d ∈ m.managedDisks, ∃ r, d.reference = .ok r := by
    apply returns_snapshot? hgranted hpos
    intro v hv
    exact Machine.exists_ofObject hv _
  unfold report
  rw [hp]
  apply read.bind
  intro found hfound
  cases found with
  | none => exact Returns.log (Returns.done rfl)
  | some m => exact returns_present hgranted hpos hkey (hfound m rfl)

end

/-- As long as every call of a cleanup is answered normally or by saying that nothing is there, at whatever
point of the run, a report comes back, and it says that every step succeeded. The ownership key has to be
one that can be looked up. -/
theorem report_succeeds_if_plain (w : World σ) (st : σ) (s : Settings) (nodeId : String)
    (hp : NodeId.parse nodeId = .ok place)
    (hgranted : Retry.granted s.retryAttempts = .ok attempts) (hpos : 0 < attempts)
    (hkey : s.ownershipKey.asKey = .ok key)
    (hplain : ∀ x ∈ ((report s nodeId).run w st).trace, x.IsPlain) :
    ∃ out, ((report s nodeId).run w st).outcome = .ok out ∧ out.allSucceeded = true :=
  (returns_report hgranted hpos hkey hp).of_runs (runs_run w _ st) hplain

def referring (type name : String) : Value :=
  .record [("id", .text ("/resourceGroups/rg1/providers/p/" ++ type ++ "/" ++ name))]

def furnished : Value :=
  .record [("name", .text "vm1"),
    ("network_profile",
      .record [("network_interfaces", .list [referring "networkInterfaces" "nic1"])]),
    ("storage_profile",
      .record [("os_disk", .record [("managed_disk", referring "disks" "os")])]),
    ("availability_set", referring "availabilitySets" "set1")]

theorem isMachine_furnished : IsMachine furnished where
  name := ⟨_, rfl⟩
  interfaces := ⟨_, rfl⟩
  interfaceIds := by
    intro x hx
    obtain rfl := List.mem_singleton.1 hx
    exact .inr ⟨_, rfl⟩
  dataDisks := ⟨_, rfl⟩
  diskIds := by
    intro d hd
    obtain rfl := List.mem_singleton.1 hd
    exact .inr ⟨_, rfl⟩
  availabilitySet := .inr ⟨_, rfl⟩

def ownedSet : Value :=
  .record [("name", .text "set1"), ("tags", .table [("managed-by", .text "azteardown")])]

theorem isAvailabilitySet_ownedSet : IsAvailabilitySet ownedSet where
  name := ⟨_, rfl⟩
  tags := ⟨_, rfl⟩
  members := ⟨_, rfl⟩
  memberIds := nofun

def gone : Fault := .raised .notFound (some "gone") (some 404)

/-- A provider that shows the machine and its set when they are read. The machine vanishes while its
deletion is waited for, and all else before it is asked to go. -/
def fading : World Unit where
  answer
    | .get .vm _, s => (.ok furnished, s)
    | .get .availabilitySet _, s => (.ok ownedSet, s)
    | .get .., s => (.error gone, s)
    | .beginDelete .vm .., s => (.ok (some ⟨"vm", 0⟩), s)
    | .beginDelete .., s | .beginDeleteGroup .., s => (.error gone, s)
    | .delete .., s | .wait .., s | .client .., s => (.error gone, s)
    | .list _, s => (⟨[], none⟩, s)
    | .isDone _, s => (.ok (.bool true), s)
    | .status _, s => (.ok (.ok "Succeeded"), s)
    | .credential _, s | .invoke .., s => (.ok .null, s)
    | .pause _, s => (.ok (), s)
    | .log _, s | .print .., s => ((), s)
    | .draw, s => (0.5, s)
    | .host, s => (⟨[], [], []⟩, s)
    | .look _, s => (.missing, s)

theorem isPlain_fading (r : Request) (st : Unit) : Exchange.IsPlain ⟨r, (fading.answer r st).1⟩ := by
  have saysGone : gone.SaysGone := ⟨_, _, rfl, .inr rfl⟩
  cases r with
  | get kind target =>
    cases kind with
    | vm => exact .inr isMachine_furnished
    | availabilitySet => exact .inr isAvailabilitySet_ownedSet
    | _ => exact saysGone
  | beginDelete kind target polling => cases kind <;> trivial
  | isDone ticket => exact ⟨_, rfl, rfl⟩
  | _ => trivial

theorem report_succeeds_fading :
    ∃ out, ((report plainSettings "rg1/vm1").run fading ()).outcome = .ok out ∧
      out.allSucceeded = true :=
  report_succeeds_if_plain fading () plainSettings "rg1/vm1" rfl rfl (by decide) rfl
    (forall_mem_trace isPlain_fading _ _)

/-- A key that is a list cannot be looked up among the tags of the set. -/
theorem listed_key_fails_fading :
    let s := { plainSettings with ownershipKey := .list [.text "managed-by"] }
    let r := (report s "rg1/vm1").run fading ()
    (∀ x ∈ r.trace, x.IsPlain) ∧ ¬ ∃ out, r.outcome = .ok out ∧ out.allSucceeded = true := by
  refine ⟨forall_mem_trace isPlain_fading _ _, ?_⟩
  rintro ⟨out, ho, _⟩
  cases ho

end Cleanup

end NodeReclaim
