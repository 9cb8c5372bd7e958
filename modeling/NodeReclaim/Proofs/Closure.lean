import NodeReclaim.Cleanup.Node
import NodeReclaim.Proofs.DiskBatch
import NodeReclaim.Proofs.SharedUse

/-! The closure of a machine: what goes with it when its node is cleaned up, as the provider's objects
tell. A cleanup follows this plan whatever the provider answers, so nothing in the closure is skipped or
deleted twice, and nothing outside of it is touched. -/
namespace NodeReclaim
open Program

namespace Plan

/-- An interface is read, then deleted, then the public addresses that the read has shown. -/
def interface (target : Target) (rest : Plan) : Plan :=
  .read .nic target fun nic =>
    .delete (.resource .nic target)
      (deleteAll .publicIp ((publicIpIds nic).map placeOf) rest)

def interfaces (targets : List Target) (rest : Plan) : Plan := targets.foldr interface rest

/-- A set that carries the ownership value goes if no member of it has an identifier. -/
def availabilitySet (s : Settings) (target : Target) : Plan :=
  .read .availabilitySet target fun set =>
    if isOwned s set && (memberIds (set.field "virtual_machines")).isEmpty then
      .delete (.resource .availabilitySet target) .done
    else .done

/-- The machine under the name it gives itself, its interfaces, its disks, its set. -/
def machine (s : Settings) (group vm : Value) : Plan :=
  .delete (.resource .vm ⟨group, vm.field "name"⟩)
    (interfaces ((interfaceIds vm).map placeOf)
      (deleteAll .disk ((diskIds vm).map placeOf)
        (((availabilitySetId? vm).map fun id => availabilitySet s (placeOf id)).getD .done)))

def closure (s : Settings) (id : NodeId) : Plan :=
  .read .vm ⟨.text id.group, .text id.name⟩ fun vm =>
    match vm with
    | .null => .done
    | vm => machine s (.text id.group) vm

theorem spaced_interfaces (h : Spaced rest) : (interfaces targets rest).Spaced := by
  induction targets with
  | nil => exact h
  | cons target targets ih => exact fun nic => ⟨rfl, spaced_deleteAll ih⟩

theorem spaced_availabilitySet : (availabilitySet s target).Spaced := by
  intro set
  dsimp only
  split <;> exact ⟨rfl, trivial⟩

theorem spaced_machine : (machine s group vm).Spaced := by
  refine spaced_interfaces (spaced_deleteAll ?_)
  cases availabilitySetId? vm with
  | none => trivial
  | some id => exact spaced_availabilitySet

theorem spaced_closure (s : Settings) (id : NodeId) : (closure s id).Spaced := by
  intro vm
  cases vm with
  | null => exact ⟨rfl, trivial⟩
  | _ => exact ⟨rfl, spaced_machine⟩

end Plan

namespace Cleanup
open Plan

theorem follows_publicIp (hk : ∀ t, Follows plan (k t)) (t : Tally) :
    Follows (.delete (.resource .publicIp r.target) plan) (publicIp s t r >>= k) := by
  simp only [publicIp, Access.deletePublicIp, bind_assoc]
  apply Follows.after (silent_logStep _)
  intro _
  apply Access.follows_delete
  intro job
  apply Follows.after (Access.silent_confirm s job)
  intro deleted
  exact hk _

theorem follows_publicIps (hk : ∀ t, Follows plan (k t)) (rs : List Reference) (t : Tally) :
    Follows (deleteAll .publicIp (rs.map Reference.target) plan)
      (rs.foldlM (publicIp s) t >>= k) := by
  rw [deleteAll, List.foldr_map]
  apply Follows.foldlM _ hk
  intro t r plan k hk
  exact follows_publicIp hk t

theorem publicIps_of_snapshotOf (h : Access.snapshotOf Interface.ofObject nic = .ok found) :
    (found.map (·.publicIps)).getD [] = (publicIpIds nic).map Reference.create := by
  rcases Access.snapshotOf_ok h with ⟨rfl, rfl⟩ | ⟨_, n, hn, rfl⟩
  · rfl
  · exact Interface.publicIps_ofObject hn

theorem follows_interface (hk : ∀ t, Follows plan (k t)) (t : Tally) :
    Follows (Plan.interface r.target plan) (interface s t r >>= k) := by
  simp only [Cleanup.interface, bind_assoc]
  apply Access.follows_snapshot?
  intro nic found hn
  apply Follows.after (silent_logStep _)
  intro _
  apply Access.follows_delete
  intro job
  apply Follows.after (Access.silent_confirm s job)
  intro deleted
  have targets : (publicIpIds nic).map placeOf =
      ((found.map (·.publicIps)).getD []).map Reference.target := by
    rw [publicIps_of_snapshotOf hn, List.map_map]
    rfl
  rw [targets]
  exact follows_publicIps hk _ _

theorem follows_interfaces (hk : ∀ t, Follows plan (k t)) (rs : List Reference) (t : Tally) :
    Follows (interfaces (rs.map Reference.target) plan)
      (rs.foldlM (Cleanup.interface s) t >>= k) := by
  rw [interfaces, List.foldr_map]
  apply Follows.foldlM _ hk
  intro t r plan k hk
  exact follows_interface hk t

theorem follows_network (hk : ∀ b, Follows plan (k b)) :
    Follows (interfaces (m.interfaces.map Reference.target) plan) (network s m >>= k) := by
  simp only [network, bind_assoc]
  apply follows_interfaces
  intro t
  split
  · exact hk _
  · exact .after (silent_logTrouble _) fun _ => hk _

/-- A disk whose reference cannot be made ends the run before any deletion of it. -/
theorem follows_requests (hk : ∀ jobs, Follows plan (k jobs)) (ds : List ManagedDisk)
    (jobs : DiskJobs) :
    Follows
      (deleteAll .disk ((ds.filterMap fun d => d.reference.toOption).map Reference.target) plan)
      (ds.foldlM (requestDisk s) jobs >>= k) := by
  rw [deleteAll, List.foldr_map, List.foldr_filterMap]
  apply Follows.foldlM _ hk
  intro jobs d plan k hk
  simp only [requestDisk, bind_assoc]
  cases d.reference with
  | error m => exact .fail _
  | ok r =>
    rw [misuse_ok, done_bind]
    apply Follows.after (silent_logStep _)
    intro _
    apply Access.follows_delete
    intro job
    exact hk _

theorem follows_disks (hk : ∀ b, Follows plan (k b)) :
    Follows
      (deleteAll .disk
        ((m.managedDisks.filterMap fun d => d.reference.toOption).map Reference.target) plan)
      (disks s m >>= k) := by
  simp only [disks, bind_assoc]
  apply follows_requests
  intro jobs
  have silent : (unconfirmed s jobs).Within isSilent :=
    (within_unconfirmed s jobs).mono fun _ => silent_of_followUp
  apply Follows.after silent
  intro failed
  split
  · exact hk _
  · simp only [bind_assoc]
    apply Follows.after (within_misuse _)
    intro text
    exact .after (silent_logTrouble _) fun _ => hk _

theorem follows_availabilitySet (f : Bool → α) :
    Follows (((m.availabilitySet.map Reference.target).map (Plan.availabilitySet s)).getD .done)
      (Cleanup.availabilitySet s m >>= fun b => done (f b)) := by
  unfold Cleanup.availabilitySet
  cases m.availabilitySet with
  | none => exact .done _
  | some r =>
    simp only [bind_assoc]
    apply Access.follows_snapshot?
    intro v found hs
    cases ho : isOrphaned s found with
    | error e => exact .fail _
    | ok orphaned =>
      rw [misuse_ok, done_bind, ← isOrphaned_of_snapshotOf hs, ho]
      cases orphaned with
      | false => exact .done _
      | true =>
        change Follows (.delete _ .done) _
        simp only [if_true, bind_assoc]
        apply Follows.after (silent_logStep _)
        intro _
        apply Access.follows_delete
        intro job
        exact .silent ((Access.silent_confirm s job).bind fun _ => trivial)

theorem follows_present (hm : m.Shows vm group) :
    Follows (Plan.machine s group vm) (present s nodeId m) := by
  have shared : ((availabilitySetId? vm).map fun i => Plan.availabilitySet s (placeOf i)) =
      (m.availabilitySet.map Reference.target).map (Plan.availabilitySet s) := by
    rw [← hm.sharedTarget, Option.map_map]
    rfl
  rw [Plan.machine, hm.interfaceTargets, hm.diskTargets, shared, ← hm.name, ← hm.group]
  simp only [present, Cleanup.machine, bind_assoc]
  have rest (f : Bool → Bool → Bool → Report) : Follows _ (network s m >>= fun nics =>
      disks s m >>= fun discs => Cleanup.availabilitySet s m >>= fun shared =>
        done (f nics discs shared)) :=
    follows_network fun _ => follows_disks fun _ => follows_availabilitySet _
  apply Follows.after (silent_logStep _)
  intro _
  apply Access.follows_delete
  intro job
  apply Follows.after (Access.silent_confirm s job)
  intro vmDeleted
  split
  · exact rest _
  · exact .after (silent_logTrouble _) fun _ => rest _

theorem follows_report {place : NodeId} (h : NodeId.parse nodeId = .ok place) :
    Follows (closure s place) (report s nodeId) := by
  rw [report, h]
  apply Access.follows_snapshot?
  intro v found hv
  rcases Access.snapshotOf_ok hv with ⟨rfl, rfl⟩ | ⟨hn, m, hm, rfl⟩
  · exact .after (silent_logStep _) fun _ => .done _
  · cases v with
    | null => cases hn rfl
    | _ => exact follows_present (Machine.shows_of_ofObject hm)

theorem present_yields (s : Settings) (nodeId : String) (m : Machine) :
    (present s nodeId m).Yields fun out => out.alreadyAbsent = false := by
  apply Yields.after
  intro _
  apply Yields.after
  intro job
  have rest (f : Bool → Bool → Bool → Report) (hf : ∀ a b c, (f a b c).alreadyAbsent = false) :
      (network s m >>= fun nics => disks s m >>= fun discs =>
        Cleanup.availabilitySet s m >>= fun shared =>
          done (f nics discs shared)).Yields fun out => out.alreadyAbsent = false := by
    apply Yields.after
    intro a
    apply Yields.after
    intro b
    apply Yields.after
    intro c
    exact hf a b c
  dsimp only
  split
  · exact rest _ fun _ _ _ => rfl
  · exact .after (fun _ => rest _ fun _ _ _ => rfl) _

/-- A report says that the machine was absent if and only if nothing was deleted. -/
theorem alreadyAbsent_iff (h : Runs (report s nodeId) t (.ok out)) :
    out.alreadyAbsent = true ↔ deletions t = [] := by
  obtain ⟨place, t₁, t₂, rfl, h₁, h₂⟩ := runs_bind_ok_iff.1 h
  obtain ⟨rfl, _⟩ := runs_ofExcept_iff.1 h₁
  obtain ⟨found, t₂, t₃, rfl, hread, h₃⟩ := runs_bind_ok_iff.1 h₂
  obtain ⟨o, ho, hs⟩ := Access.runs_snapshot?_iff.1 hread
  obtain ⟨replies, hr, _⟩ := Access.steps_of_object ho
  have reads : deletions t₂ = [] := by rw [← deletions_steps, hr, deletions_reads]
  rw [List.nil_append, deletions_append, reads, List.nil_append]
  obtain ⟨v, rfl, hv⟩ := ok_of_bind hs.symm
  rcases Access.snapshotOf_ok hv with ⟨_, rfl⟩ | ⟨_, m, hm, rfl⟩
  · obtain ⟨_, rfl, rfl, ho⟩ := runs_log_bind_iff.1 h₃
    cases ho
    exact iff_of_true rfl rfl
  · have present : out.alreadyAbsent = false := (present_yields s nodeId m).of_runs h₃
    have shown := Machine.shows_of_ofObject hm
    have deleted := ((follows_present shown).whole spaced_machine h₃).1
    rw [present, deleted]
    exact iff_of_false Bool.false_ne_true (List.cons_ne_nil _ _)

/-- What a cleanup deletes. A malformed identifier deletes nothing. Otherwise the deletions are those
of the closure in their order, each asked for once: all of them when a report comes back, the first ones
when the run ends with a fault. What is found decides the closure, and it is looked for where the closure
says. Without a machine nothing is deleted, and the report says so. -/
theorem report_deletes_closure (w : World σ) (st : σ) (s : Settings) (nodeId : String) :
    let r := (report s nodeId).run w st
    let found := (readings r.trace).map Reading.object
    match NodeId.parse nodeId with
    | .error _ => deletions r.trace = []
    | .ok place =>
      (readings r.trace).map Reading.place <+: (closure s place).lookups found ∧
      (found.head? = some .null → deletions r.trace = []) ∧
      match r.outcome with
      | .ok out =>
        deletions r.trace = (closure s place).deletions found ∧
          (readings r.trace).map Reading.place = (closure s place).lookups found ∧
          (out.alreadyAbsent = true ↔ deletions r.trace = [])
      | .error _ => ∀ more, deletions r.trace <+: (closure s place).deletions (found ++ more) := by
  intro r found
  have h : Runs (report s nodeId) r.trace r.outcome := runs_run w _ st
  cases hp : NodeId.parse nodeId with
  | error e =>
    rw [report, hp] at h
    obtain ⟨ht, _⟩ := h
    rw [ht]
    rfl
  | ok place =>
    obtain ⟨part, lookups⟩ := (follows_report hp).part (spaced_closure s place) h
    refine ⟨lookups, fun absent => ?_, ?_⟩
    · obtain ⟨rest, hf⟩ := List.head?_eq_some_iff.1 absent
      have deleted : deletions r.trace <+: (closure s place).deletions (found ++ []) := part []
      rw [hf] at deleted
      exact List.prefix_nil.1 deleted
    · cases ho : r.outcome with
      | error f => exact part
      | ok out =>
        rw [ho] at h
        obtain ⟨whole, all⟩ := (follows_report hp).whole (spaced_closure s place) h
        exact ⟨whole, all, alreadyAbsent_iff h⟩

end Cleanup

end NodeReclaim
