import NodeReclaim.Proofs.Closure

/-! Which places a cleanup calls. Besides the node it was given it calls what the objects lead to that it has read,
and a run that returns a report has called all of that. An identifier without a group or a name in it still leads
somewhere, so it decides whether every call has a target. -/
namespace NodeReclaim
open Program

def Target.IsKnown (target : Target) : Prop := target.group ≠ .null ∧ target.name ≠ .null

/-! ### Calls and what they lead to -/

def Step.target? : Step → Option Target
  | .read r => some r.target
  | .delete (.resource _ target) => some target
  | .delete (.group _) => none

def called (ss : List Step) : List Target := ss.filterMap Step.target?

/-- Where the object at a place leads. A machine leads to itself under the name it gives itself, to its interfaces,
its disks and its set, an interface to its public addresses. -/
def leads (kind : Kind) (target : Target) (object : Value) : List Target :=
  match kind, object with
  | .vm, .null => []
  | .vm, vm =>
    ⟨target.group, vm.field "name"⟩ ::
      (interfaceIds vm ++ diskIds vm ++ (availabilitySetId? vm).toList).map placeOf
  | .nic, nic => (publicIpIds nic).map placeOf
  | _, _ => []

def mentioned (rs : List Reading) : List Target := rs.flatMap fun r => leads r.kind r.target r.object

@[simp] theorem called_append (ss₁ ss₂ : List Step) : called (ss₁ ++ ss₂) = called ss₁ ++ called ss₂ :=
  List.filterMap_append

namespace Plan

theorem called_reads : called (reads kind target replies) = replies.map fun _ => target := by
  simp [called, reads, Step.target?, Function.comp_def]

/-- Steps of the plan call only what is due and what the objects lead to that were found, and all of it when
nothing is left of the plan. -/
def Serves (due : List Target) (plan : Plan) : Prop :=
  ∀ ss left, plan.Leaves ss left →
    called ss ⊆ due ++ mentioned (Step.settled ss) ∧ (left = .done → due ++ mentioned (Step.settled ss) ⊆ called ss)

namespace Serves

theorem done : Serves [] .done := by
  rintro ss left ⟨⟩
  exact ⟨List.Subset.refl _, fun _ => List.Subset.refl _⟩

theorem delete (h : Serves due rest) : Serves (target :: due) (.delete (.resource kind target) rest) := by
  rintro ss left (_ | hl)
  · exact ⟨List.nil_subset _, nofun⟩
  · obtain ⟨only, all⟩ := h _ _ hl
    exact ⟨List.cons_subset_cons _ only, fun ended => List.cons_subset_cons _ (all ended)⟩

theorem deleteAll (h : Serves due rest) (targets : List Target) :
    Serves (targets ++ due) (Plan.deleteAll kind targets rest) := by
  induction targets with
  | nil => exact h
  | cons target targets ih => exact ih.delete

theorem read {next : Value → Plan} (later : Value → List Target) (spaced : ∀ v, (next v).isRead = false)
    (h : ∀ v, Serves (later v) (next v))
    (hdue : ∀ v x, x ∈ target :: later v ↔ x ∈ target :: (due ++ leads kind target v)) :
    Serves (target :: due) (.read kind target next) := by
  rintro ss left (_ | _ | ⟨_, _, replies, reply, hl⟩)
  · exact ⟨List.nil_subset _, nofun⟩
  · obtain ⟨only, all⟩ := h _ _ _ hl
    have once : ∀ x, x ∈ (replies ++ [reply]).map (fun _ => target) ↔ x = target := by simp
    have same := hdue (Reading.mk kind target reply).object
    rw [called_append, called_reads, settled_reads (hl.head (spaced _))]
    simp only [List.subset_def, List.mem_append, List.mem_cons, mentioned, List.flatMap_cons, once] at only all same ⊢
    -- Tried again, a read calls its target again: calls and what is due agree in their members, not in number.
    constructor
    · intro x hx
      have kept := @only x
      have here := same x
      grind
    · intro ended x hx
      have kept := @all ended x
      have here := same x
      grind

theorem interface (h : Serves due rest) : Serves (target :: due) (Plan.interface target rest) := by
  apply read (fun nic => target :: ((publicIpIds nic).map placeOf ++ due)) (fun _ => rfl)
  · exact fun nic => (h.deleteAll _).delete
  · intro nic x
    simp only [leads, List.mem_cons, List.mem_append]
    grind

theorem interfaces (h : Serves due rest) (targets : List Target) :
    Serves (targets ++ due) (Plan.interfaces targets rest) := by
  induction targets with
  | nil => exact h
  | cons target targets ih => exact ih.interface

theorem availabilitySet (s : Settings) : Serves [target] (Plan.availabilitySet s target) := by
  apply read fun set => if isOwned s set && (memberIds (set.field "virtual_machines")).isEmpty then [target] else []
  · exact fun set => (spaced_availabilitySet set).1
  · intro set
    split
    · exact done.delete
    · exact done
  · intro set x
    split <;> simp [leads]

theorem leads_machine (h : vm ≠ .null) : leads .vm target vm =
    ⟨target.group, vm.field "name"⟩ :: ((interfaceIds vm).map placeOf ++
      ((diskIds vm).map placeOf ++ (availabilitySetId? vm).toList.map placeOf)) := by
  unfold leads
  split <;> simp_all

theorem machine (s : Settings) (target : Target) (h : vm ≠ .null) :
    Serves (leads .vm target vm) (Plan.machine s target.group vm) := by
  have shared : Serves ((availabilitySetId? vm).toList.map placeOf)
      (((availabilitySetId? vm).map fun id => Plan.availabilitySet s (placeOf id)).getD .done) := by
    cases availabilitySetId? vm with
    | none => exact done
    | some id => exact availabilitySet s
  rw [leads_machine h]
  exact ((shared.deleteAll _).interfaces _).delete

theorem closure (s : Settings) (id : NodeId) : Serves [⟨.text id.group, .text id.name⟩] (Plan.closure s id) := by
  apply read (leads .vm ⟨.text id.group, .text id.name⟩) (fun vm => (spaced_closure s id vm).1)
  · intro vm
    by_cases h : vm = .null
    · rw [h]
      exact done
    · have found := machine s ⟨.text id.group, .text id.name⟩ h
      cases vm <;> first | exact found | cases h rfl
  · simp

end Serves

end Plan

/-! ### The calls of a cleanup -/

def callees (t : List Exchange) : List Target := called (steps t)

namespace Cleanup

theorem calls_report (h : Runs (report s nodeId) t o) (hp : NodeId.parse nodeId = .ok place) :
    let due := ⟨.text place.group, .text place.name⟩ :: mentioned (readings t)
    callees t ⊆ due ∧ ∀ out, o = .ok out → due ⊆ callees t := by
  obtain ⟨left, taken, ended⟩ := follows_report hp t o h
  obtain ⟨only, all⟩ := Plan.Serves.closure s place _ _ taken
  exact ⟨only, fun out ho => all (ended out ho)⟩

/-- If everything that is found leads to known places, every call has a target. A run that returns a report lacks
none exactly then. -/
theorem report_calls_known_iff (w : World σ) (st : σ) (s : Settings) (nodeId : String) :
    let r := (report s nodeId).run w st
    let known := ∀ target ∈ mentioned (readings r.trace), target.IsKnown
    let safe := ∀ target ∈ callees r.trace, target.IsKnown
    (known → safe) ∧ ∀ out, r.outcome = .ok out → (safe ↔ known) := by
  intro r known safe
  have h : Runs (report s nodeId) r.trace r.outcome := runs_run w _ st
  cases hp : NodeId.parse nodeId with
  | error e =>
    rw [report, hp] at h
    obtain ⟨ht, ho⟩ := h
    have uncalled : safe := by
      change ∀ target ∈ callees r.trace, target.IsKnown
      rw [ht]
      exact List.forall_mem_nil _
    refine ⟨fun _ => uncalled, fun out returned => ?_⟩
    cases ho.symm.trans returned
  | ok place =>
    obtain ⟨only, all⟩ := calls_report h hp
    have given : Target.IsKnown ⟨.text place.group, .text place.name⟩ := by simp [Target.IsKnown]
    have enough (hk : known) : safe := fun target called => List.forall_mem_cons.2 ⟨given, hk⟩ target (only called)
    refine ⟨enough, fun out returned => ⟨fun hs target found => ?_, enough⟩⟩
    exact hs target (all out returned (List.mem_cons_of_mem _ found))

/-- A machine with an interface whose identifier is no path. -/
def strayInterface : Rehearsal.Store where
  objects :=
    [(.vm, "rg1/vm1",
      .record [("name", .text "vm1"),
        ("network_profile", .record [("network_interfaces", .list [.record [("id", .text "not-an-id")]])])])]

/-- The interface is read and deleted without a group and a name, and every step counts as a success. -/
theorem stray_interface_called :
    let r := (report plainSettings "rg1/vm1").run rehearsal strayInterface
    r.outcome.map Report.allSucceeded = .ok true ∧ ¬ ∀ target ∈ callees r.trace, target.IsKnown := by
  -- Parsed first, or the identifier is parsed again wherever its parts are needed.
  have parsed : NodeId.parse "rg1/vm1" = .ok ⟨"rg1", "vm1"⟩ := rfl
  unfold report
  rw [parsed]
  refine ⟨rfl, fun known => ?_⟩
  change ∀ target ∈ [⟨.text "rg1", .text "vm1"⟩, ⟨.text "rg1", .text "vm1"⟩, ⟨.null, .null⟩, ⟨.null, .null⟩],
    Target.IsKnown target at known
  exact (known ⟨.null, .null⟩ (by simp)).1 rfl

end Cleanup

end NodeReclaim
