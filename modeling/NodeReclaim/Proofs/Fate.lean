import NodeReclaim.Proofs.Tickets
import NodeReclaim.Proofs.Twins
import NodeReclaim.Proofs.Vanishing

/-! What the fate of the machine means for the rest of a cleanup: nothing. Two providers that differ only in how
the deletion of the machine ends are asked for the same things afterwards, whatever they answer, and the reports
differ in nothing but the machine. -/
namespace NodeReclaim
open Program

namespace Cleanup
open Access

/-! ### The stages of a cleanup -/

def opening (s : Settings) (nodeId : String) : Program (Option Machine) := do
  let id ← ofExcept ((NodeId.parse nodeId).mapError .identifier)
  Access.machine? s ⟨.text id.group, .text id.name⟩

def machineStep (s : Settings) (nodeId : String) (m : Machine) : Program Bool := do
  logStep ("destroying " ++ nodeId ++ " ...")
  let deleted ← machine s m
  unless deleted do logTrouble ("could not delete VM " ++ nodeId)
  return deleted

def dependents (s : Settings) (nodeId : String) (m : Machine) (vmDeleted : Bool) : Program Report := do
  let nicsDeleted ← network s m
  let disksDeleted ← disks s m
  let availabilitySetDeleted ← availabilitySet s m
  return { nodeId, vmDeleted, nicsDeleted, disksDeleted, availabilitySetDeleted }

def closing (s : Settings) (nodeId : String) : Option Machine → Program Report
  | none => do
    logStep (nodeId ++ " does not exist, nothing to destroy")
    return { nodeId, alreadyAbsent := true, vmDeleted := true }
  | some m => machineStep s nodeId m >>= dependents s nodeId m

theorem present_eq (s : Settings) (nodeId : String) (m : Machine) :
    present s nodeId m = machineStep s nodeId m >>= dependents s nodeId m := by
  unfold present machineStep dependents
  simp only [LawfulMonad.bind_assoc]
  congr
  funext _
  congr
  funext deleted
  cases deleted <;> rfl

theorem report_eq (s : Settings) (nodeId : String) :
    report s nodeId = opening s nodeId >>= closing s nodeId := by
  unfold report opening
  rw [LawfulMonad.bind_assoc]
  congr
  funext id
  congr
  funext found
  cases found with
  | none => rfl
  | some m => exact present_eq s nodeId m

def AgreeBesidesVm (a b : Report) : Prop := a = { b with vmDeleted := a.vmDeleted }

theorem alike_dependents {tickets : Ticket → Ticket → Prop} (s : Settings) (nodeId : String) (m : Machine)
    (deleted₁ deleted₂ : Bool) :
    Alike tickets AgreeBesidesVm (dependents s nodeId m deleted₁) (dependents s nodeId m deleted₂) := by
  apply (alike_network s m).bind
  rintro nics _ rfl
  apply (alike_disks s m).bind
  rintro discs _ rfl
  apply (alike_availabilitySet s m).bind
  rintro shared _ rfl
  exact .done rfl

theorem opening_within (s : Settings) (nodeId : String) : (opening s nodeId).Within isOpening := by
  have own (r : Request) (h : Retry.isOwnRequest r) : isOpening r := by cases r <;> trivial
  apply Within.bind (within_ofExcept _)
  intro id
  exact within_snapshot? own s (show isOpening (.get .vm _) from trivial) _

section
variable {w : World σ} (kept : σ → Prop) (answers : ∀ {st r}, kept st → isFate w r → kept (w.answer r st).2)
include answers

theorem keeps_machine (s : Settings) (m : Machine) (h : kept st) : kept ((machine s m).run w st).state := by
  have whole : machine s m = ask (.beginDelete .vm ⟨m.group, m.name⟩ s.pollingInterval) >>= fun reply =>
      answered .vm ⟨m.group, m.name⟩ reply >>= fun job => confirm s job := by
    change beginDelete s .vm _ >>= _ = _
    rw [beginDelete_eq, LawfulMonad.bind_assoc]
  have fated : (answered .vm ⟨m.group, m.name⟩
      (w.answer (.beginDelete .vm ⟨m.group, m.name⟩ s.pollingInterval) st).1 >>= fun job =>
        confirm s job).Within (isFate w) := by
    cases replied : (w.answer (.beginDelete .vm ⟨m.group, m.name⟩ s.pollingInterval) st).1 with
    | error f =>
      unfold answered
      dsimp only
      split
      · exact ⟨trivial, fun _ => trivial⟩
      · trivial
    | ok begun =>
      cases begun with
      | none => trivial
      | some ticket =>
        have own : w.fated ticket := ⟨_, _, _, replied⟩
        exact within_confirm_of (fun _ _ => trivial) own own s own _
  rw [whole]
  exact fated.keeps answers (answers h trivial)

theorem keeps_machineStep (s : Settings) (nodeId : String) (m : Machine) (h : kept st) :
    kept ((machineStep s nodeId m).run w st).state := by
  have told (text : String) : (logTrouble text).Within (isFate w) := within_ask trivial
  have began : (logStep ("destroying " ++ nodeId ++ " ...")).Within (isFate w) := within_ask trivial
  apply keeps_bind (began.keeps answers h)
  rintro _ -
  have deleted := keeps_machine kept answers s m (began.keeps answers h)
  apply keeps_bind deleted
  rintro (_ | _) -
  · exact (told _).keeps answers deleted
  · exact deleted

end

/-! ### Two runs -/

/-- The step of the machine returns, if the cleanup comes to it. -/
def StepReturns (w : World σ) (st : σ) (s : Settings) (nodeId : String) : Prop :=
  ∀ m, ((opening s nodeId).run w st).outcome = .ok (some m) →
    ∃ deleted, ((machineStep s nodeId m).run w ((opening s nodeId).run w st).state).outcome = .ok deleted

/-- What the step of the machine exchanges, if the cleanup comes to it. -/
def stepOf (w : World σ) (s : Settings) (nodeId : String) (lead : Run σ (Option Machine)) : List Exchange :=
  match lead.outcome with
  | .ok (some m) => ((machineStep s nodeId m).run w lead.state).trace
  | _ => []

/-- What follows the step of the machine goes alike for both providers. -/
theorem dependents_alike {w₁ : World σ} {w₂ : World τ} (twins : Twins w₁ w₂) (s : Settings) (nodeId : String)
    (m : Machine) (deleted₁ deleted₂ : Bool) (h : twins.during st₁ st₂) :
    let rest₁ := (dependents s nodeId m deleted₁).run w₁ st₁
    let rest₂ := (dependents s nodeId m deleted₂).run w₂ st₂
    List.Forall₂ (Exchange.Alike (GivenTogether rest₁.trace rest₂.trace)) rest₁.trace rest₂.trace ∧
      OutcomesAlike AgreeBesidesVm rest₁.outcome rest₂.outcome := by
  intro rest₁ rest₂
  obtain ⟨tickets, settled⟩ := twins.ending h
  obtain ⟨traces, outcomes⟩ := (alike_dependents s nodeId m deleted₁ deleted₂).run twins.answers settled
  refine ⟨?_, outcomes⟩
  exact (alike_dependents s nodeId m deleted₁ deleted₂).regiven (runs_run w₁ _ st₁) (runs_run w₂ _ st₂) traces
    fun _ _ => id

theorem run_report_some {w : World σ} {st : σ}
    (found : ((opening s nodeId).run w st).outcome = .ok (some m))
    (deleted : ((machineStep s nodeId m).run w ((opening s nodeId).run w st).state).outcome = .ok vmDeleted) :
    let lead := (opening s nodeId).run w st
    let rest := (dependents s nodeId m vmDeleted).run w ((machineStep s nodeId m).run w lead.state).state
    ((report s nodeId).run w st).trace = lead.trace ++ stepOf w s nodeId lead ++ rest.trace ∧
      ((report s nodeId).run w st).outcome = rest.outcome := by
  have whole := run_bind w ((opening s nodeId).run w st).state (machineStep s nodeId m) (dependents s nodeId m)
  rw [deleted] at whole
  rw [report_eq, run_bind, found]
  simp only [closing, whole, stepOf, found, List.append_assoc, and_self]

def absence (nodeId : String) : Exchange :=
  logExchange .debug .cleanup (">> " ++ (nodeId ++ " does not exist, nothing to destroy"))

theorem run_report_none {w : World σ} {st : σ} (found : ((opening s nodeId).run w st).outcome = .ok none) :
    ((report s nodeId).run w st).trace = ((opening s nodeId).run w st).trace ++ [absence nodeId] ∧
      ((report s nodeId).run w st).outcome = .ok { nodeId, alreadyAbsent := true, vmDeleted := true } := by
  rw [report_eq, run_bind, found]
  exact ⟨rfl, rfl⟩

theorem run_report_error {w : World σ} {st : σ} (failed : ((opening s nodeId).run w st).outcome = .error e) :
    ((report s nodeId).run w st).trace = ((opening s nodeId).run w st).trace ∧
      ((report s nodeId).run w st).outcome = .error e := by
  rw [report_eq, run_bind, failed]
  exact ⟨rfl, rfl⟩

/-- The fate of the machine does not influence the rest. Of two providers that differ only in how the deletion of
the machine ends, and under which that step returns, the same is asked before it and the same after it: every
call, wait, pause and log entry of the one run has its like in the other, where a wait is for the operation that
was started at the same place. The runs end with the same fault, or with reports that agree in all but the
machine. -/
theorem report_ignores_fate {w₁ : World σ} {w₂ : World τ} (twins : Twins w₁ w₂) (st₁ : σ) (st₂ : τ)
    (s : Settings) (nodeId : String) (h : twins.before st₁ st₂) (h₁ : StepReturns w₁ st₁ s nodeId)
    (h₂ : StepReturns w₂ st₂ s nodeId) :
    let lead₁ := (opening s nodeId).run w₁ st₁
    let lead₂ := (opening s nodeId).run w₂ st₂
    let r₁ := (report s nodeId).run w₁ st₁
    let r₂ := (report s nodeId).run w₂ st₂
    lead₁.trace = lead₂.trace ∧ lead₁.outcome = lead₂.outcome ∧
      OutcomesAlike AgreeBesidesVm r₁.outcome r₂.outcome ∧
      ∃ rest₁ rest₂,
        r₁.trace = lead₁.trace ++ stepOf w₁ s nodeId lead₁ ++ rest₁ ∧
          r₂.trace = lead₂.trace ++ stepOf w₂ s nodeId lead₂ ++ rest₂ ∧
          List.Forall₂ (Exchange.Alike (GivenTogether rest₁ rest₂)) rest₁ rest₂ := by
  intro lead₁ lead₂ r₁ r₂
  obtain ⟨traces, outcomes, onset⟩ := twins.run_opening (opening_within s nodeId) h
  refine ⟨traces, outcomes, ?_⟩
  cases found₁ : lead₁.outcome with
  | error e =>
    have found₂ : lead₂.outcome = .error e := outcomes.symm.trans found₁
    obtain ⟨trace₁, outcome₁⟩ := run_report_error found₁
    obtain ⟨trace₂, outcome₂⟩ := run_report_error found₂
    rw [outcome₁, outcome₂]
    refine ⟨.error e, [], [], ?_, ?_, .nil⟩
    · simpa [stepOf, found₁] using trace₁
    · simpa [stepOf, found₂] using trace₂
  | ok found =>
    have found₂ : lead₂.outcome = .ok found := outcomes.symm.trans found₁
    cases found with
    | none =>
      obtain ⟨trace₁, outcome₁⟩ := run_report_none found₁
      obtain ⟨trace₂, outcome₂⟩ := run_report_none found₂
      rw [outcome₁, outcome₂]
      have same {tickets} : Exchange.Alike tickets (absence nodeId) (absence nodeId) :=
        .plain (r := .log _) trivial ()
      refine ⟨.ok rfl, [absence nodeId], [absence nodeId], ?_, ?_, .cons same .nil⟩
      · simpa [stepOf, found₁] using trace₁
      · simpa [stepOf, found₂] using trace₂
    | some m =>
      obtain ⟨deleted₁, stepped₁⟩ := h₁ m found₁
      obtain ⟨deleted₂, stepped₂⟩ := h₂ m found₂
      obtain ⟨trace₁, outcome₁⟩ := run_report_some found₁ stepped₁
      obtain ⟨trace₂, outcome₂⟩ := run_report_some found₂ stepped₂
      -- The steps may differ, but neither leaves the providers unlike each other.
      have during₁ := keeps_machineStep (twins.during · lead₂.state) twins.fate₁ s nodeId m (twins.onset onset)
      have during₂ := keeps_machineStep (twins.during _ ·) twins.fate₂ s nodeId m during₁
      obtain ⟨rest, ended⟩ := dependents_alike twins s nodeId m deleted₁ deleted₂ during₂
      rw [outcome₁, outcome₂]
      exact ⟨ended, _, _, trace₁, trace₂, rest⟩

def standing (turn : Rehearsal.Turn) : Rehearsal.Store where
  objects :=
    [(.vm, "rg1/vm1", furnished), (.disk, "rg1/os", .record []), (.availabilitySet, "rg1/set1", ownedSet)]
  scripts := [("delete vm rg1/vm1", [turn])]

theorem standing_before (turn₁ turn₂ : Rehearsal.Turn) :
    Rehearsal.twins.before (standing turn₁) (standing turn₂) := by
  refine ⟨⟨fun key other => ?_, fun _ _ _ => rfl, rfl, rfl⟩, rfl, rfl⟩
  have unlike : "delete vm rg1/vm1" ≠ key := by
    rintro rfl
    exact other ⟨⟨.text "rg1", .text "vm1"⟩, rfl⟩
  simp [Rehearsal.Store.queue, standing, unlike]

def prompt : Rehearsal.Store := standing { blank := false, nothing := true }

/-- The operation that deletes the machine fails. It counts, so that all that follow have other tickets. -/
def failing : Rehearsal.Store :=
  standing { blank := false, course := { waitFault := some (.raised .http (some "in use") (some 409)) } }

theorem prompt_or_failing_alike :
    OutcomesAlike AgreeBesidesVm ((report plainSettings "rg1/vm1").run rehearsal prompt).outcome
        ((report plainSettings "rg1/vm1").run rehearsal failing).outcome ∧
      ((report plainSettings "rg1/vm1").run rehearsal prompt).outcome.map (·.vmDeleted) = .ok true ∧
      ((report plainSettings "rg1/vm1").run rehearsal failing).outcome.map (·.vmDeleted) = .ok false := by
  have returns₁ : StepReturns rehearsal prompt plainSettings "rg1/vm1" := by
    intro m found
    cases found
    exact ⟨_, rfl⟩
  have returns₂ : StepReturns rehearsal failing plainSettings "rg1/vm1" := by
    intro m found
    cases found
    exact ⟨_, rfl⟩
  have apart := report_ignores_fate Rehearsal.twins prompt failing plainSettings "rg1/vm1"
    (standing_before _ _) returns₁ returns₂
  exact ⟨apart.2.2.1, rfl, rfl⟩

end Cleanup

end NodeReclaim
