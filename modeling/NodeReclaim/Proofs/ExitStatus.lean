import NodeReclaim.Command.Output
import NodeReclaim.Proofs.Closure
import NodeReclaim.Proofs.Commands

/-! What the exit status of a command tells. It is zero where the settings load, the provider is connected to and
the action does what it is for, and one in every other case. Printing decides nothing: a node is cleaned up in
the same way whether or not its steps are shown. -/
namespace NodeReclaim
open Program

/-! ### Printing -/

def Exchange.isPrint (x : Exchange) : Bool :=
  match x.request with
  | .print _ _ => true
  | _ => false

/-- What a run does besides printing. -/
def deeds (t : List Exchange) : List Exchange := t.filter fun x => !x.isPrint

@[simp] theorem deeds_append (t₁ t₂ : List Exchange) : deeds (t₁ ++ t₂) = deeds t₁ ++ deeds t₂ :=
  List.filter_append ..

def verdict (judge : α → Bool) : Except Fault α → Bool
  | .ok a => judge a
  | .error _ => false

@[simp] theorem verdict_ok (judge : α → Bool) (a : α) : verdict judge (.ok a) = judge a := rfl

@[simp] theorem verdict_error (judge : α → Bool) (f : Fault) : verdict judge (.error f) = false := rfl

namespace Program

def Announces (a : α) (p : Program α) : Prop := ∀ t o, Runs p t o → deeds t = [] ∧ o = .ok a

theorem announces_done (a : α) : (done a).Announces a := by
  rintro t o ⟨rfl, rfl⟩
  exact ⟨rfl, rfl⟩

theorem Announces.after_print {f : Unit → Program α} (h : (f ()).Announces a) :
    (print stream line >>= f).Announces a := by
  rintro t o ⟨u, rest, rfl, hr⟩
  exact h rest o hr

theorem announces_lines (lines : List String) (a : α) :
    (lines.forM (print .out) >>= fun _ => done a).Announces a := by
  induction lines with
  | nil => exact announces_done a
  | cons line lines ih =>
    rw [List.forM_eq_forM, List.forM_cons, bind_assoc]
    exact ih.after_print

section
variable (w : World σ) (st : σ)

theorem run_bind_ok_iff {p : Program α} {f : α → Program β} :
    ((p >>= f).run w st).outcome = .ok b ↔
      ∃ a, (p.run w st).outcome = .ok a ∧ ((f a).run w (p.run w st).state).outcome = .ok b := by
  rw [run_bind]
  cases (p.run w st).outcome <;> simp

theorem run_announced {p : Program α} {f : α → Program β} {v : α → β} (hf : ∀ a, (f a).Announces (v a)) :
    deeds ((p >>= f).run w st).trace = deeds (p.run w st).trace ∧
      ((p >>= f).run w st).outcome = (p.run w st).outcome.map v := by
  rw [run_bind]
  cases (p.run w st).outcome with
  | error e => exact ⟨rfl, rfl⟩
  | ok a =>
    obtain ⟨quiet, returned⟩ := hf a _ _ (runs_run w (f a) (p.run w st).state)
    exact ⟨by simp only [deeds_append, quiet, List.append_nil], returned⟩

theorem run_attempt_announced {p : Program α} {f : Except Fault α → Program Bool} (judge : α → Bool)
    (hf : ∀ o, (f o).Announces (verdict judge o)) :
    deeds ((p.attempt >>= f).run w st).trace = deeds (p.run w st).trace ∧
      ((p.attempt >>= f).run w st).outcome = .ok (verdict judge (p.run w st).outcome) := by
  have attempted := run_announced w st (p := p.attempt) hf
  rwa [run_attempt] at attempted

end

end Program

namespace Command

theorem announces_complain : (complain text).Announces false := (announces_done false).after_print

theorem announces_surprise (f : Fault) : (surprise f).Announces false := (announces_done false).after_print

theorem announces_explain (f : Fault) : (explain f).Announces false := by
  unfold explain
  split
  · exact announces_complain
  · exact announces_surprise _

theorem announces_conclude {failure : String} : (conclude success message failure).Announces success := by
  cases success with
  | true => exact (announces_done true).after_print
  | false => exact announces_complain

/-! ### Actions -/

/-- The operation of an action and what its success is judged by. -/
def goal (s : Settings) (levels : Nat) : Action → Program Bool
  | .node id false => Cleanup.node s id
  | .node id true => return (← Cleanup.report s id).allSucceeded
  | .securityGroup rg group => Cleanup.securityGroup s (.text rg) (.text group) levels
  | .group name => Cleanup.resourceGroup s (.text name)

theorem report_yields (s : Settings) (id : String) :
    (Cleanup.report s id).Yields fun r => r.alreadyAbsent = true → r.vmDeleted = true := by
  apply Yields.after
  intro place
  apply Yields.after
  rintro (_ | m)
  · exact fun _ _ => rfl
  · apply (Cleanup.present_yields s id m).mono
    intro r present absent
    rw [present] at absent
    cases absent

def nodeJudge (shown : Bool) (r : Report) : Bool := if shown then r.allSucceeded else r.vmDeleted

/-- The machine was there and is deleted, but a later step failed. -/
def FailsLater (r : Report) : Prop :=
  r.alreadyAbsent = false ∧ r.vmDeleted = true ∧
    (r.nicsDeleted = false ∨ r.disksDeleted = false ∨ r.availabilitySetDeleted = false)

theorem nodeJudge_of_shown (sound : r.alreadyAbsent = true → r.vmDeleted = true) (h : nodeJudge true r = true) :
    nodeJudge false r = true := by
  change r.allSucceeded = true at h
  simp only [Report.allSucceeded, Bool.or_eq_true, Bool.and_eq_true] at h
  rcases h with absent | ⟨⟨⟨deleted, -⟩, -⟩, -⟩
  · exact sound absent
  · exact deleted

theorem nodeJudge_ne_iff (sound : r.alreadyAbsent = true → r.vmDeleted = true) :
    nodeJudge true r ≠ nodeJudge false r ↔ FailsLater r := by
  change r.allSucceeded ≠ r.vmDeleted ↔ _
  unfold Report.allSucceeded FailsLater
  cases absent : r.alreadyAbsent with
  | true => simp [sound absent]
  | false => cases r.vmDeleted <;> simp [or_assoc, imp_iff_not_or]

section
variable (w : World σ) (st : σ) (s : Settings) (levels : Nat)

theorem run_goal_node (id : String) (shown : Bool) :
    ((goal s levels (.node id shown)).run w st).outcome =
      ((Cleanup.report s id).run w st).outcome.map (nodeJudge shown) := by
  cases shown with
  | false => exact (run_announced w st fun r : Report => announces_done r.vmDeleted).2
  | true => exact (run_announced w st fun r : Report => announces_done r.allSucceeded).2

/-- Shown or not, the same cleanup runs, and only what it is judged by differs. -/
theorem run_act_node (id : String) (shown : Bool) :
    let cleaned := (Cleanup.report s id).run w st
    let acted := (act s levels (.node id shown)).run w st
    deeds acted.trace = deeds cleaned.trace ∧ acted.outcome = .ok (verdict (nodeJudge shown) cleaned.outcome) := by
  cases shown with
  | true =>
    apply run_attempt_announced w st (nodeJudge _)
    rintro (f | r)
    · exact announces_explain f
    · exact announces_lines _ _
  | false =>
    dsimp only [act]
    unfold node Cleanup.node
    rw [attempt_bind, bind_assoc]
    apply run_attempt_announced w st (nodeJudge _)
    rintro (f | r)
    · exact announces_explain f
    · exact announces_conclude

theorem act_succeeds_iff (action : Action) :
    ((act s levels action).run w st).outcome = .ok true ↔ ((goal s levels action).run w st).outcome = .ok true := by
  cases action with
  | node id shown =>
    rw [(run_act_node w st s levels id shown).2, run_goal_node]
    cases ((Cleanup.report s id).run w st).outcome <;> simp [Except.map]
  | securityGroup rg group =>
    dsimp only [act, goal]
    unfold securityGroup
    rw [(run_announced w st fun _ => announces_conclude).2]
    cases ((Cleanup.securityGroup s (.text rg) (.text group) levels).run w st).outcome <;> simp [Except.map]
  | group name =>
    dsimp only [act, goal]
    unfold resourceGroup
    rw [(run_attempt_announced w st (fun deleted => deleted) ?announced).2]
    case announced =>
      rintro (f | deleted)
      · exact announces_surprise f
      · exact announces_conclude
    cases ((Cleanup.resourceGroup s (.text name)).run w st).outcome <;> simp

end

/-! ### Commands -/

theorem status_eq_zero_iff {o : Except Fault Bool} : status o = 0 ↔ o = .ok true := by
  unfold status
  split <;> simp_all

theorem status_eq_one_iff {o : Except Fault Bool} : status o = 1 ↔ ¬ o = .ok true := by
  unfold status
  split <;> simp_all

theorem status_ok_inj {a b : Bool} : status (.ok a) = status (.ok b) ↔ a = b := by
  cases a <;> cases b <;> decide

/-- The settings are loaded, the provider is connected to under them, and then the operation returns the value. -/
def Reaches (w : World σ) (st : σ) (i : Invocation) (runtime : Runtime) (operation : Settings → Program α) (a : α) :
    Prop :=
  let loading := (Settings.load i.config runtime).run w st
  ∃ loaded, loading.outcome = .ok loaded ∧
    let s := withSubscription i.subscription loaded
    let connecting := (Access.connect s).run w loading.state
    connecting.outcome = .ok () ∧ ((operation s).run w connecting.state).outcome = .ok a

section
variable (w : World σ) (st : σ) (i : Invocation) (runtime : Runtime)

theorem reaches_iff {operation : Settings → Program α} :
    Reaches w st i runtime operation a ↔ ((prepare i runtime >>= operation).run w st).outcome = .ok a := by
  unfold prepare Reaches
  simp only [bind_assoc, pure_bind, run_bind_ok_iff]
  exact exists_congr fun loaded => and_congr_right fun _ => ⟨fun h => ⟨(), h⟩, fun ⟨_, h⟩ => h⟩

theorem run_prepared (action : Action) :
    let ready := (prepare i runtime).run w st
    let rest := (match ready.outcome with
      | .ok s => act s runtime.levels action
      | .error f => respond f).run w ready.state
    (execute { i with action } runtime).run w st = ⟨ready.trace ++ rest.trace, rest.outcome, rest.state⟩ := by
  unfold execute
  rw [run_bind, run_attempt]
  rfl

theorem respond_fails (f : Fault) : ((respond f).run w st).outcome ≠ .ok true := by
  unfold respond
  split <;> simp [complain, print, ask, run]

theorem execute_succeeds_iff :
    ((execute i runtime).run w st).outcome = .ok true ↔
      Reaches w st i runtime (fun s => goal s runtime.levels i.action) true := by
  have prepared : (execute i runtime).run w st = _ := run_prepared w st i runtime i.action
  rw [prepared, reaches_iff, run_bind_ok_iff]
  cases ((prepare i runtime).run w st).outcome with
  | error f => simp [respond_fails]
  | ok s => simp [act_succeeds_iff]

end

/-- The exit status is zero exactly where a command loads its settings, connects and then does what its action is
for. In every other case it is one. -/
theorem status_execute (w : World σ) (st : σ) (i : Invocation) (runtime : Runtime) :
    let r := (execute i runtime).run w st
    let achieved := Reaches w st i runtime (fun s => goal s runtime.levels i.action) true
    (status r.outcome = 0 ↔ achieved) ∧ (status r.outcome = 1 ↔ ¬ achieved) := by
  dsimp only
  rw [status_eq_zero_iff, status_eq_one_iff, execute_succeeds_iff]
  exact ⟨Iff.rfl, Iff.rfl⟩

/-- Showing the steps changes nothing but the printed lines and what the status is judged by. The two statuses differ
just where the machine was there and is deleted, and a later step failed. -/
theorem report_agrees (w : World σ) (st : σ) (i : Invocation) (runtime : Runtime) (id : String) :
    let plain := (execute { i with action := .node id false } runtime).run w st
    let shown := (execute { i with action := .node id true } runtime).run w st
    deeds shown.trace = deeds plain.trace ∧
      (status shown.outcome = 0 → status plain.outcome = 0) ∧
      (status shown.outcome ≠ status plain.outcome ↔
        ∃ r, Reaches w st i runtime (fun s => Cleanup.report s id) r ∧ FailsLater r) := by
  simp only [run_prepared w st i runtime, reaches_iff, run_bind_ok_iff, deeds_append]
  cases ((prepare i runtime).run w st).outcome with
  | error f => simp
  | ok s =>
    have ran (shown : Bool) := run_act_node w ((prepare i runtime).run w st).state s runtime.levels id shown
    have cleaned := runs_run w (Cleanup.report s id) ((prepare i runtime).run w st).state
    simp only [(ran true).1, (ran true).2, (ran false).1, (ran false).2, Except.ok.injEq, exists_eq_left']
    cases h : ((Cleanup.report s id).run w ((prepare i runtime).run w st).state).outcome with
    | error f => simp
    | ok r =>
      rw [h] at cleaned
      have sound := (report_yields s id).of_runs cleaned
      refine ⟨trivial, fun succeeded => ?_, ?_⟩
      · have judged : nodeJudge true r = true := Except.ok.inj (status_eq_zero_iff.1 succeeded)
        exact status_eq_zero_iff.2 (congrArg _ (nodeJudge_of_shown sound judged))
      · rw [ne_eq, status_ok_inj]
        simpa using nodeJudge_ne_iff sound

end Command

end NodeReclaim
