import NodeReclaim.Proofs.Likeness
import NodeReclaim.Proofs.Stores

/-! Two providers that differ only in how the deletion of the machine ends. Rehearsals whose scripts differ in that
alone are such providers. -/
namespace NodeReclaim
open Program

def World.fated (w : World σ) (ticket : Ticket) : Prop :=
  ∃ target polling st, (w.answer (.beginDelete .vm target polling) st).1 = .ok (some ticket)

def isFate (w : World σ) : Request → Prop
  | .beginDelete .vm .. | .log _ => True
  | .wait ticket _ | .isDone ticket | .status ticket => w.fated ticket
  | _ => False

def isOpening : Request → Prop
  | .get .vm _ | .pause _ | .draw | .log _ => True
  | _ => False

/-- Two providers that differ only in how the deletion of the machine ends. Before it they answer the same. It
may be answered in any way by either, as long as that leaves the providers alike in all else: afterwards they
answer alike whatever is not about the machine, the tickets of the one standing for those of the other. -/
structure Twins (w₁ : World σ) (w₂ : World τ) where
  before : σ → τ → Prop
  during : σ → τ → Prop
  after : (Ticket → Ticket → Prop) → σ → τ → Prop
  opening : before st₁ st₂ → isOpening r →
    (w₁.answer r st₁).1 = (w₂.answer r st₂).1 ∧ before (w₁.answer r st₁).2 (w₂.answer r st₂).2
  onset : before st₁ st₂ → during st₁ st₂
  fate₁ : during st₁ st₂ → isFate w₁ r → during (w₁.answer r st₁).2 st₂
  fate₂ : during st₁ st₂ → isFate w₂ r → during st₁ (w₂.answer r st₂).2
  ending : during st₁ st₂ → ∃ tickets, after tickets st₁ st₂
  answers : after tickets st₁ st₂ → Request.Alike tickets r₁ r₂ →
    Exchange.Alike tickets ⟨r₁, (w₁.answer r₁ st₁).1⟩ ⟨r₂, (w₂.answer r₂ st₂).1⟩ ∧
      after tickets (w₁.answer r₁ st₁).2 (w₂.answer r₂ st₂).2

theorem Twins.run_opening {w₁ : World σ} {w₂ : World τ} (twins : Twins w₁ w₂) {p : Program α}
    (hp : p.Within isOpening) (h : twins.before st₁ st₂) :
    (p.run w₁ st₁).trace = (p.run w₂ st₂).trace ∧ (p.run w₁ st₁).outcome = (p.run w₂ st₂).outcome ∧
      twins.before (p.run w₁ st₁).state (p.run w₂ st₂).state := by
  induction p generalizing st₁ st₂ with
  | done a => exact ⟨rfl, rfl, h⟩
  | fail e => exact ⟨rfl, rfl, h⟩
  | step r next ih =>
    obtain ⟨same, still⟩ := twins.opening h hp.1
    obtain ⟨traces, outcomes, states⟩ := ih _ (hp.2 _) still
    simp only [run, ← same]
    exact ⟨congrArg _ traces, outcomes, states⟩

theorem Exchange.Alike.of_eq {x y : r.Reply} (h : isTicketless r) (same : x = y) :
    Exchange.Alike tickets ⟨r, x⟩ ⟨r, y⟩ :=
  same ▸ .plain h x

namespace Rehearsal
open Store

/-! ### What is about the machine -/

def IsMachineDeletion (key : String) : Prop := ∃ target, key = "delete " ++ labelOf .vm target

def IsMachineKey (key : String) : Prop := IsMachineDeletion key ∨ ∃ target, key = "get " ++ labelOf .vm target

theorem not_isMachineDeletion_get (kind : Kind) (target : Target) :
    ¬ IsMachineDeletion ("get " ++ labelOf kind target) := by
  rintro ⟨other, same⟩
  have spelled := congrArg String.toList same
  simp at spelled

theorem not_isMachineKey_get (hkind : kind ≠ .vm) (target : Target) :
    ¬ IsMachineKey ("get " ++ labelOf kind target) := by
  rintro (h | ⟨other, same⟩)
  · exact not_isMachineDeletion_get kind target h
  · have spelled := congrArg String.toList same
    cases kind <;> simp [labelOf, kindName] at spelled hkind

theorem not_isMachineKey_delete (hkind : kind ≠ .vm) (target : Target) :
    ¬ IsMachineKey ("delete " ++ labelOf kind target) := by
  rintro (⟨other, same⟩ | ⟨other, same⟩)
  all_goals
    have spelled := congrArg String.toList same
    cases kind <;> simp [labelOf, kindName] at spelled hkind

abbrev AgreeBefore : Store → Store → Prop := Agree (¬ IsMachineDeletion ·) fun _ => True

abbrev AgreeBesides : Store → Store → Prop := Agree (¬ IsMachineKey ·) (· ≠ .vm)

theorem AgreeBefore.besides (h : AgreeBefore s₁ s₂) : AgreeBesides s₁ s₂ :=
  h.mono (fun _ other own => other (.inl own)) fun _ _ => trivial

theorem agreeBesides_takeTurn (s : Store) (h : IsMachineKey key) : AgreeBesides (s.takeTurn key).2 s where
  queue key' own := by
    have other : key' ≠ key := fun same => own (same ▸ h)
    rw [queue_takeTurn, if_neg other]
  object kind place _ := object?_takeTurn s key kind place
  draws := draws_takeTurn s key
  timer := timer_takeTurn s key

theorem agreeBesides_removeObject (s : Store) (place : String) : AgreeBesides (s.removeObject .vm place) s where
  queue _ _ := rfl
  object kind place' own := by rw [object?_removeObject, if_neg fun same => own same.1]
  draws := rfl
  timer := rfl

def OnlyMachines (s : Store) : Prop := ∀ o ∈ s.operations, ∃ place, o.goal = .object .vm place

theorem agreeBesides_beginDelete (target : Target) (s : Store) (h : OnlyMachines s) :
    AgreeBesides (beginDelete .vm target s).2 s ∧ OnlyMachines (beginDelete .vm target s).2 := by
  have taken := agreeBesides_takeTurn s (.inl ⟨target, rfl⟩ : IsMachineKey ("delete " ++ labelOf .vm target))
  have kept := operations_takeTurn s ("delete " ++ labelOf .vm target)
  unfold beginDelete
  generalize s.takeTurn ("delete " ++ labelOf .vm target) = p at taken kept ⊢
  obtain ⟨turn, s'⟩ := p
  dsimp only at taken kept ⊢
  have still : OnlyMachines s' := by
    unfold OnlyMachines
    rw [kept]
    exact h
  split
  · exact ⟨taken, still⟩
  · split
    · exact ⟨taken, still⟩
    · split
      · exact ⟨(agreeBesides_removeObject s' _).trans taken, still⟩
      · refine ⟨⟨taken.queue, taken.object, taken.draws, taken.timer⟩, ?_⟩
        intro o started
        rcases List.mem_append.1 started with earlier | new
        · exact still o earlier
        · obtain rfl := List.mem_singleton.1 new
          exact ⟨_, rfl⟩

theorem agreeBesides_wait (ticket : Ticket) (s : Store) (h : OnlyMachines s) :
    AgreeBesides (wait ticket s).2 s ∧ OnlyMachines (wait ticket s).2 := by
  unfold wait
  cases found : s.operation? ticket with
  | none => exact ⟨.refl s, h⟩
  | some o =>
    dsimp only
    split
    · exact ⟨.refl s, h⟩
    · split
      · obtain ⟨place, own⟩ := h o (List.mem_of_getElem? found)
        rw [own]
        exact ⟨agreeBesides_removeObject s place, h⟩
      · exact ⟨.refl s, h⟩

/-- However the deletion of the machine is answered, nothing else changes. -/
theorem agreeBesides_fate (h : OnlyMachines s) (hr : isFate rehearsal r) :
    AgreeBesides (rehearsal.answer r s).2 s ∧ OnlyMachines (rehearsal.answer r s).2 := by
  cases r with
  | beginDelete kind target polling =>
    cases kind with
    | vm => exact agreeBesides_beginDelete target s h
    | _ => cases hr
  | wait ticket timeout => exact agreeBesides_wait ticket s h
  | isDone | status | log => exact ⟨.refl s, h⟩
  | _ => cases hr

/-! ### Afterwards -/

/-- Tickets of the same operation, when so many were started before in either store. -/
def shifted (earlier₁ earlier₂ : Nat) (i j : Ticket) : Prop :=
  ∃ later, i.number = earlier₁ + later ∧ j.number = earlier₂ + later

/-- The stores agree besides the machine, and have started the same operations since it was dealt with. -/
def AgreeAfter (tickets : Ticket → Ticket → Prop) (s₁ s₂ : Store) : Prop :=
  AgreeBesides s₁ s₂ ∧ ∃ earlier₁ earlier₂ later,
    s₁.operations = earlier₁ ++ later ∧ s₂.operations = earlier₂ ++ later ∧
      tickets = shifted earlier₁.length earlier₂.length

namespace AgreeAfter

theorem of_agree (h : AgreeAfter tickets s₁ s₂) (agree : AgreeBesides s₁' s₂')
    (kept₁ : s₁'.operations = s₁.operations) (kept₂ : s₂'.operations = s₂.operations) :
    AgreeAfter tickets s₁' s₂' := by
  unfold AgreeAfter
  rw [kept₁, kept₂]
  exact ⟨agree, h.2⟩

theorem operation? (h : AgreeAfter tickets s₁ s₂) (hij : tickets i j) : s₁.operation? i = s₂.operation? j := by
  obtain ⟨_, earlier₁, earlier₂, later, ops₁, ops₂, rfl⟩ := h
  obtain ⟨n, number₁, number₂⟩ := hij
  unfold Store.operation?
  rw [ops₁, ops₂, number₁, number₂, List.getElem?_append_right (Nat.le_add_right _ _),
    List.getElem?_append_right (Nat.le_add_right _ _), Nat.add_sub_cancel_left, Nat.add_sub_cancel_left]

theorem start (h : AgreeAfter tickets s₁ s₂) (label : String) (course : Course) (goal : Goal) :
    tickets (s₁.start label course goal).1 (s₂.start label course goal).1 ∧
      AgreeAfter tickets (s₁.start label course goal).2 (s₂.start label course goal).2 := by
  obtain ⟨agree, earlier₁, earlier₂, later, ops₁, ops₂, rfl⟩ := h
  refine ⟨⟨later.length, ?_, ?_⟩, ⟨agree.queue, agree.object, agree.draws, agree.timer⟩,
    earlier₁, earlier₂, later ++ [⟨label, course, goal⟩], ?_, ?_, rfl⟩
  · simp [Store.start, ops₁]
  · simp [Store.start, ops₂]
  · simp [Store.start, ops₁]
  · simp [Store.start, ops₂]

theorem wait (h : AgreeAfter tickets s₁ s₂) (hij : tickets i j) :
    (Rehearsal.wait i s₁).1 = (Rehearsal.wait j s₂).1 ∧
      AgreeAfter tickets (Rehearsal.wait i s₁).2 (Rehearsal.wait j s₂).2 := by
  unfold Rehearsal.wait
  rw [h.operation? hij]
  split
  · exact ⟨rfl, h⟩
  · split
    · exact ⟨rfl, h⟩
    · split
      · exact ⟨rfl, h.of_agree (h.1.reach _) (operations_reach _ _) (operations_reach _ _)⟩
      · exact ⟨rfl, h⟩

theorem beginDelete (h : AgreeAfter tickets s₁ s₂) (hkind : kind ≠ .vm) (target : Target) (polling : Value) :
    Exchange.Alike tickets ⟨.beginDelete kind target polling, (Rehearsal.beginDelete kind target s₁).1⟩
        ⟨.beginDelete kind target polling, (Rehearsal.beginDelete kind target s₂).1⟩ ∧
      AgreeAfter tickets (Rehearsal.beginDelete kind target s₁).2 (Rehearsal.beginDelete kind target s₂).2 := by
  have taken := h.1.takeTurn (not_isMachineKey_delete hkind target)
  have ops₁ := operations_takeTurn s₁ ("delete " ++ labelOf kind target)
  have ops₂ := operations_takeTurn s₂ ("delete " ++ labelOf kind target)
  unfold Rehearsal.beginDelete
  generalize s₁.takeTurn ("delete " ++ labelOf kind target) = p₁ at taken ops₁ ⊢
  generalize s₂.takeTurn ("delete " ++ labelOf kind target) = p₂ at taken ops₂ ⊢
  obtain ⟨turn, s₁'⟩ := p₁
  obtain ⟨_, s₂'⟩ := p₂
  obtain ⟨rfl, agree⟩ := taken
  have still : AgreeAfter tickets s₁' s₂' := h.of_agree agree ops₁ ops₂
  dsimp only at agree ⊢
  rw [agree.object kind (Rehearsal.place target) hkind]
  split
  · exact ⟨.refused .., still⟩
  · split
    · exact ⟨.refused .., still⟩
    · split
      · exact ⟨.idle .., still.of_agree (agree.removeObject kind _) rfl rfl⟩
      · obtain ⟨together, started⟩ :=
          still.start (labelOf kind target) turn.course (.object kind (Rehearsal.place target))
        exact ⟨.begun together .., started⟩

theorem answers (h : AgreeAfter tickets s₁ s₂) (asked : Request.Alike tickets r₁ r₂) :
    Exchange.Alike tickets ⟨r₁, (rehearsal.answer r₁ s₁).1⟩ ⟨r₂, (rehearsal.answer r₂ s₂).1⟩ ∧
      AgreeAfter tickets (rehearsal.answer r₁ s₁).2 (rehearsal.answer r₂ s₂).2 := by
  cases asked with
  | plain plain =>
    cases r₁ with
    | get kind target =>
      obtain ⟨same, agree⟩ := h.1.get target (not_isMachineKey_get plain target) plain
      exact ⟨.of_eq plain same, h.of_agree agree (operations_get ..) (operations_get ..)⟩
    | delete kind target =>
      obtain ⟨same, agree⟩ := h.1.delete target (not_isMachineKey_delete plain target) plain
      exact ⟨.of_eq plain same, h.of_agree agree (operations_delete ..) (operations_delete ..)⟩
    | draw =>
      obtain ⟨same, agree⟩ := h.1.draw
      exact ⟨.of_eq plain same, h.of_agree agree (operations_draw _) (operations_draw _)⟩
    | pause seconds => exact ⟨.of_eq plain (congrFun h.1.timer seconds), h⟩
    | log => exact ⟨.plain plain _, h⟩
    | _ => cases plain
  | beginDelete other target polling => exact h.beginDelete other target polling
  | @wait i j hij timeout =>
    obtain ⟨same, still⟩ := h.wait hij
    refine ⟨?_, still⟩
    change Exchange.Alike tickets ⟨.wait i timeout, (Rehearsal.wait i s₁).1⟩ ⟨.wait j timeout, (Rehearsal.wait j s₂).1⟩
    rw [same]
    exact .wait hij timeout _
  | @isDone i j hij =>
    refine ⟨?_, h⟩
    change Exchange.Alike tickets ⟨.isDone i, Rehearsal.isDone i s₁⟩ ⟨.isDone j, Rehearsal.isDone j s₂⟩
    unfold Rehearsal.isDone
    rw [h.operation? hij]
    exact .isDone hij _
  | @status i j hij =>
    refine ⟨?_, h⟩
    change Exchange.Alike tickets ⟨.status i, statusOf i s₁⟩ ⟨.status j, statusOf j s₂⟩
    unfold statusOf
    rw [h.operation? hij]
    exact .status hij _

end AgreeAfter

/-- Rehearsals are such providers, if their stores agree but for how the deletion of the machine is answered. -/
def twins : Twins rehearsal rehearsal where
  before s₁ s₂ := AgreeBefore s₁ s₂ ∧ s₁.operations = [] ∧ s₂.operations = []
  during s₁ s₂ := AgreeBesides s₁ s₂ ∧ OnlyMachines s₁ ∧ OnlyMachines s₂
  after := AgreeAfter
  opening := by
    rintro s₁ s₂ r ⟨agree, none₁, none₂⟩ h
    cases r with
    | get kind target =>
      cases kind with
      | vm =>
        obtain ⟨same, still⟩ := agree.get target (not_isMachineDeletion_get .vm target) trivial
        exact ⟨same, still, (operations_get ..).trans none₁, (operations_get ..).trans none₂⟩
      | _ => cases h
    | draw =>
      obtain ⟨same, still⟩ := agree.draw
      exact ⟨same, still, (operations_draw _).trans none₁, (operations_draw _).trans none₂⟩
    | pause seconds => exact ⟨congrFun agree.timer seconds, agree, none₁, none₂⟩
    | log => exact ⟨rfl, agree, none₁, none₂⟩
    | _ => cases h
  onset := by
    rintro s₁ s₂ ⟨agree, none₁, none₂⟩
    refine ⟨agree.besides, ?_, ?_⟩
    · simp [OnlyMachines, none₁]
    · simp [OnlyMachines, none₂]
  fate₁ := by
    rintro s₁ s₂ r ⟨agree, only₁, only₂⟩ h
    obtain ⟨changed, still⟩ := agreeBesides_fate only₁ h
    exact ⟨changed.trans agree, still, only₂⟩
  fate₂ := by
    rintro s₁ s₂ r ⟨agree, only₁, only₂⟩ h
    obtain ⟨changed, still⟩ := agreeBesides_fate only₂ h
    exact ⟨agree.trans changed.symm, only₁, still⟩
  ending := by
    rintro s₁ s₂ ⟨agree, -, -⟩
    exact ⟨_, agree, s₁.operations, s₂.operations, [], (List.append_nil _).symm, (List.append_nil _).symm, rfl⟩
  answers := AgreeAfter.answers

end Rehearsal
end NodeReclaim
