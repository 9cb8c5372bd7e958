import Mathlib.Data.List.Forall2
import NodeReclaim.Proofs.Operations
import NodeReclaim.Proofs.Patience
import NodeReclaim.Rehearsal.World

/-! What chance decides in an operation. A draw moves the pause between two tries and nothing else. Two runs in
which the draws come out differently ask the provider for the same in the same order, pause as often and end with
the same outcome, as long as every pause can be taken. -/
namespace NodeReclaim
open Program

/-- A provider with a timer and a source of chance beside it, which numbers its draws. The provider sees no draw, no
pause and no log entry. -/
def World.drawing (w : World σ) (timer : Timer) (chance : Nat → Float) : World (σ × Nat) where
  answer r st :=
    match r with
    | .draw => (chance st.2, st.1, st.2 + 1)
    | .pause seconds => (timer seconds, st)
    | .log _ => ((), st)
    | r => ((w.answer r st.1).1, (w.answer r st.1).2, st.2)

/-! ### Draws and pauses -/

namespace Exchange

def draw? : Exchange → Option Float
  | ⟨.draw, u⟩ => some u
  | _ => none

def pause? : Exchange → Option Value
  | ⟨.pause seconds, _⟩ => some seconds
  | _ => none

def isRefusedPause : Exchange → Bool
  | ⟨.pause _, .error _⟩ => true
  | _ => false

end Exchange

def drawn (t : List Exchange) : List Float := t.filterMap Exchange.draw?

def slept (t : List Exchange) : List Value := t.filterMap Exchange.pause?

@[simp] theorem drawn_append (t₁ t₂ : List Exchange) : drawn (t₁ ++ t₂) = drawn t₁ ++ drawn t₂ :=
  List.filterMap_append

@[simp] theorem slept_append (t₁ t₂ : List Exchange) : slept (t₁ ++ t₂) = slept t₁ ++ slept t₂ :=
  List.filterMap_append

/-- Every draw led to a pause, and every pause was taken. A delay that is no amount is not drawn for, and so does not
count. -/
structure Smooth (t : List Exchange) : Prop where
  paused : (drawn t).length = (slept t).length
  taken : ∀ x ∈ t, x.isRefusedPause = false

instance (t : List Exchange) : Decidable (Smooth t) :=
  decidable_of_iff ((drawn t).length = (slept t).length ∧ ∀ x ∈ t, x.isRefusedPause = false)
    ⟨fun h => ⟨h.1, h.2⟩, fun h => ⟨h.1, h.2⟩⟩

theorem smooth_append_iff {t₁ t₂ : List Exchange} (h₁ : (slept t₁).length ≤ (drawn t₁).length)
    (h₂ : (slept t₂).length ≤ (drawn t₂).length) : Smooth (t₁ ++ t₂) ↔ Smooth t₁ ∧ Smooth t₂ := by
  constructor
  · rintro ⟨paused, taken⟩
    rw [drawn_append, slept_append, List.length_append, List.length_append] at paused
    rw [List.forall_mem_append] at taken
    exact ⟨⟨by omega, taken.1⟩, ⟨by omega, taken.2⟩⟩
  · rintro ⟨⟨paused₁, taken₁⟩, ⟨paused₂, taken₂⟩⟩
    refine ⟨?_, ?_⟩
    · rw [drawn_append, slept_append, List.length_append, List.length_append, paused₁, paused₂]
    · exact List.forall_mem_append.2 ⟨taken₁, taken₂⟩

/-! ### Runs alike -/

/-- The same exchange, but for what a draw gave, how long a pause was and how long a warning said it would be. -/
inductive Exchange.AlikeButWaiting : Exchange → Exchange → Prop
  | same (x : Exchange) : AlikeButWaiting x x
  | draw (u v : Float) : AlikeButWaiting ⟨.draw, u⟩ ⟨.draw, v⟩
  | warning (lead shown₁ shown₂ rest : String) : AlikeButWaiting
      (logExchange .warning .retry (lead ++ ", retrying in " ++ shown₁ ++ "s: " ++ rest))
      (logExchange .warning .retry (lead ++ ", retrying in " ++ shown₂ ++ "s: " ++ rest))
  | pause (seconds₁ seconds₂ : Value) : AlikeButWaiting ⟨.pause seconds₁, .ok ()⟩ ⟨.pause seconds₂, .ok ()⟩

section
variable {t₁ t₂ : List Exchange}

theorem foreign_of_alikeButWaiting (h : List.Forall₂ Exchange.AlikeButWaiting t₁ t₂) :
    foreign t₁ = foreign t₂ := by
  induction h with
  | nil => rfl
  | cons hx _ ih =>
    cases hx with
    | same x => rw [foreign, foreign, List.filter_cons, List.filter_cons, ← foreign, ← foreign, ih]
    | draw | warning | pause => exact ih

theorem length_slept_of_alikeButWaiting (h : List.Forall₂ Exchange.AlikeButWaiting t₁ t₂) :
    (slept t₁).length = (slept t₂).length := by
  induction h with
  | nil => rfl
  | @cons x _ t₁ t₂ hx _ ih =>
    cases hx with
    | same =>
      rw [slept, slept, List.filterMap_cons, List.filterMap_cons]
      cases x.pause? with
      | none => exact ih
      | some => exact congrArg Nat.succ ih
    | draw | warning => exact ih
    | pause => exact congrArg Nat.succ ih

end

structure Run.AlikeButWaiting (r₁ r₂ : Run (σ × Nat) α) : Prop where
  exchanges : List.Forall₂ Exchange.AlikeButWaiting r₁.trace r₂.trace
  outcome : r₁.outcome = r₂.outcome
  provider : r₁.state.1 = r₂.state.1

namespace Program

/-- No pause comes without a draw, and whatever is drawn, smooth runs are alike. -/
structure IgnoresDraws (p : Program α) : Prop where
  covered (t : List Exchange) (o : Except Fault α) (h : Runs p t o) : (slept t).length ≤ (drawn t).length
  alike {σ : Type} (w : World σ) (timer : Timer) (st : σ) (n₁ n₂ : Nat) (chance₁ chance₂ : Nat → Float) :
    let r₁ := p.run (w.drawing timer chance₁) (st, n₁)
    let r₂ := p.run (w.drawing timer chance₂) (st, n₂)
    Smooth r₁.trace → Smooth r₂.trace → r₁.AlikeButWaiting r₂

theorem smooth_parts {p : Program α} {f : α → Program β} (hp : p.IgnoresDraws) (hf : ∀ a, (f a).IgnoresDraws)
    (w : World σ) (st : σ) (smooth : Smooth ((p >>= f).run w st).trace) :
    Smooth (p.run w st).trace ∧
      ∀ a, (p.run w st).outcome = .ok a → Smooth ((f a).run w (p.run w st).state).trace := by
  rw [run_bind] at smooth
  cases ho : (p.run w st).outcome with
  | error e =>
    rw [ho] at smooth
    exact ⟨smooth, nofun⟩
  | ok a =>
    rw [ho] at smooth
    have parts := (smooth_append_iff (hp.covered _ _ (runs_run w p st))
      ((hf a).covered _ _ (runs_run w (f a) (p.run w st).state))).1 smooth
    refine ⟨parts.1, ?_⟩
    rintro _ ⟨⟩
    exact parts.2

namespace IgnoresDraws

theorem ofExcept (m : Except Fault α) : (Program.ofExcept m).IgnoresDraws where
  covered t o h := by
    obtain ⟨rfl, -⟩ := runs_ofExcept_iff.1 h
    exact Nat.le_refl 0
  alike w timer st n₁ n₂ chance₁ chance₂ := by
    rw [run_ofExcept, run_ofExcept]
    exact fun _ _ => ⟨.nil, rfl, rfl⟩

theorem bind {p : Program α} {f : α → Program β} (hp : p.IgnoresDraws) (hf : ∀ a, (f a).IgnoresDraws) :
    (p >>= f).IgnoresDraws where
  covered t o h := by
    rcases runs_bind_iff.1 h with ⟨e, rfl, h₁⟩ | ⟨a, t₁, t₂, rfl, h₁, h₂⟩
    · exact hp.covered _ _ h₁
    · rw [slept_append, drawn_append, List.length_append, List.length_append]
      exact Nat.add_le_add (hp.covered _ _ h₁) ((hf a).covered _ _ h₂)
  alike w timer st n₁ n₂ chance₁ chance₂ := by
    dsimp only
    intro smooth₁ smooth₂
    obtain ⟨before₁, after₁⟩ := smooth_parts hp hf _ _ smooth₁
    obtain ⟨before₂, after₂⟩ := smooth_parts hp hf _ _ smooth₂
    have first := hp.alike w timer st n₁ n₂ chance₁ chance₂ before₁ before₂
    rw [run_bind, run_bind]
    generalize p.run (w.drawing timer chance₁) (st, n₁) = r₁ at *
    generalize p.run (w.drawing timer chance₂) (st, n₂) = r₂ at *
    obtain ⟨t₁, o, st', m₁⟩ := r₁
    obtain ⟨t₂, _, _, m₂⟩ := r₂
    -- The provider is where it was in the other run; only the draws may be at different numbers.
    obtain ⟨exchanges, rfl, rfl⟩ := first
    cases o with
    | error e => exact ⟨exchanges, rfl, rfl⟩
    | ok a =>
      obtain ⟨rest, outcome, provider⟩ :=
        (hf a).alike w timer st' m₁ m₂ chance₁ chance₂ (after₁ a rfl) (after₂ a rfl)
      exact ⟨List.rel_append exchanges rest, outcome, provider⟩

theorem attempt {p : Program α} (hp : p.IgnoresDraws) : p.attempt.IgnoresDraws where
  covered t o h := by
    obtain ⟨_, -, h⟩ := runs_attempt_iff.1 h
    exact hp.covered _ _ h
  alike w timer st n₁ n₂ chance₁ chance₂ := by
    simp only [run_attempt]
    intro smooth₁ smooth₂
    obtain ⟨exchanges, outcome, provider⟩ := hp.alike w timer st n₁ n₂ chance₁ chance₂ smooth₁ smooth₂
    exact ⟨exchanges, congrArg Except.ok outcome, provider⟩

theorem ask {r : Request} (h : isService r) : (Program.ask r).IgnoresDraws where
  covered t o ht := by
    obtain ⟨x, rfl, -⟩ := runs_ask_iff.1 ht
    cases r <;> first | exact Nat.le_refl 0 | cases h
  alike w timer st n₁ n₂ chance₁ chance₂ := by
    cases r <;> first | exact fun _ _ => ⟨.cons (.same _) .nil, rfl, rfl⟩ | cases h

end IgnoresDraws

theorem composes_ignoresDraws : Composes fun _ p => p.IgnoresDraws where
  ofExcept := .ofExcept
  bind := .bind
  attempt := .attempt

end Program

/-! ### Between two tries -/

namespace Retry

theorem provider_of_own {p : Program α} (hp : p.Within isOwnRequest) (w : World σ) (timer : Timer)
    (chance : Nat → Float) (st : σ × Nat) : (p.run (w.drawing timer chance) st).state.1 = st.1 := by
  induction p generalizing st with
  | done a => rfl
  | fail e => rfl
  | step r next ih =>
    cases r with
    | draw | pause | log => exact ih _ (hp.2 _) _
    | _ => cases hp.1

def waiting (name : String) (number : Nat) (f : Fault) (total : String) (draw : Float) (shown : String)
    (seconds : Value) (reply : Except PauseError Unit) : List Exchange :=
  [⟨.draw, draw⟩,
    logExchange .warning .retry (name ++ " failed on attempt " ++ (toString number ++ "/" ++ total) ++
      ", retrying in " ++ shown ++ "s: " ++ logged f),
    ⟨.pause seconds, reply⟩]

/-- Either there is nothing to draw for, or one draw is made and comes to nothing or leads to one pause. -/
theorem trace_interlude (hj : p.jitter = true) (h : Runs (interlude p name number delay f) t o) :
    match quarter delay with
    | .error m => t = [] ∧ o = .error (.misuse m)
    | .ok _ => ∃ draw, t = [⟨.draw, draw⟩] ∨ ∃ total shown seconds reply, p.attempts.shown 0 = .ok total ∧
        t = waiting name number f total draw shown seconds reply ∧ o = reply.mapError .ofPause := by
  rw [interlude, pauseFor_eq hj] at h
  simp only [LawfulMonad.bind_assoc] at h
  cases hq : quarter delay with
  | error m =>
    rw [hq] at h
    exact h
  | ok spread =>
    rw [hq, misuse_ok, done_bind] at h
    obtain ⟨draw, rest, rfl, h₁⟩ := runs_ask_bind_iff.1 h
    refine ⟨draw, ?_⟩
    -- Wherever it breaks off before the warning, nothing has been exchanged but the draw.
    cases hm : jittered delay spread draw >>= (·.capped p.maxDelay) with
    | error m =>
      rw [hm] at h₁
      exact .inl (congrArg _ h₁.1)
    | ok seconds =>
      rw [hm, misuse_ok, done_bind] at h₁
      cases ht : p.attempts.shown 0 with
      | error m =>
        rw [progress, ht] at h₁
        exact .inl (congrArg _ h₁.1)
      | ok total =>
        rw [progress_eq ht, done_bind] at h₁
        cases hs : seconds.fixed 2 with
        | error m =>
          rw [hs] at h₁
          exact .inl (congrArg _ h₁.1)
        | ok shown =>
          rw [hs, misuse_ok, done_bind] at h₁
          obtain ⟨_, rfl, h₂⟩ := runs_log_bind_iff.1 h₁
          obtain ⟨reply, rfl, ho⟩ := runs_pause_iff.1 h₂
          exact .inr ⟨total, shown, seconds, reply, rfl, rfl, ho⟩

theorem trace_interlude_of_smooth (hj : p.jitter = true) (h : Runs (interlude p name number delay f) t o)
    (smooth : Smooth t) :
    match quarter delay with
    | .error m => t = [] ∧ o = .error (.misuse m)
    | .ok _ => ∃ total draw shown seconds, p.attempts.shown 0 = .ok total ∧
        t = waiting name number f total draw shown seconds (.ok ()) ∧ o = .ok () := by
  have trace := trace_interlude hj h
  cases hq : quarter delay with
  | error m =>
    rw [hq] at trace
    exact trace
  | ok spread =>
    rw [hq] at trace
    obtain ⟨draw, rfl | ⟨total, shown, seconds, reply, ht, rfl, rfl⟩⟩ := trace
    · cases smooth.paused
    · have taken : (⟨.pause seconds, reply⟩ : Exchange).isRefusedPause = false := smooth.taken _ (by simp [waiting])
      rcases reply with e | _
      · cases taken
      · exact ⟨total, draw, shown, seconds, ht, rfl, rfl⟩

theorem alike_waiting (name : String) (number : Nat) (f : Fault) (total : String) (draw₁ draw₂ : Float)
    (shown₁ shown₂ : String) (seconds₁ seconds₂ : Value) :
    List.Forall₂ Exchange.AlikeButWaiting (waiting name number f total draw₁ shown₁ seconds₁ (.ok ()))
      (waiting name number f total draw₂ shown₂ seconds₂ (.ok ())) :=
  .cons (.draw ..) (.cons (.warning ..) (.cons (.pause ..) .nil))

theorem ignoresDraws_interlude (hj : p.jitter = true) (name : String) (number : Nat) (delay : Value) (f : Fault) :
    (interlude p name number delay f).IgnoresDraws where
  covered t o h := by
    have trace := trace_interlude hj h
    cases hq : quarter delay with
    | error m =>
      rw [hq] at trace
      rw [trace.1]
      exact Nat.le_refl 0
    | ok spread =>
      rw [hq] at trace
      obtain ⟨draw, rfl | ⟨total, shown, seconds, reply, -, rfl, -⟩⟩ := trace
      · exact Nat.zero_le 1
      · exact Nat.le_refl 1
  alike w timer st n₁ n₂ chance₁ chance₂ := by
    intro r₁ r₂ smooth₁ smooth₂
    have unasked (chance : Nat → Float) (n : Nat) :
        ((interlude p name number delay f).run (w.drawing timer chance) (st, n)).state.1 = st :=
      provider_of_own (within_interlude ..) w timer chance (st, n)
    have provider : r₁.state.1 = r₂.state.1 := (unasked chance₁ n₁).trans (unasked chance₂ n₂).symm
    have first := trace_interlude_of_smooth hj (runs_run _ _ _) smooth₁
    have second := trace_interlude_of_smooth hj (runs_run _ _ _) smooth₂
    cases hq : quarter delay with
    | error m =>
      rw [hq] at first second
      refine ⟨?_, first.2.trans second.2.symm, provider⟩
      rw [first.1, second.1]
      exact .nil
    | ok spread =>
      rw [hq] at first second
      obtain ⟨total, draw₁, shown₁, seconds₁, ht, trace₁, outcome₁⟩ := first
      obtain ⟨_, draw₂, shown₂, seconds₂, ht', trace₂, outcome₂⟩ := second
      cases ht.symm.trans ht'
      refine ⟨?_, outcome₁.trans outcome₂.symm, provider⟩
      rw [trace₁, trace₂]
      exact alike_waiting ..

end Retry

/-! ### Operations -/

namespace Cleanup

theorem pervades_ignoresDraws (s : Settings) : Pervades (fun _ p => p.IgnoresDraws) s where
  toComposes := composes_ignoresDraws
  ask _ := .ask
  interlude := Retry.ignoresDraws_interlude rfl

inductive Operation : Type → Type
  | report (nodeId : String) : Operation Report
  | node (nodeId : String) : Operation Bool
  | network (m : Machine) : Operation Bool
  | disks (m : Machine) : Operation Bool
  | availabilitySet (m : Machine) : Operation Bool
  | securityGroup (levels : Nat) (resourceGroup group : Value) : Operation Bool
  | resourceGroup (group : Value) : Operation Bool

namespace Operation

def program (s : Settings) : Operation α → Program α
  | .report nodeId => Cleanup.report s nodeId
  | .node nodeId => Cleanup.node s nodeId
  | .network m => Cleanup.network s m
  | .disks m => Cleanup.disks s m
  | .availabilitySet m => Cleanup.availabilitySet s m
  | .securityGroup levels holder group => Cleanup.securityGroup s holder group levels
  | .resourceGroup group => Cleanup.resourceGroup s group

theorem ignoresDraws (s : Settings) (operation : Operation α) : (operation.program s).IgnoresDraws := by
  have all := pervades_ignoresDraws s
  cases operation with
  | report nodeId => exact all.report nodeId
  | node nodeId => exact all.bind (all.report nodeId) fun _ => all.done _
  | network m => exact all.network m
  | disks m => exact all.disks m
  | availabilitySet m => exact all.availabilitySet m
  | securityGroup levels resourceGroup group => exact all.securityGroup levels resourceGroup group
  | resourceGroup group => exact all.resourceGroup group

end Operation

/-- What is drawn changes how long the pauses are and what the warnings say of it. The provider is asked for the
same in the same order, there are as many pauses, and the outcome is the same. -/
theorem draws_change_waiting (s : Settings) (operation : Operation α) (w : World σ) (timer : Timer) (st : σ)
    (chance₁ chance₂ : Nat → Float)
    (smooth₁ : Smooth ((operation.program s).run (w.drawing timer chance₁) (st, 0)).trace)
    (smooth₂ : Smooth ((operation.program s).run (w.drawing timer chance₂) (st, 0)).trace) :
    let r₁ := (operation.program s).run (w.drawing timer chance₁) (st, 0)
    let r₂ := (operation.program s).run (w.drawing timer chance₂) (st, 0)
    foreign r₁.trace = foreign r₂.trace ∧ (slept r₁.trace).length = (slept r₂.trace).length ∧
      r₁.outcome = r₂.outcome ∧ List.Forall₂ Exchange.AlikeButWaiting r₁.trace r₂.trace := by
  intro r₁ r₂
  obtain ⟨exchanges, outcome, -⟩ := (operation.ignoresDraws s).alike w timer st 0 0 chance₁ chance₂ smooth₁ smooth₂
  exact ⟨foreign_of_alikeButWaiting exchanges, length_slept_of_alikeButWaiting exchanges, outcome, exchanges⟩

def busyOnce : Rehearsal.Store where
  objects := [(.vm, "rg1/vm1", .record [("name", .text "vm1")])]
  scripts :=
    [("get vm rg1/vm1", [{ blank := false, fault := some (.raised .http (some "busy") (some 503)) }])]

/-- The machine is read a second time, after three quarters of a second under the lowest draw and after a second
under the middle one. -/
theorem busy_once_alike :
    let operation := (Operation.report "rg1/vm1").program plainSettings
    let timer := Timer.system (2 ^ 63 - 1)
    let r₁ := operation.run (rehearsal.drawing timer fun _ => 0) (busyOnce, 0)
    let r₂ := operation.run (rehearsal.drawing timer fun _ => 0.5) (busyOnce, 0)
    (Smooth r₁.trace ∧ (slept r₁.trace).map (fun v => (v.fixed 2).toOption) = [some "0.75"]) ∧
      (Smooth r₂.trace ∧ (slept r₂.trace).map (fun v => (v.fixed 2).toOption) = [some "1.00"]) ∧
      foreign r₁.trace = foreign r₂.trace ∧ (slept r₁.trace).length = (slept r₂.trace).length ∧
      r₁.outcome = r₂.outcome ∧ List.Forall₂ Exchange.AlikeButWaiting r₁.trace r₂.trace := by
  intro operation timer r₁ r₂
  have lowest : Smooth r₁.trace ∧ (slept r₁.trace).map (fun v => (v.fixed 2).toOption) = [some "0.75"] := by
    decide +kernel
  have middle : Smooth r₂.trace ∧ (slept r₂.trace).map (fun v => (v.fixed 2).toOption) = [some "1.00"] := by
    decide +kernel
  exact ⟨lowest, middle,
    draws_change_waiting plainSettings (.report "rg1/vm1") rehearsal timer busyOnce _ _ lowest.1 middle.1⟩

end Cleanup

end NodeReclaim
