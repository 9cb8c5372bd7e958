import Mathlib.Logic.Function.Iterate
import NodeReclaim.Proofs.Stores
import NodeReclaim.Proofs.Tries

/-! Rounds of the retry loop over an operation whose outcomes are prepared. A round calls the operation
until an outcome settles it or the attempts are used up, sleeps once between two calls, and ends with the
last outcome, unless a pause cannot be computed, written or taken. The next round starts afresh with the
outcomes that are left. -/
namespace NodeReclaim
open Program

/-! ### The calls and pauses of a trace -/

inductive Beat where
  | call (arguments : List Value) (named : Table) (reply : Except Fault Value)
  | pause (seconds : Value)

def Exchange.beat? : Exchange → Option Beat
  | ⟨.invoke arguments named, reply⟩ => some (.call arguments named reply)
  | ⟨.pause seconds, _⟩ => some (.pause seconds)
  | _ => none

def beats (t : List Exchange) : List Beat := t.filterMap Exchange.beat?

@[simp] theorem beats_append (t₁ t₂ : List Exchange) : beats (t₁ ++ t₂) = beats t₁ ++ beats t₂ :=
  List.filterMap_append

def Exchange.told? : Exchange → Option (Except Fault Value)
  | ⟨.invoke _ _, reply⟩ => some reply
  | _ => none

def told (t : List Exchange) : List (Except Fault Value) := t.filterMap Exchange.told?

@[simp] theorem told_append (t₁ t₂ : List Exchange) : told (t₁ ++ t₂) = told t₁ ++ told t₂ :=
  List.filterMap_append

theorem told_of_beats (h : beats t = []) : told t = [] := by
  have unheard : ∀ x ∈ t, x.beat? = none := List.filterMap_eq_nil_iff.1 h
  apply List.filterMap_eq_nil_iff.2
  intro x hx
  have hb : x.beat? = none := unheard x hx
  obtain ⟨r, reply⟩ := x
  cases r <;> first | rfl | cases hb

namespace Retry

/-! ### The loop -/

/-- A run of the loop from some attempt on. The tries are those of the operation; each but the last is
followed by what comes between two tries. -/
inductive Unrolls (p : Policy) (name : String) (operation : Program α) :
    (left number : Nat) → Value → List (Try α) → List Exchange → Except Fault α → Prop
  | ends {number delay} (hop : Runs operation t₁ o) (hlast : settles o = true ∨ left = 0)
      (hclosing : beats closing = []) :
      Unrolls p name operation (left + 1) number delay [⟨t₁, o⟩] (t₁ ++ closing) o
  | falters (hop : Runs operation t₁ (.error f)) (hf : f.isTransient)
      (hbetween : Runs (interlude p name number delay f) between (.error e)) :
      Unrolls p name operation (left + 1) number delay [⟨t₁, .error f⟩] (t₁ ++ between) (.error e)
  | again (hop : Runs operation t₁ (.error f)) (hf : f.isTransient)
      (hbetween : Runs (interlude p name number delay f) between (.ok ()))
      (h : Unrolls p name operation left (number + 1) (doubled delay) tries later o) :
      Unrolls p name operation (left + 1) number delay (⟨t₁, .error f⟩ :: tries)
        (t₁ ++ (between ++ later)) o

theorem shown_of_interlude (h : Runs (interlude p name number delay f) t (.ok ())) :
    ∃ text, p.attempts.shown 0 = .ok text := by
  obtain ⟨seconds, _, t₂, _, _, h₂⟩ := runs_bind_ok_iff.1 h
  obtain ⟨progress, _, _, _, hprogress, _⟩ := runs_bind_ok_iff.1 h₂
  obtain ⟨total, _, _, _, htotal, _⟩ := runs_bind_ok_iff.1 hprogress
  obtain ⟨_, ho⟩ := runs_misuse_iff.1 htotal
  cases hs : p.attempts.shown 0 with
  | error m =>
    rw [hs] at ho
    cases ho
  | ok text => exact ⟨text, rfl⟩

theorem progress_eq (h : p.attempts.shown 0 = .ok text) (number : Nat) :
    progress p number = Program.done (toString number ++ "/" ++ text) := by
  unfold progress
  rw [h]
  rfl

/-- One pass of the loop: either the try was the last one, or an interlude follows and then the rest of the
loop. The number of attempts can be written wherever it has to be. -/
theorem runs_pass {operation : Program α}
    (hshown : number = 1 ∧ 0 < left ∨ ∃ text, p.attempts.shown 0 = .ok text)
    (h : Runs (attemptsFrom p name operation (left + 1) number delay) t o) :
    ∃ t₁ t₂ o', t = t₁ ++ t₂ ∧ Runs operation t₁ o' ∧
      ((settles o' = true ∨ left = 0) ∧ (foreign t₂ = [] ∧ beats t₂ = []) ∧ o = o' ∨
        ∃ f, o' = .error f ∧ f.isTransient ∧ 0 < left ∧
          Runs (interlude p name number delay f >>= fun _ =>
            attemptsFrom p name operation left (number + 1) (doubled delay)) t₂ o) := by
  obtain ⟨o', t₁, t₂, rfl, h₁, h₂⟩ := runs_attempt_bind_iff.1 h
  refine ⟨t₁, t₂, o', rfl, h₁, ?_⟩
  cases o' with
  | ok a =>
    left
    dsimp only at h₂
    split at h₂
    next late =>
      have shown : ∃ text, p.attempts.shown 0 = .ok text := hshown.resolve_left (by omega)
      obtain ⟨text, htext⟩ := shown
      rw [progress_eq htext, done_bind] at h₂
      obtain ⟨_, rfl, rfl, rfl⟩ := runs_log_bind_iff.1 h₂
      exact ⟨.inl rfl, ⟨rfl, rfl⟩, rfl⟩
    next early =>
      obtain ⟨rfl, rfl⟩ := h₂
      exact ⟨.inl rfl, ⟨rfl, rfl⟩, rfl⟩
  | error f =>
    dsimp only at h₂
    split at h₂
    next settled =>
      obtain ⟨rfl, rfl⟩ := h₂
      exact .inl ⟨.inl settled, ⟨rfl, rfl⟩, rfl⟩
    next transient =>
      split at h₂
      next last =>
        have shown : ∃ text, p.attempts.shown 0 = .ok text := hshown.resolve_left (by omega)
        obtain ⟨text, htext⟩ := shown
        rw [htext, misuse_ok, done_bind] at h₂
        obtain ⟨_, rfl, rfl, rfl⟩ := runs_log_bind_iff.1 h₂
        exact .inl ⟨.inr last, ⟨rfl, rfl⟩, rfl⟩
      next more =>
        have hf : f.isTransient := by simpa using transient
        refine .inr ⟨f, rfl, hf, Nat.pos_of_ne_zero more, ?_⟩
        -- Regrouped, so that what comes before the next try is one program.
        simpa only [interlude, LawfulMonad.bind_assoc] using h₂

theorem unrolls_attemptsFrom {operation : Program α}
    (hshown : number = 1 ∧ 0 < left ∨ ∃ text, p.attempts.shown 0 = .ok text)
    (h : Runs (attemptsFrom p name operation (left + 1) number delay) t o) :
    ∃ tries, Unrolls p name operation (left + 1) number delay tries t o := by
  induction left generalizing number delay t with
  | zero =>
    obtain ⟨t₁, t₂, o', rfl, h₁, ⟨last, ⟨_, closing⟩, rfl⟩ | ⟨_, _, _, more, _⟩⟩ := runs_pass hshown h
    · exact ⟨_, .ends h₁ last closing⟩
    · omega
  | succ left ih =>
    obtain ⟨t₁, t₂, o', rfl, h₁, ⟨last, ⟨_, closing⟩, rfl⟩ | ⟨f, rfl, hf, _, h₂⟩⟩ := runs_pass hshown h
    · exact ⟨_, .ends h₁ last closing⟩
    · rcases runs_bind_iff.1 h₂ with ⟨e, rfl, he⟩ | ⟨_, between, later, rfl, hbetween, h₃⟩
      · exact ⟨_, .falters h₁ hf he⟩
      · obtain ⟨tries, rest⟩ := ih (.inr (shown_of_interlude hbetween)) h₃
        exact ⟨_, .again h₁ hf hbetween rest⟩

/-! ### Pauses -/

theorem within_pauseFor (p : Policy) (delay : Value) : (pauseFor p delay).Within (· = .draw) := by
  unfold pauseFor
  cases p.jitter
  · exact within_ofExcept _
  · apply Within.bind (within_ofExcept _)
    intro spread
    have drawn : (ask .draw).Within (· = .draw) := within_ask rfl
    apply drawn.bind
    intro draw
    exact .bind (within_ofExcept _) fun _ => within_ofExcept _

theorem within_pause (seconds : Value) : (pause seconds).Within (· = .pause seconds) := by
  have asked : (ask (.pause seconds)).Within (· = .pause seconds) := within_ask rfl
  exact asked.bind fun _ => within_ofExcept _

def isOwnRequest : Request → Prop
  | .draw | .pause _ | .log _ => True
  | _ => False

theorem within_interlude_of {allowed : Request → Prop} (draw : allowed .draw) (pauses : ∀ v, allowed (.pause v))
    (logs : ∀ e, e.area = .retry → allowed (.log e)) (p : Policy) (name : String) (number : Nat) (delay : Value)
    (f : Fault) : (interlude p name number delay f).Within allowed := by
  apply Within.bind
  · apply Within.mono (within_pauseFor p delay)
    rintro _ rfl
    exact draw
  intro seconds
  have counted : (progress p number).Within allowed := Within.bind (within_ofExcept _) fun _ => trivial
  apply counted.bind
  intro progress
  apply Within.bind (within_ofExcept _)
  intro shown
  apply Within.bind (within_ask (logs _ rfl))
  intro _
  apply (within_pause seconds).mono
  rintro _ rfl
  exact pauses seconds

theorem within_interlude (p : Policy) (name : String) (number : Nat) (delay : Value) (f : Fault) :
    (interlude p name number delay f).Within isOwnRequest :=
  within_interlude_of trivial (fun _ => trivial) (fun _ _ => trivial) p name number delay f

theorem beats_of_interlude (h : Runs (interlude p name number delay f) t (.ok ())) :
    ∃ seconds drawn, Runs (pauseFor p delay) drawn (.ok seconds) ∧ beats t = [.pause seconds] := by
  obtain ⟨seconds, t₁, t₂, rfl, h₁, h₂⟩ := runs_bind_ok_iff.1 h
  obtain ⟨progress, t₃, t₄, rfl, h₃, h₄⟩ := runs_bind_ok_iff.1 h₂
  obtain ⟨shown, t₅, t₆, rfl, h₅, h₆⟩ := runs_bind_ok_iff.1 h₄
  obtain ⟨t₇, rfl, h₇⟩ := runs_log_bind_iff.1 h₆
  have drawn : beats t₁ = [] :=
    (within_pauseFor p delay).filterMap_eq_nil (fun _ _ hr => by cases hr; rfl) h₁
  have written : t₃ = [] := by
    obtain ⟨total, _, _, rfl, htotal, hdone⟩ := runs_bind_ok_iff.1 h₃
    rw [(runs_misuse_iff.1 htotal).1, hdone.1]
    rfl
  have formatted : t₅ = [] := (runs_misuse_iff.1 h₅).1
  obtain ⟨_, rfl, _⟩ := runs_pause_iff.1 h₇
  refine ⟨seconds, t₁, h₁, ?_⟩
  rw [written, formatted, beats_append, drawn]
  rfl

/-- The pauses that a policy sets from some delay on, which doubles after each. -/
def Scheduled (p : Policy) : Value → List Value → Prop
  | _, [] => True
  | delay, seconds :: rest =>
    (∃ drawn, Runs (pauseFor p delay) drawn (.ok seconds)) ∧ Scheduled p (doubled delay) rest

/-- The loop ends between two calls. The last reply would let it go on, but the pause after it cannot be
computed, written or taken; the delay has doubled with every call before. -/
def Falters (p : Policy) (name : String) (number : Nat) (delay : Value) (t : List Exchange)
    (o : Except Fault α) : Prop :=
  ∃ i before between f e, t = before ++ between ∧ (told before).length = i + 1 ∧
    (told before).getLast? = some (.error f) ∧ f.isTransient = true ∧
    Runs (interlude p name (number + i) (doubled^[i] delay) f) between (.error e) ∧
    o = .error e

theorem Falters.after {o : Except Fault α} (h : Falters p name (number + 1) (doubled delay) t o)
    (hcall : told t₀ = [reply]) : Falters p name number delay (t₀ ++ t) o := by
  obtain ⟨i, before, between, f, e, rfl, count, last, hf, hbetween, ho⟩ := h
  have numbered : number + (i + 1) = number + 1 + i := by omega
  refine ⟨i + 1, t₀ ++ before, between, f, e, (List.append_assoc ..).symm, ?_, ?_, hf, ?_, ho⟩
  · rw [told_append, hcall, List.length_append, count]
    exact Nat.add_comm ..
  · rw [told_append, hcall, List.getLast?_append, last]
    rfl
  · rw [numbered]
    exact hbetween

def alternating : List β → List β → List β
  | x :: xs, y :: ys => x :: y :: alternating xs ys
  | xs, _ => xs

end Retry

def invocation (arguments : List Value) (named : Table) : Program Value :=
  require (.invoke arguments named) rfl

theorem runs_invocation_iff : Runs (invocation arguments named) t o ↔
    ∃ reply : Except Fault Value, t = [⟨.invoke arguments named, reply⟩] ∧ o = reply :=
  runs_require_iff (r := .invoke arguments named) (h := rfl)

namespace Retry

theorem told_of_interlude (h : Runs (interlude p name number delay f) t o) : told t = [] :=
  (within_interlude p name number delay f).filterMap_eq_nil
    (fun r _ hr => by cases r <;> first | rfl | cases hr) h

theorem told_of_invocation (h : Runs (invocation arguments named) t o) : told t = [o] := by
  obtain ⟨reply, rfl, rfl⟩ := runs_invocation_iff.1 h
  rfl

theorem told_of_unrolls
    (h : Unrolls p name (invocation arguments named) left number delay tries t o) :
    told t = tries.map (·.outcome) := by
  induction h with
  | ends hop hlast hclosing =>
    rw [told_append, told_of_invocation hop, told_of_beats hclosing]
    rfl
  | falters hop hf hbetween =>
    rw [told_append, told_of_invocation hop, told_of_interlude hbetween]
    rfl
  | again hop hf hbetween h ih =>
    rw [told_append, told_append, told_of_invocation hop, told_of_interlude hbetween, ih]
    rfl

theorem tries_of_unrolls {operation : Program α}
    (h : Unrolls p name operation left number delay tries t o) :
    tries ≠ [] ∧ tries.length ≤ left ∧ ∀ x ∈ tries.dropLast, settles x.outcome = false := by
  induction h with
  | ends | falters => simp
  | again hop hf hbetween h ih =>
    obtain ⟨tried, atMost, passing⟩ := ih
    refine ⟨List.cons_ne_nil _ _, Nat.succ_le_succ atMost, ?_⟩
    rw [List.dropLast_cons_of_ne_nil tried]
    intro x hx
    rcases List.mem_cons.1 hx with rfl | hx
    · simp [settles, hf]
    · exact passing x hx

/-- Unless the loop falters, calls and scheduled pauses alternate until a reply settles the matter or the
attempts are used up, and the last reply is the outcome. -/
theorem beats_of_unrolls
    (h : Unrolls p name (invocation arguments named) left number delay tries t o) :
    Falters p name number delay t o ∨
      ∃ pauses, pauses.length + 1 = tries.length ∧ Scheduled p delay pauses ∧
        beats t = alternating (tries.map fun x => .call arguments named x.outcome)
          (pauses.map .pause) ∧
        (settles o = true ∨ tries.length = left) ∧ (tries.map (·.outcome)).getLast? = some o := by
  induction h with
  | ends hop hlast hclosing =>
    obtain ⟨reply, rfl, rfl⟩ := runs_invocation_iff.1 hop
    refine .inr ⟨[], rfl, trivial, ?_, ?_, rfl⟩
    · rw [beats_append, hclosing]
      rfl
    · rcases hlast with settled | rfl
      · exact .inl settled
      · exact .inr rfl
  | falters hop hf hbetween =>
    left
    have heard := told_of_invocation hop
    exact ⟨0, _, _, _, _, rfl, by rw [heard]; rfl, by rw [heard]; rfl, hf, hbetween, rfl⟩
  | again hop hf hbetween h ih =>
    rcases ih with falters | ⟨pauses, count, scheduled, hb, hlast, ho⟩
    · left
      rw [← List.append_assoc]
      apply falters.after
      rw [told_append, told_of_invocation hop, told_of_interlude hbetween]
      rfl
    · obtain ⟨reply, rfl, hr⟩ := runs_invocation_iff.1 hop
      obtain ⟨seconds, drawn, hdrawn, hpause⟩ := beats_of_interlude hbetween
      have tried := (tries_of_unrolls h).1
      refine .inr ⟨seconds :: pauses, ?_, ⟨⟨drawn, hdrawn⟩, scheduled⟩, ?_, ?_, ?_⟩
      · rw [List.length_cons, List.length_cons, count]
      · rw [beats_append, beats_append, hpause, hb, ← hr]
        rfl
      · rw [List.length_cons]
        exact hlast.imp id fun all => by rw [all]
      · rw [List.map_cons, List.getLast?_cons_of_ne_nil (by simpa using tried)]
        exact ho

def IsBarren (o : Except Fault α) : Prop := ∃ operation, o = .error (.noAttempts operation)

theorem fruitful_misuse (m : Except Misuse α) {expected : Exchange → Prop} :
    (Program.misuse m).Ensures expected fun o => ¬ IsBarren o := by
  apply ensures_ofExcept_iff.2
  rintro ⟨operation, h⟩
  cases m <;> cases h

theorem fruitful_bind {p : Program α} {f : α → Program β} {expected : Exchange → Prop}
    (hp : p.Ensures expected fun o => ¬ IsBarren o)
    (hf : ∀ a, (f a).Ensures expected fun o => ¬ IsBarren o) :
    (p >>= f).Ensures expected fun o => ¬ IsBarren o := by
  apply ensures_bind_iff.2
  apply hp.mono
  rintro (e | a) ho
  · rintro ⟨operation, h⟩
    cases h
    exact ho ⟨operation, rfl⟩
  · exact hf a

theorem fruitful_interlude (p : Policy) (name : String) (number : Nat) (delay : Value) (f : Fault) :
    (interlude p name number delay f).Ensures (fun _ => True) fun o => ¬ IsBarren o := by
  have returned {α : Type} (a : α) : ¬ IsBarren (.ok a : Except Fault α) := by
    rintro ⟨_, h⟩
    cases h
  have paused : (pauseFor p delay).Ensures (fun _ => True) fun o => ¬ IsBarren o := by
    unfold pauseFor
    cases p.jitter
    · exact fruitful_misuse _
    · have drawn : (ask .draw).Ensures (fun _ => True) fun o => ¬ IsBarren o := fun x _ => returned x
      apply fruitful_bind (fruitful_misuse _)
      intro spread
      apply fruitful_bind drawn
      intro draw
      exact fruitful_bind (fruitful_misuse _) fun _ => fruitful_misuse _
  have counted : (progress p number).Ensures (fun _ => True) fun o => ¬ IsBarren o :=
    fruitful_bind (fruitful_misuse _) fun _ => returned _
  apply fruitful_bind paused
  intro seconds
  apply fruitful_bind counted
  intro progress
  apply fruitful_bind (fruitful_misuse _)
  intro shown _ _
  rintro (e | _) _
  · rintro ⟨_, h⟩
    cases e <;> cases h
  · exact returned _

theorem Falters.not_isBarren {o : Except Fault α} (h : Falters p name number delay t o) :
    ¬ IsBarren o := by
  obtain ⟨i, _, between, f, e, _, _, _, _, hbetween, rfl⟩ := h
  rintro ⟨operation, he⟩
  cases he
  have fruitful := (fruitful_interlude p name _ _ f).of_runs hbetween fun _ _ => trivial
  exact fruitful ⟨operation, rfl⟩

end Retry

/-! ### Prepared outcomes -/

def exhausted : Except Fault Value := .ok (.text "exhausted")

def upcoming : Nat → List (Except Fault Value) → List (Except Fault Value)
  | 0, _ => []
  | k + 1, os => os.headD exhausted :: upcoming k os.tail

namespace Rehearsal

theorem heard_answer (r : Request) (st : Store) :
    let heard := (Exchange.told? ⟨r, (rehearsal.answer r st).1⟩).toList
    heard = upcoming heard.length st.outcomes ∧
      (rehearsal.answer r st).2.outcomes = st.outcomes.drop heard.length := by
  cases r with
  | invoke arguments named =>
    obtain ⟨_, _, _, _, _, _, os, _, _, _, _⟩ := st
    cases os <;> exact ⟨rfl, rfl⟩
  | _ => exact ⟨rfl, isApart_outcomes.answer (fun _ _ h => by cases h) st⟩

end Rehearsal

theorem upcoming_add (k l : Nat) (os : List (Except Fault Value)) :
    upcoming (k + l) os = upcoming k os ++ upcoming l (os.drop k) := by
  induction k generalizing os with
  | zero => simp [upcoming]
  | succ k ih =>
    rw [Nat.add_right_comm, upcoming, upcoming, ih, List.cons_append, List.drop_tail]

theorem told_run (p : Program α) (st : Rehearsal.Store) :
    let r := p.run rehearsal st
    told r.trace = upcoming (told r.trace).length st.outcomes ∧
      r.state.outcomes = st.outcomes.drop (told r.trace).length := by
  induction p generalizing st with
  | done a => exact ⟨rfl, rfl⟩
  | fail e => exact ⟨rfl, rfl⟩
  | step r next ih =>
    have answered := Rehearsal.heard_answer r st
    have rest := ih (rehearsal.answer r st).1 (rehearsal.answer r st).2
    have split : told ((step r next).run rehearsal st).trace =
        (Exchange.told? ⟨r, (rehearsal.answer r st).1⟩).toList ++
          told ((next (rehearsal.answer r st).1).run rehearsal (rehearsal.answer r st).2).trace := by
      rw [told, run, List.filterMap_cons]
      cases Exchange.told? ⟨r, (rehearsal.answer r st).1⟩ <;> rfl
    dsimp only at answered rest ⊢
    rw [split, List.length_append, upcoming_add, ← List.drop_drop, ← answered.1, ← answered.2, ← rest.1]
    exact ⟨rfl, rest.2⟩

namespace Retry

/-- How often the operation is called: until an outcome settles the matter, but not more often than is
granted. -/
def callsMade (limit : Nat) (os : List (Except Fault Value)) : Nat :=
  min limit (os.findIdx settles + 1)

theorem length_eq_callsMade {replies : List (Except Fault Value)}
    (heard : replies = upcoming replies.length os) (tried : replies ≠ [])
    (atMost : replies.length ≤ limit) (passing : ∀ x ∈ replies.dropLast, settles x = false)
    (last : ∀ x, replies.getLast? = some x → settles x = true ∨ replies.length = limit) :
    replies.length = callsMade limit os := by
  unfold callsMade
  -- A reply that passes takes one outcome off the list and one attempt off the limit.
  induction replies generalizing os limit with
  | nil => exact absurd rfl tried
  | cons r rest ih =>
    rw [List.length_cons, upcoming] at heard
    obtain ⟨hr, heard⟩ := List.cons.inj heard
    rw [List.length_cons] at atMost last ⊢
    cases rest with
    | nil =>
      have ended : settles r = true ∨ 0 + 1 = limit := last r rfl
      rcases ended with settled | used
      · have index : os.findIdx settles = 0 := by
          cases os with
          | nil => rfl
          | cons o os =>
            have ho : settles o = true := by rwa [hr] at settled
            simp [List.findIdx_cons, ho]
        rw [index, List.length_nil]
        omega
      · rw [List.length_nil]
        omega
    | cons r' rest =>
      have passed : settles r = false := passing r List.mem_cons_self
      cases os with
      | nil =>
        -- The operation returns when nothing is prepared any more, and that settles it.
        rw [hr] at passed
        cases passed
      | cons o os =>
        have ho : settles o = false := by rwa [hr] at passed
        have others : (r' :: rest).length = min (limit - 1) (os.findIdx settles + 1) := by
          apply ih heard (List.cons_ne_nil _ _) (by omega)
          · intro x hx
            exact passing x (List.mem_cons_of_mem r hx)
          · intro x hx
            have ended := last x (by rwa [List.getLast?_cons_cons])
            exact ended.imp id (by omega)
        rw [List.findIdx_cons, ho, others]
        simp only [cond_false]
        omega

example : callsMade 3 [.error (.raised .http none (some 503)), .error (.raised .http none (some 404))] =
    2 := rfl

end Retry

/-- Runs of a program one after the other, each in the state that the one before has left. -/
def successive (w : World σ) (p : Program α) : Nat → σ → List (Run σ α)
  | 0, _ => []
  | times + 1, st => p.run w st :: successive w p times (p.run w st).state

namespace Retry

/-- One round over the outcomes that come next. The calls have the caller's own arguments, a pause of the
schedule stands between each two of them, and the last outcome is the outcome of the round. -/
structure Round (p : Policy) (arguments : List Value) (named : Table) (limit : Nat)
    (os : List (Except Fault Value)) (t : List Exchange) (o : Except Fault Value) : Prop where
  rhythm : ∃ pauses, pauses.length + 1 = callsMade limit os ∧
    Scheduled p p.initialDelay pauses ∧
    beats t = alternating ((upcoming (callsMade limit os) os).map (.call arguments named))
      (pauses.map .pause)
  ending : (upcoming (callsMade limit os) os).getLast? = some o

def Rounds (p : Policy) (name : String) (arguments : List Value) (named : Table) (limit : Nat) :
    List (Except Fault Value) → List (Run Rehearsal.Store Value) → Prop
  | _, [] => True
  | os, r :: rest =>
    (Falters p name 1 p.initialDelay r.trace r.outcome ∨
        Round p arguments named limit os r.trace r.outcome) ∧
      Rounds p name arguments named limit (os.drop (told r.trace).length) rest

theorem unrolls_retrying {operation : Program α} {limit : Nat}
    (hattempts : p.attempts = .int (limit + 1)) (h : Runs (retrying p name operation) t o) :
    ∃ tries, Unrolls p name operation (limit + 1) 1 p.initialDelay tries t o := by
  have granted : granted p.attempts = .ok (limit + 1) := by
    rw [hattempts]
    rfl
  unfold retrying at h
  rw [granted, misuse_ok, done_bind] at h
  apply unrolls_attemptsFrom _ h
  cases limit with
  | zero =>
    right
    rw [hattempts]
    exact ⟨_, rfl⟩
  | succ limit => exact .inl ⟨rfl, Nat.succ_pos limit⟩

theorem round_of_run {limit : Nat} (hattempts : p.attempts = .int (limit + 1)) (name : String)
    (arguments : List Value) (named : Table) (st : Rehearsal.Store) :
    let r := (retrying p name (invocation arguments named)).run rehearsal st
    Falters p name 1 p.initialDelay r.trace r.outcome ∨
      Round p arguments named (limit + 1) st.outcomes r.trace r.outcome := by
  intro r
  obtain ⟨tries, h⟩ := unrolls_retrying hattempts (runs_run rehearsal _ st)
  obtain ⟨tried, atMost, passing⟩ := tries_of_unrolls h
  have replies : told r.trace = tries.map (·.outcome) := told_of_unrolls h
  have heard : told r.trace = upcoming (told r.trace).length st.outcomes := (told_run _ st).1
  rcases beats_of_unrolls h with falters | ⟨pauses, count, scheduled, hbeats, hlast, hend⟩
  · exact .inl falters
  · right
    rw [replies] at heard
    have made : (tries.map (·.outcome)).length = callsMade (limit + 1) st.outcomes := by
      apply length_eq_callsMade heard
      · simpa using tried
      · simpa using atMost
      · rw [← List.map_dropLast]
        intro x hx
        obtain ⟨y, hy, rfl⟩ := List.mem_map.1 hx
        exact passing y hy
      · intro x hx
        rw [hend] at hx
        cases hx
        simpa using hlast
    rw [made] at heard
    rw [List.length_map] at made
    refine ⟨⟨pauses, count.trans made, scheduled, ?_⟩, ?_⟩
    · rw [← heard, List.map_map]
      exact hbeats
    · rw [← heard]
      exact hend

theorem rounds_of_successive {limit : Nat} (hattempts : p.attempts = .int (limit + 1))
    (name : String) (arguments : List Value) (named : Table) (times : Nat) (st : Rehearsal.Store) :
    Rounds p name arguments named (limit + 1) st.outcomes
      (successive rehearsal (retrying p name (invocation arguments named)) times st) := by
  induction times generalizing st with
  | zero => trivial
  | succ times ih =>
    refine ⟨round_of_run hattempts name arguments named st, ?_⟩
    rw [← (told_run _ st).2]
    exact ih _

theorem mem_upcoming (h : x ∈ upcoming k os) : x ∈ os ∨ x = exhausted := by
  induction k generalizing os with
  | zero => cases h
  | succ k ih =>
    cases os with
    | nil =>
      rcases List.mem_cons.1 h with rfl | h
      · exact .inr rfl
      · exact ih h
    | cons o os =>
      rcases List.mem_cons.1 h with rfl | h
      · exact .inl List.mem_cons_self
      · exact (ih h).imp (List.mem_cons_of_mem o) id

/-- That there was no attempt to make is only ever said by the operation. -/
theorem mem_of_isBarren {runs : List (Run Rehearsal.Store Value)}
    (h : Rounds p name arguments named limit os runs) (hr : r ∈ runs) (barren : IsBarren r.outcome) :
    r.outcome ∈ os := by
  induction runs generalizing os with
  | nil => cases hr
  | cons first rest ih =>
    obtain ⟨round, others⟩ := h
    rcases List.mem_cons.1 hr with rfl | hr
    · rcases round with falters | round
      · exact absurd barren falters.not_isBarren
      · have upcame := List.mem_of_getLast? round.ending
        apply (mem_upcoming upcame).resolve_right
        intro returned
        obtain ⟨_, ho⟩ := barren
        rw [ho] at returned
        cases returned
    · exact List.mem_of_mem_drop (ih others hr)

end Retry

/-! ### Faults that pass -/

namespace ErrorClass

def base? : ErrorClass → Option ErrorClass
  | http | request | response => some provider
  | notFound | alreadyExists | authentication | modified | notModified | decoding => some http
  | incompleteRead => some decoding
  | requestTimeout => some request
  | responseTimeout => some response
  | serialization | deserialization => some value
  | connectionReset | connectionRefused | brokenPipe => some connection
  | connection | timeout | permission => some system
  | provider | system | value | state | key => none

inductive IsA : ErrorClass → ErrorClass → Prop
  | self (c : ErrorClass) : IsA c c
  | base (h : base? c = some b) (hb : IsA b a) : IsA c a

theorem IsA.inherits {marked : ErrorClass → Bool}
    (down : ∀ c b, base? c = some b → marked b = true → marked c = true) (h : IsA c a)
    (ha : marked a = true) : marked c = true := by
  induction h with
  | self c => exact ha
  | base h hb ih => exact down _ _ h (ih ha)

theorem isTransport_iff (c : ErrorClass) :
    c.isTransport = true ↔ c.IsA .request ∨ c.IsA .response := by
  have down : ∀ c b, base? c = some b → b.isTransport = true → c.isTransport = true := by
    intro c b hc hb
    cases c <;> cases hc <;> first | rfl | cases hb
  constructor
  · intro h
    cases c with
    | request => exact .inl (.self _)
    | requestTimeout => exact .inl (.base rfl (.self _))
    | response => exact .inr (.self _)
    | responseTimeout => exact .inr (.base rfl (.self _))
    | _ => cases h
  · rintro (h | h)
    · exact h.inherits down rfl
    · exact h.inherits down rfl

theorem isHttp_iff (c : ErrorClass) : c.isHttp = true ↔ c.IsA .http := by
  have down : ∀ c b, base? c = some b → b.isHttp = true → c.isHttp = true := by
    intro c b hc hb
    cases c <;> cases hc <;> first | rfl | cases hb
  constructor
  · intro h
    cases c with
    | http => exact .self _
    | incompleteRead => exact .base rfl (.base rfl (.self _))
    | notFound | alreadyExists | authentication | modified | notModified | decoding =>
      exact .base rfl (.self _)
    | _ => cases h
  · intro h
    exact h.inherits down rfl

theorem isConnection_iff (c : ErrorClass) :
    c.isConnection = true ↔ c.IsA .timeout ∨ c.IsA .connection := by
  have down : ∀ c b, base? c = some b → b.isConnection = true → c.isConnection = true := by
    intro c b hc hb
    cases c <;> cases hc <;> first | rfl | cases hb
  constructor
  · intro h
    cases c with
    | timeout => exact .inl (.self _)
    | connection => exact .inr (.self _)
    | connectionReset | connectionRefused | brokenPipe => exact .inr (.base rfl (.self _))
    | _ => cases h
  · rintro (h | h)
    · exact h.inherits down rfl
    · exact h.inherits down rfl

end ErrorClass

/-- Faults that may be gone at the next attempt: a request that was not sent, a response that did not
arrive, a status that asks for patience, a timeout, a broken connection. -/
def Fault.IsPassing (f : Fault) : Prop :=
  ∃ cls given status, f = .raised cls given status ∧
    (cls.IsA .request ∨ cls.IsA .response ∨
      cls.IsA .http ∧ (∃ code, status = some code ∧ code ∈ ([408, 429, 500, 502, 503, 504] : List Int)) ∨
      cls.IsA .timeout ∨ cls.IsA .connection)

theorem Fault.isTransient_iff (f : Fault) : f.isTransient = true ↔ f.IsPassing := by
  have patient (status : Option Int) : status.any Retry.patientStatuses.contains = true ↔
      ∃ code, status = some code ∧ code ∈ ([408, 429, 500, 502, 503, 504] : List Int) := by
    cases status <;> simp [Retry.patientStatuses]
  cases f with
  | raised cls given status =>
    have transient : (Fault.raised cls given status).isTransient = true ↔
        cls.isTransport = true ∨
          cls.isHttp = true ∧ status.any Retry.patientStatuses.contains = true ∨
          cls.isConnection = true := by
      simp only [Fault.isTransient, Bool.or_eq_true, Bool.and_eq_true, or_assoc]
    rw [transient, cls.isTransport_iff, cls.isHttp_iff, cls.isConnection_iff, patient]
    constructor
    · intro h
      exact ⟨cls, given, status, rfl, by simpa only [or_assoc] using h⟩
    · rintro ⟨_, _, _, ⟨⟩, h⟩
      simpa only [or_assoc] using h
  | _ =>
    constructor
    · intro h
      cases h
    · rintro ⟨_, _, _, ⟨⟩, _⟩

namespace Retry

/-- Rounds of the retry loop, whatever outcomes are prepared. Each starts afresh with the outcomes that
are left; if no pause fails it calls the operation until an outcome settles the matter or the attempts are
used up, with a pause between each two calls, and ends with the last outcome. The loop itself never says
that it had nothing to try, and it goes on only after faults that pass. -/
theorem retrying_rounds (limit : Nat) (initial cap : Value) (jitter : Bool) (name : String)
    (arguments : List Value) (named : Table) (times : Nat) (st : Rehearsal.Store) :
    let p : Policy := ⟨.int (limit + 1), initial, cap, jitter⟩
    let runs := successive rehearsal (retrying p name (invocation arguments named)) times st
    Rounds p name arguments named (limit + 1) st.outcomes runs ∧
      (∀ r ∈ runs, IsBarren r.outcome → r.outcome ∈ st.outcomes) ∧
      ∀ f : Fault, f.isTransient = true ↔ f.IsPassing := by
  intro p runs
  have rounds : Rounds p name arguments named (limit + 1) st.outcomes runs :=
    rounds_of_successive rfl name arguments named times st
  refine ⟨rounds, ?_, Fault.isTransient_iff⟩
  intro r hr barren
  exact mem_of_isBarren rounds hr barren

end Retry

end NodeReclaim
