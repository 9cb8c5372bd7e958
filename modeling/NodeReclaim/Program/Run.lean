import NodeReclaim.Program

/-! Running a program in a world. A world answers each request from a state of its own; the run
records every request with its reply, the outcome and the state that is left. -/
namespace NodeReclaim

structure World (σ : Type) where
  answer : (r : Request) → σ → r.Reply × σ

structure Exchange where
  request : Request
  reply : request.Reply

structure Run (σ α : Type) where
  trace : List Exchange
  outcome : Except Fault α
  state : σ

namespace Program

def run (w : World σ) (p : Program α) (s : σ) : Run σ α :=
  match p with
  | done a => ⟨[], .ok a, s⟩
  | fail e => ⟨[], .error e, s⟩
  | step r next =>
    let answered := w.answer r s
    let rest := (next answered.1).run w answered.2
    ⟨⟨r, answered.1⟩ :: rest.trace, rest.outcome, rest.state⟩

variable (w : World σ) (s : σ)

@[simp] theorem run_done (a : α) : (done a).run w s = ⟨[], .ok a, s⟩ := rfl

@[simp] theorem run_fail (e : Fault) : (fail e : Program α).run w s = ⟨[], .error e, s⟩ := rfl

/-- A run after a run: traces in sequence, unless the first ends with a fault. -/
theorem run_bind (p : Program α) (f : α → Program β) :
    (p >>= f).run w s =
      match (p.run w s).outcome with
      | .ok a =>
        let rest := (f a).run w (p.run w s).state
        ⟨(p.run w s).trace ++ rest.trace, rest.outcome, rest.state⟩
      | .error e => ⟨(p.run w s).trace, .error e, (p.run w s).state⟩ := by
  induction p generalizing s with
  | done a => rfl
  | fail e => rfl
  | step r next ih =>
    simp only [step_bind, run, ih]
    cases ((next (w.answer r s).1).run w (w.answer r s).2).outcome <;> rfl

theorem run_attempt (p : Program α) :
    p.attempt.run w s = ⟨(p.run w s).trace, .ok (p.run w s).outcome, (p.run w s).state⟩ := by
  induction p generalizing s with
  | done a => rfl
  | fail e => rfl
  | step r next ih => simp only [attempt, run, ih]

end Program

end NodeReclaim
