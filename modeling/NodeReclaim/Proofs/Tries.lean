import NodeReclaim.Proofs.Trace
import NodeReclaim.Retry.Loop

/-! Retrying seen from outside: a run under retry is a series of runs of the operation. All but the
last end with a transient fault, and the last one's outcome is the outcome, unless the loop fails on
its own. -/
namespace NodeReclaim.Retry
open Program

structure Try (α : Type) where
  trace : List Exchange
  outcome : Except Fault α

/-- A try that nothing is to follow: it did not fail, or not in passing. -/
def settles : Except Fault α → Bool
  | .ok _ => true
  | .error f => !f.isTransient

/-- Faults of the loop: a pause that cannot be computed, written or taken, or no attempt at all. -/
def isOwn : Fault → Bool
  | .misuse _ | .negativePause | .unorderedPause | .uncountablePause | .noAttempts _ => true
  | _ => false

/-- A run under retry as the tries that it is made of. -/
structure Tried (operation : Program α) (granted : Nat) (tries : List (Try α))
    (t : List Exchange) (o : Except Fault α) : Prop where
  atMost : tries.length ≤ granted
  runs : ∀ x ∈ tries, Runs operation x.trace x.outcome
  again : ∀ x ∈ tries.dropLast, ∃ f, x.outcome = .error f ∧ f.isTransient
  seen : foreign t = tries.flatMap fun x => foreign x.trace
  ending : tries.getLast?.map (·.outcome) = some o ∨ ∃ f, o = .error f ∧ isOwn f

/-- Nothing that the provider sees, and no fault but the loop's own. -/
def Inward (p : Program α) : Prop :=
  ∀ t o, Runs p t o → foreign t = [] ∧ ∀ f, o = .error f → isOwn f

namespace Inward

theorem done (a : α) : Inward (.done a) := by
  rintro _ _ ⟨rfl, rfl⟩
  exact ⟨rfl, fun _ h => nomatch h⟩

theorem fail (h : isOwn f) : Inward (.fail f : Program α) := by
  rintro _ _ ⟨rfl, rfl⟩
  refine ⟨rfl, fun f' hf => ?_⟩
  cases hf
  exact h

theorem misuse (m : Except Misuse α) : Inward (.misuse m) := by
  intro t o h
  obtain ⟨rfl, rfl⟩ := runs_misuse_iff.1 h
  cases m with
  | ok a => exact ⟨rfl, fun _ h => nomatch h⟩
  | error m =>
    refine ⟨rfl, fun f hf => ?_⟩
    cases hf
    rfl

theorem ask (h : ∀ x, Exchange.isLocal ⟨r, x⟩) : Inward (.ask r) := by
  intro t o hr
  obtain ⟨x, rfl, rfl⟩ := runs_ask_iff.1 hr
  exact ⟨by simp [foreign, h x], fun _ h => nomatch h⟩

theorem bind {p : Program α} {f : α → Program β} (hp : Inward p) (hf : ∀ a, Inward (f a)) :
    Inward (p >>= f) := by
  intro t o h
  rcases runs_bind_iff.1 h with ⟨e, rfl, h₁⟩ | ⟨a, t₁, t₂, rfl, h₁, h₂⟩
  · refine ⟨(hp _ _ h₁).1, fun f hf => ?_⟩
    cases hf
    exact (hp _ _ h₁).2 e rfl
  · rw [foreign_append, (hp _ _ h₁).1, (hf a _ _ h₂).1]
    exact ⟨rfl, (hf a _ _ h₂).2⟩

end Inward

theorem inward_log : Inward (.log level area text) := .ask fun _ => rfl

theorem inward_progress (p : Policy) (number : Nat) : Inward (progress p number) :=
  .bind (.misuse _) fun _ => .done _

theorem inward_pauseFor (p : Policy) (delay : Value) : Inward (pauseFor p delay) := by
  unfold pauseFor
  cases p.jitter
  · exact .misuse _
  · apply Inward.bind (.misuse _)
    intro spread
    apply Inward.bind (.ask fun _ => rfl)
    intro draw
    exact .bind (.misuse _) fun _ => .misuse _

theorem inward_pause (seconds : Value) : Inward (pause seconds) := by
  apply Inward.bind (.ask fun _ => rfl)
  rintro (e | _)
  · cases e <;> exact .fail rfl
  · exact .done _

theorem runs_pause_iff : Runs (pause seconds) t o ↔
    ∃ reply : Except PauseError Unit, t = [⟨.pause seconds, reply⟩] ∧ o = reply.mapError .ofPause := by
  rw [pause, runs_ask_bind_iff]
  constructor
  · rintro ⟨reply, rest, rfl, h⟩
    obtain ⟨rfl, rfl⟩ := runs_ofExcept_iff.1 h
    exact ⟨reply, rfl, rfl⟩
  · rintro ⟨reply, rfl, rfl⟩
    exact ⟨reply, [], rfl, runs_ofExcept_iff.2 ⟨rfl, rfl⟩⟩

/-- Nothing that the provider sees, and the outcome unless the loop fails on its own. -/
def Closes (o' : Except Fault α) (p : Program α) : Prop :=
  ∀ t o, Runs p t o → foreign t = [] ∧ (o = o' ∨ ∃ f, o = .error f ∧ isOwn f)

namespace Closes

theorem done (a : α) : Closes (.ok a) (.done a) := by
  rintro _ _ ⟨rfl, rfl⟩
  exact ⟨rfl, .inl rfl⟩

theorem fail (f : Fault) : Closes (.error f) (.fail f : Program α) := by
  rintro _ _ ⟨rfl, rfl⟩
  exact ⟨rfl, .inl rfl⟩

theorem bind {p : Program α} {f : α → Program β} (hp : Inward p) (hf : ∀ a, Closes o' (f a)) :
    Closes o' (p >>= f) := by
  intro t o h
  rcases runs_bind_iff.1 h with ⟨e, rfl, h₁⟩ | ⟨a, t₁, t₂, rfl, h₁, h₂⟩
  · exact ⟨(hp _ _ h₁).1, .inr ⟨e, rfl, (hp _ _ h₁).2 e rfl⟩⟩
  · rw [foreign_append, (hp _ _ h₁).1, (hf a _ _ h₂).1]
    exact ⟨rfl, (hf a _ _ h₂).2⟩

theorem of_runs {p : Program α} (h : Runs p t o) (hp : Closes o' p) :
    foreign t = [] ∧ (o = o' ∨ ∃ f, o = .error f ∧ isOwn f) := hp t o h

end Closes

def interlude (p : Policy) (name : String) (number : Nat) (delay : Value) (f : Fault) :
    Program Unit := do
  let seconds ← pauseFor p delay
  let progress ← progress p number
  let shown ← misuse (seconds.fixed 2)
  .log .warning .retry
    (name ++ " failed on attempt " ++ progress ++ ", retrying in " ++ shown ++ "s: " ++ logged f)
  pause seconds

theorem inward_interlude (p : Policy) (name : String) (number : Nat) (delay : Value) (f : Fault) :
    Inward (interlude p name number delay f) := by
  apply Inward.bind (inward_pauseFor p delay)
  intro seconds
  apply Inward.bind (inward_progress p number)
  intro progress
  apply Inward.bind (.misuse _)
  intro shown
  exact .bind inward_log fun _ => inward_pause seconds

namespace Tried
variable {operation : Program α}

theorem last (h : Runs operation t₁ o')
    (closed : foreign t₂ = [] ∧ (o = o' ∨ ∃ f, o = .error f ∧ isOwn f)) :
    Tried operation (limit + 1) [⟨t₁, o'⟩] (t₁ ++ t₂) o where
  atMost := by simp
  runs := by simpa using h
  again := by simp
  seen := by simp [closed.1]
  ending := closed.2.imp (fun h => by rw [h]; rfl) id

theorem next (h : Runs operation t₁ (.error f)) (hf : f.isTransient) (h₂ : foreign t₂ = [])
    (rest : Tried operation limit tries t₃ o) :
    Tried operation (limit + 1) (⟨t₁, .error f⟩ :: tries) (t₁ ++ (t₂ ++ t₃)) o where
  atMost := Nat.succ_le_succ rest.atMost
  runs := by
    intro x hx
    rcases List.mem_cons.1 hx with rfl | hx
    · exact h
    · exact rest.runs x hx
  again := by
    intro x hx
    cases tries with
    | nil => simp at hx
    | cons y ys =>
      rw [List.dropLast_cons_cons] at hx
      rcases List.mem_cons.1 hx with rfl | hx
      · exact ⟨f, rfl, hf⟩
      · exact rest.again x hx
  seen := by
    rw [foreign_append, foreign_append, h₂, rest.seen]
    rfl
  ending := by
    cases tries with
    | nil => exact .inr (rest.ending.resolve_left (by simp))
    | cons y ys => simpa [List.getLast?_cons_cons] using rest.ending

end Tried

theorem runs_attemptsFrom {operation : Program α}
    (h : Runs (attemptsFrom p name operation left number delay) t o) :
    ∃ tries, Tried operation left tries t o := by
  induction left generalizing number delay t with
  | zero =>
    obtain ⟨rfl, rfl⟩ := h
    exact ⟨[], by simp, by simp, by simp, rfl, .inr ⟨_, rfl, rfl⟩⟩
  | succ left ih =>
    obtain ⟨o', t₁, t₂, rfl, h₁, h₂⟩ := runs_attempt_bind_iff.1 h
    cases o' with
    | ok a =>
      dsimp only at h₂
      split at h₂
      · refine ⟨_, .last h₁ (Closes.of_runs h₂ ?_)⟩
        exact .bind (inward_progress p number) fun _ => .bind inward_log fun _ => .done a
      · exact ⟨_, .last h₁ (Closes.of_runs h₂ (.done a))⟩
    | error f =>
      dsimp only at h₂
      split at h₂
      · exact ⟨_, .last h₁ (Closes.of_runs h₂ (.fail f))⟩
      split at h₂
      · refine ⟨_, .last h₁ (Closes.of_runs h₂ ?_)⟩
        exact .bind (.misuse _) fun _ => .bind inward_log fun _ => .fail f
      · have hf : f.isTransient := by simpa using ‹¬(!f.isTransient) = true›
        -- Regrouped, so that what comes before the next try is one program.
        replace h₂ : Runs (interlude p name number delay f >>= fun _ =>
            attemptsFrom p name operation left (number + 1) (doubled delay)) t₂ o := by
          simpa only [interlude, LawfulMonad.bind_assoc] using h₂
        have hi := inward_interlude p name number delay f
        rcases runs_bind_iff.1 h₂ with ⟨e, rfl, he⟩ | ⟨_, t₂, t₃, rfl, hb, h₃⟩
        · exact ⟨_, .last h₁ ⟨(hi _ _ he).1, .inr ⟨e, rfl, (hi _ _ he).2 e rfl⟩⟩⟩
        · obtain ⟨tries, rest⟩ := ih h₃
          exact ⟨_, .next h₁ hf (hi _ _ hb).1 rest⟩

/-- A run under retry is made of at most as many tries as the policy grants. -/
theorem runs_retrying {operation : Program α} (h : Runs (retrying p name operation) t o) :
    ∃ tries, Tried operation ((granted p.attempts).toOption.getD 0) tries t o := by
  rcases runs_bind_iff.1 h with ⟨e, rfl, hg⟩ | ⟨n, _, t₂, rfl, hg, ht⟩
  · obtain ⟨rfl, he⟩ := runs_misuse_iff.1 hg
    refine ⟨[], by simp, by simp, by simp, rfl, .inr ⟨e, rfl, ?_⟩⟩
    cases hp : granted p.attempts <;> rw [hp] at he <;> cases he
    rfl
  · obtain ⟨rfl, hn⟩ := runs_misuse_iff.1 hg
    cases hp : granted p.attempts <;> rw [hp] at hn <;> cases hn
    exact runs_attemptsFrom ht

end NodeReclaim.Retry
