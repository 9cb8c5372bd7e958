import Mathlib.Data.List.Forall2
import NodeReclaim.Proofs.Trace

/-! Programs that are alike. A ticket is a name that the provider chooses, and no cleanup looks into it: two
programs that differ only in their tickets do the same in two worlds that answer alike. The relation `tickets`
tells which tickets of the one world stand for which of the other. -/
namespace NodeReclaim
open Program

variable {tickets : Ticket → Ticket → Prop}

/-- Requests without a ticket, to which no ticket is replied and which are not about the machine. -/
def isTicketless : Request → Prop
  | .get kind _ | .delete kind _ => kind ≠ .vm
  | .pause _ | .draw | .log _ => True
  | _ => False

inductive Request.Alike (tickets : Ticket → Ticket → Prop) : Request → Request → Prop
  | plain (h : isTicketless r) : Alike tickets r r
  | beginDelete (h : kind ≠ .vm) (target : Target) (polling : Value) :
    Alike tickets (.beginDelete kind target polling) (.beginDelete kind target polling)
  | wait (h : tickets i j) (timeout : Value) : Alike tickets (.wait i timeout) (.wait j timeout)
  | isDone (h : tickets i j) : Alike tickets (.isDone i) (.isDone j)
  | status (h : tickets i j) : Alike tickets (.status i) (.status j)

inductive Exchange.Alike (tickets : Ticket → Ticket → Prop) : Exchange → Exchange → Prop
  | plain (h : isTicketless r) (x : r.Reply) : Alike tickets ⟨r, x⟩ ⟨r, x⟩
  | refused (kind : Kind) (target : Target) (polling : Value) (f : Fault) :
    Alike tickets ⟨.beginDelete kind target polling, .error f⟩ ⟨.beginDelete kind target polling, .error f⟩
  | idle (kind : Kind) (target : Target) (polling : Value) :
    Alike tickets ⟨.beginDelete kind target polling, .ok none⟩ ⟨.beginDelete kind target polling, .ok none⟩
  | begun (h : tickets i j) (kind : Kind) (target : Target) (polling : Value) :
    Alike tickets ⟨.beginDelete kind target polling, .ok (some i)⟩ ⟨.beginDelete kind target polling, .ok (some j)⟩
  | wait (h : tickets i j) (timeout : Value) (x : Except Fault Unit) :
    Alike tickets ⟨.wait i timeout, x⟩ ⟨.wait j timeout, x⟩
  | isDone (h : tickets i j) (x : Except Fault Value) : Alike tickets ⟨.isDone i, x⟩ ⟨.isDone j, x⟩
  | status (h : tickets i j) (x : Except Fault Written) : Alike tickets ⟨.status i, x⟩ ⟨.status j, x⟩

inductive OutcomesAlike (good : α → β → Prop) : Except Fault α → Except Fault β → Prop
  | ok (h : good a b) : OutcomesAlike good (.ok a) (.ok b)
  | error (f : Fault) : OutcomesAlike good (.error f) (.error f)

namespace Program

/-- Programs that ask alike and, as long as the replies are alike, go on alike. -/
inductive Alike (tickets : Ticket → Ticket → Prop) (good : α → β → Prop) : Program α → Program β → Prop
  | done (h : good a b) : Alike tickets good (.done a) (.done b)
  | fail (f : Fault) : Alike tickets good (.fail f) (.fail f)
  | step (h : Request.Alike tickets r₁ r₂)
    (next : ∀ x₁ x₂, Exchange.Alike tickets ⟨r₁, x₁⟩ ⟨r₂, x₂⟩ → Alike tickets good (next₁ x₁) (next₂ x₂)) :
    Alike tickets good (.step r₁ next₁) (.step r₂ next₂)

namespace Alike

theorem bind {p₁ : Program α} {p₂ : Program β} {f₁ : α → Program γ} {f₂ : β → Program δ}
    {good' : γ → δ → Prop} (hp : Alike tickets good p₁ p₂)
    (hf : ∀ a b, good a b → Alike tickets good' (f₁ a) (f₂ b)) : Alike tickets good' (p₁ >>= f₁) (p₂ >>= f₂) := by
  induction hp with
  | done h => exact hf _ _ h
  | fail f => exact .fail f
  | step h _ ih => exact .step h ih

theorem foldlM {turn : β → ρ → Program β} {good : β → β → Prop}
    (hturn : ∀ b₁ b₂ x, good b₁ b₂ → Alike tickets good (turn b₁ x) (turn b₂ x)) (xs : List ρ)
    (h : good b₁ b₂) : Alike tickets good (xs.foldlM turn b₁) (xs.foldlM turn b₂) := by
  induction xs generalizing b₁ b₂ with
  | nil => exact .done h
  | cons x xs ih =>
    rw [List.foldlM_cons, List.foldlM_cons]
    exact (hturn b₁ b₂ x h).bind fun _ _ => ih

theorem of_within {p : Program α} (hp : p.Within isTicketless) : Alike tickets (· = ·) p p := by
  induction p with
  | done a => exact .done rfl
  | fail e => exact .fail e
  | step r next ih =>
    obtain ⟨plain, rest⟩ := hp
    refine .step (.plain plain) fun x₁ x₂ h => ?_
    have same : x₁ = x₂ := by
      cases h with
      | plain => rfl
      | _ => cases plain
    rw [same]
    exact ih x₂ (rest x₂)

theorem after {p : Program α} {f₁ : α → Program β} {f₂ : α → Program γ} (hp : p.Within isTicketless)
    (hf : ∀ a, Alike tickets good (f₁ a) (f₂ a)) : Alike tickets good (p >>= f₁) (p >>= f₂) := by
  apply (of_within hp).bind
  rintro a _ rfl
  exact hf a

/-- Alike programs run alike in worlds that answer alike. -/
theorem run {w₁ : World σ} {w₂ : World τ} {related : σ → τ → Prop}
    (answers : ∀ {st₁ st₂ r₁ r₂}, related st₁ st₂ → Request.Alike tickets r₁ r₂ →
      Exchange.Alike tickets ⟨r₁, (w₁.answer r₁ st₁).1⟩ ⟨r₂, (w₂.answer r₂ st₂).1⟩ ∧
        related (w₁.answer r₁ st₁).2 (w₂.answer r₂ st₂).2)
    {p₁ : Program α} {p₂ : Program β} (hp : Alike tickets good p₁ p₂) (h : related st₁ st₂) :
    List.Forall₂ (Exchange.Alike tickets) (p₁.run w₁ st₁).trace (p₂.run w₂ st₂).trace ∧
      OutcomesAlike good (p₁.run w₁ st₁).outcome (p₂.run w₂ st₂).outcome := by
  induction hp generalizing st₁ st₂ with
  | done same => exact ⟨.nil, .ok same⟩
  | fail f => exact ⟨.nil, .error f⟩
  | step asked _ ih =>
    obtain ⟨alike, still⟩ := answers h asked
    obtain ⟨traces, outcomes⟩ := ih _ _ alike still
    exact ⟨.cons alike traces, outcomes⟩

end Alike

end Program

/-! ### Tickets told by where they were given -/

/-- Tickets that were given at the same place of two traces. -/
def GivenTogether (t₁ t₂ : List Exchange) (i j : Ticket) : Prop :=
  ∃ target₁ target₂, ((target₁, i), (target₂, j)) ∈ (pendings t₁).zip (pendings t₂)

theorem Exchange.Alike.pending (h : Exchange.Alike tickets x y) :
    (x.pending? = none ∧ y.pending? = none) ∨
      ∃ target i j, x.pending? = some (target, i) ∧ y.pending? = some (target, j) := by
  cases h with
  | @plain r plain x =>
    left
    cases r <;> first | exact ⟨rfl, rfl⟩ | cases plain
  | begun _ kind target polling => exact .inr ⟨target, _, _, rfl, rfl⟩
  | _ => exact .inl ⟨rfl, rfl⟩

/-- Exchanges that are alike under some relation of tickets are so under one that relates the tickets of the
requests and those that are given. -/
theorem Exchange.Alike.regiven {given : Ticket → Ticket → Prop} (asked : Request.Alike given r₁ r₂)
    (h : Exchange.Alike tickets ⟨r₁, x₁⟩ ⟨r₂, x₂⟩)
    (hgiven : ∀ target i j, Exchange.pending? ⟨r₁, x₁⟩ = some (target, i) →
      Exchange.pending? ⟨r₂, x₂⟩ = some (target, j) → given i j) :
    Exchange.Alike given ⟨r₁, x₁⟩ ⟨r₂, x₂⟩ := by
  cases h with
  | plain plain => exact .plain plain _
  | refused kind target polling f => exact .refused kind target polling f
  | idle kind target polling => exact .idle kind target polling
  | begun _ kind target polling => exact .begun (hgiven target _ _ rfl rfl) kind target polling
  | wait _ timeout x =>
    cases asked with
    | plain plain => cases plain
    | wait h => exact .wait h timeout x
  | isDone _ x =>
    cases asked with
    | plain plain => cases plain
    | isDone h => exact .isDone h x
  | status _ x =>
    cases asked with
    | plain plain => cases plain
    | status h => exact .status h x

/-- Traces of alike programs that agree under one relation of tickets agree under any other that relates the
tickets given at the same place. -/
theorem Program.Alike.regiven {given : Ticket → Ticket → Prop} {p₁ : Program α} {p₂ : Program β}
    (hp : Program.Alike given good p₁ p₂) (h₁ : Runs p₁ t₁ o₁) (h₂ : Runs p₂ t₂ o₂)
    (alike : List.Forall₂ (Exchange.Alike tickets) t₁ t₂) (hgiven : ∀ i j, GivenTogether t₁ t₂ i j → given i j) :
    List.Forall₂ (Exchange.Alike given) t₁ t₂ := by
  induction hp generalizing t₁ t₂ with
  | done h =>
    rw [h₁.1, h₂.1]
    exact .nil
  | fail f =>
    rw [h₁.1, h₂.1]
    exact .nil
  | @step r₁ r₂ _ _ asked next ih =>
    obtain ⟨x₁, rest₁, rfl, h₁⟩ := h₁
    obtain ⟨x₂, rest₂, rfl, h₂⟩ := h₂
    obtain ⟨first, rest⟩ := List.forall₂_cons.1 alike
    have head : Exchange.Alike given ⟨r₁, x₁⟩ ⟨r₂, x₂⟩ := by
      apply first.regiven asked
      intro target i j p₁ p₂
      apply hgiven
      refine ⟨target, target, ?_⟩
      simp [pendings, p₁, p₂]
    refine .cons head (ih x₁ x₂ head h₁ h₂ rest fun i j h => hgiven i j ?_)
    -- What is given in the rest is given at the same place of the whole, whether or not the heads give a ticket.
    obtain ⟨target₁, target₂, together⟩ := h
    refine ⟨target₁, target₂, ?_⟩
    obtain ⟨p₁, p₂⟩ | ⟨_, _, _, p₁, p₂⟩ := first.pending
    · simpa [pendings, p₁, p₂] using together
    · simp only [pendings, List.filterMap_cons, p₁, p₂, List.zip_cons_cons]
      exact List.mem_cons_of_mem _ together

end NodeReclaim
