import NodeReclaim.Proofs.Access

/-! Plans: what a cleanup has to read and to delete, where each step may hang on the objects that were
read before it. A program follows a plan when it takes the plan's steps in their order and no other: all of
them when it returns, the first ones when it ends with a fault. -/
namespace NodeReclaim

inductive Plan where
  | done
  | delete (d : Deletion) (rest : Plan)
  | read (kind : Kind) (target : Target) (next : Value → Plan)

namespace Plan

/-- What is deleted when the reads find these objects, one a read. Where they run out nothing is
found. -/
def deletions : Plan → List Value → List Deletion
  | done, _ => []
  | delete d rest, found => d :: rest.deletions found
  | read _ _ next, found => (next (found.headD .null)).deletions found.tail

def lookups : Plan → List Value → List (Kind × Target)
  | done, _ => []
  | delete _ rest, found => rest.lookups found
  | read kind target next, found =>
    (kind, target) :: (next (found.headD .null)).lookups found.tail

def deleteAll (kind : Kind) (targets : List Target) (rest : Plan) : Plan :=
  targets.foldr (fun target rest => .delete (.resource kind target) rest) rest

def isRead : Plan → Bool
  | read .. => true
  | _ => false

/-- No read follows another without a deletion between them. -/
def Spaced : Plan → Prop
  | done => True
  | delete _ rest => rest.Spaced
  | read _ _ next => ∀ v, (next v).isRead = false ∧ (next v).Spaced

theorem spaced_deleteAll (h : Spaced rest) : (deleteAll kind targets rest).Spaced := by
  induction targets with
  | nil => exact h
  | cons target targets ih => exact ih

def reads (kind : Kind) (target : Target) (replies : List (Except Fault Value)) : List Step :=
  replies.map fun reply => .read ⟨kind, target, reply⟩

theorem settled_reads (h : (ss.head?).any Step.isRead = false) :
    Step.settled (reads kind target (replies ++ [reply]) ++ ss) =
      ⟨kind, target, reply⟩ :: Step.settled ss := by
  have read_map : reads kind target (replies ++ [reply]) =
      (replies.map (Reading.mk kind target) ++ [Reading.mk kind target reply]).map Step.read := by
    simp [reads]
  rw [read_map, Step.settled_reads _ _ _ h]

theorem deletions_reads : (reads kind target replies).filterMap Step.deletion? = [] := by
  simp [reads, Step.deletion?]

/-- What is left of a plan after some steps. A read may take several requests. -/
inductive Leaves : Plan → List Step → Plan → Prop
  | nothing : Leaves plan [] plan
  | delete : Leaves rest ss left → Leaves (.delete d rest) (.delete d :: ss) left
  | read (kind target replies reply) :
      Leaves (next (Reading.mk kind target reply).object) ss left →
      Leaves (.read kind target next) (reads kind target (replies ++ [reply]) ++ ss) left

namespace Leaves

theorem head (h : Leaves plan ss left) (hp : plan.isRead = false) :
    (ss.head?).any Step.isRead = false := by
  cases h with
  | nothing => rfl
  | delete => rfl
  | read => cases hp

/-- What was deleted and what is left to delete together are what the plan says. -/
theorem deletions_eq (h : Leaves plan ss left) (hp : plan.Spaced) (more : List Value) :
    plan.deletions ((Step.settled ss).map Reading.object ++ more) =
      ss.filterMap Step.deletion? ++ left.deletions more := by
  induction h with
  | nothing => rfl
  | delete _ ih => exact congrArg (_ :: ·) (ih hp)
  | read kind target replies reply h ih =>
    rw [settled_reads (h.head (hp _).1), List.filterMap_append, deletions_reads, List.nil_append]
    exact ih (hp _).2

theorem lookups_eq (h : Leaves plan ss left) (hp : plan.Spaced) (more : List Value) :
    plan.lookups ((Step.settled ss).map Reading.object ++ more) =
      (Step.settled ss).map Reading.place ++ left.lookups more := by
  induction h with
  | nothing => rfl
  | delete _ ih => exact ih hp
  | read kind target replies reply h ih =>
    rw [settled_reads (h.head (hp _).1)]
    exact congrArg (_ :: ·) (ih (hp _).2)

end Leaves

end Plan

namespace Program
open Plan

/-- The program takes the plan's steps: all of them when it returns. -/
def Follows (plan : Plan) (p : Program α) : Prop :=
  ∀ t o, Runs p t o → ∃ left, plan.Leaves (steps t) left ∧ ∀ a, o = .ok a → left = .done

def isSilent (r : Request) : Prop := ∀ x, Exchange.step? ⟨r, x⟩ = none

theorem silent_of_followUp (h : Access.isFollowUp r) : isSilent r := by
  cases r <;> first | exact fun _ => rfl | cases h

theorem steps_of_silent {p : Program α} (hp : p.Within isSilent) (h : Runs p t o) :
    steps t = [] :=
  hp.filterMap_eq_nil (fun _ x hr => hr x) h

namespace Follows

theorem done (a : α) : Follows .done (.done a) := by
  rintro _ _ ⟨rfl, rfl⟩
  exact ⟨_, .nothing, fun _ _ => rfl⟩

theorem fail (e : Fault) : Follows plan (.fail e : Program α) := by
  rintro _ _ ⟨rfl, rfl⟩
  exact ⟨_, .nothing, fun _ h => nomatch h⟩

theorem silent {p : Program α} (hp : p.Within isSilent) : Follows .done p := by
  intro t o h
  rw [steps_of_silent hp h]
  exact ⟨_, .nothing, fun _ _ => rfl⟩

theorem after {p : Program α} {f : α → Program β} (hp : p.Within isSilent)
    (hf : ∀ a, Follows plan (f a)) : Follows plan (p >>= f) := by
  intro t o h
  rcases runs_bind_iff.1 h with ⟨e, rfl, h₁⟩ | ⟨a, t₁, t₂, rfl, h₁, h₂⟩
  · rw [steps_of_silent hp h₁]
    exact ⟨_, .nothing, fun _ h => nomatch h⟩
  · rw [steps_append, steps_of_silent hp h₁]
    exact hf a t₂ o h₂

theorem foldlM {turn : β → ρ → Program β} {around : ρ → Plan → Plan}
    (hturn : ∀ b x {plan} {k : β → Program γ}, (∀ b, Follows plan (k b)) →
      Follows (around x plan) (turn b x >>= k))
    {k : β → Program γ} (hk : ∀ b, Follows plan (k b)) (xs : List ρ) (b : β) :
    Follows (xs.foldr around plan) (xs.foldlM turn b >>= k) := by
  induction xs generalizing b with
  | nil => exact hk b
  | cons x xs ih =>
    rw [List.foldlM_cons, bind_assoc]
    exact hturn b x ih

/-- A run that returns deletes what the plan says about the objects it found. -/
theorem whole {p : Program α} (hp : Follows plan p) (hs : plan.Spaced) (h : Runs p t (.ok a)) :
    deletions t = plan.deletions ((readings t).map Reading.object) ∧
      (readings t).map Reading.place = plan.lookups ((readings t).map Reading.object) := by
  obtain ⟨left, hl, ho⟩ := hp t _ h
  cases ho a rfl
  have hd := hl.deletions_eq hs []
  have hr := hl.lookups_eq hs []
  rw [List.append_nil] at hd hr
  rw [readings, hd, hr, deletions_steps, Plan.deletions, Plan.lookups, List.append_nil,
    List.append_nil]
  exact ⟨rfl, rfl⟩

/-- Any run deletes a part of it from the start, whatever else might have been found. -/
theorem part {p : Program α} (hp : Follows plan p) (hs : plan.Spaced) (h : Runs p t o) :
    (∀ more, deletions t <+: plan.deletions ((readings t).map Reading.object ++ more)) ∧
      (readings t).map Reading.place <+: plan.lookups ((readings t).map Reading.object) := by
  obtain ⟨left, hl, _⟩ := hp t o h
  constructor
  · intro more
    rw [readings, hl.deletions_eq hs more, deletions_steps]
    exact List.prefix_append ..
  · have hr := hl.lookups_eq hs []
    rw [List.append_nil] at hr
    rw [readings, hr]
    exact List.prefix_append ..

end Follows

end Program

namespace Access
open Program Plan

theorem silent_confirm (s : Settings) (job : Job) : (confirm s job).Within isSilent :=
  (within_confirm s job).mono fun _ => silent_of_followUp

theorem steps_of_delete (h : Runs (delete s kind target) t o) :
    steps t = [.delete (.resource kind target)] := by
  cases kind with
  | availabilitySet =>
    obtain ⟨reply, hf, _⟩ := runs_deleteNow h
    rw [← steps_foreign, hf]
    rfl
  | _ =>
    obtain ⟨reply, hf, _⟩ := runs_beginDelete h
    rw [← steps_foreign, hf]
    rfl

theorem steps_of_deleteConfirmed (h : Runs (delete s kind target >>= confirm s) t o) :
    steps t = [.delete (.resource kind target)] := by
  rcases runs_bind_iff.1 h with ⟨e, rfl, h₁⟩ | ⟨job, t₁, t₂, rfl, h₁, h₂⟩
  · exact steps_of_delete h₁
  · rw [steps_append, steps_of_delete h₁, steps_of_silent (silent_confirm s job) h₂]
    rfl

theorem follows_delete {f : Job → Program β} (hf : ∀ job, Follows plan (f job)) :
    Follows (.delete (.resource kind target) plan) (delete s kind target >>= f) := by
  intro t o h
  rcases runs_bind_iff.1 h with ⟨e, rfl, h₁⟩ | ⟨job, t₁, t₂, rfl, h₁, h₂⟩
  · rw [steps_of_delete h₁]
    exact ⟨_, .delete .nothing, fun _ h => nomatch h⟩
  · rw [steps_append, steps_of_delete h₁]
    obtain ⟨left, hl, ho⟩ := hf job t₂ o h₂
    exact ⟨left, .delete hl, ho⟩

theorem object_of_orAbsent {reply : Except Fault Value} (h : orAbsent .null reply = .ok v) :
    (Reading.mk kind target reply).object = v := by
  cases reply with
  | ok w =>
    cases h
    rfl
  | error f =>
    cases hf : f.isNotFound <;> simp only [orAbsent, hf] at h <;> cases h
    rfl

theorem replies_of_object (h : Runs (object s kind target) t o) :
    ∃ replies, foreign t = replies.map (got kind target) ∧
      ∀ v, o = .ok v →
        ∃ rs reply, replies = rs ++ [reply] ∧ (Reading.mk kind target reply).object = v := by
  obtain ⟨replies, hf, ho⟩ := runs_object h
  refine ⟨replies, hf, ?_⟩
  rintro v rfl
  rcases ho with hl | ⟨f, hf, _⟩
  · obtain ⟨reply, hr, hv⟩ := Option.map_eq_some_iff.1 hl
    obtain ⟨rs, rfl⟩ := List.getLast?_eq_some_iff.1 hr
    exact ⟨rs, reply, rfl, object_of_orAbsent hv⟩
  · cases hf

theorem steps_of_object (h : Runs (object s kind target) t o) :
    ∃ replies, steps t = reads kind target replies ∧
      ∀ v, o = .ok v →
        ∃ rs reply, replies = rs ++ [reply] ∧ (Reading.mk kind target reply).object = v := by
  obtain ⟨replies, hf, hv⟩ := replies_of_object h
  refine ⟨replies, ?_, hv⟩
  rw [← steps_foreign, hf, List.filterMap_map, reads, ← List.filterMap_eq_map]
  rfl

theorem follows_snapshot? {ofObject : Value → Except Misuse α} {f : Option α → Program β}
    (hf : ∀ v a, snapshotOf ofObject v = .ok a → Follows (next v) (f a)) :
    Follows (.read kind target next) (snapshot? s kind target ofObject >>= f) := by
  intro t o h
  rcases runs_bind_iff.1 h with ⟨e, rfl, h₁⟩ | ⟨a, t₁, t₂, rfl, h₁, h₂⟩
  · obtain ⟨o', h', _⟩ := runs_snapshot?_iff.1 h₁
    obtain ⟨replies, hs, _⟩ := steps_of_object h'
    have taken : ∃ left, (Plan.read kind target next).Leaves (steps t) left := by
      rcases List.eq_nil_or_concat replies with rfl | ⟨rs, reply, rfl⟩
      · rw [hs]
        exact ⟨_, .nothing⟩
      · rw [hs, ← List.append_nil (reads ..), List.concat_eq_append]
        exact ⟨_, .read kind target rs reply .nothing⟩
    obtain ⟨left, hl⟩ := taken
    exact ⟨left, hl, fun _ h => nomatch h⟩
  · obtain ⟨o', h', ho⟩ := runs_snapshot?_iff.1 h₁
    obtain ⟨v, rfl, ha⟩ := ok_of_bind ho.symm
    obtain ⟨replies, hs, hv⟩ := steps_of_object h'
    obtain ⟨rs, reply, rfl, hr⟩ := hv v rfl
    obtain ⟨left, hl, hd⟩ := hf v a ha t₂ o h₂
    refine ⟨left, ?_, hd⟩
    rw [steps_append, hs]
    exact .read kind target rs reply (by rwa [hr])

end Access

end NodeReclaim
