import Mathlib.Data.List.TakeWhile
import NodeReclaim.Proofs.Closure
import NodeReclaim.Proofs.Operations
import NodeReclaim.Proofs.SharedGroup

/-! What the network step says about itself. Its trace falls apart into the deletions that were asked for, each with
what was asked about it until the next one, and the step reports exactly those of them after which the resource is
not known to be gone: all of them, under their names, in the order in which they were asked for. -/
namespace NodeReclaim

def Cleanup.entry (kind : Kind) (target : Target) : String :=
  (if kind = .nic then "nic " else "public ip ") ++ target.name.display

/-- A deletion that was asked for: the answer, and what was asked about it afterwards. -/
structure Asked where
  kind : Kind
  target : Target
  reply : Except Fault (Option Ticket)
  calls : List Exchange

namespace Asked

def deletion (a : Asked) : Deletion := .resource a.kind a.target

def IsGone (timeout : Value) (a : Asked) : Prop := Access.IsGone timeout a.reply a.calls

def entry (a : Asked) : String := Cleanup.entry a.kind a.target

end Asked

def leading (t : List Exchange) : List Exchange := t.takeWhile fun x => x.requested?.isNone

/-- The deletions that were asked for. Between two of them everything is about the first one. -/
def asked : List Exchange → List Asked
  | [] => []
  | x :: rest =>
    match x.requested? with
    | some (kind, target, reply) => ⟨kind, target, reply, followUps (leading rest)⟩ :: asked rest
    | none => asked rest

def IsFresh (t : List Exchange) : Prop := followUps (leading t) = []

theorem isFresh_of_followUps (h : followUps t = []) : IsFresh t := by
  have part : (followUps (leading t)).Sublist (followUps t) := (List.takeWhile_sublist _).filter _
  rw [h] at part
  exact List.sublist_nil.1 part

theorem followUps_leading_append (t₁ : List Exchange) (h : IsFresh t₂) :
    followUps (leading (t₁ ++ t₂)) = followUps (leading t₁) := by
  unfold leading
  rw [List.takeWhile_append]
  split
  next whole =>
    have same : leading t₁ = t₁ := (List.takeWhile_prefix _).eq_of_length whole
    change followUps (t₁ ++ leading t₂) = followUps (leading t₁)
    rw [followUps_append, h, same, List.append_nil]
  next => rfl

theorem IsFresh.append (h₁ : IsFresh t₁) (h₂ : IsFresh t₂) : IsFresh (t₁ ++ t₂) :=
  (followUps_leading_append t₁ h₂).trans h₁

theorem asked_append (t₁ : List Exchange) (h : IsFresh t₂) : asked (t₁ ++ t₂) = asked t₁ ++ asked t₂ := by
  induction t₁ with
  | nil => rfl
  | cons x rest ih =>
    rw [List.cons_append, asked, asked, ih, followUps_leading_append rest h]
    cases x.requested? <;> rfl

theorem asked_of_requests (h : requests t = []) : asked t = [] := by
  induction t with
  | nil => rfl
  | cons x rest ih =>
    obtain ⟨hx, hr⟩ := List.filterMap_eq_nil_iff.1 h |> List.forall_mem_cons.1
    rw [asked, hx]
    exact ih (List.filterMap_eq_nil_iff.2 hr)

theorem leading_of_requests (h : requests t = []) : leading t = t := by
  apply List.takeWhile_eq_self_iff.2
  intro x hx
  exact Option.isNone_iff_eq_none.2 (List.filterMap_eq_nil_iff.1 h x hx)

theorem asked_last (h : requests t = []) (reply : Except Fault (Option Ticket)) :
    asked (⟨.beginDelete kind target polling, reply⟩ :: t) = [⟨kind, target, reply, followUps t⟩] := by
  change ⟨kind, target, reply, followUps (leading t)⟩ :: asked t = _
  rw [leading_of_requests h, asked_of_requests h]

/-! ### What the cleanup says about itself -/

def Exchange.summary? : Exchange → Option String
  | ⟨.log ⟨.warning, .cleanup, text, _⟩, _⟩ => some text
  | _ => none

def summaries (t : List Exchange) : List String := t.filterMap Exchange.summary?

@[simp] theorem summaries_append (t₁ t₂ : List Exchange) : summaries (t₁ ++ t₂) = summaries t₁ ++ summaries t₂ :=
  List.filterMap_append

def isAside : Request → Prop
  | .log e => e.area = .cleanup → e.level = .debug
  | _ => True

theorem summaries_of_aside {p : Program α} (hp : p.Within isAside) (h : Program.Runs p t o) : summaries t = [] := by
  apply hp.filterMap_eq_nil _ h
  intro r x aside
  unfold Exchange.summary?
  split
  next text cause reply same =>
    cases same
    cases aside rfl
  next => rfl

namespace Cleanup
open Program Access

/-! ### One deletion -/

/-- A stretch of the step: what is asked for in it is recorded in the tally, under the judgement given, and it
deletes only interfaces and public addresses. -/
structure Records (judge : Asked → Bool) (t : List Exchange) (x y : Tally) : Prop where
  fresh : IsFresh t
  outcomes : y.outcomes = x.outcomes ++ (asked t).map fun a => (a.entry, judge a)
  kinds : ∀ a ∈ asked t, a.kind = .nic ∨ a.kind = .publicIp
  deleted : deletions t = (asked t).map Asked.deletion

namespace Records
variable {judge : Asked → Bool}

theorem silent (hr : requests t = []) (hf : followUps t = []) (hd : deletions t = []) (x : Tally) :
    Records judge t x x where
  fresh := isFresh_of_followUps hf
  outcomes := by rw [asked_of_requests hr, List.map_nil, List.append_nil]
  kinds := by
    rw [asked_of_requests hr]
    exact List.forall_mem_nil _
  deleted := by rw [asked_of_requests hr, hd, List.map_nil]

theorem append (h₁ : Records judge t₁ x y) (h₂ : Records judge t₂ y z) : Records judge (t₁ ++ t₂) x z where
  fresh := h₁.fresh.append h₂.fresh
  outcomes := by rw [asked_append t₁ h₂.fresh, List.map_append, h₂.outcomes, h₁.outcomes, List.append_assoc]
  kinds := by
    rw [asked_append t₁ h₂.fresh]
    exact List.forall_mem_append.2 ⟨h₁.kinds, h₂.kinds⟩
  deleted := by rw [asked_append t₁ h₂.fresh, deletions_append, List.map_append, h₁.deleted, h₂.deleted]

theorem after_log (h : Records judge t x y) : Records judge (logExchange level area text :: t) x y := by
  have logged : Records judge [logExchange level area text] x x := silent rfl rfl rfl x
  exact logged.append h

theorem foldlM {turn : Tally → ρ → Program Tally}
    (hturn : ∀ {r x t y}, Runs (turn x r) t (.ok y) → Records judge t x y) {rs : List ρ}
    (h : Runs (rs.foldlM turn x) t (.ok y)) : Records judge t x y := by
  induction rs generalizing x t with
  | nil =>
    obtain ⟨rfl, ho⟩ := h
    cases ho
    exact silent rfl rfl rfl _
  | cons r rs ih =>
    rw [List.foldlM_cons] at h
    obtain ⟨z, t₁, t₂, rfl, h₁, h₂⟩ := runs_bind_ok_iff.1 h
    exact (hturn h₁).append (ih h₂)

end Records

section
variable {s : Settings} {judge : Asked → Bool} (hj : ∀ a, judge a = true ↔ a.IsGone s.deletionTimeout)
include hj

theorem records_deleteConfirmed (hk : kind = .nic ∨ kind = .publicIp)
    (h : Runs (delete s kind target >>= confirm s) t (.ok deleted)) (x : Tally) :
    Records judge t x (x.record (entry kind target) deleted) := by
  have removed : deletions t = [.resource kind target] := by
    rw [← deletions_steps, steps_of_deleteConfirmed h]
    rfl
  have later : delete s kind target = beginDelete s kind target := by rcases hk with rfl | rfl <;> rfl
  rw [later] at h
  obtain ⟨reply, single, gone⟩ := gone_of_deleteConfirmed h
  rw [beginDelete, Program.bind_assoc] at h
  obtain ⟨answer, rest, rfl, _⟩ := runs_ask_bind_iff.1 h
  obtain ⟨rfl, alone⟩ : answer = reply ∧ requests rest = [] := by
    simpa [requests, Exchange.requested?] using single
  have judged : judge ⟨kind, target, answer, followUps rest⟩ = deleted := by
    rw [Bool.eq_iff_iff, hj]
    exact gone.symm.trans (by simp)
  refine ⟨rfl, ?_, ?_, ?_⟩
  · rw [asked_last alone, List.map_singleton, judged]
    rfl
  · rw [asked_last alone]
    simpa using hk
  · rw [asked_last alone]
    exact removed

theorem records_publicIp (h : Runs (publicIp s x r) t (.ok y)) : Records judge t x y := by
  obtain ⟨rest, rfl, h₁⟩ := runs_log_bind_iff.1 h
  obtain ⟨deleted, t₁, t₂, rfl, h₂, h₃⟩ := runs_bind_ok_iff.1 h₁
  obtain ⟨rfl, ho⟩ := h₃
  cases ho
  have own : Records judge t₁ x (x.record ("public ip " ++ r.shownName) deleted) :=
    records_deleteConfirmed hj (.inr rfl) h₂ x
  rw [List.append_nil]
  exact own.after_log

theorem records_interface (h : Runs (interface s x r) t (.ok y)) : Records judge t x y := by
  obtain ⟨found, reading, t₁, rfl, h₁, h₂⟩ := runs_bind_ok_iff.1 h
  obtain ⟨_, read, _⟩ := runs_snapshot?_iff.1 h₁
  obtain ⟨hd, hr, hf⟩ := views_of_object read
  obtain ⟨t₂, rfl, h₃⟩ := runs_log_bind_iff.1 h₂
  rw [← Program.bind_assoc] at h₃
  obtain ⟨deleted, t₃, t₄, rfl, h₄, h₅⟩ := runs_bind_ok_iff.1 h₃
  have own : Records judge t₃ x (x.record ("nic " ++ r.shownName) deleted) :=
    records_deleteConfirmed hj (.inl rfl) h₄ x
  have addresses := Records.foldlM (records_publicIp hj) h₅
  exact (Records.silent hr hf hd x).append (own.append addresses).after_log

end

/-! ### Nothing is summed up on the way -/

theorem aside_of_area {e : Entry} (h : e.area ≠ .cleanup) : isAside (.log e) := fun same => absurd same h

theorem aside_snapshot? (s : Settings) (kind : Kind) (target : Target) (ofObject : Value → Except Misuse α) :
    (snapshot? s kind target ofObject).Within isAside := by
  have retries (e : Entry) (h : e.area = .retry) : isAside (.log e) := aside_of_area (by simp [h])
  apply good_snapshot? (composes_within isAside)
  apply good_orIfAbsent (composes_within isAside)
  apply Retry.good_retrying (composes_within isAside) (fun e h => within_ask (retries e h))
  · exact Retry.within_interlude_of trivial (fun _ => trivial) retries _
  · exact within_require trivial

theorem aside_deleteConfirmed (s : Settings) (kind : Kind) (target : Target) :
    (do confirm s (← delete s kind target)).Within isAside := by
  apply (within_delete_of (fun e h => aside_of_area (by simp [h])) s trivial trivial).bind
  rintro (_ | ⟨_ | ticket, title⟩)
  · trivial
  · trivial
  · exact within_confirm_of (fun e h => aside_of_area (by simp [h])) trivial trivial s trivial title

theorem aside_logStep (text : String) : (logStep text).Within isAside := within_ask fun _ => rfl

theorem aside_publicIp (s : Settings) (x : Tally) (r : Reference) : (publicIp s x r).Within isAside :=
  (aside_logStep _).bind fun _ => (aside_deleteConfirmed s .publicIp r.target).bind fun _ => trivial

theorem aside_interface (s : Settings) (x : Tally) (r : Reference) : (interface s x r).Within isAside := by
  apply (aside_snapshot? s .nic r.target _).bind
  intro found
  apply (aside_logStep _).bind
  intro _
  have whole := (aside_deleteConfirmed s .nic r.target).bind fun deleted =>
    Within.foldlM (aside_publicIp s) ((found.map (·.publicIps)).getD []) (x.record ("nic " ++ r.shownName) deleted)
  rwa [Program.bind_assoc] at whole

/-! ### The report -/

namespace Records
variable {judge : Asked → Bool} (h : Records judge t {} y)
include h

theorem allSucceeded_eq : y.allSucceeded = (asked t).all judge := by
  rw [Tally.allSucceeded, h.outcomes, List.nil_append, List.all_map]
  rfl

theorem failed_eq : y.failed = ((asked t).filter fun a => !judge a).map Asked.entry := by
  rw [Tally.failed, h.outcomes, List.nil_append, List.filter_map, List.map_map]
  rfl

end Records

theorem runs_network {judge : Asked → Bool} (hj : ∀ a, judge a = true ↔ a.IsGone s.deletionTimeout)
    (h : Runs (network s m) t (.ok deleted)) :
    ∃ y, Records judge t {} y ∧ deleted = y.allSucceeded ∧
      summaries t = if deleted then [] else
        [">> could not delete network resources: " ++ ", ".intercalate y.failed] := by
  obtain ⟨y, t₁, t₂, rfl, h₁, h₂⟩ := runs_bind_ok_iff.1 h
  have records : Records judge t₁ {} y := Records.foldlM (records_interface hj) h₁
  have before : summaries t₁ = [] := summaries_of_aside (Within.foldlM (aside_interface s) _ _) h₁
  rw [summaries_append, before, List.nil_append]
  cases all : y.allSucceeded with
  | true =>
    rw [all] at h₂
    obtain ⟨rfl, ho⟩ := h₂
    cases ho
    rw [List.append_nil]
    exact ⟨y, records, all.symm, rfl⟩
  | false =>
    rw [all] at h₂
    obtain ⟨t₃, rfl, rfl, ho⟩ := runs_log_bind_iff.1 h₂
    cases ho
    exact ⟨y, records.append (Records.silent rfl rfl rfl y).after_log, all.symm, rfl⟩

theorem summaries_of_fault (h : Runs (network s m) t (.error e)) : summaries t = [] := by
  rcases runs_bind_iff.1 h with ⟨_, _, h₁⟩ | ⟨y, _, t₂, _, _, h₂⟩
  · exact summaries_of_aside (Within.foldlM (aside_interface s) _ _) h₁
  · cases all : y.allSucceeded with
    | true =>
      rw [all] at h₂
      cases h₂.2
    | false =>
      rw [all] at h₂
      obtain ⟨_, _, _, ho⟩ := runs_log_bind_iff.1 h₂
      cases ho

theorem deletions_network (h : Runs (network s m) t (.ok deleted)) :
    deletions t =
      (Plan.interfaces (m.interfaces.map Reference.target) .done).deletions ((readings t).map Reading.object) := by
  have follows : Follows (Plan.interfaces (m.interfaces.map Reference.target) .done)
      (network s m >>= Program.done) := follows_network Follows.done
  rw [bind_done] at follows
  exact (follows.whole (Plan.spaced_interfaces trivial) h).1

/-- The step asks for the deletion of every interface and of every public address of those that were found, and
succeeds exactly if each of these deletions left its resource gone. Otherwise it says so in one line that names all
the others in order, and it says nothing like that in any other case. -/
theorem network_reports_failures (w : World σ) (st : σ) (s : Settings) (m : Machine) :
    let r := (network s m).run w st
    match r.outcome with
    | .error _ => summaries r.trace = []
    | .ok deleted => ∃ judge : Asked → Bool, (∀ a, judge a = true ↔ a.IsGone s.deletionTimeout) ∧
        deletions r.trace = (Plan.interfaces (m.interfaces.map Reference.target) .done).deletions
          ((readings r.trace).map Reading.object) ∧
        (deletions r.trace = (asked r.trace).map Asked.deletion ∧
          ∀ a ∈ asked r.trace, a.kind = .nic ∨ a.kind = .publicIp) ∧
        (deleted = true ↔ ∀ a ∈ asked r.trace, a.IsGone s.deletionTimeout) ∧
        summaries r.trace = if deleted then [] else
          [">> could not delete network resources: " ++
            ", ".intercalate (((asked r.trace).filter fun a => !judge a).map Asked.entry)] := by
  intro r
  have h : Runs (network s m) r.trace r.outcome := runs_run w _ st
  cases result : r.outcome with
  | error e =>
    rw [result] at h
    exact summaries_of_fault h
  | ok deleted =>
    rw [result] at h
    classical
    let judge (a : Asked) : Bool := decide (a.IsGone s.deletionTimeout)
    have hj (a : Asked) : judge a = true ↔ a.IsGone s.deletionTimeout := decide_eq_true_iff
    obtain ⟨y, records, verdict, summary⟩ := runs_network hj h
    refine ⟨judge, hj, deletions_network h, ⟨records.deleted, records.kinds⟩, ?_, ?_⟩
    · rw [verdict, records.allSucceeded_eq, List.all_eq_true]
      simp only [hj]
    · rw [summary, records.failed_eq]

end Cleanup

end NodeReclaim
