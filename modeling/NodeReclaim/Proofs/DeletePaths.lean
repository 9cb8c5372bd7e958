import NodeReclaim.Proofs.Confirmation
import NodeReclaim.Proofs.EmptyGroup
import NodeReclaim.Proofs.Tickets
import NodeReclaim.Rehearsal.World

/-! Deletions that the provider finishes later, from the request to the confirmation. Resources and groups are
asked for in two ways and confirmed in two places. They go on alike after every answer but one: for a group
without an operation to wait for there is a job all the same, and its confirmation breaks. -/
namespace NodeReclaim
open Program

/-- An object was found not to have what was needed of it. -/
def Fault.IsMissing : Fault → Prop
  | .misuse (.missing _ _) => True
  | _ => False

/-- The fault that answered a request for a deletion or a question about one, or that of a status that cannot be
written. -/
def Exchange.deletionFault? : Exchange → Option Fault
  | ⟨.beginDelete .., .error f⟩ | ⟨.beginDeleteGroup .., .error f⟩ => some f
  | ⟨.wait .., .error f⟩ => some f
  | ⟨.isDone _, .error f⟩ | ⟨.status _, .error f⟩ | ⟨.status _, .ok (.error f)⟩ => some f
  | _ => none

def deletionFaults (t : List Exchange) : List Fault := t.filterMap Exchange.deletionFault?

def Request.IsAbout (ticket : Ticket) : Request → Prop
  | .wait i _ | .isDone i | .status i => i = ticket
  | .log _ => True
  | _ => False

theorem deletionFaults_foreign (t : List Exchange) :
    deletionFaults (foreign t) = deletionFaults t :=
  filterMap_foreign (fun ⟨r, _⟩ hx => by cases r <;> first | rfl | cases hx) t

/-! ### Faults of a confirmation -/

theorem not_isMissing_of_isProvider (h : f.isProvider = true) : ¬ Fault.IsMissing f := by
  cases f with
  | raised => exact id
  | _ => cases h

theorem not_isMissing_of_fixed {v : Value} (h : v.fixed places = .error m) : ¬ Fault.IsMissing (.misuse m) := by
  unfold Value.fixed at h
  split at h
  · cases h
    exact id
  · split at h
    next a _ =>
      cases a with
      | float x => cases h
      | int n =>
        unfold Number.toFloat at h
        dsimp only at h
        split at h <;> cases h
        exact id
    next =>
      cases h
      exact id

/-- A confirmation ends for want of something exactly if the provider's answer did. -/
theorem Confirmation.Goes.isMissing_iff {asked : List Exchange} (h : Goes timeout ticket label asked ws o) :
    (∃ f, o = .error f ∧ f.IsMissing) ↔ ∃ f ∈ deletionFaults asked, f.IsMissing := by
  cases h with
  | gone hf =>
    simp [deletionFaults, waited, Exchange.deletionFault?,
      not_isMissing_of_isProvider (isProvider_of_isNotFound hf)]
  | refused hf hp =>
    simp [deletionFaults, waited, Exchange.deletionFault?, not_isMissing_of_isProvider hp]
  | unwritten hv hs =>
    simp [deletionFaults, waited, finishedSaid, Exchange.deletionFault?, not_isMissing_of_fixed hs]
  | untold _ hr | unrepeated _ _ hr =>
    rcases hr with rfl | rfl <;>
      simp [deletionFaults, waited, finishedSaid, statusSaid, Exchange.deletionFault?]
  | _ => simp [deletionFaults, waited, finishedSaid, statusSaid, Exchange.deletionFault?]

namespace Access

theorem goes_of_confirm (h : Runs (confirm s (.pending (some ticket) text)) t o) :
    Confirmation.Goes s.deletionTimeout ticket (Job.labelOf text) (foreign t) (Confirmation.warnings t) o := by
  change Runs (Job.confirmTicket s.deletionTimeout ticket _) t o at h
  rw [confirmTicket_eq] at h
  obtain ⟨reply, rest, rfl, h'⟩ := runs_ask_bind_iff.1 h
  exact Confirmation.goes_of_judged h'

inductive Removal where
  | resource (kind : Kind) (target : Target) (later : kind ≠ .availabilitySet)
  | group (name : Value)

namespace Removal

def asked (s : Settings) : Removal → Except Fault (Option Ticket) → Exchange
  | resource kind target _, reply => begun s kind target reply
  | group name, reply => groupBegun s name reply

/-- A removal with its confirmation, which a public address brings along. -/
def confirmed (s : Settings) : Removal → Program Bool
  | resource .publicIp target _ => deletePublicIp s target
  | resource kind target _ => do confirm s (← delete s kind target)
  | group name => do confirm s (← deleteGroup s name)

def isGroup : Removal → Bool
  | resource .. => false
  | group _ => true

def title : Removal → String
  | resource kind target _ => description kind target
  | group name => "deletion of resource group " ++ name.display

def shown : Removal → String
  | resource kind target _ => subject kind target
  | group name => "resource group " ++ name.display

def afterwards (s : Settings) (d : Removal) : Except Fault (Option Ticket) → Program Bool
  | .ok (some ticket) => confirm s (.pending (some ticket) d.title)
  | .ok none => if d.isGroup then .fail (.misuse (.missing "NoneType" "wait")) else pure true
  | .error f => if f.isNotFound then do logDeleted d.shown; pure true else .fail f

theorem runs_gone_confirmed {f : Fault} {entry title : String}
    (h : Runs ((if f.isNotFound then do logDeleted entry; pure (.done title) else .fail f) >>= confirm s) t o) :
    Runs (if f.isNotFound then do logDeleted entry; pure true else .fail f) t o := by
  by_cases found : f.isNotFound
  · rw [if_pos found] at h ⊢
    exact h
  · rw [if_neg found] at h ⊢
    exact h

theorem runs_confirmed {d : Removal} (h : Runs (d.confirmed s) t o) :
    ∃ reply rest, t = d.asked s reply :: rest ∧ Runs (d.afterwards s reply) rest o := by
  cases d with
  | resource kind target later =>
    have shared : confirmed s (.resource kind target later) = beginDelete s kind target >>= confirm s := by
      cases kind <;> first | rfl | exact absurd rfl later
    rw [shared, beginDelete_eq, LawfulMonad.bind_assoc] at h
    obtain ⟨reply, rest, rfl, h'⟩ := runs_ask_bind_iff.1 h
    refine ⟨reply, rest, rfl, ?_⟩
    rcases reply with f | _ | ticket
    · exact runs_gone_confirmed h'
    · exact h'
    · exact h'
  | group name =>
    obtain ⟨reply, rest, rfl, h'⟩ := runs_ask_bind_iff.1 h
    refine ⟨reply, rest, rfl, ?_⟩
    rcases reply with f | _ | ticket
    · exact runs_gone_confirmed h'
    · exact h'
    · exact h'

/-- The way to take an answer to a request for a deletion. Nothing is left to be done when there is no such
resource or no operation, another fault leaves, and an operation is confirmed and nothing else asked about. -/
inductive TakesAnswer (s : Settings) (title : String) :
    Except Fault (Option Ticket) → List Exchange → Except Fault Bool → Prop
  | gone (hf : f.isNotFound = true) (silent : foreign rest = []) : TakesAnswer s title (.error f) rest (.ok true)
  | nothing (silent : foreign rest = []) : TakesAnswer s title (.ok none) rest (.ok true)
  | refused (hf : f.isNotFound = false) : TakesAnswer s title (.error f) [] (.error f)
  | pending (confirmed : Runs (confirm s (.pending (some ticket) title)) rest o) (once : waits rest = [ticket])
      (own : ∀ x ∈ rest, x.request.IsAbout ticket) : TakesAnswer s title (.ok (some ticket)) rest o

/-- The answer that the two ways of asking do not take alike: a group is to be deleted by no operation. -/
structure IsStray (d : Removal) (reply : Except Fault (Option Ticket)) : Prop where
  grouped : d.isGroup = true
  bare : reply = .ok none

/-- What a removal makes of the answer. It takes it as it should, and it lacks nothing that the provider did not
lack, unless the answer is the stray one. -/
structure GoesByAnswer (d : Removal) (s : Settings) (reply : Except Fault (Option Ticket)) (rest : List Exchange)
    (o : Except Fault Bool) : Prop where
  taken : TakesAnswer s d.title reply rest o ↔ ¬ d.IsStray reply
  missing : (∃ f, o = .error f ∧ f.IsMissing) ↔
    d.IsStray reply ∨ ∃ f ∈ deletionFaults (d.asked s reply :: rest), f.IsMissing

theorem takesAnswer_of_afterwards {d : Removal} (h : Runs (d.afterwards s reply) rest o) :
    ¬ d.IsStray reply ∧ TakesAnswer s d.title reply rest o ∨
      d.IsStray reply ∧ o = .error (.misuse (.missing "NoneType" "wait")) := by
  rcases reply with f | _ | ticket
  · refine .inl ⟨fun stray => (nomatch stray.bare), ?_⟩
    unfold afterwards at h
    dsimp only at h
    split at h
    next found =>
      obtain ⟨_, rfl, rfl, rfl⟩ := runs_log_bind_iff.1 h
      exact .gone found rfl
    next found =>
      obtain ⟨rfl, rfl⟩ := h
      exact .refused (Bool.eq_false_iff.2 found)
  · unfold afterwards at h
    dsimp only at h
    split at h
    next grouped => exact .inr ⟨⟨grouped, rfl⟩, h.2⟩
    next single =>
      obtain ⟨rfl, rfl⟩ := h
      exact .inl ⟨fun stray => single stray.grouped, .nothing rfl⟩
  · have own : (confirm s (.pending (some ticket) d.title)).Within (Request.IsAbout ticket) :=
      @within_confirm_of (Request.IsAbout ticket) ticket (fun _ _ => trivial) rfl rfl s rfl _
    exact .inl ⟨fun stray => (nomatch stray.bare), .pending h (waits_confirm h) (own.of_runs h)⟩

theorem deletionFaults_refused (d : Removal) (f : Fault) (rest : List Exchange) :
    deletionFaults (d.asked s (.error f) :: rest) = f :: deletionFaults (foreign rest) := by
  rw [deletionFaults_foreign]
  cases d <;> rfl

theorem deletionFaults_accepted (d : Removal) (ticket : Option Ticket) (rest : List Exchange) :
    deletionFaults (d.asked s (.ok ticket) :: rest) = deletionFaults (foreign rest) := by
  rw [deletionFaults_foreign]
  cases d <;> rfl

theorem TakesAnswer.isMissing_iff (h : TakesAnswer s text reply rest o) (d : Removal) :
    (∃ f, o = .error f ∧ f.IsMissing) ↔ ∃ f ∈ deletionFaults (d.asked s reply :: rest), f.IsMissing := by
  cases h with
  | gone hf silent =>
    have other := not_isMissing_of_isProvider (Confirmation.isProvider_of_isNotFound hf)
    rw [deletionFaults_refused, silent]
    simp [deletionFaults, other]
  | nothing silent =>
    rw [deletionFaults_accepted, silent]
    simp [deletionFaults]
  | refused =>
    rw [deletionFaults_refused]
    simp [deletionFaults, foreign]
  | pending confirmed =>
    rw [deletionFaults_accepted]
    exact (goes_of_confirm confirmed).isMissing_iff

theorem goesByAnswer {d : Removal} (h : Runs (d.confirmed s) t o) :
    ∃ reply rest, t = d.asked s reply :: rest ∧ d.GoesByAnswer s reply rest o := by
  obtain ⟨reply, rest, rfl, h'⟩ := runs_confirmed h
  refine ⟨reply, rest, rfl, ?_⟩
  rcases takesAnswer_of_afterwards h' with ⟨usual, taken⟩ | ⟨stray, rfl⟩
  · exact ⟨iff_of_true taken usual, (taken.isMissing_iff d).trans (or_iff_right usual).symm⟩
  · refine ⟨iff_of_false ?_ (not_not_intro stray), iff_of_true ⟨_, rfl, trivial⟩ (.inl stray)⟩
    rw [stray.bare]
    exact nofun

end Removal

/-- A removal goes by the provider's answer. So does the cleanup of a resource group when it comes to that. -/
theorem removals_go_by_answer (w : World σ) (st : σ) (s : Settings) :
    (∀ d : Removal,
      let r := (d.confirmed s).run w st
      ∃ reply rest, r.trace = d.asked s reply :: rest ∧ d.GoesByAnswer s reply rest r.outcome) ∧
      ∀ place,
        let d := Removal.group place
        let r := (Cleanup.resourceGroup s place).run w st
        deletions r.trace = [] ∨
          ∃ before reply rest, deletions before = [] ∧ r.trace = before ++ d.asked s reply :: rest ∧
            d.GoesByAnswer s reply rest r.outcome := by
  refine ⟨fun d => Removal.goesByAnswer (runs_run w _ st), fun place => ?_⟩
  rcases runs_bind_iff.1 (runs_run w (Cleanup.resourceGroup s place) st) with
    ⟨_, _, h⟩ | ⟨ids, reading, t, split, h₁, h₂⟩
  · exact .inl (Cleanup.deletions_of_resources h)
  have nothing : deletions reading = [] := Cleanup.deletions_of_resources h₁
  dsimp only
  rw [split]
  cases ids with
  | nil =>
    obtain ⟨t, rfl, h₃⟩ := runs_log_bind_iff.1 h₂
    have h₄ : Runs ((Removal.group place).confirmed s) t _ := h₃
    obtain ⟨reply, rest, rfl, goes⟩ := Removal.goesByAnswer h₄
    refine .inr ⟨reading ++ [logExchange _ _ _], reply, rest, ?_, List.append_cons .., goes⟩
    rw [deletions_append, nothing]
    rfl
  | cons v ids =>
    obtain ⟨rfl, _⟩ := h₂
    rw [List.append_nil]
    exact .inl nothing

def unattended : Rehearsal.Store where
  groups := [("rg1", [])]
  scripts := [("delete_group rg1", [{ blank := false, nothing := true }])]

theorem unattended_not_taken :
    let d := Removal.group (.text "rg1")
    let r := (d.confirmed plainSettings).run rehearsal unattended
    r.trace = [d.asked plainSettings (.ok none)] ∧
      ¬ Removal.TakesAnswer plainSettings d.title (.ok none) [] r.outcome ∧
      ((Cleanup.resourceGroup plainSettings (.text "rg1")).run rehearsal unattended).outcome =
        .error (.misuse (.missing "NoneType" "wait")) :=
  ⟨rfl, nofun, rfl⟩

end Access

end NodeReclaim
