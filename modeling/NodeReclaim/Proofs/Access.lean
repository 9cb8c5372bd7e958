import NodeReclaim.Access
import NodeReclaim.Proofs.Tries

/-! What the accesses to the provider exchange with it: a read its requests for one object, of which
the last one's answer counts; a deletion one request; a confirmation only what concerns its
ticket. -/
namespace NodeReclaim
open Program

namespace Access

def orAbsent (absent : α) : Except Fault α → Except Fault α
  | .ok a => .ok a
  | .error f => if f.isNotFound then .ok absent else .error f

theorem runs_orIfAbsent_iff {p : Program α} :
    Runs (orIfAbsent p absent) t o ↔ ∃ o', Runs p t o' ∧ o = orAbsent absent o' := by
  have handler (f : Fault) : (if f.isNotFound then pure absent else .fail f : Program α) =
      Program.ofExcept (orAbsent absent (.error f)) := by
    cases h : f.isNotFound <;> simp [orAbsent, h, Program.ofExcept]
  simp only [orIfAbsent, handler, runs_recover_iff, runs_ofExcept_iff]
  constructor
  · rintro (⟨a, rfl, h⟩ | ⟨f, t₁, _, rfl, h₁, rfl, rfl⟩)
    · exact ⟨_, h, rfl⟩
    · rw [List.append_nil]
      exact ⟨_, h₁, rfl⟩
  · rintro ⟨a | f, h, rfl⟩
    · exact .inr ⟨_, t, [], by simp, h, rfl, rfl⟩
    · exact .inl ⟨_, rfl, h⟩

theorem orAbsent_own {absent : α} (h : Retry.isOwn f) :
    orAbsent absent (.error f) = .error f := by
  cases f <;> first | rfl | cases h

def got (kind : Kind) (target : Target) (reply : Except Fault Value) : Exchange :=
  ⟨.get kind target, reply⟩

def listed (group : Value) (listing : Listing) : Exchange := ⟨.list group, listing⟩

/-- How a listing ends: with its ids, unless a fault cut it short. -/
def outcomeOf (listing : Listing) : Except Fault (List Value) :=
  match listing.fault with
  | none => .ok listing.ids
  | some f => .error f

theorem listOnce_eq (group : Value) :
    listOnce group =
      ask (.list group) >>= fun listing => Program.ofExcept (outcomeOf listing) := by
  apply congrArg (ask (.list group) >>= ·)
  funext listing
  unfold outcomeOf
  cases listing.fault <;> rfl

theorem runs_listOnce_iff :
    Runs (listOnce group) t o ↔ ∃ listing, t = [listed group listing] ∧ o = outcomeOf listing := by
  rw [listOnce_eq, runs_ask_bind_iff]
  constructor
  · rintro ⟨listing, _, rfl, h⟩
    obtain ⟨rfl, rfl⟩ := runs_ofExcept_iff.1 h
    exact ⟨listing, rfl, rfl⟩
  · rintro ⟨listing, rfl, rfl⟩
    exact ⟨listing, [], rfl, runs_ofExcept_iff.2 ⟨rfl, rfl⟩⟩

theorem tries_eq_map {operation : Program α} {exchange : ρ → Exchange}
    {outcome : ρ → Except Fault α}
    (once : ∀ t o, Runs operation t o → ∃ x, t = [exchange x] ∧ o = outcome x)
    (tries : List (Retry.Try α)) (h : ∀ x ∈ tries, Runs operation x.trace x.outcome) :
    ∃ replies : List ρ, tries = replies.map fun x => ⟨[exchange x], outcome x⟩ := by
  induction tries with
  | nil => exact ⟨[], rfl⟩
  | cons y rest ih =>
    obtain ⟨replies, rfl⟩ := ih fun x hx => h x (List.mem_cons_of_mem _ hx)
    obtain ⟨x, ht, ho⟩ := once _ _ (h y List.mem_cons_self)
    refine ⟨x :: replies, ?_⟩
    rw [List.map_cons, ← ht, ← ho]

/-- A read shows one exchange a try, and the last one's outcome decides unless the loop fails on its
own. -/
theorem runs_read {operation : Program α} {exchange : ρ → Exchange} {outcome : ρ → Except Fault α}
    (once : ∀ t o, Runs operation t o → ∃ x, t = [exchange x] ∧ o = outcome x)
    (seen : ∀ x, (exchange x).isLocal = false)
    (h : Runs (orIfAbsent (Retry.retrying p name operation) absent) t o) :
    ∃ replies : List ρ, foreign t = replies.map exchange ∧
      (replies.getLast?.map (fun x => orAbsent absent (outcome x)) = some o ∨
        ∃ f, o = .error f ∧ Retry.isOwn f) := by
  obtain ⟨o', h', rfl⟩ := runs_orIfAbsent_iff.1 h
  obtain ⟨tries, tried⟩ := Retry.runs_retrying h'
  obtain ⟨replies, rfl⟩ := tries_eq_map once tries tried.runs
  refine ⟨replies, ?_, ?_⟩
  · rw [tried.seen, List.flatMap_map]
    simp [foreign, seen, List.map_eq_flatMap]
  · rcases tried.ending with hl | ⟨f, rfl, hf⟩
    · left
      rw [List.getLast?_map, Option.map_map] at hl
      obtain ⟨x, hx, rfl⟩ := Option.map_eq_some_iff.1 hl
      rw [hx]
      rfl
    · exact .inr ⟨f, orAbsent_own hf, hf⟩

theorem runs_get_iff : Runs (require (.get kind target) rfl) t o ↔
    ∃ reply : Except Fault Value, t = [got kind target reply] ∧ o = reply :=
  runs_require_iff (r := .get kind target) (h := rfl)

theorem runs_object (h : Runs (object s kind target) t o) :
    ∃ replies : List (Except Fault Value), foreign t = replies.map (got kind target) ∧
      (replies.getLast?.map (orAbsent .null) = some o ∨ ∃ f, o = .error f ∧ Retry.isOwn f) :=
  runs_read (fun _ _ h => runs_get_iff.1 h) (fun _ => rfl) h

/-- A read that is granted an attempt makes one, and an object that comes at once is what it returns. -/
theorem runs_object_first {left : Nat} (hg : Retry.granted s.retryAttempts = .ok (left + 1))
    (h : Runs (object s kind target) t o) :
    ∃ reply rest, foreign t = got kind target reply :: rest ∧ ∀ v, reply = .ok v → o = .ok v := by
  obtain ⟨o', h', rfl⟩ := runs_orIfAbsent_iff.1 h
  unfold Retry.retrying at h'
  rw [show Retry.granted (policy s).attempts = .ok (left + 1) from hg, misuse_ok, done_bind] at h'
  obtain ⟨reply, t₁, t₂, rfl, h₁, h₂⟩ := runs_attempt_bind_iff.1 h'
  obtain ⟨_, rfl, rfl⟩ := runs_get_iff.1 h₁
  refine ⟨reply, foreign t₂, rfl, ?_⟩
  rintro v rfl
  obtain ⟨rfl, rfl⟩ := h₂
  rfl

theorem runs_resources (h : Runs (resources s group) t o) :
    ∃ replies : List Listing, foreign t = replies.map (listed group) ∧
      (replies.getLast?.map (fun x => orAbsent [] (outcomeOf x)) = some o ∨
        ∃ f, o = .error f ∧ Retry.isOwn f) :=
  runs_read (fun _ _ h => runs_listOnce_iff.1 h) (fun _ => rfl) h

def snapshotOf (ofObject : Value → Except Misuse α) : Value → Except Fault (Option α)
  | .null => .ok none
  | v => ((ofObject v).mapError .misuse).map some

theorem snapshotOf_ok {ofObject : Value → Except Misuse α} (h : snapshotOf ofObject v = .ok found) :
    (v = .null ∧ found = none) ∨ (v ≠ .null ∧ ∃ a, ofObject v = .ok a ∧ found = some a) := by
  have some_ok {m : Except Misuse α} (h : (m.mapError Fault.misuse).map some = .ok found) :
      ∃ a, m = .ok a ∧ found = some a := by
    cases m <;> cases h
    exact ⟨_, rfl, rfl⟩
  cases v with
  | null =>
    cases h
    exact .inl ⟨rfl, rfl⟩
  | _ => exact .inr ⟨nofun, some_ok h⟩

theorem snapshotOf_error {ofObject : Value → Except Misuse α}
    (h : snapshotOf ofObject v = .error e) : ∃ m, ofObject v = .error m := by
  have some_error {m : Except Misuse α} (h : (m.mapError Fault.misuse).map some = .error e) :
      ∃ m', m = .error m' := by
    cases m <;> cases h
    exact ⟨_, rfl⟩
  cases v with
  | null => cases h
  | _ => exact some_error h

theorem runs_snapshot?_iff {ofObject : Value → Except Misuse α} :
    Runs (snapshot? s kind target ofObject) t o ↔
      ∃ o', Runs (object s kind target) t o' ∧ o = o' >>= snapshotOf ofObject := by
  have some_eq (m : Except Misuse α) : (misuse m >>= fun a => pure (some a)) =
      Program.ofExcept ((m.mapError .misuse).map some) := by
    cases m <;> rfl
  have h : snapshot? s kind target ofObject =
      object s kind target >>= fun v => Program.ofExcept (snapshotOf ofObject v) := by
    apply congrArg (object s kind target >>= ·)
    funext v
    cases v with
    | null => rfl
    | _ => exact some_eq _
  rw [h, runs_bind_ofExcept_iff]

/-- The job that a provider's answer to a deletion makes. -/
def jobOf (kind : Kind) (target : Target) : Except Fault (Option Ticket) → Except Fault Job
  | .ok (some ticket) => .ok (.pending ticket (description kind target))
  | .ok none => .ok (.done (description kind target))
  | .error f => if f.isNotFound then .ok (.done (description kind target)) else .error f

def begun (s : Settings) (kind : Kind) (target : Target) (reply : Except Fault (Option Ticket)) :
    Exchange :=
  ⟨.beginDelete kind target s.pollingInterval, reply⟩

def deletedNow (kind : Kind) (target : Target) (reply : Except Fault Unit) : Exchange :=
  ⟨.delete kind target, reply⟩

theorem delete_of_both {motive : Program Job → Prop} (now : motive (deleteNow kind target))
    (later : motive (beginDelete s kind target)) : motive (delete s kind target) := by
  cases kind with
  | availabilitySet => exact now
  | _ => exact later

theorem runs_gone {job : Job}
    (h : Runs (if f.isNotFound then do logDeleted text; pure job else .fail f) t o) :
    foreign t = [] ∧ o = if f.isNotFound then .ok job else .error f := by
  by_cases hf : f.isNotFound
  · rw [if_pos hf] at h ⊢
    obtain ⟨_, rfl, rfl, rfl⟩ := runs_log_bind_iff.1 h
    exact ⟨rfl, rfl⟩
  · rw [if_neg hf] at h ⊢
    obtain ⟨rfl, rfl⟩ := h
    exact ⟨rfl, rfl⟩

theorem runs_beginDelete (h : Runs (beginDelete s kind target) t o) :
    ∃ reply, foreign t = [begun s kind target reply] ∧ o = jobOf kind target reply := by
  obtain ⟨reply, rest, rfl, h'⟩ := runs_ask_bind_iff.1 h
  refine ⟨reply, ?_⟩
  rcases reply with f | _ | ticket
  · obtain ⟨hr, rfl⟩ := runs_gone h'
    exact ⟨congrArg (begun s kind target _ :: ·) hr, rfl⟩
  · obtain ⟨rfl, rfl⟩ := h'
    exact ⟨rfl, rfl⟩
  · obtain ⟨rfl, rfl⟩ := h'
    exact ⟨rfl, rfl⟩

theorem runs_deleteNow (h : Runs (deleteNow kind target) t o) :
    ∃ reply, foreign t = [deletedNow kind target reply] ∧
      o = jobOf kind target (reply.map fun _ => none) := by
  obtain ⟨reply, rest, rfl, h'⟩ := runs_ask_bind_iff.1 h
  refine ⟨reply, ?_⟩
  rcases reply with f | _
  · obtain ⟨hr, rfl⟩ := runs_gone h'
    exact ⟨congrArg (deletedNow kind target _ :: ·) hr, rfl⟩
  · obtain ⟨rfl, rfl⟩ := h'
    exact ⟨rfl, rfl⟩

def groupBegun (s : Settings) (group : Value) (reply : Except Fault (Option Ticket)) : Exchange :=
  ⟨.beginDeleteGroup group s.pollingInterval, reply⟩

theorem runs_deleteGroup (h : Runs (deleteGroup s group) t o) :
    ∃ reply, foreign t = [groupBegun s group reply] := by
  obtain ⟨reply, rest, rfl, h'⟩ := runs_ask_bind_iff.1 h
  refine ⟨reply, ?_⟩
  rcases reply with f | ticket
  · exact congrArg (groupBegun s group _ :: ·) (runs_gone h').1
  · obtain ⟨rfl, rfl⟩ := h'
    rfl

/-! ### Confirmations -/

def isInquiry : Request → Prop
  | .isDone _ | .status _ | .log _ => True
  | _ => False

def isFollowUp : Request → Prop
  | .wait .. => True
  | r => isInquiry r

def judged (timeout : Value) (ticket : Ticket) (label : String) : Except Fault Unit → Program Bool
  | .ok () => Job.settle timeout ticket label
  | .error f =>
    if f.isNotFound then do
      .log .debug .deletion (label ++ ": resource already gone")
      pure true
    else if f.isProvider then do
      .log .warning .deletion (label ++ " failed: " ++ f.message)
      pure false
    else .fail f

theorem confirmTicket_eq (timeout : Value) (ticket : Ticket) (label : String) :
    Job.confirmTicket timeout ticket label =
      ask (.wait ticket timeout) >>= judged timeout ticket label := by
  apply congrArg (ask (.wait ticket timeout) >>= ·)
  funext reply
  cases reply <;> rfl

section
variable {allowed : Request → Prop} {ticket : Ticket} (logs : ∀ e, e.area = .deletion → allowed (.log e))
  (isDone : allowed (.isDone ticket)) (status : allowed (.status ticket))
include logs isDone status

theorem within_settle_of (timeout : Value) (label : String) :
    (Job.settle timeout ticket label).Within allowed := by
  have told : (Job.statusText ticket).Within allowed :=
    .bind (within_require status) fun _ => within_ofExcept _
  apply Within.bind (within_require isDone)
  intro finished
  split
  · exact .bind (within_ofExcept _) fun _ => .bind (within_ask (logs _ rfl)) fun _ => trivial
  · apply told.bind
    intro found
    split
    · trivial
    · exact told.bind fun _ => .bind (within_ask (logs _ rfl)) fun _ => trivial

theorem within_judged_of (timeout : Value) (label : String) (reply : Except Fault Unit) :
    (judged timeout ticket label reply).Within allowed := by
  rcases reply with f | _
  · unfold judged
    dsimp only
    split
    · exact .bind (within_ask (logs _ rfl)) fun _ => trivial
    · split
      · exact .bind (within_ask (logs _ rfl)) fun _ => trivial
      · trivial
  · exact within_settle_of logs isDone status timeout label

theorem within_confirm_of (s : Settings) (wait : allowed (.wait ticket s.deletionTimeout)) (text : String) :
    (confirm s (.pending (some ticket) text)).Within allowed := by
  change (Job.confirmTicket s.deletionTimeout ticket _).Within allowed
  rw [confirmTicket_eq]
  exact .bind (within_ask wait) fun reply => within_judged_of logs isDone status _ _ reply

end

theorem within_delete_of {allowed : Request → Prop} (logs : ∀ e, e.area = .access → allowed (.log e)) (s : Settings)
    (later : allowed (.beginDelete kind target s.pollingInterval)) (now : allowed (.delete kind target)) :
    (delete s kind target).Within allowed := by
  have forgets (f : Fault) (title : String) (job : Job) :
      (if f.isNotFound then do logDeleted title; pure job else .fail f).Within allowed := by
    split
    · exact .bind (within_ask (logs _ rfl)) fun _ => trivial
    · trivial
  apply delete_of_both
  · apply Within.bind (within_ask now)
    rintro (f | _)
    · exact forgets f _ _
    · trivial
  · apply Within.bind (within_ask later)
    rintro (f | _ | ticket)
    · exact forgets f _ _
    · trivial
    · trivial

theorem within_judged (timeout : Value) (ticket : Ticket) (label : String)
    (reply : Except Fault Unit) : (judged timeout ticket label reply).Within isInquiry :=
  within_judged_of (fun _ _ => trivial) trivial trivial timeout label reply

theorem within_confirm (s : Settings) (job : Job) : (confirm s job).Within isFollowUp := by
  rcases job with _ | ⟨_ | ticket, text⟩
  · trivial
  · trivial
  · exact within_confirm_of (fun _ _ => trivial) trivial trivial s trivial text

/-- A confirmation waits for its ticket, once. -/
theorem waits_confirm (h : Runs (confirm s (.pending (some ticket) text)) t o) :
    waits t = [ticket] := by
  change Runs (Job.confirmTicket s.deletionTimeout ticket _) t o at h
  rw [confirmTicket_eq] at h
  obtain ⟨reply, rest, rfl, h'⟩ := runs_ask_bind_iff.1 h
  have others : waits rest = [] :=
    (within_judged _ ticket _ reply).filterMap_eq_nil
      (fun r _ hr => by cases r <;> first | rfl | cases hr) h'
  exact congrArg (ticket :: ·) others

end Access

/-- Settings for runs that are written out, all amounts whole. -/
def plainSettings : Settings where
  subscription := .text "sub"
  credential := .standard
  deletionTimeout := .int 600
  pollingInterval := .int 15
  ownershipKey := .text "managed-by"
  ownershipValue := .text "azteardown"
  namingLead := .text "azteardown"
  namingDelimiter := .text "-"
  retryAttempts := .int 3
  retryInitialDelay := .int 1
  retryMaxDelay := .int 30

end NodeReclaim
