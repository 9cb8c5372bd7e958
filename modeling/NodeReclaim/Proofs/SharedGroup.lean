import NodeReclaim.Proofs.Confirmation
import NodeReclaim.Proofs.Plan
import NodeReclaim.Proofs.SharedUse

/-! Reclaiming the security group of a group of machines. Whatever goes wrong on the way is contained and
counts as a failure, and nothing that went wrong counts as a deletion: the result is positive exactly if the
group was found without users and the provider said that it is gone. -/
namespace NodeReclaim

namespace Exchange

def requested? : Exchange → Option (Kind × Target × Except Fault (Option Ticket))
  | ⟨.beginDelete kind target _, reply⟩ => some (kind, target, reply)
  | _ => none

def isAfterwards (x : Exchange) : Bool :=
  match x.request with
  | .wait .. | .isDone _ | .status _ => true
  | _ => false

end Exchange

def requests (t : List Exchange) : List (Kind × Target × Except Fault (Option Ticket)) :=
  t.filterMap Exchange.requested?

def followUps (t : List Exchange) : List Exchange := t.filter Exchange.isAfterwards

section
variable (t₁ t₂ t : List Exchange)

@[simp] theorem requests_append : requests (t₁ ++ t₂) = requests t₁ ++ requests t₂ :=
  List.filterMap_append

@[simp] theorem followUps_append : followUps (t₁ ++ t₂) = followUps t₁ ++ followUps t₂ :=
  List.filter_append ..

theorem requests_foreign : (foreign t).filterMap Exchange.requested? = requests t :=
  filterMap_foreign (fun ⟨r, _⟩ hx => by cases r <;> first | rfl | cases hx) t

theorem followUps_foreign : (foreign t).filter Exchange.isAfterwards = followUps t := by
  rw [foreign, List.filter_filter]
  apply List.filter_congr
  rintro ⟨r, x⟩ _
  cases r <;> rfl

end

namespace Access
open Program Confirmation

theorem followUps_confirm (h : Runs (confirm s job) t o) : followUps t = foreign t := by
  have asked := (within_confirm s job).of_runs h
  apply List.filter_congr
  rintro ⟨r, x⟩ hx
  have ha : isFollowUp r := asked _ hx
  cases r <;> first | rfl | cases ha

theorem requests_confirm (h : Runs (confirm s job) t o) : requests t = [] :=
  (within_confirm s job).filterMap_eq_nil (fun r _ hr => by cases r <;> first | rfl | cases hr) h

/-- After such an answer to a request for a deletion the resource is gone: at once, because it was gone
before, or by what was asked about the operation. -/
def IsGone (timeout : Value) (reply : Except Fault (Option Ticket)) (calls : List Exchange) : Prop :=
  match reply with
  | .ok none => True
  | .ok (some ticket) => SaysGone timeout ticket calls
  | .error f => f.isNotFound = true

theorem gone_of_confirm (hj : jobOf kind target reply = .ok job) (h : Runs (confirm s job) t o) :
    o = .ok true ↔ IsGone s.deletionTimeout reply (foreign t) := by
  rcases reply with f | _ | ticket
  · dsimp only [jobOf] at hj
    split at hj
    next gone =>
      cases hj
      exact iff_of_true h.2 gone
    · cases hj
  · cases hj
    exact iff_of_true h.2 trivial
  · cases hj
    change Runs (Job.confirmTicket s.deletionTimeout ticket _) t o at h
    rw [confirmTicket_eq] at h
    obtain ⟨answer, rest, rfl, h'⟩ := runs_ask_bind_iff.1 h
    exact (goes_of_judged h').gone_iff

/-- A deletion that is asked for and confirmed returns that the resource is gone exactly if it is. -/
theorem gone_of_deleteConfirmed (h : Runs (beginDelete s kind target >>= confirm s) t o) :
    ∃ reply, requests t = [(kind, target, reply)] ∧
      (o = .ok true ↔ IsGone s.deletionTimeout reply (followUps t)) := by
  have views {asking reply} (hf : foreign asking = [begun s kind target reply]) :
      requests asking = [(kind, target, reply)] ∧ followUps asking = [] := by
    rw [← requests_foreign, ← followUps_foreign, hf]
    exact ⟨rfl, rfl⟩
  rcases runs_bind_iff.1 h with ⟨e, rfl, h₁⟩ | ⟨job, t₁, t₂, rfl, h₁, h₂⟩
  · obtain ⟨reply, hf, hj⟩ := runs_beginDelete h₁
    refine ⟨reply, (views hf).1, iff_of_false nofun ?_⟩
    rcases reply with f | _ | ticket
    · intro gone
      have found : f.isNotFound = true := gone
      rw [jobOf, if_pos found] at hj
      cases hj
    · cases hj
    · cases hj
  · obtain ⟨reply, hf, hj⟩ := runs_beginDelete h₁
    obtain ⟨asked, silent⟩ := views hf
    refine ⟨reply, ?_, ?_⟩
    · rw [requests_append, asked, requests_confirm h₂, List.append_nil]
    · rw [followUps_append, silent, followUps_confirm h₂, List.nil_append]
      exact gone_of_confirm hj.symm h₂

theorem views_of_object (h : Runs (object s kind target) t o) :
    deletions t = [] ∧ requests t = [] ∧ followUps t = [] := by
  obtain ⟨replies, hf, _⟩ := runs_object h
  rw [← deletions_foreign, ← requests_foreign, ← followUps_foreign, hf]
  simp [got, Exchange.deletion?, Exchange.requested?, Exchange.isAfterwards]

end Access

/-! ### Names of groups -/

/-- A text that can name a group of machines: between blanks, one or more Latin letters, digits, underscores,
full stops and hyphens. -/
def IsGroupName (group : String) : Prop :=
  Text.trim group.toList ≠ [] ∧
    ∀ c ∈ Text.trim group.toList, c.isAlphanum ∨ c = '_' ∨ c = '.' ∨ c = '-'

theorem Naming.isGroupChar_iff (c : Char) :
    isGroupChar c = true ↔ c.isAlphanum ∨ c = '_' ∨ c = '.' ∨ c = '-' := by
  have latin : c.isAlphanum ↔ (0x61 ≤ c.toNat ∧ c.toNat ≤ 0x7A) ∨ (0x41 ≤ c.toNat ∧ c.toNat ≤ 0x5A) ∨
      (0x30 ≤ c.toNat ∧ c.toNat ≤ 0x39) := by
    have spelled : c.isAlphanum = (decide (c.val ≥ 'A'.val ∧ c.val ≤ 'Z'.val) ||
        decide (c.val ≥ 'a'.val) && decide (c.val ≤ 'z'.val) ||
        decide (c.val ≥ '0'.val) && decide (c.val ≤ '9'.val)) := rfl
    simp only [spelled, Bool.or_eq_true, Bool.and_eq_true, decide_eq_true_eq, UInt32.le_iff_toNat_le, ge_iff_le,
      or_assoc]
    exact or_left_comm
  simp only [latin, isGroupChar, Bool.or_eq_true, Bool.and_eq_true, decide_eq_true_eq, or_assoc]

theorem Naming.groupOf_ok_iff (group : String) : (∃ g, groupOf group = .ok g) ↔ IsGroupName group := by
  unfold groupOf IsGroupName
  simp only [← isGroupChar_iff, ← List.all_eq_true, ← List.isEmpty_iff, ne_eq]
  cases (Text.trim group.toList).isEmpty <;> cases (Text.trim group.toList).all isGroupChar <;> simp

namespace Cleanup
open Program Access

theorem isGroupName_of_sharedName (h : sharedName s levels (.text group) = .ok name) : IsGroupName group := by
  apply (Naming.groupOf_ok_iff group).1
  obtain ⟨g, hg, _⟩ := ok_of_bind h
  cases ho : Naming.groupOf group with
  | ok g => exact ⟨g, rfl⟩
  | error e =>
    rw [groupOf, ho] at hg
    cases hg

/-- The group was read and found without users, its deletion was asked for once, and it is gone. -/
def Reclaims (s : Settings) (target : Target) (t : List Exchange) : Prop :=
  ∃ r g reply, (readings t).getLast? = some r ∧ r.place = (.securityGroup, target) ∧
    SecurityGroup.ofObject r.object = .ok g ∧ g.isInUse = false ∧
    requests t = [(.securityGroup, target, reply)] ∧
    IsGone s.deletionTimeout reply (followUps t)

/-- Where an attempt is granted, the group is asked for; and a condition holds if the first answer shows it without
users. -/
def Asks (s : Settings) (target : Target) (t : List Exchange) (condition : Prop) : Prop :=
  ∀ left, Retry.granted s.retryAttempts = .ok (left + 1) →
    ∃ reply rest, foreign t = got .securityGroup target reply :: rest ∧
      ∀ v g, reply = .ok v → SecurityGroup.ofObject v = .ok g → g.isInUse = false → condition

theorem Asks.mono (h : Asks s target t p) (hpq : p → q) : Asks s target t q := by
  intro left granted
  obtain ⟨reply, rest, first, prompt⟩ := h left granted
  exact ⟨reply, rest, first, fun v g answered found free => hpq (prompt v g answered found free)⟩

theorem Asks.append (h : Asks s target t₁ p) : Asks s target (t₁ ++ t₂) p := by
  intro left granted
  obtain ⟨reply, rest, first, prompt⟩ := h left granted
  exact ⟨reply, rest ++ foreign t₂, by rw [foreign_append, first, List.cons_append], prompt⟩

theorem asks_of_object (h : Runs (object s .securityGroup target) t o) :
    Asks s target t (∃ v g, o = .ok v ∧ SecurityGroup.ofObject v = .ok g ∧ g.isInUse = false) := by
  intro left granted
  obtain ⟨reply, rest, first, prompt⟩ := runs_object_first granted h
  exact ⟨reply, rest, first, fun v g answered found free => ⟨v, g, prompt v answered, found, free⟩⟩

/-- A run of the cleanup before its fault is contained, once the name is known: either nothing is deleted, or
the group is read, found without users and deleted. -/
inductive Attempts (s : Settings) (target : Target) (t : List Exchange) (o : Except Fault Bool) : Prop
  | leaves (asks : Asks s target t False) (hd : deletions t = []) (hr : requests t = []) (ho : o ≠ .ok true)
  | deletes (r : Reading) (g : SecurityGroup) (reply : Except Fault (Option Ticket))
      (hr : (readings t).getLast? = some r) (place : r.place = (.securityGroup, target))
      (hg : SecurityGroup.ofObject r.object = .ok g) (free : g.isInUse = false)
      (hd : deletions t = [.resource .securityGroup target])
      (asks : Asks s target t True) (asked : requests t = [(.securityGroup, target, reply)])
      (ho : o = .ok true ↔ IsGone s.deletionTimeout reply (followUps t))

theorem attempts_of_unguarded (hn : sharedName s levels (.text group) = .ok name)
    (h : Runs (unguardedSecurityGroup s levels home (.text group)) t o) :
    Attempts s ⟨home, .text name⟩ t o := by
  rw [unguardedSecurityGroup, hn] at h
  have reading := runs_bind_iff (p := securityGroup? s ⟨home, .text name⟩) |>.1 h
  rcases reading with ⟨e, rfl, h₁⟩ | ⟨found, t₁, t₂, rfl, h₁, h₂⟩
  · obtain ⟨_, hr, hs⟩ := runs_snapshot?_iff.1 h₁
    obtain ⟨hd, ha, _⟩ := views_of_object hr
    refine .leaves ((asks_of_object hr).mono ?_) hd ha (by simp)
    rintro ⟨v, g, rfl, hg, -⟩
    obtain ⟨m, failed⟩ := snapshotOf_error hs.symm
    cases hg.symm.trans failed
  obtain ⟨_, hr, hs⟩ := runs_snapshot?_iff.1 h₁
  obtain ⟨v, rfl, snapshot⟩ := ok_of_bind hs.symm
  obtain ⟨hd, ha, hf⟩ := views_of_object hr
  have left (taken : ∀ g, SecurityGroup.ofObject v = .ok g → g.isInUse = true) :
      Attempts s ⟨home, .text name⟩ (t₁ ++ []) (.ok false) := by
    rw [List.append_nil]
    refine .leaves ((asks_of_object hr).mono ?_) hd ha (by simp)
    rintro ⟨_, g, same, hg, free⟩
    cases same
    cases free.symm.trans (taken g hg)
  -- Nothing was found, or something in use, or a group that goes.
  rcases snapshotOf_ok snapshot with ⟨rfl, rfl⟩ | ⟨_, g, hg, rfl⟩
  · obtain ⟨rfl, rfl⟩ := h₂
    refine left fun g hg => ?_
    cases hg
  dsimp only at h₂
  cases used : g.isInUse with
  | true =>
    rw [used, if_pos rfl] at h₂
    obtain ⟨rfl, rfl⟩ := h₂
    refine left fun g' hg' => ?_
    cases hg.symm.trans hg'
    exact used
  | false =>
    rw [used, if_neg (by decide)] at h₂
    obtain ⟨t₃, logged, h₃⟩ := runs_log_bind_iff.1 h₂
    obtain ⟨reply, asked, gone⟩ := gone_of_deleteConfirmed h₃
    have step : steps t₂ = [.delete (.resource .securityGroup ⟨home, .text name⟩)] := by
      have deleted := steps_of_deleteConfirmed h₃
      rw [logged]
      exact deleted
    obtain ⟨replies, read, last⟩ := steps_of_object hr
    obtain ⟨rs, answer, rfl, object⟩ := last v rfl
    have settled : readings (t₁ ++ t₂) = [⟨.securityGroup, ⟨home, .text name⟩, answer⟩] := by
      rw [readings, steps_append, read, step, Plan.settled_reads rfl]
      rfl
    apply Attempts.deletes ⟨.securityGroup, ⟨home, .text name⟩, answer⟩ g reply
    · rw [settled]
      rfl
    · rfl
    · rwa [object]
    · exact used
    · rw [deletions_append, hd, ← deletions_steps, step]
      rfl
    · exact ((asks_of_object hr).mono fun _ => trivial).append
    · rw [requests_append, ha, logged]
      exact asked
    · rw [followUps_append, hf, logged]
      exact gone

/-- What is said of a reclamation is true. It ends with a result, which is positive exactly if the name is proper
and the group of that name was found without users and is gone; and it asks for no deletion but that one, which it
does ask for if an attempt is granted and the first answer shows the group without users. -/
structure IsTruthful (s : Settings) (levels : Nat) (home : Value) (group : String) (t : List Exchange)
    (o : Except Fault Bool) : Prop where
  contained : ∃ deleted, o = .ok deleted
  reclaimed : o = .ok true ↔ IsGroupName group ∧
    ∃ name, sharedName s levels (.text group) = .ok name ∧ Reclaims s ⟨home, .text name⟩ t
  unnamed : ¬ IsGroupName group → foreign t = []
  spared : ∀ r, (readings t).getLast? = some r →
    r.object = .null ∨ (∃ g, SecurityGroup.ofObject r.object = .ok g ∧ g.isInUse = true) →
    deletions t = []
  aimed : deletions t = [] ∨ ∃ name, sharedName s levels (.text group) = .ok name ∧
    deletions t = [.resource .securityGroup ⟨home, .text name⟩]
  acts : ∀ name, sharedName s levels (.text group) = .ok name →
    Asks s ⟨home, .text name⟩ t (deletions t = [.resource .securityGroup ⟨home, .text name⟩])

theorem Attempts.append_silent (h : Attempts s target t₁ o) (silent : foreign t₂ = []) :
    Attempts s target (t₁ ++ t₂) o := by
  have same : foreign (t₁ ++ t₂) = foreign t₁ := by rw [foreign_append, silent, List.append_nil]
  have hd : deletions (t₁ ++ t₂) = deletions t₁ := by
    rw [← deletions_foreign, same, deletions_foreign]
  have ha : requests (t₁ ++ t₂) = requests t₁ := by rw [← requests_foreign, same, requests_foreign]
  have hf : followUps (t₁ ++ t₂) = followUps t₁ := by
    rw [← followUps_foreign, same, followUps_foreign]
  have hr : readings (t₁ ++ t₂) = readings t₁ := by
    rw [readings, ← steps_foreign, same, steps_foreign, readings]
  cases h with
  | leaves asks left unasked ho => exact .leaves asks.append (by rw [hd, left]) (by rw [ha, unasked]) ho
  | deletes r g reply last place hg free deleted asks asked ho =>
    exact .deletes r g reply (by rw [hr, last]) place hg free (by rw [hd, deleted]) asks.append (by rw [ha, asked])
      (by rw [hf, ho])

theorem Attempts.isTruthful (hn : sharedName s levels (.text group) = .ok name)
    (h : Attempts s ⟨home, .text name⟩ t o) : IsTruthful s levels home group t (.ok (succeeded o)) := by
  have named : IsGroupName group := isGroupName_of_sharedName hn
  have positive : (.ok (succeeded o) : Except Fault Bool) = .ok true ↔ o = .ok true := by
    rcases o with f | _ | _ <;> simp [succeeded]
  have only {name'} (hn' : sharedName s levels (.text group) = .ok name') : name' = name :=
    Except.ok.inj (hn'.symm.trans hn)
  cases h with
  | leaves asks hd hr ho =>
    refine ⟨⟨_, rfl⟩, iff_of_false (mt positive.1 ho) ?_, absurd named, fun _ _ _ => hd, .inl hd, ?_⟩
    · rintro ⟨_, _, _, _, _, _, _, _, _, _, asked, _⟩
      rw [hr] at asked
      cases asked
    · intro name' hn'
      rw [only hn']
      exact asks.mono False.elim
  | deletes r g reply last place hg free hd asks asked ho =>
    refine ⟨⟨_, rfl⟩, positive.trans (ho.trans ⟨?_, ?_⟩), absurd named, ?_, .inr ⟨name, hn, hd⟩, ?_⟩
    · intro gone
      exact ⟨named, name, hn, r, g, reply, last, place, hg, free, asked, gone⟩
    · rintro ⟨_, _, _, _, _, reply', _, _, _, _, asked', gone⟩
      rw [asked] at asked'
      cases asked'
      exact gone
    · rintro r' last' spared
      cases last.symm.trans last'
      rcases spared with absent | ⟨g', hg', used⟩
      · rw [absent] at hg
        cases hg
      · cases hg.symm.trans hg'
        cases free.symm.trans used
    · intro name' hn'
      rw [only hn']
      exact asks.mono fun _ => hd

theorem isTruthful (h : Runs (securityGroup s home (.text group) levels) t o) :
    IsTruthful s levels home group t o := by
  obtain ⟨t₁, t₂, o', rfl, h₁, silent, rfl⟩ := runs_contained h
  cases hn : sharedName s levels (.text group) with
  | error e =>
    rw [unguardedSecurityGroup, hn] at h₁
    obtain ⟨rfl, rfl⟩ := h₁
    have kept : deletions t₂ = [] := by
      rw [← deletions_foreign, silent]
      rfl
    refine ⟨⟨_, rfl⟩, iff_of_false (by simp [succeeded]) ?_, fun _ => silent, fun _ _ _ => kept, .inl kept, ?_⟩
    · rintro ⟨_, name, named, _⟩
      cases hn.symm.trans named
    · intro name named
      cases hn.symm.trans named
  | ok name => exact ((attempts_of_unguarded hn h₁).append_silent silent).isTruthful hn

/-- Whatever the settings are, whatever the group is called and whatever the provider answers. -/
theorem securityGroup_isTruthful (w : World σ) (st : σ) (s : Settings) (levels : Nat) (home : Value)
    (group : String) :
    let r := (securityGroup s home (.text group) levels).run w st
    IsTruthful s levels home group r.trace r.outcome :=
  isTruthful (runs_run w _ st)

end Cleanup

end NodeReclaim
