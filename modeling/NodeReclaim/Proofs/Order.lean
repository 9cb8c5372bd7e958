import Mathlib.Computability.Language
import NodeReclaim.Proofs.Closure

/-! The order of a cleanup. What a run asks of the provider is a word of a language that says what comes
after what: the machine first, then one interface after the other, each read before it is deleted and
deleted before its public addresses, then all requests for disks, then all waits for them, and the
availability set last. A run that ends with a fault breaks off such a word. -/
namespace NodeReclaim
open Program

/-- What is asked of the provider's services, and the waits for its operations. -/
def Exchange.isCall (x : Exchange) : Bool :=
  match x.request with
  | .get .. | .list _ | .beginDelete .. | .delete .. | .beginDeleteGroup .. | .wait .. => true
  | _ => false

def calls (t : List Exchange) : List Exchange := t.filter Exchange.isCall

@[simp] theorem calls_append (t₁ t₂ : List Exchange) : calls (t₁ ++ t₂) = calls t₁ ++ calls t₂ :=
  List.filter_append ..

theorem calls_foreign (t : List Exchange) : calls (foreign t) = calls t := by
  unfold calls foreign
  rw [List.filter_filter]
  apply List.filter_congr
  intro x _
  obtain ⟨r, reply⟩ := x
  cases r <;> rfl

theorem pendings_calls (t : List Exchange) : pendings (calls t) = pendings t := by
  unfold pendings calls
  rw [List.filterMap_filter]
  congr 1
  funext ⟨r, reply⟩
  cases r <;> rfl

def waited (s : Settings) (ticket : Ticket) (answer : Except Fault Unit) : Exchange :=
  ⟨.wait ticket s.deletionTimeout, answer⟩

def ticketOf : Except Fault (Option Ticket) → Option Ticket
  | .ok ticket => ticket
  | .error _ => none

/-! ### The language of cleanups -/

namespace Order

/-- An object is asked for once or more, and the last answer shows what was found, null for nothing. -/
def look (kind : Kind) (target : Target) (found : Value) : Language Exchange :=
  {l | ∃ replies reply, l = (replies ++ [reply]).map (Access.got kind target) ∧
    (Reading.mk kind target reply).object = found}

def lookThen (kind : Kind) (target : Target) (next : Value → Language Exchange) :
    Language Exchange :=
  {l | ∃ found, l ∈ look kind target found * next found}

def request (s : Settings) (kind : Kind) (target : Target) : Language Exchange :=
  {l | ∃ reply, l = [Access.begun s kind target reply]}

def awaited (s : Settings) : Option Ticket → Language Exchange
  | some ticket => {l | ∃ answer, l = [waited s ticket answer]}
  | none => 1

def delete (s : Settings) (kind : Kind) (target : Target) : Language Exchange :=
  {l | ∃ reply, ∃ rest ∈ awaited s (ticketOf reply), l = Access.begun s kind target reply :: rest}

def deleteEach (s : Settings) (kind : Kind) (ids : List String) : Language Exchange :=
  (ids.map fun id => delete s kind (placeOf id)).prod

/-- An interface is read, then deleted, then the public addresses that the read has shown. -/
def interface (s : Settings) (target : Target) : Language Exchange :=
  lookThen .nic target fun nic =>
    delete s .nic target * deleteEach s .publicIp (publicIpIds nic)

/-- All disks are asked to go, and then waits follow, each for one of these deletions. -/
def disks (s : Settings) (targets : List Target) : Language Exchange :=
  {l | ∃ asked waits, l = asked ++ waits ∧ asked ∈ (targets.map (request s .disk)).prod ∧
    ∀ x ∈ waits, ∃ p ∈ pendings asked, ∃ answer, x = waited s p.2 answer}

def availabilitySet (target : Target) : Language Exchange :=
  lookThen .availabilitySet target fun _ =>
    {l | l = [] ∨ ∃ reply, l = [Access.deletedNow .availabilitySet target reply]}

def dependents (s : Settings) (interfaces discs : List Target) (set : Option Target) :
    Language Exchange :=
  (interfaces.map (interface s)).prod * (disks s discs * (set.map availabilitySet).getD 1)

def machine (s : Settings) (group vm : Value) : Language Exchange :=
  delete s .vm ⟨group, vm.field "name"⟩ *
    dependents s ((interfaceIds vm).map placeOf) ((diskIds vm).map placeOf)
      ((availabilitySetId? vm).map placeOf)

def node (s : Settings) (id : NodeId) : Language Exchange :=
  lookThen .vm ⟨.text id.group, .text id.name⟩ fun vm =>
    match vm with
    | .null => 1
    | vm => machine s (.text id.group) vm

/-! A run that breaks off has to be completed to a word, so none of the languages is empty. -/

theorem exists_mem_mul {L M : Language Exchange} (hL : ∃ l, l ∈ L) (hM : ∃ l, l ∈ M) :
    ∃ l, l ∈ L * M := by
  obtain ⟨l, hl⟩ := hL
  obtain ⟨m, hm⟩ := hM
  exact ⟨l ++ m, Language.append_mem_mul hl hm⟩

theorem exists_mem_prod {word : ρ → Language Exchange} (h : ∀ x, ∃ l, l ∈ word x) (xs : List ρ) :
    ∃ l, l ∈ (xs.map word).prod := by
  induction xs with
  | nil => exact ⟨[], rfl⟩
  | cons x xs ih =>
    rw [List.map_cons, List.prod_cons]
    exact exists_mem_mul (h x) ih

theorem exists_mem_lookThen {next : Value → Language Exchange} (h : ∀ v, ∃ l, l ∈ next v) :
    ∃ l, l ∈ lookThen kind target next := by
  have looked : ∃ l, l ∈ look kind target .null := ⟨_, [], .ok .null, rfl, rfl⟩
  obtain ⟨l, hl⟩ := exists_mem_mul looked (h .null)
  exact ⟨l, .null, hl⟩

theorem exists_mem_delete (s : Settings) (kind : Kind) (target : Target) :
    ∃ l, l ∈ delete s kind target :=
  ⟨_, .ok none, [], rfl, rfl⟩

theorem exists_mem_deleteEach (s : Settings) (kind : Kind) (ids : List String) :
    ∃ l, l ∈ deleteEach s kind ids :=
  exists_mem_prod (fun id => exists_mem_delete s kind (placeOf id)) ids

theorem exists_mem_interface (s : Settings) (target : Target) : ∃ l, l ∈ interface s target := by
  apply exists_mem_lookThen
  intro nic
  exact exists_mem_mul (exists_mem_delete ..) (exists_mem_deleteEach ..)

theorem exists_mem_request (s : Settings) (kind : Kind) (target : Target) :
    ∃ l, l ∈ request s kind target :=
  ⟨_, .ok none, rfl⟩

theorem exists_mem_disks (s : Settings) (targets : List Target) : ∃ l, l ∈ disks s targets := by
  obtain ⟨l, hl⟩ := exists_mem_prod (exists_mem_request s .disk) targets
  exact ⟨l, l, [], by simp, hl, by simp⟩

theorem exists_mem_availabilitySet (target : Target) : ∃ l, l ∈ availabilitySet target :=
  exists_mem_lookThen fun _ => ⟨[], .inl rfl⟩

theorem exists_mem_shared (set : Option Target) : ∃ l, l ∈ (set.map availabilitySet).getD 1 := by
  cases set with
  | none => exact ⟨[], rfl⟩
  | some target => exact exists_mem_availabilitySet target

theorem exists_mem_dependents (s : Settings) (interfaces discs : List Target) (set : Option Target) :
    ∃ l, l ∈ dependents s interfaces discs set := by
  apply exists_mem_mul (exists_mem_prod (exists_mem_interface s) interfaces)
  exact exists_mem_mul (exists_mem_disks s discs) (exists_mem_shared set)

theorem exists_mem_machine (s : Settings) (group vm : Value) : ∃ l, l ∈ machine s group vm :=
  exists_mem_mul (exists_mem_delete ..) (exists_mem_dependents ..)

end Order

/-! ### Programs that keep an order -/

namespace Program

/-- The calls of a run are a word of the language when the program returns, and the start of one when it
ends with a fault. -/
def Keeps (L : Language Exchange) (p : Program α) : Prop :=
  ∀ t o, Runs p t o → ∃ rest, calls t ++ rest ∈ L ∧ ∀ a, o = .ok a → rest = []

def isQuiet (r : Request) : Prop := ∀ x, Exchange.isCall ⟨r, x⟩ = false

theorem calls_of_quiet {p : Program α} (hp : p.Within isQuiet) (h : Runs p t o) : calls t = [] := by
  apply List.filter_eq_nil_iff.2
  intro x hx
  rw [hp.of_runs h x hx x.reply]
  decide

namespace Keeps
variable {L M : Language Exchange}

theorem of_word {p : Program α} (h : ∀ t o, Runs p t o → calls t ∈ L) : Keeps L p := by
  intro t o hr
  refine ⟨[], ?_, fun _ _ => rfl⟩
  rw [List.append_nil]
  exact h t o hr

theorem quiet {p : Program α} (hp : p.Within isQuiet) : Keeps 1 p := by
  apply of_word
  intro t o h
  rw [calls_of_quiet hp h]
  exact Language.nil_mem_one

theorem bind {p : Program α} {f : α → Program β} (hp : Keeps L p) (hM : ∃ l, l ∈ M)
    (hf : ∀ a, Keeps M (f a)) : Keeps (L * M) (p >>= f) := by
  intro t o h
  rcases runs_bind_iff.1 h with ⟨e, rfl, h₁⟩ | ⟨a, t₁, t₂, rfl, h₁, h₂⟩
  · obtain ⟨rest, hrest, _⟩ := hp t _ h₁
    obtain ⟨l, hl⟩ := hM
    have word : calls t ++ rest ++ l ∈ L * M := Language.append_mem_mul hrest hl
    rw [List.append_assoc] at word
    exact ⟨rest ++ l, word, fun _ ho => nomatch ho⟩
  · obtain ⟨rest₁, hrest₁, hnil⟩ := hp t₁ _ h₁
    obtain ⟨rest, hrest, ho⟩ := hf a t₂ o h₂
    have first : calls t₁ ∈ L := by
      rw [hnil a rfl, List.append_nil] at hrest₁
      exact hrest₁
    have word : calls t₁ ++ (calls t₂ ++ rest) ∈ L * M := Language.append_mem_mul first hrest
    rw [← List.append_assoc, ← calls_append] at word
    exact ⟨rest, word, ho⟩

theorem after {p : Program α} {f : α → Program β} (hp : p.Within isQuiet) (hL : ∃ l, l ∈ L)
    (hf : ∀ a, Keeps L (f a)) : Keeps L (p >>= f) := by
  have both : Keeps (1 * L) (p >>= f) := bind (quiet hp) hL hf
  rwa [one_mul] at both

theorem followed {p : Program α} {f : α → Program β} (hp : Keeps L p)
    (hf : ∀ a, (f a).Within isQuiet) : Keeps L (p >>= f) := by
  have both : Keeps (L * 1) (p >>= f) := bind hp ⟨[], rfl⟩ fun a => quiet (hf a)
  rwa [mul_one] at both

theorem foldlM {turn : β → ρ → Program β} {word : ρ → Language Exchange}
    (hturn : ∀ b x, Keeps (word x) (turn b x)) (hword : ∀ x, ∃ l, l ∈ word x) (xs : List ρ) (b : β) :
    Keeps (xs.map word).prod (xs.foldlM turn b) := by
  induction xs generalizing b with
  | nil => exact quiet trivial
  | cons x xs ih =>
    rw [List.map_cons, List.prod_cons, List.foldlM_cons]
    exact bind (hturn b x) (Order.exists_mem_prod hword xs) ih

end Keeps

end Program

def Job.ticket? : Job → Option Ticket
  | .done _ => none
  | .pending ticket _ => ticket

namespace Access

theorem quiet_of_inquiry (h : isInquiry r) : isQuiet r := by
  cases r <;> first | exact fun _ => rfl | cases h

theorem calls_confirm (h : Runs (confirm s job) t o) : calls t ∈ Order.awaited s job.ticket? := by
  rcases job with _ | ⟨_ | ticket, text⟩
  · obtain ⟨rfl, _⟩ := h
    rfl
  · obtain ⟨rfl, _⟩ := h
    rfl
  · change Runs (Job.confirmTicket s.deletionTimeout ticket _) t o at h
    rw [confirmTicket_eq] at h
    obtain ⟨answer, rest, rfl, h'⟩ := runs_ask_bind_iff.1 h
    have quiet : (judged s.deletionTimeout ticket (Job.labelOf text) answer).Within isQuiet :=
      (within_judged s.deletionTimeout ticket _ answer).mono fun _ => quiet_of_inquiry
    have others : calls rest = [] := calls_of_quiet quiet h'
    exact ⟨answer, congrArg (waited s ticket answer :: ·) others⟩

theorem calls_beginDelete (h : Runs (beginDelete s kind target) t o) :
    ∃ reply, calls t = [begun s kind target reply] ∧ o = jobOf kind target reply := by
  obtain ⟨reply, hf, ho⟩ := runs_beginDelete h
  refine ⟨reply, ?_, ho⟩
  rw [← calls_foreign, hf]
  rfl

theorem ticket_of_jobOf (h : jobOf kind target reply = .ok job) : job.ticket? = ticketOf reply := by
  rcases reply with f | _ | ticket
  · unfold jobOf at h
    dsimp only at h
    split at h <;> cases h
    rfl
  · cases h
    rfl
  · cases h
    rfl

theorem ticket_of_error (h : jobOf kind target reply = .error e) : ticketOf reply = none := by
  rcases reply with f | _ | ticket
  · rfl
  · rfl
  · cases h

theorem keeps_beginDelete (s : Settings) (kind : Kind) (target : Target) :
    Keeps (Order.request s kind target) (beginDelete s kind target) := by
  apply Keeps.of_word
  intro t o h
  obtain ⟨reply, ht, _⟩ := calls_beginDelete h
  exact ⟨reply, ht⟩

theorem keeps_deleteConfirmed (s : Settings) (kind : Kind) (target : Target) :
    Keeps (Order.delete s kind target) (beginDelete s kind target >>= confirm s) := by
  apply Keeps.of_word
  intro t o h
  rcases runs_bind_iff.1 h with ⟨e, rfl, h₁⟩ | ⟨job, t₁, t₂, rfl, h₁, h₂⟩
  · obtain ⟨reply, ht, ho⟩ := calls_beginDelete h₁
    refine ⟨reply, [], ?_, ht⟩
    rw [ticket_of_error ho.symm]
    rfl
  · obtain ⟨reply, ht, ho⟩ := calls_beginDelete h₁
    have waits : calls t₂ ∈ Order.awaited s job.ticket? := calls_confirm h₂
    rw [ticket_of_jobOf ho.symm] at waits
    refine ⟨reply, calls t₂, waits, ?_⟩
    rw [calls_append, ht]
    rfl

theorem keeps_deleteNowConfirmed (s : Settings) (kind : Kind) (target : Target) :
    Keeps {l | l = [] ∨ ∃ reply, l = [deletedNow kind target reply]}
      (deleteNow kind target >>= confirm s) := by
  apply Keeps.of_word
  intro t o h
  right
  rcases runs_bind_iff.1 h with ⟨e, rfl, h₁⟩ | ⟨job, t₁, t₂, rfl, h₁, h₂⟩
  · obtain ⟨reply, hf, _⟩ := runs_deleteNow h₁
    refine ⟨reply, ?_⟩
    rw [← calls_foreign, hf]
    rfl
  · obtain ⟨reply, hf, ho⟩ := runs_deleteNow h₁
    have waits : calls t₂ ∈ Order.awaited s job.ticket? := calls_confirm h₂
    have untold : job.ticket? = none := by
      rw [ticket_of_jobOf ho.symm]
      cases reply <;> rfl
    rw [untold] at waits
    have none_waited : calls t₂ = [] := waits
    refine ⟨reply, ?_⟩
    rw [calls_append, none_waited, List.append_nil, ← calls_foreign, hf]
    rfl

/-- A read that ends asks for one object only, and a read that returns has asked at least once. -/
theorem calls_object (h : Runs (object s kind target) t o) :
    ∃ replies, calls t = replies.map (got kind target) ∧
      ∀ v, o = .ok v →
        ∃ rs reply, replies = rs ++ [reply] ∧ (Reading.mk kind target reply).object = v := by
  obtain ⟨replies, hf, hv⟩ := replies_of_object h
  refine ⟨replies, ?_, hv⟩
  rw [← calls_foreign, hf]
  apply List.filter_eq_self.2
  intro x hx
  obtain ⟨reply, _, rfl⟩ := List.mem_map.1 hx
  rfl

theorem keeps_snapshot? {ofObject : Value → Except Misuse α} {f : Option α → Program β}
    {next : Value → Language Exchange} (hnext : ∀ v, ∃ l, l ∈ next v)
    (hf : ∀ v a, snapshotOf ofObject v = .ok a → Keeps (next v) (f a)) :
    Keeps (Order.lookThen kind target next) (snapshot? s kind target ofObject >>= f) := by
  intro t o h
  rcases runs_bind_iff.1 h with ⟨e, rfl, h₁⟩ | ⟨a, t₁, t₂, rfl, h₁, h₂⟩
  · obtain ⟨o', h', _⟩ := runs_snapshot?_iff.1 h₁
    obtain ⟨replies, ht, _⟩ := calls_object h'
    have completed : ∃ rest found, calls t ++ rest ∈ Order.look kind target found := by
      rcases List.eq_nil_or_concat replies with rfl | ⟨rs, reply, rfl⟩
      · refine ⟨[got kind target (.ok .null)], .null, [], .ok .null, ?_, rfl⟩
        rw [ht]
        rfl
      · refine ⟨[], _, rs, reply, ?_, rfl⟩
        rw [ht, List.append_nil, List.concat_eq_append]
    obtain ⟨rest, found, looked⟩ := completed
    obtain ⟨l, hl⟩ := hnext found
    have word : calls t ++ rest ++ l ∈ Order.look kind target found * next found :=
      Language.append_mem_mul looked hl
    rw [List.append_assoc] at word
    exact ⟨rest ++ l, ⟨found, word⟩, fun _ ho => nomatch ho⟩
  · obtain ⟨o', h', ho⟩ := runs_snapshot?_iff.1 h₁
    obtain ⟨v, rfl, ha⟩ := ok_of_bind ho.symm
    obtain ⟨replies, ht, hv⟩ := calls_object h'
    obtain ⟨rs, reply, rfl, hr⟩ := hv v rfl
    obtain ⟨rest, hrest, hd⟩ := hf v a ha t₂ o h₂
    have looked : calls t₁ ∈ Order.look kind target v := ⟨rs, reply, ht, hr⟩
    have word : calls t₁ ++ (calls t₂ ++ rest) ∈ Order.look kind target v * next v :=
      Language.append_mem_mul looked hrest
    rw [← List.append_assoc, ← calls_append] at word
    exact ⟨rest, ⟨v, word⟩, hd⟩

end Access

namespace Cleanup
open Access

theorem quiet_logStep (text : String) : (logStep text).Within isQuiet := within_ask fun _ => rfl

theorem quiet_logTrouble (text : String) : (logTrouble text).Within isQuiet :=
  within_ask fun _ => rfl

theorem keeps_publicIp (s : Settings) (t : Tally) (r : Reference) :
    Keeps (Order.delete s .publicIp r.target) (publicIp s t r) := by
  apply Keeps.after (quiet_logStep _) (Order.exists_mem_delete ..)
  intro _
  exact .followed (keeps_deleteConfirmed s .publicIp r.target) fun _ => trivial

theorem keeps_publicIps (s : Settings) (ids : List String) (t : Tally) :
    Keeps (Order.deleteEach s .publicIp ids) ((ids.map Reference.create).foldlM (publicIp s) t) := by
  have words : Order.deleteEach s .publicIp ids =
      ((ids.map Reference.create).map fun r => Order.delete s .publicIp r.target).prod := by
    rw [List.map_map]
    rfl
  rw [words]
  exact .foldlM (keeps_publicIp s) (fun _ => Order.exists_mem_delete ..) _ t

theorem keeps_interface (s : Settings) (t : Tally) (r : Reference) :
    Keeps (Order.interface s r.target) (interface s t r) := by
  apply keeps_snapshot?
  · intro nic
    exact Order.exists_mem_mul (Order.exists_mem_delete ..) (Order.exists_mem_deleteEach ..)
  intro nic found hn
  have deleted : ∃ l, l ∈ Order.delete s .nic r.target * Order.deleteEach s .publicIp (publicIpIds nic) :=
    Order.exists_mem_mul (Order.exists_mem_delete ..) (Order.exists_mem_deleteEach ..)
  apply Keeps.after (quiet_logStep _) deleted
  intro _
  rw [publicIps_of_snapshotOf hn, ← bind_assoc]
  apply Keeps.bind (keeps_deleteConfirmed s .nic r.target) (Order.exists_mem_deleteEach ..)
  intro deleted
  exact keeps_publicIps s (publicIpIds nic) _

theorem keeps_network (s : Settings) (m : Machine) :
    Keeps ((m.interfaces.map Reference.target).map (Order.interface s)).prod (network s m) := by
  rw [List.map_map]
  apply Keeps.followed
  · exact .foldlM (keeps_interface s) (fun _ => Order.exists_mem_interface ..) m.interfaces _
  · intro t
    dsimp only
    split
    · trivial
    · exact .bind (quiet_logTrouble _) fun _ => trivial

theorem keeps_requestDisk (s : Settings) (jobs : DiskJobs) (d : ManagedDisk) :
    Keeps ((d.reference.toOption.map fun r => Order.request s .disk r.target).getD 1)
      (requestDisk s jobs d) := by
  unfold requestDisk
  cases d.reference with
  | error m => exact .quiet trivial
  | ok r =>
    rw [misuse_ok, done_bind]
    apply Keeps.after (quiet_logStep _) (Order.exists_mem_request ..)
    intro _
    exact .followed (keeps_beginDelete s .disk r.target) fun _ => trivial

theorem keeps_requests (s : Settings) (ds : List ManagedDisk) (jobs : DiskJobs) :
    Keeps (((ds.filterMap fun d => d.reference.toOption).map fun r =>
      Order.request s .disk r.target).prod) (ds.foldlM (requestDisk s) jobs) := by
  have words : ((ds.filterMap fun d => d.reference.toOption).map fun r =>
      Order.request s .disk r.target).prod =
        (ds.map fun d =>
          (d.reference.toOption.map fun r => Order.request s .disk r.target).getD 1).prod := by
    induction ds with
    | nil => rfl
    | cons d ds ih =>
      rw [List.map_cons, List.prod_cons, ← ih, List.filterMap_cons]
      cases d.reference.toOption with
      | none => exact (one_mul _).symm
      | some r => rfl
  have nonempty (d : ManagedDisk) :
      ∃ l, l ∈ (d.reference.toOption.map fun r => Order.request s .disk r.target).getD 1 := by
    cases d.reference.toOption with
    | none => exact ⟨[], rfl⟩
    | some r => exact Order.exists_mem_request s .disk r.target
  rw [words]
  exact .foldlM (keeps_requestDisk s) nonempty ds jobs

def IsWaitFor (s : Settings) (job : Job) (r : Request) : Prop :=
  isQuiet r ∨ ∃ ticket, job.ticket? = some ticket ∧ r = .wait ticket s.deletionTimeout

theorem within_confirm_waitFor (s : Settings) (job : Job) :
    (confirm s job).Within (IsWaitFor s job) := by
  rcases job with _ | ⟨_ | ticket, text⟩
  · trivial
  · trivial
  · change (Job.confirmTicket s.deletionTimeout ticket (Job.labelOf text)).Within _
    rw [confirmTicket_eq]
    apply Within.bind (within_ask (.inr ⟨ticket, rfl, rfl⟩))
    intro answer
    apply Within.mono (within_judged s.deletionTimeout ticket _ answer)
    intro r hr
    exact .inl (quiet_of_inquiry hr)

theorem within_unconfirmed_waitFor (s : Settings) (jobs : DiskJobs) :
    (unconfirmed s jobs).Within fun r => isQuiet r ∨ ∃ j ∈ jobs, IsWaitFor s j.2 r := by
  induction jobs with
  | nil => trivial
  | cons j rest ih =>
    apply Within.bind
    · apply Within.mono (within_confirm_waitFor s j.2)
      intro r hr
      exact .inr ⟨j, List.mem_cons_self, hr⟩
    intro deleted
    apply Within.bind
    · apply Within.mono ih
      rintro r (hr | ⟨i, hi, hr⟩)
      · exact .inl hr
      · exact .inr ⟨i, List.mem_cons_of_mem j hi, hr⟩
    intro others
    trivial

theorem calls_waitFor {p : Program α} {jobs : DiskJobs}
    (hp : p.Within fun r => isQuiet r ∨ ∃ j ∈ jobs, IsWaitFor s j.2 r) (h : Runs p t o) :
    ∀ x ∈ calls t, ∃ j ∈ jobs, ∃ ticket answer,
      j.2.ticket? = some ticket ∧ x = waited s ticket answer := by
  intro x hx
  obtain ⟨hmem, hcall⟩ := List.mem_filter.1 hx
  have asked := hp.of_runs h x hmem
  have loud : ¬ isQuiet x.request := by
    intro quiet
    have uncalled : x.isCall = false := quiet x.reply
    rw [uncalled] at hcall
    cases hcall
  obtain ⟨r, answer⟩ := x
  obtain ⟨j, hj, hr⟩ := asked.resolve_left loud
  obtain ⟨ticket, ht, rfl⟩ := hr.resolve_left loud
  exact ⟨j, hj, ticket, answer, ht, rfl⟩

theorem exists_pending_of_mem_putAll (h : j ∈ DiskJobs.putAll [] ps) : ∃ p ∈ ps, j.2 = diskJob p := by
  have empty : (([] : DiskJobs).map Prod.fst).Nodup := List.nodup_nil
  have hj := (DiskJobs.putAll_perm empty ps).subset h
  rw [List.filter_nil, List.nil_append] at hj
  obtain ⟨p, hp, rfl⟩ := List.mem_map.1 hj
  exact ⟨p, (lastOfName_sublist ps).subset hp, rfl⟩

theorem keeps_disks (s : Settings) (m : Machine) :
    Keeps (Order.disks s ((m.managedDisks.filterMap fun d => d.reference.toOption).map
      Reference.target)) (disks s m) := by
  intro t o h
  rcases runs_bind_iff.1 h with ⟨e, rfl, h₁⟩ | ⟨jobs, t₁, t₂, rfl, h₁, h₂⟩
  · obtain ⟨rest, hrest, _⟩ := keeps_requests s _ _ _ _ h₁
    refine ⟨rest, ⟨calls t ++ rest, [], by simp, ?_, by simp⟩, fun _ ho => nomatch ho⟩
    rw [List.map_map]
    exact hrest
  · obtain ⟨rest, hrest, hnil⟩ := keeps_requests s _ _ _ _ h₁
    rw [hnil jobs rfl, List.append_nil] at hrest
    have pending : jobs = DiskJobs.putAll [] (pendings t₁) := (runs_requests h₁).1
    have waiting : (unconfirmed s jobs >>= fun failed => do
        unless failed.isEmpty do
          logTrouble ("could not delete disks: " ++ (← misuse (listed failed)))
        return failed.isEmpty).Within fun r => isQuiet r ∨ ∃ j ∈ jobs, IsWaitFor s j.2 r := by
      apply Within.bind (within_unconfirmed_waitFor s jobs)
      intro failed
      dsimp only
      split
      · trivial
      · apply Within.bind ((within_misuse _).mono fun _ => .inl)
        intro text
        exact .bind ((quiet_logTrouble _).mono fun _ => .inl) fun _ => trivial
    refine ⟨[], ⟨calls t₁, calls t₂, ?_, ?_, ?_⟩, fun _ _ => rfl⟩
    · rw [List.append_nil, calls_append]
    · rw [List.map_map]
      exact hrest
    · intro x hx
      obtain ⟨j, hj, ticket, answer, ht, hw⟩ := calls_waitFor waiting h₂ x hx
      rw [pending] at hj
      obtain ⟨p, hp, hd⟩ := exists_pending_of_mem_putAll hj
      rw [hd] at ht
      cases ht
      rw [pendings_calls]
      exact ⟨p, hp, answer, hw⟩

theorem keeps_availabilitySet (s : Settings) (m : Machine) :
    Keeps (((m.availabilitySet.map Reference.target).map Order.availabilitySet).getD 1)
      (availabilitySet s m) := by
  unfold availabilitySet
  cases m.availabilitySet with
  | none => exact .quiet trivial
  | some r =>
    have unread (v : Value) : ∃ l, l ∈ ({l | l = [] ∨
        ∃ reply, l = [deletedNow .availabilitySet r.target reply]} : Language Exchange) :=
      ⟨[], .inl rfl⟩
    apply keeps_snapshot? unread
    intro v found hs
    apply Keeps.after (within_misuse _) (unread v)
    intro orphaned
    split
    · apply Keeps.after (quiet_logStep _) (unread v)
      intro _
      exact keeps_deleteNowConfirmed s .availabilitySet r.target
    · apply Keeps.of_word
      rintro t o ⟨rfl, _⟩
      exact .inl rfl

theorem keeps_dependents (s : Settings) (m : Machine) (f : Bool → Bool → Bool → Report) :
    Keeps (Order.dependents s (m.interfaces.map Reference.target)
        ((m.managedDisks.filterMap fun d => d.reference.toOption).map Reference.target)
        (m.availabilitySet.map Reference.target))
      (network s m >>= fun nics => disks s m >>= fun discs =>
        availabilitySet s m >>= fun shared => done (f nics discs shared)) := by
  have shared := Order.exists_mem_shared (m.availabilitySet.map Reference.target)
  apply Keeps.bind (keeps_network s m) (Order.exists_mem_mul (Order.exists_mem_disks ..) shared)
  intro nics
  apply Keeps.bind (keeps_disks s m) shared
  intro discs
  exact .followed (keeps_availabilitySet s m) fun _ => trivial

theorem keeps_present (hm : m.Shows vm group) :
    Keeps (Order.machine s group vm) (present s nodeId m) := by
  apply Keeps.after (quiet_logStep _) (Order.exists_mem_machine ..)
  intro _
  unfold Order.machine
  rw [hm.interfaceTargets, hm.diskTargets, hm.sharedTarget, ← hm.name, ← hm.group]
  apply Keeps.bind (keeps_deleteConfirmed s .vm ⟨m.group, m.name⟩) (Order.exists_mem_dependents ..)
  intro vmDeleted
  dsimp only
  split
  · exact keeps_dependents s m _
  · apply Keeps.after (quiet_logTrouble _) (Order.exists_mem_dependents ..)
    intro _
    exact keeps_dependents s m _

theorem keeps_report {place : NodeId} (h : NodeId.parse nodeId = .ok place) :
    Keeps (Order.node s place) (report s nodeId) := by
  rw [report, h]
  apply keeps_snapshot?
  · intro vm
    cases vm with
    | null => exact ⟨[], rfl⟩
    | _ => exact Order.exists_mem_machine ..
  intro vm found hv
  rcases snapshotOf_ok hv with ⟨rfl, rfl⟩ | ⟨hn, m, hm, rfl⟩
  · exact .quiet (.bind (quiet_logStep _) fun _ => trivial)
  · cases vm with
    | null => cases hn rfl
    | _ => exact keeps_present (Machine.shows_of_ofObject hm)

/-- What a cleanup asks of the provider comes in the order of a word for its node: all of a word when a
report comes back, the start of one when the run ends with a fault. A malformed identifier asks for
nothing. -/
theorem report_calls_in_order (w : World σ) (st : σ) (s : Settings) (nodeId : String) :
    let r := (report s nodeId).run w st
    match NodeId.parse nodeId with
    | .error _ => calls r.trace = []
    | .ok place => ∃ rest, calls r.trace ++ rest ∈ Order.node s place ∧
        ∀ out, r.outcome = .ok out → rest = [] := by
  intro r
  have h : Runs (report s nodeId) r.trace r.outcome := runs_run w _ st
  cases hp : NodeId.parse nodeId with
  | error e =>
    rw [report, hp] at h
    obtain ⟨ht, _⟩ := h
    rw [ht]
    rfl
  | ok place => exact keeps_report hp _ _ h

end Cleanup

end NodeReclaim
