import NodeReclaim.Command.Execution
import NodeReclaim.Proofs.Loading
import NodeReclaim.Proofs.Operations

/-! How a command starts. It loads the settings, connects to the provider under them and only then acts, and
what it connects with can be read off its exchanges. -/
namespace NodeReclaim
open Program

/-! ### What is connected with -/

inductive Contact where
  | credential (kind : CredentialKind)
  | client (service : Service) (credential subscription : Value) (options : Table)

def Request.contact? : Request → Option Contact
  | .credential kind => some (.credential kind)
  | .client service key subscription options => some (.client service key subscription options)
  | _ => none

def contacts (t : List Exchange) : List Contact := t.filterMap fun x => x.request.contact?

theorem contacts_append (t₁ t₂ : List Exchange) : contacts (t₁ ++ t₂) = contacts t₁ ++ contacts t₂ :=
  List.filterMap_append

def Request.isRemote (r : Request) : Prop := r.contact? = none

theorem contacts_of_within {p : Program α} (hp : p.Within Request.isRemote) (h : Runs p t o) : contacts t = [] :=
  hp.filterMap_eq_nil (fun _ _ remote => remote) h

theorem isRemote_of_operational (h : isOperational r) : r.isRemote := by
  cases r <;> first | rfl | cases h

theorem isRemote_of_lookup (h : isLookup r) : r.isRemote := by
  cases r <;> first | rfl | cases h

namespace Access

/-- What connecting to the provider makes: one credential, and with it one client of each service, all for the
subscription of the settings. -/
def connections (s : Settings) (credential : Value) : List Contact :=
  .credential s.credential :: [Service.compute, .network, .resource].map fun service =>
    .client service credential s.subscription [("retry_total", .int 0)]

theorem runs_clients (h : Runs (clients s .null []) t o) :
    ∃ credential, contacts t <+: connections s credential ∧
      ∀ u, o = .ok u → contacts t = connections s credential := by
  have whole : clients s .null [] = require (.credential s.credential) rfl >>= fun credential =>
      require (.client .compute credential s.subscription [("retry_total", .int 0)]) rfl >>= fun _ =>
      require (.client .network credential s.subscription [("retry_total", .int 0)]) rfl >>= fun _ =>
      require (.client .resource credential s.subscription [("retry_total", .int 0)]) rfl := rfl
  rw [whole] at h
  obtain ⟨e, rfl, failed⟩ | ⟨credential, _, _, rfl, made₀, h₁⟩ := runs_bind_iff.1 h
  · obtain ⟨_, rfl, _⟩ := runs_require_iff.1 failed
    exact ⟨.null, by simp [contacts, Request.contact?, connections], by simp⟩
  obtain ⟨_, rfl, _⟩ := runs_require_iff.1 made₀
  refine ⟨credential, ?_⟩
  obtain ⟨e, rfl, failed⟩ | ⟨_, _, _, rfl, made₁, h₂⟩ := runs_bind_iff.1 h₁
  · obtain ⟨_, rfl, _⟩ := runs_require_iff.1 failed
    simp [contacts, Request.contact?, connections]
  obtain ⟨_, rfl, _⟩ := runs_require_iff.1 made₁
  obtain ⟨e, rfl, failed⟩ | ⟨_, _, _, rfl, made₂, h₃⟩ := runs_bind_iff.1 h₂
  · obtain ⟨_, rfl, _⟩ := runs_require_iff.1 failed
    simp [contacts, Request.contact?, connections]
  obtain ⟨_, rfl, _⟩ := runs_require_iff.1 made₂
  obtain ⟨_, rfl, _⟩ := runs_require_iff.1 h₃
  simp [contacts, Request.contact?, connections]

theorem runs_connect (h : Runs (connect s) t o) :
    if s.subscription.isTruthy then
      ∃ credential, contacts t <+: connections s credential ∧
        (o = .ok () ∧ contacts t = connections s credential ∨ ∃ e, o = .error (.clients e))
    else contacts t = [] ∧ o = .error (.clients .noSubscription) := by
  unfold connect at h
  split at h
  next some =>
    rw [if_pos some]
    obtain ⟨_, rfl, made⟩ | ⟨e, _, _, rfl, failed, rfl, rfl⟩ := runs_recover_iff.1 h
    · obtain ⟨credential, begun, full⟩ := runs_clients made
      exact ⟨credential, begun, .inl ⟨rfl, full _ rfl⟩⟩
    · obtain ⟨credential, begun, _⟩ := runs_clients failed
      exact ⟨credential, by simpa using begun, .inr ⟨_, rfl⟩⟩
  next none =>
    rw [if_neg none]
    obtain ⟨rfl, rfl⟩ := h
    exact ⟨rfl, rfl⟩

end Access

namespace Command

/-! ### The stages of a command -/

/-- What a command does about a fault before it acts. -/
def respond (f : Fault) : Program Bool := if f.isConfiguration then complain f.message else .fail f

def proceed (levels : Nat) (i : Invocation) (loaded : Settings) : Program Bool :=
  let s := withSubscription i.subscription loaded
  (Access.connect s).attempt >>= fun
    | .ok () => act s levels i.action
    | .error f => respond f

theorem execute_eq (i : Invocation) (runtime : Runtime) :
    execute i runtime = (Settings.load i.config runtime).attempt >>= fun
      | .ok s => proceed runtime.levels i s
      | .error f => respond f := by
  unfold execute prepare
  rw [attempt_bind, bind_assoc]
  congr 1
  funext loaded
  cases loaded with
  | error f => rfl
  | ok s =>
    change (Access.connect _ >>= fun _ => pure _).attempt >>= _ = _
    rw [attempt_bind, bind_assoc]
    unfold proceed
    congr 1
    funext connected
    cases connected <;> rfl

theorem run_execute (w : World σ) (st : σ) (i : Invocation) (runtime : Runtime) :
    let loaded := (Settings.load i.config runtime).run w st
    let rest := (match loaded.outcome with
      | .ok s => proceed runtime.levels i s
      | .error f => respond f).run w loaded.state
    (execute i runtime).run w st = ⟨loaded.trace ++ rest.trace, rest.outcome, rest.state⟩ := by
  rw [execute_eq, run_bind, run_attempt]

/-! ### What a command asks for once it is connected -/

theorem remote_print : (print stream line).Within Request.isRemote := within_ask rfl

theorem remote_complain : (complain text).Within Request.isRemote := remote_print.bind fun _ => trivial

theorem remote_respond (f : Fault) : (respond f).Within Request.isRemote := by
  unfold respond
  split
  · exact remote_complain
  · trivial

theorem remote_conclude {failure : String} : (conclude success message failure).Within Request.isRemote := by
  cases success with
  | true => exact remote_print.bind fun _ => trivial
  | false => exact remote_complain

theorem remote_surprise (f : Fault) : (surprise f).Within Request.isRemote := remote_print.bind fun _ => trivial

theorem remote_explain (f : Fault) : (explain f).Within Request.isRemote := by
  unfold explain
  split
  · exact remote_complain
  · exact remote_surprise _

theorem remote_lines (lines : List String) : (lines.forM (print .out)).Within Request.isRemote := by
  induction lines with
  | nil => trivial
  | cons line lines ih => exact remote_print.bind fun _ => ih

theorem remote_operation {p : Program α} {f : α → Program β} (hp : p.Within isOperational)
    (hf : ∀ a, (f a).Within Request.isRemote) : (p >>= f).Within Request.isRemote :=
  (hp.mono fun _ => isRemote_of_operational).bind hf

-- An operation is generalized where only its requests matter, so that it is not evaluated.
theorem remote_node (s : Settings) (id : String) : (node s id).Within Request.isRemote := by
  have cleaned : (Cleanup.report s id).Within isOperational := (pervades_operational s).report id
  unfold node Cleanup.node
  generalize Cleanup.report s id = p at cleaned ⊢
  rw [attempt_bind, bind_assoc]
  apply remote_operation cleaned.attempt
  rintro (f | r)
  · exact remote_explain f
  · exact remote_conclude

theorem remote_nodeReport (s : Settings) (id : String) : (nodeReport s id).Within Request.isRemote := by
  have cleaned : (Cleanup.report s id).Within isOperational := (pervades_operational s).report id
  unfold nodeReport
  generalize Cleanup.report s id = p at cleaned ⊢
  apply remote_operation cleaned.attempt
  rintro (f | r)
  · exact remote_explain f
  · exact (remote_lines _).bind fun _ => trivial

theorem remote_securityGroup (s : Settings) (levels : Nat) (rg group : String) :
    (securityGroup s levels rg group).Within Request.isRemote := by
  have cleaned : (Cleanup.securityGroup s (.text rg) (.text group) levels).Within isOperational :=
    (pervades_operational s).securityGroup ..
  unfold securityGroup
  generalize Cleanup.securityGroup s (.text rg) (.text group) levels = p at cleaned ⊢
  exact remote_operation cleaned fun _ => remote_conclude

theorem remote_resourceGroup (s : Settings) (name : String) : (resourceGroup s name).Within Request.isRemote := by
  have cleaned : (Cleanup.resourceGroup s (.text name)).Within isOperational :=
    (pervades_operational s).resourceGroup _
  unfold resourceGroup
  generalize Cleanup.resourceGroup s (.text name) = p at cleaned ⊢
  apply remote_operation cleaned.attempt
  rintro (f | deleted)
  · exact remote_surprise f
  · exact remote_conclude

theorem remote_act (s : Settings) (levels : Nat) (action : Action) :
    (act s levels action).Within Request.isRemote := by
  cases action with
  | node id report =>
    cases report with
    | false => exact remote_node s id
    | true => exact remote_nodeReport s id
  | securityGroup rg group => exact remote_securityGroup s levels rg group
  | group name => exact remote_resourceGroup s name

/-! ### What a command connects with -/

/-- The subscription of a command: one that is given and not empty, else the loaded one. -/
def subscriptionOf (given : Option String) (loaded : Value) : Value :=
  ((given.filter fun id => !id.isEmpty).map .text).getD loaded

theorem withSubscription_eq (given : Option String) (s : Settings) :
    withSubscription given s = { s with subscription := subscriptionOf given s.subscription } := by
  unfold withSubscription subscriptionOf
  cases given with
  | none => rfl
  | some id => by_cases h : id.isEmpty <;> simp [Option.filter, h]

/-- Under a subscription a command makes its credential and its clients, in order and as far as that succeeds,
and fails unless it makes all of them. Without one it fails and makes none. -/
def ConnectsUnder (s : Settings) (r : Run σ Bool) : Prop :=
  if s.subscription.isTruthy then
    ∃ credential, contacts r.trace <+: Access.connections s credential ∧
      (contacts r.trace = Access.connections s credential ∨ r.outcome = .ok false)
  else contacts r.trace = [] ∧ r.outcome = .ok false

theorem connectsUnder_proceed (w : World σ) (st : σ) (levels : Nat) (i : Invocation) (loaded : Settings) :
    ConnectsUnder (withSubscription i.subscription loaded) ((proceed levels i loaded).run w st) := by
  have refused {e : ClientsError} {st : σ} : ((respond (.clients e)).run w st).outcome = .ok false := rfl
  have begun := Access.runs_connect (runs_run w (Access.connect (withSubscription i.subscription loaded)) st)
  unfold proceed ConnectsUnder
  dsimp only
  rw [run_bind, run_attempt]
  split at begun
  next some =>
    rw [if_pos some]
    obtain ⟨credential, begun, ⟨connected, full⟩ | ⟨e, failed⟩⟩ := begun
    · have acted := contacts_of_within (remote_act (withSubscription i.subscription loaded) levels i.action)
        (runs_run w _ ((Access.connect (withSubscription i.subscription loaded)).run w st).state)
      simp only [connected, contacts_append, full, acted, List.append_nil]
      exact ⟨credential, List.prefix_rfl, .inl rfl⟩
    · have responded := contacts_of_within (remote_respond (.clients e))
        (runs_run w _ ((Access.connect (withSubscription i.subscription loaded)).run w st).state)
      simp only [failed, contacts_append, responded, List.append_nil]
      exact ⟨credential, begun, .inr refused⟩
  next none =>
    rw [if_neg none]
    obtain ⟨nothing, failed⟩ := begun
    have responded := contacts_of_within (remote_respond (.clients .noSubscription))
      (runs_run w _ ((Access.connect (withSubscription i.subscription loaded)).run w st).state)
    simp only [failed, contacts_append, responded, List.append_nil]
    exact ⟨nothing, refused⟩

theorem connects_execute (w : World σ) (st : σ) (i : Invocation) (runtime : Runtime) :
    match ((Settings.load i.config runtime).run w st).outcome with
    | .ok s => ConnectsUnder { s with subscription := subscriptionOf i.subscription s.subscription }
        ((execute i runtime).run w st)
    | .error _ => contacts ((execute i runtime).run w st).trace = [] := by
  have loading : contacts ((Settings.load i.config runtime).run w st).trace = [] :=
    contacts_of_within ((Settings.lookup_load i.config runtime).mono fun _ => isRemote_of_lookup) (runs_run w _ st)
  have whole := run_execute w st i runtime
  dsimp only at whole
  rw [whole]
  cases ((Settings.load i.config runtime).run w st).outcome with
  | ok s =>
    have proceeding := connectsUnder_proceed w ((Settings.load i.config runtime).run w st).state runtime.levels i s
    rw [withSubscription_eq] at proceeding
    simpa only [ConnectsUnder, contacts_append, loading, List.nil_append] using proceeding
  | error f =>
    have responding := contacts_of_within (remote_respond f)
      (runs_run w _ ((Settings.load i.config runtime).run w st).state)
    simp only [contacts_append, loading, responding, List.append_nil]

end Command

end NodeReclaim
