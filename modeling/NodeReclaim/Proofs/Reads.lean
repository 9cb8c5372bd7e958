import NodeReclaim.Proofs.Access
import NodeReclaim.Proofs.Rounds

/-! What a read comes to. The provider may be asked for one thing several times over, and only its last answer
counts: nothing of the earlier ones is carried over, not even the ids of a listing that failed on the way. -/
namespace NodeReclaim
open Program

namespace Retry

/-- The loop breaks off after a try that failed in passing: the pause that would follow cannot be computed,
written or taken. -/
def BreaksOff (p : Policy) (name : String) (number : Nat) (delay : Value) (o : Except Fault α)
    (t : List Exchange) (e : Fault) : Prop :=
  ∃ f between, o = .error f ∧ f.isTransient = true ∧ between <:+ t ∧
    Runs (interlude p name number delay f) between (.error e)

theorem BreaksOff.isOwn {o : Except Fault α} (h : BreaksOff p name number delay o t e) : isOwn e = true := by
  obtain ⟨f, between, _, _, _, hb⟩ := h
  exact (inward_interlude p name number delay f _ _ hb).2 e rfl

/-- A run of the loop from some attempt on: there is a last try, and its outcome is the outcome unless the loop
breaks off after it. The delay has doubled with every try before. -/
theorem last_decides {operation : Program α}
    (hshown : number = 1 ∧ 0 < left ∨ ∃ text, p.attempts.shown 0 = .ok text)
    (h : Runs (attemptsFrom p name operation (left + 1) number delay) t o) :
    ∃ earlier last, Tried operation (left + 1) (earlier ++ [last]) t o ∧
      (o = last.outcome ∨
        ∃ e, o = .error e ∧ earlier.length < left ∧
          BreaksOff p name (number + earlier.length) (doubled^[earlier.length] delay) last.outcome t e) := by
  induction left generalizing number delay t with
  | zero =>
    obtain ⟨t₁, t₂, o', rfl, h₁, ⟨_, ⟨closing, -⟩, rfl⟩ | ⟨_, _, _, more, _⟩⟩ := runs_pass hshown h
    · exact ⟨[], ⟨t₁, o⟩, .last h₁ ⟨closing, .inl rfl⟩, .inl rfl⟩
    · omega
  | succ left ih =>
    obtain ⟨t₁, t₂, o', rfl, h₁, ⟨_, ⟨closing, -⟩, rfl⟩ | ⟨f, rfl, hf, _, h₂⟩⟩ := runs_pass hshown h
    · exact ⟨[], ⟨t₁, o⟩, .last h₁ ⟨closing, .inl rfl⟩, .inl rfl⟩
    have inward := inward_interlude p name number delay f
    rcases runs_bind_iff.1 h₂ with ⟨e, rfl, he⟩ | ⟨_, between, later, rfl, hbetween, h₃⟩
    · have own : isOwn e = true := (inward _ _ he).2 e rfl
      refine ⟨[], ⟨t₁, .error f⟩, .last h₁ ⟨(inward _ _ he).1, .inr ⟨e, rfl, own⟩⟩, .inr ⟨e, rfl, ?_⟩⟩
      exact ⟨Nat.succ_pos left, f, t₂, rfl, hf, List.suffix_append _ _, he⟩
    · obtain ⟨earlier, last, tried, decided⟩ := ih (.inr (shown_of_interlude hbetween)) h₃
      refine ⟨⟨t₁, .error f⟩ :: earlier, last, .next h₁ hf (inward _ _ hbetween).1 tried, ?_⟩
      rcases decided with ho | ⟨e, ho, more, f', rest, hlast, hf', hrest, broken⟩
      · exact .inl ho
      · have numbered : number + (earlier.length + 1) = number + 1 + earlier.length := by omega
        refine .inr ⟨e, ho, Nat.succ_lt_succ more, f', rest, hlast, hf', ?_, ?_⟩
        · exact (hrest.trans (List.suffix_append _ _)).trans (List.suffix_append _ _)
        · rw [List.length_cons, numbered]
          exact broken

end Retry

namespace Access

/-- A read as its requests: those that were tried again failed in passing, and what the last one ended with
makes the result, unless the loop breaks off after it. -/
structure LastDecides (p : Retry.Policy) (name : String) (limit : Nat) (exchange : ρ → Exchange)
    (ended : ρ → Except Fault β) (result : Except Fault β → Except Fault α) (earlier : List ρ) (last : ρ)
    (t : List Exchange) (o : Except Fault α) : Prop where
  seen : foreign t = (earlier ++ [last]).map exchange
  atMost : (earlier ++ [last]).length ≤ limit
  again : ∀ x ∈ earlier, ∃ f, ended x = .error f ∧ f.isTransient = true
  decides : o = result (ended last) ∨
    ∃ e, o = .error e ∧ earlier.length + 1 < limit ∧
      Retry.BreaksOff p name (earlier.length + 1) (Retry.doubled^[earlier.length] p.initialDelay) (ended last)
        t e

theorem lastDecides_retrying {operation : Program α} {exchange : ρ → Exchange} {ended : ρ → Except Fault α}
    {limit : Nat} (hattempts : p.attempts = .int (limit + 1))
    (once : ∀ t o, Runs operation t o → ∃ x, t = [exchange x] ∧ o = ended x)
    (seen : ∀ x, (exchange x).isLocal = false) (h : Runs (Retry.retrying p name operation) t o) :
    ∃ earlier last, LastDecides p name (limit + 1) exchange ended id earlier last t o := by
  have granted : Retry.granted p.attempts = .ok (limit + 1) := by
    rw [hattempts]
    rfl
  have shown : 1 = 1 ∧ 0 < limit ∨ ∃ text, p.attempts.shown 0 = .ok text := by
    cases limit with
    | zero =>
      right
      rw [hattempts]
      exact ⟨_, rfl⟩
    | succ limit => exact .inl ⟨rfl, Nat.succ_pos limit⟩
  unfold Retry.retrying at h
  rw [granted, misuse_ok, done_bind] at h
  obtain ⟨earlier, last, tried, decided⟩ := Retry.last_decides shown h
  obtain ⟨replies, told⟩ := tries_eq_map once _ tried.runs
  obtain ⟨before, rest, rfl, rfl, single⟩ := List.map_eq_append_iff.1 told.symm
  obtain ⟨x, rfl, rfl⟩ := List.map_eq_singleton_iff.1 single
  refine ⟨before, x, ?_, ?_, ?_, ?_⟩
  · rw [tried.seen, told, List.flatMap_map]
    simp [foreign, seen, List.map_eq_flatMap]
  · simpa using tried.atMost
  · intro y hy
    apply tried.again ⟨[exchange y], ended y⟩
    rw [List.dropLast_concat]
    exact List.mem_map_of_mem hy
  · rw [List.length_map, Nat.add_comm] at decided
    obtain last | ⟨e, ho, more, broken⟩ := decided
    · exact .inl last
    · exact .inr ⟨e, ho, Nat.succ_lt_succ more, broken⟩

theorem LastDecides.map {ended : ρ → Except Fault β} {result : Except Fault β → Except Fault α}
    {g : Except Fault α → Except Fault γ} (own : ∀ e, Retry.isOwn e = true → g (.error e) = .error e)
    (h : LastDecides p name limit exchange ended result earlier last t o) :
    LastDecides p name limit exchange ended (fun o => g (result o)) earlier last t (g o) where
  seen := h.seen
  atMost := h.atMost
  again := h.again
  decides := by
    rcases h.decides with rfl | ⟨e, rfl, more, broken⟩
    · exact .inl rfl
    · exact .inr ⟨e, own e broken.isOwn, more, broken⟩

/-- What a read makes of an answer: nothing when the provider says that nothing is there or answers null, the
snapshot of the object otherwise. Other faults stay. -/
def snapshotReply (ofObject : Value → Except Misuse α) : Except Fault Value → Except Fault (Option α)
  | .ok v => snapshotOf ofObject v
  | .error f => if f.isNotFound then .ok none else .error f

theorem snapshotReply_eq (ofObject : Value → Except Misuse α) (reply : Except Fault Value) :
    orAbsent .null reply >>= snapshotOf ofObject = snapshotReply ofObject reply := by
  cases reply with
  | ok v => rfl
  | error f =>
    unfold orAbsent snapshotReply
    dsimp only
    split <;> rfl

def ReadsObject (s : Settings) (limit : Nat) (kind : Kind) (target : Target)
    (ofObject : Value → Except Misuse α) (r : Run σ (Option α)) : Prop :=
  ∃ earlier last,
    LastDecides (policy s) "get" limit (got kind target) id (snapshotReply ofObject) earlier last r.trace r.outcome

def ReadsContents (s : Settings) (limit : Nat) (group : Value) (r : Run σ (List Value)) : Prop :=
  ∃ earlier last,
    LastDecides (policy s) "list_ids" limit (listed group) outcomeOf (orAbsent []) earlier last r.trace r.outcome

theorem readsObject {limit : Nat} (hattempts : s.retryAttempts = .int (limit + 1)) (w : World σ) (st : σ)
    (kind : Kind) (target : Target) (ofObject : Value → Except Misuse α) :
    ReadsObject s (limit + 1) kind target ofObject ((snapshot? s kind target ofObject).run w st) := by
  obtain ⟨o₁, read, ho⟩ := runs_snapshot?_iff.1 (runs_run w (snapshot? s kind target ofObject) st)
  obtain ⟨o₂, retried, rfl⟩ := runs_orIfAbsent_iff.1 read
  obtain ⟨earlier, last, h⟩ :=
    lastDecides_retrying (p := policy s) hattempts (fun _ _ => runs_get_iff.1) (fun _ => rfl) retried
  have made := h.map (g := snapshotReply ofObject) fun e own => by cases e <;> first | rfl | cases own
  rw [snapshotReply_eq] at ho
  refine ⟨earlier, last, ?_⟩
  rw [ho]
  exact made

theorem readsContents {limit : Nat} (hattempts : s.retryAttempts = .int (limit + 1)) (w : World σ) (st : σ)
    (group : Value) : ReadsContents s (limit + 1) group ((resources s group).run w st) := by
  obtain ⟨o, retried, ho⟩ := runs_orIfAbsent_iff.1 (runs_run w (resources s group) st)
  obtain ⟨earlier, last, h⟩ :=
    lastDecides_retrying (p := policy s) hattempts (fun _ _ => runs_listOnce_iff.1) (fun _ => rfl) retried
  refine ⟨earlier, last, ?_⟩
  rw [ho]
  exact h.map fun e => orAbsent_own

/-- Every read of the provider, under settings that grant at least one attempt. It makes at least one request
and not more than are granted, all for the same thing, and the last answer alone decides: what is not there is
found to be absent, any other fault leaves unchanged, and an object or a listing that comes back whole is what
the read returns, as long as no pause of the loop fails. -/
theorem reads_go_by_last (w : World σ) (st : σ) (s : Settings) (limit : Nat) (target : Target) (group : Value) :
    let s := { s with retryAttempts := .int (limit + 1) }
    ReadsObject s (limit + 1) .vm target (Machine.ofObject · target.group) ((machine? s target).run w st) ∧
      ReadsObject s (limit + 1) .nic target Interface.ofObject ((interface? s target).run w st) ∧
      ReadsObject s (limit + 1) .availabilitySet target AvailabilitySet.ofObject
        ((availabilitySet? s target).run w st) ∧
      ReadsObject s (limit + 1) .securityGroup target SecurityGroup.ofObject
        ((securityGroup? s target).run w st) ∧
      ReadsContents s (limit + 1) group ((resources s group).run w st) := by
  intro s
  refine ⟨?_, ?_, ?_, ?_, ?_⟩
  · exact readsObject rfl w st .vm target _
  · exact readsObject rfl w st .nic target _
  · exact readsObject rfl w st .availabilitySet target _
  · exact readsObject rfl w st .securityGroup target _
  · exact readsContents rfl w st group

end Access

end NodeReclaim
