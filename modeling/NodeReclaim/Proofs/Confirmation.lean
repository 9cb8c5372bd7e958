import NodeReclaim.Proofs.Access
import NodeReclaim.Proofs.Double.Arithmetic
import NodeReclaim.Rehearsal.World

/-! Confirmations, in full. What the provider answers about an operation decides whether its resource is
gone: the wait alone when it fails, else whether the operation is over and with which status. A failure is
told to the log once, and no fault is added to the provider's own but that of a status that cannot be written. -/
namespace NodeReclaim.Confirmation
open Program

def waited (ticket : Ticket) (timeout : Value) (reply : Except Fault Unit) : Exchange :=
  ⟨.wait ticket timeout, reply⟩

def finishedSaid (ticket : Ticket) (reply : Except Fault Value) : Exchange := ⟨.isDone ticket, reply⟩

def statusSaid (ticket : Ticket) (reply : Except Fault Written) : Exchange := ⟨.status ticket, reply⟩

def warning? : Exchange → Option String
  | ⟨.log ⟨.warning, _, text, _⟩, _⟩ => some text
  | _ => none

def warnings (t : List Exchange) : List String := t.filterMap warning?

/-- The status of an operation that has succeeded, in whatever mixture of cases it is written. -/
def HasSucceeded (status : String) : Prop := Text.lower status.toList = "succeeded".toList

theorem isSuccess_iff (status : String) : Job.isSuccess status = true ↔ HasSucceeded status :=
  beq_iff_eq

/-- The status is not told, or it is told and cannot be written. -/
def IsUntold (reply : Except Fault Written) (f : Fault) : Prop := reply = .error f ∨ reply = .ok (.error f)

theorem not_isUntold (status : String) : ¬ IsUntold (.ok (.ok status)) f := by
  rintro (h | h) <;> cases h

theorem IsUntold.unique {reply : Except Fault Written} (h : IsUntold reply f) (h' : IsUntold reply f') : f = f' := by
  rcases h with rfl | rfl <;> rcases h' with h' | h' <;> cases h'
  · rfl
  · rfl

/-- The ways a confirmation can go: what is asked about the operation, which warnings are logged, and how it
ends. -/
inductive Goes (timeout : Value) (ticket : Ticket) (label : String) :
    List Exchange → List String → Except Fault Bool → Prop
  | gone (hf : f.isNotFound = true) :
      Goes timeout ticket label [waited ticket timeout (.error f)] [] (.ok true)
  | refused (hf : f.isNotFound = false) (hp : f.isProvider = true) :
      Goes timeout ticket label [waited ticket timeout (.error f)]
        [label ++ " failed: " ++ f.message] (.ok false)
  | broken (hp : f.isProvider = false) :
      Goes timeout ticket label [waited ticket timeout (.error f)] [] (.error f)
  | unheard (f : Fault) :
      Goes timeout ticket label
        [waited ticket timeout (.ok ()), finishedSaid ticket (.error f)] [] (.error f)
  | unfinished (hv : finished.isTruthy = false) (hs : timeout.fixed 0 = .ok seconds) :
      Goes timeout ticket label
        [waited ticket timeout (.ok ()), finishedSaid ticket (.ok finished)]
        [label ++ " did not finish within " ++ seconds ++ "s"] (.ok false)
  | unwritten (hv : finished.isTruthy = false) (hs : timeout.fixed 0 = .error m) :
      Goes timeout ticket label
        [waited ticket timeout (.ok ()), finishedSaid ticket (.ok finished)] []
        (.error (.misuse m))
  | untold (hv : finished.isTruthy = true) (hr : IsUntold reply f) :
      Goes timeout ticket label
        [waited ticket timeout (.ok ()), finishedSaid ticket (.ok finished), statusSaid ticket reply] []
        (.error f)
  | succeeded (hv : finished.isTruthy = true) (hs : HasSucceeded status) :
      Goes timeout ticket label
        [waited ticket timeout (.ok ()), finishedSaid ticket (.ok finished),
          statusSaid ticket (.ok (.ok status))] [] (.ok true)
  | failed (hv : finished.isTruthy = true) (hs : ¬ HasSucceeded status) (again : String) :
      Goes timeout ticket label
        [waited ticket timeout (.ok ()), finishedSaid ticket (.ok finished),
          statusSaid ticket (.ok (.ok status)), statusSaid ticket (.ok (.ok again))]
        [label ++ " finished with status " ++ again] (.ok false)
  | unrepeated (hv : finished.isTruthy = true) (hs : ¬ HasSucceeded status) (hr : IsUntold reply f) :
      Goes timeout ticket label
        [waited ticket timeout (.ok ()), finishedSaid ticket (.ok finished),
          statusSaid ticket (.ok (.ok status)), statusSaid ticket reply] [] (.error f)

theorem runs_isDone_iff : Runs (require (.isDone ticket) rfl) t o ↔
    ∃ reply : Except Fault Value, t = [finishedSaid ticket reply] ∧ o = reply :=
  runs_require_iff (r := .isDone ticket) (h := rfl)

theorem runs_statusText (h : Runs (Job.statusText ticket) t o) :
    ∃ reply, t = [statusSaid ticket reply] ∧
      ((∃ f, o = .error f ∧ IsUntold reply f) ∨ ∃ status, o = .ok status ∧ reply = .ok (.ok status)) := by
  have asked {t : List Exchange} {o : Except Fault Written} (h : Runs (require (.status ticket) rfl) t o) :
      ∃ reply, t = [statusSaid ticket reply] ∧ o = reply := runs_require_iff.1 h
  rcases runs_bind_iff.1 h with ⟨f, rfl, h₁⟩ | ⟨written, t₁, t₂, rfl, h₁, h₂⟩
  · obtain ⟨_, rfl, rfl⟩ := asked h₁
    exact ⟨_, rfl, .inl ⟨f, rfl, .inl rfl⟩⟩
  · obtain ⟨_, rfl, rfl⟩ := asked h₁
    obtain ⟨rfl, ho⟩ := runs_ofExcept_iff.1 h₂
    refine ⟨_, rfl, ?_⟩
    rcases written with f | status
    · exact .inl ⟨f, ho, .inr rfl⟩
    · exact .inr ⟨status, ho, rfl⟩

theorem goes_of_settle (h : Runs (Job.settle timeout ticket label) t o) :
    Goes timeout ticket label (waited ticket timeout (.ok ()) :: foreign t) (warnings t) o := by
  unfold Job.settle at h
  -- The cases follow the questions: whether it is over, its status, and its status again for the report.
  rcases runs_bind_iff.1 h with ⟨f, rfl, h₁⟩ | ⟨finished, t₁, t₂, rfl, h₁, h₂⟩
  · obtain ⟨_, rfl, rfl⟩ := runs_isDone_iff.1 h₁
    exact .unheard f
  obtain ⟨_, rfl, rfl⟩ := runs_isDone_iff.1 h₁
  cases hv : finished.isTruthy with
  | false =>
    rw [hv, if_pos (by rfl)] at h₂
    cases hs : timeout.fixed 0 with
    | error m =>
      rw [hs] at h₂
      obtain ⟨rfl, rfl⟩ := h₂
      exact .unwritten hv hs
    | ok seconds =>
      rw [hs, misuse_ok, done_bind] at h₂
      obtain ⟨_, rfl, rfl, rfl⟩ := runs_log_bind_iff.1 h₂
      exact .unfinished hv hs
  | true =>
    rw [hv, if_neg (by simp)] at h₂
    rcases runs_bind_iff.1 h₂ with ⟨f, rfl, h₃⟩ | ⟨status, t₃, t₄, rfl, h₃, h₄⟩
    · obtain ⟨_, rfl, ⟨_, ⟨⟩, untold⟩ | ⟨_, ⟨⟩, _⟩⟩ := runs_statusText h₃
      exact .untold hv untold
    obtain ⟨_, rfl, ⟨_, ⟨⟩, _⟩ | ⟨_, ⟨⟩, rfl⟩⟩ := runs_statusText h₃
    by_cases hs : HasSucceeded status
    · rw [if_pos ((isSuccess_iff status).2 hs)] at h₄
      obtain ⟨rfl, rfl⟩ := h₄
      exact .succeeded hv hs
    · rw [if_neg (mt (isSuccess_iff status).1 hs)] at h₄
      rcases runs_bind_iff.1 h₄ with ⟨f, rfl, h₅⟩ | ⟨again, t₅, t₆, rfl, h₅, h₆⟩
      · obtain ⟨_, rfl, ⟨_, ⟨⟩, untold⟩ | ⟨_, ⟨⟩, _⟩⟩ := runs_statusText h₅
        exact .unrepeated hv hs untold
      obtain ⟨_, rfl, ⟨_, ⟨⟩, _⟩ | ⟨_, ⟨⟩, rfl⟩⟩ := runs_statusText h₅
      obtain ⟨_, rfl, rfl, rfl⟩ := runs_log_bind_iff.1 h₆
      exact .failed hv hs again

theorem goes_of_judged (h : Runs (Access.judged timeout ticket label reply) t o) :
    Goes timeout ticket label (waited ticket timeout reply :: foreign t) (warnings t) o := by
  rcases reply with f | _
  · unfold Access.judged at h
    dsimp only at h
    split at h
    next found =>
      obtain ⟨_, rfl, rfl, rfl⟩ := runs_log_bind_iff.1 h
      exact .gone found
    next found =>
      have hf : f.isNotFound = false := Bool.eq_false_iff.2 found
      split at h
      next provider =>
        obtain ⟨_, rfl, rfl, rfl⟩ := runs_log_bind_iff.1 h
        exact .refused hf provider
      next provider =>
        obtain ⟨rfl, rfl⟩ := h
        exact .broken (Bool.eq_false_iff.2 provider)
  · exact goes_of_settle h

/-! ### What the answers mean -/

/-- The provider says that the resource is gone: there was nothing left to wait for, or the operation is over
and has succeeded. -/
def SaysGone (timeout : Value) (ticket : Ticket) (calls : List Exchange) : Prop :=
  (∃ f, f.isNotFound = true ∧ calls = [waited ticket timeout (.error f)]) ∨
    ∃ finished status, finished.isTruthy = true ∧ HasSucceeded status ∧
      calls = [waited ticket timeout (.ok ()), finishedSaid ticket (.ok finished),
        statusSaid ticket (.ok (.ok status))]

/-- The provider says that the deletion failed: an error of its own family ended the wait, the operation is
not over, or it ended with another status, which is asked for again to be reported. -/
def SaysFailed (timeout : Value) (ticket : Ticket) (calls : List Exchange) : Prop :=
  (∃ f, f.isProvider = true ∧ f.isNotFound = false ∧ calls = [waited ticket timeout (.error f)]) ∨
    (∃ finished, finished.isTruthy = false ∧
      calls = [waited ticket timeout (.ok ()), finishedSaid ticket (.ok finished)]) ∨
    ∃ finished status again, finished.isTruthy = true ∧ ¬ HasSucceeded status ∧
      calls = [waited ticket timeout (.ok ()), finishedSaid ticket (.ok finished),
        statusSaid ticket (.ok (.ok status)), statusSaid ticket (.ok (.ok again))]

/-- The provider does not say: a fault outside of its family ended the wait, a question was answered by a fault,
or the status that was told cannot be written. -/
def Breaks (timeout : Value) (ticket : Ticket) (calls : List Exchange) (f : Fault) : Prop :=
  (f.isProvider = false ∧ calls = [waited ticket timeout (.error f)]) ∨
    calls = [waited ticket timeout (.ok ()), finishedSaid ticket (.error f)] ∨
    ∃ finished reply, finished.isTruthy = true ∧ IsUntold reply f ∧
      (calls = [waited ticket timeout (.ok ()), finishedSaid ticket (.ok finished),
        statusSaid ticket reply] ∨
      ∃ status, ¬ HasSucceeded status ∧
        calls = [waited ticket timeout (.ok ()), finishedSaid ticket (.ok finished),
          statusSaid ticket (.ok (.ok status)), statusSaid ticket reply])

theorem isProvider_of_isNotFound {f : Fault} (h : f.isNotFound = true) : f.isProvider = true := by
  unfold Fault.isNotFound at h
  split at h
  · rfl
  · cases h

namespace Goes

theorem gone_iff (h : Goes timeout ticket label calls ws o) :
    o = .ok true ↔ SaysGone timeout ticket calls := by
  constructor
  · rintro rfl
    cases h with
    | gone hf => exact .inl ⟨_, hf, rfl⟩
    | succeeded hv hs => exact .inr ⟨_, _, hv, hs, rfl⟩
  · rintro (⟨f, hf, rfl⟩ | ⟨finished, status, hv, hs, rfl⟩)
    · cases h with
      | gone => rfl
      | refused other => cases hf.symm.trans other
      | broken hp => cases (isProvider_of_isNotFound hf).symm.trans hp
    · cases h with
      | untold _ hr => exact absurd hr (not_isUntold status)
      | succeeded => rfl

theorem failed_iff (h : Goes timeout ticket label calls ws o)
    (shown : ∃ text, timeout.fixed 0 = .ok text) :
    o = .ok false ↔ SaysFailed timeout ticket calls := by
  constructor
  · rintro rfl
    cases h with
    | refused hf hp => exact .inl ⟨_, hp, hf, rfl⟩
    | unfinished hv hs => exact .inr (.inl ⟨_, hv, rfl⟩)
    | failed hv hs again => exact .inr (.inr ⟨_, _, again, hv, hs, rfl⟩)
  · rintro (⟨f, hp, hf, rfl⟩ | ⟨finished, hv, rfl⟩ | ⟨finished, status, again, hv, hs, rfl⟩)
    · cases h with
      | gone found => cases found.symm.trans hf
      | refused => rfl
      | broken other => cases hp.symm.trans other
    · cases h with
      | unfinished => rfl
      | unwritten _ hs =>
        obtain ⟨text, ht⟩ := shown
        cases ht.symm.trans hs
    · cases h with
      | failed => rfl
      | unrepeated _ _ hr => exact absurd hr (not_isUntold again)

theorem error_iff (h : Goes timeout ticket label calls ws o)
    (shown : ∃ text, timeout.fixed 0 = .ok text) :
    o = .error f ↔ Breaks timeout ticket calls f := by
  constructor
  · rintro rfl
    cases h with
    | broken hp => exact .inl ⟨hp, rfl⟩
    | unheard => exact .inr (.inl rfl)
    | unwritten _ hs =>
      obtain ⟨text, ht⟩ := shown
      cases ht.symm.trans hs
    | untold hv hr => exact .inr (.inr ⟨_, _, hv, hr, .inl rfl⟩)
    | unrepeated hv hs hr => exact .inr (.inr ⟨_, _, hv, hr, .inr ⟨_, hs, rfl⟩⟩)
  · rintro (⟨hp, rfl⟩ | rfl | ⟨finished, reply, hv, hr, rfl | ⟨status, hs, rfl⟩⟩)
    · cases h with
      | gone hf => cases (isProvider_of_isNotFound hf).symm.trans hp
      | refused _ other => cases other.symm.trans hp
      | broken => rfl
    · cases h
      rfl
    · cases h with
      | untold _ hr' => rw [hr'.unique hr]
      | succeeded => exact absurd hr (not_isUntold _)
    · cases h with
      | failed => exact absurd hr (not_isUntold _)
      | unrepeated _ _ hr' => rw [hr'.unique hr]

theorem warned (h : Goes timeout ticket label calls ws o) :
    (o = .ok false → ∃ rest, ws = [label ++ rest]) ∧ (o ≠ .ok false → ws = []) := by
  cases h with
  | refused | unfinished | failed =>
    refine ⟨fun _ => ?_, fun other => absurd rfl other⟩
    simp only [String.append_assoc]
    exact ⟨_, rfl⟩
  | _ => exact ⟨nofun, fun _ => rfl⟩

theorem alone (h : Goes timeout ticket label (waited ticket timeout (.error f) :: rest) ws o) :
    rest = [] := by
  cases h <;> rfl

end Goes

/-- A timeout that can be shown in every case: a double, or an integer that a double holds exactly. -/
def IsTimeout : Value → Prop
  | .float _ => True
  | .int n => -2 ^ 53 ≤ n ∧ n ≤ 2 ^ 53
  | _ => False

theorem shown_of_isTimeout (h : IsTimeout timeout) : ∃ text, timeout.fixed 0 = .ok text := by
  cases timeout with
  | float x => exact ⟨_, rfl⟩
  | int n =>
    have held := (Double.toFloat_int (k := 53) (by decide) h.1 h.2).1
    unfold Value.fixed
    dsimp only [Value.number?]
    rw [held]
    exact ⟨_, rfl⟩
  | _ => cases h

/-- A confirmation that goes by the answers. It waits first and once, asks nothing after a wait that failed, and
ends as the answers say. -/
structure GoesByAnswers (timeout : Value) (ticket : Ticket) (label : String) (t : List Exchange)
    (o : Except Fault Bool) : Prop where
  first : ∃ reply rest, t = waited ticket timeout reply :: rest ∧ waits rest = [] ∧
    ∀ f, reply = .error f → foreign rest = []
  gone : o = .ok true ↔ SaysGone timeout ticket (foreign t)
  failed : o = .ok false ↔ SaysFailed timeout ticket (foreign t)
  broken : ∀ f, o = .error f ↔ Breaks timeout ticket (foreign t) f
  warned : o = .ok false → ∃ rest, warnings t = [label ++ rest]
  unwarned : o ≠ .ok false → warnings t = []

theorem goesByAnswers (shown : ∃ text, timeout.fixed 0 = .ok text)
    (h : Runs (Job.confirmTicket timeout ticket label) t o) :
    GoesByAnswers timeout ticket label t o := by
  rw [Access.confirmTicket_eq] at h
  obtain ⟨reply, rest, rfl, h'⟩ := runs_ask_bind_iff.1 h
  have goes : Goes timeout ticket label (waited ticket timeout reply :: foreign rest) (warnings rest) o :=
    goes_of_judged h'
  have others : waits rest = [] :=
    (Access.within_judged timeout ticket label reply).filterMap_eq_nil
      (fun r _ hr => by cases r <;> first | rfl | cases hr) h'
  refine ⟨⟨reply, rest, rfl, others, ?_⟩, goes.gone_iff, goes.failed_iff shown,
    fun f => goes.error_iff shown, goes.warned.1, goes.warned.2⟩
  rintro f rfl
  exact goes.alone

/-- A job that needs no confirmation counts as done without a question. Any other one goes by what the
provider answers about its operation, whatever that is. -/
theorem confirm_goes_by_answers (w : World σ) (st : σ) (timeout : Value) (job : Option Job)
    (h : IsTimeout timeout) :
    let r := (Job.confirm? timeout job).run w st
    match job with
    | none | some (.done _) => r.trace = [] ∧ r.outcome = .ok true
    | some (.pending none _) =>
      r.trace = [] ∧ r.outcome = .error (.misuse (.missing "NoneType" "wait"))
    | some (.pending (some ticket) text) =>
      GoesByAnswers timeout ticket (Job.labelOf text) r.trace r.outcome := by
  rcases job with _ | _ | ⟨_ | ticket, text⟩
  · exact ⟨rfl, rfl⟩
  · exact ⟨rfl, rfl⟩
  · exact ⟨rfl, rfl⟩
  · exact goesByAnswers (shown_of_isTimeout h) (runs_run w _ st)

def soleTicket : Ticket := ⟨"vm rg1/vm1", 0⟩

/-- Every fault that leaves is the answer to the wait or to a question. -/
def OnlyAnswersLeave (t : List Exchange) (o : Except Fault Bool) : Prop :=
  ∀ f, o = .error f → ∃ ticket, (∃ timeout, waited ticket timeout (.error f) ∈ t) ∨
    finishedSaid ticket (.error f) ∈ t ∨ statusSaid ticket (.error f) ∈ t

def numbered (status : Int) : Rehearsal.Store where
  operations := [⟨"vm rg1/vm1", { status := .int status }, .none⟩]

theorem run_numbered (long : Value.isShort n = false) :
    let r := (Job.confirm? (.int 600) (some (.pending soleTicket ""))).run rehearsal (numbered n)
    r.trace = [waited soleTicket (.int 600) (.ok ()), finishedSaid soleTicket (.ok (.bool true)),
        statusSaid soleTicket (.ok (.error (.misuse .longInteger)))] ∧
      r.outcome = .error (.misuse .longInteger) := by
  intro r
  let next (status : String) : Program Bool :=
    if Job.isSuccess status then pure true
    else do
      .log .warning .deletion ("deletion" ++ " finished with status " ++ (← Job.statusText soleTicket))
      pure false
  have asked : r =
      let rest := (Program.ofExcept (Rehearsal.written (.int n)) >>= next).run rehearsal (numbered n)
      ⟨[waited soleTicket (.int 600) (.ok ()), finishedSaid soleTicket (.ok (.bool true)),
        statusSaid soleTicket (.ok (Rehearsal.written (.int n)))] ++ rest.trace, rest.outcome, rest.state⟩ := rfl
  have refused (levels : Nat) : (Value.int n).shown levels = .error .longInteger := by
    simp [Value.shown, Value.refusal?, long]
  have unwritten : Rehearsal.written (.int n) = .error (.misuse .longInteger) := by
    rw [Rehearsal.written, refused]
    rfl
  rw [asked, unwritten]
  exact ⟨rfl, rfl⟩

/-- Other faults leave too: that of a job that has nothing to wait for, and that of a status that is told and
cannot be written. -/
theorem other_faults_leave :
    let r₁ := (Job.confirm? (.int 600) (some (.pending none ""))).run rehearsal {}
    let r₂ := (Job.confirm? (.int 600) (some (.pending soleTicket ""))).run rehearsal (numbered (10 ^ 4300))
    ¬ OnlyAnswersLeave r₁.trace r₁.outcome ∧ ¬ OnlyAnswersLeave r₂.trace r₂.outcome := by
  intro r₁ r₂
  constructor
  · intro answers
    obtain ⟨_, ⟨_, h⟩ | h | h⟩ := answers _ rfl <;> cases h
  · intro answers
    have long : Value.isShort (10 ^ 4300) = false := by decide +kernel
    obtain ⟨trace, outcome⟩ := run_numbered long
    have answered := answers _ outcome
    simp only [r₂, trace, List.mem_cons, List.not_mem_nil, or_false] at answered
    obtain ⟨_, ⟨_, h⟩ | h | h⟩ := answered <;> rcases h with h | h | h <;> cases h

def stalled : Rehearsal.Store where
  operations := [⟨"vm rg1/vm1", { finished := .bool false }, .none⟩]

theorem stalled_goes_by_answers :
    IsTimeout (.int 600) ∧
      let r := (Job.confirm? (.int 600) (some (.pending soleTicket ""))).run rehearsal stalled
      GoesByAnswers (.int 600) soleTicket "deletion" r.trace r.outcome := by
  have timely : IsTimeout (.int 600) := by
    unfold IsTimeout
    decide
  exact ⟨timely, confirm_goes_by_answers rehearsal stalled (.int 600) (some (.pending soleTicket "")) timely⟩

end NodeReclaim.Confirmation
