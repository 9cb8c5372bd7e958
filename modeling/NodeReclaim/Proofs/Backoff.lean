import Mathlib.Order.Monotone.Basic
import NodeReclaim.Proofs.Patience

/-! Pauses without jitter, in whole seconds. The delay doubles with every pause, and the cap cuts the pause and
not the delay, so within a round no pause is shorter than the one before or longer than the cap, and the next round
starts with the initial delay again. Such pauses are taken if the timer can count to the cap. What can end a round
early is a number of attempts too long to be written into the warning that comes before the first of them. -/
namespace NodeReclaim.Retry
open Program Double

/-- The seconds of a pause after so many others. -/
def backoff (initial cap i : Nat) : Nat := min (initial * 2 ^ i) cap

theorem backoff_zero (initial cap : Nat) : backoff initial cap 0 = min initial cap := by
  rw [backoff, pow_zero, mul_one]

theorem backoff_succ (initial cap i : Nat) : backoff initial cap (i + 1) = backoff (initial * 2) cap i := by
  rw [backoff, backoff, pow_succ', mul_assoc]

theorem backoff_le (initial cap i : Nat) : backoff initial cap i ≤ cap := min_le_right _ _

theorem backoff_monotone (initial cap : Nat) : Monotone (backoff initial cap) := by
  intro i j h
  have longer : initial * 2 ^ i ≤ initial * 2 ^ j := Nat.mul_le_mul_left _ (Nat.pow_le_pow_right two_pos h)
  exact min_le_min_right cap longer

/-! ### Between two calls -/

theorem capped_int (n m : Int) : (Value.int n).capped (.int m) = .ok (.int (min n m)) := by
  have lesser : Value.less (.int m) (.int n) = .ok (Number.lt (.int m) (.int n)) := by
    simp [Value.less, Value.number?]
  have less : Number.lt (.int m) (.int n) = decide (m < n) := by
    rw [Bool.eq_iff_iff, decide_eq_true_iff, int_lt_int_iff]
  rw [Value.capped, lesser, less]
  by_cases h : m < n
  · simp [Except.map, h, min_eq_right h.le]
  · simp [Except.map, h, min_eq_left (not_lt.1 h)]

section
variable {p : Policy} {initial cap : Nat} (hj : p.jitter = false) (hc : p.maxDelay = .int cap)
include hj hc

theorem pauseFor_steady (delay : Nat) : pauseFor p (.int delay) = .done (.int (backoff delay cap 0)) := by
  have capped := capped_int delay cap
  rw [← Nat.cast_min, ← backoff_zero] at capped
  unfold pauseFor
  rw [hj, hc, if_neg Bool.false_ne_true, pure_eq, done_bind]
  exact congrArg Program.misuse capped

theorem scheduled_steady (h : Scheduled p (.int initial) pauses) :
    pauses = (List.range pauses.length).map fun i => .int (backoff initial cap i) := by
  induction pauses generalizing initial with
  | nil => rfl
  | cons seconds rest ih =>
    obtain ⟨⟨drawn, hdrawn⟩, later⟩ := h
    rw [pauseFor_steady hj hc] at hdrawn
    obtain ⟨_, paused⟩ := hdrawn
    have others : rest = (List.range rest.length).map fun i => .int (backoff (initial * 2) cap i) := ih later
    rw [List.length_cons, List.range_succ_eq_map, List.map_cons, List.map_map]
    congr 1
    · exact Except.ok.inj paused
    · -- What is left of the schedule is the schedule of the doubled delay.
      rw [others, List.length_map, List.length_range]
      apply List.map_congr_left
      intro i _
      rw [Function.comp_apply, Nat.succ_eq_add_one, backoff_succ]

end

theorem doubled_iterate (initial i : Nat) :
    doubled^[i] (.int initial) = .int ((initial * 2 ^ i : Nat) : Int) := by
  induction i with
  | zero => simp
  | succ i ih =>
    rw [Function.iterate_succ_apply', ih, pow_succ, ← mul_assoc]
    push_cast
    rfl

theorem system_int {n : Nat} (h : n * 10 ^ 9 ≤ span) : Timer.system span (.int n) = .ok () := by
  have upward : Timer.isUpward (.int n) = true := by
    rw [Timer.isUpward_iff, Bool.eq_false_iff, Ne, int_lt_int_iff]
    exact ⟨by omega, rfl⟩
  have short : Timer.fits span (.int n) = true := by
    rw [Timer.fits_int_iff]
    omega
  exact (Timer.within_ok_iff rfl).2 ⟨upward, short⟩

/-- Whole seconds can be written as far as doubles count one by one. -/
theorem isBearable_int {n : Nat} (h : n * 10 ^ 9 ≤ span) (word : span < 2 ^ 63) :
    IsBearable (Timer.system span) (.int n) := by
  have moderate : IsModerate 53 (.int n) := (isModerate_int_iff 53 n).2 ⟨by omega, by omega⟩
  obtain ⟨x, converted, _⟩ := moderate.toFloat (by decide)
  exact ⟨fixed_of_toFloat rfl converted 2, system_int h⟩

theorem trace_of_interlude (hp : pauseFor p delay = .done seconds) (hshown : p.attempts.shown 0 = .error m)
    (h : Runs (interlude p name number delay f) t o) : t = [] := by
  rw [interlude_eq, hp, done_bind, resting, progress, hshown] at h
  exact h.1

/-! ### Rounds -/

/-- How many calls a number of attempts allows. One that is too long to be written allows only the first. -/
def allowed (attempts : Nat) : Nat := if Value.isShort attempts then attempts else 1

/-- Rounds one after the other, each over the outcomes that the ones before have left. Between each two calls
of a round stands one pause, and the pauses of every round are the first ones of the same schedule. -/
def Paced (initial cap : Nat) (arguments : List Value) (named : Table) (limit : Nat) :
    List (Except Fault Value) → List (Run Rehearsal.Store Value) → Prop
  | _, [] => True
  | os, r :: rest =>
    beats r.trace = alternating ((upcoming (callsMade limit os) os).map (.call arguments named))
        ((List.range (callsMade limit os - 1)).map fun i => .pause (.int (backoff initial cap i))) ∧
      Paced initial cap arguments named limit (os.drop (told r.trace).length) rest

theorem shown_int (n : Int) :
    (Value.int n).shown 0 = if Value.isShort n then .ok (toString n) else .error .longInteger := by
  unfold Value.shown Value.refusal?
  cases Value.isShort n <;> rfl

theorem beats_of_unwritten (hp : pauseFor p delay = .done seconds) (hshown : p.attempts.shown 0 = .error m)
    (h : Unrolls p name (invocation arguments named) left number delay tries t o) :
    ∃ reply, told t = [reply] ∧ beats t = [.call arguments named reply] := by
  cases h with
  | ends hop hlast hclosing =>
    obtain ⟨reply, rfl, _⟩ := runs_invocation_iff.1 hop
    refine ⟨reply, ?_, ?_⟩
    · rw [told_append, told_of_beats hclosing]
      rfl
    · rw [beats_append, hclosing]
      rfl
  | falters hop hf hbetween =>
    obtain ⟨reply, rfl, _⟩ := runs_invocation_iff.1 hop
    rw [trace_of_interlude hp hshown hbetween]
    exact ⟨reply, rfl, rfl⟩
  | again hop hf hbetween h =>
    obtain ⟨text, written⟩ := shown_of_interlude hbetween
    cases hshown.symm.trans written

theorem timed_run (p : Program α) (st : Rehearsal.Store) :
    (∀ x ∈ (p.run rehearsal st).trace, IsTimed st.timer x) ∧ (p.run rehearsal st).state.timer = st.timer := by
  induction p generalizing st with
  | done a => exact ⟨by simp, rfl⟩
  | fail e => exact ⟨by simp, rfl⟩
  | step r next ih =>
    have kept : (rehearsal.answer r st).2.timer = st.timer := Rehearsal.timer_answer r st
    obtain ⟨timed, rest⟩ := ih (rehearsal.answer r st).1 (rehearsal.answer r st).2
    rw [kept] at timed rest
    refine ⟨?_, rest⟩
    intro x hx
    rcases List.mem_cons.1 hx with rfl | hx
    · rintro seconds reply h
      cases h
      rfl
    · exact timed x hx

section
variable {p : Policy} {initial cap limit span : Nat} (hj : p.jitter = false) (hc : p.maxDelay = .int cap)
  (near : cap * 10 ^ 9 ≤ span) (word : span < 2 ^ 63)
include hj hc near word

theorem not_falters_steady {o : Except Fault α} (hshown : p.attempts.shown 0 = .ok text)
    (timed : ∀ x ∈ t, IsTimed (Timer.system span) x) : ¬ Falters p name number (.int initial) t o := by
  rintro ⟨i, before, between, f, e, rfl, _, _, _, hbetween, _⟩
  rw [doubled_iterate, interlude_eq, pauseFor_steady hj hc, done_bind] at hbetween
  have near' := (Nat.mul_le_mul_right (10 ^ 9) (backoff_le (initial * 2 ^ i) cap 0)).trans near
  have timed' : ∀ x ∈ between, IsTimed (Timer.system span) x := fun x hx => timed x (List.mem_append_right _ hx)
  cases (runs_resting hshown hbetween timed').2 (isBearable_int near' word)

variable (ha : p.attempts = .int (limit + 1)) (hi : p.initialDelay = .int initial)
include ha hi

theorem beats_of_round (name : String) (arguments : List Value) (named : Table) (st : Rehearsal.Store)
    (ht : st.timer = Timer.system span) :
    let r := (retrying p name (invocation arguments named)).run rehearsal st
    let calls := callsMade (allowed (limit + 1)) st.outcomes
    beats r.trace = alternating ((upcoming calls st.outcomes).map (.call arguments named))
      ((List.range (calls - 1)).map fun i => .pause (.int (backoff initial cap i))) := by
  dsimp only
  have shown := shown_int (limit + 1)
  rw [← ha] at shown
  by_cases short : Value.isShort (limit + 1)
  · have all : allowed (limit + 1) = limit + 1 := if_pos (by exact_mod_cast short)
    rw [if_pos short] at shown
    rcases round_of_run ha name arguments named st with falters | ⟨⟨pauses, count, scheduled, hbeats⟩, _⟩
    · rw [hi] at falters
      have timed := (timed_run (retrying p name (invocation arguments named)) st).1
      rw [ht] at timed
      exact absurd falters (not_falters_steady hj hc near word shown timed)
    · rw [hi] at scheduled
      rw [scheduled_steady hj hc scheduled, List.map_map] at hbeats
      rw [all, ← count, Nat.add_sub_cancel, count]
      exact hbeats
  · -- The loop ends before its first pause.
    have one : allowed (limit + 1) = 1 := if_neg (by exact_mod_cast short)
    rw [if_neg short] at shown
    have single : callsMade (allowed (limit + 1)) st.outcomes = 1 := by
      rw [one, callsMade]
      omega
    obtain ⟨tries, h⟩ := unrolls_retrying ha (runs_run rehearsal (retrying p name (invocation arguments named)) st)
    rw [hi] at h
    obtain ⟨reply, heard, hbeats⟩ := beats_of_unwritten (pauseFor_steady hj hc initial) shown h
    have next := (told_run (retrying p name (invocation arguments named)) st).1
    rw [heard] at next
    rw [single, hbeats]
    exact congrArg (List.map (Beat.call arguments named)) next

theorem paced_of_successive (name : String) (arguments : List Value) (named : Table) (times : Nat)
    (st : Rehearsal.Store) (ht : st.timer = Timer.system span) :
    Paced initial cap arguments named (allowed (limit + 1)) st.outcomes
      (successive rehearsal (retrying p name (invocation arguments named)) times st) := by
  induction times generalizing st with
  | zero => trivial
  | succ times ih =>
    refine ⟨beats_of_round hj hc near word ha hi name arguments named st ht, ?_⟩
    rw [← (told_run _ st).2]
    exact ih _ ((timed_run _ st).2.trans ht)

end

/-- Without jitter the pauses of every round are the initial delay doubled again and again, up to the cap, as
whole numbers. If the timer can count to the cap it refuses none of them, none is shorter than the one before or
longer than the cap, and every round starts with the first. -/
theorem retrying_backs_off (initial cap limit span : Nat) (near : cap * 10 ^ 9 ≤ span) (word : span < 2 ^ 63)
    (name : String) (arguments : List Value) (named : Table) (times : Nat) (st : Rehearsal.Store) :
    let p : Policy := ⟨.int (limit + 1), .int initial, .int cap, false⟩
    let timer := Timer.system span
    let runs := successive rehearsal (retrying p name (invocation arguments named)) times { st with timer }
    Paced initial cap arguments named (allowed (limit + 1)) st.outcomes runs ∧
      (∀ i, timer (.int (backoff initial cap i)) = .ok ()) ∧
      Monotone (backoff initial cap) ∧ (∀ i, backoff initial cap i ≤ cap) ∧
      backoff initial cap 0 = min initial cap := by
  intro p timer runs
  refine ⟨paced_of_successive rfl rfl near word rfl rfl name arguments named times { st with timer } rfl, ?_,
    backoff_monotone initial cap, backoff_le initial cap, backoff_zero initial cap⟩
  intro i
  exact system_int ((Nat.mul_le_mul_right (10 ^ 9) (backoff_le initial cap i)).trans near)

def restored : List (Except Fault Value) :=
  List.replicate 3 (.error (.raised .connection none none)) ++ [.ok (.text "ok")]

/-- The pauses in between are one, two and three seconds if the cap is three. -/
theorem restored_backs_off :
    let timer := Timer.system (2 ^ 63 - 1)
    (3 * 10 ^ 9 ≤ 2 ^ 63 - 1 ∧ 2 ^ 63 - 1 < 2 ^ 63) ∧
      beats ((retrying ⟨.int 4, .int 1, .int 3, false⟩ "operation" (invocation [] [])).run rehearsal
        { outcomes := restored, timer }).trace =
      alternating (restored.map (.call [] [])) [.pause (.int 1), .pause (.int 2), .pause (.int 3)] := by
  refine ⟨by decide, ?_⟩
  have paced := (retrying_backs_off 1 3 3 (2 ^ 63 - 1) (by decide) (by decide) "operation" [] [] 1
    { outcomes := restored }).1
  exact paced.1

def lost : Rehearsal.Store where
  outcomes := [.error (.raised .connection none none), .ok (.text "ok")]
  timer := Timer.system (2 ^ 63 - 1)

set_option maxRecDepth 10000 in
/-- A cap that the timer cannot count to ends the round at the first pause, and a delay that is a truth value is
slept as it is. -/
theorem backoff_has_limits :
    let under (p : Policy) := (retrying p "operation" (invocation [] [])).run rehearsal lost
    let far := under ⟨.int 2, .int (10 ^ 10), .int (10 ^ 10), false⟩
    let truth := under ⟨.int 2, .bool true, .int 30, false⟩
    (beats far.trace).drop 1 = [.pause (.int (10 ^ 10))] ∧ far.outcome = .error .uncountablePause ∧
      (beats truth.trace)[1]? = some (.pause (.bool true)) ∧ Value.bool true ≠ .int (backoff 1 30 0) :=
  ⟨rfl, rfl, rfl, nofun⟩

end NodeReclaim.Retry
