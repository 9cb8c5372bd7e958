import NodeReclaim.Proofs.Jitter
import NodeReclaim.Proofs.Rounds

/-! A pause under a draw: how long it comes out, and whether it can be written into the warning before it and is
taken by the timer. What is moderate is finite as a double, and a timer takes it that can count as far. -/
namespace NodeReclaim
open Program

/-! ### Timers -/

namespace Timer
open Double

theorem isUpward_iff (a : Number) :
    isUpward a = true ↔ a.lt (.int 0) = false ∧ (a.compare? (.int 0)).isSome = true := by
  unfold isUpward Number.lt
  cases a.compare? (.int 0) with
  | none => simp
  | some o => cases o <;> simp

theorem within_ok_iff {fits : Number → Bool} (h : seconds.number? = some a) :
    within fits seconds = .ok () ↔ isUpward a = true ∧ fits a = true := by
  unfold within
  rw [h]
  cases upward : isUpward a <;> cases fitting : fits a <;> simp [upward, fitting]

theorem fits_int_iff (span : Nat) (n : Int) : fits span (.int n) = true ↔ n * 1000000000 ≤ span :=
  int_le_int_iff ..

end Timer

namespace Retry
open Double

/-! ### Moderate amounts -/

def IsModerate (k : Nat) (a : Number) : Prop := a.lt (.int 0) = false ∧ a.le (.int (2 ^ k)) = true

theorem isModerate_int_iff (k : Nat) (n : Int) : IsModerate k (.int n) ↔ 0 ≤ n ∧ n ≤ 2 ^ k := by
  rw [IsModerate, Bool.eq_false_iff, Ne, int_lt_int_iff, not_lt, int_le_int_iff]

theorem isModerate_float_iff (k : Nat) (x : Float) :
    IsModerate k (.float x) ↔ IsFinite x ∧ 0 ≤ amount x ∧ amount x ≤ 2 ^ k := by
  have bounds (h : IsFinite x) : IsModerate k (.float x) ↔ 0 ≤ amount x ∧ amount x ≤ 2 ^ k := by
    rw [IsModerate, Bool.eq_false_iff, Ne, lt_int_iff h, le_int_iff h, not_lt]
    push_cast
    rfl
  constructor
  · intro h
    have finite := finite_of_bounds h.1 h.2
    exact ⟨finite, (bounds finite).1 h⟩
  · rintro ⟨finite, h⟩
    exact (bounds finite).2 h

theorem IsModerate.toFloat (h : IsModerate k a) (hk : k ≤ 1023) :
    ∃ x, a.toFloat = .ok x ∧ IsFinite x ∧ 0 ≤ amount x := by
  cases a with
  | int n =>
    obtain ⟨lo, hi⟩ := (isModerate_int_iff k n).1 h
    have range : (0 : Int) ≤ 2 ^ k := Int.pow_nonneg (by decide)
    obtain ⟨written, finite⟩ := toFloat_int hk (by omega) hi
    have nonneg : (0 : ℚ) ≤ n := by exact_mod_cast lo
    exact ⟨_, written, finite, ((rounds_ofInt n).below 0 isDouble_zero nonneg).le finite⟩
  | float x =>
    obtain ⟨finite, nonneg, _⟩ := (isModerate_float_iff k x).1 h
    exact ⟨x, rfl, finite, nonneg⟩

theorem IsModerate.doubled (h : IsModerate k a) (hk : k + 1 ≤ 1023) (hv : v.number? = some a) :
    ∃ b, (Retry.doubled v).number? = some b ∧ IsModerate (k + 1) b := by
  unfold Retry.doubled
  rw [hv]
  cases a with
  | int n =>
    obtain ⟨lo, hi⟩ := (isModerate_int_iff k n).1 h
    refine ⟨_, rfl, (isModerate_int_iff _ _).2 ⟨by omega, ?_⟩⟩
    rw [pow_succ]
    omega
  | float x =>
    obtain ⟨finite, nonneg, hi⟩ := (isModerate_float_iff k x).1 h
    obtain ⟨two, value⟩ := amount_two
    have limit : IsDouble (2 ^ (k + 1)) := by
      rw [← zpow_natCast]
      exact isDouble_two_zpow (by omega) (by omega)
    have rounds := rounds_mul finite two
    rw [value] at rounds
    refine ⟨_, rfl, (isModerate_float_iff _ _).2 ?_⟩
    exact rounds.bounded isDouble_zero limit (by linarith) (by rw [pow_succ]; linarith)

theorem IsModerate.iterate (h : IsModerate k a) (hv : v.number? = some a) (hi : k + i ≤ 1023) :
    ∃ b, (Retry.doubled^[i] v).number? = some b ∧ IsModerate (k + i) b := by
  induction i with
  | zero => exact ⟨a, hv, h⟩
  | succ i ih =>
    obtain ⟨b, hb, moderate⟩ := ih (by omega)
    rw [Function.iterate_succ_apply']
    exact moderate.doubled hi hb

theorem fixed_of_toFloat (hv : Value.number? v = some a) (hx : a.toFloat = .ok x) (places : Nat) :
    ∃ text, v.fixed places = .ok text := by
  cases v with
  | bool | int | float =>
    cases hv
    unfold Value.fixed
    dsimp only [Value.number?]
    rw [hx]
    exact ⟨_, rfl⟩
  | _ => cases hv

/-- What a moderate amount and a double that is not below zero have in common: the lesser of the two is moderate. -/
theorem IsModerate.of_not_lt (h : IsModerate k c) (hy : AtLeast y 0) (least : c.lt (.float y) = false) :
    IsModerate k (.float y) := by
  cases c with
  | int n =>
    obtain ⟨_, hi⟩ := (isModerate_int_iff k n).1 h
    rcases hy with ⟨finite, nonneg⟩ | infinite
    · rw [Bool.eq_false_iff, Ne, int_lt_iff finite, not_lt] at least
      have bound : (n : ℚ) ≤ 2 ^ k := by exact_mod_cast hi
      exact (isModerate_float_iff k y).2 ⟨finite, nonneg, least.trans bound⟩
    · rw [Number.lt, Number.compare?, compareFloat_infinity infinite] at least
      cases least
  | float x =>
    obtain ⟨finite, lo, hi⟩ := (isModerate_float_iff k x).1 h
    rcases hy with ⟨finite', nonneg⟩ | infinite
    · refine (isModerate_float_iff k y).2 ⟨finite', nonneg, ?_⟩
      by_contra above
      rw [lt_of_amount_lt finite finite' lo (hi.trans_lt (not_le.1 above))] at least
      cases least
    · rw [lt_infinity finite infinite] at least
      cases least

theorem amount_billion : IsFinite 1000000000 ∧ amount 1000000000 = 1000000000 := by
  have word : (1000000000 : Float).toModel.unpack = stored .positive (1000000000 * 2 ^ 23) (-23) := rfl
  refine ⟨⟨.positive, _, _, ⟨by decide, by decide, .inl (by decide)⟩, by decide, word⟩, ?_⟩
  rw [amount, word, amountOf_stored, signed, size]
  norm_num

theorem IsModerate.fits (h : IsModerate k a) (hk : k + 30 ≤ 1023) (hspan : 2 ^ (k + 30) ≤ span) :
    Timer.fits span a = true := by
  have wide : (2 : ℚ) ^ (k + 30) ≤ span := by exact_mod_cast hspan
  have power : (2 : ℚ) ^ (k + 30) = 2 ^ k * 2 ^ 30 := pow_add 2 k 30
  have room : (2 : ℚ) ^ k * 1000000000 ≤ 2 ^ (k + 30) := by
    rw [power]
    exact mul_le_mul_of_nonneg_left (by norm_num) (by positivity)
  cases a with
  | int n =>
    obtain ⟨_, hi⟩ := (isModerate_int_iff k n).1 h
    have bound : (n : ℚ) ≤ 2 ^ k := by exact_mod_cast hi
    have below : n * 1000000000 ≤ span := by
      have : (n : ℚ) * 1000000000 ≤ span := by linarith
      exact_mod_cast this
    exact (Timer.fits_int_iff span n).2 below
  | float x =>
    obtain ⟨finite, lo, hi⟩ := (isModerate_float_iff k x).1 h
    obtain ⟨billion, value⟩ := amount_billion
    have limit : IsDouble (2 ^ (k + 30)) := by
      rw [← zpow_natCast]
      exact isDouble_two_zpow (by omega) (by omega)
    have rounds := rounds_mul finite billion
    rw [value] at rounds
    obtain ⟨finite', _, above⟩ := rounds.bounded isDouble_zero limit (by positivity) (by linarith)
    exact (le_int_iff finite' span).2 (by push_cast; linarith)

/-! ### Pauses under a draw -/

/-- A draw as it comes from the source of chance: not below zero, and below one. -/
def IsDraw (u : Float) : Prop :=
  Number.lt (.float u) (.int 0) = false ∧ Number.lt (.float u) (.int 1) = true

theorem IsDraw.bounds (h : IsDraw u) : IsFinite u ∧ 0 ≤ amount u ∧ amount u ≤ 1 := by
  obtain ⟨lo, hi⟩ := h
  have most : Number.le (.float u) (.int 1) = true := by
    rw [Number.le, beq_iff_eq.1 hi]
    rfl
  have finite := finite_of_bounds lo most
  refine ⟨finite, ?_, ?_⟩
  · by_contra below
    rw [not_le] at below
    rw [← Int.cast_zero, ← lt_int_iff finite, lo] at below
    cases below
  · have := (le_int_iff finite 1).1 most
    rwa [Int.cast_one] at this

theorem isDraw_half : IsDraw 0.5 := by
  constructor <;> decide

/-- The pause that follows a failed attempt, given the draw. -/
def pauseOf (cap delay : Value) (draw : Float) : Except Misuse Value := do
  let spread ← quarter delay
  let moved ← jittered delay spread draw
  moved.capped cap

/-- A pause that can be written with two places and that the timer takes. -/
structure IsBearable (timer : Timer) (seconds : Value) : Prop where
  written : ∃ text, seconds.fixed 2 = .ok text
  taken : timer seconds = .ok ()

def IsTakeable (timer : Timer) (cap delay : Value) (draw : Float) : Prop :=
  ∃ seconds, pauseOf cap delay draw = .ok seconds ∧ IsBearable timer seconds

def IsTimed (timer : Timer) (x : Exchange) : Prop :=
  ∀ seconds reply, x = ⟨.pause seconds, reply⟩ → reply = timer seconds

theorem pauseFor_eq (hj : p.jitter = true) (delay : Value) :
    pauseFor p delay = Program.misuse (quarter delay) >>= fun spread => (ask .draw : Program Float) >>= fun draw =>
      Program.misuse (jittered delay spread draw >>= (·.capped p.maxDelay)) := by
  have after (m : Except Misuse Value) : (Program.misuse m >>= fun moved => Program.misuse (moved.capped p.maxDelay)) =
      Program.misuse (m >>= (·.capped p.maxDelay)) := by
    cases m <;> rfl
  unfold pauseFor
  rw [hj, if_pos rfl]
  simp only [after]

theorem runs_pauseFor (hj : p.jitter = true) (h : Runs (pauseFor p delay) t o) :
    (∃ draw, t = [⟨.draw, draw⟩] ∧ o = (pauseOf p.maxDelay delay draw).mapError .misuse) ∨
      t = [] ∧ ∃ m, quarter delay = .error m ∧ o = .error (.misuse m) := by
  rw [pauseFor_eq hj] at h
  cases hq : quarter delay with
  | error m =>
    rw [hq] at h
    obtain ⟨rfl, rfl⟩ := h
    exact .inr ⟨rfl, m, rfl, rfl⟩
  | ok spread =>
    rw [hq, misuse_ok, done_bind] at h
    obtain ⟨draw, _, rfl, h'⟩ := runs_ask_bind_iff.1 h
    obtain ⟨rfl, rfl⟩ := runs_misuse_iff.1 h'
    refine .inl ⟨draw, rfl, ?_⟩
    rw [pauseOf, hq]
    rfl

theorem outcome_of_pause (h : Runs (pause seconds) t o) (timed : ∀ x ∈ t, IsTimed timer x) :
    o = (timer seconds).mapError .ofPause := by
  obtain ⟨reply, rfl, rfl⟩ := runs_pause_iff.1 h
  rw [timed _ List.mem_cons_self seconds reply rfl]

theorem number_of_fixed (h : Value.fixed places seconds = .ok text) : ∃ a, seconds.number? = some a := by
  cases seconds with
  | bool | int | float => exact ⟨_, rfl⟩
  | _ => cases h

def resting (p : Policy) (name : String) (number : Nat) (f : Fault) (seconds : Value) : Program Unit := do
  let progress ← progress p number
  let shown ← Program.misuse (seconds.fixed 2)
  .log .warning .retry
    (name ++ " failed on attempt " ++ progress ++ ", retrying in " ++ shown ++ "s: " ++ logged f)
  pause seconds

theorem interlude_eq (p : Policy) (name : String) (number : Nat) (delay : Value) (f : Fault) :
    interlude p name number delay f = pauseFor p delay >>= resting p name number f := rfl

theorem runs_resting (hshown : p.attempts.shown 0 = .ok text) (h : Runs (resting p name number f seconds) t o)
    (timed : ∀ x ∈ t, IsTimed timer x) : o = .ok () ↔ IsBearable timer seconds := by
  rw [resting, progress_eq hshown, done_bind] at h
  cases hw : seconds.fixed 2 with
  | error m =>
    rw [hw] at h
    obtain ⟨_, rfl⟩ := h
    refine iff_of_false nofun ?_
    rintro ⟨⟨_, written⟩, _⟩
    cases hw.symm.trans written
  | ok written =>
    rw [hw, misuse_ok, done_bind] at h
    obtain ⟨_, rfl, h'⟩ := runs_log_bind_iff.1 h
    have ends := outcome_of_pause h' fun x hx => timed x (List.mem_cons_of_mem _ hx)
    rw [ends, mapError_eq_ok_iff]
    exact ⟨fun taken => ⟨⟨written, hw⟩, taken⟩, fun bearable => bearable.taken⟩

/-- Between two tries all goes well exactly if the pause can be taken, if only the number of attempts can be
written. -/
theorem runs_interlude (hj : p.jitter = true) (hshown : p.attempts.shown 0 = .ok text)
    (h : Runs (interlude p name number delay f) t o) (timed : ∀ x ∈ t, IsTimed timer x) :
    (∃ draw, (⟨.draw, draw⟩ : Exchange) ∈ t ∧ (o = .ok () ↔ IsTakeable timer p.maxDelay delay draw)) ∨
      o ≠ .ok () ∧ ∀ draw, ¬ IsTakeable timer p.maxDelay delay draw := by
  have untakeable {draw m} (hm : pauseOf p.maxDelay delay draw = .error m) :
      ¬ IsTakeable timer p.maxDelay delay draw := by
    rintro ⟨_, hs, _⟩
    cases hm.symm.trans hs
  rcases runs_bind_iff.1 h with ⟨e, rfl, h₁⟩ | ⟨seconds, t₁, t₂, rfl, h₁, h₂⟩
  · rcases runs_pauseFor hj h₁ with ⟨draw, rfl, ho⟩ | ⟨_, m, hm, _⟩
    · refine .inl ⟨draw, List.mem_singleton_self _, iff_of_false nofun ?_⟩
      cases hp : pauseOf p.maxDelay delay draw with
      | error m => exact untakeable hp
      | ok seconds =>
        rw [hp] at ho
        cases ho
    · refine .inr ⟨nofun, fun draw => untakeable (m := m) ?_⟩
      rw [pauseOf, hm]
      rfl
  · rcases runs_pauseFor hj h₁ with ⟨draw, rfl, ho⟩ | ⟨_, _, _, ho⟩
    swap
    · cases ho
    refine .inl ⟨draw, List.mem_cons_self, ?_⟩
    have paused : pauseOf p.maxDelay delay draw = .ok seconds := mapError_eq_ok_iff.1 ho.symm
    have takeable : IsTakeable timer p.maxDelay delay draw ↔ IsBearable timer seconds := by
      constructor
      · rintro ⟨_, hs, bearable⟩
        cases paused.symm.trans hs
        exact bearable
      · exact fun bearable => ⟨seconds, paused, bearable⟩
    rw [takeable]
    exact runs_resting hshown h₂ fun x hx => timed x (List.mem_append_right _ hx)

end Retry

end NodeReclaim
