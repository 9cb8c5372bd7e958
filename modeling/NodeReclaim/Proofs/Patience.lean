import NodeReclaim.Proofs.Access
import NodeReclaim.Proofs.Pauses

/-! Which settings the retry loop can be patient with. A check of the settings refuses too few attempts, but
not every kind of attempts and no delay at all; what is wrong with those shows at the first pause, in place of
the provider's own fault. -/
namespace NodeReclaim
open Program

namespace Retry
open Double

/-! ### Loops -/

/-- Draws are proper, and pauses are taken or refused as the timer does. -/
def IsFair (timer : Timer) (x : Exchange) : Prop := (∀ draw, x = ⟨.draw, draw⟩ → IsDraw draw) ∧ IsTimed timer x

def Passes (operation : Program α) (t : List Exchange) (o : Except Fault α) : Prop :=
  ∃ t', t' <:+: t ∧ Runs operation t' o

/-- The number of attempts can be written, and so many pauses can be taken, whatever is drawn. -/
structure Endures (timer : Timer) (p : Policy) (delay : Value) (pauses : Nat) : Prop where
  counted : ∃ text, p.attempts.shown 0 = .ok text
  takeable : ∀ i < pauses, ∀ draw, IsDraw draw → IsTakeable timer p.maxDelay (doubled^[i] delay) draw

theorem Endures.next (h : Endures timer p delay (pauses + 1)) : Endures timer p (doubled delay) pauses where
  counted := h.counted
  takeable i hi := h.takeable (i + 1) (Nat.succ_lt_succ hi)

theorem passes_of_attemptsFrom {operation : Program α} (hj : p.jitter = true) (he : Endures timer p delay left)
    (h : Runs (attemptsFrom p name operation (left + 1) number delay) t o) (fair : ∀ x ∈ t, IsFair timer x) :
    Passes operation t o := by
  -- One attempt and one pause less, from a delay that is doubled.
  induction left generalizing number delay t with
  | zero =>
    obtain ⟨t₁, t₂, _, rfl, h₁, ⟨_, _, rfl⟩ | ⟨_, _, _, more, _⟩⟩ := runs_pass (.inr he.counted) h
    · exact ⟨t₁, (List.prefix_append _ _).isInfix, h₁⟩
    · omega
  | succ left ih =>
    obtain ⟨t₁, t₂, _, rfl, h₁, ⟨_, _, rfl⟩ | ⟨f, _, _, _, h₂⟩⟩ := runs_pass (.inr he.counted) h
    · exact ⟨t₁, (List.prefix_append _ _).isInfix, h₁⟩
    have fair₂ : ∀ x ∈ t₂, IsFair timer x := fun x hx => fair x (List.mem_append_right _ hx)
    rcases runs_bind_iff.1 h₂ with ⟨e, rfl, he'⟩ | ⟨_, between, later, rfl, _, h₃⟩
    · obtain ⟨text, hshown⟩ := he.counted
      rcases runs_interlude hj hshown he' fun x hx => (fair₂ x hx).2 with ⟨draw, drawn, taken⟩ | ⟨_, never⟩
      · cases taken.2 (he.takeable 0 (Nat.succ_pos left) draw ((fair₂ _ drawn).1 draw rfl))
      · exact absurd (he.takeable 0 (Nat.succ_pos left) 0.5 isDraw_half) (never 0.5)
    · obtain ⟨t', inside, ht'⟩ := ih he.next h₃ fun x hx => fair₂ x (List.mem_append_right _ hx)
      exact ⟨t', (inside.trans (List.suffix_append _ _).isInfix).trans (List.suffix_append _ _).isInfix, ht'⟩

/-! ### A provider that never answers -/

def busy : Fault := .raised .http (some "busy") (some 503)

/-- Every request to the provider meets the same fault, and every draw is the same. -/
def stubborn (timer : Timer) (draw : Float) : World Unit where
  answer r _ :=
    match r with
    | .get .. | .beginDelete .. | .delete .. | .beginDeleteGroup .. | .wait .. | .isDone _ | .status _
    | .credential _ | .client .. | .invoke .. => (.error busy, ())
    | .list _ => (⟨[], some busy⟩, ())
    | .pause seconds => (timer seconds, ())
    | .log _ | .print .. => ((), ())
    | .draw => (draw, ())
    | .host => (⟨[], [], []⟩, ())
    | .look _ => (.missing, ())

structure IsStubborn (timer : Timer) (draw : Float) (x : Exchange) : Prop where
  answer : ∀ kind target reply, x = Access.got kind target reply → reply = .error busy
  draw : ∀ drawn, x = ⟨.draw, drawn⟩ → drawn = draw
  timed : IsTimed timer x

theorem isStubborn_trace (timer : Timer) (draw : Float) (p : Program α) :
    ∀ x ∈ (p.run (stubborn timer draw) ()).trace, IsStubborn timer draw x := by
  apply forall_mem_trace
  rintro r ⟨⟩
  refine ⟨?_, ?_, ?_⟩
  · rintro kind target reply h
    cases h
    rfl
  · rintro drawn h
    cases h
    rfl
  · rintro seconds reply h
    cases h
    rfl

theorem own_of_attemptsFrom (hj : p.jitter = true)
    (h : Runs (attemptsFrom p name (require (.get kind target) rfl) (left + 1) number delay) t o)
    (stubborn : ∀ x ∈ t, IsStubborn timer draw x)
    (first : number = 1 ∧ 0 < left ∨ ∃ text, p.attempts.shown 0 = .ok text)
    (fails : ¬ ((∃ text, p.attempts.shown 0 = .ok text) ∧
      ∀ i < left, IsTakeable timer p.maxDelay (doubled^[i] delay) draw)) :
    ∃ e, o = .error e ∧ isOwn e = true := by
  -- The pause that fails comes one attempt earlier from a delay that is doubled.
  induction left generalizing number delay t with
  | zero =>
    have counted := first.resolve_left (by omega)
    exact absurd ⟨counted, fun i hi => absurd hi (Nat.not_lt_zero i)⟩ fails
  | succ left ih =>
    obtain ⟨t₁, t₂, o', rfl, h₁, rest⟩ := runs_pass first h
    have answer : o' = .error busy := by
      obtain ⟨reply, rfl, rfl⟩ := Access.runs_get_iff.1 h₁
      exact (stubborn _ List.mem_cons_self).answer kind target _ rfl
    rcases rest with ⟨settled | last, _⟩ | ⟨f, _, _, _, h₂⟩
    · rw [answer] at settled
      cases settled
    · omega
    have stubborn₂ : ∀ x ∈ t₂, IsStubborn timer draw x := fun x hx => stubborn x (List.mem_append_right _ hx)
    rcases runs_bind_iff.1 h₂ with ⟨e, rfl, he⟩ | ⟨_, between, later, rfl, hb, h₃⟩
    · exact ⟨e, rfl, (inward_interlude p name number delay f _ _ he).2 e rfl⟩
    have counted := shown_of_interlude hb
    apply ih h₃ (fun x hx => stubborn₂ x (List.mem_append_right _ hx)) (.inr counted)
    rintro ⟨_, others⟩
    apply fails
    refine ⟨counted, ?_⟩
    rintro (_ | i) hi
    · obtain ⟨text, hshown⟩ := counted
      have timed : ∀ x ∈ between, IsTimed timer x := fun x hx => (stubborn₂ x (List.mem_append_left _ hx)).timed
      rcases runs_interlude hj hshown hb timed with ⟨drawn, inside, taken⟩ | ⟨failed, _⟩
      · have same : drawn = draw := (stubborn₂ _ (List.mem_append_left _ inside)).draw drawn rfl
        rw [← same]
        exact taken.1 rfl
      · exact absurd rfl failed
    · exact others i (Nat.lt_of_succ_lt_succ hi)

theorem reply_get (kind : Kind) (target : Target) :
    (Request.get kind target).Reply = Except Fault Value := rfl

/-- A read under retry ends as one of its requests ended, whatever the provider answers and whatever is drawn, if
pauses go by the timer: the loop adds no fault of its own. -/
def AddsNoFault (timer : Timer) (p : Policy) : Prop :=
  ∀ (σ : Type) (w : World σ) (st : σ),
    (∀ kind target,
      let operation : Program Value := require (.get kind target) (reply_get kind target)
      let r := (retrying p "get" operation).run w st
      (∀ x ∈ r.trace, IsFair timer x) → Passes operation r.trace r.outcome) ∧
    ∀ group,
      let operation := Access.listOnce group
      let r := (retrying p "list_ids" operation).run w st
      (∀ x ∈ r.trace, IsFair timer x) → Passes operation r.trace r.outcome

theorem passes_of_retrying {operation : Program α} (hj : p.jitter = true)
    (hg : granted p.attempts = .ok (pauses + 1)) (he : Endures timer p p.initialDelay pauses)
    (h : Runs (retrying p name operation) t o) (fair : ∀ x ∈ t, IsFair timer x) : Passes operation t o := by
  unfold retrying at h
  rw [hg, misuse_ok, done_bind] at h
  exact passes_of_attemptsFrom hj he h fair

theorem shown_of_single (h : granted attempts = .ok 1) : ∃ text, attempts.shown 0 = .ok text := by
  cases attempts with
  | bool b => exact ⟨_, rfl⟩
  | int n =>
    have one : n = 1 := by
      have := Except.ok.inj h
      omega
    rw [one]
    exact ⟨_, rfl⟩
  | _ => cases h

/-- Where the loop adds no fault, a read that the provider never answers ends with the provider's fault. -/
theorem AddsNoFault.busy (h : AddsNoFault timer p) (hu : IsDraw draw) (kind : Kind) (target : Target) :
    ((retrying p "get" (require (.get kind target) rfl : Program Value)).run (stubborn timer draw) ()).outcome =
      .error busy := by
  have stubborn := isStubborn_trace timer draw (retrying p "get" (require (.get kind target) rfl : Program Value))
  have fair : ∀ x ∈ ((retrying p "get" (require (.get kind target) rfl : Program Value)).run
      (Retry.stubborn timer draw) ()).trace, IsFair timer x := by
    intro x hx
    refine ⟨?_, (stubborn x hx).timed⟩
    intro drawn same
    rw [(stubborn x hx).draw drawn same]
    exact hu
  obtain ⟨t', inside, ht'⟩ := (h Unit (Retry.stubborn timer draw) ()).1 kind target fair
  obtain ⟨reply, rfl, ho⟩ := Access.runs_get_iff.1 ht'
  have answered := inside.mem List.mem_cons_self
  rw [ho]
  exact (stubborn _ answered).answer kind target reply rfl

theorem endures_of_addsNoFault (hj : p.jitter = true) (h : AddsNoFault timer p) :
    ∃ pauses, granted p.attempts = .ok (pauses + 1) ∧ Endures timer p p.initialDelay pauses := by
  let target : Target := ⟨.null, .null⟩
  let read : Program Value := require (.get .vm target) rfl
  have run (draw : Float) : Runs (retrying p "get" read)
      ((retrying p "get" read).run (stubborn timer draw) ()).trace
      ((retrying p "get" read).run (stubborn timer draw) ()).outcome := runs_run _ _ _
  have ends (draw : Float) (hu : IsDraw draw) :
      ¬ ∃ e, ((retrying p "get" read).run (stubborn timer draw) ()).outcome = .error e ∧ isOwn e = true := by
    rintro ⟨e, he, own⟩
    rw [h.busy hu .vm target] at he
    cases he
    cases own
  have unfolded : retrying p "get" read =
      Program.misuse (granted p.attempts) >>= fun n => attemptsFrom p "get" read n 1 p.initialDelay := rfl
  rw [unfolded] at run ends
  cases hg : granted p.attempts with
  | error m =>
    rw [hg] at ends
    exact absurd ⟨_, rfl, rfl⟩ (ends 0.5 isDraw_half)
  | ok n =>
    cases n with
    | zero =>
      rw [hg] at ends
      exact absurd ⟨_, rfl, rfl⟩ (ends 0.5 isDraw_half)
    | succ pauses =>
      rw [hg, misuse_ok, done_bind] at run ends
      have first : 1 = 1 ∧ 0 < pauses ∨ ∃ text, p.attempts.shown 0 = .ok text := by
        cases pauses with
        | zero => exact .inr (shown_of_single hg)
        | succ pauses => exact .inl ⟨rfl, Nat.succ_pos pauses⟩
      have holds (draw : Float) (hu : IsDraw draw) : (∃ text, p.attempts.shown 0 = .ok text) ∧
          ∀ i < pauses, IsTakeable timer p.maxDelay (doubled^[i] p.initialDelay) draw := by
        by_contra fails
        exact ends draw hu (own_of_attemptsFrom hj (run draw) (isStubborn_trace timer draw _) first fails)
      exact ⟨pauses, rfl, (holds 0.5 isDraw_half).1, fun i hi draw hu => (holds draw hu).2 i hi⟩

theorem addsNoFault_iff (hj : p.jitter = true) :
    AddsNoFault timer p ↔ ∃ pauses, granted p.attempts = .ok (pauses + 1) ∧ Endures timer p p.initialDelay pauses := by
  constructor
  · exact endures_of_addsNoFault hj
  · rintro ⟨pauses, hg, he⟩ σ w st
    exact ⟨fun kind target => passes_of_retrying hj hg he (runs_run w _ st),
      fun group => passes_of_retrying hj hg he (runs_run w _ st)⟩

/-! ### Delays that pauses can be made of -/

def IsDelay (v : Value) : Prop :=
  ∃ a x, v.number? = some a ∧ a.toFloat = .ok x ∧ IsFinite x ∧ 0 ≤ amount x

theorem pauseOf_number (hv : v.number? = some a) (hx : a.toFloat = .ok x) (cap : Value) (draw : Float) :
    pauseOf cap v draw = (Value.float (moved x draw)).capped cap := by
  have spread : quarter v = .ok (x * 0.25) := by
    unfold quarter
    rw [hv]
    dsimp only
    rw [hx]
    rfl
  have jitter : jittered v (x * 0.25) draw = .ok (.float (moved x draw)) := by
    rw [jittered, hv]
    dsimp only
    rw [hx]
    rfl
  rw [pauseOf, spread]
  exact congrArg (· >>= fun v => v.capped cap) jitter

theorem number_of_pauseOf (h : pauseOf cap v draw = .ok seconds) :
    ∃ a x, v.number? = some a ∧ a.toFloat = .ok x := by
  obtain ⟨spread, hq, _⟩ := ok_of_bind h
  unfold quarter at hq
  split at hq
  next a ha =>
    cases hx : a.toFloat with
    | error m =>
      rw [hx] at hq
      cases hq
    | ok x => exact ⟨a, x, ha, hx⟩
  next none =>
    split at hq <;> cases hq

theorem capped_float (cap : Value) (y : Float) :
    (Value.float y).capped cap =
      match cap.number? with
      | some c => .ok (if c.lt (.float y) then cap else .float y)
      | none => .error (.unordered "<" cap.kind "float") := by
  unfold Value.capped
  cases cap <;> simp [Value.less, Value.number?, Value.kind, Except.map]

theorem isBelow_ok (h : Value.isBelow v n = .ok below) :
    ∃ a, v.number? = some a ∧ a.lt (.int n) = below := by
  unfold Value.isBelow at h
  split at h
  next a ha =>
    cases h
    exact ⟨a, ha, rfl⟩
  next => cases h

theorem isTakeable_of_isDelay (hv : IsDelay v) (hcap : cap.isBelow 0 = .ok false) (hu : IsDraw draw)
    (written : ∀ seconds, pauseOf cap v draw = .ok seconds → ∃ text, seconds.fixed 2 = .ok text)
    (short : ∀ seconds, pauseOf cap v draw = .ok seconds → ∀ a, seconds.number? = some a → Timer.fits span a = true) :
    IsTakeable (Timer.system span) cap v draw := by
  obtain ⟨a, x, ha, hx, finite, nonneg⟩ := hv
  obtain ⟨c, hc, above⟩ := isBelow_ok hcap
  obtain ⟨drawn, lo, hi⟩ := hu.bounds
  have paused := pauseOf_number ha hx cap draw
  rw [capped_float, hc] at paused
  have amount : ∃ b, (if c.lt (.float (moved x draw)) then cap else .float (moved x draw)).number? = some b ∧
      b.lt (.int 0) = false ∧ (b.compare? (.int 0)).isSome = true := by
    cases less : c.lt (.float (moved x draw)) with
    | true => exact ⟨c, hc, above, ordered_of_lt less 0⟩
    | false => exact ⟨_, rfl, (moved_nonneg finite drawn nonneg lo hi).not_below_zero⟩
  obtain ⟨b, hb, upward⟩ := amount
  exact ⟨_, paused, written _ paused, (Timer.within_ok_iff hb).2 ⟨(Timer.isUpward_iff b).2 upward, short _ paused b hb⟩⟩

theorem amount_of_isBearable (h : IsBearable (Timer.system span) seconds) :
    ∃ a, seconds.number? = some a ∧ (a.lt (.int 0) = false ∧ (a.compare? (.int 0)).isSome = true) ∧
      Timer.fits span a = true := by
  obtain ⟨text, written⟩ := h.written
  obtain ⟨a, ha⟩ := number_of_fixed written
  obtain ⟨upward, short⟩ := (Timer.within_ok_iff ha).1 h.taken
  exact ⟨a, ha, (Timer.isUpward_iff a).1 upward, short⟩

def lesser (x draw : Float) (c : Number) : Number :=
  if c.lt (.float (moved x draw)) then c else .float (moved x draw)

theorem amounts_of_isTakeable (h : IsTakeable (Timer.system span) cap v draw) :
    ∃ a x c, v.number? = some a ∧ a.toFloat = .ok x ∧ cap.number? = some c ∧
      (lesser x draw c).lt (.int 0) = false ∧ ((lesser x draw c).compare? (.int 0)).isSome = true := by
  obtain ⟨seconds, hs, bearable⟩ := h
  obtain ⟨b, hb, taken, _⟩ := amount_of_isBearable bearable
  obtain ⟨a, x, ha, hx⟩ := number_of_pauseOf hs
  rw [pauseOf_number ha hx, capped_float] at hs
  cases hc : cap.number? with
  | none =>
    rw [hc] at hs
    cases hs
  | some c =>
    refine ⟨a, x, c, ha, hx, rfl, ?_⟩
    have chosen : lesser x draw c = b := by
      rw [hc] at hs
      rw [← Except.ok.inj hs] at hb
      unfold lesser
      split at hb
      next less =>
        rw [if_pos less]
        exact Option.some.inj (hc.symm.trans hb)
      next more =>
        rw [if_neg more]
        exact Option.some.inj hb
    rwa [chosen]

/-- The draw in the middle, which leaves the delay as it is, tells whether a delay and a cap can make pauses. -/
theorem isDelay_of_isTakeable (h : IsTakeable (Timer.system span) cap v 0.5) :
    IsDelay v ∧ cap.isBelow 0 = .ok false := by
  obtain ⟨a, x, c, ha, hx, hc, above, ordered⟩ := amounts_of_isTakeable h
  unfold lesser at above ordered
  by_cases finite : IsFinite x
  · obtain ⟨kept, same⟩ := moved_half finite
    have nonneg : 0 ≤ amount x := by
      by_contra negative
      rw [not_le, ← same] at negative
      -- The lesser of the two is below zero, whichever it is.
      split at above
      next less =>
        rw [negative_of_lt less kept negative] at above
        cases above
      next more =>
        rw [Bool.eq_false_iff, Ne, lt_int_iff kept, Int.cast_zero] at above
        exact above negative
    refine ⟨⟨a, x, ha, hx, finite, nonneg⟩, ?_⟩
    rw [Value.isBelow, hc]
    cases below : c.lt (.int 0) with
    | false => exact congrArg Except.ok below
    | true =>
      rw [if_pos (lt_of_negative below kept (same ▸ nonneg)), below] at above
      cases above
  · have none := moved_half_of_not_finite finite
    rw [not_lt_nan none c, if_neg (by decide), compare?_int, compareFloat_nan none] at ordered
    cases ordered

/-- An initial delay that doubles and a cap that so many pauses can be made of, each over within so many
nanoseconds. -/
structure Bears (span : Nat) (cap initial : Value) (pauses : Nat) : Prop where
  delays : ∀ i < pauses, IsDelay (doubled^[i] initial)
  capped : 0 < pauses → cap.isBelow 0 = .ok false
  written : ∀ i < pauses, ∀ draw, IsDraw draw → ∀ seconds,
    pauseOf cap (doubled^[i] initial) draw = .ok seconds → ∃ text, seconds.fixed 2 = .ok text
  short : ∀ i < pauses, ∀ draw, IsDraw draw → ∀ seconds,
    pauseOf cap (doubled^[i] initial) draw = .ok seconds → ∀ a, seconds.number? = some a → Timer.fits span a = true

theorem bears_zero (span : Nat) (cap initial : Value) : Bears span cap initial 0 where
  delays i hi := absurd hi (Nat.not_lt_zero i)
  capped some := absurd some (Nat.lt_irrefl 0)
  written i hi := absurd hi (Nat.not_lt_zero i)
  short i hi := absurd hi (Nat.not_lt_zero i)

theorem endures_iff : Endures (Timer.system span) p delay pauses ↔
    (∃ text, p.attempts.shown 0 = .ok text) ∧ Bears span p.maxDelay delay pauses := by
  constructor
  · rintro ⟨counted, takeable⟩
    refine ⟨counted, ?_, ?_, ?_, ?_⟩
    · intro i hi
      exact (isDelay_of_isTakeable (takeable i hi 0.5 isDraw_half)).1
    · intro some
      exact (isDelay_of_isTakeable (takeable 0 some 0.5 isDraw_half)).2
    · intro i hi draw hu seconds hs
      obtain ⟨_, hs', bearable⟩ := takeable i hi draw hu
      cases hs.symm.trans hs'
      exact bearable.written
    · intro i hi draw hu seconds hs a ha
      obtain ⟨_, hs', bearable⟩ := takeable i hi draw hu
      cases hs.symm.trans hs'
      obtain ⟨_, hb, _, short⟩ := amount_of_isBearable bearable
      cases ha.symm.trans hb
      exact short
  · rintro ⟨counted, bears⟩
    refine ⟨counted, ?_⟩
    intro i hi draw hu
    exact isTakeable_of_isDelay (bears.delays i hi) (bears.capped (Nat.zero_lt_of_lt hi)) hu
      (bears.written i hi draw hu) (bears.short i hi draw hu)

theorem granted_iff (attempts : Value) (n : Nat) : granted attempts = .ok (n + 1) ↔
    attempts = .bool true ∧ n = 0 ∨ attempts = .int (n + 1) := by
  cases attempts with
  | bool b => cases b <;> simp [granted, eq_comm]
  | int k =>
    simp only [granted, Except.ok.injEq, reduceCtorEq, false_and, false_or, Value.int.injEq]
    omega
  | _ => simp [granted]

/-- Amounts in the range of usual settings can be borne: after so many doublings the delay is still a double, and
no pause is longer than the cap. -/
theorem bears_of_isModerate (hi : initial.number? = some a) (delay : IsModerate k a)
    (hc : cap.number? = some c) (limit : IsModerate m c) (hm : m + 30 ≤ 1023) (few : k + pauses ≤ 1024)
    (far : 2 ^ (m + 30) ≤ span) : Bears span cap initial pauses := by
  have delays (i : Nat) (less : i < pauses) : IsDelay (doubled^[i] initial) := by
    obtain ⟨b, hb, moderate⟩ := delay.iterate hi (show k + i ≤ 1023 by omega)
    obtain ⟨x, hx, finite, nonneg⟩ := moderate.toFloat (by omega)
    exact ⟨b, x, hb, hx, finite, nonneg⟩
  have moderate (i : Nat) (less : i < pauses) (draw : Float) (hu : IsDraw draw) (seconds : Value)
      (hs : pauseOf cap (doubled^[i] initial) draw = .ok seconds) :
      ∃ d, seconds.number? = some d ∧ IsModerate m d := by
    obtain ⟨b, x, hb, hx, finite, nonneg⟩ := delays i less
    obtain ⟨drawn, lo, hi⟩ := hu.bounds
    rw [pauseOf_number hb hx, capped_float, hc] at hs
    rw [← Except.ok.inj hs]
    cases least : c.lt (.float (moved x draw)) with
    | true => exact ⟨c, hc, limit⟩
    | false => exact ⟨_, rfl, limit.of_not_lt (moved_nonneg finite drawn nonneg lo hi) least⟩
  refine ⟨delays, ?_, ?_, ?_⟩
  · intro _
    rw [Value.isBelow, hc]
    exact congrArg Except.ok limit.1
  · intro i less draw hu seconds hs
    obtain ⟨d, hd, bound⟩ := moderate i less draw hu seconds hs
    obtain ⟨y, hy, _⟩ := bound.toFloat (by omega)
    exact fixed_of_toFloat hd hy 2
  · intro i less draw hu seconds hs e he
    obtain ⟨d, hd, bound⟩ := moderate i less draw hu seconds hs
    cases hd.symm.trans he
    exact bound.fits hm far

end Retry

namespace Settings
open Retry

theorem retryFields_of_read (h : read levels t = .ok s) :
    s.retryAttempts = fieldOf t "retry_max_attempts" ∧
      s.retryInitialDelay = fieldOf t "retry_initial_delay" ∧
      s.retryMaxDelay = fieldOf t "retry_max_delay" := by
  obtain ⟨_, _, h⟩ := ok_of_bind h
  obtain ⟨_, _, h⟩ := ok_of_bind h
  obtain ⟨_, _, h⟩ := ok_of_bind h
  obtain ⟨_, _, h⟩ := ok_of_bind h
  obtain ⟨_, _, h⟩ := ok_of_bind h
  cases h
  exact ⟨rfl, rfl, rfl⟩

/-- Settings that are accepted add no fault to a read exactly if they grant one attempt, or a whole number of
them that can be written and whose pauses the delays can make and the timer can count. -/
theorem addsNoFault_iff_bears (levels span : Nat) (t : Table) :
    match read levels t with
    | .error _ => True
    | .ok s => AddsNoFault (Timer.system span) (Access.policy s) ↔
        let attempts := fieldOf t "retry_max_attempts"
        attempts = .bool true ∨
          ∃ pauses : Nat, attempts = .int (pauses + 1) ∧ (∃ text, attempts.shown 0 = .ok text) ∧
            Bears span (fieldOf t "retry_max_delay") (fieldOf t "retry_initial_delay") pauses := by
  cases h : read levels t with
  | error e => trivial
  | ok s =>
    obtain ⟨ha, hi, hm⟩ := retryFields_of_read h
    dsimp only
    rw [addsNoFault_iff rfl, ← ha, ← hi, ← hm]
    simp only [endures_iff, granted_iff]
    constructor
    · rintro ⟨pauses, ⟨single, _⟩ | several, counted, bears⟩
      · exact .inl single
      · exact .inr ⟨pauses, several, counted, bears⟩
    · rintro (single | ⟨pauses, several, counted, bears⟩)
      · refine ⟨0, .inl ⟨single, rfl⟩, ?_, bears_zero ..⟩
        exact shown_of_single ((granted_iff _ 0).2 (.inl ⟨single, rfl⟩))
      · exact ⟨pauses, .inr several, counted, bears⟩

/-- The defaults add no fault to a read where a pause of half a minute is taken. -/
theorem defaults_addNoFault (levels : Nat) (h : 2 ^ 35 ≤ span) :
    ∃ s, read levels [] = .ok s ∧ AddsNoFault (Timer.system span) (Access.policy s) := by
  refine ⟨_, rfl, (addsNoFault_iff rfl).2 ⟨2, rfl, endures_iff.2 ⟨⟨_, rfl⟩, ?_⟩⟩⟩
  have delay : IsModerate 0 (.float 1) := by constructor <;> decide
  have cap : IsModerate 5 (.float 30) := by constructor <;> decide
  exact bears_of_isModerate rfl delay rfl cap (by decide) (by decide) h

/-- A delay below zero, which no check refuses. -/
def hasty : Table := [("retry_initial_delay", .float (-1))]

theorem hasty_adds_fault :
    let timer := Timer.system (2 ^ 63 - 1)
    ∃ s, read Value.usualLevels hasty = .ok s ∧
      ((retrying (Access.policy s) "get" (require (.get .vm ⟨.text "rg1", .text "vm1"⟩) rfl : Program Value)).run
        (stubborn timer 0.5) ()).outcome = .error .negativePause ∧
      ¬ AddsNoFault timer (Access.policy s) := by
  refine ⟨_, rfl, (fun faulted => ⟨faulted, ?_⟩) ?_⟩
  · set_option maxRecDepth 10000 in
    rfl
  · intro safe
    have answered := safe.busy isDraw_half .vm ⟨.text "rg1", .text "vm1"⟩
    rw [faulted] at answered
    cases answered

end Settings

end NodeReclaim
