import NodeReclaim.Program.Run

/-! The runs of a program, whatever answers it. A run is read off the tree: at each request any
reply may come. Every world gives one of these runs, so what holds of all of them holds in every
world. -/
namespace NodeReclaim

theorem ok_of_bind {x : Except ε α} {f : α → Except ε β} (h : x >>= f = .ok b) :
    ∃ a, x = .ok a ∧ f a = .ok b := by
  cases x with
  | error e => cases h
  | ok a => exact ⟨a, rfl, h⟩

theorem mapError_eq_ok_iff {x : Except ε α} {f : ε → ε'} : x.mapError f = .ok a ↔ x = .ok a := by
  constructor
  · intro h
    cases x <;> cases h
    rfl
  · rintro rfl
    rfl

namespace Program

/-- Some replies make the program exchange `t` and end with `o`. -/
def Runs : Program α → List Exchange → Except Fault α → Prop
  | done a, t, o => t = [] ∧ o = .ok a
  | fail e, t, o => t = [] ∧ o = .error e
  | step r next, t, o => ∃ x rest, t = ⟨r, x⟩ :: rest ∧ Runs (next x) rest o

theorem runs_run (w : World σ) (p : Program α) (s : σ) :
    Runs p (p.run w s).trace (p.run w s).outcome := by
  induction p generalizing s with
  | done a => exact ⟨rfl, rfl⟩
  | fail e => exact ⟨rfl, rfl⟩
  | step r next ih => exact ⟨(w.answer r s).1, _, rfl, ih _ _⟩

theorem forall_mem_trace {w : World σ} {expected : Exchange → Prop}
    (h : ∀ r st, expected ⟨r, (w.answer r st).1⟩) (p : Program α) (st : σ) :
    ∀ x ∈ (p.run w st).trace, expected x := by
  induction p generalizing st with
  | done a => simp
  | fail e => simp
  | step r next ih =>
    intro x hx
    rcases List.mem_cons.1 hx with rfl | hx
    · exact h r st
    · exact ih _ _ x hx

@[simp] theorem runs_ofExcept_iff {m : Except Fault α} :
    Runs (ofExcept m) t o ↔ t = [] ∧ o = m := by
  cases m <;> exact Iff.rfl

@[simp] theorem runs_misuse_iff {m : Except Misuse α} :
    Runs (misuse m) t o ↔ t = [] ∧ o = m.mapError .misuse := runs_ofExcept_iff

theorem misuse_ok (a : α) : misuse (.ok a) = done a := rfl

@[simp] theorem run_ofExcept (w : World σ) (st : σ) (m : Except Fault α) :
    (ofExcept m).run w st = ⟨[], m, st⟩ := by
  cases m <;> rfl

theorem runs_bind_iff {p : Program α} {f : α → Program β} :
    Runs (p >>= f) t o ↔
      (∃ e, o = .error e ∧ Runs p t (.error e)) ∨
        ∃ a t₁ t₂, t = t₁ ++ t₂ ∧ Runs p t₁ (.ok a) ∧ Runs (f a) t₂ o := by
  induction p generalizing t with
  | done a =>
    constructor
    · intro h
      exact .inr ⟨a, [], t, rfl, ⟨rfl, rfl⟩, h⟩
    · rintro (⟨e, _, _, h⟩ | ⟨_, _, t₂, rfl, ⟨rfl, h⟩, h₂⟩)
      · cases h
      · cases h
        exact h₂
  | fail e =>
    constructor
    · rintro ⟨rfl, rfl⟩
      exact .inl ⟨e, rfl, rfl, rfl⟩
    · rintro (⟨_, rfl, rfl, h⟩ | ⟨_, _, _, _, ⟨_, h⟩, _⟩)
      · cases h
        exact ⟨rfl, rfl⟩
      · cases h
  | step r next ih =>
    simp only [step_bind, Runs, ih]
    constructor
    · rintro ⟨x, rest, rfl, ⟨e, ho, h⟩ | ⟨a, t₁, t₂, rfl, h₁, h₂⟩⟩
      · exact .inl ⟨e, ho, x, rest, rfl, h⟩
      · exact .inr ⟨a, _, t₂, rfl, ⟨x, t₁, rfl, h₁⟩, h₂⟩
    · rintro (⟨e, ho, x, rest, rfl, h⟩ | ⟨a, _, t₂, rfl, ⟨x, t₁, rfl, h₁⟩, h₂⟩)
      · exact ⟨x, rest, rfl, .inl ⟨e, ho, h⟩⟩
      · exact ⟨x, t₁ ++ t₂, rfl, .inr ⟨a, t₁, t₂, rfl, h₁, h₂⟩⟩

theorem runs_bind_ok_iff {p : Program α} {f : α → Program β} :
    Runs (p >>= f) t (.ok b) ↔
      ∃ a t₁ t₂, t = t₁ ++ t₂ ∧ Runs p t₁ (.ok a) ∧ Runs (f a) t₂ (.ok b) := by
  simp [runs_bind_iff]

theorem runs_bind_ofExcept_iff {p : Program α} {g : α → Except Fault β} :
    Runs (p >>= fun a => ofExcept (g a)) t o ↔ ∃ o', Runs p t o' ∧ o = o' >>= g := by
  simp only [runs_bind_iff, runs_ofExcept_iff]
  constructor
  · rintro (⟨e, rfl, h⟩ | ⟨a, t₁, _, rfl, h, rfl, rfl⟩)
    · exact ⟨_, h, rfl⟩
    · rw [List.append_nil]
      exact ⟨_, h, rfl⟩
  · rintro ⟨e | a, h, rfl⟩
    · exact .inl ⟨e, rfl, h⟩
    · exact .inr ⟨a, t, [], by simp, h, rfl, rfl⟩

theorem runs_attempt_iff {p : Program α} :
    Runs p.attempt t o ↔ ∃ o', o = .ok o' ∧ Runs p t o' := by
  induction p generalizing t with
  | done a =>
    constructor
    · rintro ⟨rfl, rfl⟩
      exact ⟨.ok a, rfl, rfl, rfl⟩
    · rintro ⟨_, rfl, rfl, rfl⟩
      exact ⟨rfl, rfl⟩
  | fail e =>
    constructor
    · rintro ⟨rfl, rfl⟩
      exact ⟨.error e, rfl, rfl, rfl⟩
    · rintro ⟨_, rfl, rfl, rfl⟩
      exact ⟨rfl, rfl⟩
  | step r next ih =>
    simp only [attempt, Runs, ih]
    constructor
    · rintro ⟨x, rest, rfl, o', rfl, h⟩
      exact ⟨o', rfl, x, rest, rfl, h⟩
    · rintro ⟨o', rfl, x, rest, rfl, h⟩
      exact ⟨x, rest, rfl, o', rfl, h⟩

theorem attempt_bind (p : Program α) (f : α → Program β) :
    (p >>= f).attempt = p.attempt >>= fun
      | .ok a => (f a).attempt
      | .error e => done (.error e) := by
  induction p with
  | done a => rfl
  | fail e => rfl
  | step r next ih => simp only [step_bind, attempt, ih]

theorem runs_attempt_bind_iff {p : Program α} {f : Except Fault α → Program β} :
    Runs (p.attempt >>= f) t o ↔ ∃ o' t₁ t₂, t = t₁ ++ t₂ ∧ Runs p t₁ o' ∧ Runs (f o') t₂ o := by
  rw [runs_bind_iff]
  constructor
  · rintro (⟨e, _, h⟩ | ⟨_, t₁, t₂, ht, h₁, h₂⟩)
    · obtain ⟨_, h, _⟩ := runs_attempt_iff.1 h
      cases h
    · obtain ⟨o', h, h₁⟩ := runs_attempt_iff.1 h₁
      cases h
      exact ⟨_, t₁, t₂, ht, h₁, h₂⟩
  · rintro ⟨o', t₁, t₂, ht, h₁, h₂⟩
    exact .inr ⟨o', t₁, t₂, ht, runs_attempt_iff.2 ⟨o', rfl, h₁⟩, h₂⟩

theorem runs_recover_iff {p : Program α} {handler : Fault → Program α} :
    Runs (p.recover handler) t o ↔
      (∃ a, o = .ok a ∧ Runs p t (.ok a)) ∨
        ∃ e t₁ t₂, t = t₁ ++ t₂ ∧ Runs p t₁ (.error e) ∧ Runs (handler e) t₂ o := by
  rw [recover_eq, runs_attempt_bind_iff]
  constructor
  · rintro ⟨_ | a, t₁, t₂, rfl, h₁, h₂⟩
    · exact .inr ⟨_, t₁, t₂, rfl, h₁, h₂⟩
    · obtain ⟨rfl, rfl⟩ := h₂
      exact .inl ⟨a, rfl, by simpa using h₁⟩
  · rintro (⟨a, rfl, h⟩ | ⟨e, t₁, t₂, rfl, h₁, h₂⟩)
    · exact ⟨.ok a, t, [], by simp, h, rfl, rfl⟩
    · exact ⟨.error e, t₁, t₂, rfl, h₁, h₂⟩

/-! ### Requests

A request alone gives one exchange, whose reply is the outcome or holds it. -/

theorem runs_ask_iff : Runs (ask r) t o ↔ ∃ x, t = [⟨r, x⟩] ∧ o = .ok x := by
  constructor
  · rintro ⟨x, rest, rfl, rfl, rfl⟩
    exact ⟨x, rfl, rfl⟩
  · rintro ⟨x, rfl, rfl⟩
    exact ⟨x, [], rfl, rfl, rfl⟩

theorem runs_ask_bind_iff {f : r.Reply → Program β} :
    Runs (ask r >>= f) t o ↔ ∃ x rest, t = ⟨r, x⟩ :: rest ∧ Runs (f x) rest o := Iff.rfl

def logExchange (level : Level) (area : Area) (text : String) : Exchange :=
  ⟨.log { level, area, text }, ()⟩

@[simp] theorem runs_log_bind_iff {f : Unit → Program β} :
    Runs (log level area text >>= f) t o ↔
      ∃ rest, t = logExchange level area text :: rest ∧ Runs (f ()) rest o :=
  ⟨fun ⟨(), rest, h⟩ => ⟨rest, h⟩, fun ⟨rest, h⟩ => ⟨(), rest, h⟩⟩

theorem runs_require_iff {r : Request} {h : r.Reply = Except Fault α} :
    Runs (require r h) t o ↔ ∃ x, t = [⟨r, x⟩] ∧ o = h ▸ x := by
  rw [require, runs_ask_bind_iff]
  constructor
  · rintro ⟨x, rest, rfl, h⟩
    obtain ⟨rfl, rfl⟩ := runs_ofExcept_iff.1 h
    exact ⟨x, rfl, rfl⟩
  · rintro ⟨x, rfl, rfl⟩
    exact ⟨x, [], rfl, runs_ofExcept_iff.2 ⟨rfl, rfl⟩⟩

/-! ### Which requests a program makes -/

/-- Every request of the program is of such a kind, whatever is replied. -/
def Within (allowed : Request → Prop) : Program α → Prop
  | done _ | fail _ => True
  | step r next => allowed r ∧ ∀ x, Within allowed (next x)

theorem Within.bind {p : Program α} {f : α → Program β} (hp : p.Within allowed)
    (hf : ∀ a, (f a).Within allowed) : (p >>= f).Within allowed := by
  induction p with
  | done a => exact hf a
  | fail e => trivial
  | step r next ih => exact ⟨hp.1, fun x => ih x (hp.2 x)⟩

theorem within_ofExcept (m : Except Fault α) : (ofExcept m).Within allowed := by
  cases m <;> trivial

theorem within_ask (h : allowed r) : (ask r).Within allowed := ⟨h, fun _ => trivial⟩

theorem within_require {r : Request} {h : r.Reply = Except Fault α} (hr : allowed r) :
    (require r h).Within allowed :=
  (within_ask hr).bind fun _ => within_ofExcept _

theorem Within.of_runs {p : Program α} (hp : p.Within allowed) (h : Runs p t o) :
    ∀ x ∈ t, allowed x.request := by
  induction p generalizing t with
  | done a => simp [h.1]
  | fail e => simp [h.1]
  | step r next ih =>
    obtain ⟨y, rest, rfl, h⟩ := h
    intro x hx
    rcases List.mem_cons.1 hx with rfl | hx
    · exact hp.1
    · exact ih y (hp.2 y) h x hx

theorem Within.filterMap_eq_nil {p : Program α} {f : Exchange → Option β} (hp : p.Within allowed)
    (hf : ∀ r x, allowed r → f ⟨r, x⟩ = none) (h : Runs p t o) : t.filterMap f = [] :=
  List.filterMap_eq_nil_iff.2 fun x hx => hf x.request x.reply (hp.of_runs h x hx)

theorem Within.mono {p : Program α} (hp : p.Within allowed) (h : ∀ r, allowed r → allowed' r) :
    p.Within allowed' := by
  induction p with
  | done a => trivial
  | fail e => trivial
  | step r next ih => exact ⟨h r hp.1, fun x => ih x (hp.2 x)⟩

theorem Within.attempt {p : Program α} (hp : p.Within allowed) : p.attempt.Within allowed := by
  induction p with
  | done a => trivial
  | fail e => trivial
  | step r next ih => exact ⟨hp.1, fun x => ih x (hp.2 x)⟩

theorem Within.recover {p : Program α} {handler : Fault → Program α} (hp : p.Within allowed)
    (hhandler : ∀ f, (handler f).Within allowed) : (p.recover handler).Within allowed := by
  induction p with
  | done a => trivial
  | fail e => exact hhandler e
  | step r next ih => exact ⟨hp.1, fun x => ih x (hp.2 x)⟩

theorem Within.foldlM {turn : β → ρ → Program β} (hturn : ∀ b x, (turn b x).Within allowed) (xs : List ρ)
    (b : β) : (xs.foldlM turn b).Within allowed := by
  induction xs generalizing b with
  | nil => trivial
  | cons x xs ih =>
    rw [List.foldlM_cons]
    exact (hturn b x).bind ih

theorem within_misuse (m : Except Misuse α) : (misuse m).Within allowed := within_ofExcept _

theorem Within.keeps {w : World σ} {kept : σ → Prop} {p : Program α} (hp : p.Within allowed)
    (answers : ∀ {st r}, kept st → allowed r → kept (w.answer r st).2) (h : kept st) :
    kept (p.run w st).state := by
  induction p generalizing st with
  | done a => exact h
  | fail e => exact h
  | step r next ih => exact ih _ (hp.2 _) (answers h hp.1)

theorem keeps_bind {w : World σ} {kept : σ → Prop} {p : Program α} {f : α → Program β}
    (hp : kept (p.run w st).state)
    (hf : ∀ a, (p.run w st).outcome = .ok a → kept ((f a).run w (p.run w st).state).state) :
    kept ((p >>= f).run w st).state := by
  rw [run_bind]
  cases h : (p.run w st).outcome with
  | ok a => exact hf a h
  | error e => exact hp

/-! ### What a program returns -/

/-- Every value that the program returns has the property, whatever is replied. -/
def Yields (good : α → Prop) : Program α → Prop
  | done a => good a
  | fail _ => True
  | step _ next => ∀ x, Yields good (next x)

theorem Yields.after {f : α → Program β} (hf : ∀ a, (f a).Yields good) (p : Program α) :
    (p >>= f).Yields good := by
  induction p with
  | done a => exact hf a
  | fail e => trivial
  | step r next ih => exact ih

theorem Yields.mono {p : Program α} (hp : p.Yields good) (h : ∀ a, good a → good' a) : p.Yields good' := by
  induction p with
  | done a => exact h a hp
  | fail e => trivial
  | step r next ih => exact fun x => ih x (hp x)

theorem Yields.of_runs {p : Program α} (hp : p.Yields good) (h : Runs p t (.ok a)) : good a := by
  induction p generalizing t with
  | done a =>
    cases h.2
    exact hp
  | fail e => cases h.2
  | step r next ih =>
    obtain ⟨x, rest, rfl, h⟩ := h
    exact ih x (hp x) h

/-! ### What a program does under some replies

A provider need not answer in every way. What is expected of it is a property of its exchanges. -/

/-- As long as every exchange is as expected, the outcome has the property. -/
def Ensures (expected : Exchange → Prop) (post : Except Fault α → Prop) : Program α → Prop
  | done a => post (.ok a)
  | fail e => post (.error e)
  | step r next => ∀ x, expected ⟨r, x⟩ → Ensures expected post (next x)

section
variable {expected : Exchange → Prop}

theorem Ensures.mono {p : Program α} (hp : p.Ensures expected post)
    (h : ∀ o, post o → post' o) : p.Ensures expected post' := by
  induction p with
  | done a => exact h _ hp
  | fail e => exact h _ hp
  | step r next ih => exact fun x hx => ih x (hp x hx)

theorem Ensures.of_runs {p : Program α} (hp : p.Ensures expected post) (h : Runs p t o)
    (ht : ∀ x ∈ t, expected x) : post o := by
  induction p generalizing t with
  | done a =>
    rw [h.2]
    exact hp
  | fail e =>
    rw [h.2]
    exact hp
  | step r next ih =>
    obtain ⟨x, rest, rfl, h⟩ := h
    have hx : expected ⟨r, x⟩ := ht _ List.mem_cons_self
    exact ih x (hp x hx) h fun y hy => ht y (List.mem_cons_of_mem _ hy)

theorem ensures_bind_iff {p : Program α} {f : α → Program β} :
    (p >>= f).Ensures expected post ↔
      p.Ensures expected fun
        | .ok a => (f a).Ensures expected post
        | .error e => post (.error e) := by
  induction p with
  | done a => rfl
  | fail e => rfl
  | step r next ih => exact forall_congr' fun x => imp_congr_right fun _ => ih x

theorem ensures_attempt_iff {p : Program α} {post : Except Fault (Except Fault α) → Prop} :
    p.attempt.Ensures expected post ↔ p.Ensures expected fun o => post (.ok o) := by
  induction p with
  | done a => rfl
  | fail e => rfl
  | step r next ih => exact forall_congr' fun x => imp_congr_right fun _ => ih x

theorem ensures_recover_iff {p : Program α} {handler : Fault → Program α} :
    (p.recover handler).Ensures expected post ↔
      p.Ensures expected fun
        | .ok a => post (.ok a)
        | .error e => (handler e).Ensures expected post := by
  induction p with
  | done a => rfl
  | fail e => rfl
  | step r next ih => exact forall_congr' fun x => imp_congr_right fun _ => ih x

theorem ensures_ofExcept_iff {m : Except Fault α} :
    (ofExcept m).Ensures expected post ↔ post m := by
  cases m <;> rfl

theorem ensures_require_iff {r : Request} {h : r.Reply = Except Fault α} :
    (require r h).Ensures expected post ↔ ∀ x, expected ⟨r, x⟩ → post (h ▸ x) := by
  apply forall_congr'
  intro x
  exact imp_congr_right fun _ => ensures_ofExcept_iff

/-- As long as every exchange is as expected, the program returns, with such a value. -/
def Returns (expected : Exchange → Prop) (good : α → Prop) (p : Program α) : Prop :=
  p.Ensures expected fun o => ∃ a, o = .ok a ∧ good a

namespace Returns

theorem done (h : good a) : (Program.done a).Returns expected good := ⟨a, rfl, h⟩

theorem misuse {m : Except Misuse α} (h : ∃ a, m = .ok a ∧ good a) :
    (Program.misuse m).Returns expected good := by
  obtain ⟨a, rfl, ha⟩ := h
  exact done ha

theorem bind {p : Program α} {f : α → Program β} (hp : p.Returns expected good)
    (hf : ∀ a, good a → (f a).Returns expected good') : (p >>= f).Returns expected good' := by
  apply ensures_bind_iff.2
  apply hp.mono
  rintro _ ⟨a, rfl, ha⟩
  exact hf a ha

theorem mono {p : Program α} (hp : p.Returns expected good) (h : ∀ a, good a → good' a) :
    p.Returns expected good' := by
  apply Ensures.mono hp
  rintro _ ⟨a, rfl, ha⟩
  exact ⟨a, rfl, h a ha⟩

theorem request {f : r.Reply → Program β} (h : ∀ x, expected ⟨r, x⟩ → (f x).Returns expected good) :
    (Program.ask r >>= f).Returns expected good := h

theorem require {r : Request} {hr : r.Reply = Except Fault α}
    (h : ∀ x, expected ⟨r, x⟩ → ∃ a, hr ▸ x = Except.ok a ∧ good a) :
    (Program.require r hr).Returns expected good := ensures_require_iff.2 h

theorem log {f : Unit → Program β} (h : (f ()).Returns expected good) :
    (Program.log level area text >>= f).Returns expected good := request fun _ _ => h

theorem foldlM {turn : β → ρ → Program β} {xs : List ρ}
    (hturn : ∀ b, ∀ x ∈ xs, good b → (turn b x).Returns expected good) (h : good b) :
    (xs.foldlM turn b).Returns expected good := by
  induction xs generalizing b with
  | nil => exact done h
  | cons x xs ih =>
    rw [List.foldlM_cons]
    apply bind (hturn b x List.mem_cons_self h)
    intro b' h'
    exact ih (fun b y hy => hturn b y (List.mem_cons_of_mem _ hy)) h'

theorem of_runs {p : Program α} (hp : p.Returns expected good) (h : Runs p t o)
    (ht : ∀ x ∈ t, expected x) : ∃ a, o = .ok a ∧ good a :=
  Ensures.of_runs hp h ht

end Returns

end

end Program

end NodeReclaim
