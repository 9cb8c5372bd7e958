import NodeReclaim.Rehearsal.World

/-! What the answers of a rehearsal come to: the queue of a key, the object at a place, the operations that were
started. Stores that agree on those answer the same. -/
namespace NodeReclaim

namespace Rehearsal
open Store

/-! ### Queues and objects -/

def Store.queue (s : Store) (key : String) : List Turn :=
  ((s.scripts.find? fun q => q.1 == key).map (·.2)).getD []

theorem takeTurn_turn (s : Store) (key : String) : (s.takeTurn key).1 = (s.queue key).headD {} := by
  unfold takeTurn Store.queue
  rcases s.scripts.find? _ with _ | ⟨_, _ | ⟨turn, rest⟩⟩ <;> rfl

@[simp] theorem objects_takeTurn (s : Store) (key : String) : (s.takeTurn key).2.objects = s.objects := by
  unfold takeTurn
  split <;> rfl

@[simp] theorem draws_takeTurn (s : Store) (key : String) : (s.takeTurn key).2.draws = s.draws := by
  unfold takeTurn
  split <;> rfl

@[simp] theorem timer_takeTurn (s : Store) (key : String) : (s.takeTurn key).2.timer = s.timer := by
  unfold takeTurn
  split <;> rfl

@[simp] theorem outcomes_takeTurn (s : Store) (key : String) : (s.takeTurn key).2.outcomes = s.outcomes := by
  unfold takeTurn
  split <;> rfl

@[simp] theorem operations_takeTurn (s : Store) (key : String) : (s.takeTurn key).2.operations = s.operations := by
  unfold takeTurn
  split <;> rfl

@[simp] theorem object?_takeTurn (s : Store) (key : String) (kind : Kind) (place : String) :
    (s.takeTurn key).2.object? kind place = s.object? kind place := by
  simp [object?]

theorem find?_replaced (scripts : List (String × List Turn)) (key key' : String) (turns : List Turn) :
    (scripts.map fun q => if q.1 == key then (key, turns) else q).find? (fun q => q.1 == key') =
      (scripts.find? fun q => q.1 == key').map fun q => if q.1 == key then (key, turns) else q := by
  rw [List.find?_map]
  congr 2
  funext q
  by_cases h : q.1 = key <;> simp [h]

theorem queue_takeTurn (s : Store) (key key' : String) :
    (s.takeTurn key).2.queue key' = if key' = key then (s.queue key).tail else s.queue key' := by
  unfold takeTurn Store.queue
  rcases found : s.scripts.find? fun q => q.1 == key with _ | ⟨k, _ | ⟨turn, rest⟩⟩
  · by_cases h : key' = key <;> simp [h, found]
  · by_cases h : key' = key <;> simp [h, found]
  · simp only [found]
    rw [find?_replaced]
    by_cases h : key' = key
    · have own : k = key := by simpa using List.find?_some found
      simp [h, found, own]
    · rw [if_neg h]
      cases other : s.scripts.find? fun q => q.1 == key' with
      | none => rfl
      | some q =>
        have named : q.1 = key' := by simpa using List.find?_some other
        have unlike : q.1 ≠ key := named ▸ h
        simp [unlike]

theorem object?_removeObject (s : Store) (kind kind' : Kind) (place place' : String) :
    (s.removeObject kind place).object? kind' place' =
      if kind' = kind ∧ place' = place then none else s.object? kind' place' := by
  unfold removeObject object?
  rw [List.find?_filter]
  split
  next same =>
    obtain ⟨rfl, rfl⟩ := same
    rw [List.find?_eq_none.2 fun o _ => by grind]
    rfl
  next other =>
    congr 2
    funext o
    grind

theorem operations_get (kind : Kind) (target : Target) (s : Store) :
    (get kind target s).2.operations = s.operations := by
  have kept := operations_takeTurn s ("get " ++ labelOf kind target)
  unfold get
  generalize s.takeTurn ("get " ++ labelOf kind target) = p at kept ⊢
  obtain ⟨turn, s⟩ := p
  dsimp only at kept ⊢
  split <;> exact kept

theorem operations_delete (kind : Kind) (target : Target) (s : Store) :
    (delete kind target s).2.operations = s.operations := by
  have kept := operations_takeTurn s ("delete " ++ labelOf kind target)
  unfold delete
  generalize s.takeTurn ("delete " ++ labelOf kind target) = p at kept ⊢
  obtain ⟨turn, s⟩ := p
  dsimp only at kept ⊢
  split
  · exact kept
  · split <;> exact kept

theorem operations_draw (s : Store) : (draw s).2.operations = s.operations := by
  unfold draw
  split <;> rfl

theorem operations_reach (s : Store) (goal : Goal) : (s.reach goal).operations = s.operations := by
  cases goal <;> rfl

/-! ### What answers leave alone -/

/-- A part of the store that has nothing to do with turns, objects, groups, operations and draws. -/
structure IsApart (part : Store → α) : Prop where
  takeTurn : ∀ s key, part (s.takeTurn key).2 = part s
  removeObject : ∀ s kind place, part (s.removeObject kind place) = part s
  removeGroup : ∀ s name, part (s.removeGroup name) = part s
  start : ∀ s label course goal, part (s.start label course goal).2 = part s
  draw : ∀ s, part (draw s).2 = part s

theorem isApart_outcomes : IsApart Store.outcomes where
  takeTurn := outcomes_takeTurn
  removeObject _ _ _ := rfl
  removeGroup _ _ := rfl
  start _ _ _ _ := rfl
  draw s := by
    unfold draw
    split <;> rfl

theorem isApart_timer : IsApart Store.timer where
  takeTurn := timer_takeTurn
  removeObject _ _ _ := rfl
  removeGroup _ _ := rfl
  start _ _ _ _ := rfl
  draw s := by
    unfold draw
    split <;> rfl

theorem IsApart.answer {part : Store → α} (h : IsApart part) {r : Request}
    (hr : ∀ arguments named, r ≠ .invoke arguments named) (s : Store) : part (answer r s).2 = part s := by
  cases r with
  | invoke arguments named => exact absurd rfl (hr arguments named)
  | get kind target =>
    simp only [Rehearsal.answer, get]
    split <;> exact h.takeTurn ..
  | beginDelete kind target polling =>
    simp only [Rehearsal.answer, beginDelete]
    split
    · exact h.takeTurn ..
    · split
      · exact h.takeTurn ..
      · split
        · exact (h.removeObject ..).trans (h.takeTurn ..)
        · exact (h.start ..).trans (h.takeTurn ..)
  | delete kind target =>
    simp only [Rehearsal.answer, delete]
    split
    · exact h.takeTurn ..
    · split
      · exact h.takeTurn ..
      · exact (h.removeObject ..).trans (h.takeTurn ..)
  | list group =>
    simp only [Rehearsal.answer, list]
    split <;> exact h.takeTurn ..
  | beginDeleteGroup group polling =>
    simp only [Rehearsal.answer, beginDeleteGroup]
    split
    · exact h.takeTurn ..
    · split
      · exact h.takeTurn ..
      · split
        · exact h.takeTurn ..
        · exact (h.start ..).trans (h.takeTurn ..)
  | wait ticket timeout =>
    simp only [Rehearsal.answer, wait]
    split
    · rfl
    · split
      · rfl
      · split
        · cases ‹Operation›.goal with
          | object kind place => exact h.removeObject ..
          | group name => exact h.removeGroup ..
          | none => rfl
        · rfl
  | draw => exact h.draw s
  | _ => rfl

theorem timer_answer (r : Request) (s : Store) : (answer r s).2.timer = s.timer := by
  cases r with
  | invoke arguments named =>
    simp only [Rehearsal.answer, invoke]
    split <;> rfl
  | _ => exact isApart_timer.answer (fun _ _ h => by cases h) s

/-! ### Stores that agree -/

/-- The stores have the same turns for some keys and the same objects of some kinds, draw the same and have the
same timer. -/
structure Agree (keys : String → Prop) (kinds : Kind → Prop) (s₁ s₂ : Store) : Prop where
  queue : ∀ key, keys key → s₁.queue key = s₂.queue key
  object : ∀ kind place, kinds kind → s₁.object? kind place = s₂.object? kind place
  draws : s₁.draws = s₂.draws
  timer : s₁.timer = s₂.timer

variable {keys : String → Prop} {kinds : Kind → Prop}

namespace Agree

theorem refl (s : Store) : Agree keys kinds s s := ⟨fun _ _ => rfl, fun _ _ _ => rfl, rfl, rfl⟩

theorem trans (h : Agree keys kinds s₁ s₂) (h' : Agree keys kinds s₂ s₃) : Agree keys kinds s₁ s₃ where
  queue key own := (h.queue key own).trans (h'.queue key own)
  object kind place own := (h.object kind place own).trans (h'.object kind place own)
  draws := h.draws.trans h'.draws
  timer := h.timer.trans h'.timer

theorem symm (h : Agree keys kinds s₁ s₂) : Agree keys kinds s₂ s₁ where
  queue key own := (h.queue key own).symm
  object kind place own := (h.object kind place own).symm
  draws := h.draws.symm
  timer := h.timer.symm

theorem mono {keys' : String → Prop} {kinds' : Kind → Prop} (h : Agree keys kinds s₁ s₂)
    (hkeys : ∀ key, keys' key → keys key) (hkinds : ∀ kind, kinds' kind → kinds kind) : Agree keys' kinds' s₁ s₂ where
  queue key own := h.queue key (hkeys key own)
  object kind place own := h.object kind place (hkinds kind own)
  draws := h.draws
  timer := h.timer

theorem takeTurn (h : Agree keys kinds s₁ s₂) (hkey : keys key) :
    (s₁.takeTurn key).1 = (s₂.takeTurn key).1 ∧ Agree keys kinds (s₁.takeTurn key).2 (s₂.takeTurn key).2 := by
  refine ⟨?_, ?_, ?_, ?_, ?_⟩
  · rw [takeTurn_turn, takeTurn_turn, h.queue key hkey]
  · intro key' own
    rw [queue_takeTurn, queue_takeTurn, h.queue key hkey, h.queue key' own]
  · intro kind place own
    rw [object?_takeTurn, object?_takeTurn, h.object kind place own]
  · rw [draws_takeTurn, draws_takeTurn, h.draws]
  · rw [timer_takeTurn, timer_takeTurn, h.timer]

theorem removeObject (h : Agree keys kinds s₁ s₂) (kind : Kind) (place : String) :
    Agree keys kinds (s₁.removeObject kind place) (s₂.removeObject kind place) where
  queue key own := h.queue key own
  object kind' place' own := by rw [object?_removeObject, object?_removeObject, h.object kind' place' own]
  draws := h.draws
  timer := h.timer

theorem reach (h : Agree keys kinds s₁ s₂) (goal : Goal) : Agree keys kinds (s₁.reach goal) (s₂.reach goal) := by
  cases goal with
  | object kind place => exact h.removeObject kind place
  | group name => exact ⟨h.queue, h.object, h.draws, h.timer⟩
  | none => exact h

theorem get (h : Agree keys kinds s₁ s₂) (target : Target) (hkey : keys ("get " ++ labelOf kind target))
    (hkind : kinds kind) :
    (Rehearsal.get kind target s₁).1 = (Rehearsal.get kind target s₂).1 ∧
      Agree keys kinds (Rehearsal.get kind target s₁).2 (Rehearsal.get kind target s₂).2 := by
  have taken := h.takeTurn hkey
  unfold Rehearsal.get
  generalize s₁.takeTurn ("get " ++ labelOf kind target) = p₁ at taken ⊢
  generalize s₂.takeTurn ("get " ++ labelOf kind target) = p₂ at taken ⊢
  obtain ⟨turn, s₁⟩ := p₁
  obtain ⟨_, s₂⟩ := p₂
  obtain ⟨rfl, agree⟩ := taken
  dsimp only at agree ⊢
  rw [agree.object kind (Rehearsal.place target) hkind]
  split <;> exact ⟨rfl, agree⟩

theorem delete (h : Agree keys kinds s₁ s₂) (target : Target) (hkey : keys ("delete " ++ labelOf kind target))
    (hkind : kinds kind) :
    (Rehearsal.delete kind target s₁).1 = (Rehearsal.delete kind target s₂).1 ∧
      Agree keys kinds (Rehearsal.delete kind target s₁).2 (Rehearsal.delete kind target s₂).2 := by
  have taken := h.takeTurn hkey
  unfold Rehearsal.delete
  generalize s₁.takeTurn ("delete " ++ labelOf kind target) = p₁ at taken ⊢
  generalize s₂.takeTurn ("delete " ++ labelOf kind target) = p₂ at taken ⊢
  obtain ⟨turn, s₁⟩ := p₁
  obtain ⟨_, s₂⟩ := p₂
  obtain ⟨rfl, agree⟩ := taken
  dsimp only at agree ⊢
  rw [agree.object kind (Rehearsal.place target) hkind]
  split
  · exact ⟨rfl, agree⟩
  · split
    · exact ⟨rfl, agree⟩
    · exact ⟨rfl, agree.removeObject kind _⟩

theorem draw (h : Agree keys kinds s₁ s₂) :
    (Rehearsal.draw s₁).1 = (Rehearsal.draw s₂).1 ∧ Agree keys kinds (Rehearsal.draw s₁).2 (Rehearsal.draw s₂).2 := by
  unfold Rehearsal.draw
  rw [h.draws]
  split
  · exact ⟨rfl, h.queue, h.object, rfl, h.timer⟩
  · exact ⟨rfl, h⟩

end Agree

end Rehearsal
end NodeReclaim
