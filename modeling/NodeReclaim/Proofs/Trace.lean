import NodeReclaim.Proofs.Runs

/-! What a trace shows: the deletions that were asked for, the reads, the waits. Each view keeps the
order of the trace. -/
namespace NodeReclaim

inductive Deletion where
  | resource (kind : Kind) (target : Target)
  | group (name : Value)

structure Reading where
  kind : Kind
  target : Target
  reply : Except Fault Value

namespace Reading

def place (r : Reading) : Kind × Target := (r.kind, r.target)

/-- The object that was found, null when there was none. -/
def object (r : Reading) : Value :=
  match r.reply with
  | .ok v => v
  | .error _ => .null

end Reading

namespace Exchange

def deletion? : Exchange → Option Deletion
  | ⟨.beginDelete kind target _, _⟩ | ⟨.delete kind target, _⟩ => some (.resource kind target)
  | ⟨.beginDeleteGroup group _, _⟩ => some (.group group)
  | _ => none

def reading? : Exchange → Option Reading
  | ⟨.get kind target, reply⟩ => some ⟨kind, target, reply⟩
  | _ => none

def listing? : Exchange → Option Listing
  | ⟨.list _, listing⟩ => some listing
  | _ => none

def wait? : Exchange → Option Ticket
  | ⟨.wait ticket _, _⟩ => some ticket
  | _ => none

def pending? : Exchange → Option (Target × Ticket)
  | ⟨.beginDelete _ target _, .ok (some ticket)⟩ => some (target, ticket)
  | _ => none

/-- Log entries, draws and pauses are not seen by the provider. -/
def isLocal (x : Exchange) : Bool :=
  match x.request with
  | .log _ | .draw | .pause _ => true
  | _ => false

end Exchange

def deletions (t : List Exchange) : List Deletion := t.filterMap Exchange.deletion?

def listings (t : List Exchange) : List Listing := t.filterMap Exchange.listing?

def waits (t : List Exchange) : List Ticket := t.filterMap Exchange.wait?

def pendings (t : List Exchange) : List (Target × Ticket) := t.filterMap Exchange.pending?

inductive Step where
  | read (r : Reading)
  | delete (d : Deletion)

namespace Step

def deletion? : Step → Option Deletion
  | read _ => none
  | delete d => some d

def isRead : Step → Bool
  | read _ => true
  | delete _ => false

/-- The reads that no other read follows before the next deletion. -/
def settled : List Step → List Reading
  | [] => []
  | read r :: rest => if (rest.head?).any isRead then settled rest else r :: settled rest
  | delete _ :: rest => settled rest

end Step

def Exchange.step? (x : Exchange) : Option Step :=
  (x.reading?.map .read).or (x.deletion?.map .delete)

def steps (t : List Exchange) : List Step := t.filterMap Exchange.step?

/-- The reads as they ended: a read that is tried again counts with its last answer. -/
def readings (t : List Exchange) : List Reading := Step.settled (steps t)

/-- What the provider sees of a trace. -/
def foreign (t : List Exchange) : List Exchange := t.filter fun x => !x.isLocal

section
variable (t₁ t₂ : List Exchange)

@[simp] theorem deletions_append : deletions (t₁ ++ t₂) = deletions t₁ ++ deletions t₂ :=
  List.filterMap_append

@[simp] theorem waits_append : waits (t₁ ++ t₂) = waits t₁ ++ waits t₂ := List.filterMap_append

@[simp] theorem pendings_append : pendings (t₁ ++ t₂) = pendings t₁ ++ pendings t₂ :=
  List.filterMap_append

@[simp] theorem listings_append : listings (t₁ ++ t₂) = listings t₁ ++ listings t₂ :=
  List.filterMap_append

@[simp] theorem steps_append : steps (t₁ ++ t₂) = steps t₁ ++ steps t₂ := List.filterMap_append

@[simp] theorem foreign_append : foreign (t₁ ++ t₂) = foreign t₁ ++ foreign t₂ :=
  List.filter_append ..

end

theorem deletions_steps (t : List Exchange) : (steps t).filterMap Step.deletion? = deletions t := by
  rw [steps, deletions, List.filterMap_filterMap]
  congr 1
  funext ⟨r, x⟩
  cases r <;> rfl

theorem filterMap_foreign {f : Exchange → Option β} (hf : ∀ x, x.isLocal → f x = none)
    (t : List Exchange) : (foreign t).filterMap f = t.filterMap f := by
  rw [foreign, List.filterMap_filter]
  congr 1
  funext x
  cases h : x.isLocal
  · rfl
  · exact (hf x h).symm

section
variable (t : List Exchange)

theorem deletions_foreign : (foreign t).filterMap Exchange.deletion? = deletions t :=
  filterMap_foreign (fun ⟨r, _⟩ hx => by cases r <;> first | rfl | cases hx) t

theorem listings_foreign : (foreign t).filterMap Exchange.listing? = listings t :=
  filterMap_foreign (fun ⟨r, _⟩ hx => by cases r <;> first | rfl | cases hx) t

theorem waits_foreign : (foreign t).filterMap Exchange.wait? = waits t :=
  filterMap_foreign (fun ⟨r, _⟩ hx => by cases r <;> first | rfl | cases hx) t

theorem pendings_foreign : (foreign t).filterMap Exchange.pending? = pendings t :=
  filterMap_foreign (fun ⟨r, _⟩ hx => by cases r <;> first | rfl | cases hx) t

theorem steps_foreign : (foreign t).filterMap Exchange.step? = steps t :=
  filterMap_foreign (fun ⟨r, _⟩ hx => by cases r <;> first | rfl | cases hx) t

end

namespace Step

theorem settled_reads (rs : List Reading) (r : Reading) (rest : List Step)
    (h : (rest.head?).any isRead = false) :
    settled ((rs ++ [r]).map read ++ rest) = r :: settled rest := by
  induction rs with
  | nil => simp [settled, h]
  | cons r' rs ih =>
    have hr : (((rs ++ [r]).map read ++ rest).head?).any isRead = true := by
      cases rs <;> rfl
    rw [List.cons_append, List.map_cons, List.cons_append, settled, if_pos hr, ih]

end Step

end NodeReclaim
