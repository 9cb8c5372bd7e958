/-! Outcomes of a step that deletes several resources, in the order of the attempts. -/
namespace NodeReclaim

structure Tally where
  outcomes : List (String × Bool) := []
deriving DecidableEq, Repr

namespace Tally

def record (t : Tally) (name : String) (deleted : Bool) : Tally := ⟨t.outcomes ++ [(name, deleted)]⟩

def allSucceeded (t : Tally) : Bool := t.outcomes.all (·.2)

def failed (t : Tally) : List String := (t.outcomes.filter fun o => !o.2).map (·.1)

theorem failed_record (t : Tally) (name : String) (deleted : Bool) :
    (t.record name deleted).failed = t.failed ++ if deleted then [] else [name] := by
  cases deleted <;> simp [record, failed]

theorem allSucceeded_iff (t : Tally) : t.allSucceeded ↔ t.failed = [] := by
  simp [allSucceeded, failed, List.filter_eq_nil_iff]

end Tally

end NodeReclaim
