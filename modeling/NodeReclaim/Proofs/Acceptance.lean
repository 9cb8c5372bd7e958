import Mathlib.Data.List.Sort
import Mathlib.Data.String.Basic
import NodeReclaim.Proofs.Unreadable

/-! Which tables make settings. Only the known fields of a table matter, in whatever order they stand: each is
stored as it is, and five of them are checked. A check that cannot be made refuses the configuration like one that
fails. What is not a refusal is a credential that cannot be written into its own: one that is nested too deeply. -/
namespace NodeReclaim

/-! ### Values that can be written -/

namespace Value

mutual

/-- How many collections stand in each other around the innermost value. -/
def depth : Value → Nat
  | list items => itemsDepth items
  | table entries | record entries => entriesDepth entries
  | _ => 0

def itemsDepth : List Value → Nat
  | [] => 0
  | v :: rest => max (v.depth + 1) (itemsDepth rest)

def entriesDepth : List (String × Value) → Nat
  | [] => 0
  | (_, v) :: rest => max (v.depth + 1) (entriesDepth rest)

end

mutual

def hasShortIntegers : Value → Bool
  | int n => isShort n
  | list items => haveShortIntegers items
  | table entries | record entries => entriesHaveShortIntegers entries
  | _ => true

def haveShortIntegers : List Value → Bool
  | [] => true
  | v :: rest => v.hasShortIntegers && haveShortIntegers rest

def entriesHaveShortIntegers : List (String × Value) → Bool
  | [] => true
  | (_, v) :: rest => v.hasShortIntegers && entriesHaveShortIntegers rest

end

theorem or_tooDeep (first rest inner : Nat) :
    (if first ≤ inner then none else some Misuse.tooDeep).or (if rest ≤ inner + 1 then none else some .tooDeep) =
      if max (first + 1) rest ≤ inner + 1 then none else some .tooDeep := by
  by_cases h : first ≤ inner <;> by_cases h' : rest ≤ inner + 1 <;> simp [h, h']

mutual

/-- With short integers only the nesting stands against writing a value. -/
theorem refusal?_eq (v : Value) (levels : Nat) (h : v.hasShortIntegers = true) :
    v.refusal? levels = if v.depth ≤ levels then none else some .tooDeep := by
  cases v with
  | int n =>
    rw [hasShortIntegers] at h
    simp [refusal?, depth, h]
  | list items => exact itemsRefusal?_eq items levels h
  | table entries => exact entriesRefusal?_eq entries levels h
  | record fields => exact entriesRefusal?_eq fields levels h
  | _ => simp [refusal?, depth]

theorem itemsRefusal?_eq (items : List Value) (levels : Nat) (h : haveShortIntegers items = true) :
    itemsRefusal? levels items = if itemsDepth items ≤ levels then none else some .tooDeep := by
  cases items with
  | nil => simp [itemsRefusal?, itemsDepth]
  | cons v rest =>
    obtain ⟨hv, hr⟩ := Bool.and_eq_true_iff.1 h
    cases levels with
    | zero => simp [itemsRefusal?, itemsDepth]
    | succ inner =>
      rw [itemsRefusal?, refusal?_eq v inner hv, itemsRefusal?_eq rest (inner + 1) hr, itemsDepth]
      exact or_tooDeep ..

theorem entriesRefusal?_eq (entries : List (String × Value)) (levels : Nat)
    (h : entriesHaveShortIntegers entries = true) :
    entriesRefusal? levels entries = if entriesDepth entries ≤ levels then none else some .tooDeep := by
  cases entries with
  | nil => simp [entriesRefusal?, entriesDepth]
  | cons e rest =>
    obtain ⟨hv, hr⟩ := Bool.and_eq_true_iff.1 h
    cases levels with
    | zero => simp [entriesRefusal?, entriesDepth]
    | succ inner =>
      rw [entriesRefusal?, refusal?_eq e.2 inner hv, entriesRefusal?_eq rest (inner + 1) hr, entriesDepth]
      exact or_tooDeep ..

end

end Value

/-! ### Tables with the same entries -/

namespace Table

end Table

namespace Settings
open Program

/-! ### The unknown keys -/

def nested : Nat → Value
  | 0 => .int 1
  | n + 1 => .table [("a", nested n)]

end Settings

end NodeReclaim
