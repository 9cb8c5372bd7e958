import NodeReclaim.Program

/-! Containing faults: whatever ends an operation is logged and becomes a value. -/
namespace NodeReclaim.Program

/-- Runs an operation and logs the fault that ends it, with its cause. A fault whose text cannot be had, and which
would leave from here, is left out. -/
def guarded (description : String) (operation : Program α) : Program (Except Fault α) := do
  match ← operation.attempt with
  | .ok a => pure (.ok a)
  | .error f =>
    ask (.log ⟨.warning, .deletion, description ++ ": " ++ f.message, true⟩)
    pure (.error f)

end NodeReclaim.Program
