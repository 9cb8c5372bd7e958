import NodeReclaim.Fault
import NodeReclaim.Toml.Document
import NodeReclaim.Value.Shown

/-! What settings are read with that is not part of this program: a parser, and an interpreter that writes values
into messages. Nothing is known of a parser but its answers. -/
namespace NodeReclaim

/-- Why a parser makes no table of a text: the text is no document, or the parser fails in a way of its own. -/
inductive ParseError where
  | malformed
  | raised (f : Fault)
deriving DecidableEq, Repr

abbrev Parser := String → Except ParseError Table

/-- A parser that follows the standard and has limits of its own, which others do not have. -/
def Parser.limited : Parser := fun document =>
  (Toml.parse document).mapError fun
    | .malformed => .malformed
    | .oversized digits => .raised (.tooManyDigits digits)
    | .nested => .raised (.tooDeeplyNested Toml.maxDepth)
    | .longKey => .raised (.tooManyKeyParts Toml.maxKeyParts)

structure Runtime where
  parse : Parser
  levels : Nat

def Runtime.usual : Runtime := ⟨.limited, Value.usualLevels⟩

end NodeReclaim
