/-! What goes wrong when a value of one kind is used where another is needed, and the message for
each case. -/
namespace NodeReclaim

inductive Misuse where
  | unordered (comparison left right : String)
  | operands (operation left right : String)
  | repeated (factor : String)
  | concatenated (kind : String)
  | notInteger (kind : String)
  | notIterable (kind : String)
  | unhashable (kind : String)
  | unformattable (kind : String)
  | joined (position : Nat) (kind : String)
  | missing (owner field : String)
  | formatCode (kind : String)
  | entryKind (position : Nat)
  | entryLength (position length : Nat)
  | overflow
  | longInteger
  | tooDeep
deriving DecidableEq, Repr

namespace Misuse

def inQuotes (s : String) : String := "'" ++ s ++ "'"

def message : Misuse → String
  | unordered comparison left right =>
    inQuotes comparison ++ " not supported between instances of " ++ inQuotes left ++ " and " ++
      inQuotes right
  | operands operation left right =>
    "unsupported operand type(s) for " ++ operation ++ ": " ++ inQuotes left ++ " and " ++
      inQuotes right
  | repeated factor => "can't multiply sequence by non-int of type " ++ inQuotes factor
  | concatenated kind => "can only concatenate " ++ kind ++ " (not \"int\") to " ++ kind
  | notInteger kind => inQuotes kind ++ " object cannot be interpreted as an integer"
  | notIterable kind => inQuotes kind ++ " object is not iterable"
  | unhashable kind => "unhashable type: " ++ inQuotes kind
  | unformattable kind => "unsupported format string passed to " ++ kind ++ ".__format__"
  | joined position kind =>
    "sequence item " ++ toString position ++ ": expected str instance, " ++ kind ++ " found"
  | missing owner field =>
    inQuotes owner ++ " object has no attribute " ++ inQuotes field
  | formatCode kind => "Unknown format code 'f' for object of type " ++ inQuotes kind
  | entryKind position =>
    "cannot convert dictionary update sequence element #" ++ toString position ++ " to a sequence"
  | entryLength position length =>
    "dictionary update sequence element #" ++ toString position ++ " has length " ++
      toString length ++ "; 2 is required"
  | overflow => "int too large to convert to float"
  | longInteger =>
    "Exceeds the limit (4300 digits) for integer string conversion; " ++
      "use sys.set_int_max_str_digits() to increase the limit"
  | tooDeep => "maximum recursion depth exceeded while getting the repr of an object"

end Misuse

end NodeReclaim
