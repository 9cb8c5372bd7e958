import NodeReclaim.Text.Search

/-! Command-line arguments. Options are taken by name wherever they may stand, and what is left are
the positional arguments. A double hyphen ends the options. -/
namespace NodeReclaim.Command

inductive Switch where
  | config
  | subscription
  | verbose
  | version
  | help
  | report
deriving DecidableEq, Repr

structure Form where
  switch : Switch
  long : String
  takesValue : Bool := false
  short : Option Char := none

/-- An option as it was given; flags have the empty value. -/
structure Given where
  switch : Switch
  value : String
deriving DecidableEq, Repr

structure Scanned where
  options : List Given
  arguments : List String
deriving DecidableEq, Repr

namespace Scanned

def addOption (o : Given) (s : Scanned) : Scanned := { s with options := o :: s.options }

def addFlags (flags : List Switch) (s : Scanned) : Scanned :=
  { s with options := (flags.map fun f => ⟨f, ""⟩) ++ s.options }

def addArgument (a : String) (s : Scanned) : Scanned := { s with arguments := a :: s.arguments }

def value? (s : Scanned) (switch : Switch) : Option String :=
  (s.options.reverse.find? fun o => o.switch == switch).map (·.value)

def has (s : Scanned) (switch : Switch) : Bool := s.options.any fun o => o.switch == switch

end Scanned

def isOption (argument : String) : Bool := argument.startsWith "-" && argument != "-"

def splitValue (argument : String) : String × Option String :=
  match Text.cutAt? '=' argument.toList with
  | some (name, value) => (String.ofList name, some (String.ofList value))
  | none => (argument, none)

def shortFlags (forms : List Form) (argument : String) : Option (List Switch) :=
  if argument.startsWith "--" then none
  else (argument.toList.drop 1).mapM fun c =>
    (forms.find? fun f => f.short == some c).map (·.switch)

/-- Takes the options out of the arguments, none when one is unknown or lacks its value or has one
that it does not take. Unless options may be interspersed, the first argument ends them. -/
def scan (forms : List Form) (interspersed : Bool) : List String → Option Scanned
  | [] => some ⟨[], []⟩
  | argument :: rest =>
    if argument == "--" then some ⟨[], rest⟩
    else if isOption argument then
      let (name, value) := splitValue argument
      match forms.find? fun f => f.long == name with
      | some f =>
        if f.takesValue then
          match value with
          | some v => (scan forms interspersed rest).map (Scanned.addOption ⟨f.switch, v⟩)
          | none =>
            match rest with
            | v :: after => (scan forms interspersed after).map (Scanned.addOption ⟨f.switch, v⟩)
            | [] => none
        else if value.isSome then none
        else (scan forms interspersed rest).map (Scanned.addFlags [f.switch])
      | none => do
        let flags ← shortFlags forms argument
        return (← scan forms interspersed rest).addFlags flags
    else if interspersed then (scan forms interspersed rest).map (Scanned.addArgument argument)
    else some ⟨[], argument :: rest⟩

end NodeReclaim.Command
