import NodeReclaim.Command.Arguments

/-! What a command line asks for. Arguments that cannot be understood are told apart from requests
for help or for the version and from a path that no file can have, which end the reading where they
stand. -/
namespace NodeReclaim.Command

inductive Action where
  | node (id : String) (report : Bool)
  | securityGroup (resourceGroup group : String)
  | group (name : String)
deriving DecidableEq, Repr

structure Invocation where
  config : Option String
  subscription : Option String
  verbose : Bool
  action : Action
deriving DecidableEq, Repr

inductive Wish where
  | run (i : Invocation)
  | help
  | version
  | misused
  | brokenPath
deriving DecidableEq, Repr

def helpForm : Form := ⟨.help, "--help", false, none⟩

def commonForms : List Form :=
  [ ⟨.version, "--version", false, none⟩,
    ⟨.config, "--config", true, none⟩,
    ⟨.subscription, "--subscription", true, none⟩,
    ⟨.verbose, "--verbose", false, some 'v'⟩,
    helpForm ]

inductive Verb where
  | node
  | securityGroup
  | group
deriving DecidableEq, Repr

namespace Verb

def ofName? : String → Option Verb
  | "node" => some node
  | "security-group" => some securityGroup
  | "group" => some group
  | _ => none

def forms : Verb → List Form
  | node => [⟨.report, "--report", false, none⟩, helpForm]
  | securityGroup | group => [helpForm]

def action? (verb : Verb) (s : Scanned) : Option Action :=
  match verb, s.arguments with
  | node, [id] => some (.node id (s.has .report))
  | securityGroup, [resourceGroup, g] => some (.securityGroup resourceGroup g)
  | group, [name] => some (.group name)
  | _, _ => none

end Verb

/-- Whether the path of the settings holds a NUL, as no path of a file does. -/
def hasBrokenPath (s : Scanned) : Bool := ((s.value? .config).getD "").contains '\x00'

/-- What ends the reading by itself: the first option that asks for help or for the version, after
them a path of the settings that no file can have. -/
def aside? (s : Scanned) : Option Wish :=
  let asked := s.options.findSome? fun o =>
    match o.switch with
    | .help => some .help
    | .version => some .version
    | _ => none
  asked.or (if hasBrokenPath s then some .brokenPath else none)

def readVerb (common : Scanned) (verb : Verb) (rest : List String) : Wish :=
  match scan verb.forms true rest with
  | none => .misused
  | some s => (aside? s).getD <|
    match verb.action? s with
    | none => .misused
    | some action => .run {
        config := common.value? .config
        subscription := common.value? .subscription
        verbose := common.has .verbose
        action }

/-- An option in the place of the command may still end the reading by itself. -/
def readUnknown (arguments : List String) : Wish :=
  ((scan commonForms false arguments).bind aside?).getD .misused

def read (arguments : List String) : Wish :=
  match scan commonForms false arguments with
  | none => .misused
  | some common => (aside? common).getD <|
    match common.arguments with
    | [] => .misused
    | name :: rest =>
      match Verb.ofName? name with
      | some verb => readVerb common verb rest
      | none => readUnknown (name :: rest)

end NodeReclaim.Command
