import NodeReclaim.Value

/-! Kinds of provider resources, the places they are named by, and the tickets of operations that
the provider finishes later. -/
namespace NodeReclaim

inductive Kind where
  | vm
  | nic
  | publicIp
  | disk
  | availabilitySet
  | securityGroup
deriving DecidableEq, Repr

def Kind.label : Kind → String
  | vm => "VM"
  | nic => "NIC"
  | publicIp => "public IP"
  | disk => "disk"
  | availabilitySet => "availability set"
  | securityGroup => "security group"

/-- A resource group and a name in it. Either may be null when it came from a reference that does
not tell. -/
structure Target where
  group : Value
  name : Value

structure Ticket where
  label : String
  number : Nat
deriving DecidableEq, Repr

inductive Service where
  | compute
  | network
  | resource
deriving DecidableEq, Repr

inductive CredentialKind where
  | standard
  | commandLine
deriving DecidableEq, Repr

def CredentialKind.name : CredentialKind → String
  | standard => "default"
  | commandLine => "cli"

end NodeReclaim
