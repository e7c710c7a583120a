import Mathlib.Data.BitVec

/-! Identifiers, principals and instants shared by the kernel and its stores. -/
namespace ProofPlatform.Kernel

/-- A UUID as its 128-bit value, most significant byte first. -/
abbrev Uuid := BitVec 128

/-- The version nibble of octet 6. -/
def Uuid.version (id : Uuid) : Nat := id.toNat / 2 ^ 76 % 2 ^ 4

/-- The RFC 4122 variant: the two high bits of octet 8 are one, zero. -/
def Uuid.isRfc4122 (id : Uuid) : Bool := id.toNat / 2 ^ 62 % 2 ^ 2 == 2

def uuidIsV7 (id : Uuid) : Bool := id.version == 7 && id.isRfc4122

/-- The UUIDv7 with zero time and sequence fields and the given node value. -/
def Uuid.v7 (node : Nat) : Uuid := BitVec.ofNat 128 (7 * 2 ^ 76 + 2 * 2 ^ 62 + node % 2 ^ 62)

structure PrincipalId where
  id : Uuid
  deriving DecidableEq

inductive PrincipalKind where
  | human
  | agent
  | service
  deriving DecidableEq

/-- Nanoseconds since the Unix epoch. -/
abbrev Instant := Int

/-! The data-driven operation registry. -/

inductive Governance where
  | agentExecutable
  | humanOnly
  deriving DecidableEq

inductive VersionStatus where
  | active
  | deprecated
  | sunset
  deriving DecidableEq

structure RegistryEntry where
  operation : String
  domain : String
  version : String
  action : String
  governance : Governance
  benchmark : Option String
  status : VersionStatus

def RegistryEntry.key (entry : RegistryEntry) : String × String := (entry.operation, entry.version)

/-- Entries are indexed by operation and version, which construction keeps distinct. -/
structure Registry where
  entries : List RegistryEntry
  indexed : (entries.map RegistryEntry.key).Nodup

def Registry.find (registry : Registry) (operation version : String) : Option RegistryEntry :=
  registry.entries.find? fun entry => entry.key == (operation, version)

end ProofPlatform.Kernel
