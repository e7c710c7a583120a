import ProofPlatform.Kernel.Identity
import ProofPlatform.Library.Fallible
import ProofPlatform.Library.PrefixPattern

/-! Bounded, time-limited delegation: exercised on values and narrowed on patterns. -/
namespace ProofPlatform.Kernel
open Library.PrefixPattern Library.Fallible

/-- A trailing star matches every extension of what precedes it. -/
def wildcard (pattern value : String) : Bool :=
  (stripSuffix '*' pattern.toList).any fun stem => stem.isPrefixOf value.toList

/-- Operation-level execution boundary of a grant. An absent list allows everything. -/
structure DelegationScope where
  allowedOperations : Option (List String)
  allowedDomains : Option (List String)
  resourceScope : Option String
  deriving DecidableEq

def DelegationScope.scopeAllowsOperation (scope : DelegationScope) (operation domain : String) : Bool :=
  scope.allowedDomains.all (fun domains => domains.any (· == domain)) &&
    scope.allowedOperations.all (fun operations =>
      operations.any fun allowed => allowed == operation || wildcard allowed operation)

structure Delegation where
  id : Uuid
  issuer : PrincipalId
  recipient : PrincipalId
  allowedActions : List String
  resourceScope : List String
  scope : DelegationScope
  validFrom : Instant
  validUntil : Instant
  revoked : Bool
  deriving DecidableEq

inductive DelegationError where
  | emptyChain
  | invalidRoot (root : PrincipalId)
  | brokenChain (index : Nat)
  | invalidTerminalAgent (index : Nat)
  | insufficientActionAuthority (index : Nat) (action : String)
  | insufficientResourceAuthority (index : Nat) (resource : String)
  | invalidTime (index : Nat)
  | revoked (index : Nat)
  deriving DecidableEq

/-- The test shared by the action and resource lists of a grant. -/
def allowsValue (patterns : List String) (value : String) : Bool :=
  patterns.any fun pattern => pattern == "*" || pattern == value || wildcard pattern value

def Delegation.allowsAction (grant : Delegation) (action : String) : Bool :=
  allowsValue grant.allowedActions action

def Delegation.inScope (grant : Delegation) (resource : String) : Bool :=
  allowsValue grant.resourceScope resource

def patternIsCovered (pattern authorityPattern : String) : Bool :=
  authorityPattern == "*" || pattern == authorityPattern ||
    (stripSuffix '*' authorityPattern.toList).any fun stem => stem.isPrefixOf pattern.toList

/-- Every pattern of a grant is covered by one of its grantor; the first that is not is reported. -/
def checkAuthority (patterns authority : List String) (err : String → DelegationError) : Except DelegationError Unit :=
  match patterns.find? fun pattern => !authority.any (patternIsCovered pattern) with
  | some pattern => .error (err pattern)
  | none => .ok ()

/-- One iteration of the chain loop. The first grant has no parent, only the bare star. -/
def checkGrant (now : Instant) (index : Nat) (parent : Option Delegation) (grant : Delegation) :
    Except DelegationError Unit := do
  reject (parent.any fun previous => grant.issuer != previous.recipient) (.brokenChain index)
  reject grant.revoked (.revoked index)
  reject (!(decide (grant.validFrom ≤ now) && decide (now ≤ grant.validUntil) &&
    decide (grant.validFrom ≤ grant.validUntil))) (.invalidTime index)
  checkAuthority grant.allowedActions (parent.elim ["*"] Delegation.allowedActions)
    (.insufficientActionAuthority index)
  checkAuthority grant.resourceScope (parent.elim ["*"] Delegation.resourceScope)
    (.insufficientResourceAuthority index)

def checkGrants (now : Instant) : Nat → Option Delegation → List Delegation → Except DelegationError Unit
  | _, _, [] => .ok ()
  | index, parent, grant :: rest => do
    checkGrant now index parent grant
    checkGrants now (index + 1) (some grant) rest

def validateChain (root executingAgent : PrincipalId) (grants : List Delegation) (now : Instant) :
    Except DelegationError Unit :=
  match grants with
  | [] => .error .emptyChain
  | first :: rest => do
    reject (first.issuer != root) (.invalidRoot root)
    checkGrants now 0 none (first :: rest)
    reject (((first :: rest).getLast (by simp)).recipient != executingAgent)
      (.invalidTerminalAgent rest.length)

structure DelegationChain where
  root : PrincipalId
  grants : List Delegation
  deriving DecidableEq

def DelegationChain.validate (chain : DelegationChain) (executingAgent : PrincipalId) (now : Instant) :
    Except DelegationError Unit :=
  validateChain chain.root executingAgent chain.grants now

end ProofPlatform.Kernel
