import ProofPlatform.Kernel.AgentRun

/-! Agent definitions: the model an agent talks to and the tools it may call. -/
namespace ProofPlatform.Kernel
open Library.Fallible

structure AgentTool where
  operation : String
  version : String

structure AgentLimits where
  maxSteps : Nat
  maxModelCalls : Nat
  maxTotalTokens : Nat
  maxDurationSeconds : Nat
  maxOutputTokensPerCall : Nat
  maxCostMicrousd : Option Nat

structure AgentDefinition where
  id : Uuid
  name : String
  instructions : String
  provider : String
  model : String
  tools : List AgentTool
  limits : AgentLimits
  createdAt : Instant

inductive AgentDefinitionError where
  | invalidOperation (operation : String)
  | invalidVersion (version : String)
  | invalidLimits

def AgentDefinitionError.message : AgentDefinitionError → String
  | .invalidOperation operation => "agent tool operation must use domain.action format: " ++ operation
  | .invalidVersion version => "agent tool version must use v<N> format: " ++ version
  | .invalidLimits => "agent limits must all be greater than zero"

def AgentLimits.validate (limits : AgentLimits) : Except AgentDefinitionError Unit :=
  reject (limits.maxSteps == 0 || limits.maxModelCalls == 0 || limits.maxTotalTokens == 0 ||
    limits.maxDurationSeconds == 0 || limits.maxOutputTokensPerCall == 0 || limits.maxCostMicrousd == some 0)
      .invalidLimits

/-- At least two parts around the dots, none of them empty. -/
def validOperation (operation : String) : Bool :=
  match operation.toList.splitOn '.' with
  | first :: second :: rest => !first.isEmpty && !second.isEmpty && rest.all fun part => !part.isEmpty
  | _ => false

def validVersion (version : String) : Bool :=
  match version.toList with
  | 'v' :: number => !number.isEmpty && number.all Char.isDigit
  | _ => false

def AgentTool.new (operation version : String) : Except AgentDefinitionError AgentTool := do
  reject (!validOperation operation) (.invalidOperation operation)
  reject (!validVersion version) (.invalidVersion version)
  return { operation, version }

end ProofPlatform.Kernel
