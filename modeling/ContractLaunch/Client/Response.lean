import ContractLaunch.CodeId
/-!
What a chain client answers, and what a deployment accepts of it: a store response must name a
positive code id, an instantiate response an address that is not blank.
-/
namespace ContractLaunch

/-- The answer to a code upload; the code id is the text of an event attribute, not yet checked. -/
structure StoreResponse where
  hash : String
  codeId : Option String
  gasWanted : UInt64
  gasUsed : UInt64
  deriving DecidableEq

/-- The answer to an instantiation; the address is not yet checked. -/
structure InstantiateResponse where
  hash : String
  address : Option String
  gasWanted : UInt64
  gasUsed : UInt64
  deriving DecidableEq

structure Receipt where
  hash : String
  height : UInt64
  gasWanted : UInt64
  gasUsed : UInt64
  deriving DecidableEq

structure StoredCode where
  hash : String
  codeId : CodeId
  gasWanted : UInt64
  gasUsed : UInt64
  deriving DecidableEq

structure LiveContract where
  hash : String
  address : String
  gasWanted : UInt64
  gasUsed : UInt64
  deriving DecidableEq

end ContractLaunch
