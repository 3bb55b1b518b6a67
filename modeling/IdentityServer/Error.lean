/-!
# Failures of the service

Why an operation of the service was refused or did not happen, with the wording, the code that is shown to
clients, and whether trying again later may help. Only a transient failure may.
-/

namespace IdentityServer

/-- What is wrong with an identifier. -/
inductive IdentifierFault where
  | email
  | phone
  | account (account : String)
  | medium (name : String)
  | notCanonical
  | other (text : String)
  deriving DecidableEq, Repr

/-- What a caller has to see to before an operation. -/
inductive Precondition where
  | validated
  | recordForm (detail : String)
  | other (text : String)
  deriving DecidableEq, Repr

/-- Why a table could not be changed. -/
inductive StorageFault where
  | rowNotFound
  /-- The greatest row number is taken, so a table that never reuses one is full. -/
  | numbersExhausted
  | duplicate (column : String)
  | other (text : String)
  deriving DecidableEq, Repr

/-- Failures of the service. -/
inductive ServiceError where
  | precondition (cause : Precondition)
  | invalidIdentifier (fault : IdentifierFault)
  | notAuthorized (account : String)
  | transient (text : String)
  | storage (fault : StorageFault)
  | signing (text : String)
  | internal (text : String)
  deriving DecidableEq, Repr

/-- The wording of a fault of an identifier. -/
def IdentifierFault.message : IdentifierFault → String
  | .email => "malformed email address"
  | .phone => "malformed phone number"
  | .account id => s!"malformed account id '{id}'"
  | .medium name => s!"unsupported medium '{name}'"
  | .notCanonical => "replicated address is not canonical"
  | .other text => text

/-- The wording of a missing precondition. -/
def Precondition.message : Precondition → String
  | .validated => "identifier ownership has not been validated"
  | .recordForm detail => s!"malformed replicated record: {detail}"
  | .other text => text

/-- The wording of a fault of the storage. -/
def StorageFault.message : StorageFault → String
  | .rowNotFound => "no rows returned by a query that expected to return at least one row"
  | .numbersExhausted => "error returned from database: (code: 13) database or disk is full"
  | .duplicate column => s!"error returned from database: (code: 1555) UNIQUE constraint failed: {column}"
  | .other text => text

namespace ServiceError

/-- The wording of a failure. -/
def message : ServiceError → String
  | .precondition cause => "Precondition violated: " ++ cause.message
  | .invalidIdentifier fault => "Invalid identifier: " ++ fault.message
  | .notAuthorized account => "Signature does not prove ownership of " ++ account
  | .transient text => "Transient I/O failure: " ++ text
  | .storage fault => "Storage failure: " ++ fault.message
  | .signing text => "Signing failure: " ++ text
  | .internal text => "Internal error: " ++ text

/-- The code shown to clients. -/
def code : ServiceError → String
  | .precondition _ => "M_SESSION_NOT_VALIDATED"
  | .invalidIdentifier _ => "M_INVALID_PARAM"
  | .notAuthorized _ => "M_FORBIDDEN"
  | .transient _ => "M_UNAVAILABLE"
  | .storage _ | .signing _ | .internal _ => "M_UNKNOWN"

/-- Whether the failure may go away by itself. -/
def isTransient : ServiceError → Bool
  | .transient _ => true
  | _ => false

end ServiceError

end IdentityServer
