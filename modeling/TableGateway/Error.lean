/-!
# Errors

Every way a request, a pool or a connection can fail. `Error.message` is the text of each, and
`Error.spoilsConnection` tells which failures leave a connection that must not be used again:
a lost task, and the engine failures that concern the database file itself.
-/

namespace TableGateway

/-- A failure reported by a database engine. -/
inductive EngineError where
  /-- A call ended with a result code. The low byte is the primary code; the rest refines it. -/
  | failure (code : Nat) (message : String)
  /-- A row was expected and there was none. -/
  | noRows
  /-- A parameter was bound that the statement does not name. -/
  | unknownParameter (name : String)
  deriving DecidableEq, Repr

namespace EngineError

/-! ### Primary result codes -/

/-- A failure without a code of its own. -/
def genericCode : Nat := 1

/-- More is asked for than is allowed. -/
def permissionCode : Nat := 3

/-- The database is locked by another connection. -/
def busyCode : Nat := 5

/-- A table is locked by another connection that shares what is known of the database. -/
def lockedCode : Nat := 6

/-- The database can only be read. -/
def readOnlyCode : Nat := 8

/-- The file cannot be read or written. -/
def ioCode : Nat := 10

/-- The file is damaged. -/
def corruptCode : Nat := 11

/-- The file cannot be opened. -/
def cannotOpenCode : Nat := 14

/-- A constraint is broken. -/
def constraintCode : Nat := 19

/-- Something is not of the kind that is needed. -/
def mismatchCode : Nat := 20

/-- A call that makes no sense. -/
def misuseCode : Nat := 21

/-- The file holds something else. -/
def notADatabaseCode : Nat := 26

/-- The primary part of a result code. -/
def primary (code : Nat) : Nat := code % 256

/-- The name of a primary result code. -/
def codeName (code : Nat) : String :=
  match primary code with
  | 2 => "InternalMalfunction"
  | 3 => "PermissionDenied"
  | 4 => "OperationAborted"
  | 5 => "DatabaseBusy"
  | 6 => "DatabaseLocked"
  | 7 => "OutOfMemory"
  | 8 => "ReadOnly"
  | 9 => "OperationInterrupted"
  | 10 => "SystemIoFailure"
  | 11 => "DatabaseCorrupt"
  | 12 => "NotFound"
  | 13 => "DiskFull"
  | 14 => "CannotOpen"
  | 15 => "FileLockingProtocolFailed"
  | 17 => "SchemaChanged"
  | 18 => "TooBig"
  | 19 => "ConstraintViolation"
  | 20 => "TypeMismatch"
  | 21 => "ApiMisuse"
  | 22 => "NoLargeFileSupport"
  | 23 => "AuthorizationForStatementDenied"
  | 25 => "ParameterOutOfRange"
  | 26 => "NotADatabase"
  | _ => "Unknown"

/-- The name under which a failure is reported. -/
def name : EngineError → String
  | failure code _ => codeName code
  | noRows => "QueryReturnedNoRows"
  | unknownParameter _ => "InvalidParameterName"

/-- The text of a failure. -/
def message : EngineError → String
  | failure _ message => message
  | noRows => "Query returned no rows"
  | unknownParameter name => "Invalid parameter name: " ++ name

/-- The database cannot be opened, read or written, so the connection is of no further use. -/
def isFatal : EngineError → Bool
  | failure code _ =>
    let p := primary code
    p == cannotOpenCode || p == corruptCode || p == notADatabaseCode || p == ioCode
  | _ => false

end EngineError

/-- Why a configuration text could not be read. -/
inductive TextFault where
  /-- It is not well formed. -/
  | malformed
  /-- It ends too early. -/
  | ended
  /-- It is well formed and does not describe what was asked for. -/
  | mismatched
  deriving DecidableEq, Repr

/-- Everything that can go wrong. -/
inductive Error where
  /-- A text that names no access mode. -/
  | unsupportedMode (mode : String)
  /-- A table whose key is none of its columns. -/
  | primaryKeyUndefined (table column : String)
  /-- A row that was read without its key. -/
  | primaryKeyMissing (table column : String)
  /-- A call that the state of a connection or a pool does not allow. -/
  | state (message : String)
  /-- A text that names no action. -/
  | unsupportedAction (action : String)
  /-- Clauses that form no statement. -/
  | invalidStatement (message : String)
  /-- A sub-select that selects nothing. -/
  | subqueryAction (action : String)
  /-- A parameter bound twice. -/
  | parameterCollision (name : String)
  /-- A pool that is not registered. -/
  | unknownPool (name : String)
  /-- Numbers that cannot configure a pool. -/
  | invalidConfig (message : String)
  /-- A failure of the engine. -/
  | engine (cause : EngineError)
  /-- A settings text that cannot be read. -/
  | settings (fault : TextFault)
  /-- Work handed to another thread was lost. -/
  | task
  deriving DecidableEq, Repr

namespace Error

/-- The text of an error; the last two report causes that have texts of their own. -/
def message : Error → String
  | unsupportedMode mode => "unsupported table mode: " ++ mode
  | primaryKeyUndefined table column =>
    "primary key column `" ++ column ++ "` is not a column of table `" ++ table ++ "`"
  | primaryKeyMissing table column =>
    "primary key column `" ++ column ++ "` of table `" ++ table
      ++ "` was not retrieved for this row, so it cannot be updated or deleted"
  | state message => "invalid connection state: " ++ message
  | unsupportedAction action => "unsupported action for request: " ++ action
  | invalidStatement message => "invalid statement: " ++ message
  | subqueryAction action => "only SELECT requests can be used as subqueries, got " ++ action
  | parameterCollision name => "parameter `" ++ name ++ "` is already bound"
  | unknownPool name => "no database pool named `" ++ name ++ "`"
  | invalidConfig message => "invalid configuration: " ++ message
  | engine cause => "sqlite error: " ++ cause.message
  | settings _ => "settings error"
  | task => "blocking task failed"

/-- Whether the connection that met the error must not be used again. -/
def spoilsConnection : Error → Bool
  | task => true
  | engine cause => cause.isFatal
  | _ => false

end Error

end TableGateway
