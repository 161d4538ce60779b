import SqlBuilder.Text.Quoted

namespace SqlBuilder

/-!
# Errors

* `Misuse` — a mistake of the calling program, such as an operator that is not on the list;
* `Failure` — what can go wrong in a correct program: a bad payload, a database that is away;
* `Misuse.message`, `Failure.message` — their wording.
-/

/-- A mistake of the calling program. -/
inductive Misuse where
  /-- An operator that is not on the list. -/
  | unknownOperator (given : String)
  /-- A sort direction other than `ASC` and `DESC`. -/
  | unknownDirection (given : String)
  /-- A row whose columns are not those of the first row. -/
  | columnMismatch (given expected : List String)
  /-- A sub-query where `INSERT` or `UPDATE` names its table. -/
  | queryTarget
  /-- Neither a pinned nor a default dialect. -/
  | noDialect
  /-- A dialect name that is not registered. -/
  | unknownDialect (name : String)
  deriving DecidableEq, Repr

/-- What a database answers instead of a result. -/
inductive DatabaseFault where
  /-- The pool was closed. -/
  | poolClosed
  /-- A row was required and there is none. -/
  | rowNotFound
  deriving DecidableEq, Repr

/-- What can go wrong in a correct program. -/
inductive Failure where
  /-- A database URL with a scheme of no known driver. -/
  | unsupportedDatabase (url : String)
  /-- The database reported a fault. -/
  | database (fault : DatabaseFault)
  /-- The driver has no pool. -/
  | noPool
  /-- A row was asked for and the result has none. -/
  | noRows
  /-- A payload that cannot be converted. -/
  | invalidData (reason : String)
  /-- A setting that is missing. -/
  | configuration (reason : String)
  deriving DecidableEq, Repr

/-- Either kind of error. -/
inductive Error where
  | misuse (m : Misuse)
  | failure (f : Failure)
  deriving DecidableEq, Repr

/-- The wording of a mistake. -/
def Misuse.message : Misuse → String
  | .unknownOperator s => "sqlxfluent: operator \"" ++ s ++ "\" is not allowed"
  | .unknownDirection s => "sqlxfluent: order direction \"" ++ s ++ "\" is not allowed"
  | .columnMismatch given expected =>
    "sqlxfluent: insert row columns " ++ Text.quotedList given ++ " do not match " ++
      Text.quotedList expected
  | .queryTarget => "sqlxfluent: a sub-query cannot be the target of INSERT or UPDATE"
  | .noDialect => "sqlxfluent: no grammar selected, call use_grammar first"
  | .unknownDialect name => "sqlxfluent: grammar \"" ++ name ++ "\" is not registered"

/-- The wording of a database's fault. -/
def DatabaseFault.message : DatabaseFault → String
  | .poolClosed => "attempted to acquire a connection on a closed pool"
  | .rowNotFound => "no rows returned by a query that expected to return at least one row"

/-- The wording of a failure. -/
def Failure.message : Failure → String
  | .unsupportedDatabase url => "Unsupported database URL: " ++ url
  | .database fault => "Database error: " ++ fault.message
  | .noPool => "No connection pool available for driver"
  | .noRows => "No rows in result set"
  | .invalidData reason => "Invalid data: " ++ reason
  | .configuration reason => "Configuration error: " ++ reason

end SqlBuilder
