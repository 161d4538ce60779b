import SqlBuilder.Database.Driver
import SqlBuilder.Event
import SqlBuilder.Statement.Tokens

namespace SqlBuilder

/-!
# Running statements

* `Request` — a text with its values, and what is asked of the database;
* `Response` — what the database answers, and what it reports;
* `Backend` — a database connection as the function of its answers;
* `Report` — the outcome of a run, with the requests that were made and the events;
* `Backend.execute`, `Backend.get`, `Backend.first` — run a statement. The dialect is the one of the
  connection, whatever the statement asks for.
-/

/-- What is asked of a database. -/
inductive Call where
  /-- The effect of a statement that writes. -/
  | exec
  /-- All rows at once. -/
  | fetchAll
  /-- The first row, if there is one. -/
  | fetchOptional
  /-- The rows one after another. -/
  | stream
  deriving DecidableEq, Repr

/-- One request to a database. -/
structure Request where
  call : Call
  sql : String
  binds : List Bind
  deriving DecidableEq

/-- The effect of a statement that writes. -/
structure Outcome where
  rowsAffected : Nat
  lastInsertId : Option Int
  deriving DecidableEq, Repr

/-- An answer, and the events on the way to it. -/
structure Response (α : Type) where
  result : Except Failure α
  events : List Event := []

/-- A connection to a database with rows of type `ρ`. -/
structure Backend (ρ : Type) where
  driver : Driver
  exec : String → List Bind → Response Outcome
  fetchAll : String → List Bind → Response (List ρ)
  fetchOptional : String → List Bind → Response (Option ρ)

/-- The outcome of a run. -/
structure Report (α : Type) where
  result : Except Error α
  requests : List Request := []
  events : List Event := []

/-- Writes a statement for a driver, sends it, and reads the answer. A statement that cannot be
    written is not sent. -/
def Report.ofStatement {α β : Type} (d : Driver) (s : Statement) (call : Call)
    (send : String → List Bind → Response α) (read : α → Except Failure β) : Report β :=
  match s.compile d.dialect with
  | .error m => { result := .error (.misuse m) }
  | .ok sql =>
    let response := send sql s.data
    { result := (response.result.bind read).mapError .failure
      requests := [⟨call, sql, s.data⟩]
      events := .compiled d.dialect.name sql :: response.events }

namespace Backend

variable {ρ : Type}

/-- Runs a statement that writes. -/
def execute (b : Backend ρ) (s : Statement) : Report Outcome :=
  .ofStatement b.driver s .exec b.exec .ok

/-- Runs a query for all its rows. -/
def get (b : Backend ρ) (s : Statement) : Report (List ρ) :=
  .ofStatement b.driver s .fetchAll b.fetchAll .ok

/-- Runs a query for its first row; to have none is a failure. -/
def first (b : Backend ρ) (s : Statement) : Report ρ :=
  .ofStatement b.driver s .fetchOptional b.fetchOptional fun
    | some row => .ok row
    | none => .error .noRows

end Backend

end SqlBuilder
