import SqlBuilder.Fragment
import SqlBuilder.Operator
import SqlBuilder.Dialect.Basic
import SqlBuilder.Statement.Ledger

namespace SqlBuilder

/-!
# Statements

A statement holds what its clauses say, not yet as text, and beside it the values of each clause.

* `Value` — what can stand where a value is expected: a scalar, a fragment or a sub-query;
* `Source`, `Predicate`, `Condition`, `Join`, `Assignment` — the parts of a statement;
* `Statement` — the statement; a new one reads everything from nowhere;
* `Statement.data`, `Value.binds` — the values, in the order of the text.
-/

/-- The word between a condition and the one before it. -/
inductive Connector where
  | and
  | or
  deriving DecidableEq, Repr

/-- The two lists of conditions of a statement. -/
inductive Filter where
  | wheres
  | havings
  deriving DecidableEq, Repr

/-- The clause that holds a list of conditions. -/
def Filter.clause : Filter → Clause
  | .wheres => .wheres
  | .havings => .havings

/-- The functions over a group of rows. -/
inductive AggregateFunction where
  | count
  | sum
  | avg
  | min
  | max
  deriving DecidableEq, Repr

/-- A function over a column; an empty label is none. -/
structure Aggregate where
  function : AggregateFunction
  column : Column
  label : String
  deriving DecidableEq

/-- A column to sort by. -/
structure Order where
  column : Column
  direction : Direction
  deriving DecidableEq

/-- Whether rows without a partner stay. -/
inductive JoinKind where
  | inner
  | left
  deriving DecidableEq, Repr

mutual

/-- What can stand where a value is expected. -/
inductive Value where
  | bind (b : Bind)
  | raw (f : Fragment)
  | query (s : Statement)

/-- Where rows come from; a table name may carry a label. -/
inductive Source where
  | table (name : String)
  | raw (f : Fragment)
  | query (s : Statement)

/-- One test of a filter. -/
inductive Predicate where
  | compare (column : Column) (operator : Operator) (value : Value)
  | raw (f : Fragment)
  /-- The test that always or never holds, for a list without members. -/
  | constant (holds : Bool)
  | group (conditions : List Condition)
  | between (column : Column) (low high : Value) (negated : Bool)
  | isNull (column : Column) (negated : Bool)
  | among (column : Column) (values : List Value) (negated : Bool)
  | amongQuery (column : Column) (query : Statement) (negated : Bool)

/-- A test and the word before it; the first one of a list has none. -/
structure Condition where
  connector : Option Connector
  predicate : Predicate

/-- One test of a join. -/
inductive JoinTest where
  | columns (first : Column) (operator : Operator) (second : Column)
  | value (column : Column) (operator : Operator) (value : Value)

/-- A test of a join and the word before it. -/
structure JoinCondition where
  connector : Option Connector
  test : JoinTest

/-- A table joined to the source. -/
structure Join where
  kind : JoinKind
  table : Column
  conditions : List JoinCondition

/-- A column and its value. -/
structure Assignment where
  column : String
  value : Value

/-- A statement. Every clause can be filled whatever the kind is; the kind decides which are
    written. -/
structure Statement where
  kind : Option Kind := none
  /-- The last table name that was given as the source. -/
  table : String := ""
  /-- The dialect the statement asks for. -/
  dialect : Option Dialect := none
  columns : List Column := []
  aggregates : List Aggregate := []
  source : Option Source := none
  joins : List Join := []
  wheres : List Condition := []
  groups : List Column := []
  havings : List Condition := []
  orders : List Order := []
  limit : Option Value := none
  offset : Option Value := none
  assignments : List Assignment := []
  /-- The columns of the rows to insert. -/
  rowColumns : List String := []
  rows : List (List Value) := []
  /-- Rows in conflict with stored ones are passed over. -/
  skipConflicts : Bool := false
  returning : List String := []
  ledger : Ledger := {}

end

namespace Statement

/-- The values of a statement, in the order in which its text numbers them. -/
def data (s : Statement) : List Bind := s.ledger.ordered s.kind

/-- The label for the rows of a sub-query: the last word of its table name. -/
def label? (s : Statement) : Option String := (Text.words s.table).getLast?

/-- One of the two lists of conditions. -/
def conditions (s : Statement) : Filter → List Condition
  | .wheres => s.wheres
  | .havings => s.havings

end Statement

/-- The values that stand in a value, in the order of its text. -/
def Value.binds : Value → List Bind
  | .bind b => [b]
  | .raw f => f.binds
  | .query s => s.data

/-- The values that stand in a source. -/
def Source.binds : Source → List Bind
  | .table _ => []
  | .raw f => f.binds
  | .query s => s.data

end SqlBuilder
