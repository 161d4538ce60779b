import SqlBuilder.Bind.Basic

namespace SqlBuilder

/-!
# The values of a statement, clause by clause

* `Clause` — the parts of a statement that can hold values;
* `Ledger` — the values of each clause, in the order in which they were given;
* `Kind`, `Kind.clauses` — the clauses that a kind of statement writes, in the order of its text;
* `Ledger.ordered` — the values in that order.
-/

/-- The parts of a statement that can hold values. -/
inductive Clause where
  | columns
  | aggregates
  | source
  | joins
  | assignments
  | rows
  | wheres
  | groups
  | havings
  | orders
  | limit
  | offset
  deriving DecidableEq, Repr

/-- What a statement does. -/
inductive Kind where
  | select
  | insert
  | update
  | delete
  deriving DecidableEq, Repr

/-- The clauses of a statement's text, in order. A statement whose kind is still open reads. -/
def Kind.clauses : Option Kind → List Clause
  | none | some .select =>
    [.columns, .aggregates, .source, .joins, .wheres, .groups, .havings, .orders, .limit, .offset]
  | some .insert => [.source, .rows]
  | some .update => [.source, .assignments, .wheres]
  | some .delete => [.source, .wheres]

/-- The values of each clause. -/
structure Ledger where
  columns : List Bind := []
  aggregates : List Bind := []
  source : List Bind := []
  joins : List Bind := []
  assignments : List Bind := []
  rows : List Bind := []
  wheres : List Bind := []
  groups : List Bind := []
  havings : List Bind := []
  orders : List Bind := []
  limit : List Bind := []
  offset : List Bind := []
  deriving DecidableEq

namespace Ledger

/-- The values of a clause. -/
def get (l : Ledger) : Clause → List Bind
  | .columns => l.columns
  | .aggregates => l.aggregates
  | .source => l.source
  | .joins => l.joins
  | .assignments => l.assignments
  | .rows => l.rows
  | .wheres => l.wheres
  | .groups => l.groups
  | .havings => l.havings
  | .orders => l.orders
  | .limit => l.limit
  | .offset => l.offset

/-- The ledger with other values for a clause. -/
def put (l : Ledger) (c : Clause) (bs : List Bind) : Ledger :=
  match c with
  | .columns => { l with columns := bs }
  | .aggregates => { l with aggregates := bs }
  | .source => { l with source := bs }
  | .joins => { l with joins := bs }
  | .assignments => { l with assignments := bs }
  | .rows => { l with rows := bs }
  | .wheres => { l with wheres := bs }
  | .groups => { l with groups := bs }
  | .havings => { l with havings := bs }
  | .orders => { l with orders := bs }
  | .limit => { l with limit := bs }
  | .offset => { l with offset := bs }

/-- The ledger with more values for a clause, after the ones it has. -/
def add (l : Ledger) (c : Clause) (bs : List Bind) : Ledger := l.put c (l.get c ++ bs)

/-- The values that a statement of kind `k` hands to the database, in the order of its text. -/
def ordered (l : Ledger) (k : Option Kind) : List Bind := (Kind.clauses k).flatMap l.get

/-- A clause holds what was put there, and the others what they held. -/
theorem get_put (l : Ledger) (c e : Clause) (bs : List Bind) :
    (l.put c bs).get e = if e = c then bs else l.get e := by
  cases c <;> cases e <;> rfl

/-- Adding appends to one clause and leaves the others. -/
theorem get_add (l : Ledger) (c e : Clause) (bs : List Bind) :
    (l.add c bs).get e = if e = c then l.get c ++ bs else l.get e :=
  l.get_put c e _

end Ledger

end SqlBuilder
