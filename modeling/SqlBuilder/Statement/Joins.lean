import SqlBuilder.Statement.Basic

namespace SqlBuilder

/-!
# Joins

* `JoinDraft` — a join under construction with the values that stand in it;
* `JoinDraft.on`, `JoinDraft.compare` — add a test of two columns, or of a column and a value;
* `Statement.addJoin` — adds the finished join;
* `Statement.join` — a join on one test of two named columns.
-/

/-- A join under construction. -/
structure JoinDraft where
  join : Join
  binds : List Bind

namespace JoinDraft

/-- A join without tests. -/
def start (kind : JoinKind) (table : Column) : JoinDraft := ⟨⟨kind, table, []⟩, table.binds⟩

/-- Appends a test; the first one drops its connector. -/
def addTest (j : JoinDraft) (c : Connector) (test : JoinTest) (bs : List Bind) : JoinDraft :=
  let old := j.join.conditions
  let connector := if old.isEmpty then none else some c
  { join := { j.join with conditions := old ++ [⟨connector, test⟩] }, binds := j.binds ++ bs }

/-- Compares two columns. -/
def on (j : JoinDraft) (c : Connector) (first : Column) (operator : String) (second : Column) :
    Except Misuse JoinDraft := do
  let operator ← Operator.check operator
  return j.addTest c (.columns first operator second) (first.binds ++ second.binds)

/-- Compares a column with a value. -/
def compare (j : JoinDraft) (c : Connector) (column : Column) (operator : String) (value : Value) :
    Except Misuse JoinDraft := do
  let operator ← Operator.check operator
  return j.addTest c (.value column operator value) (column.binds ++ value.binds)

end JoinDraft

namespace Statement

/-- Adds a finished join. -/
def addJoin (s : Statement) (j : JoinDraft) : Statement :=
  { s with joins := s.joins ++ [j.join], ledger := s.ledger.add .joins j.binds }

/-- Joins a table on one test of two named columns. -/
def join (s : Statement) (kind : JoinKind) (table : Column) (first operator second : String) :
    Except Misuse Statement := do
  return s.addJoin (← (JoinDraft.start kind table).on .and (.name first) operator (.name second))

end Statement

end SqlBuilder
