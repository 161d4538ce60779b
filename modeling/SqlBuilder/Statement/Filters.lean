import SqlBuilder.Statement.Basic

namespace SqlBuilder.Statement

/-!
# Filters

Every function takes the filter it adds to, or adds to the `WHERE` filter, and the connector to the
condition before.

* `addCondition` — appends a condition and its values; the first one drops its connector;
* `compare`, `compareRaw` — a comparison, a fragment;
* `scope`, `addGroup`, `group` — conditions in parentheses, built on a statement of their own;
* `among`, `amongQuery`, `between`, `isNull` — the other tests.
-/

/-- The statement with one of its lists of conditions replaced. -/
def setConditions (s : Statement) (f : Filter) (cs : List Condition) : Statement :=
  match f with
  | .wheres => { s with wheres := cs }
  | .havings => { s with havings := cs }

/-- Appends a condition and the values that stand in it. -/
def addCondition (s : Statement) (f : Filter) (c : Connector) (p : Predicate) (bs : List Bind) :
    Statement :=
  let old := s.conditions f
  let connector := if old.isEmpty then none else some c
  { s.setConditions f (old ++ [⟨connector, p⟩]) with ledger := s.ledger.add f.clause bs }

@[simp] theorem conditions_setConditions (s : Statement) (f g : Filter) (cs : List Condition) :
    (s.setConditions f cs).conditions g = if g = f then cs else s.conditions g := by
  cases f <;> cases g <;> rfl

/-- The list that is added to ends in the new condition; the other list stays. -/
theorem conditions_addCondition (s : Statement) (f g : Filter) (c : Connector) (p : Predicate)
    (bs : List Bind) :
    (s.addCondition f c p bs).conditions g =
      if g = f then
        s.conditions f ++ [⟨if (s.conditions f).isEmpty then none else some c, p⟩]
      else s.conditions g := by
  cases f <;> cases g <;> rfl

/-- Compares a column with a value. -/
def compare (s : Statement) (f : Filter) (c : Connector) (column : Column) (operator : String)
    (value : Value) : Except Misuse Statement := do
  let operator ← Operator.check operator
  return s.addCondition f c (.compare column operator value) (column.binds ++ value.binds)

/-- Adds a fragment as a condition. -/
def compareRaw (s : Statement) (f : Filter) (c : Connector) (fragment : Fragment) : Statement :=
  s.addCondition f c (.raw fragment) fragment.binds

/-- The statement on which the conditions of a group are built: it knows the table only. -/
def scope (s : Statement) : Statement := { table := s.table }

/-- Adds the conditions that `inner` has in the filter as one group; no group without conditions.
    All else that `inner` holds is dropped. -/
def addGroup (s : Statement) (f : Filter) (c : Connector) (inner : Statement) : Statement :=
  if (inner.conditions f).isEmpty then s
  else s.addCondition f c (.group (inner.conditions f)) (inner.ledger.get f.clause)

/-- Adds the conditions that `body` builds as one group. -/
def group (s : Statement) (f : Filter) (c : Connector)
    {ε : Type} (body : Statement → Except ε Statement) : Except ε Statement := do
  return s.addGroup f c (← body s.scope)

/-- Tests whether a column is one of a list of values. No value is in an empty list, so the test
    is constant then and leaves out the column with its values. -/
def among (s : Statement) (c : Connector) (column : Column) (values : List Value)
    (negated : Bool) : Statement :=
  if values.isEmpty then s.addCondition .wheres c (.constant negated) []
  else
    s.addCondition .wheres c (.among column values negated)
      (column.binds ++ values.flatMap Value.binds)

/-- Tests whether a column is one of the results of a query. -/
def amongQuery (s : Statement) (c : Connector) (column : Column) (query : Statement)
    (negated : Bool) : Statement :=
  s.addCondition .wheres c (.amongQuery column query negated) (column.binds ++ query.data)

/-- Tests whether a column lies between two values. -/
def between (s : Statement) (c : Connector) (column : Column) (low high : Value) (negated : Bool) :
    Statement :=
  s.addCondition .wheres c (.between column low high negated)
    (column.binds ++ low.binds ++ high.binds)

/-- Tests whether a column is null. -/
def isNull (s : Statement) (c : Connector) (column : Column) (negated : Bool) : Statement :=
  s.addCondition .wheres c (.isNull column negated) column.binds

end SqlBuilder.Statement
