import SqlBuilder.Payload.Basic

namespace SqlBuilder.Statement

/-!
# Filling a statement

* `new`, `ofSource` — a statement without and with a source;
* `fromSource` — replaces the source;
* `select`, `aggregate`, `groupBy`, `orderBy`, `limitTo`, `offsetBy` — the clauses of a query;
* `insert`, `skippingConflicts`, `returningColumns`, `update`, `delete` — the clauses that write;
* `withDialect` — the dialect the statement asks for.

The first call of `select`, `aggregate`, `insert`, `update` or `delete` settles the kind. After it,
calls for another kind change nothing.
-/

/-- A statement without clauses. -/
def new : Statement := {}

/-- Replaces the source. Only a table name changes the table of the statement. -/
def fromSource (s : Statement) (source : Source) : Statement :=
  { s with
    table := match source with
      | .table name => Text.trim name
      | _ => s.table
    source := some source
    ledger := s.ledger.put .source source.binds }

/-- A statement with a source. -/
def ofSource (source : Source) : Statement := new.fromSource source

/-- Asks for a dialect, ahead of the default one. -/
def withDialect (s : Statement) (d : Dialect) : Statement := { s with dialect := some d }

/-- The kind of the statement is open, or is `k`. -/
def admits (s : Statement) (k : Kind) : Bool := s.kind.all (· == k)

/-! ### Queries -/

/-- Adds columns to read. -/
def select (s : Statement) (columns : List Column) : Statement :=
  if s.admits .select then
    { s with
      kind := some .select
      columns := s.columns ++ columns
      ledger := s.ledger.add .columns (columns.flatMap Column.binds) }
  else s

/-- Adds a function over a column to the columns to read. -/
def aggregate (s : Statement) (a : Aggregate) : Statement :=
  if s.admits .select then
    { s with
      kind := some .select
      aggregates := s.aggregates ++ [a]
      ledger := s.ledger.add .aggregates a.column.binds }
  else s

/-- Adds columns to group by. -/
def groupBy (s : Statement) (columns : List Column) : Statement :=
  { s with
    groups := s.groups ++ columns
    ledger := s.ledger.add .groups (columns.flatMap Column.binds) }

/-- Adds a column to sort by. -/
def orderBy (s : Statement) (column : Column) (direction : String) : Except Misuse Statement := do
  let direction ← Direction.check direction
  return { s with
    orders := s.orders ++ [⟨column, direction⟩]
    ledger := s.ledger.add .orders column.binds }

/-- Bounds the number of rows; the last bound counts. -/
def limitTo (s : Statement) (value : Value) : Statement :=
  { s with limit := some value, ledger := s.ledger.put .limit value.binds }

/-- Passes over rows in front; the last bound counts. -/
def offsetBy (s : Statement) (value : Value) : Statement :=
  { s with offset := some value, ledger := s.ledger.put .offset value.binds }

/-! ### Writing -/

/-- Adds a row to insert. The first row settles the columns. -/
def addRow (s : Statement) (row : Payload) : Except Misuse Statement :=
  if s.rows.isEmpty || row.columns == s.rowColumns then
    .ok { s with
      rowColumns := row.columns
      rows := s.rows ++ [row.values]
      ledger := s.ledger.add .rows row.binds }
  else .error (.columnMismatch row.columns s.rowColumns)

/-- Adds rows to insert, in order. -/
def insert (s : Statement) (rows : List Payload) : Except Misuse Statement :=
  if s.admits .insert then rows.foldlM addRow { s with kind := some .insert } else .ok s

/-- Passes over rows in conflict with stored ones. -/
def skippingConflicts (s : Statement) : Statement := { s with skipConflicts := true }

/-- Adds columns to return from inserted rows. -/
def returningColumns (s : Statement) (columns : List String) : Statement :=
  { s with returning := s.returning ++ columns }

/-- Replaces the assignments of an update. -/
def update (s : Statement) (payload : Payload) : Statement :=
  if s.admits .update then
    { s with
      kind := some .update
      assignments := payload.assignments
      ledger := s.ledger.put .assignments payload.binds }
  else s

/-- Deletes rows. -/
def delete (s : Statement) : Statement :=
  if s.admits .delete then { s with kind := some .delete } else s

end SqlBuilder.Statement
