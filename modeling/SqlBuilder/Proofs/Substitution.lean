import SqlBuilder.Proofs.Clauses

namespace SqlBuilder

open Token (after enclosed listed spaced clauses listedAfter)

/-!
# Other values in a statement

A function on scalars, applied to each scalar of a statement, in its clauses and in its ledger.  The
text never looks at a scalar, so it stays the same.

* `Value.subst`, `Predicate.subst`, …, `Statement.subst` — the function applied everywhere;
* `Statement.subst_id` — nothing happens if the function does nothing;
* `Statement.data_subst` — the values of the statement are the images of the values before;
* `Statement.tokens_subst` — the tokens have the images at the places of the values before;
* `Statement.compile_subst` — so the text is the same in every dialect.
-/

section

variable (σ : Bind → Bind)

/-- A fragment with other values. -/
def Fragment.subst (f : Fragment) : Fragment := ⟨f.text, f.binds.map σ⟩

/-- A column with other values. -/
def Column.subst : Column → Column
  | .name s => .name s
  | .raw f => .raw (f.subst σ)

/-- A function over a column with other values. -/
def Aggregate.subst (a : Aggregate) : Aggregate := { a with column := a.column.subst σ }

/-- A column to sort by with other values. -/
def Order.subst (o : Order) : Order := { o with column := o.column.subst σ }

/-- A ledger with other values. -/
def Ledger.subst (l : Ledger) : Ledger where
  columns := l.columns.map σ
  aggregates := l.aggregates.map σ
  source := l.source.map σ
  joins := l.joins.map σ
  assignments := l.assignments.map σ
  rows := l.rows.map σ
  wheres := l.wheres.map σ
  groups := l.groups.map σ
  havings := l.havings.map σ
  orders := l.orders.map σ
  limit := l.limit.map σ
  offset := l.offset.map σ

mutual

/-- A value with other scalars. -/
def Value.subst : Value → Value
  | .bind b => .bind (σ b)
  | .raw f => .raw (f.subst σ)
  | .query s => .query s.subst

/-- A list of values with other scalars. -/
def substValues : List Value → List Value
  | [] => []
  | v :: vs => v.subst :: substValues vs

/-- Rows with other scalars. -/
def substRows : List (List Value) → List (List Value)
  | [] => []
  | vs :: rows => substValues vs :: substRows rows

/-- An assignment with other scalars. -/
def Assignment.subst : Assignment → Assignment
  | ⟨column, value⟩ => ⟨column, value.subst⟩

/-- Assignments with other scalars. -/
def substAssignments : List Assignment → List Assignment
  | [] => []
  | a :: as => a.subst :: substAssignments as

/-- A source with other scalars. -/
def Source.subst : Source → Source
  | .table name => .table name
  | .raw f => .raw (f.subst σ)
  | .query s => .query s.subst

/-- A source that may be missing, with other scalars. -/
def substSource : Option Source → Option Source
  | none => none
  | some v => some v.subst

/-- A bound that may be missing, with other scalars. -/
def substBound : Option Value → Option Value
  | none => none
  | some v => some v.subst

/-- A test of a join with other scalars. -/
def JoinTest.subst : JoinTest → JoinTest
  | .columns first o second => .columns (first.subst σ) o (second.subst σ)
  | .value column o v => .value (column.subst σ) o v.subst

/-- A test of a join after its connector, with other scalars. -/
def JoinCondition.subst : JoinCondition → JoinCondition
  | ⟨connector, test⟩ => ⟨connector, test.subst⟩

/-- Tests of a join with other scalars. -/
def substJoinConditions : List JoinCondition → List JoinCondition
  | [] => []
  | c :: cs => c.subst :: substJoinConditions cs

/-- A join with other scalars. -/
def Join.subst : Join → Join
  | ⟨kind, table, conditions⟩ => ⟨kind, table.subst σ, substJoinConditions conditions⟩

/-- Joins with other scalars. -/
def substJoins : List Join → List Join
  | [] => []
  | j :: js => j.subst :: substJoins js

/-- A test with other scalars. -/
def Predicate.subst : Predicate → Predicate
  | .compare column o value => .compare (column.subst σ) o value.subst
  | .raw f => .raw (f.subst σ)
  | .constant holds => .constant holds
  | .group conditions => .group (substConditions conditions)
  | .between column low high negated =>
    .between (column.subst σ) low.subst high.subst negated
  | .isNull column negated => .isNull (column.subst σ) negated
  | .among column values negated => .among (column.subst σ) (substValues values) negated
  | .amongQuery column query negated => .amongQuery (column.subst σ) query.subst negated

/-- A condition with other scalars. -/
def Condition.subst : Condition → Condition
  | ⟨connector, predicate⟩ => ⟨connector, predicate.subst⟩

/-- Conditions with other scalars. -/
def substConditions : List Condition → List Condition
  | [] => []
  | c :: cs => c.subst :: substConditions cs

/-- A statement with other scalars. -/
def Statement.subst : Statement → Statement
  | { kind, table, dialect, columns, aggregates, source, joins, wheres, groups, havings, orders,
      limit, offset, assignments, rowColumns, rows, skipConflicts, returning, ledger } =>
    { kind, table, dialect, rowColumns, skipConflicts, returning
      columns := columns.map (Column.subst σ)
      aggregates := aggregates.map (Aggregate.subst σ)
      source := substSource source
      joins := substJoins joins
      wheres := substConditions wheres
      groups := groups.map (Column.subst σ)
      havings := substConditions havings
      orders := orders.map (Order.subst σ)
      limit := substBound limit
      offset := substBound offset
      assignments := substAssignments assignments
      rows := substRows rows
      ledger := ledger.subst σ }

end

/-! ### The items of a list, one by one -/

@[simp] theorem substValues_eq_map (vs : List Value) :
    substValues σ vs = vs.map (Value.subst σ) := by
  induction vs with
  | nil => rfl
  | cons v vs ih => rw [substValues, ih, List.map_cons]

@[simp] theorem substRows_eq_map (rows : List (List Value)) :
    substRows σ rows = rows.map (List.map (Value.subst σ)) := by
  induction rows with
  | nil => rfl
  | cons vs rows ih => rw [substRows, ih, substValues_eq_map, List.map_cons]

@[simp] theorem substAssignments_eq_map (as : List Assignment) :
    substAssignments σ as = as.map (Assignment.subst σ) := by
  induction as with
  | nil => rfl
  | cons a as ih => rw [substAssignments, ih, List.map_cons]

@[simp] theorem substSource_eq_map (o : Option Source) :
    substSource σ o = o.map (Source.subst σ) := by
  cases o <;> rfl

@[simp] theorem substBound_eq_map (o : Option Value) :
    substBound σ o = o.map (Value.subst σ) := by
  cases o <;> rfl

@[simp] theorem substJoinConditions_eq_map (cs : List JoinCondition) :
    substJoinConditions σ cs = cs.map (JoinCondition.subst σ) := by
  induction cs with
  | nil => rfl
  | cons c cs ih => rw [substJoinConditions, ih, List.map_cons]

@[simp] theorem substJoins_eq_map (js : List Join) : substJoins σ js = js.map (Join.subst σ) := by
  induction js with
  | nil => rfl
  | cons j js ih => rw [substJoins, ih, List.map_cons]

@[simp] theorem substConditions_eq_map (cs : List Condition) :
    substConditions σ cs = cs.map (Condition.subst σ) := by
  induction cs with
  | nil => rfl
  | cons c cs ih => rw [substConditions, ih, List.map_cons]

end

/-! ### The identity -/

@[simp] theorem Fragment.subst_id (f : Fragment) : f.subst id = f := by
  simp [Fragment.subst]

@[simp] theorem Column.subst_id (c : Column) : c.subst id = c := by
  cases c <;> simp [Column.subst]

theorem Column.subst_id_fun : Column.subst id = id := funext Column.subst_id

theorem Aggregate.subst_id_fun : Aggregate.subst id = id := by
  funext a
  simp [Aggregate.subst]

theorem Order.subst_id_fun : Order.subst id = id := by
  funext o
  simp [Order.subst]

@[simp] theorem Ledger.subst_id (l : Ledger) : l.subst id = l := by
  simp [Ledger.subst]

mutual

theorem Value.subst_id : (v : Value) → v.subst id = v
  | .bind b => by simp [Value.subst]
  | .raw f => by simp [Value.subst]
  | .query s => by rw [Value.subst, Statement.subst_id s]

theorem substValues_id : (vs : List Value) → substValues id vs = vs
  | [] => rfl
  | v :: vs => by rw [substValues, Value.subst_id v, substValues_id vs]

theorem substRows_id : (rows : List (List Value)) → substRows id rows = rows
  | [] => rfl
  | vs :: rows => by rw [substRows, substValues_id vs, substRows_id rows]

theorem Assignment.subst_id : (a : Assignment) → a.subst id = a
  | ⟨column, value⟩ => by rw [Assignment.subst, Value.subst_id value]

theorem substAssignments_id : (as : List Assignment) → substAssignments id as = as
  | [] => rfl
  | a :: as => by rw [substAssignments, Assignment.subst_id a, substAssignments_id as]

theorem Source.subst_id : (v : Source) → v.subst id = v
  | .table name => rfl
  | .raw f => by simp [Source.subst]
  | .query s => by rw [Source.subst, Statement.subst_id s]

theorem substSource_id : (o : Option Source) → substSource id o = o
  | none => rfl
  | some v => by rw [substSource, Source.subst_id v]

theorem substBound_id : (o : Option Value) → substBound id o = o
  | none => rfl
  | some v => by rw [substBound, Value.subst_id v]

theorem JoinTest.subst_id : (t : JoinTest) → t.subst id = t
  | .columns first o second => by simp [JoinTest.subst]
  | .value column o v => by rw [JoinTest.subst, Column.subst_id, Value.subst_id v]

theorem JoinCondition.subst_id : (c : JoinCondition) → c.subst id = c
  | ⟨connector, test⟩ => by rw [JoinCondition.subst, JoinTest.subst_id test]

theorem substJoinConditions_id : (cs : List JoinCondition) → substJoinConditions id cs = cs
  | [] => rfl
  | c :: cs => by rw [substJoinConditions, JoinCondition.subst_id c, substJoinConditions_id cs]

theorem Join.subst_id : (j : Join) → j.subst id = j
  | ⟨kind, table, conditions⟩ => by
    rw [Join.subst, Column.subst_id, substJoinConditions_id conditions]

theorem substJoins_id : (js : List Join) → substJoins id js = js
  | [] => rfl
  | j :: js => by rw [substJoins, Join.subst_id j, substJoins_id js]

theorem Predicate.subst_id : (p : Predicate) → p.subst id = p
  | .compare column o value => by rw [Predicate.subst, Column.subst_id, Value.subst_id value]
  | .raw f => by simp [Predicate.subst]
  | .constant holds => rfl
  | .group conditions => by rw [Predicate.subst, substConditions_id conditions]
  | .between column low high negated => by
    rw [Predicate.subst, Column.subst_id, Value.subst_id low, Value.subst_id high]
  | .isNull column negated => by simp [Predicate.subst]
  | .among column values negated => by
    rw [Predicate.subst, Column.subst_id, substValues_id values]
  | .amongQuery column query negated => by
    rw [Predicate.subst, Column.subst_id, Statement.subst_id query]

theorem Condition.subst_id : (c : Condition) → c.subst id = c
  | ⟨connector, predicate⟩ => by rw [Condition.subst, Predicate.subst_id predicate]

theorem substConditions_id : (cs : List Condition) → substConditions id cs = cs
  | [] => rfl
  | c :: cs => by rw [substConditions, Condition.subst_id c, substConditions_id cs]

/-- Nothing happens if the function does nothing. -/
theorem Statement.subst_id : (s : Statement) → s.subst id = s
  | { kind, table, dialect, columns, aggregates, source, joins, wheres, groups, havings, orders,
      limit, offset, assignments, rowColumns, rows, skipConflicts, returning, ledger } => by
    rw [Statement.subst, substSource_id source, substJoins_id joins, substConditions_id wheres,
      substConditions_id havings, substBound_id limit, substBound_id offset,
      substAssignments_id assignments, substRows_id rows, Ledger.subst_id, Column.subst_id_fun,
      Aggregate.subst_id_fun, Order.subst_id_fun]
    simp

end

/-! ### Values -/

section

variable (σ : Bind → Bind)

@[simp] theorem Column.binds_subst (c : Column) : (c.subst σ).binds = c.binds.map σ := by
  cases c <;> rfl

theorem Ledger.get_subst (l : Ledger) (e : Clause) : (l.subst σ).get e = (l.get e).map σ := by
  cases e <;> rfl

theorem Ledger.subst_put (l : Ledger) (c : Clause) (bs : List Bind) :
    (l.put c bs).subst σ = (l.subst σ).put c (bs.map σ) := by
  cases c <;> rfl

theorem Ledger.subst_add (l : Ledger) (c : Clause) (bs : List Bind) :
    (l.add c bs).subst σ = (l.subst σ).add c (bs.map σ) := by
  rw [add, add, subst_put, get_subst, List.map_append]

/-- The values of the statement are the images of the values before. -/
@[simp] theorem Statement.data_subst (s : Statement) : (s.subst σ).data = s.data.map σ := by
  cases s
  rw [subst, data, data, Ledger.ordered, Ledger.ordered, List.map_flatMap]
  congr 1
  funext e
  exact Ledger.get_subst σ _ e

@[simp] theorem Value.binds_subst (v : Value) : (v.subst σ).binds = v.binds.map σ := by
  cases v with
  | query s => exact s.data_subst σ
  | _ => rfl

@[simp] theorem Source.binds_subst (v : Source) : (v.subst σ).binds = v.binds.map σ := by
  cases v with
  | query s => exact s.data_subst σ
  | _ => rfl

/-! ### Tokens -/

/-- A token with other values. -/
def Token.subst : Token → Token
  | .place b => .place (σ b)
  | .fragment f => .fragment (f.subst σ)
  | .spacedFragment f => .spacedFragment (f.subst σ)
  | t => t

@[simp] theorem Token.subst_word (w : Word) : (Token.word w).subst σ = .word w := rfl

@[simp] theorem map_subst_after (w : Word) (ts : List Token) :
    (after w ts).map (Token.subst σ) = after w (ts.map (Token.subst σ)) := rfl

@[simp] theorem map_subst_enclosed (ts : List Token) :
    (enclosed ts).map (Token.subst σ) = enclosed (ts.map (Token.subst σ)) := by
  simp [enclosed]

theorem map_subst_intercalate (w : Word) (items : List (List Token)) :
    ([Token.word w].intercalate items).map (Token.subst σ) =
      [Token.word w].intercalate (items.map (List.map (Token.subst σ))) :=
  map_intercalate_eq (Token.subst σ) [.word w] items

@[simp] theorem map_subst_listed (items : List (List Token)) :
    (listed items).map (Token.subst σ) = listed (items.map (List.map (Token.subst σ))) :=
  map_subst_intercalate σ .comma items

@[simp] theorem map_subst_spaced (items : List (List Token)) :
    (spaced items).map (Token.subst σ) = spaced (items.map (List.map (Token.subst σ))) :=
  map_subst_intercalate σ .space items

@[simp] theorem map_subst_clauses (parts : List (List Token)) :
    (clauses parts).map (Token.subst σ) = clauses (parts.map (List.map (Token.subst σ))) := by
  rw [clauses, map_subst_spaced, clauses, List.filter_map]
  simp [Function.comp_def]

@[simp] theorem map_subst_listedAfter (w : Word) (items : List (List Token)) :
    (listedAfter w items).map (Token.subst σ) =
      listedAfter w (items.map (List.map (Token.subst σ))) := by
  cases items with
  | nil => rfl
  | cons ts items => exact congrArg (after w) (map_subst_listed σ (ts :: items))

@[simp] theorem map_subst_nameTokens (s : String) :
    (nameTokens s).map (Token.subst σ) = nameTokens s := by
  rw [nameTokens]
  split <;> rfl

@[simp] theorem Column.tokens_subst (c : Column) :
    (c.subst σ).tokens = c.tokens.map (Token.subst σ) := by
  cases c with
  | name s => exact (map_subst_nameTokens σ s).symm
  | raw f => rfl

theorem columnItems_subst (cs : List Column) :
    (cs.map (Column.subst σ)).map Column.tokens =
      (cs.map Column.tokens).map (List.map (Token.subst σ)) := by
  simp [Function.comp_def]

theorem Aggregate.tokens_subst (a : Aggregate) :
    (a.subst σ).tokens = a.tokens.map (Token.subst σ) := by
  rw [tokens, tokens, subst, Column.tokens_subst]
  split <;> simp [Token.subst]

theorem aggregateItems_subst (as : List Aggregate) :
    (as.map (Aggregate.subst σ)).map Aggregate.tokens =
      (as.map Aggregate.tokens).map (List.map (Token.subst σ)) := by
  simp [Function.comp_def, Aggregate.tokens_subst]

theorem Order.tokens_subst (o : Order) : (o.subst σ).tokens = o.tokens.map (Token.subst σ) := by
  rw [tokens, tokens, subst, Column.tokens_subst]
  simp

theorem orderItems_subst (os : List Order) :
    (os.map (Order.subst σ)).map Order.tokens =
      (os.map Order.tokens).map (List.map (Token.subst σ)) := by
  simp [Function.comp_def, Order.tokens_subst]

@[simp] theorem map_subst_comparison (l : List Token) (o : Operator) (r : List Token) :
    (comparison l o r).map (Token.subst σ) =
      comparison (l.map (Token.subst σ)) o (r.map (Token.subst σ)) := by
  simp [comparison]

theorem targetTokens_subst (table : String) (o : Option Source) :
    targetTokens table (substSource σ o) = (targetTokens table o).map (Token.subst σ) := by
  cases o with
  | none => exact (map_subst_nameTokens σ table).symm
  | some v =>
    cases v with
    | table name => exact (map_subst_nameTokens σ name).symm
    | _ => rfl

@[simp] theorem map_subst_labelTokens (o : Option String) :
    (labelTokens o).map (Token.subst σ) = labelTokens o := by
  cases o <;> rfl

theorem Statement.label?_subst (s : Statement) : (s.subst σ).label? = s.label? := by
  cases s
  rfl

/-- A test keeps its connector. -/
theorem Predicate.afterConnector_subst (k : Option Connector) (p : Predicate) (ts : List Token) :
    (p.subst σ).afterConnector k (ts.map (Token.subst σ)) =
      (p.afterConnector k ts).map (Token.subst σ) := by
  cases k with
  | none => rfl
  | some c => cases p <;> rfl

/-- A filter keeps its word, and stays absent without conditions. -/
theorem map_subst_filter (w : Word) (items : List (List Token)) :
    (if items.isEmpty then [] else after w (spaced items)).map (Token.subst σ) =
      if (items.map (List.map (Token.subst σ))).isEmpty then []
      else after w (spaced (items.map (List.map (Token.subst σ)))) := by
  cases items with
  | nil => rfl
  | cons ts items => exact congrArg (after w) (map_subst_spaced σ (ts :: items))

/-- What is selected stays a star or a list of items. -/
theorem map_subst_selection (items : List (List Token)) :
    (after .SELECT (if items.isEmpty then [.word .star] else listed items)).map (Token.subst σ) =
      after .SELECT (if (items.map (List.map (Token.subst σ))).isEmpty then [.word .star]
        else listed (items.map (List.map (Token.subst σ)))) := by
  cases items with
  | nil => rfl
  | cons ts items => exact congrArg (after .SELECT) (map_subst_listed σ (ts :: items))

mutual

theorem Value.tokens_subst : (v : Value) → (v.subst σ).tokens = v.tokens.map (Token.subst σ)
  | .bind b => rfl
  | .raw f => rfl
  | .query s => by
    rw [Value.subst, Value.tokens, Value.tokens, map_subst_enclosed, Statement.tokens_subst s]

theorem valueItems_subst : (vs : List Value) →
    valueItems (substValues σ vs) = (valueItems vs).map (List.map (Token.subst σ))
  | [] => rfl
  | v :: vs => by
    rw [substValues, valueItems, valueItems, List.map_cons, Value.tokens_subst v,
      valueItems_subst vs]

theorem rowItems_subst : (rows : List (List Value)) →
    rowItems (substRows σ rows) = (rowItems rows).map (List.map (Token.subst σ))
  | [] => rfl
  | vs :: rows => by
    rw [substRows, rowItems, rowItems, List.map_cons, map_subst_enclosed, map_subst_listed,
      valueItems_subst vs, rowItems_subst rows]

theorem Assignment.tokens_subst : (a : Assignment) →
    (a.subst σ).tokens = a.tokens.map (Token.subst σ)
  | ⟨column, value⟩ => by
    rw [Assignment.subst, Assignment.tokens, Assignment.tokens, Value.tokens_subst value]
    rfl

theorem assignmentItems_subst : (as : List Assignment) →
    assignmentItems (substAssignments σ as) =
      (assignmentItems as).map (List.map (Token.subst σ))
  | [] => rfl
  | a :: as => by
    rw [substAssignments, assignmentItems, assignmentItems, List.map_cons,
      Assignment.tokens_subst a, assignmentItems_subst as]

theorem Source.tokens_subst : (v : Source) → (v.subst σ).tokens = v.tokens.map (Token.subst σ)
  | .table name => (map_subst_nameTokens σ name).symm
  | .raw f => rfl
  | .query s => by
    rw [Source.subst, Source.tokens, Source.tokens, List.map_append, map_subst_enclosed,
      map_subst_labelTokens, Statement.tokens_subst s, Statement.label?_subst]

theorem fromTokens_subst : (o : Option Source) →
    fromTokens (substSource σ o) = (fromTokens o).map (Token.subst σ)
  | none => rfl
  | some v => by
    rw [substSource, fromTokens, fromTokens, map_subst_after, Source.tokens_subst v]

theorem boundTokens_subst (w : Word) : (o : Option Value) →
    boundTokens w (substBound σ o) = (boundTokens w o).map (Token.subst σ)
  | none => rfl
  | some v => by
    rw [substBound, boundTokens, boundTokens, map_subst_after, Value.tokens_subst v]

theorem JoinTest.tokens_subst : (t : JoinTest) →
    (t.subst σ).tokens = t.tokens.map (Token.subst σ)
  | .columns first o second => by simp [JoinTest.subst, JoinTest.tokens]
  | .value column o v => by
    rw [JoinTest.subst, JoinTest.tokens, JoinTest.tokens, Column.tokens_subst,
      Value.tokens_subst v, map_subst_comparison]

theorem JoinCondition.tokens_subst : (c : JoinCondition) →
    (c.subst σ).tokens = c.tokens.map (Token.subst σ)
  | ⟨none, test⟩ => JoinTest.tokens_subst test
  | ⟨some k, test⟩ => congrArg (after k.word) (JoinTest.tokens_subst test)

theorem joinConditionItems_subst : (cs : List JoinCondition) →
    joinConditionItems (substJoinConditions σ cs) =
      (joinConditionItems cs).map (List.map (Token.subst σ))
  | [] => rfl
  | c :: cs => by
    rw [substJoinConditions, joinConditionItems, joinConditionItems, List.map_cons,
      JoinCondition.tokens_subst c, joinConditionItems_subst cs]

theorem Join.tokens_subst : (j : Join) → (j.subst σ).tokens = j.tokens.map (Token.subst σ)
  | ⟨kind, table, []⟩ => by
    -- Without a test there is no `ON`, before and after.
    simp [Join.subst, Join.tokens]
  | ⟨kind, table, c :: cs⟩ => by
    have hitems := joinConditionItems_subst (c :: cs)
    rw [Join.subst, Join.tokens, Join.tokens, Column.tokens_subst, hitems, List.map_append]
    simp

theorem joinItems_subst : (js : List Join) →
    joinItems (substJoins σ js) = (joinItems js).map (List.map (Token.subst σ))
  | [] => rfl
  | j :: js => by
    rw [substJoins, joinItems, joinItems, List.map_cons, Join.tokens_subst j, joinItems_subst js]

theorem Predicate.tokens_subst : (p : Predicate) →
    (p.subst σ).tokens = p.tokens.map (Token.subst σ)
  | .compare column o value => by
    rw [Predicate.subst, Predicate.tokens, Predicate.tokens, Column.tokens_subst,
      Value.tokens_subst value, map_subst_comparison]
  | .raw f => rfl
  | .constant holds => rfl
  | .group conditions => by
    rw [Predicate.subst, Predicate.tokens, Predicate.tokens, conditionItems_subst conditions,
      map_subst_enclosed, map_subst_spaced]
  | .between column low high negated => by
    rw [Predicate.subst, Predicate.tokens, Predicate.tokens, Column.tokens_subst,
      Value.tokens_subst low, Value.tokens_subst high]
    simp
  | .isNull column negated => by
    rw [Predicate.subst, Predicate.tokens, Predicate.tokens, Column.tokens_subst]
    simp
  | .among column values negated => by
    rw [Predicate.subst, Predicate.tokens, Predicate.tokens, Column.tokens_subst,
      valueItems_subst values]
    simp
  | .amongQuery column query negated => by
    rw [Predicate.subst, Predicate.tokens, Predicate.tokens, Column.tokens_subst,
      Statement.tokens_subst query]
    simp

theorem Condition.tokens_subst : (c : Condition) →
    (c.subst σ).tokens = c.tokens.map (Token.subst σ)
  | ⟨connector, predicate⟩ => by
    rw [Condition.subst, Condition.tokens, Condition.tokens, Predicate.tokens_subst predicate,
      Predicate.afterConnector_subst]

theorem conditionItems_subst : (cs : List Condition) →
    conditionItems (substConditions σ cs) = (conditionItems cs).map (List.map (Token.subst σ))
  | [] => rfl
  | c :: cs => by
    rw [substConditions, conditionItems, conditionItems, List.map_cons, Condition.tokens_subst c,
      conditionItems_subst cs]

/-- The tokens have the images at the places of the values before. -/
theorem Statement.tokens_subst : (s : Statement) →
    (s.subst σ).tokens = s.tokens.map (Token.subst σ)
  | { kind, table, dialect, columns, aggregates, source, joins, wheres, groups, havings, orders,
      limit, offset, assignments, rowColumns, rows, skipConflicts, returning, ledger } => by
    -- What is known of each part, before the text is put together from them.
    have hsource := fromTokens_subst source
    have hjoins := joinItems_subst joins
    have hwheres := conditionItems_subst wheres
    have hhavings := conditionItems_subst havings
    have hlimit := fun w => boundTokens_subst w limit
    have hoffset := fun w => boundTokens_subst w offset
    have hassignments := assignmentItems_subst assignments
    have hrows := rowItems_subst rows
    match kind with
    | none | some .select =>
      simp only [Statement.subst, Statement.tokens, columnItems_subst, aggregateItems_subst,
        orderItems_subst, hsource, hjoins, hwheres, hhavings, hlimit, hoffset, ← List.map_append,
        map_subst_clauses, List.map_cons, List.map_nil, map_subst_selection, map_subst_filter,
        map_subst_listedAfter, map_subst_spaced]
    | some .insert =>
      -- The columns of the rows are names: they stay as they are.
      have hnames : (rowColumns.map fun c => [Token.path c]).map (List.map (Token.subst σ)) =
          rowColumns.map fun c => [Token.path c] := by
        rw [List.map_map]
        rfl
      simp only [Statement.subst, Statement.tokens, hrows, targetTokens_subst, List.map_cons,
        List.map_nil, List.map_append, map_subst_clauses, map_subst_after]
      split
      · rfl
      · rw [map_subst_enclosed, map_subst_listed, hnames, map_subst_after, map_subst_listed]
        rfl
    | some .update =>
      simp only [Statement.subst, Statement.tokens, hwheres, hassignments, targetTokens_subst,
        map_subst_clauses, List.map_cons, List.map_nil, map_subst_filter, map_subst_listedAfter,
        map_subst_after]
    | some .delete =>
      simp only [Statement.subst, Statement.tokens, hsource, hwheres, map_subst_clauses,
        List.map_cons, List.map_nil, map_subst_filter, Token.subst_word]

end

/-! ### The text -/

/-- A token takes as many numbers as before. -/
@[simp] theorem Token.binds_subst (t : Token) : (t.subst σ).binds = t.binds.map σ := by
  cases t <;> rfl

/-- A token has the same pieces as before. -/
@[simp] theorem Token.pieces_subst (d : Dialect) (n : Nat) (t : Token) :
    (t.subst σ).pieces d n = t.pieces d n := by
  have hfragment : ∀ f : Fragment, (f.subst σ).pieces n = f.pieces n := fun f => by
    simp [Fragment.pieces, Fragment.subst]
  cases t with
  | fragment f => exact hfragment f
  | spacedFragment f =>
    rw [subst, pieces, pieces, hfragment]
  | _ => rfl

theorem Token.allPieces_subst (d : Dialect) (n : Nat) (ts : List Token) :
    allPieces d n (ts.map (subst σ)) = allPieces d n ts := by
  induction ts generalizing n with
  | nil => rfl
  | cons t ts ih =>
    rw [List.map_cons, allPieces, allPieces, pieces_subst, next_eq, next_eq, binds_subst,
      List.length_map, ih]

/-- The text of a statement does not depend on its scalars. -/
theorem Statement.compile_subst (d : Dialect) (s : Statement) :
    (s.subst σ).compile d = s.compile d := by
  have htarget : Token.queryTarget ∈ s.tokens.map (Token.subst σ) ↔
      Token.queryTarget ∈ s.tokens := by
    rw [List.mem_map]
    constructor
    · -- No other token becomes the one that stands for a sub-query.
      rintro ⟨t, ht, heq⟩
      cases t with
      | queryTarget => exact ht
      | _ => cases heq
    · exact fun ht => ⟨.queryTarget, ht, rfl⟩
  rw [compile, compile, tokens_subst]
  simp only [htarget, Token.render, Token.allPieces_subst]

end

end SqlBuilder
