import SqlBuilder.Database.Backend
import SqlBuilder.Proofs.Bookkeeping

namespace SqlBuilder

open Token (after enclosed)

/-!
# Pinned dialects

A statement can ask for a dialect, and so can each of its sub-queries.  The text in a given dialect
heeds none of this, and a connection gives its own dialect.

* `Value.unpin`, `Predicate.unpin`, …, `Statement.unpin` — no dialect is asked for, at any depth;
* `Statement.leaves_unpin` — all else stays: the leaves are the leaves before, without pins;
* `Statement.tokens_unpin` — the tokens stay, and so does the text in every dialect;
* `Statement.dialect_eq_none_of_within_unpin` — no statement in it asks for a dialect;
* `Report.ofStatement_of_ok` — a statement with a text is sent once;
* `unpinning` — what a run asks of the database, and what it makes of the answer.
-/

mutual

/-- A value whose sub-queries ask for no dialect. -/
def Value.unpin : Value → Value
  | .bind b => .bind b
  | .raw f => .raw f
  | .query s => .query s.unpin

/-- A list of values whose sub-queries ask for no dialect. -/
def unpinValues : List Value → List Value
  | [] => []
  | v :: vs => v.unpin :: unpinValues vs

/-- Rows whose sub-queries ask for no dialect. -/
def unpinRows : List (List Value) → List (List Value)
  | [] => []
  | vs :: rows => unpinValues vs :: unpinRows rows

/-- An assignment whose sub-query asks for no dialect. -/
def Assignment.unpin : Assignment → Assignment
  | ⟨column, value⟩ => ⟨column, value.unpin⟩

/-- Assignments whose sub-queries ask for no dialect. -/
def unpinAssignments : List Assignment → List Assignment
  | [] => []
  | a :: as => a.unpin :: unpinAssignments as

/-- A source whose sub-query asks for no dialect. -/
def Source.unpin : Source → Source
  | .table name => .table name
  | .raw f => .raw f
  | .query s => .query s.unpin

/-- A source that may be missing. -/
def unpinSource : Option Source → Option Source
  | none => none
  | some v => some v.unpin

/-- A bound that may be missing. -/
def unpinBound : Option Value → Option Value
  | none => none
  | some v => some v.unpin

/-- A test of a join whose sub-query asks for no dialect. -/
def JoinTest.unpin : JoinTest → JoinTest
  | .columns first o second => .columns first o second
  | .value column o v => .value column o v.unpin

/-- A test of a join after its connector. -/
def JoinCondition.unpin : JoinCondition → JoinCondition
  | ⟨connector, test⟩ => ⟨connector, test.unpin⟩

/-- Tests of a join whose sub-queries ask for no dialect. -/
def unpinJoinConditions : List JoinCondition → List JoinCondition
  | [] => []
  | c :: cs => c.unpin :: unpinJoinConditions cs

/-- A join whose sub-queries ask for no dialect. -/
def Join.unpin : Join → Join
  | ⟨kind, table, conditions⟩ => ⟨kind, table, unpinJoinConditions conditions⟩

/-- Joins whose sub-queries ask for no dialect. -/
def unpinJoins : List Join → List Join
  | [] => []
  | j :: js => j.unpin :: unpinJoins js

/-- A test whose sub-queries ask for no dialect. -/
def Predicate.unpin : Predicate → Predicate
  | .compare column o value => .compare column o value.unpin
  | .raw f => .raw f
  | .constant holds => .constant holds
  | .group conditions => .group (unpinConditions conditions)
  | .between column low high negated => .between column low.unpin high.unpin negated
  | .isNull column negated => .isNull column negated
  | .among column values negated => .among column (unpinValues values) negated
  | .amongQuery column query negated => .amongQuery column query.unpin negated

/-- A condition whose sub-queries ask for no dialect. -/
def Condition.unpin : Condition → Condition
  | ⟨connector, predicate⟩ => ⟨connector, predicate.unpin⟩

/-- Conditions whose sub-queries ask for no dialect. -/
def unpinConditions : List Condition → List Condition
  | [] => []
  | c :: cs => c.unpin :: unpinConditions cs

/-- A statement that asks for no dialect, and neither do its sub-queries. -/
def Statement.unpin : Statement → Statement
  | { kind, table, dialect := _, columns, aggregates, source, joins, wheres, groups, havings,
      orders, limit, offset, assignments, rowColumns, rows, skipConflicts, returning, ledger } =>
    { kind, table, columns, aggregates, groups, orders, rowColumns, skipConflicts, returning, ledger
      dialect := none
      source := unpinSource source
      joins := unpinJoins joins
      wheres := unpinConditions wheres
      havings := unpinConditions havings
      limit := unpinBound limit
      offset := unpinBound offset
      assignments := unpinAssignments assignments
      rows := unpinRows rows }

end

/-! ### The items of a list, one by one -/

@[simp] theorem unpinValues_eq_map (vs : List Value) : unpinValues vs = vs.map Value.unpin := by
  induction vs with
  | nil => rfl
  | cons v vs ih => rw [unpinValues, ih, List.map_cons]

@[simp] theorem unpinRows_eq_map (rows : List (List Value)) :
    unpinRows rows = rows.map (List.map Value.unpin) := by
  induction rows with
  | nil => rfl
  | cons vs rows ih => rw [unpinRows, ih, unpinValues_eq_map, List.map_cons]

@[simp] theorem unpinAssignments_eq_map (as : List Assignment) :
    unpinAssignments as = as.map Assignment.unpin := by
  induction as with
  | nil => rfl
  | cons a as ih => rw [unpinAssignments, ih, List.map_cons]

@[simp] theorem unpinJoinConditions_eq_map (cs : List JoinCondition) :
    unpinJoinConditions cs = cs.map JoinCondition.unpin := by
  induction cs with
  | nil => rfl
  | cons c cs ih => rw [unpinJoinConditions, ih, List.map_cons]

@[simp] theorem unpinJoins_eq_map (js : List Join) : unpinJoins js = js.map Join.unpin := by
  induction js with
  | nil => rfl
  | cons j js ih => rw [unpinJoins, ih, List.map_cons]

@[simp] theorem unpinConditions_eq_map (cs : List Condition) :
    unpinConditions cs = cs.map Condition.unpin := by
  induction cs with
  | nil => rfl
  | cons c cs ih => rw [unpinConditions, ih, List.map_cons]

/-! ### The leaves stay but for their pins -/

/-- A leaf that asks for no dialect. -/
def Leaf.unpin : Leaf → Leaf
  | .query s => .query s.unpin
  | x => x

@[simp] theorem Leaf.unpin_name (s : String) : (Leaf.name s).unpin = .name s := rfl

@[simp] theorem Leaf.unpin_fragment (f : Fragment) : (Leaf.fragment f).unpin = .fragment f := rfl

@[simp] theorem Leaf.unpin_query (s : Statement) : (Leaf.query s).unpin = .query s.unpin := rfl

@[simp] theorem Column.unpin_leaf (c : Column) : c.leaf.unpin = c.leaf := by cases c <;> rfl

@[simp] theorem Value.leaf_unpin (v : Value) : v.unpin.leaf = v.leaf.unpin := by cases v <;> rfl

@[simp] theorem Source.leaf_unpin (v : Source) : v.unpin.leaf = v.leaf.unpin := by cases v <;> rfl

theorem Assignment.leaves_unpin (a : Assignment) : a.unpin.leaves = a.leaves.map Leaf.unpin := by
  cases a
  simp [unpin, leaves]

theorem Join.leaves_unpin (j : Join) : j.unpin.leaves = j.leaves.map Leaf.unpin := by
  have htest : ∀ c : JoinCondition, c.unpin.test.leaves = c.test.leaves.map Leaf.unpin := by
    rintro ⟨connector, test⟩
    cases test <;> simp [JoinCondition.unpin, JoinTest.unpin, JoinTest.leaves]
  cases j
  simp [unpin, leaves, List.flatMap_map, List.map_flatMap, htest]

@[simp] theorem Condition.predicate_unpin (c : Condition) :
    c.unpin.predicate = c.predicate.unpin := by
  cases c
  rfl

theorem Predicate.leaves_unpin (p : Predicate) : p.unpin.leaves = p.leaves.map Leaf.unpin := by
  induction p using Predicate.groupInduction with
  | h p ih =>
    cases p with
    | group cs =>
      -- Both lists are put together from the conditions, so they are compared one by one.
      simp only [unpin, leaves, unpinConditions_eq_map, conditionLeaves_eq_flatMap,
        List.flatMap_map, List.map_flatMap, Condition.predicate_unpin]
      exact List.flatMap_congr (ih cs rfl)
    | _ => simp [unpin, leaves]

theorem conditionLeaves_unpin (cs : List Condition) :
    conditionLeaves (unpinConditions cs) = (conditionLeaves cs).map Leaf.unpin :=
  Predicate.leaves_unpin (.group cs)

namespace Statement

/-- The leaves of a clause are those before, without pins. -/
theorem leaves_unpin (s : Statement) (e : Clause) :
    s.unpin.leaves e = (s.leaves e).map Leaf.unpin := by
  cases s with
  | mk _ _ _ _ _ source _ _ _ _ _ limit offset =>
    cases e with
    | source => cases source <;> simp [unpin, leaves, unpinSource]
    | limit => cases limit <;> simp [unpin, leaves, unpinBound]
    | offset => cases offset <;> simp [unpin, leaves, unpinBound]
    | wheres => exact conditionLeaves_unpin _
    | havings => exact conditionLeaves_unpin _
    | joins => simp [unpin, leaves, List.flatMap_map, List.map_flatMap, Join.leaves_unpin]
    | assignments =>
      simp [unpin, leaves, List.flatMap_map, List.map_flatMap, Assignment.leaves_unpin]
    | rows =>
      simp [unpin, leaves, List.flatMap_map, List.map_flatMap, Function.comp_def]
    | _ => simp [unpin, leaves]

/-- No dialect is asked for, at any depth. -/
theorem dialect_eq_none_of_within_unpin {s t : Statement} (h : t.Within s.unpin) :
    t.dialect = none := by
  generalize hu : s.unpin = u at h
  -- By induction on the way to `t`: at each step on it, `s` is another statement.
  induction h generalizing s with
  | refl =>
    rw [← hu]
    cases s
    rfl
  | query e hq _ ih =>
    -- A sub-query without pins comes from a sub-query of `s`.
    rw [← hu, leaves_unpin] at hq
    obtain ⟨x, _, hx⟩ := List.mem_map.1 hq
    cases x with
    | query q => exact ih (Leaf.query.inj hx)
    | _ => cases hx

end Statement

/-! ### The tokens stay -/

theorem Statement.label?_unpin (s : Statement) : s.unpin.label? = s.label? := by
  cases s
  rfl

theorem targetTokens_unpin (table : String) (o : Option Source) :
    targetTokens table (unpinSource o) = targetTokens table o := by
  cases o with
  | none => rfl
  | some v => cases v <;> rfl

theorem Predicate.afterConnector_unpin (k : Option Connector) (p : Predicate) (ts : List Token) :
    p.unpin.afterConnector k ts = p.afterConnector k ts := by
  cases k with
  | none => rfl
  | some c => cases p <;> rfl

mutual

theorem Value.tokens_unpin : (v : Value) → v.unpin.tokens = v.tokens
  | .bind _ | .raw _ => rfl
  | .query s => congrArg enclosed (Statement.tokens_unpin s)

theorem valueItems_unpin : (vs : List Value) → valueItems (unpinValues vs) = valueItems vs
  | [] => rfl
  | v :: vs => by
    rw [unpinValues, valueItems, valueItems, Value.tokens_unpin v, valueItems_unpin vs]

theorem rowItems_unpin : (rows : List (List Value)) → rowItems (unpinRows rows) = rowItems rows
  | [] => rfl
  | vs :: rows => by
    rw [unpinRows, rowItems, rowItems, valueItems_unpin vs, rowItems_unpin rows]

theorem Assignment.tokens_unpin : (a : Assignment) → a.unpin.tokens = a.tokens
  | ⟨column, value⟩ => by
    rw [Assignment.unpin, Assignment.tokens, Assignment.tokens, Value.tokens_unpin value]

theorem assignmentItems_unpin : (as : List Assignment) →
    assignmentItems (unpinAssignments as) = assignmentItems as
  | [] => rfl
  | a :: as => by
    rw [unpinAssignments, assignmentItems, assignmentItems, Assignment.tokens_unpin a,
      assignmentItems_unpin as]

theorem Source.tokens_unpin : (v : Source) → v.unpin.tokens = v.tokens
  | .table _ | .raw _ => rfl
  | .query s => by
    rw [Source.unpin, Source.tokens, Source.tokens, Statement.tokens_unpin s,
      Statement.label?_unpin]

theorem fromTokens_unpin : (o : Option Source) → fromTokens (unpinSource o) = fromTokens o
  | none => rfl
  | some v => congrArg (after .FROM) (Source.tokens_unpin v)

theorem boundTokens_unpin (w : Word) : (o : Option Value) →
    boundTokens w (unpinBound o) = boundTokens w o
  | none => rfl
  | some v => congrArg (after w) (Value.tokens_unpin v)

theorem JoinTest.tokens_unpin : (t : JoinTest) → t.unpin.tokens = t.tokens
  | .columns _ _ _ => rfl
  | .value column o v => congrArg (comparison column.tokens o) (Value.tokens_unpin v)

theorem JoinCondition.tokens_unpin : (c : JoinCondition) → c.unpin.tokens = c.tokens
  | ⟨none, test⟩ => JoinTest.tokens_unpin test
  | ⟨some k, test⟩ => congrArg (after k.word) (JoinTest.tokens_unpin test)

theorem joinConditionItems_unpin : (cs : List JoinCondition) →
    joinConditionItems (unpinJoinConditions cs) = joinConditionItems cs
  | [] => rfl
  | c :: cs => by
    rw [unpinJoinConditions, joinConditionItems, joinConditionItems, JoinCondition.tokens_unpin c,
      joinConditionItems_unpin cs]

theorem Join.tokens_unpin : (j : Join) → j.unpin.tokens = j.tokens
  | ⟨_, _, []⟩ => rfl
  | ⟨kind, table, c :: cs⟩ => by
    have hitems := joinConditionItems_unpin (c :: cs)
    rw [Join.unpin, Join.tokens, Join.tokens, hitems]
    rfl

theorem joinItems_unpin : (js : List Join) → joinItems (unpinJoins js) = joinItems js
  | [] => rfl
  | j :: js => by rw [unpinJoins, joinItems, joinItems, Join.tokens_unpin j, joinItems_unpin js]

theorem Predicate.tokens_unpin : (p : Predicate) → p.unpin.tokens = p.tokens
  | .compare column o value => congrArg (comparison column.tokens o) (Value.tokens_unpin value)
  | .raw _ | .constant _ | .isNull _ _ => rfl
  | .group conditions => by
    rw [Predicate.unpin, Predicate.tokens, Predicate.tokens, conditionItems_unpin conditions]
  | .between column low high negated => by
    rw [Predicate.unpin, Predicate.tokens, Predicate.tokens, Value.tokens_unpin low,
      Value.tokens_unpin high]
  | .among column values negated => by
    rw [Predicate.unpin, Predicate.tokens, Predicate.tokens, valueItems_unpin values]
  | .amongQuery column query negated => by
    rw [Predicate.unpin, Predicate.tokens, Predicate.tokens, Statement.tokens_unpin query]

theorem Condition.tokens_unpin : (c : Condition) → c.unpin.tokens = c.tokens
  | ⟨connector, predicate⟩ => by
    rw [Condition.unpin, Condition.tokens, Condition.tokens, Predicate.tokens_unpin predicate,
      Predicate.afterConnector_unpin]

theorem conditionItems_unpin : (cs : List Condition) →
    conditionItems (unpinConditions cs) = conditionItems cs
  | [] => rfl
  | c :: cs => by
    rw [unpinConditions, conditionItems, conditionItems, Condition.tokens_unpin c,
      conditionItems_unpin cs]

/-- The tokens do not depend on what dialects are asked for. -/
theorem Statement.tokens_unpin : (s : Statement) → s.unpin.tokens = s.tokens
  | { kind, table, dialect, columns, aggregates, source, joins, wheres, groups, havings, orders,
      limit, offset, assignments, rowColumns, rows, skipConflicts, returning, ledger } => by
    simp only [Statement.unpin, Statement.tokens, fromTokens_unpin source, joinItems_unpin joins,
      conditionItems_unpin wheres, conditionItems_unpin havings, boundTokens_unpin _ limit,
      boundTokens_unpin _ offset, assignmentItems_unpin assignments, rowItems_unpin rows,
      targetTokens_unpin]

end

/-- The text in a dialect does not depend on what dialects are asked for. -/
theorem Statement.compile_unpin (d : Dialect) (s : Statement) :
    s.unpin.compile d = s.compile d := by
  rw [compile, compile, tokens_unpin]

/-! ### Runs -/

namespace Report

variable {α β : Type} {d : Driver} {s : Statement} {call : Call}
  {send : String → List Bind → Response α} {read : α → Except Failure β}

/-- A statement without a text is not sent. -/
theorem ofStatement_of_error {m : Misuse} (h : s.compile d.dialect = .error m) :
    (ofStatement d s call send read).requests = [] ∧
      (ofStatement d s call send read).result = .error (.misuse m) := by
  rw [ofStatement, h]
  exact ⟨rfl, rfl⟩

/-- A statement with a text is sent once, with its values. -/
theorem ofStatement_of_ok {sql : String} (h : s.compile d.dialect = .ok sql) :
    (ofStatement d s call send read).requests = [⟨call, sql, s.data⟩] ∧
      (ofStatement d s call send read).result =
        ((send sql s.data).result.bind read).mapError .failure := by
  rw [ofStatement, h]
  exact ⟨rfl, rfl⟩

end Report

namespace Backend

variable {ρ : Type} {b : Backend ρ} {s : Statement} {sql : String}

/-- Nothing is done to the answer to a statement that writes, or to a query for all rows. -/
theorem bind_ok {α : Type} (answer : Except Failure α) : answer.bind .ok = answer := by
  cases answer <;> rfl

/-- The first row is the one that the database answers. -/
theorem first_eq_ok_iff (h : s.compile b.driver.dialect = .ok sql) (row : ρ) :
    (b.first s).result = .ok row ↔ (b.fetchOptional sql s.data).result = .ok (some row) := by
  rw [first, (Report.ofStatement_of_ok h).2]
  rcases (b.fetchOptional sql s.data).result with f | _ | row'
  · simp [Except.bind, Except.mapError]
  · simp [Except.bind, Except.mapError]
  · simp [Except.bind, Except.mapError]

/-- It fails as the database fails, or because there is no row. -/
theorem first_eq_error_iff (h : s.compile b.driver.dialect = .ok sql) (f : Failure) :
    (b.first s).result = .error (.failure f) ↔
      (b.fetchOptional sql s.data).result = .error f ∨
        (b.fetchOptional sql s.data).result = .ok none ∧ f = .noRows := by
  rw [first, (Report.ofStatement_of_ok h).2]
  rcases (b.fetchOptional sql s.data).result with f' | _ | row
  · simp [Except.bind, Except.mapError]
  · simp [Except.bind, Except.mapError, eq_comm]
  · simp [Except.bind, Except.mapError]

/-- Unless the database itself fails so, there is no row exactly if it answers with none. -/
theorem first_eq_noRows_iff (h : s.compile b.driver.dialect = .ok sql)
    (hanswer : (b.fetchOptional sql s.data).result ≠ .error .noRows) :
    (b.first s).result = .error (.failure .noRows) ↔
      (b.fetchOptional sql s.data).result = .ok none := by
  rw [first_eq_error_iff h]
  exact ⟨fun h => (h.resolve_left hanswer).1, fun h => .inr ⟨h, rfl⟩⟩

end Backend

/-- **Unpinning.**  The text of a statement in a dialect does not depend on what dialects it, its
    sub-queries or the bodies of its groups ask for.  So a run on a connection sends the text that
    the statement without pins has in the dialect of the connection, once and with the values of the
    statement, or nothing if there is no such text.  The default dialect of a session plays no part,
    for a run does not see it.  The answer is handed on as it is; only where the first row is asked
    for and there is none, this is a failure. -/
theorem unpinning {ρ : Type} (b : Backend ρ) (s : Statement) :
    (∀ t : Statement, t.Within s.unpin → t.dialect = none) ∧
    (∀ d, s.unpin.compile d = s.compile d) ∧
    (∀ (f : Filter) (c : Connector) (inner : Statement) (d : Dialect),
      s.addGroup f c (inner.withDialect d) = s.addGroup f c inner) ∧
    (∀ m, s.unpin.compile b.driver.dialect = .error m →
      ((b.execute s).requests = [] ∧ (b.execute s).result = .error (.misuse m)) ∧
      ((b.get s).requests = [] ∧ (b.get s).result = .error (.misuse m)) ∧
      ((b.first s).requests = [] ∧ (b.first s).result = .error (.misuse m))) ∧
    (∀ sql, s.unpin.compile b.driver.dialect = .ok sql →
      ((b.execute s).requests = [⟨.exec, sql, s.data⟩] ∧
        (b.execute s).result = (b.exec sql s.data).result.mapError .failure) ∧
      ((b.get s).requests = [⟨.fetchAll, sql, s.data⟩] ∧
        (b.get s).result = (b.fetchAll sql s.data).result.mapError .failure) ∧
      ((b.first s).requests = [⟨.fetchOptional, sql, s.data⟩] ∧
        (∀ row, (b.first s).result = .ok row ↔
          (b.fetchOptional sql s.data).result = .ok (some row)) ∧
        (∀ f, (b.first s).result = .error (.failure f) ↔
          (b.fetchOptional sql s.data).result = .error f ∨
            (b.fetchOptional sql s.data).result = .ok none ∧ f = .noRows) ∧
        ((b.fetchOptional sql s.data).result ≠ .error .noRows →
          ((b.first s).result = .error (.failure .noRows) ↔
            (b.fetchOptional sql s.data).result = .ok none)))) := by
  refine ⟨fun t => Statement.dialect_eq_none_of_within_unpin, s.compile_unpin, ?_, ?_, ?_⟩
  · -- A group takes over the conditions of its body and the values of one clause, and no more.
    intro f c inner d
    cases f <;> rfl
  · intro m hm
    rw [s.compile_unpin] at hm
    exact ⟨Report.ofStatement_of_error hm, Report.ofStatement_of_error hm,
      Report.ofStatement_of_error hm⟩
  · intro sql hsql
    rw [s.compile_unpin] at hsql
    have hexecute : (b.execute s).requests = [⟨.exec, sql, s.data⟩] ∧
        (b.execute s).result = ((b.exec sql s.data).result.bind .ok).mapError .failure :=
      Report.ofStatement_of_ok hsql
    have hget : (b.get s).requests = [⟨.fetchAll, sql, s.data⟩] ∧
        (b.get s).result = ((b.fetchAll sql s.data).result.bind .ok).mapError .failure :=
      Report.ofStatement_of_ok hsql
    rw [Backend.bind_ok] at hexecute hget
    exact ⟨hexecute, hget, (Report.ofStatement_of_ok hsql).1, Backend.first_eq_ok_iff hsql,
      Backend.first_eq_error_iff hsql, Backend.first_eq_noRows_iff hsql⟩

/-- A statement for PostgreSQL on a sub-query for MySQL. -/
def pinnedStatement : Statement :=
  let rows : Statement := .ofSource (.table "a b")
  ((Statement.ofSource (.query (rows.withDialect .mysql))).withDialect .postgres).limitTo
    (.bind (.int64 1))

/-- An empty SQLite database. -/
def emptyBackend : Backend Nat where
  driver := .sqlite
  exec _ _ := ⟨.ok ⟨0, none⟩, []⟩
  fetchAll _ _ := ⟨.ok [], []⟩
  fetchOptional _ _ := ⟨.ok none, []⟩

theorem unpinning_pinnedStatement :
    ∃ sql, pinnedStatement.unpin.compile .sqlite = .ok sql ∧
      pinnedStatement.compile .sqlite = .ok sql ∧
      (emptyBackend.execute pinnedStatement).requests = [⟨.exec, sql, [.int64 1]⟩] ∧
      (emptyBackend.get pinnedStatement).result = .ok [] ∧
      (emptyBackend.first pinnedStatement).requests = [⟨.fetchOptional, sql, [.int64 1]⟩] ∧
      (emptyBackend.first pinnedStatement).result = .error (.failure .noRows) := by
  obtain ⟨_, hcompile, _, _, hsent⟩ := unpinning emptyBackend pinnedStatement
  have htext : pinnedStatement.unpin.compile .sqlite = .ok _ := rfl
  obtain ⟨hexecute, hget, hfirst, _, _, hnone⟩ := hsent _ htext
  refine ⟨_, htext, (hcompile _).symm.trans htext, hexecute.1, hget.2, hfirst, ?_⟩
  refine (hnone fun h => ?_).2 rfl
  cases h

end SqlBuilder
