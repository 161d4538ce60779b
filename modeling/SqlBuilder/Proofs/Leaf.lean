import SqlBuilder.Script

namespace SqlBuilder

/-!
# Leaves

What a caller hands over ends up at the leaves of a statement: names, fragments, scalars and whole
sub-queries.  A clause is the list of its leaves, from left to right.

* `Leaf`, `Leaf.binds` — a leaf, and the values that it brings along;
* `Input` — a leaf that is no sub-query: what a caller can spell out;
* `Statement.leaves` — the leaves of a clause, whether the kind writes that clause or not;
* `Statement.written` — the leaves of the clauses that the kind writes, in the order of the text;
* `Script.inputs`, `Script.scalars` — what a script spells out, down to the scripts of its
  sub-queries, and the scalars among it;
* `leaves_fromSource`, `leaves_select`, … — what a call does to the leaves of each clause.
-/

/-- What stands at one place of a clause. -/
inductive Leaf where
  | name (s : String)
  | fragment (f : Fragment)
  | bind (b : Bind)
  | query (s : Statement)

/-- What a caller spells out: all leaves but sub-queries, which are built by calls. -/
inductive Input where
  | name (s : String)
  | fragment (f : Fragment)
  | bind (b : Bind)

/-- An input as a leaf. -/
def Input.leaf : Input → Leaf
  | .name s => .name s
  | .fragment f => .fragment f
  | .bind b => .bind b

/-- The values of a leaf.  A sub-query brings the values it has itself. -/
def Leaf.binds : Leaf → List Bind
  | .name _ => []
  | .fragment f => f.binds
  | .bind b => [b]
  | .query s => s.data

@[simp] theorem Leaf.binds_name (s : String) : (Leaf.name s).binds = [] := rfl

@[simp] theorem Leaf.binds_fragment (f : Fragment) : (Leaf.fragment f).binds = f.binds := rfl

@[simp] theorem Leaf.binds_bind (b : Bind) : (Leaf.bind b).binds = [b] := rfl

@[simp] theorem Leaf.binds_query (s : Statement) : (Leaf.query s).binds = s.data := rfl

/-! ### The leaves of the parts -/

/-- A column as an input. -/
def Column.input : Column → Input
  | .name s => .name s
  | .raw f => .fragment f

/-- A column as a leaf. -/
def Column.leaf (c : Column) : Leaf := c.input.leaf

@[simp] theorem Column.leaf_name (s : String) : (Column.name s).leaf = .name s := rfl

@[simp] theorem Column.leaf_raw (f : Fragment) : (Column.raw f).leaf = .fragment f := rfl

/-- A value as a leaf. -/
def Value.leaf : Value → Leaf
  | .bind b => .bind b
  | .raw f => .fragment f
  | .query s => .query s

/-- A source as a leaf. -/
def Source.leaf : Source → Leaf
  | .table name => .name name
  | .raw f => .fragment f
  | .query s => .query s

@[simp] theorem Column.binds_leaf (c : Column) : c.leaf.binds = c.binds := by cases c <;> rfl

@[simp] theorem Value.binds_leaf (v : Value) : v.leaf.binds = v.binds := by cases v <;> rfl

@[simp] theorem Source.binds_leaf (v : Source) : v.leaf.binds = v.binds := by cases v <;> rfl

/-- The values of columns, leaf by leaf. -/
@[simp] theorem flatMap_binds_columns (cs : List Column) :
    (cs.map Column.leaf).flatMap Leaf.binds = cs.flatMap Column.binds := by
  simp [List.flatMap_map]

/-- The values of values, leaf by leaf. -/
@[simp] theorem flatMap_binds_values (vs : List Value) :
    (vs.map Value.leaf).flatMap Leaf.binds = vs.flatMap Value.binds := by
  simp [List.flatMap_map]

mutual

/-- The leaves of a test. -/
def Predicate.leaves : Predicate → List Leaf
  | .compare column _ value => [column.leaf, value.leaf]
  | .raw f => [.fragment f]
  | .constant _ => []
  | .group conditions => conditionLeaves conditions
  | .between column low high _ => [column.leaf, low.leaf, high.leaf]
  | .isNull column _ => [column.leaf]
  | .among column values _ => column.leaf :: values.map Value.leaf
  | .amongQuery column query _ => [column.leaf, .query query]

/-- The leaves of a list of conditions. -/
def conditionLeaves : List Condition → List Leaf
  | [] => []
  | ⟨_, predicate⟩ :: cs => predicate.leaves ++ conditionLeaves cs

end

@[simp] theorem conditionLeaves_eq_flatMap (cs : List Condition) :
    conditionLeaves cs = cs.flatMap (·.predicate.leaves) := by
  induction cs with
  | nil => rfl
  | cons c cs ih =>
    obtain ⟨k, p⟩ := c
    rw [conditionLeaves, ih, List.flatMap_cons]

/-- The leaves of a test of a join. -/
def JoinTest.leaves : JoinTest → List Leaf
  | .columns first _ second => [first.leaf, second.leaf]
  | .value column _ v => [column.leaf, v.leaf]

/-- The leaves of a join. -/
def Join.leaves (j : Join) : List Leaf := j.table.leaf :: j.conditions.flatMap (·.test.leaves)

/-- The leaves of an assignment. -/
def Assignment.leaves (a : Assignment) : List Leaf := [.name a.column, a.value.leaf]

/-- The leaves of a payload. -/
def Payload.leaves (p : Payload) : List Leaf := p.assignments.flatMap Assignment.leaves

namespace Statement

/-- The leaves of a clause. -/
def leaves (s : Statement) : Clause → List Leaf
  | .columns => s.columns.map Column.leaf
  | .aggregates => s.aggregates.map (·.column.leaf)
  | .source => s.source.toList.map Source.leaf
  | .joins => s.joins.flatMap Join.leaves
  | .assignments => s.assignments.flatMap Assignment.leaves
  | .rows => s.rows.flatMap (·.map Value.leaf)
  | .wheres => conditionLeaves s.wheres
  | .groups => s.groups.map Column.leaf
  | .havings => conditionLeaves s.havings
  | .orders => s.orders.map (·.column.leaf)
  | .limit => s.limit.toList.map Value.leaf
  | .offset => s.offset.toList.map Value.leaf

/-- The leaves that the kind of the statement writes, in the order of its text. -/
def written (s : Statement) : List Leaf := (Kind.clauses s.kind).flatMap s.leaves

end Statement

/-! ### What a call does to the leaves -/

namespace Statement

variable (s : Statement) (e : Clause)

@[simp] theorem leaves_new : new.leaves e = [] := by cases e <;> rfl

@[simp] theorem leaves_scope : s.scope.leaves e = [] := by cases e <;> rfl

theorem leaves_fromSource (v : Source) :
    (s.fromSource v).leaves e = if e = .source then [v.leaf] else s.leaves e := by
  cases e <;> rfl

@[simp] theorem leaves_withDialect (d : Dialect) : (s.withDialect d).leaves e = s.leaves e := by
  cases e <;> rfl

/-- The kind of a statement has no part in its leaves. -/
@[simp] theorem leaves_setKind (k : Option Kind) : { s with kind := k }.leaves e = s.leaves e := by
  cases e <;> rfl

theorem leaves_select (cs : List Column) (h : s.admits .select = true) :
    (s.select cs).leaves e =
      if e = .columns then s.leaves e ++ cs.map Column.leaf else s.leaves e := by
  rw [select, if_pos h]
  cases e <;> simp [leaves]

theorem leaves_aggregate (a : Aggregate) (h : s.admits .select = true) :
    (s.aggregate a).leaves e =
      if e = .aggregates then s.leaves e ++ [a.column.leaf] else s.leaves e := by
  rw [aggregate, if_pos h]
  cases e <;> simp [leaves]

theorem leaves_groupBy (cs : List Column) :
    (s.groupBy cs).leaves e =
      if e = .groups then s.leaves e ++ cs.map Column.leaf else s.leaves e := by
  cases e <;> simp [groupBy, leaves]

/-- A sort direction that is not on the list ends the call; else the column is added. -/
theorem orderBy_eq_ok {s t : Statement} {c : Column} {w : String} (h : s.orderBy c w = .ok t) :
    ∃ d, Direction.check w = .ok d ∧
      t = { s with orders := s.orders ++ [⟨c, d⟩], ledger := s.ledger.add .orders c.binds } := by
  rw [orderBy] at h
  cases hd : Direction.check w with
  | error m => rw [hd] at h; cases h
  | ok d => rw [hd] at h; cases h; exact ⟨d, rfl, rfl⟩

theorem leaves_orderBy {t : Statement} {c : Column} {w : String} (h : s.orderBy c w = .ok t) :
    t.leaves e = if e = .orders then s.leaves e ++ [c.leaf] else s.leaves e := by
  obtain ⟨d, _, rfl⟩ := orderBy_eq_ok h
  cases e <;> simp [leaves]

theorem leaves_limitTo (v : Value) :
    (s.limitTo v).leaves e = if e = .limit then [v.leaf] else s.leaves e := by
  cases e <;> rfl

theorem leaves_offsetBy (v : Value) :
    (s.offsetBy v).leaves e = if e = .offset then [v.leaf] else s.leaves e := by
  cases e <;> rfl

/-- A row is added if it is the first one or has the columns of the rows so far. -/
theorem addRow_eq_ok {s t : Statement} {p : Payload} (h : s.addRow p = .ok t) :
    (s.rows = [] ∨ p.columns = s.rowColumns) ∧
      t = { s with
        rowColumns := p.columns
        rows := s.rows ++ [p.values]
        ledger := s.ledger.add .rows p.binds } := by
  rw [addRow] at h
  split at h
  · rename_i hc
    cases h
    refine ⟨?_, rfl⟩
    simpa using hc
  · cases h

theorem leaves_addRow {t : Statement} {p : Payload} (h : s.addRow p = .ok t) :
    t.leaves e = if e = .rows then s.leaves e ++ p.values.map Value.leaf else s.leaves e := by
  obtain ⟨_, rfl⟩ := addRow_eq_ok h
  cases e <;> simp [leaves]

@[simp] theorem leaves_skippingConflicts : s.skippingConflicts.leaves e = s.leaves e := by
  cases e <;> rfl

@[simp] theorem leaves_returningColumns (cs : List String) :
    (s.returningColumns cs).leaves e = s.leaves e := by
  cases e <;> rfl

theorem leaves_update (p : Payload) (h : s.admits .update = true) :
    (s.update p).leaves e = if e = .assignments then p.leaves else s.leaves e := by
  rw [update, if_pos h]
  cases e <;> rfl

@[simp] theorem leaves_delete : s.delete.leaves e = s.leaves e := by
  rw [delete]
  split
  · cases e <;> rfl
  · rfl

theorem leaves_addCondition (f : Filter) (c : Connector) (p : Predicate) (bs : List Bind) :
    (s.addCondition f c p bs).leaves e =
      if e = f.clause then s.leaves e ++ p.leaves else s.leaves e := by
  cases f <;> cases e <;> simp [addCondition, setConditions, conditions, leaves, Filter.clause]

/-- The leaves of the clause that holds a filter are those of its conditions. -/
theorem leaves_clause (f : Filter) : s.leaves f.clause = conditionLeaves (s.conditions f) := by
  cases f <;> rfl

theorem leaves_addJoin (j : JoinDraft) :
    (s.addJoin j).leaves e =
      if e = .joins then s.leaves e ++ j.join.leaves else s.leaves e := by
  cases e <;> simp [addJoin, leaves]

end Statement

/-! ### Payloads -/

/-- A setting of `insertAt` is the new one or an old one. -/
theorem Payload.mem_insertAt {column : String} {value : Value} {as : List Assignment}
    {a : Assignment} (h : a ∈ insertAt column value as) : a = ⟨column, value⟩ ∨ a ∈ as := by
  induction as with
  | nil => exact .inl (by simpa [insertAt] using h)
  | cons b bs ih =>
    rw [insertAt] at h
    split at h
    · exact (List.mem_cons.1 h)
    · split at h
      · -- The column was set before: the new setting takes the place of the old one.
        exact (List.mem_cons.1 h).imp id (List.mem_cons_of_mem _)
      · rcases List.mem_cons.1 h with rfl | h
        · exact .inr List.mem_cons_self
        · exact (ih h).imp id (List.mem_cons_of_mem _)

/-- A payload made of pairs has no assignment but those. -/
theorem Payload.mem_ofList {entries : List (String × Value)} {a : Assignment}
    (h : a ∈ (ofList entries).assignments) : (a.column, a.value) ∈ entries := by
  -- The fold is over the pairs, and the payload it has got to is arbitrary.
  have key : ∀ (entries : List (String × Value)) (p : Payload),
      a ∈ (entries.foldl (fun p e => p.set e.1 e.2) p).assignments →
        (a.column, a.value) ∈ entries ∨ a ∈ p.assignments := by
    intro entries
    induction entries with
    | nil => intro p h; exact .inr h
    | cons e es ih =>
      intro p h
      rcases ih _ h with h | h
      · exact .inl (List.mem_cons_of_mem _ h)
      · rcases mem_insertAt h with rfl | h
        · exact .inl List.mem_cons_self
        · exact .inr h
  rcases key entries {} h with h | h
  · exact h
  · cases h

/-! ### What a script spells out -/

/-- What is spelled out in a JSON payload: the keys of an object and the scalars for their
    values. -/
def Json.inputs : Json → List Input
  | .object members => members.flatMap fun m => [.name m.1, .bind (m.2.toBind display)]
  | _ => []

mutual

/-- What a call spells out. -/
def Step.inputs : Step → List Input
  | .new | .withDialect _ | .delete | .skipConflicts => []
  | .table source | .fromSource source => source.inputs
  | .select columns | .groupBy columns => columns.map Column.input
  | .aggregate a => [a.column.input]
  | .orderBy column _ => [column.input]
  | .limit value | .offset value => value.inputs
  | .insert rows => rowInputs rows
  | .update payload => payload.inputs
  | .returning columns => columns.map Input.name
  | .compare _ _ column _ value => column.input :: value.inputs
  | .compareRaw _ _ fragment => [.fragment fragment]
  | .group _ _ body => stepInputs body
  | .among _ column members _ => column.input :: members.inputs
  | .between _ column low high _ => column.input :: (low.inputs ++ high.inputs)
  | .isNull _ column _ => [column.input]
  | .join _ table first _ second => [table.input, .name first, .name second]
  | .joinWith _ table body => table.input :: joinStepInputs body
  | .times _ body => stepInputs body

/-- What a list of calls spells out. -/
def stepInputs : List Step → List Input
  | [] => []
  | step :: steps => step.inputs ++ stepInputs steps

/-- What is spelled out in an operand. -/
def Operand.inputs : Operand → List Input
  | .bind b => [.bind b]
  | .raw f => [.fragment f]
  | .query body | .self body => stepInputs body

/-- What is spelled out in a source. -/
def Origin.inputs : Origin → List Input
  | .table name => [.name name]
  | .raw f => [.fragment f]
  | .query body | .self body => stepInputs body

/-- What is spelled out in the members of a test. -/
def Members.inputs : Members → List Input
  | .values vs => operandInputs vs
  | .query body | .self body => stepInputs body

/-- What is spelled out in a list of operands. -/
def operandInputs : List Operand → List Input
  | [] => []
  | v :: vs => v.inputs ++ operandInputs vs

/-- What is spelled out in the entries of a payload. -/
def entryInputs : List (String × Operand) → List Input
  | [] => []
  | (column, v) :: entries => .name column :: (v.inputs ++ entryInputs entries)

/-- What is spelled out in a payload. -/
def PayloadTerm.inputs : PayloadTerm → List Input
  | .columns entries => entryInputs entries
  | .json value => value.inputs

/-- What is spelled out in a list of payloads. -/
def rowInputs : List PayloadTerm → List Input
  | [] => []
  | p :: ps => p.inputs ++ rowInputs ps

/-- What is spelled out in a call on a join. -/
def JoinStep.inputs : JoinStep → List Input
  | .on _ first _ second => [first.input, second.input]
  | .compare _ column _ value => column.input :: value.inputs

/-- What is spelled out in a list of calls on a join. -/
def joinStepInputs : List JoinStep → List Input
  | [] => []
  | step :: steps => step.inputs ++ joinStepInputs steps

end

/-- The scalars of inputs. -/
def scalarsOf (xs : List Input) : List Bind := xs.flatMap (·.leaf.binds)

namespace Script

/-- What a script spells out. -/
def inputs (script : Script) : List Input := stepInputs script

/-- The scalars of a script, those in its fragments included. -/
def scalars (script : Script) : List Bind := scalarsOf script.inputs

end Script

end SqlBuilder
