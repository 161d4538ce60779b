import SqlBuilder.Script
import SqlBuilder.Proofs.Substitution

namespace SqlBuilder

/-!
# Calls on statements with other values

No call looks at a scalar.  So a call on a statement with other values gives what it gives on the
statement, with those values in it.

* `Payload.subst`, `JoinDraft.subst` — payloads and joins under construction with other values;
* `Payload.ofList_subst` — a payload of pairs;
* `Statement.select_subst`, `Statement.insert_subst`, …, `Statement.addJoin_subst` — one equation
  for each call.
-/

/-! ### Calls in two parts -/

section

variable {ε δ α β γ κ : Type}

/-- A call in two parts commutes with a map if its parts do. -/
theorem map_bind {x : Except ε α} {f : α → β} {g : α → Except ε γ} {g' : β → Except ε κ}
    {k : γ → κ} (h : ∀ a, g' (f a) = (g a).map k) : (x.map f >>= g') = (x >>= g).map k := by
  cases x with
  | error e => rfl
  | ok a => exact h a

/-- A map and another error type do not meet. -/
theorem map_mapError (x : Except ε α) (f : α → β) (e : ε → δ) :
    (x.map f).mapError e = (x.mapError e).map f := by
  cases x <;> rfl

/-- Rounds commute with a map if each round does. -/
theorem map_iterate {f : α → Except ε α} {f' : β → Except ε β} {k : α → β}
    (h : ∀ a, f' (k a) = (f a).map k) (n : Nat) (a : α) :
    iterate f' n (k a) = (iterate f n a).map k := by
  induction n generalizing a with
  | zero => rfl
  | succ n ih =>
    rw [iterate, iterate, h]
    exact map_bind ih

end

variable (σ : Bind → Bind)

/-! ### Payloads -/

theorem ascending_subst {as : List Assignment} (h : Ascending as) :
    Ascending (as.map (Assignment.subst σ)) := by
  refine List.pairwise_map.2 (h.imp fun {a b} hab => ?_)
  cases a
  cases b
  exact hab

namespace Payload

/-- A payload with other values. -/
def subst (p : Payload) : Payload :=
  ⟨p.assignments.map (Assignment.subst σ), ascending_subst σ p.ascending⟩

@[simp] theorem columns_subst (p : Payload) : (p.subst σ).columns = p.columns := by
  rw [columns, columns, subst, List.map_map]
  exact List.map_congr_left fun a _ => by cases a; rfl

@[simp] theorem values_subst (p : Payload) :
    (p.subst σ).values = p.values.map (Value.subst σ) := by
  rw [values, values, subst, List.map_map, List.map_map]
  exact List.map_congr_left fun a _ => by cases a; rfl

@[simp] theorem binds_subst (p : Payload) : (p.subst σ).binds = p.binds.map σ := by
  simp [binds, List.flatMap_map, List.map_flatMap]

theorem insertAt_subst (column : String) (v : Value) (as : List Assignment) :
    insertAt column (v.subst σ) (as.map (Assignment.subst σ)) =
      (insertAt column v as).map (Assignment.subst σ) := by
  induction as with
  | nil => rfl
  | cons a as ih =>
    obtain ⟨other, w⟩ := a
    simp only [List.map_cons, insertAt, Assignment.subst]
    split
    · rfl
    · split
      · rfl
      · rw [ih]
        rfl

theorem set_subst (p : Payload) (column : String) (v : Value) :
    (p.subst σ).set column (v.subst σ) = (p.set column v).subst σ := by
  simp only [set, subst, insertAt_subst]

/-- A payload of pairs with other values. -/
theorem ofList_subst (entries : List (String × Value)) :
    ofList (entries.map fun e => (e.1, e.2.subst σ)) = (ofList entries).subst σ := by
  -- The fold is over the pairs, and the payload it has got to is arbitrary.
  have key : ∀ (entries : List (String × Value)) (p : Payload),
      (entries.map fun e => (e.1, e.2.subst σ)).foldl (fun p e => p.set e.1 e.2) (p.subst σ) =
        (entries.foldl (fun p e => p.set e.1 e.2) p).subst σ := by
    intro entries
    induction entries with
    | nil => exact fun _ => rfl
    | cons e es ih =>
      intro p
      rw [List.map_cons, List.foldl_cons, List.foldl_cons, set_subst]
      exact ih _
  exact key entries {}

end Payload

/-! ### Calls on a statement -/

namespace Statement

theorem subst_new : new.subst σ = new := rfl

variable (s : Statement)

@[simp] theorem admits_subst (k : Kind) : (s.subst σ).admits k = s.admits k := by
  cases s
  rfl

theorem conditions_subst (f : Filter) :
    (s.subst σ).conditions f = (s.conditions f).map (Condition.subst σ) := by
  cases s
  cases f <;> exact substConditions_eq_map σ _

theorem scope_subst : (s.subst σ).scope = s.scope.subst σ := by
  cases s
  rfl

theorem fromSource_subst (v : Source) :
    (s.subst σ).fromSource (v.subst σ) = (s.fromSource v).subst σ := by
  cases s
  cases v <;> simp [fromSource, subst, Ledger.subst_put, Source.subst, Source.binds, Fragment.subst]

theorem withDialect_subst (d : Dialect) :
    (s.subst σ).withDialect d = (s.withDialect d).subst σ := by
  cases s
  rfl

theorem select_subst (cs : List Column) :
    (s.subst σ).select (cs.map (Column.subst σ)) = (s.select cs).subst σ := by
  rw [select, select, admits_subst]
  split
  · cases s
    simp [subst, Ledger.subst_add, List.flatMap_map, List.map_flatMap]
  · rfl

theorem aggregate_subst (a : Aggregate) :
    (s.subst σ).aggregate (a.subst σ) = (s.aggregate a).subst σ := by
  rw [aggregate, aggregate, admits_subst]
  split
  · cases s
    simp [subst, Ledger.subst_add, Aggregate.subst]
  · rfl

theorem groupBy_subst (cs : List Column) :
    (s.subst σ).groupBy (cs.map (Column.subst σ)) = (s.groupBy cs).subst σ := by
  cases s
  simp [groupBy, subst, Ledger.subst_add, List.flatMap_map, List.map_flatMap]

theorem orderBy_subst (c : Column) (w : String) :
    (s.subst σ).orderBy (c.subst σ) w = (s.orderBy c w).map (subst σ) := by
  rw [orderBy, orderBy]
  cases Direction.check w with
  | error m => rfl
  | ok d =>
    cases s
    simp [subst, Ledger.subst_add, Order.subst, Except.map, pure, Except.pure, bind, Except.bind]

theorem limitTo_subst (v : Value) : (s.subst σ).limitTo (v.subst σ) = (s.limitTo v).subst σ := by
  cases s
  simp [limitTo, subst, Ledger.subst_put]

theorem offsetBy_subst (v : Value) :
    (s.subst σ).offsetBy (v.subst σ) = (s.offsetBy v).subst σ := by
  cases s
  simp [offsetBy, subst, Ledger.subst_put]

theorem addRow_subst (p : Payload) :
    (s.subst σ).addRow (p.subst σ) = (s.addRow p).map (subst σ) := by
  have hrows : (s.subst σ).rows.isEmpty = s.rows.isEmpty := by
    cases s
    simp [subst]
  have hcolumns : (s.subst σ).rowColumns = s.rowColumns := by
    cases s
    rfl
  rw [addRow, addRow, hrows, hcolumns, Payload.columns_subst]
  split
  · cases s
    simp [subst, Ledger.subst_add, Except.map]
  · rfl

theorem insert_subst (rows : List Payload) :
    (s.subst σ).insert (rows.map (Payload.subst σ)) = (s.insert rows).map (subst σ) := by
  -- The rows are added one by one, to a statement that grows with them.
  have hrows : ∀ t : Statement, (rows.map (Payload.subst σ)).foldlM addRow (t.subst σ) =
      (rows.foldlM addRow t).map (subst σ) := by
    induction rows with
    | nil => exact fun _ => rfl
    | cons p ps ih =>
      intro t
      rw [List.map_cons, List.foldlM_cons, List.foldlM_cons, addRow_subst]
      cases t.addRow p with
      | error m => rfl
      | ok u => exact ih u
  have hkind : { s.subst σ with kind := some .insert } =
      { s with kind := some .insert }.subst σ := by
    cases s
    rfl
  rw [insert, insert, admits_subst]
  split
  · rw [hkind, hrows]
  · rfl

theorem skippingConflicts_subst :
    (s.subst σ).skippingConflicts = s.skippingConflicts.subst σ := by
  cases s
  rfl

theorem returningColumns_subst (cs : List String) :
    (s.subst σ).returningColumns cs = (s.returningColumns cs).subst σ := by
  cases s
  rfl

theorem update_subst (p : Payload) : (s.subst σ).update (p.subst σ) = (s.update p).subst σ := by
  rw [update, update, admits_subst]
  split
  · cases s
    simp [subst, Ledger.subst_put, Payload.subst, ← Payload.binds_subst]
  · rfl

theorem delete_subst : (s.subst σ).delete = s.delete.subst σ := by
  rw [delete, delete, admits_subst]
  split
  · cases s
    rfl
  · rfl

theorem addCondition_subst (f : Filter) (c : Connector) (p : Predicate) (bs : List Bind) :
    (s.subst σ).addCondition f c (p.subst σ) (bs.map σ) =
      (s.addCondition f c p bs).subst σ := by
  have hempty : ((s.subst σ).conditions f).isEmpty = (s.conditions f).isEmpty := by
    rw [conditions_subst, List.isEmpty_map]
  rw [addCondition, addCondition, hempty, conditions_subst]
  cases s
  cases f <;>
    simp [setConditions, subst, Ledger.subst_add, conditions, Condition.subst, Filter.clause]

theorem compare_subst (f : Filter) (c : Connector) (column : Column) (w : String) (v : Value) :
    (s.subst σ).compare f c (column.subst σ) w (v.subst σ) =
      (s.compare f c column w v).map (subst σ) := by
  rw [compare, compare]
  cases Operator.check w with
  | error m => rfl
  | ok o =>
    have h := s.addCondition_subst σ f c (.compare column o v) (column.binds ++ v.binds)
    rw [List.map_append, ← Column.binds_subst, ← Value.binds_subst] at h
    exact congrArg Except.ok h

theorem compareRaw_subst (f : Filter) (c : Connector) (fragment : Fragment) :
    (s.subst σ).compareRaw f c (fragment.subst σ) = (s.compareRaw f c fragment).subst σ :=
  s.addCondition_subst σ f c (.raw fragment) fragment.binds

theorem addGroup_subst (f : Filter) (c : Connector) (inner : Statement) :
    (s.subst σ).addGroup f c (inner.subst σ) = (s.addGroup f c inner).subst σ := by
  have hledger : (inner.subst σ).ledger.get f.clause = (inner.ledger.get f.clause).map σ := by
    cases inner
    exact Ledger.get_subst σ _ _
  rw [addGroup, addGroup, conditions_subst, List.isEmpty_map, hledger]
  split
  · -- A group without conditions is dropped.
    rfl
  · have h := s.addCondition_subst σ f c (.group (inner.conditions f)) (inner.ledger.get f.clause)
    rw [Predicate.subst, substConditions_eq_map] at h
    exact h

theorem among_subst (c : Connector) (column : Column) (vs : List Value) (negated : Bool) :
    (s.subst σ).among c (column.subst σ) (vs.map (Value.subst σ)) negated =
      (s.among c column vs negated).subst σ := by
  rw [among, among, List.isEmpty_map]
  split
  · -- Without members the test is a constant, whatever the column is.
    exact s.addCondition_subst σ .wheres c (.constant negated) []
  · have h := s.addCondition_subst σ .wheres c (.among column vs negated)
      (column.binds ++ vs.flatMap Value.binds)
    rw [Predicate.subst, substValues_eq_map] at h
    simpa [List.flatMap_map, List.map_flatMap] using h

theorem amongQuery_subst (c : Connector) (column : Column) (q : Statement) (negated : Bool) :
    (s.subst σ).amongQuery c (column.subst σ) (q.subst σ) negated =
      (s.amongQuery c column q negated).subst σ := by
  have h := s.addCondition_subst σ .wheres c (.amongQuery column q negated)
    (column.binds ++ q.data)
  rw [List.map_append, ← Column.binds_subst, ← data_subst] at h
  exact h

theorem between_subst (c : Connector) (column : Column) (low high : Value) (negated : Bool) :
    (s.subst σ).between c (column.subst σ) (low.subst σ) (high.subst σ) negated =
      (s.between c column low high negated).subst σ := by
  have h := s.addCondition_subst σ .wheres c (.between column low high negated)
    (column.binds ++ low.binds ++ high.binds)
  rw [List.map_append, List.map_append, ← Column.binds_subst, ← Value.binds_subst,
    ← Value.binds_subst] at h
  exact h

theorem isNull_subst (c : Connector) (column : Column) (negated : Bool) :
    (s.subst σ).isNull c (column.subst σ) negated = (s.isNull c column negated).subst σ := by
  have h := s.addCondition_subst σ .wheres c (.isNull column negated) column.binds
  rw [← Column.binds_subst] at h
  exact h

end Statement

/-! ### Joins -/

namespace JoinDraft

/-- A join under construction with other values. -/
def subst (j : JoinDraft) : JoinDraft := ⟨j.join.subst σ, j.binds.map σ⟩

theorem start_subst (kind : JoinKind) (table : Column) :
    start kind (table.subst σ) = (start kind table).subst σ := by
  simp [start, subst, Join.subst]

theorem addTest_subst (j : JoinDraft) (c : Connector) (test : JoinTest) (bs : List Bind) :
    (j.subst σ).addTest c (test.subst σ) (bs.map σ) = (j.addTest c test bs).subst σ := by
  obtain ⟨⟨kind, table, conditions⟩, binds⟩ := j
  simp [addTest, subst, Join.subst, JoinCondition.subst]

theorem on_subst (j : JoinDraft) (c : Connector) (first : Column) (w : String) (second : Column) :
    (j.subst σ).on c (first.subst σ) w (second.subst σ) =
      (j.on c first w second).map (subst σ) := by
  rw [on, on]
  cases Operator.check w with
  | error m => rfl
  | ok o =>
    have h := j.addTest_subst σ c (.columns first o second) (first.binds ++ second.binds)
    rw [List.map_append, ← Column.binds_subst, ← Column.binds_subst] at h
    exact congrArg Except.ok h

theorem compare_subst (j : JoinDraft) (c : Connector) (column : Column) (w : String) (v : Value) :
    (j.subst σ).compare c (column.subst σ) w (v.subst σ) =
      (j.compare c column w v).map (subst σ) := by
  rw [compare, compare]
  cases Operator.check w with
  | error m => rfl
  | ok o =>
    have h := j.addTest_subst σ c (.value column o v) (column.binds ++ v.binds)
    rw [List.map_append, ← Column.binds_subst, ← Value.binds_subst] at h
    exact congrArg Except.ok h

end JoinDraft

namespace Statement

variable (s : Statement)

theorem addJoin_subst (j : JoinDraft) :
    (s.subst σ).addJoin (j.subst σ) = (s.addJoin j).subst σ := by
  cases s
  simp [addJoin, subst, Ledger.subst_add, JoinDraft.subst]

theorem join_subst (kind : JoinKind) (table : Column) (first w second : String) :
    (s.subst σ).join kind (table.subst σ) first w second =
      (s.join kind table first w second).map (subst σ) := by
  have h : (JoinDraft.start kind (table.subst σ)).on .and (.name first) w (.name second) =
      ((JoinDraft.start kind table).on .and (.name first) w (.name second)).map
        (JoinDraft.subst σ) := by
    rw [JoinDraft.start_subst]
    exact (JoinDraft.start kind table).on_subst σ .and (.name first) w (.name second)
  rw [join, join, h]
  exact map_bind fun j => congrArg Except.ok (s.addJoin_subst σ j)

end Statement

end SqlBuilder
