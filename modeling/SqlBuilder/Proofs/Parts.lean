import SqlBuilder.Proofs.Edits

namespace SqlBuilder

/-!
# The parts of a statement

A statement consists of parts that do not know of each other, and every call writes one of them.

* `Part`, `Statement.only` — a part of a statement, and the statement with this part alone;
* `Edit.part?` — the part that a call writes;
* `only_fromSource`, `only_select`, … — what a call does to the parts;
* `Edit.only_run_of_ne` — a call leaves the other parts as they are.
-/

/-- A part of a statement, with the calls that write it. -/
inductive Part where
  | columns
  | aggregates
  | source
  | joins
  | wheres
  | groups
  | havings
  | orders
  | limit
  | offset
  | rows
  | assignments
  | deletion
  | conflicts
  | returning
  deriving DecidableEq, Repr

/-- The part with the conditions of a filter. -/
def Filter.part : Filter → Part
  | .wheres => .wheres
  | .havings => .havings

/-- The statement with one of its parts alone. -/
def Statement.only (s : Statement) : Part → Statement
  | .columns => { columns := s.columns, ledger := { columns := s.ledger.columns } }
  | .aggregates => { aggregates := s.aggregates, ledger := { aggregates := s.ledger.aggregates } }
  | .source => { table := s.table, source := s.source, ledger := { source := s.ledger.source } }
  | .joins => { joins := s.joins, ledger := { joins := s.ledger.joins } }
  | .wheres => { wheres := s.wheres, ledger := { wheres := s.ledger.wheres } }
  | .groups => { groups := s.groups, ledger := { groups := s.ledger.groups } }
  | .havings => { havings := s.havings, ledger := { havings := s.ledger.havings } }
  | .orders => { orders := s.orders, ledger := { orders := s.ledger.orders } }
  | .limit => { limit := s.limit, ledger := { limit := s.ledger.limit } }
  | .offset => { offset := s.offset, ledger := { offset := s.ledger.offset } }
  | .rows => { rowColumns := s.rowColumns, rows := s.rows, ledger := { rows := s.ledger.rows } }
  | .assignments =>
    { assignments := s.assignments, ledger := { assignments := s.ledger.assignments } }
  | .deletion => {}
  | .conflicts => { skipConflicts := s.skipConflicts }
  | .returning => { returning := s.returning }

namespace Edit

/-- The part that a call writes. What dialect is asked for is no part: it is not seen in text or
    values. -/
def part? : Edit → Option Part
  | .fromSource _ => some .source
  | .withDialect _ => none
  | .select _ => some .columns
  | .aggregate _ => some .aggregates
  | .groupBy _ => some .groups
  | .orderBy .. => some .orders
  | .limit _ => some .limit
  | .offset _ => some .offset
  | .insert _ => some .rows
  | .update _ => some .assignments
  | .delete => some .deletion
  | .skipConflicts => some .conflicts
  | .returning _ => some .returning
  | .compare f .. | .compareRaw f .. | .group f .. => some f.part
  | .among .. | .amongQuery .. | .amongWith .. | .between .. | .isNull .. => some .wheres
  | .join .. | .joinWith .. => some .joins

end Edit

/-! ### A call and the parts -/

namespace Statement

variable (s : Statement) (p : Part)

/-- The part of a filter holds its conditions. -/
theorem conditions_only (f : Filter) : (s.only f.part).conditions f = s.conditions f := by
  cases f <;> rfl

theorem only_fromSource (v : Source) :
    (s.fromSource v).only p =
      if p = .source then ((s.only .source).fromSource v).only .source else s.only p := by
  cases p <;> cases v <;> rfl

theorem only_withDialect (d : Dialect) : (s.withDialect d).only p = s.only p := by
  cases p <;> rfl

theorem only_select (cs : List Column) (h : s.admits .select = true) :
    (s.select cs).only p =
      if p = .columns then ((s.only .columns).select cs).only .columns else s.only p := by
  rw [select, if_pos h]
  cases p <;> rfl

theorem only_aggregate (a : Aggregate) (h : s.admits .select = true) :
    (s.aggregate a).only p =
      if p = .aggregates then ((s.only .aggregates).aggregate a).only .aggregates
      else s.only p := by
  rw [aggregate, if_pos h]
  cases p <;> rfl

theorem only_groupBy (cs : List Column) :
    (s.groupBy cs).only p =
      if p = .groups then ((s.only .groups).groupBy cs).only .groups else s.only p := by
  cases p <;> rfl

theorem only_limitTo (v : Value) :
    (s.limitTo v).only p =
      if p = .limit then ((s.only .limit).limitTo v).only .limit else s.only p := by
  cases p <;> rfl

theorem only_offsetBy (v : Value) :
    (s.offsetBy v).only p =
      if p = .offset then ((s.only .offset).offsetBy v).only .offset else s.only p := by
  cases p <;> rfl

theorem only_update (payload : Payload) (h : s.admits .update = true) :
    (s.update payload).only p =
      if p = .assignments then ((s.only .assignments).update payload).only .assignments
      else s.only p := by
  rw [update, if_pos h]
  cases p <;> rfl

theorem only_delete (h : s.admits .delete = true) :
    s.delete.only p =
      if p = .deletion then (s.only .deletion).delete.only .deletion else s.only p := by
  rw [delete, if_pos h]
  cases p <;> rfl

theorem only_skippingConflicts :
    s.skippingConflicts.only p =
      if p = .conflicts then (s.only .conflicts).skippingConflicts.only .conflicts
      else s.only p := by
  cases p <;> rfl

theorem only_returningColumns (cs : List String) :
    (s.returningColumns cs).only p =
      if p = .returning then ((s.only .returning).returningColumns cs).only .returning
      else s.only p := by
  cases p <;> rfl

theorem only_addOrder (o : Order) (bs : List Bind) :
    { s with orders := s.orders ++ [o], ledger := s.ledger.add .orders bs }.only p =
      if p = .orders then
        { s.only .orders with
          orders := (s.only .orders).orders ++ [o]
          ledger := (s.only .orders).ledger.add .orders bs }.only .orders
      else s.only p := by
  cases p <;> rfl

theorem only_addCondition (f : Filter) (c : Connector) (test : Predicate) (bs : List Bind) :
    (s.addCondition f c test bs).only p =
      if p = f.part then ((s.only f.part).addCondition f c test bs).only f.part
      else s.only p := by
  cases f <;> cases p <;> rfl

theorem only_addGroup (f : Filter) (c : Connector) (inner : Statement) :
    (s.addGroup f c inner).only p =
      if p = f.part then ((s.only f.part).addGroup f c inner).only f.part else s.only p := by
  rw [addGroup, addGroup]
  split
  · split
    · rename_i h; subst h; cases f <;> rfl
    · rfl
  · exact s.only_addCondition p f c _ _

theorem only_addJoin (j : JoinDraft) :
    (s.addJoin j).only p =
      if p = .joins then ((s.only .joins).addJoin j).only .joins else s.only p := by
  cases p <;> rfl

variable {s}

/-- Rows that are added leave the other parts as they are. -/
theorem only_addRows_of_ne {t : Statement} {rows : List Payload} {q : Part}
    (h : rows.foldlM addRow s = .ok t) (hq : q ≠ .rows) : t.only q = s.only q := by
  obtain ⟨columns, values, binds, rfl⟩ := addRows_eq_ok h
  cases q with
  | rows => exact absurd rfl hq
  | _ => rfl

end Statement

namespace Edit

/-- **Frame.**  A call leaves the parts as they are that it does not write. -/
theorem only_run_of_ne {e : Edit} {s t : Statement} {p : Part} (hp : e.part? ≠ some p)
    (ht : e.run s = .ok t) : t.only p = s.only p := by
  have hne : ∀ q, e.part? = some q → p ≠ q := fun q hq h => hp (h ▸ hq)
  by_cases hkind : ∀ k, e.kind? = some k → s.admits k = true
  · have htest : ∀ {f}, e.test? = some f → e.part? = some f.part → t.only p = s.only p := by
      intro f he hf
      obtain ⟨c, _, _, _, rfl⟩ := eq_addCondition he ht
      rw [s.only_addCondition, if_neg (hne _ hf)]
    have hjoin : e.joins = true → e.part? = some .joins → t.only p = s.only p := by
      intro he hj
      obtain ⟨j, rfl⟩ := eq_addJoin he ht
      rw [s.only_addJoin, if_neg (hne _ hj)]
    cases e with
    | fromSource v => cases ht; rw [s.only_fromSource, if_neg (hne _ rfl)]
    | withDialect d => cases ht; exact s.only_withDialect p d
    | select cs => cases ht; rw [s.only_select _ _ (hkind _ rfl), if_neg (hne _ rfl)]
    | aggregate a => cases ht; rw [s.only_aggregate _ _ (hkind _ rfl), if_neg (hne _ rfl)]
    | groupBy cs => cases ht; rw [s.only_groupBy, if_neg (hne _ rfl)]
    | orderBy column direction =>
      rw [run] at ht
      obtain ⟨d, _, rfl⟩ := Statement.orderBy_eq_ok (mapError_eq_ok ht)
      rw [s.only_addOrder, if_neg (hne _ rfl)]
    | limit v => cases ht; rw [s.only_limitTo, if_neg (hne _ rfl)]
    | offset v => cases ht; rw [s.only_offsetBy, if_neg (hne _ rfl)]
    | insert rows =>
      rw [run, Statement.insert, if_pos (hkind _ rfl)] at ht
      rw [Statement.only_addRows_of_ne (mapError_eq_ok ht) (hne _ rfl)]
      cases p <;> rfl
    | update payload => cases ht; rw [s.only_update _ _ (hkind _ rfl), if_neg (hne _ rfl)]
    | delete => cases ht; rw [s.only_delete _ (hkind _ rfl), if_neg (hne _ rfl)]
    | skipConflicts => cases ht; rw [s.only_skippingConflicts, if_neg (hne _ rfl)]
    | returning cs => cases ht; rw [s.only_returningColumns, if_neg (hne _ rfl)]
    | group f c body =>
      rw [run, Statement.group] at ht
      obtain ⟨inner, _, ht⟩ := bind_eq_ok ht
      cases ht
      rw [s.only_addGroup, if_neg (hne _ rfl)]
    | join _ _ _ _ _ | joinWith _ _ _ => exact hjoin rfl rfl
    | compare _ _ _ _ _ | compareRaw _ _ _ | among _ _ _ _ | amongQuery _ _ _ _
    | amongWith _ _ _ _ | between _ _ _ _ _ | isNull _ _ _ => exact htest rfl rfl
  · -- A statement of another kind ignores the call.
    obtain ⟨k, hkind⟩ := Classical.not_forall.1 hkind
    obtain ⟨hk, hadmits⟩ := Classical.not_imp.1 hkind
    rw [run_of_not_admits hk (by simpa using hadmits)] at ht
    cases ht
    rfl

end Edit

end SqlBuilder
