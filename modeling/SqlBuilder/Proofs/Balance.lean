import Mathlib.Data.List.Basic
import SqlBuilder.Proofs.Clauses
import SqlBuilder.Proofs.Invariant

namespace SqlBuilder

open Token (after enclosed listed spaced clauses listedAfter)

/-!
# The ledger of a statement

The values of a statement are recorded call by call in its ledger, and are found a second time when
its text is written.  Both lists agree.

* `Statement.Balanced` — the ledger of every clause holds the values of the leaves of the clause;
* `Statement.RowsFit` — a row to insert has one value for each column;
* `invariant_balanced`, `invariant_rowsFit` — the first two are invariants;
* `flatMap_binds_tokens` — the tokens of a statement take numbers leaf by leaf, and so in the order
  of the ledger.
-/

namespace Statement

/-- The ledger of every clause holds the values of its leaves. -/
def Balanced (s : Statement) : Prop := ∀ e, s.ledger.get e = (s.leaves e).flatMap Leaf.binds

/-- A row to insert has one value for each column. -/
def RowsFit (s : Statement) : Prop := ∀ row ∈ s.rows, row.length = s.rowColumns.length

/-- The values of a balanced statement are those of the leaves that it writes. -/
theorem Balanced.data_eq {s : Statement} (h : s.Balanced) :
    s.data = s.written.flatMap Leaf.binds := by
  rw [data, Ledger.ordered, written, List.flatMap_assoc]
  congr
  funext e
  exact h e

/-! ### The ledger is kept in step -/

/-- A call that replaces a clause and its values keeps the balance. -/
theorem Balanced.of_put {s t : Statement} {c : Clause} {xs : List Leaf} (h : s.Balanced)
    (ht : ∀ e, t.leaves e = if e = c then xs else s.leaves e)
    (hl : t.ledger = s.ledger.put c (xs.flatMap Leaf.binds)) : t.Balanced := by
  intro e
  rw [hl, Ledger.get_put, ht]
  split
  · rfl
  · exact h e

/-- A call that appends to a clause and to its values keeps the balance. -/
theorem Balanced.of_add {s t : Statement} {c : Clause} {xs : List Leaf} (h : s.Balanced)
    (ht : ∀ e, t.leaves e = if e = c then s.leaves e ++ xs else s.leaves e)
    (hl : t.ledger = s.ledger.add c (xs.flatMap Leaf.binds)) : t.Balanced := by
  intro e
  rw [hl, Ledger.get_add, ht]
  split
  · rename_i he
    rw [he, h c, List.flatMap_append]
  · exact h e

/-- A call that leaves both alone keeps the balance. -/
theorem Balanced.of_same {s t : Statement} (h : s.Balanced) (ht : ∀ e, t.leaves e = s.leaves e)
    (hl : t.ledger = s.ledger) : t.Balanced := by
  intro e
  rw [hl, ht, h e]

end Statement

open Statement in
/-- The balance is an invariant. -/
theorem invariant_balanced (P : Leaf → Prop) : Invariant P Balanced where
  new e := by cases e <;> rfl
  scope {s} _ e := by cases e <;> rfl
  fromSource {s v} h _ := h.of_put (s.leaves_fromSource · v) (by simp [fromSource])
  withDialect {s} d h := h.of_same (s.leaves_withDialect · d) rfl
  select {s cs} ha h _ := h.of_add (s.leaves_select · cs ha) (by simp [select, ha])
  aggregate {s a} ha h _ := h.of_add (s.leaves_aggregate · a ha) (by simp [aggregate, ha])
  groupBy {s cs} h _ := h.of_add (s.leaves_groupBy · cs) (by simp [groupBy])
  orderBy {s t c w} h _ ht := by
    refine h.of_add (fun e => s.leaves_orderBy e ht) ?_
    obtain ⟨d, _, rfl⟩ := orderBy_eq_ok ht
    simp
  limitTo {s v} h _ := h.of_put (s.leaves_limitTo · v) (by simp [limitTo])
  offsetBy {s v} h _ := h.of_put (s.leaves_offsetBy · v) (by simp [offsetBy])
  startInsert {s} _ h := h.of_same (s.leaves_setKind · _) rfl
  addRow {s t p} h _ ht := by
    refine h.of_add (fun e => s.leaves_addRow e ht) ?_
    obtain ⟨_, rfl⟩ := addRow_eq_ok ht
    simp [Payload.binds]
  skippingConflicts {s} h := h.of_same s.leaves_skippingConflicts rfl
  returningColumns {s cs} h _ := h.of_same (s.leaves_returningColumns · cs) rfl
  update {s p} ha h _ := by
    refine h.of_put (s.leaves_update · p ha) ?_
    simp [update, ha, Payload.binds, Payload.values, Payload.leaves, Assignment.leaves,
      List.flatMap_map, List.flatMap_assoc]
  delete {s} h := h.of_same s.leaves_delete (by rw [delete]; split <;> rfl)
  addCondition {s} f c p _ h _ := h.of_add (s.leaves_addCondition · f c p _) rfl
  addGroup {s inner} f c h hi := by
    rw [addGroup]
    split
    · exact h
    · refine h.of_add (s.leaves_addCondition · f c _ _) ?_
      rw [addCondition, hi f.clause, leaves_clause]
      rfl
  addJoin {s j} _ h _ := h.of_add (s.leaves_addJoin · _) rfl

open Statement in
/-- That the rows fit their columns is an invariant. -/
theorem invariant_rowsFit (P : Leaf → Prop) : Invariant P RowsFit where
  new row hrow := by cases hrow
  scope _ row hrow := by cases hrow
  fromSource h _ := h
  withDialect _ h := h
  select ha h _ := by rw [select, if_pos ha]; exact h
  aggregate ha h _ := by rw [aggregate, if_pos ha]; exact h
  groupBy h _ := h
  orderBy h _ ht := by
    obtain ⟨d, _, rfl⟩ := orderBy_eq_ok ht
    exact h
  limitTo h _ := h
  offsetBy h _ := h
  startInsert _ h := h
  addRow {s t p} h _ ht := by
    obtain ⟨hp, rfl⟩ := addRow_eq_ok ht
    intro row hrow
    -- An earlier row has the columns of the new one, since these are the columns of all rows.
    rcases List.mem_append.1 hrow with hrow | hrow
    · rcases hp with hp | hp
      · rw [hp] at hrow
        cases hrow
      · show row.length = p.columns.length
        rw [hp]
        exact h row hrow
    · obtain rfl := List.mem_singleton.1 hrow
      simp [Payload.values, Payload.columns]
  skippingConflicts h := h
  returningColumns h _ := h
  update ha h _ := by rw [update, if_pos ha]; exact h
  delete {s} h := by
    rw [delete]
    split
    · exact h
    · exact h
  addCondition f c p _ h _ := by cases f <;> exact h
  addGroup f c h _ := by
    rw [addGroup]
    split
    · exact h
    · cases f <;> exact h
  addJoin _ h _ := h

/-! ### The numbers that the tokens take -/

/-- The values that the text of a leaf takes numbers for. -/
def Leaf.tokenBinds : Leaf → List Bind
  | .name _ => []
  | .fragment f => f.binds
  | .bind b => [b]
  | .query s => s.tokens.flatMap Token.binds

theorem Token.binds_word (w : Word) : (Token.word w).binds = [] := rfl

/-- A name takes no number, whatever its words are. -/
theorem flatMap_binds_nameTokens (s : String) : (nameTokens s).flatMap Token.binds = [] := by
  rw [nameTokens]
  split <;> rfl

theorem Column.binds_tokens (c : Column) : c.tokens.flatMap Token.binds = c.leaf.tokenBinds := by
  cases c with
  | name s => exact flatMap_binds_nameTokens s
  | raw f => simp [Column.tokens, Leaf.tokenBinds, Token.binds]

theorem Value.binds_tokens (v : Value) : v.tokens.flatMap Token.binds = v.leaf.tokenBinds := by
  cases v with
  | bind b => rfl
  | raw f => simp [Value.tokens, Value.leaf, Leaf.tokenBinds, Token.binds]
  | query s => exact flatMap_enclosed Token.binds_word s.tokens

theorem Source.binds_tokens (v : Source) : v.tokens.flatMap Token.binds = v.leaf.tokenBinds := by
  cases v with
  | table name => exact flatMap_binds_nameTokens name
  | raw f => simp [Source.tokens, Source.leaf, Leaf.tokenBinds, Token.binds]
  | query s =>
    have hlabel : ∀ o, (labelTokens o).flatMap Token.binds = [] := by
      intro o
      cases o <;> rfl
    rw [Source.tokens, List.flatMap_append, hlabel, List.append_nil]
    exact flatMap_enclosed Token.binds_word s.tokens

theorem Aggregate.binds_tokens (a : Aggregate) :
    a.tokens.flatMap Token.binds = a.column.leaf.tokenBinds := by
  rw [← a.column.binds_tokens, Aggregate.tokens]
  split <;> simp [Token.binds]

theorem Order.binds_tokens (o : Order) :
    o.tokens.flatMap Token.binds = o.column.leaf.tokenBinds := by
  rw [← o.column.binds_tokens, Order.tokens]
  simp [Token.binds]

theorem flatMap_binds_comparison (l r : List Token) (o : Operator) :
    (comparison l o r).flatMap Token.binds = l.flatMap Token.binds ++ r.flatMap Token.binds := by
  rw [comparison, List.flatMap_append, List.flatMap_cons, flatMap_after Token.binds_word]
  rfl

theorem Assignment.binds_tokens (a : Assignment) :
    a.tokens.flatMap Token.binds = a.leaves.flatMap Leaf.tokenBinds := by
  obtain ⟨column, value⟩ := a
  rw [Assignment.tokens, List.flatMap_cons, List.flatMap_cons, flatMap_after Token.binds_word,
    value.binds_tokens]
  simp [Assignment.leaves, Token.binds, Leaf.tokenBinds]

theorem JoinCondition.binds_tokens (c : JoinCondition) :
    c.tokens.flatMap Token.binds = c.test.leaves.flatMap Leaf.tokenBinds := by
  obtain ⟨connector, test⟩ := c
  have htest : test.tokens.flatMap Token.binds = test.leaves.flatMap Leaf.tokenBinds := by
    cases test with
    | columns first o second =>
      rw [JoinTest.tokens, flatMap_binds_comparison, first.binds_tokens, second.binds_tokens]
      simp [JoinTest.leaves]
    | value column o v =>
      rw [JoinTest.tokens, flatMap_binds_comparison, column.binds_tokens, v.binds_tokens]
      simp [JoinTest.leaves]
  cases connector with
  | none => exact htest
  | some c => rw [JoinCondition.tokens, flatMap_after Token.binds_word, htest]

theorem Join.binds_tokens (j : Join) :
    j.tokens.flatMap Token.binds = j.leaves.flatMap Leaf.tokenBinds := by
  obtain ⟨kind, table, cs⟩ := j
  rw [Join.tokens, List.flatMap_append, flatMap_after Token.binds_word, table.binds_tokens,
    Join.leaves, List.flatMap_cons]
  congr 1
  -- A join without tests ends behind its table.
  split
  · rename_i h
    rw [List.isEmpty_iff.1 h]
    rfl
  · rw [List.flatMap_cons, flatMap_after Token.binds_word, flatMap_enclosed Token.binds_word,
      flatMap_spaced Token.binds_word, joinConditionItems_eq_map, List.flatMap_map,
      List.flatMap_assoc]
    simp [JoinCondition.binds_tokens, Token.binds]

/-- A test takes the same numbers behind a connector as without one. -/
theorem Predicate.binds_afterConnector (k : Option Connector) (p : Predicate) :
    (p.afterConnector k p.tokens).flatMap Token.binds = p.tokens.flatMap Token.binds := by
  cases k with
  | none => rfl
  | some c =>
    cases p with
    | raw f => simp [Predicate.afterConnector, Predicate.tokens, Token.binds]
    | _ => exact flatMap_after Token.binds_word _ _

theorem Predicate.binds_tokens (p : Predicate) :
    p.tokens.flatMap Token.binds = p.leaves.flatMap Leaf.tokenBinds := by
  induction p using Predicate.groupInduction with
  | h p ih =>
    cases p with
    | compare column o value =>
      rw [Predicate.tokens, flatMap_binds_comparison, column.binds_tokens, value.binds_tokens]
      simp [Predicate.leaves]
    | raw f => simp [Predicate.tokens, Predicate.leaves, Leaf.tokenBinds, Token.binds]
    | constant holds => rfl
    | group cs =>
      -- The induction hypothesis is about the conditions; their connectors take no numbers.
      have ih := ih cs rfl
      rw [Predicate.tokens, flatMap_enclosed Token.binds_word, flatMap_spaced Token.binds_word,
        conditionItems_eq_map, List.flatMap_map, Predicate.leaves, conditionLeaves_eq_flatMap,
        List.flatMap_assoc]
      refine List.flatMap_congr fun c hc => ?_
      obtain ⟨k, p⟩ := c
      rw [Condition.tokens, p.binds_afterConnector, ih _ hc]
    | between column low high negated =>
      rw [Predicate.tokens, List.flatMap_append, List.flatMap_cons, flatMap_after Token.binds_word,
        List.flatMap_append, List.flatMap_cons, flatMap_after Token.binds_word, column.binds_tokens,
        low.binds_tokens, high.binds_tokens]
      simp [Predicate.leaves, Token.binds]
    | isNull column negated =>
      rw [Predicate.tokens, List.flatMap_append, column.binds_tokens]
      simp [Predicate.leaves, Token.binds]
    | among column values negated =>
      rw [Predicate.tokens, List.flatMap_append, List.flatMap_cons, flatMap_after Token.binds_word,
        flatMap_enclosed Token.binds_word, flatMap_listed Token.binds_word, column.binds_tokens,
        valueItems_eq_map, List.flatMap_map]
      simp [Predicate.leaves, Token.binds, Value.binds_tokens, List.flatMap_map]
    | amongQuery column query negated =>
      rw [Predicate.tokens, List.flatMap_append, List.flatMap_cons, flatMap_after Token.binds_word,
        flatMap_enclosed Token.binds_word, column.binds_tokens]
      simp [Predicate.leaves, Leaf.tokenBinds, Token.binds]

theorem Condition.binds_tokens (c : Condition) :
    c.tokens.flatMap Token.binds = c.predicate.leaves.flatMap Leaf.tokenBinds := by
  obtain ⟨k, p⟩ := c
  rw [Condition.tokens, p.binds_afterConnector, p.binds_tokens]

/-! ### The numbers that a statement takes -/

theorem flatMap_binds_fromTokens (o : Option Source) :
    (fromTokens o).flatMap Token.binds = (o.toList.map Source.leaf).flatMap Leaf.tokenBinds := by
  cases o with
  | none => rfl
  | some v =>
    rw [fromTokens, flatMap_after Token.binds_word, v.binds_tokens]
    simp

theorem flatMap_binds_boundTokens (w : Word) (o : Option Value) :
    (boundTokens w o).flatMap Token.binds = (o.toList.map Value.leaf).flatMap Leaf.tokenBinds := by
  cases o with
  | none => rfl
  | some v =>
    rw [boundTokens, flatMap_after Token.binds_word, v.binds_tokens]
    simp

/-- The table to write to takes the numbers of the source, unless the source is a sub-query. -/
theorem flatMap_binds_targetTokens {table : String} {o : Option Source}
    (h : Token.queryTarget ∉ targetTokens table o) :
    (targetTokens table o).flatMap Token.binds =
      (o.toList.map Source.leaf).flatMap Leaf.tokenBinds := by
  cases o with
  | none => exact flatMap_binds_nameTokens table
  | some v =>
    cases v with
    | table name => exact flatMap_binds_nameTokens name
    | raw f => simp [targetTokens, Source.leaf, Leaf.tokenBinds, Token.binds]
    | query s => exact absurd List.mem_cons_self h

theorem flatMap_binds_filterTokens (w : Word) (cs : List Condition) :
    (filterTokens w cs).flatMap Token.binds = (conditionLeaves cs).flatMap Leaf.tokenBinds := by
  rw [flatMap_filterTokens Token.binds_word, conditionLeaves_eq_flatMap, List.flatMap_assoc]
  exact List.flatMap_congr fun c _ => c.binds_tokens

theorem flatMap_binds_columnTokens (cs : List Column) :
    (cs.map Column.tokens).flatMap (·.flatMap Token.binds) =
      (cs.map Column.leaf).flatMap Leaf.tokenBinds := by
  simp [List.flatMap_map, Column.binds_tokens]

theorem flatMap_binds_selectTokens (s : Statement) :
    (selectTokens s).flatMap Token.binds =
      (s.leaves .columns ++ s.leaves .aggregates).flatMap Leaf.tokenBinds := by
  rw [selectTokens, flatMap_after Token.binds_word]
  split
  · rename_i h
    -- Without an item there is a star, which takes no number.
    obtain ⟨hc, ha⟩ : s.columns = [] ∧ s.aggregates = [] := by simpa using h
    rw [Statement.leaves, Statement.leaves, hc, ha]
    rfl
  · rw [flatMap_listed Token.binds_word, List.flatMap_append, List.flatMap_append,
      flatMap_binds_columnTokens]
    simp [Statement.leaves, List.flatMap_map, Aggregate.binds_tokens]

theorem flatMap_binds_rowColumnTokens (s : Statement) :
    (rowColumnTokens s).flatMap Token.binds = [] := by
  rw [rowColumnTokens]
  split
  · rfl
  · rw [flatMap_enclosed Token.binds_word, flatMap_listed Token.binds_word]
    simp [List.flatMap_map, Token.binds]

/-- Rows without columns are not written.  They have no values either, since they fit. -/
theorem flatMap_binds_valuesTokens {s : Statement} (hfit : s.RowsFit) :
    (valuesTokens s).flatMap Token.binds = (s.leaves .rows).flatMap Leaf.tokenBinds := by
  rw [valuesTokens]
  split
  · rename_i h
    -- A row without columns has no values, so nothing is lost where the rows are left out.
    have hempty : ∀ row ∈ s.rows, row = [] := by
      intro row hrow
      rw [← List.length_eq_zero_iff, hfit row hrow, List.isEmpty_iff.1 h]
      rfl
    have hnone : s.leaves .rows = [] := by
      refine List.flatMap_eq_nil_iff.2 fun row hrow => ?_
      rw [hempty row hrow]
      rfl
    rw [hnone]
    rfl
  · have hrow : ∀ vs : List Value, (rowTokens vs).flatMap Token.binds =
        (vs.map Value.leaf).flatMap Leaf.tokenBinds := by
      intro vs
      rw [rowTokens, flatMap_enclosed Token.binds_word, flatMap_listed Token.binds_word]
      simp [List.flatMap_map, Value.binds_tokens]
    rw [flatMap_after Token.binds_word, flatMap_listed Token.binds_word, Statement.leaves,
      List.flatMap_assoc, List.flatMap_map]
    exact List.flatMap_congr fun vs _ => hrow vs

/-- The tokens of a statement take numbers leaf by leaf, in the order of its clauses. -/
theorem flatMap_binds_tokens {s : Statement} (hfit : s.RowsFit)
    (htarget : Token.queryTarget ∉ s.tokens) :
    s.tokens.flatMap Token.binds = s.written.flatMap Leaf.tokenBinds := by
  rw [Statement.written]
  match hkind : s.kind with
  | none | some .select =>
    rw [Statement.tokens_select (by simp [hkind]), flatMap_clauses Token.binds_word]
    simp only [List.flatMap_cons, List.flatMap_nil, List.append_nil, Kind.clauses,
      flatMap_binds_selectTokens, flatMap_binds_fromTokens, flatMap_spaced Token.binds_word,
      flatMap_binds_filterTokens, flatMap_listedAfter Token.binds_word, flatMap_binds_columnTokens,
      flatMap_binds_boundTokens, List.flatMap_append, List.append_assoc, Statement.leaves]
    simp [List.flatMap_map, List.flatMap_assoc, Join.binds_tokens, Order.binds_tokens]
  | some .insert =>
    have htarget := Statement.queryTarget_not_mem (.inl hkind) htarget
    rw [Statement.tokens_insert hkind, List.flatMap_append, List.flatMap_cons,
      flatMap_clauses Token.binds_word]
    simp only [List.flatMap_cons, List.flatMap_nil, List.append_nil, Kind.clauses,
      flatMap_after Token.binds_word, flatMap_binds_targetTokens htarget,
      flatMap_binds_rowColumnTokens, flatMap_binds_valuesTokens hfit, List.flatMap_append]
    simp [Token.binds, Statement.leaves]
  | some .update =>
    have htarget := Statement.queryTarget_not_mem (.inr hkind) htarget
    rw [Statement.tokens_update hkind, flatMap_clauses Token.binds_word]
    simp only [List.flatMap_cons, List.flatMap_nil, List.append_nil, Kind.clauses,
      flatMap_after Token.binds_word, flatMap_binds_targetTokens htarget,
      flatMap_listedAfter Token.binds_word, flatMap_binds_filterTokens, List.flatMap_append,
      Statement.leaves]
    simp [List.flatMap_map, List.flatMap_assoc, Assignment.binds_tokens]
  | some .delete =>
    rw [Statement.tokens_delete hkind, flatMap_clauses Token.binds_word]
    simp only [List.flatMap_cons, List.flatMap_nil, List.append_nil, Kind.clauses,
      flatMap_binds_fromTokens, flatMap_binds_filterTokens, List.flatMap_append, Statement.leaves]
    simp [Token.binds]

end SqlBuilder
