import SqlBuilder.Proofs.Balance

namespace SqlBuilder

open Token (after enclosed listed spaced clauses listedAfter)

/-!
# Sub-queries in the text

The tokens of a sub-query stand in those of the statement around it whole and between parentheses.
This carries what is known of a text down to the sub-queries, and what is known of the numbers up.

* `Statement.infix_tokens` — a sub-query that is written stands in the tokens whole;
* `Statement.Aligned` — the tokens take numbers for the values of the statement, in their order;
* `Statement.Regular`, `regular_of_build` — what a script builds is regular, and so are the
  sub-queries in it;
* `Regular.of_run` — and a regular statement stays regular under every script;
* `Statement.Regular.aligned` — a regular statement is aligned;
* `Statement.Contains` — a sub-query at any depth: it stands in the tokens whole as well.
-/

/-! ### Where a sub-query stands -/

section

variable {q : Statement}

theorem Value.infix_tokens {v : Value} (h : v.leaf = .query q) :
    enclosed q.tokens <:+: v.tokens := by
  cases v with
  | query s =>
    cases h
    exact List.infix_rfl
  | _ => cases h

theorem Source.infix_tokens {v : Source} (h : v.leaf = .query q) :
    enclosed q.tokens <:+: v.tokens := by
  cases v with
  | query s =>
    cases h
    exact (List.prefix_append _ _).isInfix
  | _ => cases h

/-- A column is no sub-query. -/
theorem Column.leaf_ne_query (c : Column) : c.leaf ≠ .query q := by
  intro h
  cases c <;> cases h

/-- A test stands in its condition whole, unless it is a fragment. -/
theorem Condition.infix_tokens_predicate (c : Condition) (h : .query q ∈ c.predicate.leaves) :
    c.predicate.tokens <:+: c.tokens := by
  obtain ⟨k, p⟩ := c
  cases k with
  | none => exact List.infix_rfl
  | some c =>
    cases p with
    | raw f => cases List.mem_singleton.1 h
    | _ => exact infix_after _ _

/-- What follows a column and a word stands behind them whole. -/
theorem infix_behind (us : List Token) (w : Word) (ts : List Token) :
    ts <:+: us ++ .word .space :: after w ts :=
  List.infix_append_of_infix_right (List.infix_cons (infix_after w ts))

theorem Predicate.infix_tokens {p : Predicate} (h : .query q ∈ p.leaves) :
    enclosed q.tokens <:+: p.tokens := by
  induction p using Predicate.groupInduction with
  | h p ih =>
    cases p with
    | compare column o value =>
      have hv : value.leaf = .query q := by
        simpa [Predicate.leaves, column.leaf_ne_query.symm, eq_comm] using h
      exact (value.infix_tokens hv).trans (infix_behind _ _ _)
    | raw f => cases List.mem_singleton.1 h
    | constant holds => cases h
    | group cs =>
      obtain ⟨c, hc, hq⟩ : ∃ c ∈ cs, .query q ∈ c.predicate.leaves := by
        simpa [Predicate.leaves] using h
      have hpred : enclosed q.tokens <:+: c.predicate.tokens := ih cs rfl c hc hq
      rw [Predicate.tokens, conditionItems_eq_map]
      exact (hpred.trans (c.infix_tokens_predicate hq)).trans
        ((infix_spaced (List.mem_map_of_mem hc)).trans (infix_enclosed _))
    | between column low high negated =>
      have hv : low.leaf = .query q ∨ high.leaf = .query q := by
        simpa [Predicate.leaves, column.leaf_ne_query.symm, eq_comm] using h
      refine List.IsInfix.trans ?_ (infix_behind _ _ _)
      rcases hv with hv | hv
      · exact List.infix_append_of_infix_left (low.infix_tokens hv)
      · exact (high.infix_tokens hv).trans (infix_behind _ _ _)
    | isNull column negated => exact absurd (List.mem_singleton.1 h).symm column.leaf_ne_query
    | among column values negated =>
      obtain ⟨v, hv, hq⟩ : ∃ v ∈ values, v.leaf = .query q := by
        simpa [Predicate.leaves, column.leaf_ne_query.symm] using h
      rw [Predicate.tokens, valueItems_eq_map]
      refine List.IsInfix.trans ?_ (infix_behind _ _ _)
      exact (v.infix_tokens hq).trans
        ((infix_listed (List.mem_map_of_mem hv)).trans (infix_enclosed _))
    | amongQuery column query negated =>
      obtain rfl : q = query := by
        simpa [Predicate.leaves, column.leaf_ne_query.symm] using h
      exact infix_behind _ _ _

theorem Condition.infix_tokens {c : Condition} (h : .query q ∈ c.predicate.leaves) :
    enclosed q.tokens <:+: c.tokens :=
  (Predicate.infix_tokens h).trans (c.infix_tokens_predicate h)

theorem Assignment.infix_tokens {a : Assignment} (h : .query q ∈ a.leaves) :
    enclosed q.tokens <:+: a.tokens := by
  obtain ⟨column, value⟩ := a
  have hv : value.leaf = .query q := by simpa [Assignment.leaves, eq_comm] using h
  exact (value.infix_tokens hv).trans (infix_behind [.path column] .becomes _)

theorem Join.infix_tokens {j : Join} (h : .query q ∈ j.leaves) :
    enclosed q.tokens <:+: j.tokens := by
  obtain ⟨kind, table, cs⟩ := j
  obtain ⟨c, hc, hq⟩ : ∃ c ∈ cs, .query q ∈ c.test.leaves := by
    simpa [Join.leaves, table.leaf_ne_query.symm] using h
  have hitem : enclosed q.tokens <:+: c.tokens := by
    obtain ⟨connector, test⟩ := c
    have htest : enclosed q.tokens <:+: test.tokens := by
      cases test with
      | columns first o second =>
        simp [JoinTest.leaves, first.leaf_ne_query.symm, second.leaf_ne_query.symm] at hq
      | value column o v =>
        have hv : v.leaf = .query q := by
          simpa [JoinTest.leaves, column.leaf_ne_query.symm, eq_comm] using hq
        exact (v.infix_tokens hv).trans (infix_behind _ _ _)
    cases connector with
    | none => exact htest
    | some k => exact htest.trans (infix_after _ _)
  have hne : cs.isEmpty = false := List.isEmpty_eq_false_iff_exists_mem.2 ⟨c, hc⟩
  rw [Join.tokens, hne, joinConditionItems_eq_map]
  exact (hitem.trans ((infix_spaced (List.mem_map_of_mem hc)).trans (infix_enclosed _))).trans
    (infix_behind _ _ _)

end

namespace Statement

variable {q s : Statement}

theorem infix_fromTokens (h : .query q ∈ s.leaves .source) :
    enclosed q.tokens <:+: fromTokens s.source := by
  obtain ⟨v, hv, hq⟩ := List.mem_map.1 h
  have hv : s.source = some v := Option.mem_toList.1 hv
  rw [hv]
  exact (v.infix_tokens hq).trans (infix_after _ _)

theorem infix_boundTokens {o : Option Value} (w : Word) (h : .query q ∈ o.toList.map Value.leaf) :
    enclosed q.tokens <:+: boundTokens w o := by
  obtain ⟨v, hv, hq⟩ := List.mem_map.1 h
  obtain rfl : o = some v := Option.mem_toList.1 hv
  exact (v.infix_tokens hq).trans (infix_after _ _)

theorem infix_conditions {cs : List Condition} (w : Word) (h : .query q ∈ conditionLeaves cs) :
    enclosed q.tokens <:+: filterTokens w cs := by
  obtain ⟨c, hc, hq⟩ := List.mem_flatMap.1 (conditionLeaves_eq_flatMap cs ▸ h)
  exact (c.infix_tokens hq).trans (infix_filterTokens w hc)

/-- A sub-query that is the table to write to has no text. -/
theorem source_leaf_ne_query (h : Token.queryTarget ∉ targetTokens s.table s.source) :
    .query q ∉ s.leaves .source := by
  intro hq
  obtain ⟨v, hv, hq⟩ := List.mem_map.1 hq
  have hv : s.source = some v := Option.mem_toList.1 hv
  rw [hv] at h
  cases v with
  | query s => exact h List.mem_cons_self
  | _ => cases hq

/-- Rows with a sub-query have a value, and so they have a column and are written. -/
theorem infix_valuesTokens (hfit : s.RowsFit) (h : .query q ∈ s.leaves .rows) :
    enclosed q.tokens <:+: valuesTokens s := by
  obtain ⟨row, hrow, hq⟩ := List.mem_flatMap.1 h
  obtain ⟨v, hv, hq⟩ := List.mem_map.1 hq
  have hcolumns : s.rowColumns.isEmpty = false := by
    -- Without columns the row would be empty, but the sub-query is one of its values.
    have hlength := hfit row hrow
    cases hc : s.rowColumns with
    | nil =>
      rw [hc] at hlength
      rw [List.length_eq_zero_iff.1 hlength] at hv
      cases hv
    | cons _ _ => rfl
  have hitem : v.tokens <:+: rowTokens row :=
    (infix_listed (List.mem_map_of_mem hv)).trans (infix_enclosed _)
  rw [valuesTokens, hcolumns]
  exact (v.infix_tokens hq).trans
    (hitem.trans ((infix_listed (List.mem_map_of_mem hrow)).trans (infix_after _ _)))

/-- A sub-query that is written stands in the tokens whole, in parentheses. -/
theorem infix_tokens (hfit : s.RowsFit) (htarget : Token.queryTarget ∉ s.tokens)
    (h : .query q ∈ s.written) : enclosed q.tokens <:+: s.tokens := by
  obtain ⟨e, he, hq⟩ := List.mem_flatMap.1 h
  match hkind : s.kind with
  | none | some .select =>
    have hselect : s.kind = none ∨ s.kind = some .select := by simp [hkind]
    rw [tokens_select hselect]
    cases e with
    -- Columns are never sub-queries.
    | columns | groups =>
      obtain ⟨c, _, hq⟩ := List.mem_map.1 hq
      exact absurd hq c.leaf_ne_query
    | aggregates =>
      obtain ⟨a, _, hq⟩ := List.mem_map.1 hq
      exact absurd hq a.column.leaf_ne_query
    | orders =>
      obtain ⟨o, _, hq⟩ := List.mem_map.1 hq
      exact absurd hq o.column.leaf_ne_query
    | source => exact (infix_fromTokens hq).trans (infix_clauses (by simp))
    | joins =>
      obtain ⟨j, hj, hq⟩ := List.mem_flatMap.1 hq
      exact (j.infix_tokens hq).trans
        ((infix_spaced (List.mem_map_of_mem hj)).trans (infix_clauses (by simp)))
    | wheres => exact (infix_conditions .WHERE hq).trans (infix_clauses (by simp))
    | havings => exact (infix_conditions .HAVING hq).trans (infix_clauses (by simp))
    | limit => exact (infix_boundTokens .LIMIT hq).trans (infix_clauses (by simp))
    | offset => exact (infix_boundTokens .OFFSET hq).trans (infix_clauses (by simp))
    | assignments | rows => simp [hkind, Kind.clauses] at he
  | some .insert =>
    have htarget := queryTarget_not_mem (.inl hkind) htarget
    rw [tokens_insert hkind]
    -- The clauses stand between the verb and the end of the insertion.
    refine List.infix_append_of_infix_left (List.infix_cons ?_)
    cases e with
    | source => exact absurd hq (source_leaf_ne_query htarget)
    | rows => exact (infix_valuesTokens hfit hq).trans (infix_clauses (by simp))
    | _ => simp [hkind, Kind.clauses] at he
  | some .update =>
    have htarget := queryTarget_not_mem (.inr hkind) htarget
    rw [tokens_update hkind]
    cases e with
    | source => exact absurd hq (source_leaf_ne_query htarget)
    | assignments =>
      obtain ⟨a, ha, hq⟩ := List.mem_flatMap.1 hq
      exact (a.infix_tokens hq).trans
        ((infix_listedAfter .SET (List.mem_map_of_mem ha)).trans (infix_clauses (by simp)))
    | wheres => exact (infix_conditions .WHERE hq).trans (infix_clauses (by simp))
    | _ => simp [hkind, Kind.clauses] at he
  | some .delete =>
    rw [tokens_delete hkind]
    cases e with
    | source => exact (infix_fromTokens hq).trans (infix_clauses (by simp))
    | wheres => exact (infix_conditions .WHERE hq).trans (infix_clauses (by simp))
    | _ => simp [hkind, Kind.clauses] at he

/-- A sub-query that stands in a text has a text. -/
theorem queryTarget_not_mem_query {ts : List Token} (h : enclosed q.tokens <:+: ts)
    (htarget : Token.queryTarget ∉ ts) : Token.queryTarget ∉ q.tokens := by
  intro hmem
  have hinside : q.tokens <:+: ts := (infix_enclosed _).trans h
  exact htarget (hinside.subset hmem)

/-- The tokens take numbers for the values of the statement, in their order.  Nothing is said of a
    statement that has no text. -/
def Aligned (s : Statement) : Prop :=
  Token.queryTarget ∉ s.tokens → s.tokens.flatMap Token.binds = s.data

/-- A sub-query that is written, in the statement or in one of its sub-queries. -/
inductive Contains : Statement → Statement → Prop
  | direct {p q : Statement} : .query q ∈ p.written → Contains p q
  | deeper {p q r : Statement} : .query q ∈ p.written → Contains q r → Contains p r

/-- What every statement has that a script builds, and every sub-query in it: the ledger is in step
    with the clauses, and the rows fit. -/
inductive Regular : Statement → Prop
  | intro {s : Statement} : s.Balanced → s.RowsFit →
      (∀ e q, .query q ∈ s.leaves e → Regular q) → Regular s

end Statement

/-! ### Alignment -/

/-- A sub-query as a leaf is regular. -/
def Leaf.Regular : Leaf → Prop
  | .query q => q.Regular
  | _ => True

namespace Statement

variable {q s : Statement}

theorem Regular.rowsFit (h : s.Regular) : s.RowsFit := by
  cases h with
  | intro _ hfit _ => exact hfit

/-- The sub-queries of a regular statement are regular. -/
theorem Regular.of_mem_written (h : s.Regular) (hq : .query q ∈ s.written) : q.Regular := by
  obtain ⟨e, _, hq⟩ := List.mem_flatMap.1 hq
  cases h with
  | intro _ _ hqueries => exact hqueries e q hq

/-- Alignment goes up from the sub-queries to the statement. -/
theorem Regular.aligned (h : s.Regular) : s.Aligned := by
  induction h with
  | intro hbalanced hfit _ ih =>
    intro htarget
    -- Both sides go leaf by leaf, and differ at most at a sub-query.
    rw [flatMap_binds_tokens hfit htarget, hbalanced.data_eq]
    refine List.flatMap_congr fun x hx => ?_
    cases x with
    | query q =>
      obtain ⟨e, _, hq⟩ := List.mem_flatMap.1 hx
      have hinside := infix_tokens hfit htarget hx
      exact ih e q hq (queryTarget_not_mem_query hinside htarget)
    | _ => rfl

/-- A sub-query at any depth is regular and stands in the tokens whole, in parentheses. -/
theorem Contains.infix_tokens (hq : s.Contains q) (h : s.Regular)
    (htarget : Token.queryTarget ∉ s.tokens) : q.Regular ∧ enclosed q.tokens <:+: s.tokens := by
  induction hq with
  | direct hq => exact ⟨h.of_mem_written hq, Statement.infix_tokens h.rowsFit htarget hq⟩
  | deeper hq _ ih =>
    have houter := Statement.infix_tokens h.rowsFit htarget hq
    have hqtarget := queryTarget_not_mem_query houter htarget
    obtain ⟨hr, hinner⟩ := ih (h.of_mem_written hq) hqtarget
    exact ⟨hr, hinner.trans ((infix_enclosed _).trans houter)⟩

end Statement

/-- Regularity, leaf by leaf. -/
theorem Statement.regular_iff {s : Statement} :
    s.Regular ↔ s.LeavesHave Leaf.Regular ∧ s.Balanced ∧ s.RowsFit := by
  constructor
  · rintro ⟨hbalanced, hfit, hqueries⟩
    refine ⟨fun e x hx => ?_, hbalanced, hfit⟩
    cases x with
    | query q => exact hqueries e q hx
    | _ => trivial
  · rintro ⟨hleaves, hbalanced, hfit⟩
    exact .intro hbalanced hfit fun e q hq => hleaves e (.query q) hq

/-- Regularity is an invariant. -/
theorem invariant_regular : Invariant Leaf.Regular fun s =>
    s.LeavesHave Leaf.Regular ∧ s.Balanced ∧ s.RowsFit :=
  (invariant_leaves _).and ((invariant_balanced _).and (invariant_rowsFit _))

/-- What a script makes of a regular statement is regular. -/
theorem Statement.Regular.of_run {script : Script} {s t : Statement} (hs : s.Regular)
    (ht : script.run s = .ok t) : t.Regular := by
  refine regular_iff.2 (invariant_regular.of_run (fun _ h => regular_iff.2 h) (regular_iff.1 hs)
    (fun x _ => ?_) ht)
  -- A script spells out no sub-query as a leaf: it has a script for each.
  cases x <;> trivial

theorem Statement.regular_new : new.Regular := regular_iff.2 invariant_regular.new

/-- What a script builds is regular. -/
theorem regular_of_build {script : Script} {s : Statement} (h : script.build = .ok s) :
    s.Regular :=
  Statement.regular_new.of_run h

end SqlBuilder
