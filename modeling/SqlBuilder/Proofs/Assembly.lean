import SqlBuilder.Proofs.Clauses
import SqlBuilder.Proofs.Invariant

namespace SqlBuilder

open Token (after enclosed listed spaced clauses listedAfter)

/-!
# Texts put together from their parts

A statement is written by putting the texts of its leaves together with words between them.  So a
property of lists of tokens that words between two lists keep goes up from the leaves to the
statement.

* `Text.infix_of_mem_words`, `Text.infix_trim` — words and trimmed texts are parts of a text;
* `Token.Closed` — such a property, with the ways in which `Statement.tokens` puts lists together;
* `Leaf.Fits` — what the property asks of a leaf;
* `Column.fits`, `Predicate.fits`, … — leaves that fit make parts with the property;
* `Statement.fits_of_written`, `Statement.fits` — and a statement with it.
-/

/-! ### Parts of a text -/

namespace Text

/-- A word that is not cut off in front is the start of the text. -/
theorem prefix_of_wordsOf_eq_cons {cs w : List Char} {ws : List (List Char)}
    (h : wordsOf cs = w :: ws) (hcs : endsWord cs = false) : w <+: cs := by
  fun_induction wordsOf cs generalizing w ws with
  | case1 => cases h
  | case2 c cs hc ih =>
    rw [endsWord, hc] at hcs
    cases hcs
  | case3 c cs _ _ ih =>
    cases h
    exact ⟨cs, rfl⟩
  | case4 c cs _ _ _ ih =>
    cases h
    exact ⟨cs, rfl⟩
  | case5 c cs _ hend v vs hv ih =>
    cases h
    exact List.cons_prefix_cons.2 ⟨rfl, ih hv (by simpa using hend)⟩

/-- A word stands in the text whole. -/
theorem infix_of_mem_wordsOf {cs w : List Char} (h : w ∈ wordsOf cs) : w <:+: cs := by
  -- A word in what follows a character stands in the whole; only the first word is new.
  fun_induction wordsOf cs with
  | case1 => cases h
  | case2 c cs hc ih => exact List.infix_cons (ih h)
  | case3 c cs _ _ ih =>
    rcases List.mem_cons.1 h with rfl | h
    · exact ⟨[], cs, rfl⟩
    · exact List.infix_cons (ih h)
  | case4 c cs _ _ _ ih =>
    obtain rfl := List.mem_singleton.1 h
    exact ⟨[], cs, rfl⟩
  | case5 c cs _ hend v vs hv ih =>
    rcases List.mem_cons.1 h with rfl | h
    · have hprefix := prefix_of_wordsOf_eq_cons hv (by simpa using hend)
      exact (List.cons_prefix_cons.2 ⟨rfl, hprefix⟩).isInfix
    · exact List.infix_cons (ih (hv ▸ List.mem_cons_of_mem _ h))

theorem infix_of_mem_words {s w : String} (h : w ∈ words s) : w.toList <:+: s.toList := by
  obtain ⟨cs, hcs, rfl⟩ := List.mem_map.1 h
  rw [String.toList_ofList]
  exact infix_of_mem_wordsOf hcs

/-- What is left after trimming stands in the text whole. -/
theorem infix_trim (s : String) : (trim s).toList <:+: s.toList := by
  rw [trim, String.toList_ofList, trimEnd]
  -- At the end the blanks are dropped from the reversed text.
  have hend : (((s.toList.dropWhile isBlank).reverse.dropWhile isBlank).reverse) <+:
      s.toList.dropWhile isBlank := by
    have h := List.dropWhile_suffix isBlank (l := (s.toList.dropWhile isBlank).reverse)
    simpa using List.reverse_prefix.2 h
  exact hend.isInfix.trans (List.dropWhile_suffix _).isInfix

end Text

/-! ### Lists of tokens -/

namespace Token

/-- A property of lists of tokens that a word between two lists keeps. -/
structure Closed (R : List Token → Prop) : Prop where
  nil : R []
  append : ∀ {ts us : List Token} (w : Word), R ts → R us → R (ts ++ .word w :: us)

namespace Closed

variable {R : List Token → Prop} {ts : List Token}

theorem cons (hR : Closed R) (w : Word) (h : R ts) : R (.word w :: ts) := hR.append w hR.nil h

theorem after (hR : Closed R) (w : Word) (h : R ts) : R (after w ts) :=
  hR.cons w (hR.cons .space h)

theorem enclosed (hR : Closed R) (h : R ts) : R (enclosed ts) :=
  hR.cons .opening (hR.append .closing h hR.nil)

/-- What stands behind two words and a label. -/
theorem label (hR : Closed R) {s : String} (h : R [.identifier s]) :
    R [.word .AS, .word .space, .identifier s] :=
  hR.cons .AS (hR.cons .space h)

theorem intercalate (hR : Closed R) (w : Word) {items : List (List Token)}
    (h : ∀ ts ∈ items, R ts) : R ([Token.word w].intercalate items) := by
  induction items with
  | nil => exact hR.nil
  | cons ts items ih =>
    obtain ⟨hts, hitems⟩ := List.forall_mem_cons.1 h
    -- No word stands behind the last item.
    cases items with
    | nil => simpa using hts
    | cons us items =>
      rw [List.intercalate_cons_cons, List.append_assoc]
      exact hR.append w hts (ih hitems)

theorem listed (hR : Closed R) {items : List (List Token)} (h : ∀ ts ∈ items, R ts) :
    R (listed items) :=
  hR.intercalate .comma h

theorem spaced (hR : Closed R) {items : List (List Token)} (h : ∀ ts ∈ items, R ts) :
    R (spaced items) :=
  hR.intercalate .space h

theorem clauses (hR : Closed R) {parts : List (List Token)} (h : ∀ ts ∈ parts, R ts) :
    R (clauses parts) :=
  hR.spaced fun ts hts => h ts (List.mem_filter.1 hts).1

theorem listedAfter (hR : Closed R) (w : Word) {items : List (List Token)}
    (h : ∀ ts ∈ items, R ts) : R (listedAfter w items) := by
  rw [Token.listedAfter]
  split
  · exact hR.nil
  · exact hR.after w (hR.listed h)

/-- The words of a name are a path, perhaps with a label, or the name is a path as it stands.  All
    of these are parts of the name. -/
theorem nameTokens (hR : Closed R) {s : String} (hpath : ∀ t : String, t.toList <:+: s.toList →
    R [.path t]) (hlabel : ∀ t : String, t.toList <:+: s.toList → R [.identifier t]) :
    R (nameTokens s) := by
  have hword : ∀ w ∈ Text.words s, w.toList <:+: s.toList := fun w hw =>
    Text.infix_of_mem_words hw
  rw [SqlBuilder.nameTokens]
  split
  · exact hR.nil
  · rename_i path hwords
    exact hpath path (hword path (by simp [hwords]))
  · rename_i path label hwords
    exact hR.append .space (hpath path (hword path (by simp [hwords])))
      (hR.label (hlabel label (hword label (by simp [hwords]))))
  · rename_i path other label hwords
    exact hR.append .space (hpath path (hword path (by simp [hwords])))
      (hR.label (hlabel label (hword label (by simp [hwords]))))
  · exact hpath s List.infix_rfl

end Closed

/-- That every token has `Q` is such a property, if all words have `Q`. -/
theorem closed_forall {Q : Token → Prop} (hword : ∀ w, Q (.word w)) :
    Closed fun ts => ∀ t ∈ ts, Q t where
  nil t ht := by cases ht
  append w hts hus t ht := by
    rcases List.mem_append.1 ht with ht | ht
    · exact hts t ht
    · rcases List.mem_cons.1 ht with rfl | ht
      · exact hword w
      · exact hus t ht

end Token

open Token (Closed)

/-- What a property of lists of tokens asks of a leaf, wherever the leaf may stand: a name can be
    written as a path or with a label, and a sub-query can carry the label of its table. -/
def Leaf.Fits (R : List Token → Prop) : Leaf → Prop
  | .name s => R (nameTokens s) ∧ R [.path s]
  | .fragment f => R [.fragment f] ∧ R [.spacedFragment f]
  | .bind b => R [.place b]
  | .query q => R q.tokens ∧ ∀ s, q.label? = some s → R [.identifier s]

/-! ### The parts of a statement -/

section

variable {R : List Token → Prop} (hR : Closed R)

include hR

omit hR in
theorem Column.fits {c : Column} (h : c.leaf.Fits R) : R c.tokens := by
  cases c with
  | name s => exact h.1
  | raw f => exact h.1

theorem Value.fits {v : Value} (h : v.leaf.Fits R) : R v.tokens := by
  cases v with
  | bind b => exact h
  | raw f => exact h.1
  | query q => exact hR.enclosed h.1

theorem Source.fits {v : Source} (h : v.leaf.Fits R) : R v.tokens := by
  cases v with
  | table name => exact h.1
  | raw f => exact h.1
  | query q =>
    obtain ⟨hq, hlabel⟩ := h
    rw [Source.tokens]
    cases hs : q.label? with
    | none => simpa [labelTokens] using hR.enclosed hq
    | some s => exact hR.append .space (hR.enclosed hq) (hR.label (hlabel s hs))

theorem Aggregate.fits {a : Aggregate} (h : a.column.leaf.Fits R)
    (hlabel : R [.identifier a.label]) : R a.tokens := by
  have hend : R (if a.label.isEmpty then []
      else [.word .space, .word .AS, .word .space, .identifier a.label]) := by
    split
    · exact hR.nil
    · exact hR.cons .space (hR.label hlabel)
  exact hR.cons (.function a.function)
    (hR.cons .callOpening (hR.append .callClosing (Column.fits h) hend))

theorem Order.fits {o : Order} (h : o.column.leaf.Fits R) : R o.tokens :=
  hR.append .space (Column.fits h) (hR.cons (.direction o.direction) hR.nil)

theorem fits_comparison {l r : List Token} (hl : R l) (o : Operator) (hr : R r) :
    R (comparison l o r) :=
  hR.append .space hl (hR.after (.operator o) hr)

theorem Assignment.fits {a : Assignment} (h : ∀ x ∈ a.leaves, x.Fits R) : R a.tokens := by
  obtain ⟨column, value⟩ := a
  have hcolumn : (Leaf.name column).Fits R := h _ (by simp [Assignment.leaves])
  have hvalue : value.leaf.Fits R := h _ (by simp [Assignment.leaves])
  exact hR.append .space hcolumn.2 (hR.after .becomes (Value.fits hR hvalue))

theorem JoinCondition.fits {c : JoinCondition} (h : ∀ x ∈ c.test.leaves, x.Fits R) :
    R c.tokens := by
  obtain ⟨connector, test⟩ := c
  have htest : R test.tokens := by
    cases test with
    | columns first o second =>
      have hfirst : first.leaf.Fits R := h _ (by simp [JoinTest.leaves])
      have hsecond : second.leaf.Fits R := h _ (by simp [JoinTest.leaves])
      exact fits_comparison hR (Column.fits hfirst) o (Column.fits hsecond)
    | value column o v =>
      have hcolumn : column.leaf.Fits R := h _ (by simp [JoinTest.leaves])
      have hv : v.leaf.Fits R := h _ (by simp [JoinTest.leaves])
      exact fits_comparison hR (Column.fits hcolumn) o (Value.fits hR hv)
  cases connector with
  | none => exact htest
  | some k => exact hR.after k.word htest

theorem Join.fits {j : Join} (h : ∀ x ∈ j.leaves, x.Fits R) : R j.tokens := by
  obtain ⟨kind, table, cs⟩ := j
  have htable : R table.tokens := Column.fits (h _ List.mem_cons_self)
  have hitems : ∀ ts ∈ cs.map JoinCondition.tokens, R ts := by
    intro ts hts
    obtain ⟨c, hc, rfl⟩ := List.mem_map.1 hts
    refine JoinCondition.fits hR fun x hx => h x (List.mem_cons_of_mem _ ?_)
    exact List.mem_flatMap.2 ⟨c, hc, hx⟩
  rw [Join.tokens, joinConditionItems_eq_map]
  split
  · simpa using hR.after kind.word htable
  · exact hR.append .space (hR.after kind.word htable)
      (hR.after .ON (hR.enclosed (hR.spaced hitems)))

/-- A test behind a connector.  A fragment is written with its space there. -/
theorem Predicate.fits_afterConnector {p : Predicate} (k : Option Connector)
    (h : ∀ x ∈ p.leaves, x.Fits R) (hp : R p.tokens) : R (p.afterConnector k p.tokens) := by
  cases k with
  | none => exact hp
  | some c =>
    cases p with
    | raw f =>
      have hf : (Leaf.fragment f).Fits R := h _ List.mem_cons_self
      exact hR.cons c.word hf.2
    | _ => exact hR.after c.word hp

theorem Predicate.fits {p : Predicate} (h : ∀ x ∈ p.leaves, x.Fits R) : R p.tokens := by
  induction p using Predicate.groupInduction with
  | h p ih =>
    cases p with
    | compare column o value =>
      have hcolumn : column.leaf.Fits R := h _ (by simp [leaves])
      have hvalue : value.leaf.Fits R := h _ (by simp [leaves])
      exact fits_comparison hR (Column.fits hcolumn) o (Value.fits hR hvalue)
    | raw f => exact (h _ List.mem_cons_self).1
    | constant holds => exact hR.cons _ hR.nil
    | group cs =>
      -- The induction is for this case: a leaf of a condition is a leaf of the group.
      have hitems : ∀ ts ∈ cs.map Condition.tokens, R ts := by
        intro ts hts
        obtain ⟨⟨k, p⟩, hc, rfl⟩ := List.mem_map.1 hts
        have hp : ∀ x ∈ p.leaves, x.Fits R := fun x hx =>
          h x (by simpa [leaves] using ⟨_, hc, hx⟩)
        exact p.fits_afterConnector hR k hp (ih cs rfl _ hc hp)
      rw [tokens, conditionItems_eq_map]
      exact hR.enclosed (hR.spaced hitems)
    | between column low high negated =>
      have hcolumn : column.leaf.Fits R := h _ (by simp [leaves])
      have hlow : R low.tokens := low.fits hR (h _ (by simp [leaves]))
      have hhigh : R high.tokens := high.fits hR (h _ (by simp [leaves]))
      exact hR.append .space (Column.fits hcolumn)
        (hR.after _ (hR.append .space hlow (hR.after .AND hhigh)))
    | isNull column negated =>
      have hcolumn : column.leaf.Fits R := h _ (by simp [leaves])
      exact hR.append .space (Column.fits hcolumn) (hR.cons _ hR.nil)
    | among column values negated =>
      have hcolumn : column.leaf.Fits R := h _ (by simp [leaves])
      have hvalues : ∀ ts ∈ values.map Value.tokens, R ts := by
        intro ts hts
        obtain ⟨v, hv, rfl⟩ := List.mem_map.1 hts
        exact v.fits hR (h _ (List.mem_cons_of_mem _ (List.mem_map_of_mem hv)))
      rw [tokens, valueItems_eq_map]
      exact hR.append .space (Column.fits hcolumn)
        (hR.after _ (hR.enclosed (hR.listed hvalues)))
    | amongQuery column query negated =>
      have hcolumn : column.leaf.Fits R := h _ (by simp [leaves])
      have hquery : (Leaf.query query).Fits R := h _ (by simp [leaves])
      exact hR.append .space (Column.fits hcolumn) (hR.after _ (hR.enclosed hquery.1))

theorem Condition.fits {c : Condition} (h : ∀ x ∈ c.predicate.leaves, x.Fits R) : R c.tokens := by
  obtain ⟨k, p⟩ := c
  exact p.fits_afterConnector hR k h (p.fits hR h)

/-! ### The clauses -/

theorem fits_fromTokens {o : Option Source} (h : ∀ x ∈ o.toList.map Source.leaf, x.Fits R) :
    R (fromTokens o) := by
  cases o with
  | none => exact hR.nil
  | some v => exact hR.after .FROM (v.fits hR (h _ List.mem_cons_self))

omit hR in
theorem fits_targetTokens {table : String} {o : Option Source} (htable : R (nameTokens table))
    (htarget : R [.queryTarget]) (h : ∀ x ∈ o.toList.map Source.leaf, x.Fits R) :
    R (targetTokens table o) := by
  cases o with
  | none => exact htable
  | some v =>
    have hv : v.leaf.Fits R := h _ List.mem_cons_self
    -- A sub-query cannot be written to, and its tokens do not matter.
    cases v with
    | table name => exact hv.1
    | raw f => exact hv.1
    | query q => exact htarget

theorem fits_boundTokens (w : Word) {o : Option Value}
    (h : ∀ x ∈ o.toList.map Value.leaf, x.Fits R) : R (boundTokens w o) := by
  cases o with
  | none => exact hR.nil
  | some v => exact hR.after w (v.fits hR (h _ List.mem_cons_self))

theorem fits_filterTokens (w : Word) {cs : List Condition}
    (h : ∀ x ∈ conditionLeaves cs, x.Fits R) : R (filterTokens w cs) := by
  rw [conditionLeaves_eq_flatMap] at h
  rw [filterTokens]
  split
  · exact hR.nil
  · refine hR.after w (hR.spaced fun ts hts => ?_)
    obtain ⟨c, hc, rfl⟩ := List.mem_map.1 hts
    exact c.fits hR fun x hx => h x (List.mem_flatMap.2 ⟨c, hc, hx⟩)

omit hR in
theorem fits_columnItems {cs : List Column} (h : ∀ x ∈ cs.map Column.leaf, x.Fits R) :
    ∀ ts ∈ cs.map Column.tokens, R ts := by
  intro ts hts
  obtain ⟨c, hc, rfl⟩ := List.mem_map.1 hts
  exact c.fits (h _ (List.mem_map_of_mem hc))

end

/-! ### Statements -/

namespace Statement

variable {R : List Token → Prop} {s : Statement}

theorem fits_selectTokens (hR : Closed R) (hcolumns : ∀ x ∈ s.leaves .columns, x.Fits R)
    (haggregates : ∀ x ∈ s.leaves .aggregates, x.Fits R)
    (hlabels : ∀ a ∈ s.aggregates, R [.identifier a.label]) : R (selectTokens s) := by
  have hitems : ∀ ts ∈ s.columns.map Column.tokens ++ s.aggregates.map Aggregate.tokens, R ts := by
    intro ts hts
    rcases List.mem_append.1 hts with hts | hts
    · exact fits_columnItems hcolumns ts hts
    · obtain ⟨a, ha, rfl⟩ := List.mem_map.1 hts
      exact a.fits hR (haggregates _ (List.mem_map.2 ⟨a, ha, rfl⟩)) (hlabels a ha)
  rw [selectTokens]
  split
  · exact hR.after .SELECT (hR.cons .star hR.nil)
  · exact hR.after .SELECT (hR.listed hitems)

theorem fits_joins (hR : Closed R) (h : ∀ x ∈ s.leaves .joins, x.Fits R) :
    R (spaced (s.joins.map Join.tokens)) := by
  refine hR.spaced fun ts hts => ?_
  obtain ⟨j, hj, rfl⟩ := List.mem_map.1 hts
  exact j.fits hR fun x hx => h x (List.mem_flatMap.2 ⟨j, hj, hx⟩)

theorem fits_orders (hR : Closed R) (h : ∀ x ∈ s.leaves .orders, x.Fits R) :
    R (listedAfter .ORDER_BY (s.orders.map Order.tokens)) := by
  refine hR.listedAfter .ORDER_BY fun ts hts => ?_
  obtain ⟨o, ho, rfl⟩ := List.mem_map.1 hts
  exact o.fits hR (h _ (List.mem_map.2 ⟨o, ho, rfl⟩))

theorem fits_assignments (hR : Closed R) (h : ∀ x ∈ s.leaves .assignments, x.Fits R) :
    R (listedAfter .SET (s.assignments.map Assignment.tokens)) := by
  refine hR.listedAfter .SET fun ts hts => ?_
  obtain ⟨a, ha, rfl⟩ := List.mem_map.1 hts
  exact a.fits hR fun x hx => h x (List.mem_flatMap.2 ⟨a, ha, hx⟩)

theorem fits_rowColumnTokens (hR : Closed R) (h : ∀ c ∈ s.rowColumns, R [.path c]) :
    R (rowColumnTokens s) := by
  rw [rowColumnTokens]
  split
  · exact hR.nil
  · refine hR.enclosed (hR.listed fun ts hts => ?_)
    obtain ⟨c, hc, rfl⟩ := List.mem_map.1 hts
    exact h c hc

theorem fits_valuesTokens (hR : Closed R) (h : ∀ x ∈ s.leaves .rows, x.Fits R) :
    R (valuesTokens s) := by
  rw [valuesTokens]
  split
  · exact hR.nil
  · refine hR.after .VALUES (hR.listed fun ts hts => ?_)
    obtain ⟨row, hrow, rfl⟩ := List.mem_map.1 hts
    refine hR.enclosed (hR.listed fun ts hts => ?_)
    obtain ⟨v, hv, rfl⟩ := List.mem_map.1 hts
    exact v.fits hR (h _ (List.mem_flatMap.2 ⟨row, hrow, List.mem_map_of_mem hv⟩))

/-- The tokens of a statement have every property that the leaves it writes, its labels and its
    target have, of whatever kind it is.  The two ends of an insertion are no words, so the property
    has to be known to bear them. -/
theorem fits_of_written (hR : Closed R) (h : ∀ x ∈ s.written, x.Fits R)
    (hlabels : ∀ a ∈ s.aggregates, R [.identifier a.label])
    (hcolumns : ∀ c ∈ s.rowColumns, R [.path c])
    (htarget : s.kind = some .insert ∨ s.kind = some .update → R (targetTokens s.table s.source))
    (hinsert : s.kind = some .insert → ∀ ts, R ts → R (.insertVerb s.skipConflicts :: ts ++
      [.onConflict s.skipConflicts, .returning s.returning])) :
    R s.tokens := by
  have hclause : ∀ e ∈ Kind.clauses s.kind, ∀ x ∈ s.leaves e, x.Fits R := fun e he x hx =>
    h x (List.mem_flatMap.2 ⟨e, he, hx⟩)
  match hkind : s.kind with
  -- Without a kind it is written as a query.
  | none | some .select =>
    have hselect : s.kind = none ∨ s.kind = some .select := by simp [hkind]
    rw [tokens_select hselect]
    have hclause : ∀ e ∈ Kind.clauses none, ∀ x ∈ s.leaves e, x.Fits R := by
      rw [hkind] at hclause
      exact hclause
    refine hR.clauses ?_
    simp only [List.forall_mem_cons, List.not_mem_nil, false_implies, implies_true, and_true]
    exact ⟨fits_selectTokens hR (hclause .columns (by decide)) (hclause .aggregates (by decide))
        hlabels,
      fits_fromTokens hR (hclause .source (by decide)), fits_joins hR (hclause .joins (by decide)),
      fits_filterTokens hR .WHERE (hclause .wheres (by decide)),
      hR.listedAfter .GROUP_BY (fits_columnItems (hclause .groups (by decide))),
      fits_filterTokens hR .HAVING (hclause .havings (by decide)),
      fits_orders hR (hclause .orders (by decide)),
      fits_boundTokens hR .LIMIT (hclause .limit (by decide)),
      fits_boundTokens hR .OFFSET (hclause .offset (by decide))⟩
  | some .insert =>
    rw [hkind] at hclause
    rw [tokens_insert hkind]
    refine hinsert hkind _ (hR.clauses ?_)
    simp only [List.forall_mem_cons, List.not_mem_nil, false_implies, implies_true, and_true]
    exact ⟨hR.after .INTO (htarget (.inl hkind)), fits_rowColumnTokens hR hcolumns,
      fits_valuesTokens hR (hclause .rows (by decide))⟩
  | some .update =>
    rw [hkind] at hclause
    rw [tokens_update hkind]
    refine hR.clauses ?_
    simp only [List.forall_mem_cons, List.not_mem_nil, false_implies, implies_true, and_true]
    exact ⟨hR.after .UPDATE (htarget (.inr hkind)),
      fits_assignments hR (hclause .assignments (by decide)),
      fits_filterTokens hR .WHERE (hclause .wheres (by decide))⟩
  | some .delete =>
    rw [hkind] at hclause
    rw [tokens_delete hkind]
    refine hR.clauses ?_
    simp only [List.forall_mem_cons, List.not_mem_nil, false_implies, implies_true, and_true]
    exact ⟨hR.cons .DELETE hR.nil, fits_fromTokens hR (hclause .source (by decide)),
      fits_filterTokens hR .WHERE (hclause .wheres (by decide))⟩

/-- **Assembly.**  The tokens of a statement have every property that its leaves, its labels and the
    names of its target have, whichever of its clauses are written. -/
theorem fits (hR : Closed R) (h : s.LeavesHave (Leaf.Fits R))
    (hlabels : ∀ a ∈ s.aggregates, R [.identifier a.label]) (htable : R (nameTokens s.table))
    (hcolumns : ∀ c ∈ s.rowColumns, R [.path c]) (htarget : R [.queryTarget])
    (hinsert : s.kind = some .insert → ∀ ts, R ts → R (.insertVerb s.skipConflicts :: ts ++
      [.onConflict s.skipConflicts, .returning s.returning])) :
    R s.tokens := by
  have hwritten : ∀ x ∈ s.written, x.Fits R := by
    intro x hx
    obtain ⟨e, _, hx⟩ := List.mem_flatMap.1 hx
    exact h e x hx
  exact fits_of_written hR hwritten hlabels hcolumns
    (fun _ => fits_targetTokens htable htarget (h .source)) hinsert

end Statement

end SqlBuilder
