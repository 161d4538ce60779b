import SqlBuilder.Proofs.Exchange
import SqlBuilder.Proofs.Reordering

namespace SqlBuilder

open Token (after enclosed listed spaced clauses listedAfter)

/-!
# Clauses that are not written

Every clause of a statement can be filled whatever its kind is, but each kind writes some of them
only.  What was filled in the others leaves no trace, neither in text and values nor where the
statement is used as a sub-query.

* `Kind.unwritten` — the parts of a statement that its kind does not write;
* `Statement.AgreeFor` — two statements of one kind that agree in the other parts;
* `AgreeFor.alike` — they have the same tokens, values and label;
* `AgreeFor.drop`, `AgreeFor.keep` — what a call does to one of them, and to both;
* `omission` — so calls for the unwritten parts can be left out.
-/

/-- The parts that a statement of this kind does not write. -/
def Kind.unwritten : Kind → List Part
  | .select => [.conflicts, .returning]
  | .insert => [.joins, .wheres, .groups, .havings, .orders, .limit, .offset]
  | .update | .delete =>
    [.joins, .groups, .havings, .orders, .limit, .offset, .conflicts, .returning]

/-- The calls without those for a part that a statement of this kind does not write. -/
def Edit.written (k : Kind) (es : List Edit) : List Edit :=
  es.filter fun e => ∀ p ∈ k.unwritten, e.part? ≠ some p

/-- The part that holds a clause. -/
def Clause.part : Clause → Part
  | .columns => .columns
  | .aggregates => .aggregates
  | .source => .source
  | .joins => .joins
  | .assignments => .assignments
  | .rows => .rows
  | .wheres => .wheres
  | .groups => .groups
  | .havings => .havings
  | .orders => .orders
  | .limit => .limit
  | .offset => .offset

/-- No clause that a kind writes is in an unwritten part. -/
theorem Kind.part_not_mem_unwritten {k : Kind} {e : Clause} (h : e ∈ Kind.clauses (some k)) :
    e.part ∉ k.unwritten := by
  revert h
  cases k <;> cases e <;> decide

namespace Statement

/-- Two statements of kind `k` that have all parts in common that this kind writes. -/
structure AgreeFor (k : Kind) (s t : Statement) : Prop where
  left : s.kind = some k
  right : t.kind = some k
  parts : ∀ p ∉ k.unwritten, s.only p = t.only p

variable {k : Kind} {s s' t : Statement}

/-- A part of a statement holds the values of its clause. -/
theorem get_only (s : Statement) (e : Clause) : (s.only e.part).ledger.get e = s.ledger.get e := by
  cases e <;> rfl

theorem AgreeFor.refl (h : s.kind = some k) : AgreeFor k s s := ⟨h, h, fun _ _ => rfl⟩

theorem AgreeFor.data_eq (h : AgreeFor k s t) : s.data = t.data := by
  rw [data, data, h.left, h.right, Ledger.ordered, Ledger.ordered]
  refine List.flatMap_congr fun e he => ?_
  rw [← s.get_only, ← t.get_only, h.parts _ (Kind.part_not_mem_unwritten he)]

/-- Every kind writes its source. -/
theorem AgreeFor.source_eq (h : AgreeFor k s t) : s.only .source = t.only .source :=
  h.parts .source (by cases k <;> decide)

theorem AgreeFor.table_eq (h : AgreeFor k s t) : s.table = t.table :=
  congrArg (·.table) h.source_eq

/-- The four kinds write these parts and no others. -/
theorem AgreeFor.tokens_eq (h : AgreeFor k s t) : s.tokens = t.tokens := by
  have hs := h.left
  have ht := h.right
  have hsource : s.source = t.source := congrArg (·.source) h.source_eq
  have hwheres : .wheres ∉ k.unwritten → s.wheres = t.wheres := fun hp =>
    congrArg (·.wheres) (h.parts .wheres hp)
  cases k with
  | select =>
    have hcolumns : s.columns = t.columns := congrArg (·.columns) (h.parts .columns (by decide))
    have haggregates : s.aggregates = t.aggregates :=
      congrArg (·.aggregates) (h.parts .aggregates (by decide))
    have hjoins : s.joins = t.joins := congrArg (·.joins) (h.parts .joins (by decide))
    have hgroups : s.groups = t.groups := congrArg (·.groups) (h.parts .groups (by decide))
    have hhavings : s.havings = t.havings := congrArg (·.havings) (h.parts .havings (by decide))
    have horders : s.orders = t.orders := congrArg (·.orders) (h.parts .orders (by decide))
    have hlimit : s.limit = t.limit := congrArg (·.limit) (h.parts .limit (by decide))
    have hoffset : s.offset = t.offset := congrArg (·.offset) (h.parts .offset (by decide))
    rw [tokens_select (.inr hs), tokens_select (.inr ht), selectTokens, selectTokens, hcolumns,
      haggregates, hsource, hjoins, hwheres (by decide), hgroups, hhavings, horders, hlimit, hoffset]
  | insert =>
    have hcolumns : s.rowColumns = t.rowColumns :=
      congrArg (·.rowColumns) (h.parts .rows (by decide))
    have hrows : s.rows = t.rows := congrArg (·.rows) (h.parts .rows (by decide))
    have hconflicts : s.skipConflicts = t.skipConflicts :=
      congrArg (·.skipConflicts) (h.parts .conflicts (by decide))
    have hreturning : s.returning = t.returning :=
      congrArg (·.returning) (h.parts .returning (by decide))
    rw [tokens_insert hs, tokens_insert ht, rowColumnTokens, rowColumnTokens, valuesTokens,
      valuesTokens, h.table_eq, hsource, hcolumns, hrows, hconflicts, hreturning]
  | update =>
    have hassignments : s.assignments = t.assignments :=
      congrArg (·.assignments) (h.parts .assignments (by decide))
    rw [tokens_update hs, tokens_update ht, h.table_eq, hsource, hassignments,
      hwheres (by decide)]
  | delete =>
    rw [tokens_delete hs, tokens_delete ht, hsource, hwheres (by decide)]

theorem AgreeFor.alike (h : AgreeFor k s t) : s.Alike t :=
  ⟨h.tokens_eq, h.data_eq, by rw [label?, label?, h.table_eq]⟩

/-! ### Calls -/

/-- A call for an unwritten part changes nothing that is written. -/
theorem AgreeFor.drop {e : Edit} {p : Part} (h : AgreeFor k s s') (hp : e.part? = some p)
    (hunwritten : p ∈ k.unwritten) (ht : e.run s = .ok t) : AgreeFor k t s' where
  left := by rw [Edit.kind_run ht, h.left, Option.some_or]
  right := h.right
  parts q hq := by
    have hne : e.part? ≠ some q := by
      rintro heq
      cases hp.symm.trans heq
      exact hq hunwritten
    rw [Edit.only_run_of_ne hne ht, h.parts q hq]

/-- A group is built from the table and is added to its filter. -/
theorem exists_run_group {f : Filter} {c : Connector} {body : Statement → Except Error Statement}
    (htable : s.table = s'.table) (hpart : s.only f.part = s'.only f.part)
    (ht : (Edit.group f c body).run s = .ok t) :
    ∃ t', (Edit.group f c body).run s' = .ok t' ∧ t'.only f.part = t.only f.part := by
  rw [Edit.run, group] at ht
  obtain ⟨inner, hinner, ht⟩ := bind_eq_ok ht
  cases ht
  have hscope : s.scope = s'.scope := by rw [scope, scope, htable]
  have hat : ∀ u : Statement, (u.addGroup f c inner).only f.part =
      ((u.only f.part).addGroup f c inner).only f.part := fun u =>
    (u.only_addGroup f.part f c inner).trans (if_pos rfl)
  refine ⟨s'.addGroup f c inner, ?_, ?_⟩
  · rw [Edit.run, group, ← hscope, hinner]
    rfl
  · rw [hat s', hat s, hpart]

/-- A call for a written part does the same to it in both statements. -/
theorem AgreeFor.exists_run {e : Edit} {p : Part} (h : AgreeFor k s s') (hpart : e.part? = some p)
    (hp : p ∉ k.unwritten) (ht : e.run s = .ok t) :
    ∃ t', e.run s' = .ok t' ∧ t'.only p = t.only p := by
  have hcommon := h.parts p hp
  by_cases hkind : ∀ l, e.kind? = some l → l = k
  · have hadmits : ∀ {u : Statement}, u.kind = some k →
        ∀ l, e.kind? = some l → u.admits l = true := by
      intro u hu l hl
      rw [hkind l hl, admits, hu]
      simp
    by_cases hblind : e.TableBlind
    · exact Edit.exists_run_of_only_eq hpart hblind (hadmits h.left) (hadmits h.right)
        hcommon.symm ht
    · -- The body of a group may heed the table, but the table is the same.
      cases e with
      | group f c body =>
        cases hpart
        exact exists_run_group h.table_eq hcommon ht
      | _ => exact absurd trivial hblind
  · -- A call for another kind does nothing.
    obtain ⟨l, hl⟩ := Classical.not_forall.1 hkind
    obtain ⟨hl, hne⟩ := Classical.not_imp.1 hl
    rw [Edit.run_of_kind?_ne h.left hl hne] at ht
    cases ht
    exact ⟨s', Edit.run_of_kind?_ne h.right hl hne, hcommon.symm⟩

/-- So both statements still agree after it. -/
theorem AgreeFor.keep {e : Edit} (h : AgreeFor k s s')
    (hp : ∀ p ∈ k.unwritten, e.part? ≠ some p) (ht : e.run s = .ok t) :
    ∃ t', e.run s' = .ok t' ∧ AgreeFor k t t' := by
  obtain ⟨t', ht', hpart⟩ : ∃ t', e.run s' = .ok t' ∧
      ∀ p, e.part? = some p → t'.only p = t.only p := by
    by_cases hnone : e.part? = none
    · cases e with
      | withDialect d => exact ⟨_, rfl, by simp [hnone]⟩
      | _ => cases hnone
    · obtain ⟨p, hpart⟩ := Option.ne_none_iff_exists'.1 hnone
      obtain ⟨t', ht', htp⟩ := h.exists_run hpart (fun hmem => hp p hmem hpart) ht
      refine ⟨t', ht', fun q hq => ?_⟩
      cases hpart.symm.trans hq
      exact htp
  refine ⟨t', ht', ?_, ?_, fun q hq => ?_⟩
  · rw [Edit.kind_run ht, h.left, Option.some_or]
  · rw [Edit.kind_run ht', h.right, Option.some_or]
  · by_cases heq : e.part? = some q
    · exact (hpart q heq).symm
    · rw [Edit.only_run_of_ne heq ht, Edit.only_run_of_ne heq ht', h.parts q hq]

/-- Calls for unwritten parts can be left out of a run. -/
theorem AgreeFor.runEdits {es : List Edit} (h : AgreeFor k s s') (ht : runEdits es s = .ok t) :
    ∃ t', SqlBuilder.runEdits (Edit.written k es) s' = .ok t' ∧ AgreeFor k t t' := by
  induction es generalizing s s' with
  | nil =>
    cases ht
    exact ⟨s', rfl, h⟩
  | cons e es ih =>
    obtain ⟨u, hu, ht⟩ := bind_eq_ok ht
    by_cases hp : ∀ p ∈ k.unwritten, e.part? ≠ some p
    · obtain ⟨u', hu', hagree⟩ := h.keep hp hu
      obtain ⟨t', ht', hagree'⟩ := ih hagree ht
      refine ⟨t', ?_, hagree'⟩
      rw [Edit.written, List.filter_cons_of_pos (by simpa using hp), SqlBuilder.runEdits, hu']
      exact ht'
    · obtain ⟨p, hmem, hpart⟩ : ∃ p ∈ k.unwritten, e.part? = some p := by simpa using hp
      rw [Edit.written, List.filter_cons_of_neg (by simpa using hp)]
      exact ih (h.drop hpart hmem hu) ht

end Statement

open Statement

/-- **Omission.**  Once the kind of a statement is settled, a call for a part that this kind does not
    write changes neither text nor values, whatever its arguments are, and wherever the statement is
    used as a sub-query afterwards, no text and no values are changed either.  So such calls can be
    left out of every run. -/
theorem omission {s : Statement} {k : Kind} (hs : s.kind = some k) :
    (∀ (e : Edit) p t, e.part? = some p → p ∈ k.unwritten → e.run s = .ok t →
      t.Interchangeable s) ∧
    (∀ es t, runEdits es s = .ok t →
      ∃ t', runEdits (Edit.written k es) s = .ok t' ∧ t.Interchangeable t') := by
  refine ⟨fun e p t hpart hp ht => ?_, fun es t ht => ?_⟩
  · exact ((AgreeFor.refl hs).drop hpart hp ht).alike.interchangeable
  · obtain ⟨t', ht', hagree⟩ := (AgreeFor.refl hs).runEdits ht
    exact ⟨t', ht', hagree.alike.interchangeable⟩

/-- A deletion without a filter. -/
def deletion : Statement := (ofSource (.table "a")).delete

/-- Calls on it, all but one for parts that a deletion does not write. -/
def clutter : List Edit :=
  [.limit (.query (ofSource (.raw ⟨"f(?)", [.int64 1]⟩))),
   .joinWith .left (.raw ⟨"g(?)", [.int64 2]⟩) fun j =>
    (j.compare .and (.name "b") "=" (.bind (.int64 3))).mapError .misuse,
   .group .havings .or (runEdits [.compareRaw .havings .and ⟨"c > ?", [.int64 4]⟩]),
   .compare .wheres .and (.name "d") "=" (.bind (.int64 5)),
   .skipConflicts, .orderBy (.raw ⟨"?", [.int64 6]⟩) "desc"]

theorem omission_clutter :
    ∃ t t', runEdits clutter deletion = .ok t ∧ t.ledger.get .joins = [.int64 2, .int64 3] ∧
      runEdits [.compare .wheres .and (.name "d") "=" (.bind (.int64 5))] deletion = .ok t' ∧
      t'.data = [.int64 5] ∧ (∀ d, t.compile d = t'.compile d) ∧ t.data = t'.data ∧
      (∀ d, (ofSource (.query t)).compile d = (ofSource (.query t')).compile d) ∧
      (∀ (u : Statement) d, (u.amongQuery .or (.name "e") t true).compile d =
        (u.amongQuery .or (.name "e") t' true).compile d) ∧
      (t'.offsetBy (.raw ⟨"?", [.int64 7]⟩)).data = [.int64 5] := by
  obtain ⟨t, hrun, hledger⟩ : ∃ t, runEdits clutter deletion = .ok t ∧
      t.ledger.get .joins = [.int64 2, .int64 3] := ⟨_, rfl, rfl⟩
  obtain ⟨t', ht', hsame⟩ := (omission (s := deletion) (k := .delete) rfl).2 _ _ hrun
  have hwritten : Edit.written .delete clutter =
      [.compare .wheres .and (.name "d") "=" (.bind (.int64 5))] := rfl
  rw [hwritten] at ht'
  have hkind : t'.kind = some .delete := Edit.kind_runEdits ht'
  have hdata : t'.data = [.int64 5] := by
    cases ht'
    rfl
  have hoffset : (t'.offsetBy (.raw ⟨"?", [.int64 7]⟩)).Interchangeable t' :=
    (omission hkind).1 (.offset _) .offset _ rfl (by decide) rfl
  refine ⟨t, t', hrun, hledger, ht', hdata, hsame.text, hsame.data, fun d => ?_, fun u d => ?_,
    hoffset.data.trans hdata⟩
  · have hboth := hsame.around 0 .new [.fromSource (.query t)] [.fromSource (.query t')]
      (.cons (.fromSource (.query (.inr ⟨rfl, rfl⟩))) .nil)
    cases hboth with
    | ok h => exact h.1 d
  · have hboth := hsame.around 0 u [.amongQuery .or (.name "e") t true]
      [.amongQuery .or (.name "e") t' true] (.cons (.amongQuery (.inr ⟨rfl, rfl⟩)) .nil)
    cases hboth with
    | ok h => exact h.1 d

end SqlBuilder
