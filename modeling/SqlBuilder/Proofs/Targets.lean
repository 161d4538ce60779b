import SqlBuilder.Proofs.Assembly
import SqlBuilder.Proofs.Bookkeeping

namespace SqlBuilder

/-!
# Sub-queries in the place of a table

An insertion and an update name the table that they write to, and a sub-query has no name.  This is
the only thing that cannot be written, so a text is refused exactly where such a statement has a
part in it.

* `Kind.queryClauses` — the clauses of a text that can hold sub-queries;
* `Statement.Reaches` — a statement has a part in the text of another one;
* `Statement.Misdirected` — a statement that would write to a sub-query;
* `queryTarget_mem_tokens_iff` — a text has a gap exactly if it reaches such a statement;
* `refusal` — then and only then there is no text, whatever the dialect.
-/

/-- The clauses of a statement's text in which sub-queries are written. -/
def Kind.queryClauses : Option Kind → List Clause
  | none | some .select => [.source, .joins, .wheres, .havings, .limit, .offset]
  | some .insert => [.rows]
  | some .update => [.assignments, .wheres]
  | some .delete => [.source, .wheres]

theorem Kind.mem_clauses_of_mem_queryClauses {k : Option Kind} {e : Clause}
    (h : e ∈ queryClauses k) : e ∈ clauses k := by
  match k with
  | none | some .select | some .insert | some .update | some .delete =>
    revert h
    cases e <;> decide

namespace Statement

/-- The text of a statement is made from that of another one: this is the statement itself, or a
    sub-query that is written, or has a part in one that is. -/
inductive Reaches : Statement → Statement → Prop
  | refl (s : Statement) : Reaches s s
  | query {s q t : Statement} {e : Clause} : e ∈ Kind.queryClauses s.kind →
      .query q ∈ s.leaves e → Reaches q t → Reaches s t

/-- The table to write to is a sub-query. -/
def Misdirected (s : Statement) : Prop :=
  (s.kind = some .insert ∨ s.kind = some .update) ∧ ∃ q, s.source = some (.query q)

variable {s q t : Statement} {e : Clause}

/-- A sub-query in the place of a table leaves a gap. -/
theorem Misdirected.queryTarget_mem (h : s.Misdirected) : Token.queryTarget ∈ s.tokens := by
  obtain ⟨hkind, q, hq⟩ := h
  by_contra hno
  have htarget := queryTarget_not_mem hkind hno
  rw [hq] at htarget
  exact htarget List.mem_cons_self

/-- A gap in a text is a gap in every text that is made from it. -/
theorem Reaches.queryTarget_mem (h : s.Reaches t) (hs : s.Regular)
    (ht : Token.queryTarget ∈ t.tokens) : Token.queryTarget ∈ s.tokens := by
  induction h with
  | refl s => exact ht
  | @query s q t e he hq _ ih =>
    have hgap : Token.queryTarget ∈ q.tokens := ih (hs.of_mem_leaves hq) ht
    have hwritten : .query q ∈ s.written :=
      List.mem_flatMap.2 ⟨e, Kind.mem_clauses_of_mem_queryClauses he, hq⟩
    by_contra hno
    exact queryTarget_not_mem_query (infix_tokens hs.rowsFit hno hwritten) hno hgap

/-- A sub-query that is written stands in a clause that can hold one, unless it stands for a
    table. -/
theorem mem_queryClauses (hs : ¬ s.Misdirected) (he : e ∈ Kind.clauses s.kind)
    (hq : .query q ∈ s.leaves e) : e ∈ Kind.queryClauses s.kind := by
  cases e with
  -- Columns are never sub-queries.
  | columns | groups =>
    obtain ⟨c, _, hc⟩ := List.mem_map.1 hq
    exact absurd hc c.leaf_ne_query
  | aggregates =>
    obtain ⟨a, _, ha⟩ := List.mem_map.1 hq
    exact absurd ha a.column.leaf_ne_query
  | orders =>
    obtain ⟨o, _, ho⟩ := List.mem_map.1 hq
    exact absurd ho o.column.leaf_ne_query
  | source =>
    obtain ⟨v, hv, hleaf⟩ := List.mem_map.1 hq
    have hsource : s.source = some (.query q) := by
      rw [Option.mem_toList.1 hv]
      cases v <;> cases hleaf
      rfl
    match hkind : s.kind with
    | none | some .select | some .delete => decide
    | some .insert => exact absurd ⟨.inl hkind, q, hsource⟩ hs
    | some .update => exact absurd ⟨.inr hkind, q, hsource⟩ hs
  | _ =>
    revert he
    cases s.kind with
    | none => decide
    | some k => cases k <;> decide

/-- What the leaves of a statement have to do with a gap: only a sub-query brings one along. -/
theorem fits_ne_queryTarget {x : Leaf}
    (h : ∀ q, x = .query q → Token.queryTarget ∉ q.tokens) :
    x.Fits fun ts => ∀ t ∈ ts, t ≠ Token.queryTarget := by
  have hclosed : Token.Closed fun ts => ∀ t ∈ ts, t ≠ Token.queryTarget :=
    Token.closed_forall (by simp)
  cases x with
  | name s =>
    exact ⟨hclosed.nameTokens (fun t _ => by simp) (fun t _ => by simp), by simp⟩
  | fragment f => simp [Leaf.Fits]
  | bind b => simp [Leaf.Fits]
  | query q => exact ⟨fun t ht he => h q rfl (he ▸ ht), fun s _ => by simp⟩

/-- A text has a gap exactly if it is made from one that has a sub-query in the place of a table. -/
theorem queryTarget_mem_tokens_iff (hs : s.Regular) :
    Token.queryTarget ∈ s.tokens ↔ ∃ t, s.Reaches t ∧ t.Misdirected := by
  refine ⟨fun hgap => ?_, fun ⟨t, hreach, ht⟩ => hreach.queryTarget_mem hs ht.queryTarget_mem⟩
  -- The induction is over the sub-queries, in whatever clauses they stand.
  induction hs with
  | @intro s _ _ _ ih =>
    by_contra hno
    have hself : ¬ s.Misdirected := fun h => hno ⟨s, .refl s, h⟩
    have hwritten : ∀ x ∈ s.written, x.Fits fun ts => ∀ t ∈ ts, t ≠ Token.queryTarget := by
      intro x hx
      obtain ⟨e, he, hx⟩ := List.mem_flatMap.1 hx
      refine fits_ne_queryTarget fun q hq hmem => ?_
      rw [hq] at hx
      obtain ⟨t, hreach, ht⟩ := ih e q hx hmem
      exact hno ⟨t, .query (mem_queryClauses hself he hx) hx hreach, ht⟩
    have htarget : s.kind = some .insert ∨ s.kind = some .update →
        ∀ t ∈ targetTokens s.table s.source, t ≠ Token.queryTarget := by
      intro hkind
      have hname : ∀ name, ∀ t ∈ nameTokens name, t ≠ Token.queryTarget := fun name =>
        (fits_ne_queryTarget (x := .name name) (by simp)).1
      cases hsource : s.source with
      | none => exact hname s.table
      | some v =>
        cases v with
        | table name => exact hname name
        | raw f => simp [targetTokens]
        | query q => exact absurd ⟨hkind, q, hsource⟩ hself
    have hends : ∀ ts : List Token, (∀ t ∈ ts, t ≠ Token.queryTarget) →
        ∀ t ∈ Token.insertVerb s.skipConflicts :: ts ++
          [.onConflict s.skipConflicts, .returning s.returning], t ≠ Token.queryTarget := by
      intro ts hts
      simp only [List.cons_append, List.forall_mem_cons, List.forall_mem_append]
      exact ⟨by simp, hts, by simp⟩
    have hall : ∀ t ∈ s.tokens, t ≠ Token.queryTarget :=
      fits_of_written (Token.closed_forall (by simp)) hwritten (by simp) (by simp) htarget
        fun _ => hends
    exact hall _ hgap rfl

end Statement

/-- **Refusal.**  Wherever calls lead, a statement has no text exactly if an insertion or an update
    with a sub-query in the place of its table has a part in it, as the statement itself or in the
    clauses that are written, at any depth.  The dialect has no say in it, and the error is always
    the same.  The values are there in any case. -/
theorem refusal {s : Statement} (hs : s.Reachable) :
    (∀ d m, s.compile d = .error m ↔
      m = .queryTarget ∧ ∃ t, s.Reaches t ∧ t.Misdirected) ∧
    (∀ d m, s.compile d = .error m →
      m.message = "sqlxfluent: a sub-query cannot be the target of INSERT or UPDATE") ∧
    s.data = s.written.flatMap Leaf.binds := by
  have hcompile : ∀ d m, s.compile d = .error m ↔
      m = .queryTarget ∧ ∃ t, s.Reaches t ∧ t.Misdirected := by
    intro d m
    rw [← s.queryTarget_mem_tokens_iff hs.regular, Statement.compile]
    split <;> simp_all [eq_comm]
  refine ⟨hcompile, fun d m h => ?_, hs.regular.balanced.data_eq⟩
  obtain ⟨rfl, _⟩ := (hcompile d m).1 h
  rfl

/-- The script of an update that would write to the results of a query. -/
def misdirectedScript : Script :=
  [.fromSource (.query [.table (.table "a")]), .update (.columns [("b", .bind (.int64 1))])]

/-- A query with this update in the bound of a query in a list of values in a group. -/
def buriedScript : Script :=
  [.table (.table "c"),
   .group .wheres .and
    [.isNull .and (.name "d") false,
     .group .wheres .or
      [.among .and (.name "e") (.values [.bind (.int64 2), .query [.limit (.query misdirectedScript)]])
        true]]]

/-- A deletion with this update wherever a deletion does not write what it is given, and in a
    deletion in its filter. -/
def shelvedScript : Script :=
  [.table (.table "c"), .delete,
   .limit (.query misdirectedScript),
   .compare .havings .and (.name "f") "=" (.query misdirectedScript),
   .joinWith .inner (.name "g") [.compare .and (.name "h") "=" (.query misdirectedScript)],
   .among .and (.name "i") (.query [.delete, .offset (.query misdirectedScript)]) false]

theorem refusal_buriedScript :
    (∃ s, buriedScript.build = .ok s ∧ s.Reachable ∧ s.data = [.int64 2, .int64 1] ∧
      (∃ t, s.Reaches t ∧ t.Misdirected) ∧ ∀ d, s.compile d = .error .queryTarget) ∧
    ∃ s, shelvedScript.build = .ok s ∧ s.Reachable ∧ s.data = [] ∧
      s.compile .mysql = .ok "DELETE FROM `c` WHERE `i` IN ( DELETE )" ∧
      ∀ t, s.Reaches t → ¬ t.Misdirected := by
  constructor
  · obtain ⟨s, hs, hdata, hmysql⟩ : ∃ s, buriedScript.build = .ok s ∧
        s.data = [.int64 2, .int64 1] ∧ s.compile .mysql = .error .queryTarget :=
      ⟨_, rfl, rfl, rfl⟩
    obtain ⟨hcompile, _, _⟩ := refusal (.run .new hs)
    have hreach := ((hcompile _ _).1 hmysql).2
    exact ⟨s, hs, .run .new hs, hdata, hreach, fun d => (hcompile d _).2 ⟨rfl, hreach⟩⟩
  · obtain ⟨s, hs, hdata, hmysql⟩ : ∃ s, shelvedScript.build = .ok s ∧ s.data = [] ∧
        s.compile .mysql = .ok "DELETE FROM `c` WHERE `i` IN ( DELETE )" :=
      ⟨_, rfl, rfl, rfl⟩
    obtain ⟨hcompile, _, _⟩ := refusal (.run .new hs)
    refine ⟨s, hs, .run .new hs, hdata, hmysql, fun t hreach ht => ?_⟩
    have herror := (hcompile .mysql _).2 ⟨rfl, t, hreach, ht⟩
    rw [hmysql] at herror
    cases herror

end SqlBuilder
