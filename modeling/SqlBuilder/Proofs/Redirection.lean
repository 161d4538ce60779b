import SqlBuilder.Proofs.Labels

namespace SqlBuilder

open Token (after enclosed listed spaced clauses listedAfter after_ne_nil)

/-!
# A source that is replaced

A statement has one source, and a later one takes the place of an earlier one together with its
values.  Only the table name that was given last stays, even if what replaces it is no table; it is
seen where the statement becomes a derived table.

* `fromSource_fromSource` — what is left of a source that was replaced;
* `Statement.tokens_setTable` — the text of a statement with a source does not tell the table;
* `table_fromSource_fromSource` — when the table is the same as without the first source;
* `Statement.DerivedAlike` — two statements have the same text as derived tables, up to the labels;
* `redirection` — a source that was replaced is seen in the table and in that label, and nowhere
  else;
* `stale_callSource` — there it is seen.
-/

namespace Statement

/-- A source that was replaced leaves nothing but the table behind. -/
theorem fromSource_fromSource (s : Statement) (v w : Source) :
    (s.fromSource v).fromSource w =
      { s.fromSource w with table := ((s.fromSource v).fromSource w).table } := by
  cases v <;> cases w <;> rfl

/-- The table is written only where no source was given. -/
theorem tokens_setTable {s : Statement} (h : s.source ≠ none) (table : String) :
    { s with table := table }.tokens = s.tokens := by
  obtain ⟨v, hv⟩ := Option.ne_none_iff_exists'.1 h
  cases s
  cases hv
  cases v <;> simp only [tokens, targetTokens]

theorem tokens_fromSource_fromSource (s : Statement) (v w : Source) :
    ((s.fromSource v).fromSource w).tokens = (s.fromSource w).tokens := by
  rw [fromSource_fromSource]
  exact tokens_setTable (by simp [fromSource]) _

theorem data_fromSource_fromSource (s : Statement) (v w : Source) :
    ((s.fromSource v).fromSource w).data = (s.fromSource w).data := by
  rw [fromSource_fromSource]
  rfl

/-- The table is the same if the last source names one, or if the first one names none or the table
    that was there before. -/
theorem table_fromSource_fromSource (s : Statement) (v w : Source) :
    ((s.fromSource v).fromSource w).table = (s.fromSource w).table ↔
      (∃ name, w = .table name) ∨ ∀ name, v = .table name → Text.trim name = s.table := by
  cases w with
  | table name => exact ⟨fun _ => .inl ⟨name, rfl⟩, fun _ => rfl⟩
  | raw f => cases v <;> simp [fromSource]
  | query q => cases v <;> simp [fromSource]

/-! ### Derived tables -/

/-- The text around a derived table does not depend on it. -/
theorem exists_tokens_fromSource_query (p : Statement)
    (h : ¬ (p.kind = some .insert ∨ p.kind = some .update)) :
    ∃ us vs, ∀ q, (p.fromSource (.query q)).tokens =
      us ++ fromTokens (some (.query q)) ++ vs := by
  have hclauses : ∀ ts parts, ts ≠ [] → ∀ q,
      clauses (ts :: fromTokens (some (.query q)) :: parts) =
        ts ++ [.word .space] ++ fromTokens (some (.query q)) ++ parts.flatMap Token.following := by
    intro ts parts hts q
    have hfrom : Token.following (fromTokens (some (.query q))) =
        .word .space :: fromTokens (some (.query q)) :=
      if_neg (by simpa using fromTokens_query_ne_nil q)
    rw [Token.clauses_cons hts, List.flatMap_cons, hfrom]
    simp
  have hselect : p.kind = none ∨ p.kind = some .select → ∃ us vs, ∀ q,
      (p.fromSource (.query q)).tokens = us ++ fromTokens (some (.query q)) ++ vs := by
    intro hkind
    have hparts := hclauses (selectTokens p)
      [spaced (p.joins.map Join.tokens), filterTokens .WHERE p.wheres,
        listedAfter .GROUP_BY (p.groups.map Column.tokens), filterTokens .HAVING p.havings,
        listedAfter .ORDER_BY (p.orders.map Order.tokens), boundTokens .LIMIT p.limit,
        boundTokens .OFFSET p.offset] (after_ne_nil _ _)
    exact ⟨_, _, fun q => (tokens_select (s := p.fromSource (.query q)) hkind).trans (hparts q)⟩
  match hkind : p.kind with
  | none => exact hselect (.inl hkind)
  | some .select => exact hselect (.inr hkind)
  | some .delete =>
    have hparts := hclauses [.word .DELETE] [filterTokens .WHERE p.wheres] (by simp)
    exact ⟨_, _, fun q => (tokens_delete (s := p.fromSource (.query q)) hkind).trans (hparts q)⟩
  | some .insert => exact absurd (.inl hkind) h
  | some .update => exact absurd (.inr hkind) h

theorem flatMap_binds_fromTokens_query (q : Statement) :
    (fromTokens (some (.query q))).flatMap Token.binds = q.tokens.flatMap Token.binds := by
  rw [fromTokens, flatMap_after Token.binds_word]
  exact Source.binds_tokens (.query q)

/-- The text around a derived table, with the table in it. -/
theorem render_fromSource_query {p q : Statement} {d : Dialect} {us vs : List Token}
    (h : ∀ q, (p.fromSource (.query q)).tokens = us ++ fromTokens (some (.query q)) ++ vs) :
    Token.render d 0 (p.fromSource (.query q)).tokens =
      Token.render d 0 us ++ "FROM ( " ++
        Token.render d (us.flatMap Token.binds).length q.tokens ++ " )" ++ d.labelText q.label? ++
        Token.render d
          ((us.flatMap Token.binds).length + (q.tokens.flatMap Token.binds).length) vs := by
  rw [h, Token.render_append, Token.render_append, Token.render_fromTokens_query,
    List.flatMap_append, flatMap_binds_fromTokens_query, List.length_append]
  simp only [Nat.zero_add, ← String.append_assoc]

/-- As the source of `p` two statements are refused alike, or have the same text up to the label
    behind the parentheses. -/
def DerivedAlike (d : Dialect) (p t u : Statement) : Prop :=
  (∃ m, (p.fromSource (.query t)).compile d = .error m ∧
    (p.fromSource (.query u)).compile d = .error m) ∨
  ∃ front inner back,
    (p.fromSource (.query t)).compile d =
      .ok (front ++ "FROM ( " ++ inner ++ " )" ++ d.labelText t.label? ++ back) ∧
    (p.fromSource (.query u)).compile d =
      .ok (front ++ "FROM ( " ++ inner ++ " )" ++ d.labelText u.label? ++ back)

theorem derivedAlike_of_tokens_eq {t u : Statement} (h : t.tokens = u.tokens) (d : Dialect)
    (p : Statement) : p.DerivedAlike d t u := by
  by_cases hkind : p.kind = some .insert ∨ p.kind = some .update
  · -- A derived table cannot be written to.
    have hrefused : ∀ q, (p.fromSource (.query q)).compile d = .error .queryTarget := by
      intro q
      refine if_pos (by_contra fun hno => ?_)
      exact queryTarget_not_mem (s := p.fromSource (.query q)) hkind hno List.mem_cons_self
    exact .inl ⟨_, hrefused t, hrefused u⟩
  · obtain ⟨us, vs, htokens⟩ := p.exists_tokens_fromSource_query hkind
    -- The label has no part in whether there is a text.
    have hgap : ∀ q, Token.queryTarget ∈ (p.fromSource (.query q)).tokens ↔
        Token.queryTarget ∈ us ∨ Token.queryTarget ∈ q.tokens ∨ Token.queryTarget ∈ vs := by
      intro q
      have hlabel : Token.queryTarget ∉ labelTokens q.label? := by
        cases q.label? <;> simp [labelTokens]
      simp [htokens, fromTokens, Source.tokens, after, enclosed, hlabel]
    by_cases hrefused : Token.queryTarget ∈ (p.fromSource (.query t)).tokens
    · have hrefused' : Token.queryTarget ∈ (p.fromSource (.query u)).tokens := by
        rwa [hgap, ← h, ← hgap]
      exact .inl ⟨_, if_pos hrefused, if_pos hrefused'⟩
    · have hrefused' : Token.queryTarget ∉ (p.fromSource (.query u)).tokens := by
        rwa [hgap, ← h, ← hgap]
      refine .inr ⟨Token.render d 0 us,
        Token.render d (us.flatMap Token.binds).length t.tokens,
        Token.render d ((us.flatMap Token.binds).length + (t.tokens.flatMap Token.binds).length) vs,
        (if_neg hrefused).trans (congrArg _ ?_), (if_neg hrefused').trans (congrArg _ ?_)⟩
      · rw [render_fromSource_query htokens]
      · rw [render_fromSource_query htokens, h]

end Statement

open Statement

/-- **Redirection.**  A source that is given to a statement takes the place of the one before: but
    for the table, the statement is as if the first source had not been given.  It has the same
    text in every dialect and the same values.  The table is another one exactly if the first source
    names a table that the statement did not have, and the last one names none.  As the source of a
    third statement it has the same values, and the same text up to the label that the table
    gives. -/
theorem redirection (s : Statement) (v w : Source) :
    let t := (s.fromSource v).fromSource w
    let u := s.fromSource w
    t = { u with table := t.table } ∧ (∀ d, t.compile d = u.compile d) ∧ t.data = u.data ∧
      (t.table = u.table ↔
        (∃ name, w = .table name) ∨ ∀ name, v = .table name → Text.trim name = s.table) ∧
      ∀ p : Statement, (∀ d, p.DerivedAlike d t u) ∧
        (p.fromSource (.query t)).data = (p.fromSource (.query u)).data := by
  intro t u
  have htokens : t.tokens = u.tokens := s.tokens_fromSource_fromSource v w
  have hdata : t.data = u.data := s.data_fromSource_fromSource v w
  refine ⟨s.fromSource_fromSource v w, fun d => ?_, hdata, s.table_fromSource_fromSource v w,
    fun p => ⟨fun d => derivedAlike_of_tokens_eq htokens d p, ?_⟩⟩
  · rw [compile, compile, htokens]
  · have hput : ∀ q, (p.fromSource (.query q)).data =
        (p.ledger.put .source q.data).ordered p.kind := fun _ => rfl
    rw [hput, hput, hdata]

/-- A source that is no table. -/
def callSource : Source := .raw ⟨"f()", []⟩

/-- A statement may still have the table that was replaced. -/
theorem stale_callSource :
    ((new.fromSource (.table "users")).fromSource callSource).table = "users" ∧
    (new.fromSource callSource).table = "" ∧
    (ofSource (.query ((new.fromSource (.table "users")).fromSource callSource))).compile .mysql =
      .ok "SELECT * FROM ( SELECT * FROM f() ) as `users`" ∧
    (ofSource (.query (new.fromSource callSource))).compile .mysql =
      .ok "SELECT * FROM ( SELECT * FROM f() )" :=
  ⟨by decide +kernel, rfl, by decide +kernel, by decide +kernel⟩

end SqlBuilder
