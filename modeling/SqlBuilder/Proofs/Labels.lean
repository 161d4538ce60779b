import SqlBuilder.Proofs.Bookkeeping
import SqlBuilder.Proofs.Parts
import SqlBuilder.Proofs.Rendering

namespace SqlBuilder

open Token (after enclosed listed spaced clauses listedAfter)

/-!
# Labels of derived tables

A sub-query that stands as the source of another statement is a derived table.  It carries a label
if it remembers a table name of its own, and it remembers only what was given to it by name: a
sub-query on top of a sub-query may have none.

* `Statement.ReadsFrom` — the sub-queries that a statement reads through, down to a table;
* `ReadsFrom.split_tokens` — each of them stands after `FROM`, with its label behind it;
* `Statement.Labelled`, `Statement.Unlabelled` — how it stands in the text;
* `table_runEdits` — the table name that a statement remembers after some calls;
* `labelling` — which of the sub-queries have a label;
* `unlabelled_nestedTwice` — a text in which one of them has none.
-/

/-- The sub-queries that a statement reads through, each in the one before, down to a table. -/
inductive Statement.ReadsFrom : Statement → List Statement → String → Prop
  | table {s : Statement} {name : String} : s.source = some (.table name) → ReadsFrom s [] name
  | query {s q : Statement} {qs : List Statement} {name : String} : s.source = some (.query q) →
      ReadsFrom q qs name → ReadsFrom s (q :: qs) name

/-! ### What stands behind a source -/

/-- The words that a clause behind the source starts with. -/
def Word.clauseStarts : List Word :=
  [.INNER_JOIN, .LEFT_JOIN, .WHERE, .GROUP_BY, .HAVING, .ORDER_BY, .LIMIT, .OFFSET]

/-- A clause is left out, or starts with its word. -/
def Token.IsClause (ts : List Token) : Prop :=
  ts = [] ∨ ∃ w us, w ∈ Word.clauseStarts ∧ ts = .word w :: us

/-- What can stand behind a source: nothing, another clause, or the end of a sub-query. -/
inductive Token.Behind : List Token → Prop
  | nil : Behind []
  | closing (ts : List Token) : Behind (.word .closing :: ts)
  | clause {w : Word} (ts : List Token) : w ∈ Word.clauseStarts →
      Behind (.word .space :: .word w :: ts)

namespace Token

/-- The end of a sub-query may follow. -/
theorem Behind.append_closing {ts : List Token} (h : Behind ts) (us : List Token) :
    Behind (ts ++ .word .closing :: us) := by
  cases h with
  | nil => exact .closing us
  | closing ts => exact .closing _
  | clause ts hw => exact .clause _ hw

/-- Behind two clauses that are there stands nothing or another clause. -/
theorem exists_clauses_eq {ts us : List Token} {parts : List (List Token)} (hts : ts ≠ [])
    (hus : us ≠ []) (hparts : ∀ p ∈ parts, IsClause p) :
    ∃ vs, clauses (ts :: us :: parts) = ts ++ .word .space :: us ++ vs ∧ Behind vs := by
  refine ⟨(parts.filter (!·.isEmpty)).flatMap (.word .space :: ·), ?_, ?_⟩
  · have hboth : (ts :: us :: parts).filter (!·.isEmpty) =
        ts :: us :: parts.filter (!·.isEmpty) := by
      simp [hts, hus]
    rw [clauses, hboth, spaced_cons]
    simp
  · cases hfilter : parts.filter (!·.isEmpty) with
    | nil => exact .nil
    | cons p ps =>
      have hp : p ∈ parts.filter (!·.isEmpty) := by simp [hfilter]
      obtain ⟨hmem, hne⟩ := List.mem_filter.1 hp
      rcases hparts p hmem with rfl | ⟨w, vs, hw, rfl⟩
      · simp at hne
      · exact .clause _ hw

end Token

open Token (IsClause Behind)

theorem isClause_joins (js : List Join) : IsClause (spaced (js.map Join.tokens)) := by
  cases js with
  | nil => exact .inl rfl
  | cons j js =>
    obtain ⟨kind, table, conditions⟩ := j
    have hw : kind.word ∈ Word.clauseStarts := by cases kind <;> decide
    rw [List.map_cons, Token.spaced_cons, Join.tokens, after]
    exact .inr ⟨kind.word, _, hw, rfl⟩

/-- A filter or a list is left out, or stands behind its word. -/
theorem isClause_ite_after {w : Word} (hw : w ∈ Word.clauseStarts) (absent : Bool)
    (ts : List Token) : IsClause (if absent then [] else after w ts) := by
  cases absent with
  | true => exact .inl rfl
  | false => exact .inr ⟨w, _, hw, rfl⟩

theorem isClause_boundTokens {w : Word} (hw : w ∈ Word.clauseStarts) (o : Option Value) :
    IsClause (boundTokens w o) := by
  cases o with
  | none => exact .inl rfl
  | some v => exact .inr ⟨w, _, hw, rfl⟩

namespace Statement

variable {s q : Statement} {qs : List Statement} {name : String}

theorem fromTokens_query_ne_nil (q : Statement) : fromTokens (some (.query q)) ≠ [] := by
  simp [fromTokens, after]

/-- Behind the source of a query, other clauses may follow. -/
theorem split_tokens_select (h : s.kind = none ∨ s.kind = some .select)
    (hs : s.source = some (.query q)) :
    ∃ us vs, s.tokens = us ++ fromTokens (some (.query q)) ++ vs ∧ Behind vs := by
  have hcolumns : selectTokens s ≠ [] := by simp [selectTokens, after]
  have hparts : ∀ p ∈ [spaced (s.joins.map Join.tokens), filterTokens .WHERE s.wheres,
      listedAfter .GROUP_BY (s.groups.map Column.tokens), filterTokens .HAVING s.havings,
      listedAfter .ORDER_BY (s.orders.map Order.tokens), boundTokens .LIMIT s.limit,
      boundTokens .OFFSET s.offset], IsClause p := by
    simp only [List.forall_mem_cons]
    exact ⟨isClause_joins _, isClause_ite_after (by decide) _ _,
      isClause_ite_after (by decide) _ _, isClause_ite_after (by decide) _ _,
      isClause_ite_after (by decide) _ _, isClause_boundTokens (by decide) _,
      isClause_boundTokens (by decide) _, List.forall_mem_nil _⟩
  obtain ⟨vs, htokens, hvs⟩ :=
    Token.exists_clauses_eq hcolumns (fromTokens_query_ne_nil q) hparts
  refine ⟨selectTokens s ++ [.word .space], vs, ?_, hvs⟩
  rw [tokens_select h, hs, htokens]
  simp

/-- Behind the source of a deletion, only the filter may follow. -/
theorem split_tokens_delete (h : s.kind = some .delete) (hs : s.source = some (.query q)) :
    ∃ us vs, s.tokens = us ++ fromTokens (some (.query q)) ++ vs ∧ Behind vs := by
  have hverb : [Token.word .DELETE] ≠ [] := by simp
  have hparts : ∀ p ∈ [filterTokens .WHERE s.wheres], IsClause p :=
    List.forall_mem_singleton.2 (isClause_ite_after (by decide) _ _)
  obtain ⟨vs, htokens, hvs⟩ := Token.exists_clauses_eq hverb (fromTokens_query_ne_nil q) hparts
  refine ⟨[.word .DELETE, .word .space], vs, ?_, hvs⟩
  rw [tokens_delete h, hs, htokens]
  simp

/-- A derived table stands after `FROM`, and other clauses may follow. -/
theorem split_tokens (hs : s.source = some (.query q)) (htarget : Token.queryTarget ∉ s.tokens) :
    ∃ us vs, s.tokens = us ++ fromTokens (some (.query q)) ++ vs ∧ Behind vs := by
  -- As a table to write to the sub-query would have no text.
  have hreads : ¬ (s.kind = some .insert ∨ s.kind = some .update) := by
    intro hwrites
    have hleaf : .query q ∈ s.leaves .source := by simp [leaves, hs, Source.leaf]
    exact source_leaf_ne_query (queryTarget_not_mem hwrites htarget) hleaf
  cases hkind : s.kind with
  | none => exact split_tokens_select (.inl hkind) hs
  | some k =>
    cases k with
    | select => exact split_tokens_select (.inr hkind) hs
    | delete => exact split_tokens_delete hkind hs
    | insert => exact absurd (.inl hkind) hreads
    | update => exact absurd (.inr hkind) hreads

/-- A derived table has a text where the statement around it has one. -/
theorem queryTarget_not_mem_source {us vs : List Token}
    (htokens : s.tokens = us ++ fromTokens (some (.query q)) ++ vs)
    (htarget : Token.queryTarget ∉ s.tokens) : Token.queryTarget ∉ q.tokens := by
  have hsource : enclosed q.tokens <:+: (Source.query q).tokens := Source.infix_tokens rfl
  have hfrom : fromTokens (some (.query q)) <:+: s.tokens := ⟨us, vs, htokens.symm⟩
  exact queryTarget_not_mem_query (hsource.trans ((infix_after _ _).trans hfrom)) htarget

/-- Every sub-query that a statement reads through stands after a `FROM` of its own. -/
theorem ReadsFrom.split_tokens (h : s.ReadsFrom qs name) (htarget : Token.queryTarget ∉ s.tokens)
    (hq : q ∈ qs) :
    ∃ us vs, s.tokens = us ++ fromTokens (some (.query q)) ++ vs ∧ Behind vs := by
  induction h with
  | table => cases hq
  | @query s r qs name hs _ ih =>
    obtain ⟨us, vs, htokens, hvs⟩ := Statement.split_tokens hs htarget
    rcases List.mem_cons.1 hq with rfl | hq
    · exact ⟨us, vs, htokens, hvs⟩
    · have hinner := queryTarget_not_mem_source htokens htarget
      obtain ⟨us', vs', htokens', hvs'⟩ := ih hinner hq
      -- Behind the inner source the parentheses of the outer one are closed.
      refine ⟨us ++ [.word .FROM, .word .space, .word .opening] ++ us',
        vs' ++ .word .closing :: (labelTokens r.label? ++ vs), ?_, hvs'.append_closing _⟩
      rw [htokens]
      simp [fromTokens, Source.tokens, after, enclosed, htokens']

end Statement

/-! ### The text of a derived table -/

/-- What stands behind the parentheses of a derived table. -/
def Dialect.labelText (d : Dialect) : Option String → String
  | none => ""
  | some label => " as " ++ d.quote label

namespace Token

variable (d : Dialect) (n : Nat)

theorem render_labelTokens (o : Option String) : render d n (labelTokens o) = d.labelText o := by
  cases o with
  | none => rfl
  | some label =>
    have hquote : render d n [.identifier label] = d.quote label := by
      simp [render, allPieces, pieces, Piece.renderAll, Piece.render]
    rw [labelTokens, render_word_cons, render_word_cons, render_word_cons, hquote,
      Dialect.labelText, ← String.append_assoc, ← String.append_assoc]
    rfl

/-- The parentheses of a derived table stand around its text, and its label behind them. -/
theorem render_fromTokens_query (q : Statement) :
    render d n (fromTokens (some (.query q))) =
      "FROM ( " ++ render d n q.tokens ++ " )" ++ d.labelText q.label? := by
  rw [fromTokens, Source.tokens, after, render_word_cons, render_word_cons, render_append,
    render_enclosed, render_labelTokens]
  simp only [← String.append_assoc]
  rfl

/-- What stands behind a source is no label. -/
theorem Behind.not_label {ts : List Token} (h : Behind ts) :
    ¬ " as ".toList <+: (render d n ts).toList := by
  intro hlabel
  cases h with
  | nil => simp [render, allPieces, Piece.renderAll] at hlabel
  | closing ts =>
    rw [render_word_cons, String.toList_append] at hlabel
    simp [Word.text] at hlabel
  | @clause w ts hw =>
    rw [render_word_cons, render_word_cons, String.toList_append, String.toList_append] at hlabel
    simp only [Word.clauseStarts, List.mem_cons, List.not_mem_nil, or_false] at hw
    rcases hw with rfl | rfl | rfl | rfl | rfl | rfl | rfl | rfl <;>
      simp [Word.text] at hlabel

end Token

namespace Statement

/-- A derived table that carries a label in a text. -/
def Labelled (q : Statement) (d : Dialect) (text label : String) : Prop :=
  ∃ front n inner m back, q.compileAt d n = .ok (inner, m) ∧
    text = front ++ "FROM ( " ++ inner ++ " ) as " ++ d.quote label ++ back

/-- A derived table that carries none. -/
def Unlabelled (q : Statement) (d : Dialect) (text : String) : Prop :=
  ∃ front n inner m back, q.compileAt d n = .ok (inner, m) ∧
    text = front ++ "FROM ( " ++ inner ++ " )" ++ back ∧ ¬ " as ".toList <+: back.toList

/-- Every sub-query that a statement reads through stands in the text with the label that it has. -/
theorem ReadsFrom.split_text {s q : Statement} {qs : List Statement} {name text : String}
    {d : Dialect} (h : s.ReadsFrom qs name) (htext : s.compile d = .ok text) (hq : q ∈ qs) :
    ∃ front n inner m back, q.compileAt d n = .ok (inner, m) ∧
      text = front ++ "FROM ( " ++ inner ++ " )" ++ d.labelText q.label? ++ back ∧
      ¬ " as ".toList <+: back.toList := by
  obtain ⟨htarget, rfl⟩ := compile_eq_ok htext
  obtain ⟨us, vs, htokens, hvs⟩ := h.split_tokens htarget hq
  have hqtarget := queryTarget_not_mem_source htokens htarget
  have hinner : ∀ n, q.compileAt d n = .ok (Token.render d n q.tokens, Token.counter n q.tokens) :=
    fun n => if_neg hqtarget
  have hsplit := Token.render_append d 0 (us ++ fromTokens (some (.query q))) vs
  rw [← htokens, Token.render_append, Token.render_fromTokens_query] at hsplit
  simp only [← String.append_assoc] at hsplit
  exact ⟨_, _, _, _, _, hinner _, hsplit, hvs.not_label d _⟩

theorem ReadsFrom.labelled {s q : Statement} {qs : List Statement} {name text label : String}
    {d : Dialect} (h : s.ReadsFrom qs name) (htext : s.compile d = .ok text) (hq : q ∈ qs)
    (hlabel : q.label? = some label) : q.Labelled d text label := by
  obtain ⟨front, n, inner, m, back, hinner, heq, _⟩ := h.split_text htext hq
  refine ⟨front, n, inner, m, back, hinner, ?_⟩
  have hend : " ) as " = " )" ++ " as " := rfl
  rw [heq, hlabel, Dialect.labelText, hend]
  simp only [String.append_assoc]

theorem ReadsFrom.unlabelled {s q : Statement} {qs : List Statement} {name text : String}
    {d : Dialect} (h : s.ReadsFrom qs name) (htext : s.compile d = .ok text) (hq : q ∈ qs)
    (hlabel : q.label? = none) : q.Unlabelled d text := by
  obtain ⟨front, n, inner, m, back, hinner, heq, hback⟩ := h.split_text htext hq
  rw [hlabel, Dialect.labelText, String.append_empty] at heq
  exact ⟨front, n, inner, m, back, hinner, heq, hback⟩

end Statement

/-! ### The table name that a statement remembers -/

namespace Statement

/-- A statement with a table as its source remembers the name of the table. -/
def Remembers (s : Statement) : Prop :=
  ∀ name, s.source = some (.table name) → s.table = Text.trim name

end Statement

/-- A statement with the source and the table name of another one remembers what that one does. -/
theorem Statement.Remembers.congr {s t : Statement} (h : s.Remembers)
    (hsource : t.source = s.source) (htable : t.table = s.table) : t.Remembers := by
  intro name hname
  rw [htable]
  exact h name (hsource ▸ hname)

/-- Every call keeps what a statement remembers in step with its source. -/
theorem invariant_remembers (P : Leaf → Prop) : Invariant P Statement.Remembers where
  new name h := by cases h
  scope _ name h := by cases h
  fromSource {s v} _ _ name h := by
    cases h
    rfl
  withDialect _ h := h.congr rfl rfl
  select ha h _ := by
    rw [Statement.select, if_pos ha]
    exact h.congr rfl rfl
  aggregate ha h _ := by
    rw [Statement.aggregate, if_pos ha]
    exact h.congr rfl rfl
  groupBy h _ := h.congr rfl rfl
  orderBy h _ ht := by
    obtain ⟨_, _, rfl⟩ := Statement.orderBy_eq_ok ht
    exact h.congr rfl rfl
  limitTo h _ := h.congr rfl rfl
  offsetBy h _ := h.congr rfl rfl
  startInsert _ h := h.congr rfl rfl
  addRow h _ ht := by
    obtain ⟨_, rfl⟩ := Statement.addRow_eq_ok ht
    exact h.congr rfl rfl
  skippingConflicts h := h.congr rfl rfl
  returningColumns h _ := h.congr rfl rfl
  update ha h _ := by
    rw [Statement.update, if_pos ha]
    exact h.congr rfl rfl
  delete {s} h := by
    rw [Statement.delete]
    split
    · exact h.congr rfl rfl
    · exact h
  addCondition f _ _ _ h _ := by
    cases f <;> exact h.congr rfl rfl
  addGroup f _ h _ := by
    rw [Statement.addGroup]
    split
    · exact h
    · cases f <;> exact h.congr rfl rfl
  addJoin _ h _ := h.congr rfl rfl

/-- The innermost sub-query that a statement reads through has the last word of the table as its
    label. -/
theorem Statement.ReadsFrom.label?_getLast {s q : Statement} {qs : List Statement} {name : String}
    (h : s.ReadsFrom qs name) (hs : s.Throughout Remembers) (hq : qs.getLast? = some q) :
    q.label? = (Text.words name).getLast? := by
  induction h with
  | table => cases hq
  | @query s r qs name hsource hr ih =>
    obtain ⟨_, hqueries⟩ := hs
    have hremembers : r.Throughout Remembers :=
      hqueries .source r (by simp [leaves, hsource, Source.leaf])
    cases hr with
    | query _ _ => exact ih hremembers (by simpa using hq)
    | table hsource =>
      obtain rfl : r = q := by simpa using hq
      obtain ⟨hname, _⟩ := hremembers
      rw [label?, hname name hsource, Text.words_trim]

namespace Edit

/-- The table name that a call gives. -/
def tableName? : Edit → Option String
  | .fromSource (.table name) => some name
  | _ => none

/-- Only a call that gives a table name changes the one that a statement remembers. -/
theorem table_run {e : Edit} {s t : Statement} (h : e.run s = .ok t) :
    t.table = (e.tableName?.map Text.trim).getD s.table := by
  by_cases hpart : e.part? = some .source
  · cases e with
    | fromSource v => cases v <;> cases h <;> rfl
    | compare f _ _ _ _ | compareRaw f _ _ | group f _ _ => cases f <;> cases hpart
    | _ => cases hpart
  · -- The table name is in the same part as the source.
    have htable : (t.only .source).table = (s.only .source).table := by
      rw [only_run_of_ne hpart h]
    cases e with
    | fromSource v => exact absurd rfl hpart
    | _ => exact htable

/-- A statement remembers the last table name that it was given. -/
theorem table_runEdits {es : List Edit} {s t : Statement} (h : runEdits es s = .ok t) :
    t.table = ((es.filterMap tableName?).getLast?.map Text.trim).getD s.table := by
  induction es generalizing s with
  | nil => cases h; rfl
  | cons e es ih =>
    obtain ⟨u, hu, h⟩ := bind_eq_ok h
    rw [ih h, table_run hu]
    cases hname : e.tableName? with
    | none => rw [List.filterMap_cons_none hname]; rfl
    | some name =>
      rw [List.filterMap_cons_some hname, List.getLast?_cons]
      cases (es.filterMap tableName?).getLast? <;> rfl

/-- So it has a label, unless it was given no table name or a blank one at last. -/
theorem label?_runEdits {es : List Edit} {t : Statement} (h : runEdits es .new = .ok t) :
    t.label? = (es.filterMap tableName?).getLast?.bind fun name => (Text.words name).getLast? := by
  rw [Statement.label?, table_runEdits h]
  cases (es.filterMap tableName?).getLast? with
  | none => rfl
  | some name =>
    have hwords : Text.words (Text.trim name) = Text.words name := Text.words_trim name
    exact congrArg List.getLast? hwords

end Edit

open Edit

/-- **Labelling.**  Take a statement that a script builds and that reads through sub-queries down to
    a table with a name.  In its text every one of these sub-queries stands between parentheses
    after `FROM`, with its label behind them, or with nothing if it has none.  The innermost one has
    the last word of the table as its label.  One that is made by calls has the last word of the
    last table name that they give, if there is any. -/
theorem labelling {script : Script} {s : Statement} {qs : List Statement} {name text : String}
    {d : Dialect} (hs : script.build = .ok s) (hchain : s.ReadsFrom qs name)
    (hname : Text.words name ≠ []) (htext : s.compile d = .ok text) :
    (∀ q ∈ qs, ∀ label, q.label? = some label → q.Labelled d text label) ∧
    (∀ q ∈ qs, q.label? = none → q.Unlabelled d text) ∧
    (∀ q, qs.getLast? = some q →
      ∃ label, (Text.words name).getLast? = some label ∧ q.Labelled d text label) ∧
    (∀ q ∈ qs, ∀ es, runEdits es .new = .ok q →
      q.label? = (es.filterMap tableName?).getLast?.bind fun given =>
        (Text.words given).getLast?) := by
  refine ⟨fun q hq label => hchain.labelled htext hq, fun q hq => hchain.unlabelled htext hq,
    fun q hq => ?_, fun q _ es => label?_runEdits⟩
  have hremembers := throughout_of_build (invariant_remembers _) hs
  have hlast := hchain.label?_getLast hremembers hq
  have hlabel := List.getLast?_eq_some_getLast hname
  exact ⟨_, hlabel, hchain.labelled htext (List.mem_of_getLast? hq) (hlast.trans hlabel)⟩

/-- A query of a table. -/
def userQuery : Statement := .ofSource (.table " user u ")

/-- A query on top of it, without a table name of its own. -/
def unnamedQuery : Statement := .ofSource (.query userQuery)

/-- A query on top of that, which was given a table name before. -/
def namedQuery : Statement := (Statement.ofSource (.table "a b")).fromSource (.query unnamedQuery)

/-- All of them, each as the source of the next one. -/
def layeredScript : Script :=
  [.table (.query
    [.table (.table "a b"),
     .fromSource (.query [.table (.query [.table (.table " user u ")])])])]

/-- The text of what the script builds. -/
def layeredText : String :=
  "SELECT * FROM ( SELECT * FROM ( SELECT * FROM ( SELECT * FROM `user` as `u` ) as `u` ) ) as `b`"

theorem labelling_layeredScript :
    ∃ s, layeredScript.build = .ok s ∧
      s.ReadsFrom [namedQuery, unnamedQuery, userQuery] " user u " ∧
      s.compile .mysql = .ok layeredText ∧
      namedQuery.Labelled .mysql layeredText "b" ∧ unnamedQuery.Unlabelled .mysql layeredText ∧
      userQuery.Labelled .mysql layeredText "u" := by
  have hbuild : layeredScript.build = .ok (.ofSource (.query namedQuery)) := rfl
  have hchain : Statement.ReadsFrom (.ofSource (.query namedQuery))
      [namedQuery, unnamedQuery, userQuery] " user u " :=
    .query rfl (.query rfl (.query rfl (.table rfl)))
  have hname : Text.words " user u " ≠ [] := by decide
  have htext : (Statement.ofSource (.query namedQuery)).compile .mysql = .ok layeredText := by
    decide +kernel
  obtain ⟨hlabelled, hunlabelled, hlast, hmade⟩ := labelling hbuild hchain hname htext
  have hnamed : namedQuery.label? = some "b" := hmade namedQuery (by simp)
    [.fromSource (.table "a b"), .fromSource (.query unnamedQuery)] rfl
  have hunnamed : unnamedQuery.label? = none := hmade unnamedQuery (by simp)
    [.fromSource (.query userQuery)] rfl
  obtain ⟨label, hlabel, huser⟩ := hlast userQuery rfl
  cases hlabel
  exact ⟨_, hbuild, hchain, htext, hlabelled namedQuery (by simp) _ hnamed,
    hunlabelled unnamedQuery (by simp) hunnamed, huser⟩

/-- A sub-query of a sub-query of a table. -/
def nestedTwice : Script := [.table (.query [.table (.query [.table (.table " user u ")])])]

/-- The text of what the script builds. -/
def nestedText : String :=
  "SELECT * FROM ( SELECT * FROM ( SELECT * FROM `user` as `u` ) as `u` )"

/-- Not every sub-query has a label, although the table has a name. -/
theorem unlabelled_nestedTwice :
    ∃ s, nestedTwice.build = .ok s ∧ s.ReadsFrom [unnamedQuery, userQuery] " user u " ∧
      Text.words " user u " ≠ [] ∧ s.compile .mysql = .ok nestedText ∧
      ∀ label, ¬ unnamedQuery.Labelled .mysql nestedText label := by
  have hbuild : nestedTwice.build = .ok (.ofSource (.query unnamedQuery)) := rfl
  have htext : (Statement.ofSource (.query unnamedQuery)).compile .mysql = .ok nestedText := rfl
  refine ⟨_, hbuild, .query rfl (.query rfl (.table rfl)), by decide, htext, ?_⟩
  rintro label ⟨front, n, inner, m, back, hinner, heq⟩
  have halone : unnamedQuery.compileAt .mysql n =
    .ok ("SELECT * FROM ( SELECT * FROM `user` as `u` ) as `u`", n) := rfl
  rw [halone] at hinner
  cases hinner
  have hchars := congrArg String.toList heq
  simp only [String.toList_append] at hchars
  -- Behind the sub-query there is no room for a label, unless `FROM` stood nearer to the start.
  have hfront : front.toList.length < 9 := by
    have hlength := congrArg List.length hchars
    simp [nestedText] at hlength
    omega
  have hstart : nestedText.toList[front.toList.length]? = some 'F' := by
    rw [hchars]
    simp
  have hnone : ∀ i < 9, nestedText.toList[i]? ≠ some 'F' := by decide
  exact hnone _ hfront hstart

end SqlBuilder
