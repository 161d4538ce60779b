import SqlBuilder.Proofs.Bookkeeping
import SqlBuilder.Proofs.Composition
import SqlBuilder.Proofs.Quoting

namespace SqlBuilder

open Identifier (segmentsOf segment dotted doubled quoteWith)
open Token (Closed)

/-!
# The dialects side by side

The three dialects write the same pieces but for casts, conflicts, the columns to return and the
character of the quotes.  Where a statement has none of these, one text gives the other two.

* `Token.Agrees` — the pieces of a token in one dialect are those in another, mapped;
* `agrees_sqlite_path`, `agrees_mysql_path`, … — the tokens that a dialect could write differently;
* `Statement.Castless`, `Statement.Quoteless` — what a statement must do without;
* `Regular.of_within` — what goes up from the sub-queries to each statement, the outermost has;
* `agreement` — the three texts.
-/

/-! ### Backquotes for double quotes -/

namespace Text

/-- A backquote for a double quote. -/
def backquote (c : Char) : Char := if c = '"' then '`' else c

/-- The text with every double quote replaced by a backquote. -/
def backquoted (s : String) : String := String.ofList (s.toList.map backquote)

/-- Neither of the two quote characters stands in the text. -/
def Quoteless (s : String) : Prop := '"' ∉ s.toList ∧ '`' ∉ s.toList

instance (s : String) : Decidable (Quoteless s) := inferInstanceAs (Decidable (_ ∧ _))

theorem Quoteless.of_infix {s t : String} (h : Quoteless s) (ht : t.toList <:+: s.toList) :
    Quoteless t :=
  ⟨fun hc => h.1 (ht.subset hc), fun hc => h.2 (ht.subset hc)⟩

theorem map_backquote_eq_self {cs : List Char} (h : '"' ∉ cs) : cs.map backquote = cs := by
  have hchar : ∀ c ∈ cs, backquote c = id c := by
    intro c hc
    have hne : c ≠ '"' := by
      rintro rfl
      exact h hc
    exact if_neg hne
  rw [List.map_congr_left hchar, List.map_id]

theorem Quoteless.backquoted_eq {s : String} (h : Quoteless s) : backquoted s = s := by
  rw [backquoted, map_backquote_eq_self h.1, String.ofList_toList]

end Text

namespace Identifier

theorem doubled_eq_self {q : Char} {cs : List Char} (h : q ∉ cs) : doubled q cs = cs := by
  induction cs with
  | nil => rfl
  | cons c cs ih =>
    obtain ⟨hc, hcs⟩ := not_or.1 (List.mem_cons.not.1 h)
    rw [doubled, if_neg (Ne.symm hc), ih hcs]

/-- An identifier without quotes in it differs in the quotes around it. -/
theorem quoteWith_backquote {s : String} (h : Text.Quoteless s) :
    quoteWith '`' s = Text.backquoted (quoteWith '"' s) := by
  rw [quoteWith, quoteWith, doubled_eq_self h.1, doubled_eq_self h.2, Text.backquoted,
    String.toList_ofList, List.map_append, List.map_cons, Text.map_backquote_eq_self h.1]
  rfl

/-- And so does a path. -/
theorem dotted_backquote {s : String} (h : Text.Quoteless s) :
    dotted (quoteWith '`') s = Text.backquoted (dotted (quoteWith '"') s) := by
  have hsegment : ∀ part ∈ segmentsOf s.toList,
      segment (quoteWith '`') part = (segment (quoteWith '"') part).map Text.backquote := by
    intro part hpart
    -- A part is made into a text of its own, and there are no quotes in it either.
    have hinfix : part <:+: s.toList := by
      rw [← intercalate_segmentsOf s.toList]
      exact infix_intercalate hpart
    rw [segment, segment]
    split
    · rename_i hstar
      rw [hstar]
      rfl
    · rw [quoteWith_backquote (h.of_infix (by rwa [String.toList_ofList])), Text.backquoted,
        String.toList_ofList]
  rw [dotted, dotted, Text.backquoted, String.toList_ofList, map_intercalate_eq, List.map_map,
    List.map_congr_left hsegment]
  rfl

end Identifier

/-! ### Tokens that agree -/

namespace Piece

/-- The piece with a backquote for every double quote. -/
def backquoted : Piece → Piece
  | text s => text (Text.backquoted s)
  | place n => place n

/-- The places of MySQL and SQLite are the same. -/
theorem renderAll_map_backquoted (ps : List Piece) :
    renderAll .mysql (ps.map backquoted) = Text.backquoted (renderAll .sqlite ps) := by
  have hpiece : ∀ p : Piece, (p.backquoted.render .mysql).toList =
      (p.render .sqlite).toList.map Text.backquote := by
    intro p
    cases p with
    | text s => exact String.toList_ofList
    | place n => exact (by decide : "?".toList = "?".toList.map Text.backquote)
  simp only [renderAll, Text.backquoted, String.toList_ofList, List.flatMap_map, hpiece,
    List.map_flatMap]

end Piece

/-- No dialect writes a place as nothing. -/
theorem Driver.placeholder_ne_empty (d : Driver) (k : Nat) : d.dialect.placeholder k ≠ "" := by
  cases d <;> simp [dialect, Dialect.mysql, Dialect.postgres, Dialect.sqlite]

/-- A fragment without double quotes has none in its pieces. -/
theorem Fragment.backquoted_of_mem_splice {cs : List Char} (h : '"' ∉ cs) (n left : Nat) :
    ∀ p ∈ (splice cs n left).1, p.backquoted = p := by
  induction cs generalizing n left with
  | nil => exact List.forall_mem_nil _
  | cons c cs ih =>
    obtain ⟨hc, hcs⟩ := not_or.1 (List.mem_cons.not.1 h)
    have htext : (Piece.text (String.singleton c)).backquoted = .text (String.singleton c) := by
      rw [Piece.backquoted, Text.backquoted, String.toList_singleton,
        Text.map_backquote_eq_self (by simpa using hc)]
      rfl
    cases left with
    | zero => simpa [splice] using ⟨htext, ih hcs n 0⟩
    | succ left =>
      -- A question mark that takes a number is no text.
      by_cases hmark : c = '?'
      · subst hmark
        simpa [splice] using ⟨rfl, ih hcs (n + 1) left⟩
      · simpa [splice, hmark] using ⟨htext, ih hcs n (left + 1)⟩

namespace Token

variable {f : Piece → Piece} {d d' : Dialect}

/-- The pieces of the token in `d'` are those in `d`, mapped. -/
def Agrees (f : Piece → Piece) (d d' : Dialect) (t : Token) : Prop :=
  ∀ n, t.pieces d' n = (t.pieces d n).map f

/-- Tokens that agree one by one agree as a list. -/
theorem allPieces_agree {ts : List Token} (h : ∀ t ∈ ts, t.Agrees f d d') (n : Nat) :
    allPieces d' n ts = (allPieces d n ts).map f := by
  induction ts generalizing n with
  | nil => rfl
  | cons t ts ih =>
    obtain ⟨ht, hts⟩ := List.forall_mem_cons.1 h
    rw [allPieces, allPieces, List.map_append, ht n, ih hts]

/-- A fragment has the same pieces everywhere, so it agrees if they are mapped to themselves. -/
theorem agrees_fragment {x : Fragment} (h : ∀ n, ∀ p ∈ x.pieces n, f p = p) :
    (fragment x).Agrees f d d' := by
  intro n
  show x.pieces n = (x.pieces n).map f
  rw [List.map_congr_left (h n), List.map_id']

theorem agrees_spacedFragment {x : Fragment} (hd : ∀ k, d.placeholder k ≠ "")
    (hd' : ∀ k, d'.placeholder k ≠ "") (hspace : f (.text " ") = .text " ")
    (h : ∀ n, ∀ p ∈ x.pieces n, f p = p) : (spacedFragment x).Agrees f d d' := by
  intro n
  rw [pieces, pieces, Piece.isEmpty_renderAll hd' hd]
  split
  · rfl
  · rw [List.map_cons, hspace, List.map_congr_left (h n), List.map_id']

/-- SQLite writes a name without a cast as PostgreSQL does. -/
theorem wrapName_sqlite {s : String} (h : Driver.postgres.CastFree s) :
    Dialect.sqlite.wrapName s = Dialect.postgres.wrapName s :=
  h.wrapName_eq.symm

theorem agrees_sqlite_path {s : String} (h : Driver.postgres.CastFree s) :
    (path s).Agrees id .postgres .sqlite := by
  intro n
  show [Piece.text (Dialect.sqlite.wrapName s)] = [Piece.text (Dialect.postgres.wrapName s)]
  rw [wrapName_sqlite h]

theorem agrees_sqlite_returning {columns : List String}
    (h : ∀ c ∈ columns, Driver.postgres.CastFree c) :
    (returning columns).Agrees id .postgres .sqlite := by
  intro n
  have hnames : columns.map (fun c => Piece.text (Dialect.sqlite.wrapName c)) =
      columns.map fun c => Piece.text (Dialect.postgres.wrapName c) :=
    List.map_congr_left fun c hc => by rw [wrapName_sqlite (h c hc)]
  rw [List.map_id, pieces, pieces, hnames]
  rfl

/-- The library itself writes no quotes. -/
theorem agrees_mysql_word (w : Word) : (word w).Agrees Piece.backquoted .sqlite .mysql := by
  -- Three words carry an operator, a direction or a function, and are written as it is.
  have hquoteless : Text.Quoteless w.text := by
    cases w with
    | operator o => cases o <;> decide
    | direction d => cases d <;> decide
    | function f => cases f <;> decide
    | _ => decide
  intro n
  show [Piece.text w.text] = [Piece.text (Text.backquoted w.text)]
  rw [hquoteless.backquoted_eq]

theorem agrees_mysql_path {s : String} (h : Text.Quoteless s) :
    (path s).Agrees Piece.backquoted .sqlite .mysql := by
  intro n
  show [Piece.text (dotted (quoteWith '`') s)] =
    [Piece.text (Text.backquoted (dotted (quoteWith '"') s))]
  rw [Identifier.dotted_backquote h]

theorem agrees_mysql_identifier {s : String} (h : Text.Quoteless s) :
    (identifier s).Agrees Piece.backquoted .sqlite .mysql := by
  intro n
  show [Piece.text (quoteWith '`' s)] = [Piece.text (Text.backquoted (quoteWith '"' s))]
  rw [Identifier.quoteWith_backquote h]

theorem agrees_mysql_insertVerb : (insertVerb false).Agrees Piece.backquoted .sqlite .mysql := by
  intro n
  show followed "INSERT" = (followed "INSERT").map Piece.backquoted
  decide

end Token

/-! ### What a statement must do without -/

/-- Neither a name nor a fragment has one of the two quote characters. -/
def Leaf.Quoteless : Leaf → Prop
  | .name s => Text.Quoteless s
  | .fragment f => Text.Quoteless f.text
  | .bind _ | .query _ => True

namespace Statement

/-- No name is written with a cast in PostgreSQL, and an insertion does not pass over conflicts. -/
structure Castless (s : Statement) : Prop where
  names : s.NamesHave Driver.postgres.CastFree
  leaves : ∀ e name, .name name ∈ s.leaves e → Driver.postgres.CastFree name
  conflicts : s.kind = some .insert → s.skipConflicts = false

/-- No name, label or fragment has one of the two quote characters, and an insertion returns
    nothing. -/
structure Quoteless (s : Statement) : Prop where
  names : s.NamesHave Text.Quoteless
  leaves : s.LeavesHave Leaf.Quoteless
  labels : ∀ a ∈ s.aggregates, Text.Quoteless a.label
  returning : s.kind = some .insert → s.returning = []

variable {s : Statement}

/-- What goes up from the sub-queries to each statement within `s`, `s` has. -/
theorem Regular.of_within {C I : Statement → Prop} (hs : s.Regular)
    (hstep : ∀ t, C t → (∀ e q, .query q ∈ t.leaves e → C q ∧ I q) → I t)
    (hC : ∀ t, t.Within s → C t) : I s := by
  -- Regularity reaches into the sub-queries of every clause, so the induction is on it.
  induction hs with
  | @intro s _ _ _ ih =>
    refine hstep s (hC s (.refl s)) fun e q hq => ?_
    have hwithin : ∀ t : Statement, t.Within q → t.Within s := fun t ht => .query e hq ht
    exact ⟨hC q (hwithin q (.refl q)), ih e q hq fun t ht => hC t (hwithin t ht)⟩

/-- Every token of a statement has `Q`, if `Q` is known of the tokens of its leaves, of its labels
    and of an insertion.  A name may be cut into parts before it is written. -/
theorem forall_mem_tokens {Q : Token → Prop} {N : String → Prop}
    (hpart : ∀ {name t : String}, N name → t.toList <:+: name.toList → N t)
    (hword : ∀ w, Q (.word w)) (hplace : ∀ b, Q (.place b)) (htarget : Q .queryTarget)
    (hpath : ∀ name, N name → Q (.path name)) (hidentifier : ∀ name, N name → Q (.identifier name))
    (hnames : s.NamesHave N) (hleaves : ∀ e name, .name name ∈ s.leaves e → N name)
    (hfragments : ∀ e f, .fragment f ∈ s.leaves e → Q (.fragment f) ∧ Q (.spacedFragment f))
    (hqueries : ∀ e q, .query q ∈ s.leaves e →
      (∀ t ∈ q.tokens, Q t) ∧ ∀ label, q.label? = some label → Q (.identifier label))
    (hlabels : ∀ a ∈ s.aggregates, Q (.identifier a.label))
    (hinsert : s.kind = some .insert → Q (.insertVerb s.skipConflicts) ∧
      Q (.onConflict s.skipConflicts) ∧ Q (.returning s.returning)) :
    ∀ t ∈ s.tokens, Q t := by
  have hclosed : Closed fun ts => ∀ t ∈ ts, Q t := Token.closed_forall hword
  have hone : ∀ {t}, Q t → ∀ u ∈ [t], Q u := List.forall_mem_singleton.2
  have hname : ∀ name, N name → ∀ t ∈ nameTokens name, Q t := fun name h =>
    hclosed.nameTokens (fun t ht => hone (hpath t (hpart h ht)))
      fun t ht => hone (hidentifier t (hpart h ht))
  refine s.fits hclosed (fun e x hx => ?_) (fun a ha => hone (hlabels a ha))
    (hname _ hnames.table) (fun c hc => hone (hpath c (hnames.rowColumns c hc))) (hone htarget)
    fun hkind ts hts => ?_
  · cases x with
    | name name =>
      have h : N name := hleaves e name hx
      exact ⟨hname name h, hone (hpath name h)⟩
    | fragment f => exact (hfragments e f hx).imp hone hone
    | bind b => exact hone (hplace b)
    | query q => exact (hqueries e q hx).imp id fun h label hlabel => hone (h label hlabel)
  · obtain ⟨hverb, hconflict, hreturning⟩ := hinsert hkind
    rw [List.cons_append]
    exact List.forall_mem_cons.2 ⟨hverb, List.forall_mem_append.2
      ⟨hts, List.forall_mem_cons.2 ⟨hconflict, hone hreturning⟩⟩⟩

/-- The tokens of a statement that does without casts agree in PostgreSQL and SQLite, if those of
    its sub-queries do. -/
theorem Castless.agrees (h : s.Castless)
    (hqueries : ∀ e q, .query q ∈ s.leaves e → ∀ t ∈ q.tokens, t.Agrees id .postgres .sqlite) :
    ∀ t ∈ s.tokens, t.Agrees id .postgres .sqlite := by
  refine forall_mem_tokens Driver.CastFree.of_infix (fun w n => rfl) (fun b n => rfl) (fun n => rfl)
    (fun name hname => Token.agrees_sqlite_path hname) (fun name _ n => rfl) h.names h.leaves
    (fun e f _ => ?_) (fun e q hq => ⟨hqueries e q hq, fun label _ n => rfl⟩) (fun a _ n => rfl)
    fun hkind => ?_
  · have hplace := Driver.placeholder_ne_empty
    exact ⟨Token.agrees_fragment fun _ _ _ => rfl,
      Token.agrees_spacedFragment (hplace .postgres) (hplace .sqlite) rfl fun _ _ _ => rfl⟩
  · rw [h.conflicts hkind]
    exact ⟨fun n => rfl, fun n => rfl, Token.agrees_sqlite_returning h.names.returning⟩

/-- The tokens of a statement that does without quotes as well agree in SQLite and MySQL, if those
    of its sub-queries do. -/
theorem Quoteless.agrees (h : s.Quoteless) (hcast : s.Castless)
    (hqueries : ∀ e q, .query q ∈ s.leaves e →
      q.Quoteless ∧ ∀ t ∈ q.tokens, t.Agrees Piece.backquoted .sqlite .mysql) :
    ∀ t ∈ s.tokens, t.Agrees Piece.backquoted .sqlite .mysql := by
  refine forall_mem_tokens Text.Quoteless.of_infix Token.agrees_mysql_word (fun b n => rfl)
    (fun n => rfl) (fun name hname => Token.agrees_mysql_path hname)
    (fun name hname => Token.agrees_mysql_identifier hname) h.names
    (fun e name hname => h.leaves e _ hname) (fun e f hf => ?_) (fun e q hq => ?_)
    (fun a ha => Token.agrees_mysql_identifier (h.labels a ha)) fun hkind => ?_
  · have hquoteless : Text.Quoteless f.text := h.leaves e _ hf
    have hplace := Driver.placeholder_ne_empty
    have hpieces : ∀ n, ∀ p ∈ f.pieces n, p.backquoted = p := fun n =>
      Fragment.backquoted_of_mem_splice hquoteless.1 n _
    exact ⟨Token.agrees_fragment hpieces,
      Token.agrees_spacedFragment (hplace .sqlite) (hplace .mysql) (by decide) hpieces⟩
  · obtain ⟨hquoteless, htokens⟩ := hqueries e q hq
    refine ⟨htokens, fun label hlabel => Token.agrees_mysql_identifier ?_⟩
    -- The label of a sub-query is a word of its table.
    exact hquoteless.names.table.of_infix (Text.infix_of_mem_words (List.mem_of_getLast? hlabel))
  · -- The verbs that pass over conflicts differ, and MySQL returns no columns.
    rw [hcast.conflicts hkind, h.returning hkind]
    exact ⟨Token.agrees_mysql_insertVerb, fun n => rfl, fun n => rfl⟩

/-- Whether there is a text is settled by the tokens, and these know no dialect. -/
theorem compile_eq_error_iff (s : Statement) (d : Dialect) (m : Misuse) :
    s.compile d = .error m ↔ Token.queryTarget ∈ s.tokens ∧ m = .queryTarget := by
  rw [compile]
  split
  · simp [*, eq_comm]
  · simp [*]

/-- The pieces of the text of a statement. -/
def pieces (d : Dialect) (s : Statement) : List Piece := Token.allPieces d 0 s.tokens

end Statement

/-- **Agreement.**  Whether a statement has a text does not depend on the dialect.  Without casts in
    names and without insertions that pass over conflicts, at any depth, SQLite has the text of
    PostgreSQL with its own sign for each place.  Without quotes in names, labels and fragments and
    without columns to return as well, MySQL has the text of SQLite with backquotes. -/
theorem agreement {s : Statement} (hs : s.Reachable) :
    (∀ (d d' : Dialect) (m : Misuse), s.compile d = .error m ↔ s.compile d' = .error m) ∧
    ((∀ t : Statement, t.Within s → t.Castless) →
      (∀ text, s.compile .postgres = .ok text →
        text = Piece.renderAll .postgres (s.pieces .postgres) ∧
        s.compile .sqlite = .ok (Piece.renderAll .sqlite (s.pieces .postgres))) ∧
      ((∀ t : Statement, t.Within s → t.Quoteless) →
        s.compile .mysql = (s.compile .sqlite).map Text.backquoted)) := by
  refine ⟨fun d d' m => (s.compile_eq_error_iff d m).trans (s.compile_eq_error_iff d' m).symm,
    fun hcast => ⟨fun text htext => ?_, fun hquote => ?_⟩⟩
  · have hagrees : ∀ t ∈ s.tokens, t.Agrees id .postgres .sqlite :=
      hs.regular.of_within (fun t ht hqueries => ht.agrees fun e q hq => (hqueries e q hq).2) hcast
    obtain ⟨htarget, rfl⟩ := Statement.compile_eq_ok htext
    refine ⟨rfl, ?_⟩
    rw [Statement.compile, if_neg htarget, Token.render, Token.allPieces_agree hagrees, List.map_id]
    rfl
  · have hagrees : ∀ t ∈ s.tokens, t.Agrees Piece.backquoted .sqlite .mysql :=
      hs.regular.of_within
        (fun t (ht : t.Castless ∧ t.Quoteless) hqueries => ht.2.agrees ht.1 fun e q hq =>
          (hqueries e q hq).imp And.right id)
        fun t ht => ⟨hcast t ht, hquote t ht⟩
    rw [Statement.compile, Statement.compile]
    split
    · rfl
    · rw [Token.render, Token.allPieces_agree hagrees, Piece.renderAll_map_backquoted]
      rfl

/-- A query on a table with an empty part in its name and a label. -/
def labelledQuery : Statement := .ofSource (.table "db..users u")

/-- A query on these rows.  The cast in the fragment is none of a name. -/
def derivedQuery : Statement :=
  (Statement.ofSource (.query labelledQuery)).select
    [.name "u.*", .raw ⟨"x::int + ?", [.int64 1]⟩]

theorem mem_leaves_labelledQuery {e : Clause} {x : Leaf} (h : x ∈ labelledQuery.leaves e) :
    x = .name "db..users u" := by
  have hleaves : labelledQuery.leaves e =
      if e = .source then [.name "db..users u"] else [] := by
    cases e <;> rfl
  rw [hleaves] at h
  split at h
  · exact List.mem_singleton.1 h
  · cases h

theorem mem_leaves_derivedQuery {e : Clause} {x : Leaf} (h : x ∈ derivedQuery.leaves e) :
    x = .query labelledQuery ∨ x = .name "u.*" ∨ x = .fragment ⟨"x::int + ?", [.int64 1]⟩ := by
  have hleaves : derivedQuery.leaves e =
      if e = .source then [.query labelledQuery]
      else if e = .columns then [.name "u.*", .fragment ⟨"x::int + ?", [.int64 1]⟩] else [] := by
    cases e <;> rfl
  rw [hleaves] at h
  split at h
  · exact .inl (List.mem_singleton.1 h)
  · split at h
    · simpa using Or.inr h
    · cases h

theorem within_derivedQuery {t : Statement} (h : t.Within derivedQuery) :
    t = derivedQuery ∨ t = labelledQuery := by
  cases h with
  | refl => exact .inl rfl
  | query e hq ht =>
    rcases mem_leaves_derivedQuery hq with hq | hq | hq
    · cases hq
      cases ht with
      | refl => exact .inr rfl
      | query e hq _ => cases mem_leaves_labelledQuery hq
    · cases hq
    · cases hq

theorem castless_derivedQuery {t : Statement} (h : t.Within derivedQuery) : t.Castless := by
  have hname : ∀ name ∈ ["", "u.*", "db..users u"], Driver.postgres.CastFree name := by
    have hcast : ∀ name ∈ ["", "u.*", "db..users u"], ¬[':', ':'] <:+: name.toList := by
      decide +kernel
    exact fun name h _ => hcast name h
  rcases within_derivedQuery h with rfl | rfl
  · refine ⟨⟨hname _ (by decide), List.forall_mem_nil _, List.forall_mem_nil _⟩,
      fun e name hx => ?_, by decide⟩
    rcases mem_leaves_derivedQuery hx with hx | hx | hx
    · cases hx
    · cases hx
      exact hname _ (by decide)
    · cases hx
  · refine ⟨⟨hname _ (by decide), List.forall_mem_nil _, List.forall_mem_nil _⟩,
      fun e name hx => ?_, by decide⟩
    cases mem_leaves_labelledQuery hx
    exact hname _ (by decide)

theorem quoteless_derivedQuery {t : Statement} (h : t.Within derivedQuery) : t.Quoteless := by
  rcases within_derivedQuery h with rfl | rfl
  · refine ⟨⟨by decide, List.forall_mem_nil _, List.forall_mem_nil _⟩, fun e x hx => ?_,
      List.forall_mem_nil _, by decide⟩
    rcases mem_leaves_derivedQuery hx with rfl | rfl | rfl
    · trivial
    · exact (by decide : Text.Quoteless "u.*")
    · exact (by decide : Text.Quoteless "x::int + ?")
  · refine ⟨⟨by decide, List.forall_mem_nil _, List.forall_mem_nil _⟩, fun e x hx => ?_,
      List.forall_mem_nil _, by decide⟩
    cases mem_leaves_labelledQuery hx
    exact (by decide : Text.Quoteless "db..users u")

theorem agreement_derivedQuery :
    ∃ text, derivedQuery.Reachable ∧ (∀ t : Statement, t.Within derivedQuery → t.Castless) ∧
      (∀ t : Statement, t.Within derivedQuery → t.Quoteless) ∧
      derivedQuery.compile .postgres = .ok text ∧
      text = Piece.renderAll .postgres (derivedQuery.pieces .postgres) ∧
      derivedQuery.compile .sqlite =
        .ok (Piece.renderAll .sqlite (derivedQuery.pieces .postgres)) ∧
      derivedQuery.compile .mysql = (derivedQuery.compile .sqlite).map Text.backquoted := by
  have hreachable : derivedQuery.Reachable := by
    have hrun : Script.build [.table (.query [.table (.table "db..users u")]),
      .select [.name "u.*", .raw ⟨"x::int + ?", [.int64 1]⟩]] = .ok derivedQuery := rfl
    exact .run .new hrun
  obtain ⟨_, htexts⟩ := agreement hreachable
  obtain ⟨hsqlite, hmysql⟩ := htexts fun t => castless_derivedQuery
  obtain ⟨htext, hsqlite⟩ := hsqlite _ rfl
  exact ⟨_, hreachable, fun t => castless_derivedQuery, fun t => quoteless_derivedQuery, rfl, htext,
    hsqlite, hmysql fun t => quoteless_derivedQuery⟩

end SqlBuilder
