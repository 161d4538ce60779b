import Mathlib.Data.List.Sort
import SqlBuilder.Proofs.Parts
import SqlBuilder.Proofs.Rendering

namespace SqlBuilder

/-!
# Rows and their columns

The rows of an insertion arrive as maps, over any number of calls, and are stored as lists of
values.  The first row settles the columns, and a row with other columns is refused, so every value
stays under the name that it came with.

* `Payload.get?_eq_some_iff`, `Payload.columns_eq_iff` — a map is known from its lookups;
* `Statement.Extended` — what the rows of an insertion leave in a statement;
* `Statement.Filled` — a statement holds these rows, each under the same columns;
* `Filled.addRow`, `Filled.addRows` — a row that is taken is held, and so are several;
* `Filled.addRows_eq_error` — a row is refused only for its columns;
* `Filled.run`, `Filled.runEdits` — so calls add the rows that they are given, and nothing else
  does;
* `alignment` — every stored value is the one that the row holds for its column, and has a place of
  its own in the text.
-/

/-! ### Lookups -/

namespace Payload

variable {p q : Payload} {c : String}

/-- A column has the value of its assignment. -/
theorem get?_eq_some_iff {v : Value} : p.get? c = some v ↔ ⟨c, v⟩ ∈ p.assignments := by
  have hfind : ∀ as : List Assignment, Ascending as →
      ((as.find? (·.column == c)).map (·.value) = some v ↔ ⟨c, v⟩ ∈ as) := by
    intro as
    induction as with
    | nil => intro _; simp
    | cons a as ih =>
      intro has
      obtain ⟨ha, has⟩ := List.pairwise_cons.1 has
      by_cases hc : a.column = c
      · -- No other assignment is for this column, since the columns ascend.
        have hrest : (⟨c, v⟩ : Assignment) ∉ as := by
          intro hmem
          have hlt := ha _ hmem
          rw [hc] at hlt
          exact String.lt_irrefl c hlt
        obtain ⟨column, value⟩ := a
        obtain rfl : column = c := hc
        simp [hrest, eq_comm]
      · have hne : (⟨c, v⟩ : Assignment) ≠ a := fun h => hc (h ▸ rfl)
        simp [hc, hne, ih has]
  exact hfind p.assignments p.ascending

theorem get?_of_mem {a : Assignment} (h : a ∈ p.assignments) : p.get? a.column = some a.value := by
  obtain ⟨column, value⟩ := a
  exact get?_eq_some_iff.2 h

/-- A column has a value exactly if it is one of the columns. -/
theorem isSome_get?_iff : (p.get? c).isSome ↔ c ∈ p.columns := by
  rw [Option.isSome_iff_exists]
  constructor
  · rintro ⟨v, hv⟩
    exact List.mem_map.2 ⟨_, get?_eq_some_iff.1 hv, rfl⟩
  · intro hc
    obtain ⟨a, ha, rfl⟩ := List.mem_map.1 hc
    exact ⟨a.value, get?_of_mem ha⟩

theorem ascending_columns (p : Payload) : p.columns.Pairwise (· < ·) :=
  List.pairwise_map.2 p.ascending

/-- The values are what the columns are looked up to be. -/
theorem map_get?_columns (p : Payload) : p.columns.map p.get? = p.values.map some := by
  rw [columns, values, List.map_map, List.map_map]
  exact List.map_congr_left fun a ha => get?_of_mem ha

/-- The values in them, column by column. -/
theorem flatMap_get?_columns (p : Payload) :
    p.columns.flatMap (fun c => (p.get? c).elim [] Value.binds) = p.binds := by
  have hlookups : p.columns.flatMap (fun c => (p.get? c).elim [] Value.binds) =
      (p.columns.map p.get?).flatMap fun o => o.elim [] Value.binds := by
    rw [List.flatMap_map]
  rw [hlookups, map_get?_columns, List.flatMap_map]
  rfl

/-- Two payloads give values to the same columns. -/
def SameColumns (p q : Payload) : Prop := ∀ c, (p.get? c).isSome = (q.get? c).isSome

/-- Their columns are stored in the same order then. -/
theorem columns_eq_iff : p.columns = q.columns ↔ p.SameColumns q := by
  constructor
  · intro h c
    rw [Bool.eq_iff_iff, isSome_get?_iff, isSome_get?_iff, h]
  · intro h
    refine p.ascending_columns.eq_of_mem_iff q.ascending_columns fun c => ?_
    rw [← isSome_get?_iff, ← isSome_get?_iff, h c]

end Payload

/-! ### What rows leave behind -/

namespace Statement

/-- `t` is `s` with these rows behind its own. -/
structure Extended (added : List Payload) (s t : Statement) : Prop where
  /-- All of them have the columns of the statement. -/
  columns : ∀ p ∈ added, p.columns = t.rowColumns
  /-- Rows that were there before have settled the columns. -/
  settled : s.rows ≠ [] → t.rowColumns = s.rowColumns
  rows : t.rows = s.rows ++ added.map Payload.values
  binds : t.ledger.rows = s.ledger.rows ++ added.flatMap Payload.binds
  kind : t.kind = s.kind
  source : t.only .source = s.only .source

theorem extended_addRow {s t : Statement} {p : Payload} (h : s.addRow p = .ok t) :
    Extended [p] s t := by
  obtain ⟨hcolumns, rfl⟩ := addRow_eq_ok h
  refine ⟨fun q hq => ?_, fun hrows => hcolumns.resolve_left hrows, rfl, ?_, rfl, rfl⟩
  · rw [List.mem_singleton.1 hq]
  · rw [List.flatMap_singleton]
    rfl

theorem extended_addRows {s t : Statement} {rows : List Payload}
    (h : rows.foldlM addRow s = .ok t) : Extended rows s t := by
  induction rows generalizing s with
  | nil =>
    cases h
    exact ⟨List.forall_mem_nil _, fun _ => rfl, by simp, by simp, rfl, rfl⟩
  | cons p rows ih =>
    rw [List.foldlM_cons] at h
    obtain ⟨u, hu, h⟩ := bind_eq_ok h
    have hfirst := extended_addRow hu
    have hrest := ih h
    -- The first row is there, so the others cannot change the columns any more.
    have hcolumns : t.rowColumns = u.rowColumns := hrest.settled (by simp [hfirst.rows])
    refine ⟨List.forall_mem_cons.2 ⟨?_, hrest.columns⟩, fun hrows => ?_, ?_, ?_,
      hrest.kind.trans hfirst.kind, hrest.source.trans hfirst.source⟩
    · rw [hcolumns, hfirst.columns p List.mem_cons_self]
    · rw [hcolumns, hfirst.settled hrows]
    · rw [hrest.rows, hfirst.rows, List.append_assoc, List.map_cons, List.map_nil,
        List.singleton_append, List.map_cons]
    · rw [hrest.binds, hfirst.binds, List.append_assoc, List.flatMap_singleton, List.flatMap_cons]

theorem extended_insert {s t : Statement} {rows : List Payload} (hadmits : s.admits .insert = true)
    (h : s.insert rows = .ok t) : Extended rows { s with kind := some .insert } t := by
  rw [insert, if_pos hadmits] at h
  exact extended_addRows h

end Statement

/-! ### A row more -/

namespace Statement

/-- A statement holds the rows `given`, each under the columns of the statement, and these
    ascend. -/
structure Filled (given : List Payload) (s : Statement) : Prop where
  ascending : s.rowColumns.Pairwise (· < ·)
  columns : ∀ p ∈ given, p.columns = s.rowColumns
  rows : s.rows = given.map Payload.values
  binds : s.ledger.rows = given.flatMap Payload.binds

namespace Filled

variable {given rows : List Payload} {s t : Statement} {p : Payload}

/-- A statement on which no call was made holds no row. -/
theorem start (name : String) : Filled [] { table := name } where
  ascending := .nil
  columns p hp := by cases hp
  rows := rfl
  binds := rfl

/-- Only the part with the rows counts. -/
theorem congr (h : Filled given s) (ht : t.only .rows = s.only .rows) : Filled given t where
  ascending := by
    have hcolumns : t.rowColumns = s.rowColumns := congrArg (·.rowColumns) ht
    rw [hcolumns]
    exact h.ascending
  columns p hp := (h.columns p hp).trans (congrArg (·.rowColumns) ht).symm
  rows := (congrArg (·.rows) ht).trans h.rows
  binds := (congrArg (·.ledger.rows) ht).trans h.binds

/-- A statement that holds a row has the columns of the first one. -/
theorem head?_columns (h : Filled given s) {first : Payload} (hfirst : given.head? = some first) :
    first.columns = s.rowColumns :=
  h.columns first (List.mem_of_head? hfirst)

/-- A row that is taken is held behind the others. -/
theorem addRow (h : Filled given s) (ht : s.addRow p = .ok t) : Filled (given ++ [p]) t := by
  obtain ⟨hp, rfl⟩ := addRow_eq_ok ht
  refine ⟨p.ascending_columns, fun q hq => ?_, ?_, ?_⟩
  · rcases List.mem_append.1 hq with hq | hq
    · -- An earlier row has the old columns, so the new row cannot be the first one.
      have hcolumns : p.columns = s.rowColumns := by
        rcases hp with hempty | hp
        · rw [h.rows, List.map_eq_nil_iff] at hempty
          rw [hempty] at hq
          cases hq
        · exact hp
      exact (h.columns q hq).trans hcolumns.symm
    · rw [List.mem_singleton.1 hq]
  · show s.rows ++ [p.values] = _
    rw [h.rows, List.map_append, List.map_singleton]
  · show s.ledger.rows ++ p.binds = _
    rw [h.binds, List.flatMap_append, List.flatMap_singleton]

/-- A row is refused only if the columns of the first row are others. -/
theorem addRow_eq_error {m : Misuse} (h : Filled given s) (he : s.addRow p = .error m) :
    ∃ first, given.head? = some first ∧ p.columns ≠ first.columns ∧
      m = .columnMismatch p.columns first.columns := by
  rw [Statement.addRow] at he
  split at he
  · cases he
  · rename_i hrefused
    cases he
    simp only [Bool.or_eq_true, List.isEmpty_iff, beq_iff_eq, not_or] at hrefused
    obtain ⟨hrows, hcolumns⟩ := hrefused
    have hne : given ≠ [] := by
      rintro rfl
      exact hrows h.rows
    obtain ⟨first, rest, rfl⟩ := List.exists_cons_of_ne_nil hne
    have hfirst : first.columns = s.rowColumns := h.head?_columns rfl
    exact ⟨first, rfl, hfirst ▸ hcolumns, by rw [hfirst]⟩

/-! ### Several rows more -/

/-- Rows that are taken are held behind the others, in order. -/
theorem addRows (h : Filled given s) (ht : rows.foldlM Statement.addRow s = .ok t) :
    Filled (given ++ rows) t := by
  induction rows generalizing given s with
  | nil =>
    cases ht
    rwa [List.append_nil]
  | cons p rows ih =>
    rw [List.foldlM_cons] at ht
    obtain ⟨u, hu, ht⟩ := bind_eq_ok ht
    have htail := ih (h.addRow hu) ht
    rwa [List.append_assoc, List.singleton_append] at htail

/-- Rows are refused only if one of them has other columns than the first row of all. -/
theorem addRows_eq_error {m : Misuse} (h : Filled given s)
    (he : rows.foldlM Statement.addRow s = .error m) :
    ∃ first, (given ++ rows).head? = some first ∧ ∃ p ∈ rows, p.columns ≠ first.columns ∧
      m = .columnMismatch p.columns first.columns := by
  induction rows generalizing given s with
  | nil => cases he
  | cons p rows ih =>
    rw [List.foldlM_cons] at he
    cases hp : s.addRow p with
    | error m' =>
      rw [hp] at he
      cases he
      obtain ⟨first, hfirst, hne, rfl⟩ := h.addRow_eq_error hp
      have hhead : (given ++ p :: rows).head? = some first := by
        rw [List.head?_append, hfirst, Option.some_or]
      exact ⟨first, hhead, p, List.mem_cons_self, hne, rfl⟩
    | ok u =>
      rw [hp] at he
      obtain ⟨first, hfirst, q, hq, hne⟩ := ih (h.addRow hp) he
      rw [List.append_assoc, List.singleton_append] at hfirst
      exact ⟨first, hfirst, q, List.mem_cons_of_mem _ hq, hne⟩

/-- Rows are taken exactly if all of them have the columns of the first row of all. -/
theorem addRows_eq_ok_iff (h : Filled given s) :
    (∃ t, rows.foldlM Statement.addRow s = .ok t) ↔
      ∀ first, (given ++ rows).head? = some first → ∀ p ∈ rows, p.SameColumns first := by
  constructor
  · rintro ⟨t, ht⟩ first hfirst p hp
    have hall := h.addRows ht
    rw [← Payload.columns_eq_iff, hall.columns p (List.mem_append_right _ hp),
      hall.head?_columns hfirst]
  · intro hsame
    cases ht : rows.foldlM Statement.addRow s with
    | ok t => exact ⟨t, rfl⟩
    | error m =>
      obtain ⟨first, hfirst, p, hp, hne, _⟩ := h.addRows_eq_error ht
      exact absurd (Payload.columns_eq_iff.2 (hsame first hfirst p hp)) hne

end Filled

end Statement

/-! ### Calls -/

namespace Edit

/-- The rows that a call adds. -/
def payloads : Edit → List Payload
  | .insert rows => rows
  | _ => []

/-- A statement that admits a kind after a call has admitted it before. -/
theorem admits_of_run {e : Edit} {s t : Statement} {k : Kind} (h : e.run s = .ok t)
    (ht : t.admits k = true) : s.admits k = true := by
  rw [Statement.admits_iff] at ht ⊢
  intro l hl
  refine ht l ?_
  rw [kind_run h, hl, Option.some_or]

theorem admits_of_runEdits {es : List Edit} {s t : Statement} {k : Kind}
    (h : runEdits es s = .ok t) (ht : t.admits k = true) : s.admits k = true := by
  induction es generalizing s with
  | nil => cases h; exact ht
  | cons e es ih =>
    obtain ⟨u, hu, h⟩ := bind_eq_ok h
    exact admits_of_run hu (ih h)

end Edit

open Edit

namespace Statement.Filled

variable {given : List Payload} {s t : Statement}

/-- Where the kind is settled plays no part in what rows are held. -/
theorem startInsert (h : Filled given s) : Filled given { s with kind := some .insert } :=
  ⟨h.ascending, h.columns, h.rows, h.binds⟩

/-- A statement that admits insertions holds the rows of a call as well after it. -/
theorem run {e : Edit} (h : Filled given s) (hs : s.admits .insert = true)
    (ht : e.run s = .ok t) : Filled (given ++ e.payloads) t := by
  by_cases hpart : e.part? = some .rows
  · cases e with
    | insert rows =>
      rw [Edit.run, Statement.insert, if_pos hs] at ht
      exact h.startInsert.addRows (mapError_eq_ok ht)
    | compare f _ _ _ _ | compareRaw f _ _ | group f _ _ => cases f <;> cases hpart
    | _ => cases hpart
  · have hpayloads : e.payloads = [] := by
      cases e with
      | insert rows => exact absurd rfl hpart
      | _ => rfl
    rw [hpayloads, List.append_nil]
    exact h.congr (only_run_of_ne hpart ht)

/-- So it holds the rows of all calls, in their order, if it admits insertions at the end. -/
theorem runEdits {es : List Edit} (h : Filled given s) (hs : SqlBuilder.runEdits es s = .ok t)
    (ht : t.admits .insert = true) : Filled (given ++ es.flatMap payloads) t := by
  induction es generalizing given s with
  | nil =>
    cases hs
    rwa [List.flatMap_nil, List.append_nil]
  | cons e es ih =>
    have hadmits := admits_of_runEdits hs ht
    obtain ⟨u, hu, hs⟩ := bind_eq_ok hs
    have htail := ih (h.run hadmits hu) hs
    rwa [List.append_assoc, ← List.flatMap_cons] at htail

/-! ### What is stored and written -/

/-- A stored value is the one that its row holds for its column. -/
theorem map_rows (h : Filled given s) :
    s.rows.map (List.map some) = given.map fun p => s.rowColumns.map p.get? := by
  rw [h.rows, List.map_map]
  refine List.map_congr_left fun p hp => ?_
  rw [← h.columns p hp, p.map_get?_columns]
  rfl

/-- The values of the rows are recorded row by row and column by column. -/
theorem ledger_rows (h : Filled given s) :
    s.ledger.rows =
      given.flatMap fun p => s.rowColumns.flatMap fun c => (p.get? c).elim [] Value.binds := by
  rw [h.binds]
  refine List.flatMap_congr fun p hp => ?_
  rw [← h.columns p hp, p.flatMap_get?_columns]

/-- There is one list of values for each row, and one value for each column. -/
theorem map_length_rows (h : Filled given s) :
    s.rows.map List.length = given.map fun _ => s.rowColumns.length := by
  have hlengths := congrArg (List.map List.length) h.map_rows
  simpa only [List.map_map, Function.comp_def, List.length_map] using hlengths

/-- An insertion that comes to an end has met only rows with the columns of the first one. -/
theorem run_insert_eq_ok_iff {rows : List Payload} (h : Filled given s)
    (hs : s.admits .insert = true) :
    (∃ t, (Edit.insert rows).run s = .ok t) ↔
      ∀ first, (given ++ rows).head? = some first → ∀ p ∈ rows, p.SameColumns first := by
  rw [← h.startInsert.addRows_eq_ok_iff, Edit.run, Statement.insert, if_pos hs]
  constructor
  · rintro ⟨t, ht⟩
    exact ⟨t, mapError_eq_ok ht⟩
  · rintro ⟨t, ht⟩
    exact ⟨t, by rw [ht]; rfl⟩

/-- An insertion that fails names the columns of a row that has others, and those of the first
    one. -/
theorem run_insert_eq_error {rows : List Payload} {error : Error} (h : Filled given s)
    (hs : s.admits .insert = true) (ht : (Edit.insert rows).run s = .error error) :
    ∃ first, (given ++ rows).head? = some first ∧ ∃ p ∈ rows, ¬ p.SameColumns first ∧
      error = .misuse (.columnMismatch p.columns first.columns) := by
  rw [Edit.run, Statement.insert, if_pos hs] at ht
  cases he : rows.foldlM Statement.addRow { s with kind := some .insert } with
  | ok t =>
    rw [he] at ht
    cases ht
  | error m =>
    rw [he] at ht
    cases ht
    obtain ⟨first, hfirst, p, hp, hne, rfl⟩ := h.startInsert.addRows_eq_error he
    exact ⟨first, hfirst, p, hp, mt Payload.columns_eq_iff.2 hne, rfl⟩

end Statement.Filled

namespace Statement

/-- The columns of an insertion, behind its table and with the word in front of the rows. -/
def insertColumnsText (s : Statement) (d : Dialect) : String :=
  Token.render d 0 s.insertHead ++ " ( " ++ ", ".intercalate (s.rowColumns.map d.wrapName) ++
    " ) VALUES "

/-- The text of an insertion with columns has one tuple for each row. -/
theorem compile_insert {s : Statement} {d : Dialect} {text : String}
    (hkind : s.kind = some .insert) (hcolumns : s.rowColumns ≠ []) (h : s.compile d = .ok text) :
    text = s.insertColumnsText d ++
      ", ".intercalate
        ((renderRows d ((targetTokens s.table s.source).flatMap Token.binds).length s.rows).map
          fun tuple => "( " ++ ", ".intercalate tuple ++ " )") ++
      (d.conflictText s.skipConflicts ++ d.returningText s.returning) := by
  obtain ⟨_, rfl⟩ := compile_eq_ok h
  have hne : ¬ s.rowColumns.isEmpty = true := by simpa using hcolumns
  rw [render_insert d hkind, rowsText, if_neg hne, insertColumnsText]
  simp only [String.append_assoc]

end Statement

/-- **Alignment.**  Take a statement that calls have led to and that admits insertions, and the rows
    that these calls were given.  The stored columns are in ascending order and are those of every
    row.  The stored values are what the rows hold for these columns, and the values in them are
    recorded in this order.  One more insertion comes to an end exactly if all its rows have the
    columns of the first row of all.  The text has one tuple for each row, and a tuple has one text
    for each column. -/
theorem alignment {name : String} {es : List Edit} {s : Statement}
    (hs : runEdits es { table := name } = .ok s) (hadmits : s.admits .insert = true) :
    s.rowColumns.Pairwise (· < ·) ∧
    (∀ p ∈ es.flatMap payloads, ∀ c, c ∈ s.rowColumns ↔ (p.get? c).isSome) ∧
    s.rows.map (List.map some) = (es.flatMap payloads).map (fun p => s.rowColumns.map p.get?) ∧
    s.ledger.rows = (es.flatMap payloads).flatMap (fun p =>
      s.rowColumns.flatMap fun c => (p.get? c).elim [] Value.binds) ∧
    (∀ rows, (∃ t, (Edit.insert rows).run s = .ok t) ↔
      ∀ first, (es.flatMap payloads ++ rows).head? = some first →
        ∀ p ∈ rows, p.SameColumns first) ∧
    (∀ rows error, (Edit.insert rows).run s = .error error →
      ∃ first, (es.flatMap payloads ++ rows).head? = some first ∧
        ∃ p ∈ rows, ¬ p.SameColumns first ∧
          error = .misuse (.columnMismatch p.columns first.columns)) ∧
    (∀ d text, s.kind = some .insert → s.rowColumns ≠ [] → s.compile d = .ok text →
      ∃ tuples : List (List String),
        text = s.insertColumnsText d ++
          ", ".intercalate (tuples.map fun tuple => "( " ++ ", ".intercalate tuple ++ " )") ++
          (d.conflictText s.skipConflicts ++ d.returningText s.returning) ∧
        tuples.map List.length = (es.flatMap payloads).map (fun _ => s.rowColumns.length) ∧
        tuples.flatten = Token.renderEach d
          ((targetTokens s.table s.source).flatMap Token.binds).length
          (s.rows.flatten.map Value.tokens)) := by
  have hfilled : s.Filled (es.flatMap payloads) := by
    simpa using (Statement.Filled.start name).runEdits hs hadmits
  refine ⟨hfilled.ascending, fun p hp c => ?_, hfilled.map_rows, hfilled.ledger_rows,
    fun rows => hfilled.run_insert_eq_ok_iff hadmits,
    fun rows error => hfilled.run_insert_eq_error hadmits, ?_⟩
  · rw [Payload.isSome_get?_iff, hfilled.columns p hp]
  · intro d text hkind hcolumns htext
    refine ⟨_, Statement.compile_insert hkind hcolumns htext, ?_, flatten_renderRows d _ s.rows⟩
    rw [map_length_renderRows, hfilled.map_length_rows]

/-- Rows over several calls, the first one without a row, in any order of the keys. -/
def scatteredRows : List Edit :=
  [.insert [], .fromSource (.raw ⟨"f(?)", [.int64 1]⟩), .select [.name "lost"],
   .insert [.ofList [("b", .bind (.int64 4)), ("a", .raw ⟨"? + ?", [.int64 2, .int64 3]⟩)]],
   .limit (.bind (.int64 9)),
   .insert
    [.ofList [("b", .bind .null), ("a", .query (.limitTo .new (.bind (.int64 5))))],
     .ofList [("a", .bind (.int64 7)), ("b", .bind (.int64 6)), ("a", .bind (.int64 8))]],
   .returning ["*"]]

/-- The text of the insertion. -/
def scatteredText : String :=
  "INSERT INTO f($1) ( \"a\", \"b\" ) VALUES ( $2 + $3, $4 ), ( ( SELECT * LIMIT $5 ), $6 ), " ++
    "( $7, $8 ) RETURNING *"

theorem alignment_scatteredRows :
    ∃ s, runEdits scatteredRows { table := "" } = .ok s ∧ s.admits .insert = true ∧
      s.kind = some .insert ∧ s.rowColumns = ["a", "b"] ∧
      s.compile .postgres = .ok scatteredText ∧
      s.ledger.rows = [.int64 2, .int64 3, .int64 4, .int64 5, .null, .int64 8, .int64 6] ∧
      s.rows.map (List.map some) =
        (scatteredRows.flatMap payloads).map (fun p => s.rowColumns.map p.get?) ∧
      (∃ tuples : List (List String), tuples.map List.length = [2, 2, 2] ∧
        scatteredText = "INSERT INTO f($1) ( \"a\", \"b\" ) VALUES " ++
          ", ".intercalate (tuples.map fun tuple => "( " ++ ", ".intercalate tuple ++ " )") ++
          " RETURNING *") ∧
      ∀ error, (Edit.insert [.ofList [("a", .bind .null)]]).run s = .error error →
        error = .misuse (.columnMismatch ["a"] ["a", "b"]) := by
  obtain ⟨s, hs, hkind, hcolumns, hbinds, hfront, hback, htext⟩ : ∃ s,
      runEdits scatteredRows { table := "" } = .ok s ∧ s.kind = some .insert ∧
      s.rowColumns = ["a", "b"] ∧
      s.ledger.rows = [.int64 2, .int64 3, .int64 4, .int64 5, .null, .int64 8, .int64 6] ∧
      s.insertColumnsText .postgres = "INSERT INTO f($1) ( \"a\", \"b\" ) VALUES " ∧
      Dialect.postgres.conflictText s.skipConflicts ++
        Dialect.postgres.returningText s.returning = " RETURNING *" ∧
      s.compile .postgres = .ok scatteredText :=
    ⟨_, rfl, rfl, rfl, rfl, by decide +kernel, by decide +kernel, by decide +kernel⟩
  have hadmits : s.admits .insert = true := by rw [Statement.admits, hkind]; rfl
  have hne : s.rowColumns ≠ [] := by rw [hcolumns]; exact List.cons_ne_nil _ _
  obtain ⟨_, _, hrows, _, _, herror, hcompile⟩ := alignment hs hadmits
  obtain ⟨tuples, heq, hlengths, _⟩ := hcompile .postgres scatteredText hkind hne htext
  rw [hfront, hback] at heq
  rw [hcolumns] at hlengths
  refine ⟨s, hs, hadmits, hkind, hcolumns, htext, hbinds, hrows, ⟨tuples, hlengths, heq⟩, ?_⟩
  intro error he
  obtain ⟨first, hfirst, p, hp, _, rfl⟩ := herror _ error he
  cases hfirst
  cases List.mem_singleton.1 hp
  rfl

end SqlBuilder
