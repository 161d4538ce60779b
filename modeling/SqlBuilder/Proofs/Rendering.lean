import SqlBuilder.Proofs.Composition
import SqlBuilder.Proofs.Vocabulary

namespace SqlBuilder

open Token (after enclosed listed spaced clauses listedAfter)

/-!
# The text of the clauses

A clause is written as its words with the texts of its items between them.  The items share one
counter, which only PostgreSQL looks at.

* `Token.renderEach` — the texts of items, each on from the counter behind the one before;
* `render_listed`, `render_spaced` — items in a row are written with the separator between;
* `renderRows` — the texts of the values of rows, row by row;
* `Statement.render_insert`, `Statement.render_update` — the texts of these two kinds;
* `render_eq`, `renderEach_eq_map` — in MySQL and in SQLite the counter plays no part.
-/

/-! ### Items -/

namespace Token

variable (d : Dialect) (n : Nat)

theorem render_word_cons (w : Word) (ts : List Token) :
    render d n (.word w :: ts) = w.text ++ render d n ts := by
  rw [← List.singleton_append, render_append, render_word]
  rfl

theorem render_after (w : Word) (ts : List Token) :
    render d n (after w ts) = w.text ++ " " ++ render d n ts := by
  rw [after, render_word_cons, render_word_cons, ← String.append_assoc]
  rfl

theorem after_ne_nil (w : Word) (ts : List Token) : after w ts ≠ [] := List.cons_ne_nil _ _

theorem render_path (s : String) : render d n [.path s] = d.wrapName s := by
  simp [render, allPieces, pieces, Piece.renderAll, Piece.render]

/-- The texts of items that follow each other, the first one after `n` numbers. -/
def renderEach : Nat → List (List Token) → List String
  | _, [] => []
  | n, ts :: items => render d n ts :: renderEach (n + (ts.flatMap binds).length) items

@[simp] theorem length_renderEach (items : List (List Token)) :
    (renderEach d n items).length = items.length := by
  induction items generalizing n with
  | nil => rfl
  | cons ts items ih => rw [renderEach, List.length_cons, ih, List.length_cons]

theorem renderEach_append (xs ys : List (List Token)) :
    renderEach d n (xs ++ ys) =
      renderEach d n xs ++ renderEach d (n + (xs.flatMap (·.flatMap binds)).length) ys := by
  induction xs generalizing n with
  | nil => rfl
  | cons ts xs ih =>
    rw [List.cons_append, renderEach, renderEach, ih, List.cons_append, List.flatMap_cons,
      List.length_append, Nat.add_assoc]

/-- Items without values have the same text after every counter. -/
theorem renderEach_eq_of_binds {items : List (List Token)}
    (h : ∀ ts ∈ items, ts.flatMap binds = []) :
    renderEach d n items = items.map (render d n) := by
  induction items with
  | nil => rfl
  | cons ts items ih =>
    obtain ⟨hts, hitems⟩ := List.forall_mem_cons.1 h
    rw [renderEach, hts, List.length_nil, Nat.add_zero, ih hitems, List.map_cons]

/-- Items with a word between them are written with the word between. -/
theorem render_intercalate (w : Word) (items : List (List Token)) :
    render d n ([Token.word w].intercalate items) = w.text.intercalate (renderEach d n items) := by
  induction items generalizing n with
  | nil => exact String.intercalate_nil.symm
  | cons ts items ih =>
    cases items with
    | nil => simp [renderEach]
    | cons us items =>
      have hword : (ts ++ [Token.word w]).flatMap binds = ts.flatMap binds := by simp [binds]
      rw [List.intercalate_cons_cons, render_append, render_append, render_word, hword, ih]
      exact String.intercalate_cons_cons.symm

theorem render_listed (items : List (List Token)) :
    render d n (listed items) = ", ".intercalate (renderEach d n items) :=
  render_intercalate d n .comma items

theorem render_spaced (items : List (List Token)) :
    render d n (spaced items) = " ".intercalate (renderEach d n items) :=
  render_intercalate d n .space items

end Token

open Token (render renderEach render_append render_word_cons render_after render_enclosed
  render_listed render_spaced render_path)

/-! ### The four kinds of items of an insertion and of an update -/

variable (d : Dialect) (n : Nat)

/-- Columns are written wrapped. -/
theorem renderEach_paths (names : List String) :
    renderEach d n (names.map fun c => [.path c]) = names.map d.wrapName := by
  rw [Token.renderEach_eq_of_binds, List.map_map]
  · exact List.map_congr_left fun c _ => render_path d n c
  · intro ts hts
    obtain ⟨c, _, rfl⟩ := List.mem_map.1 hts
    rfl

/-- The texts of the values of rows that follow each other, row by row. -/
def renderRows : Nat → List (List Value) → List (List String)
  | _, [] => []
  | n, vs :: rows =>
    renderEach d n (vs.map Value.tokens) ::
      renderRows (n + ((rowTokens vs).flatMap Token.binds).length) rows

/-- Every row is written as the texts of its values in parentheses. -/
theorem renderEach_rows (rows : List (List Value)) :
    renderEach d n (rows.map rowTokens) =
      (renderRows d n rows).map fun values => "( " ++ ", ".intercalate values ++ " )" := by
  induction rows generalizing n with
  | nil => rfl
  | cons vs rows ih =>
    rw [List.map_cons, renderEach, renderRows, List.map_cons, ih, rowTokens, render_enclosed,
      render_listed]

/-- There is one text for each value. -/
theorem map_length_renderRows (rows : List (List Value)) :
    (renderRows d n rows).map List.length = rows.map List.length := by
  induction rows generalizing n with
  | nil => rfl
  | cons vs rows ih =>
    rw [renderRows, List.map_cons, List.map_cons, ih, Token.length_renderEach, List.length_map]

@[simp] theorem length_renderRows (rows : List (List Value)) :
    (renderRows d n rows).length = rows.length := by
  have hlength := congrArg List.length (map_length_renderRows d n rows)
  rwa [List.length_map, List.length_map] at hlength

/-- Rows behind others are written on from where these have led the counter. -/
theorem renderRows_append (rows others : List (List Value)) :
    renderRows d n (rows ++ others) =
      renderRows d n rows ++
        renderRows d (n + (rows.flatMap fun vs => (rowTokens vs).flatMap Token.binds).length)
          others := by
  induction rows generalizing n with
  | nil => rfl
  | cons vs rows ih =>
    rw [List.cons_append, renderRows, renderRows, ih, List.cons_append, List.flatMap_cons,
      List.length_append, Nat.add_assoc]

/-- The values of all rows are written in order, on one counter. -/
theorem flatten_renderRows (rows : List (List Value)) :
    (renderRows d n rows).flatten = renderEach d n (rows.flatten.map Value.tokens) := by
  induction rows generalizing n with
  | nil => rfl
  | cons vs rows ih =>
    have hbinds : (rowTokens vs).flatMap Token.binds =
        (vs.map Value.tokens).flatMap (·.flatMap Token.binds) := by
      rw [rowTokens, flatMap_enclosed Token.binds_word, flatMap_listed Token.binds_word]
    rw [renderRows, List.flatten_cons, List.flatten_cons, List.map_append,
      Token.renderEach_append, ih, hbinds]

/-- An assignment is written as its column, the sign `=` and its value. -/
theorem renderEach_assignments (as : List Assignment) :
    renderEach d n (as.map Assignment.tokens) =
      List.zipWith (fun column value => column ++ " = " ++ value) (as.map (d.wrapName ·.column))
        (renderEach d n (as.map (·.value.tokens))) := by
  induction as generalizing n with
  | nil => rfl
  | cons a as ih =>
    obtain ⟨column, value⟩ := a
    have hbinds : (Assignment.tokens ⟨column, value⟩).flatMap Token.binds =
        value.tokens.flatMap Token.binds := by
      rw [Assignment.tokens, List.flatMap_cons, List.flatMap_cons, flatMap_after Token.binds_word]
      rfl
    have hsplit : Assignment.tokens ⟨column, value⟩ =
        [.path column] ++ .word .space :: after .becomes value.tokens := by
      rw [Assignment.tokens, List.singleton_append]
    have htext : render d n (Assignment.tokens ⟨column, value⟩) =
        d.wrapName column ++ " = " ++ render d n value.tokens := by
      have hsign : " = " = " " ++ ("=" ++ " ") := rfl
      rw [hsplit, render_append, render_path, render_word_cons, render_after, hsign]
      simp only [String.append_assoc]
      rfl
    rw [List.map_cons, List.map_cons, List.map_cons, renderEach, renderEach, List.zipWith_cons_cons,
      ih, hbinds, htext]

/-! ### The text of an insertion and of an update -/

/-- What stands behind the rows of an insertion. -/
def Dialect.conflictText (d : Dialect) (skip : Bool) : String :=
  if (d.onConflict skip).isEmpty then "" else " " ++ d.onConflict skip

/-- The list of columns to return, where the dialect has one. -/
def Dialect.returningText (d : Dialect) (columns : List String) : String :=
  if columns.isEmpty || !d.supportsReturning then ""
  else " RETURNING " ++ ", ".intercalate (columns.map d.wrapName)

/-- Texts with commas between them are one text. -/
theorem renderAll_intersperse (texts : List String) :
    Piece.renderAll d ((texts.map Piece.text).intersperse (.text ", ")) =
      ", ".intercalate texts := by
  rw [← String.toList_inj, Token.toList_renderAll, intersperse_eq_intercalate,
    flatMap_intercalate_eq, String.toList_intercalate, List.map_map, List.map_map]
  congr 1
  · simp [Piece.render]
  · refine List.map_congr_left fun s _ => ?_
    simp [Piece.render]

theorem renderAll_returning (columns : List String) :
    Piece.renderAll d ((Token.returning columns).pieces d n) = d.returningText columns := by
  rw [Token.pieces, Dialect.returningText]
  split
  · rfl
  · rw [← List.singleton_append, Piece.renderAll_append, ← renderAll_intersperse d, List.map_map]
    simp [Piece.renderAll, Piece.render, Function.comp_def]

/-- The end of an insertion is written alike behind every counter. -/
theorem render_insertEnd (skip : Bool) (columns : List String) :
    render d n [.onConflict skip, .returning columns] =
      d.conflictText skip ++ d.returningText columns := by
  have hconflict : Piece.renderAll d ((Token.onConflict skip).pieces d n) =
      d.conflictText skip := by
    rw [Token.pieces, Token.preceded, Dialect.conflictText]
    split
    · rfl
    · simp [Piece.renderAll, Piece.render]
  rw [render, Token.allPieces, Token.allPieces, Token.allPieces, List.append_nil,
    Piece.renderAll_append, hconflict, renderAll_returning]

/-- A clause that is there is written with a space in front. -/
theorem render_following {ts : List Token} (h : ts ≠ []) :
    render d n (Token.following ts) = " " ++ render d n ts := by
  rw [Token.following, if_neg (by simpa using h)]
  exact render_word_cons d n .space ts

namespace Statement

variable {s : Statement}

/-- The table that an insertion writes to, behind its verb. -/
def insertHead (s : Statement) : List Token :=
  .insertVerb s.skipConflicts :: after .INTO (targetTokens s.table s.source)

/-- The columns and the rows of an insertion; nothing where there are no columns. -/
def rowsText (s : Statement) (n : Nat) : String :=
  if s.rowColumns.isEmpty then ""
  else " ( " ++ ", ".intercalate (s.rowColumns.map d.wrapName) ++ " ) VALUES " ++
    ", ".intercalate ((renderRows d n s.rows).map fun values =>
      "( " ++ ", ".intercalate values ++ " )")

/-- The assignments of an update; nothing where there are none. -/
def assignmentsText (s : Statement) (n : Nat) : String :=
  if s.assignments.isEmpty then ""
  else " SET " ++ ", ".intercalate (List.zipWith (fun column value => column ++ " = " ++ value)
    (s.assignments.map (d.wrapName ·.column))
    (renderEach d n (s.assignments.map (·.value.tokens))))

theorem render_rows (s : Statement) :
    render d n (Token.following (rowColumnTokens s) ++ Token.following (valuesTokens s)) =
      s.rowsText d n := by
  rw [rowColumnTokens, valuesTokens, rowsText]
  split
  · rfl
  · have hcolumns : enclosed (listed (s.rowColumns.map fun c => [.path c])) ≠ [] :=
      List.cons_ne_nil _ _
    have hbinds : (Token.following (enclosed (listed (s.rowColumns.map fun c =>
        [.path c])))).flatMap Token.binds = [] := by
      simp [Token.following, enclosed, flatMap_listed Token.binds_word, List.flatMap_map,
        Token.binds]
    have hopening : " ( " = " " ++ "( " := rfl
    have hvalues : " ) VALUES " = " )" ++ (" " ++ ("VALUES" ++ " ")) := rfl
    rw [render_append, hbinds, render_following d n hcolumns,
      render_following d _ (Token.after_ne_nil _ _), render_enclosed, render_after,
      render_listed, render_listed, renderEach_paths, renderEach_rows, hopening, hvalues]
    simp only [String.append_assoc]
    rfl

theorem render_assignments (s : Statement) :
    render d n (Token.following (listedAfter .SET (s.assignments.map Assignment.tokens))) =
      s.assignmentsText d n := by
  have hset : " SET " = " " ++ ("SET" ++ " ") := rfl
  rw [listedAfter, assignmentsText, List.isEmpty_map]
  split
  · rfl
  · rw [render_following d n (Token.after_ne_nil _ _), render_after, render_listed,
      renderEach_assignments, hset]
    simp only [String.append_assoc]
    rfl

/-- The text of an insertion. -/
theorem render_insert (h : s.kind = some .insert) :
    render d 0 s.tokens =
      render d 0 s.insertHead ++
        s.rowsText d ((targetTokens s.table s.source).flatMap Token.binds).length ++
        (d.conflictText s.skipConflicts ++ d.returningText s.returning) := by
  have htokens : s.tokens = s.insertHead ++
      (Token.following (rowColumnTokens s) ++ Token.following (valuesTokens s)) ++
      [.onConflict s.skipConflicts, .returning s.returning] := by
    rw [tokens_insert h, Token.clauses_cons (Token.after_ne_nil _ _)]
    simp [insertHead]
  have hbinds : s.insertHead.flatMap Token.binds =
      (targetTokens s.table s.source).flatMap Token.binds := by
    rw [insertHead, List.flatMap_cons, flatMap_after Token.binds_word]
    rfl
  rw [htokens, render_append, render_append, hbinds, render_insertEnd, render_rows, Nat.zero_add]

/-- The text of an update. -/
theorem render_update (h : s.kind = some .update) :
    ∃ n, render d 0 s.tokens =
      "UPDATE " ++ render d 0 (targetTokens s.table s.source) ++
        s.assignmentsText d ((targetTokens s.table s.source).flatMap Token.binds).length ++
        render d n (Token.following (filterTokens .WHERE s.wheres)) := by
  have htokens : s.tokens = after .UPDATE (targetTokens s.table s.source) ++
      Token.following (listedAfter .SET (s.assignments.map Assignment.tokens)) ++
      Token.following (filterTokens .WHERE s.wheres) := by
    rw [tokens_update h, Token.clauses_cons (Token.after_ne_nil _ _)]
    simp
  rw [htokens, render_append, render_append, render_after, flatMap_after Token.binds_word,
    render_assignments, Nat.zero_add]
  exact ⟨_, rfl⟩

end Statement

/-! ### Dialects without numbers -/

variable {driver : Driver} (hd : driver ≠ .postgres)

include hd

/-- Only PostgreSQL looks at the counter. -/
theorem render_eq (n : Nat) (ts : List Token) :
    render driver.dialect n ts = render driver.dialect 0 ts := by
  have hshift : driver.dialect.shift n = driver.dialect := by
    cases driver with
    | postgres => exact absurd rfl hd
    | _ => exact Dialect.shift_eq_self (fun _ => rfl) n
  have hrender := Token.render_shift driver.dialect n 0 ts
  rwa [Nat.zero_add, hshift] at hrender

/-- So every item has the text that it has alone. -/
theorem renderEach_eq_map (n : Nat) (items : List (List Token)) :
    renderEach driver.dialect n items = items.map (render driver.dialect 0) := by
  induction items generalizing n with
  | nil => rfl
  | cons ts items ih => rw [renderEach, ih, render_eq hd, List.map_cons]

end SqlBuilder
