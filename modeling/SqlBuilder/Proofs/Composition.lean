import SqlBuilder.Proofs.Numbering

namespace SqlBuilder

open Token (enclosed)

/-!
# Sub-queries in larger statements

The text of a statement depends on the counter it starts from only through the numbers of its
places.  So a sub-query has in every larger statement the text that it has alone, renumbered.

* `Dialect.shift`, `Piece.shift` — every number goes up by `n`;
* `Statement.compileAt` — the text of a statement after `n` numbers, and the counter behind it;
* `Token.render_shift` — the text after `n` numbers is the text in the shifted dialect;
* `Token.allPieces_shift` — piece by piece, where no place is written as nothing;
* `Statement.Aligned.compileAt_eq` — the shifted text, and a counter that has gone up by the number
  of values;
* `composition` — the text of a sub-query in the text of a statement around it.
-/

/-- The dialect in which every place is written as the one `n` further on. -/
def Dialect.shift (d : Dialect) (n : Nat) : Dialect :=
  { d with placeholder := fun k => d.placeholder (k + n) }

/-- A dialect with one text for all places is not changed by a shift. -/
theorem Dialect.shift_eq_self {d : Dialect} {text : String} (h : ∀ k, d.placeholder k = text)
    (n : Nat) : d.shift n = d := by
  obtain ⟨name, quote, placeholder, wrapName, insertVerb, onConflict, supportsReturning⟩ := d
  have hconst : (fun k => placeholder (k + n)) = placeholder := by
    funext k
    exact (h (k + n)).trans (h k).symm
  simp only [Dialect.shift, hconst]

namespace Piece

/-- The piece with its number up by `n`. -/
def shift (n : Nat) : Piece → Piece
  | text s => .text s
  | place k => .place (k + n)

@[simp] theorem shift_text (n : Nat) (s : String) : (text s).shift n = text s := rfl

@[simp] theorem shift_place (n k : Nat) : (place k).shift n = place (k + n) := rfl

/-- Shifted pieces have the text of the pieces in the shifted dialect. -/
theorem renderAll_map_shift (d : Dialect) (n : Nat) (ps : List Piece) :
    renderAll d (ps.map (shift n)) = renderAll (d.shift n) ps := by
  have hpiece : ∀ p : Piece, (p.shift n).render d = p.render (d.shift n) := by
    intro p
    cases p <;> rfl
  simp [renderAll, List.flatMap_map, hpiece]

/-- Pieces without numbers are not changed by a shift. -/
theorem map_shift_eq_self {ps : List Piece} (n : Nat) (h : ∀ p ∈ ps, p.number? = none) :
    ps.map (shift n) = ps := by
  rw [List.map_congr_left fun p hp => ?_, List.map_id]
  cases p with
  | text s => rfl
  | place k => cases h _ hp

/-- A text is empty if all its pieces are. -/
theorem renderAll_eq_empty_iff (d : Dialect) (ps : List Piece) :
    renderAll d ps = "" ↔ ∀ p ∈ ps, p.render d = "" := by
  simp [renderAll]

/-- Whether a text is empty does not depend on the dialect, if no place is written as nothing. -/
theorem isEmpty_renderAll {d d' : Dialect} (hd : ∀ k, d.placeholder k ≠ "")
    (hd' : ∀ k, d'.placeholder k ≠ "") (ps : List Piece) :
    (renderAll d ps).isEmpty = (renderAll d' ps).isEmpty := by
  have hpiece : ∀ p : Piece, p.render d = "" ↔ p.render d' = "" := by
    intro p
    cases p with
    | text s => exact Iff.rfl
    | place k => exact iff_of_false (hd k) (hd' k)
  have hiff : renderAll d ps = "" ↔ renderAll d' ps = "" := by
    rw [renderAll_eq_empty_iff, renderAll_eq_empty_iff]
    exact forall₂_congr fun p _ => hpiece p
  rw [Bool.eq_iff_iff]
  simpa using hiff

/-- And so it does not depend on the numbers. -/
theorem isEmpty_renderAll_shift {d : Dialect} (h : ∀ k, d.placeholder k ≠ "") (n : Nat)
    (ps : List Piece) :
    (renderAll d (ps.map (shift n))).isEmpty = (renderAll d ps).isEmpty := by
  rw [renderAll_map_shift]
  exact isEmpty_renderAll (fun k => h (k + n)) h ps

theorem renderAll_append (d : Dialect) (ps qs : List Piece) :
    renderAll d (ps ++ qs) = renderAll d ps ++ renderAll d qs := by
  simp [renderAll, String.ofList_append]

end Piece

/-! ### The counter at the start -/

/-- A fragment gives the same pieces after any counter, but for the numbers. -/
theorem Fragment.splice_shift (n : Nat) (cs : List Char) (k left : Nat) :
    (splice cs (k + n) left).1 = (splice cs k left).1.map (Piece.shift n) := by
  induction cs generalizing k left with
  | nil => rfl
  | cons c cs ih =>
    cases left with
    | zero => simp [splice, ih]
    | succ left =>
      -- Only a question mark takes a number, and moves the counter on.
      by_cases hc : c = '?'
      · subst hc
        have hnext : k + n + 1 = k + 1 + n := by omega
        simp [splice, hnext, ih]
      · simp [splice, hc, ih]

theorem Fragment.pieces_shift (n k : Nat) (f : Fragment) :
    f.pieces (k + n) = (f.pieces k).map (Piece.shift n) :=
  splice_shift n _ k _

namespace Token

/-- The text of a token after `k + n` numbers is its text after `k` in the shifted dialect. -/
theorem renderAll_pieces_shift (d : Dialect) (n k : Nat) (t : Token) :
    Piece.renderAll d (t.pieces d (k + n)) =
      Piece.renderAll (d.shift n) (t.pieces (d.shift n) k) := by
  cases t with
  | fragment f =>
    show Piece.renderAll d (f.pieces (k + n)) = Piece.renderAll (d.shift n) (f.pieces k)
    rw [f.pieces_shift, Piece.renderAll_map_shift]
  | spacedFragment f =>
    rw [pieces, pieces, f.pieces_shift, Piece.renderAll_map_shift]
    -- The text of the fragment is the same on both sides, so it is empty on both or on none.
    split
    · rfl
    · exact Piece.renderAll_map_shift d n (.text " " :: f.pieces k)
  | place b =>
    have hnext : k + n + 1 = k + 1 + n := by omega
    show Piece.renderAll d [.place (k + n + 1)] = Piece.renderAll (d.shift n) [.place (k + 1)]
    rw [hnext]
    exact Piece.renderAll_map_shift d n [.place (k + 1)]
  | _ =>
    -- A token without values has the same pieces, and no number among them.
    rw [← Piece.renderAll_map_shift, Piece.map_shift_eq_self n (number?_eq_none rfl)]
    rfl

/-- The counter is moved on alike after any counter. -/
theorem next_shift (n k : Nat) (t : Token) : t.next (k + n) = t.next k + n := by
  rw [next_eq, next_eq, Nat.add_right_comm]

/-- **Shift.**  The text after `k + n` numbers is the text after `k` in the shifted dialect. -/
theorem render_shift (d : Dialect) (n k : Nat) (ts : List Token) :
    render d (k + n) ts = render (d.shift n) k ts := by
  induction ts generalizing k with
  | nil => rfl
  | cons t ts ih =>
    have htail := ih (t.next k)
    rw [render, render] at htail ⊢
    rw [allPieces, allPieces, Piece.renderAll_append, Piece.renderAll_append,
      renderAll_pieces_shift, t.next_shift, htail]

/-- The text of tokens in a row, each part on from the counter behind the one before. -/
theorem render_append (d : Dialect) (n : Nat) (ts us : List Token) :
    render d n (ts ++ us) = render d n ts ++ render d (n + (ts.flatMap binds).length) us := by
  rw [render, allPieces_append, counter_eq, Piece.renderAll_append]
  rfl

theorem render_word (d : Dialect) (n : Nat) (w : Word) : render d n [.word w] = w.text := by
  simp [render, allPieces, pieces, Piece.renderAll, Piece.render]

/-- The parentheses of a sub-query stand around its text. -/
theorem render_enclosed (d : Dialect) (n : Nat) (ts : List Token) :
    render d n (enclosed ts) = "( " ++ render d n ts ++ " )" := by
  rw [enclosed, ← List.singleton_append, List.append_assoc, render_append, render_append,
    render_word, render_word, ← String.append_assoc]
  rfl

/-- A token has the same pieces after any counter, but for the numbers. -/
theorem pieces_shift {d : Dialect} (h : ∀ k, d.placeholder k ≠ "") (n k : Nat) (t : Token) :
    t.pieces d (k + n) = (t.pieces d k).map (Piece.shift n) := by
  cases t with
  | fragment f => exact f.pieces_shift n k
  | spacedFragment f =>
    rw [pieces, pieces, f.pieces_shift, Piece.isEmpty_renderAll_shift h]
    split <;> rfl
  | place b =>
    have hnext : k + n + 1 = k + 1 + n := by omega
    show [Piece.place (k + n + 1)] = [Piece.place (k + 1 + n)]
    rw [hnext]
  | _ =>
    rw [Piece.map_shift_eq_self n (number?_eq_none rfl)]
    rfl

/-- Tokens have the same pieces after any counter, but for the numbers. -/
theorem allPieces_shift {d : Dialect} (h : ∀ k, d.placeholder k ≠ "") (n k : Nat)
    (ts : List Token) : allPieces d (k + n) ts = (allPieces d k ts).map (Piece.shift n) := by
  induction ts generalizing k with
  | nil => rfl
  | cons t ts ih =>
    rw [allPieces, allPieces, List.map_append, pieces_shift h, t.next_shift, ih]

end Token

/-! ### Statements -/

namespace Statement

/-- The text of a statement after `n` numbers, and the counter behind it. -/
def compileAt (d : Dialect) (n : Nat) (s : Statement) : Except Misuse (String × Nat) :=
  if Token.queryTarget ∈ s.tokens then .error .queryTarget
  else .ok (Token.render d n s.tokens, Token.counter n s.tokens)

/-- A statement alone is a statement after no number. -/
theorem compile_eq_compileAt (d : Dialect) (s : Statement) :
    s.compile d = (s.compileAt d 0).map Prod.fst := by
  rw [compile, compileAt]
  split <;> rfl

/-- The counter has no part in whether there is a text, and it shifts the numbers in it. -/
theorem Aligned.compileAt_eq {s : Statement} (h : s.Aligned) (d : Dialect) (n : Nat) :
    s.compileAt d n =
      (s.compile (d.shift n)).map fun text => (text, n + s.data.length) := by
  rw [compile, compileAt]
  split
  · rfl
  · rename_i htarget
    have hrender := Token.render_shift d n 0 s.tokens
    rw [Nat.zero_add] at hrender
    rw [hrender, Token.counter_eq, h htarget]
    rfl

/-- The text after `n` numbers is the one in the shifted dialect. -/
theorem Aligned.compile_shift_eq_ok {s : Statement} (h : s.Aligned) {d : Dialect} {n k : Nat}
    {text : String} (htext : s.compileAt d n = .ok (text, k)) :
    s.compile (d.shift n) = .ok text := by
  rw [h.compileAt_eq] at htext
  cases hcompile : s.compile (d.shift n) with
  | error m =>
    rw [hcompile] at htext
    cases htext
  | ok alone =>
    rw [hcompile] at htext
    cases htext
    rfl

/-- A statement has a text after every counter or after none, and fails in the same way. -/
theorem compileAt_eq_error_iff (s : Statement) (d : Dialect) (n : Nat) (m : Misuse) :
    s.compileAt d n = .error m ↔ s.compile d = .error m := by
  rw [compile, compileAt]
  split
  · simp
  · simp

/-- A sub-query cuts the text around it, and the values, in three. -/
theorem Regular.split {p q : Statement} (h : p.Regular) {d : Dialect} {text : String}
    (hq : p.Contains q) (htext : p.compile d = .ok text) :
    ∃ us vs inner n, n = (us.flatMap Token.binds).length ∧
      p.tokens = us ++ enclosed q.tokens ++ vs ∧
      p.data = us.flatMap Token.binds ++ q.data ++ vs.flatMap Token.binds ∧
      q.compileAt d n = .ok (inner, n + q.data.length) ∧
      q.compile (d.shift n) = .ok inner ∧
      text = Token.render d 0 us ++ "( " ++ inner ++ " )" ++
        Token.render d (n + q.data.length) vs := by
  obtain ⟨htarget, rfl⟩ := compile_eq_ok htext
  obtain ⟨hregular, hinside⟩ := hq.infix_tokens h htarget
  have hqtarget : Token.queryTarget ∉ q.tokens := queryTarget_not_mem_query hinside htarget
  have hqdata : q.tokens.flatMap Token.binds = q.data := hregular.aligned hqtarget
  have hinner : (enclosed q.tokens).flatMap Token.binds = q.data := by
    rw [flatMap_enclosed Token.binds_word, hqdata]
  -- `us` stands in front of the parentheses, `vs` behind them.
  obtain ⟨us, vs, hsplit⟩ := hinside
  have htext : q.compileAt d (us.flatMap Token.binds).length =
      .ok (Token.render d (us.flatMap Token.binds).length q.tokens,
        (us.flatMap Token.binds).length + q.data.length) := by
    rw [compileAt, if_neg hqtarget, Token.counter_eq, hqdata]
  refine ⟨us, vs, _, _, rfl, hsplit.symm, ?_, htext, hregular.aligned.compile_shift_eq_ok htext, ?_⟩
  · rw [← h.aligned htarget, ← hsplit, List.flatMap_append, List.flatMap_append, hinner]
  · rw [← hsplit, Token.render_append, Token.render_append, Token.render_enclosed,
      List.flatMap_append, hinner, List.length_append]
    simp [String.append_assoc]

end Statement

/-- How a sub-query stands in the text of a statement: between parentheses, numbered on from the
    values in front of it, and its values in the same place among those of the statement.  In MySQL
    and SQLite it has the text that it has alone, in PostgreSQL that text with its numbers up by
    the number of values in front. -/
def Statement.Encloses (p : Statement) (d : Dialect) (text : String) (q : Statement) : Prop :=
  ∃ us vs inner n, n = (us.flatMap Token.binds).length ∧
    p.tokens = us ++ enclosed q.tokens ++ vs ∧
    p.data = us.flatMap Token.binds ++ q.data ++ vs.flatMap Token.binds ∧
    text = Token.render d 0 us ++ "( " ++ inner ++ " )" ++ Token.render d (n + q.data.length) vs ∧
    q.compileAt d n = .ok (inner, n + q.data.length) ∧
    q.compile (d.shift n) = .ok inner ∧
    (d = .mysql ∨ d = .sqlite → q.compile d = .ok inner) ∧
    (d = .postgres →
      q.compile d = .ok (Piece.renderAll d (Token.allPieces d 0 q.tokens)) ∧
      inner = Piece.renderAll d ((Token.allPieces d 0 q.tokens).map (Piece.shift n)))

/-- **Composition.**  A statement that a script builds has a text after `n` numbers exactly if it
    has one alone: the text with every place written as the one `n` further on, and the counter
    goes up by the number of values.  Such a text is what a sub-query at any depth has in the text
    around it. -/
theorem composition {script : Script} {p : Statement} (hp : script.build = .ok p) (d : Dialect) :
    (∀ n, (∀ m, p.compileAt d n = .error m ↔ p.compile d = .error m) ∧
      p.compileAt d n = (p.compile (d.shift n)).map fun text => (text, n + p.data.length)) ∧
    ∀ q text, p.Contains q → p.compile d = .ok text → p.Encloses d text q := by
  have hregular := regular_of_build hp
  refine ⟨fun n => ⟨p.compileAt_eq_error_iff d n, hregular.aligned.compileAt_eq d n⟩, ?_⟩
  intro q text hq htext
  obtain ⟨us, vs, inner, n, hn, htokens, hdata, hinner, hshift, htext⟩ := hregular.split hq htext
  refine ⟨us, vs, inner, n, hn, htokens, hdata, htext, hinner, hshift, ?_, ?_⟩
  · -- All places are written alike in MySQL and in SQLite, so no shift is seen.
    rintro (rfl | rfl)
    · rwa [Dialect.shift_eq_self fun _ => rfl] at hshift
    · rwa [Dialect.shift_eq_self fun _ => rfl] at hshift
  · rintro rfl
    obtain ⟨htarget, rfl⟩ := Statement.compile_eq_ok hshift
    have hplace : ∀ k, Dialect.postgres.placeholder k ≠ "" := fun k => by
      simp [Dialect.postgres]
    refine ⟨by rw [Statement.compile, if_neg htarget, Token.render], ?_⟩
    rw [← Token.render_shift, Token.render, Token.allPieces_shift hplace]

/-- A sub-query in a sub-query, each of them behind a value. -/
def nestedScript : Script :=
  [.compare .wheres .and (.name "a") "=" (.bind (.int64 1)),
   .compare .wheres .or (.name "b") "=" (.query
    [.compare .wheres .and (.name "c") "=" (.bind (.int64 2)),
     .compare .wheres .and (.name "d") "=" (.query [.limit (.bind (.int64 3))])])]

theorem composition_nestedScript :
    ∃ p, nestedScript.build = .ok p ∧
      (∀ n, (∀ m, p.compileAt .postgres n = .error m ↔ p.compile .postgres = .error m) ∧
        p.compileAt .postgres n =
          (p.compile (Dialect.postgres.shift n)).map fun text => (text, n + p.data.length)) ∧
      ∃ q text, p.Contains q ∧ p.compile .postgres = .ok text ∧ p.Encloses .postgres text q := by
  have hbuild : nestedScript.build = .ok _ := rfl
  obtain ⟨hcounter, hinside⟩ := composition hbuild .postgres
  suffices hcontains : Statement.Contains _ (.limitTo .new (.bind (.int64 3))) from
    ⟨_, hbuild, hcounter, _, _, hcontains, rfl, hinside _ _ hcontains rfl⟩
  refine .deeper (.tail _ (.tail _ (.tail _ (.head _)))) (.direct ?_)
  exact .tail _ (.tail _ (.tail _ (.head _)))

end SqlBuilder
