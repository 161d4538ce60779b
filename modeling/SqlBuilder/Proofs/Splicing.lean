import SqlBuilder.Proofs.Composition

namespace SqlBuilder

/-!
# Fragments in the text

A fragment is cut at its question marks.  What stands between them is put together again, with a
place for each question mark that has a value, and with question marks for the others.  Values that
no question mark asks for still move the counter on.

* `woven` — parts of a text with signs between them;
* `Fragment.questions`, `Fragment.parts` — the question marks of a fragment, and what is between
  them;
* `Dialect.signs` — what is written for the question marks;
* `Fragment.toList_renderAll_splice` — the text of a fragment, cut at its question marks;
* `splicing` — the text of a fragment, and the counter behind it.
-/

/-- The parts of a text, with the signs between them. -/
def woven (signs : List String) (parts : List (List Char)) : List Char :=
  (List.zipWith (fun sign part => sign.toList ++ part) ("" :: signs) parts).flatten

/-- A sign in front of parts stands behind an empty one. -/
theorem woven_sign (sign : String) (signs : List String) {parts : List (List Char)}
    (h : parts ≠ []) : woven (sign :: signs) ([] :: parts) = sign.toList ++ woven signs parts := by
  obtain ⟨part, parts, rfl⟩ := List.exists_cons_of_ne_nil h
  simp [woven]

/-- A character in front of parts belongs to the first of them. -/
theorem woven_modifyHead (c : Char) (signs : List String) {parts : List (List Char)}
    (h : parts ≠ []) : woven signs (parts.modifyHead (c :: ·)) = c :: woven signs parts := by
  obtain ⟨part, parts, rfl⟩ := List.exists_cons_of_ne_nil h
  simp [woven]

/-! ### Texts cut at a character -/

variable {c : Char}

theorem length_splitOn (cs : List Char) : (cs.splitOn c).length = cs.count c + 1 := by
  induction cs with
  | nil => simp
  | cons b cs ih =>
    rw [List.splitOn_cons_eq_if_modifyHead, List.count_cons]
    split
    · rw [List.length_cons, ih]
    · rw [List.length_modifyHead, ih]

/-- The character is in none of the parts. -/
theorem not_mem_of_mem_splitOn {cs part : List Char} (h : part ∈ cs.splitOn c) : c ∉ part := by
  induction cs generalizing part with
  | nil =>
    obtain rfl : part = [] := by simpa using h
    exact List.not_mem_nil
  | cons b cs ih =>
    rw [List.splitOn_cons_eq_if_modifyHead] at h
    split at h
    · rcases List.mem_cons.1 h with rfl | h
      · exact List.not_mem_nil
      · exact ih h
    · rename_i hb
      obtain ⟨first, parts, hparts⟩ := List.exists_cons_of_ne_nil (List.splitOn_ne_nil c cs)
      rw [hparts, List.modifyHead_cons] at h
      rcases List.mem_cons.1 h with rfl | h
      · intro hc
        rcases List.mem_cons.1 hc with rfl | hc
        · exact hb (beq_self_eq_true c)
        · exact ih (hparts ▸ List.mem_cons_self) hc
      · exact ih (hparts ▸ List.mem_cons_of_mem _ h)

/-! ### What is written for question marks -/

namespace Dialect

/-- The signs for `q` question marks after `n` numbers, if there are `m` values for them. -/
def signs (d : Dialect) (n q m : Nat) : List String :=
  (List.range' (n + 1) (min q m)).map d.placeholder ++ List.replicate (q - m) "?"

/-- Without values they stay. -/
theorem signs_zero (d : Dialect) (n q : Nat) : d.signs n q 0 = List.replicate q "?" := by
  simp [signs]

/-- The first of them takes the next number. -/
theorem signs_succ (d : Dialect) (n q m : Nat) :
    d.signs n (q + 1) (m + 1) = d.placeholder (n + 1) :: d.signs (n + 1) q m := by
  rw [signs, signs, Nat.add_min_add_right, List.range'_succ, List.map_cons, List.cons_append,
    Nat.add_sub_add_right]

/-- Where all places are question marks, nothing is changed. -/
theorem signs_eq_replicate {d : Dialect} (h : ∀ k, d.placeholder k = "?") (n q m : Nat) :
    d.signs n q m = List.replicate q "?" := by
  have hplaces : (List.range' (n + 1) (min q m)).map d.placeholder =
      List.replicate (min q m) "?" := by
    rw [funext h, List.map_const', List.length_range']
  have hall : min q m + (q - m) = q := by omega
  rw [signs, hplaces, List.replicate_append_replicate, hall]

end Dialect

namespace Fragment

/-- How many question marks a fragment has. -/
def questions (f : Fragment) : Nat := f.text.toList.count '?'

/-- What stands between them. -/
def parts (f : Fragment) : List (List Char) := f.text.toList.splitOn '?'

/-- The text of a fragment after `n` numbers. -/
def written (d : Dialect) (n : Nat) (f : Fragment) : String := Piece.renderAll d (f.pieces n)

/-- A place in front of pieces. -/
theorem toList_renderAll_place (d : Dialect) (k : Nat) (ps : List Piece) :
    (Piece.renderAll d (.place k :: ps)).toList =
      (d.placeholder k).toList ++ (Piece.renderAll d ps).toList := by
  simp [Piece.renderAll, Piece.render]

/-- A character in front of pieces. -/
theorem toList_renderAll_char (d : Dialect) (b : Char) (ps : List Piece) :
    (Piece.renderAll d (.text (String.singleton b) :: ps)).toList =
      b :: (Piece.renderAll d ps).toList := by
  simp [Piece.renderAll, Piece.render]

/-- Without values left a question mark is text. -/
theorem fst_splice_zero (b : Char) (cs : List Char) (n : Nat) :
    (splice (b :: cs) n 0).1 = .text (String.singleton b) :: (splice cs n 0).1 := by
  simp [splice]

theorem fst_splice_succ (cs : List Char) (n m : Nat) :
    (splice ('?' :: cs) n (m + 1)).1 = .place (n + 1) :: (splice cs (n + 1) m).1 := rfl

theorem fst_splice_of_ne {b : Char} (hb : b ≠ '?') (cs : List Char) (n m : Nat) :
    (splice (b :: cs) n m).1 = .text (String.singleton b) :: (splice cs n m).1 := by
  simp [splice, hb]

/-- Without values a text stays as it is. -/
theorem toList_renderAll_splice_zero (d : Dialect) (cs : List Char) (n : Nat) :
    (Piece.renderAll d (splice cs n 0).1).toList = cs := by
  induction cs with
  | nil => rfl
  | cons b cs ih => rw [fst_splice_zero, toList_renderAll_char, ih]

/-- The text of a fragment is made of the parts of its text. -/
theorem toList_renderAll_splice (d : Dialect) (cs : List Char) (n m : Nat) :
    (Piece.renderAll d (splice cs n m).1).toList =
      woven (d.signs n (cs.count '?') m) (cs.splitOn '?') := by
  induction cs generalizing n m with
  | nil => simp [splice, woven, Piece.renderAll]
  | cons b cs ih =>
    have hne := List.splitOn_ne_nil '?' cs
    rw [List.splitOn_cons_eq_if_modifyHead, List.count_cons]
    by_cases hb : b = '?'
    · subst hb
      rw [if_pos (beq_self_eq_true '?'), if_pos (beq_self_eq_true '?')]
      cases m with
      | zero =>
        rw [fst_splice_zero, toList_renderAll_char, ih, d.signs_zero, d.signs_zero,
          List.replicate_succ, woven_sign _ _ hne]
        rfl
      | succ m =>
        rw [fst_splice_succ, toList_renderAll_place, ih, d.signs_succ, woven_sign _ _ hne]
    · have hmark : (b == '?') = false := beq_eq_false_iff_ne.2 hb
      rw [hmark, if_neg Bool.false_ne_true, if_neg Bool.false_ne_true, Nat.add_zero,
        woven_modifyHead b _ hne, fst_splice_of_ne hb, toList_renderAll_char, ih]

/-- A text is made of its parts and its question marks. -/
theorem eq_woven_splitOn (cs : List Char) :
    cs = woven (List.replicate (cs.count '?') "?") (cs.splitOn '?') := by
  rw [← Dialect.mysql.signs_zero 0, ← toList_renderAll_splice, toList_renderAll_splice_zero]

/-- Where all places are question marks, a fragment is its text. -/
theorem written_eq_text {d : Dialect} (h : ∀ k, d.placeholder k = "?") (n : Nat) (f : Fragment) :
    f.written d n = f.text := by
  rw [← String.toList_inj, written, pieces, toList_renderAll_splice, Dialect.signs_eq_replicate h,
    ← eq_woven_splitOn]

end Fragment

namespace Token

variable (d : Dialect) (n : Nat) (f : Fragment) (ts : List Token)

/-- The tokens behind a fragment are numbered on from the counter behind it. -/
theorem render_fragment_cons :
    render d n (.fragment f :: ts) = f.written d n ++ render d (f.next n) ts := by
  rw [render, allPieces, Piece.renderAll_append]
  rfl

/-- So they are if the fragment is set off by a space, which an empty one is not. -/
theorem render_spacedFragment_cons :
    render d n (.spacedFragment f :: ts) =
      (if f.written d n = "" then "" else " " ++ f.written d n) ++ render d (f.next n) ts := by
  have hpieces : Piece.renderAll d ((Token.spacedFragment f).pieces d n) =
      if f.written d n = "" then "" else " " ++ f.written d n := by
    rw [pieces, ← Fragment.written]
    by_cases hempty : f.written d n = ""
    · rw [if_pos hempty, if_pos (String.isEmpty_iff.2 hempty)]
      rfl
    · rw [if_neg hempty, if_neg (mt String.isEmpty_iff.1 hempty), ← String.toList_inj]
      simp [Piece.renderAll, Piece.render, Fragment.written]
  rw [render, allPieces, Piece.renderAll_append, hpieces]
  rfl

end Token

/-- **Splicing.**  Cut the text of a fragment at its question marks.  After `n` numbers the fragment
    is written as these parts with other signs between them: the first question marks, as many as
    there are values, become the places from `n + 1` on, and the others stay.  The walk leaves the
    counter at `n` and the number of the values, however many question marks there are, and what
    stands behind the fragment is numbered on from there.  So in MySQL and in SQLite a fragment is
    always its own text. -/
theorem splicing (d : Dialect) (n : Nat) (f : Fragment) :
    (f.text.toList = woven (List.replicate f.questions "?") f.parts ∧
      f.parts.length = f.questions + 1 ∧ ∀ part ∈ f.parts, '?' ∉ part) ∧
    (f.written d n).toList =
      woven ((List.range' (n + 1) (min f.questions f.binds.length)).map d.placeholder ++
        List.replicate (f.questions - f.binds.length) "?") f.parts ∧
    f.next n = n + f.binds.length ∧
    (∀ ts, Token.counter n (.fragment f :: ts) = Token.counter (n + f.binds.length) ts ∧
      Token.render d n (.fragment f :: ts) =
        f.written d n ++ Token.render d (n + f.binds.length) ts) ∧
    (∀ ts, Token.counter n (.spacedFragment f :: ts) = Token.counter (n + f.binds.length) ts ∧
      Token.render d n (.spacedFragment f :: ts) =
        (if f.written d n = "" then "" else " " ++ f.written d n) ++
          Token.render d (n + f.binds.length) ts) ∧
    f.written .mysql n = f.text ∧ f.written .sqlite n = f.text := by
  refine ⟨⟨Fragment.eq_woven_splitOn _, length_splitOn _, fun part => not_mem_of_mem_splitOn⟩,
    Fragment.toList_renderAll_splice d _ n _, f.next_eq n, fun ts => ⟨?_, ?_⟩,
    fun ts => ⟨?_, ?_⟩, ?_, ?_⟩
  · rw [Token.counter, Token.next, f.next_eq]
  · rw [Token.render_fragment_cons, f.next_eq]
  · rw [Token.counter, Token.next, f.next_eq]
  · rw [Token.render_spacedFragment_cons, f.next_eq]
  · exact Fragment.written_eq_text (fun _ => rfl) n f
  · exact Fragment.written_eq_text (fun _ => rfl) n f

/-- A question mark too many stays, and a value too many has a number. -/
example :
    Fragment.written .postgres 1 ⟨"a > ? AND b < ?", [.int64 1]⟩ = "a > $2 AND b < ?" ∧
    Token.render .postgres 0 [.fragment ⟨"a = ?", [.int64 1, .int64 2]⟩, .place .null] =
      "a = $1$3" := by
  decide +kernel

end SqlBuilder
