import SqlBuilder.Proofs.Embedding

namespace SqlBuilder

/-!
# The numbers of the places

The walk over the tokens keeps a counter and hands out numbers, one for each value it meets.  Here
each number is kept together with the value that it was handed out for.

* `Mark` — a text, a place with its number and its value, or a number that is taken silently;
* `Token.allMarks` — the marks of a list of tokens;
* `pieces_allMarks` — without the values, the marks are the pieces of the text;
* `issues_allMarks` — the numbers that are handed out count the values of the tokens;
* `numbering` — the numbers count the values of the statement, and those in the text ascend.
-/

/-- A piece of the text together with the value that the caller attached to it. -/
inductive Mark where
  | text (s : String)
  /-- The place of a value, with its number. -/
  | place (n : Nat) (b : Bind)
  /-- A number for a value that no question mark asks for. -/
  | silent (n : Nat) (b : Bind)
  deriving DecidableEq

namespace Mark

/-- What a mark leaves in the text. -/
@[simp] def piece? : Mark → Option Piece
  | text s => some (.text s)
  | place n _ => some (.place n)
  | silent _ _ => none

/-- The number that is handed out at a mark, and the value that it is handed out for. -/
@[simp] def issue? : Mark → Option (Bind × Nat)
  | text _ => none
  | place n b => some (b, n)
  | silent n b => some (b, n)

/-- A text as a mark; a place has none without its value. -/
@[simp] def ofPiece? : Piece → Option Mark
  | .text s => some (.text s)
  | .place _ => none

end Mark

/-- The number of a place. -/
@[simp] def Piece.number? : Piece → Option Nat
  | .text _ => none
  | .place n => some n

/-- Pieces without numbers are the same as marks. -/
theorem pieces_ofPieces {ps : List Piece} (h : ∀ p ∈ ps, p.number? = none) :
    (ps.filterMap Mark.ofPiece?).filterMap Mark.piece? = ps := by
  induction ps with
  | nil => rfl
  | cons p ps ih =>
    obtain ⟨hp, hps⟩ := List.forall_mem_cons.1 h
    cases p with
    | text s => exact congrArg (.text s :: ·) (ih hps)
    | place n => cases hp

/-- Pieces as marks hand out no number. -/
theorem issues_ofPieces (ps : List Piece) :
    (ps.filterMap Mark.ofPiece?).filterMap Mark.issue? = [] := by
  induction ps with
  | nil => rfl
  | cons p ps ih => cases p <;> exact ih

namespace Fragment

/-- Numbers that are taken silently, after `n` others. -/
def silentMarks (n : Nat) (bs : List Bind) : List Mark :=
  (bs.zipIdx (n + 1)).map fun (b, k) => .silent k b

/-- The marks of a text after `n` numbers.  Each question mark takes the next of the values, and the
    values that are left over take their numbers at the end. -/
def marksOf : List Char → Nat → List Bind → List Mark
  | [], n, bs => silentMarks n bs
  | '?' :: cs, n, b :: bs => .place (n + 1) b :: marksOf cs (n + 1) bs
  | c :: cs, n, bs => .text (String.singleton c) :: marksOf cs n bs

/-- The marks of a fragment after `n` numbers. -/
def marks (n : Nat) (f : Fragment) : List Mark := marksOf f.text.toList n f.binds

theorem pieces_silentMarks (n : Nat) (bs : List Bind) :
    (silentMarks n bs).filterMap Mark.piece? = [] := by
  simp [silentMarks, List.filterMap_map, Function.comp_def]

theorem issues_silentMarks (n : Nat) (bs : List Bind) :
    (silentMarks n bs).filterMap Mark.issue? = bs.zipIdx (n + 1) := by
  simp [silentMarks, List.filterMap_map, Function.comp_def]

/-- Without the values, the marks are the pieces that the fragment leaves. -/
theorem pieces_marksOf (cs : List Char) (n : Nat) (bs : List Bind) :
    (marksOf cs n bs).filterMap Mark.piece? = (splice cs n bs.length).1 := by
  fun_induction marksOf cs n bs with
  | case1 n bs => exact pieces_silentMarks n bs
  | case2 cs n b bs ih => simp [splice, ih]
  | case3 c cs n bs hc ih =>
    -- The character is no question mark, or no value is left for it: it is text either way.
    have hstep : (splice (c :: cs) n bs.length).1 =
        .text (String.singleton c) :: (splice cs n bs.length).1 := by
      rw [splice]
      intro left hq hleft
      cases bs with
      | nil => cases hq
      | cons b bs => exact hc b bs rfl hleft
    rw [hstep, ← ih]
    rfl

/-- A fragment hands out a number for each of its values, in order. -/
theorem issues_marksOf (cs : List Char) (n : Nat) (bs : List Bind) :
    (marksOf cs n bs).filterMap Mark.issue? = bs.zipIdx (n + 1) := by
  fun_induction marksOf cs n bs with
  | case1 n bs => exact issues_silentMarks n bs
  | case2 cs n b bs ih => simp [ih]
  | case3 c cs n bs hc ih => exact ih

theorem pieces_marks (n : Nat) (f : Fragment) :
    (f.marks n).filterMap Mark.piece? = f.pieces n :=
  pieces_marksOf _ _ _

theorem issues_marks (n : Nat) (f : Fragment) :
    (f.marks n).filterMap Mark.issue? = f.binds.zipIdx (n + 1) :=
  issues_marksOf _ _ _

end Fragment

namespace Token

/-- The marks of a token after `n` numbers.  A fragment whose text is empty leaves nothing in the
    text, but its values still take their numbers. -/
def marks (d : Dialect) (n : Nat) : Token → List Mark
  | .place b => [.place (n + 1) b]
  | .fragment f => f.marks n
  | .spacedFragment f =>
    if (Piece.renderAll d (f.pieces n)).isEmpty then Fragment.silentMarks n f.binds
    else .text " " :: f.marks n
  | t => (t.pieces d n).filterMap Mark.ofPiece?

/-- The marks of a list of tokens after `n` numbers. -/
def allMarks (d : Dialect) (n : Nat) : List Token → List Mark
  | [] => []
  | t :: ts => t.marks d n ++ allMarks d (t.next n) ts

/-- A token without values leaves no number in the text. -/
theorem number?_eq_none {d : Dialect} {n : Nat} {t : Token} (ht : t.binds = []) :
    ∀ p ∈ t.pieces d n, p.number? = none := by
  -- Without values left, every question mark of a fragment stays text.
  have hsplice : ∀ cs : List Char, ∀ p ∈ (Fragment.splice cs n 0).1, p.number? = none := by
    intro cs
    induction cs with
    | nil =>
      intro p hp
      cases hp
    | cons c cs ih => simpa [Fragment.splice] using ih
  intro p hp
  cases t with
  | place b => cases ht
  | fragment f =>
    have hbinds : f.binds = [] := ht
    rw [pieces, Fragment.pieces, hbinds] at hp
    exact hsplice _ p hp
  | spacedFragment f =>
    have hbinds : f.binds = [] := ht
    rw [pieces, Fragment.pieces, hbinds] at hp
    split at hp
    · cases hp
    · rcases List.mem_cons.1 hp with rfl | hp
      · rfl
      · exact hsplice _ p hp
  | word w | path s | identifier s =>
    obtain rfl := List.mem_singleton.1 hp
    rfl
  | insertVerb skip =>
    rw [pieces, followed] at hp
    split at hp
    · cases hp
    · obtain rfl | rfl : p = .text (d.insertVerb skip) ∨ p = .text " " := by simpa using hp
      · rfl
      · rfl
  | onConflict skip =>
    rw [pieces, preceded] at hp
    split at hp
    · cases hp
    · obtain rfl | rfl : p = .text " " ∨ p = .text (d.onConflict skip) := by simpa using hp
      · rfl
      · rfl
  | returning columns =>
    rw [pieces] at hp
    split at hp
    · cases hp
    · rcases List.mem_cons.1 hp with rfl | hp
      · rfl
      · rcases mem_of_mem_intersperse hp with rfl | hp
        · rfl
        · obtain ⟨c, _, rfl⟩ := List.mem_map.1 hp
          rfl
  | queryTarget => cases hp

/-- Without the values, the marks of a token are its pieces. -/
theorem pieces_marks (d : Dialect) (n : Nat) (t : Token) :
    (t.marks d n).filterMap Mark.piece? = t.pieces d n := by
  cases t with
  | place b => rfl
  | fragment f => exact f.pieces_marks n
  | spacedFragment f =>
    rw [marks, pieces]
    split
    · exact Fragment.pieces_silentMarks n f.binds
    · exact congrArg (.text " " :: ·) (f.pieces_marks n)
  | _ => exact pieces_ofPieces (number?_eq_none rfl)

/-- A token hands out a number for each of its values, in order. -/
theorem issues_marks (d : Dialect) (n : Nat) (t : Token) :
    (t.marks d n).filterMap Mark.issue? = t.binds.zipIdx (n + 1) := by
  cases t with
  | place b => rfl
  | fragment f => exact f.issues_marks n
  | spacedFragment f =>
    rw [marks]
    split
    · -- The fragment leaves no text, and all its numbers are silent.
      exact Fragment.issues_silentMarks n f.binds
    · exact f.issues_marks n
  | _ => exact issues_ofPieces _

/-- Without the values, the marks of a list of tokens are its pieces. -/
theorem pieces_allMarks (d : Dialect) (n : Nat) (ts : List Token) :
    (allMarks d n ts).filterMap Mark.piece? = allPieces d n ts := by
  induction ts generalizing n with
  | nil => rfl
  | cons t ts ih => rw [allMarks, List.filterMap_append, pieces_marks, ih, allPieces]

/-- The numbers that a list of tokens hands out count its values. -/
theorem issues_allMarks (d : Dialect) (n : Nat) (ts : List Token) :
    (allMarks d n ts).filterMap Mark.issue? = (ts.flatMap binds).zipIdx (n + 1) := by
  induction ts generalizing n with
  | nil => rfl
  | cons t ts ih =>
    rw [allMarks, List.filterMap_append, issues_marks, ih, next_eq, List.flatMap_cons,
      List.zipIdx_append]
    congr 2
    omega

end Token

/-- The marks of the text of a statement. -/
def Statement.marks (d : Dialect) (s : Statement) : List Mark := Token.allMarks d 0 s.tokens

/-! ### The numbers in the text -/

/-- The numbers in the text are some of those that are handed out. -/
theorem sublist_numbers (ms : List Mark) :
    ((ms.filterMap Mark.piece?).filterMap Piece.number?).Sublist
      ((ms.filterMap Mark.issue?).map Prod.snd) := by
  induction ms with
  | nil => exact .slnil
  | cons m ms ih =>
    cases m with
    | text s => exact ih
    | place n b => exact ih.cons_cons n
    | silent n b => exact ih.cons n

/-- Where the numbers that are handed out count the values, those in the text ascend. -/
theorem ascending_numbers {ms : List Mark} {bs : List Bind} {n : Nat}
    (h : ms.filterMap Mark.issue? = bs.zipIdx n) :
    ((ms.filterMap Mark.piece?).filterMap Piece.number?).Pairwise (· < ·) := by
  -- They are a sublist of the numbers that are handed out, and these are consecutive.
  have hsub := sublist_numbers ms
  rw [h, List.zipIdx_map_snd] at hsub
  exact List.Pairwise.sublist hsub List.pairwise_lt_range'

/-- The place of a value has the number of that value. -/
theorem getElem?_of_place_mem {ms : List Mark} {bs : List Bind} {n : Nat} {b : Bind}
    (h : ms.filterMap Mark.issue? = bs.zipIdx 1) (hmem : Mark.place n b ∈ ms) :
    1 ≤ n ∧ bs[n - 1]? = some b := by
  have hissue : (b, n) ∈ bs.zipIdx 1 := h ▸ List.mem_filterMap.2 ⟨_, hmem, rfl⟩
  exact List.mk_mem_zipIdx_iff_le_and_getElem?_sub.1 hissue

/-- **Numbering.**  Whatever a script builds: if it has a text in a dialect, then the counter ends
    at the number of its values, the number `k` is handed out for the `k`-th value, the numbers in
    the text ascend, and each place in the text has the number of the value attached to it. -/
theorem numbering (d : Dialect) {script : Script} {s : Statement} {text : String}
    (hs : script.build = .ok s) (htext : s.compile d = .ok text) :
    text = Piece.renderAll d ((s.marks d).filterMap Mark.piece?) ∧
    Token.counter 0 s.tokens = s.data.length ∧
    (s.marks d).filterMap Mark.issue? = s.data.zipIdx 1 ∧
    (((s.marks d).filterMap Mark.piece?).filterMap Piece.number?).Pairwise (· < ·) ∧
    ∀ n b, Mark.place n b ∈ s.marks d → 1 ≤ n ∧ s.data[n - 1]? = some b := by
  obtain ⟨htarget, rfl⟩ := Statement.compile_eq_ok htext
  have hdata : s.tokens.flatMap Token.binds = s.data := (regular_of_build hs).aligned htarget
  have hissues : (s.marks d).filterMap Mark.issue? = s.data.zipIdx 1 := by
    rw [← hdata]
    exact Token.issues_allMarks d 0 s.tokens
  refine ⟨?_, ?_, hissues, ascending_numbers hissues, fun n b => getElem?_of_place_mem hissues⟩
  · rw [Statement.marks, Token.pieces_allMarks, Token.render]
  · rw [Token.counter_eq, hdata, Nat.zero_add]

/-- A fragment with too many values, one with too few, and sub-queries: the number of the last
    place counts all values before it. -/
def unevenScript : Script :=
  [.fromSource (.query [.fromSource (.table "orders"),
      .compareRaw .wheres .and ⟨"a = ? OR b", [.bool true, .bool false]⟩]),
   .compare .wheres .and (.raw ⟨"? + ?", [.int64 1]⟩) "=" (.query [.limit (.bind (.int64 2))]),
   .among .or (.name "id") (.values [.bind (.int64 3), .bind (.int64 4)]) false,
   .offset (.bind (.int64 5))]

theorem numbering_unevenScript :
    ∃ s text, unevenScript.build = .ok s ∧ s.compile .postgres = .ok text ∧
      s.data = [.bool true, .bool false, .int64 1, .int64 2, .int64 3, .int64 4, .int64 5] ∧
      ((s.marks .postgres).filterMap Mark.piece?).filterMap Piece.number? = [1, 3, 4, 5, 6, 7] ∧
      text = Piece.renderAll .postgres ((s.marks .postgres).filterMap Mark.piece?) ∧
      Token.counter 0 s.tokens = s.data.length ∧
      (s.marks .postgres).filterMap Mark.issue? = s.data.zipIdx 1 ∧
      (((s.marks .postgres).filterMap Mark.piece?).filterMap Piece.number?).Pairwise (· < ·) ∧
      ∀ n b, Mark.place n b ∈ s.marks .postgres → 1 ≤ n ∧ s.data[n - 1]? = some b := by
  have hbuild : unevenScript.build = .ok _ := rfl
  exact ⟨_, _, hbuild, rfl, rfl, by decide, numbering .postgres hbuild rfl⟩

end SqlBuilder
