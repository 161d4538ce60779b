import SqlBuilder.Proofs.Vocabulary

namespace SqlBuilder

open Identifier (segmentsOf)

/-!
# Tests behind a column

In MySQL and SQLite all places are written alike, so what the scanner finds of a token does not
depend on a counter.  A column and the test behind it end by themselves there: neither is the start
of another one.

* `Token.lexemes` — what the scanner finds of a token;
* `pathLexemes`, `pathLexemes_append_space` — a path ends at the first space;
* `Test`, `Test.eq_of_append_eq` — the words behind a column, none of them the start of others;
* `Test.members_append` — the members of a list end at the first parenthesis.
-/

/-! ### What is found of a token -/

namespace Token

/-- What the scanner finds of a token, where all places are written alike. -/
def lexemes (d : Driver) (t : Token) : List Lexeme := (t.phrases d 0).flatMap Phrase.lexemes

variable {d : Driver} (hd : d ≠ .postgres)

include hd

/-- Only PostgreSQL numbers its places. -/
theorem phrases_eq (n : Nat) (t : Token) : t.phrases d n = t.phrases d 0 := by
  cases t with
  | place b =>
    cases d with
    | postgres => exact absurd rfl hd
    | _ => rfl
  | _ => rfl

theorem flatMap_allPhrases (n : Nat) (ts : List Token) :
    (allPhrases d n ts).flatMap Phrase.lexemes = ts.flatMap (lexemes d) := by
  -- Each place moves the counter on.
  induction ts generalizing n with
  | nil => rfl
  | cons t ts ih =>
    rw [allPhrases, List.flatMap_append, ih, phrases_eq hd, List.flatMap_cons]
    rfl

theorem lexemes_place (b : Bind) : (place b).lexemes d = [.plain '?'] := by
  cases d with
  | postgres => exact absurd rfl hd
  | mysql => exact (by decide : "?".toList.map Lexeme.plain = [.plain '?'])
  | sqlite => exact (by decide : "?".toList.map Lexeme.plain = [.plain '?'])

omit hd in
@[simp] theorem lexemes_word (w : Word) : (word w).lexemes d = w.text.toList.map .plain := by
  have hchars : w.parts.flatMap (·.toList) = w.text.toList := by
    rw [← w.chars_parts d.quoteMark, List.flatMap_map]
    rfl
  rw [← hchars, List.map_flatMap, lexemes, phrases, List.flatMap_map]
  rfl

end Token

/-! ### Paths -/

/-- What is found of a part of a path. -/
def segmentLexeme (part : List Char) : Lexeme :=
  if part = ['*'] then .plain '*' else .identifier part

/-- What is found of a path. -/
def pathLexemes (s : String) : List Lexeme :=
  ((segmentsOf s.toList).map segmentLexeme).intersperse (.plain '.')

@[simp] theorem Token.lexemes_path (d : Driver) (s : String) :
    (path s).lexemes d = pathLexemes s := by
  have hpart : ∀ part, [segmentPhrase part].flatMap Phrase.lexemes = [segmentLexeme part] := by
    intro part
    rw [segmentPhrase, segmentLexeme]
    split <;> rfl
  rw [lexemes, phrases, pathPhrases, flatMap_intercalate_eq, pathLexemes,
    intersperse_eq_intercalate, List.map_map, List.map_map]
  congr 1
  exact List.map_congr_left fun part _ => hpart part

/-- The characters that a lexeme stands for. -/
def Lexeme.chars : Lexeme → List Char
  | plain c => [c]
  | identifier s => s

/-- The name can be told from what is found of it. -/
theorem flatMap_chars_pathLexemes (s : String) :
    (pathLexemes s).flatMap Lexeme.chars = s.toList := by
  have hpart : ∀ part, (segmentLexeme part).chars = part := by
    intro part
    rw [segmentLexeme]
    split
    · rename_i h
      exact h.symm
    · rfl
  -- The points come back between the parts, where the name was cut.
  rw [pathLexemes, intersperse_eq_intercalate, flatMap_intercalate_eq, List.map_map, List.map_map]
  simp only [Function.comp_def, List.flatMap_cons, List.flatMap_nil, List.append_nil, hpart,
    List.map_id']
  exact Identifier.intercalate_segmentsOf s.toList

/-- The first thing found of a path is a star or an identifier. -/
theorem pathLexemes_eq_cons (s : String) :
    ∃ part xs, pathLexemes s = segmentLexeme part :: xs := by
  obtain ⟨part, parts, hparts⟩ := List.exists_cons_of_ne_nil (Identifier.segmentsOf_ne_nil s.toList)
  rw [pathLexemes, hparts]
  cases parts with
  | nil => exact ⟨part, [], rfl⟩
  | cons _ _ => exact ⟨part, _, rfl⟩

/-- Two lists can be told apart by a mark behind them that is in neither. -/
theorem eq_of_append_cons_eq {α : Type} {a : α} {xs ys r r' : List α} (hx : a ∉ xs) (hy : a ∉ ys)
    (h : xs ++ a :: r = ys ++ a :: r') : xs = ys ∧ r = r' := by
  induction xs generalizing ys with
  | nil =>
    cases ys with
    | nil => exact ⟨rfl, List.tail_eq_of_cons_eq h⟩
    | cons y ys => exact absurd (List.head_eq_of_cons_eq h ▸ List.mem_cons_self) hy
  | cons x xs ih =>
    cases ys with
    | nil => exact absurd (List.head_eq_of_cons_eq h ▸ List.mem_cons_self) hx
    | cons y ys =>
      obtain ⟨rfl, htail⟩ : x = y ∧ xs ++ a :: r = ys ++ a :: r' := List.cons_eq_cons.1 h
      obtain ⟨rfl, hr⟩ := ih (fun h => hx (List.mem_cons_of_mem _ h))
        (fun h => hy (List.mem_cons_of_mem _ h)) htail
      exact ⟨rfl, hr⟩

/-- A path ends at the first space. -/
theorem pathLexemes_append_space {s t : String} {r r' : List Lexeme}
    (h : pathLexemes s ++ .plain ' ' :: r = pathLexemes t ++ .plain ' ' :: r') :
    s = t ∧ r = r' := by
  have hspace : ∀ s, Lexeme.plain ' ' ∉ pathLexemes s := by
    intro s hmem
    rcases mem_of_mem_intersperse hmem with h | h
    · cases h
    · obtain ⟨part, _, hpart⟩ := List.mem_map.1 h
      rw [segmentLexeme] at hpart
      split at hpart <;> cases hpart
  obtain ⟨hpath, hrest⟩ := eq_of_append_cons_eq (hspace s) (hspace t) h
  refine ⟨String.toList_inj.1 ?_, hrest⟩
  rw [← flatMap_chars_pathLexemes s, hpath, flatMap_chars_pathLexemes t]

/-! ### Tests -/

/-- What a column is tested for, but for the values. -/
inductive Test where
  | compare (o : Operator)
  | between (negated : Bool)
  | isNull (negated : Bool)
  | among (negated : Bool)
  deriving DecidableEq

namespace Test

/-- The tests. -/
def all : List Test :=
  Operator.all.map compare ++ [between false, between true, isNull false, isNull true, among false,
    among true]

/-- How the test is written behind its column, up to the members of a list. -/
def text : Test → String
  | compare o => o.text ++ " ?"
  | between negated => (if negated then "NOT BETWEEN" else "BETWEEN") ++ " ? AND ?"
  | isNull negated => if negated then "IS NOT NULL" else "IS NULL"
  | among negated => (if negated then "NOT IN" else "IN") ++ " ("

/-- What is found of the text. -/
def lexemes (t : Test) : List Lexeme := t.text.toList.map .plain

theorem mem_all (t : Test) : t ∈ all := by
  cases t with
  | compare o => cases o <;> decide
  | between negated => cases negated <;> decide
  | isNull negated => cases negated <;> decide
  | among negated => cases negated <;> decide

/-- No test is the start of another one. -/
theorem eq_of_start {t u : Test} (h : t.lexemes <+: u.lexemes) : t = u := by
  -- One operator may well be the start of another; the space behind it tells them apart.
  have hall : ∀ t ∈ all, ∀ u ∈ all, t.lexemes <+: u.lexemes → t = u := by decide +kernel
  exact hall t t.mem_all u u.mem_all h

/-- So a test ends by itself. -/
theorem eq_of_append_eq {t u : Test} {r r' : List Lexeme}
    (h : t.lexemes ++ r = u.lexemes ++ r') : t = u ∧ r = r' := by
  -- Both are starts of one list, so the shorter one is the start of the other.
  have hstart : t.lexemes <+: u.lexemes ∨ u.lexemes <+: t.lexemes :=
    List.prefix_or_prefix_of_prefix ⟨r, h⟩ ⟨r', rfl⟩
  obtain rfl : t = u := hstart.elim eq_of_start fun h => (eq_of_start h).symm
  exact ⟨rfl, List.append_cancel_left h⟩

/-- The places for the members of a list. -/
def places (n : Nat) : List Lexeme :=
  [.plain ',', .plain ' '].intercalate (List.replicate n [.plain '?'])

theorem count_places (n : Nat) : (places n).count (.plain '?') = n := by
  induction n with
  | zero => rfl
  | succ n ih =>
    -- The comma is there from the second place on.
    cases n with
    | zero => decide
    | succ n =>
      rw [places, List.replicate_succ, List.replicate_succ, List.intercalate_cons_cons,
        ← List.replicate_succ, ← places, List.count_append, List.count_append, ih]
      simp [Nat.add_comm]

theorem closing_not_mem_places (n : Nat) : Lexeme.plain ')' ∉ places n := by
  intro h
  rcases mem_intercalate h with h | ⟨ts, hts, h⟩
  · simp at h
  · rw [List.eq_of_mem_replicate hts] at h
    simp at h

/-- What is found of the members of a list, if the test has one. -/
def members : Test → Nat → List Lexeme
  | among _, n => .plain ' ' :: places n ++ [.plain ' ', .plain ')']
  | _, _ => []

/-- The test of a column, with nulls for the values. -/
def predicate (column : String) : Test → Nat → Predicate
  | compare o, _ => .compare (.name column) o (.bind .null)
  | between negated, _ => .between (.name column) (.bind .null) (.bind .null) negated
  | isNull negated, _ => .isNull (.name column) negated
  | among negated, n => .among (.name column) (List.replicate n (.bind .null)) negated

/-- The members end at the parenthesis, and their number can be told. -/
theorem members_append {t : Test} {n m : Nat} {r r' : List Lexeme}
    (h : t.members n ++ r = t.members m ++ r') (column : String) :
    t.predicate column n = t.predicate column m ∧ r = r' := by
  cases t with
  | among negated =>
    have hclosing : ∀ n, Lexeme.plain ')' ∉ Lexeme.plain ' ' :: places n ++ [.plain ' '] := by
      simp [closing_not_mem_places]
    obtain ⟨hplaces, hrest⟩ : _ ∧ r = r' :=
      eq_of_append_cons_eq (hclosing n) (hclosing m) (by simpa [members] using h)
    have hcount := congrArg (List.count (Lexeme.plain '?')) hplaces
    obtain rfl : n = m := by simpa [count_places] using hcount
    exact ⟨rfl, hrest⟩
  | _ => exact ⟨rfl, h⟩

end Test

end SqlBuilder
