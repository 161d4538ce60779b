import SqlBuilder.Database.Driver
import SqlBuilder.Proofs.Clauses
import SqlBuilder.Proofs.Lexer

namespace SqlBuilder

open Identifier (segmentsOf dotted doubled quoteWith)

/-!
# The vocabulary of the text

Without fragments, all that the library writes is words of a fixed list and quoted identifiers.

* `vocabulary`, `Driver.Fixed` — the list, and the list with the places of a driver's dialect;
* `Token.phrases`, `Token.allPhrases` — the words and the identifiers of tokens;
* `Driver.CastFree`, `Token.Plain` — names without a cast, and tokens made of such names;
* `fixed_of_mem_allPhrases` — every word is on the list;
* `toList_render` — plain tokens are written as their phrases.
-/

/-- The words of the clauses. -/
def keywords : List String :=
  ["SELECT", "FROM", "WHERE", "HAVING", "LIMIT", "OFFSET", "GROUP BY", "ORDER BY", "DELETE",
   "UPDATE", "SET", "INTO", "VALUES", "RETURNING", "INNER JOIN", "LEFT JOIN", "ON", "AND", "OR",
   "BETWEEN", "NOT BETWEEN", "IN", "NOT IN", "IS NULL", "IS NOT NULL", "as", "INSERT",
   "INSERT IGNORE", "INSERT OR IGNORE", "ON CONFLICT DO NOTHING"]

/-- All that stands outside quotes, but for the places. -/
def vocabulary : List String :=
  keywords ++ ["COUNT", "SUM", "AVG", "MIN", "MAX"] ++ Operator.all.map Operator.text ++
    ["ASC", "DESC", "*", ".", ",", "(", ")", " ", "0 = 1", "1 = 1"]

namespace Driver

/-- The quote character of the driver's dialect. -/
def quoteMark : Driver → Char
  | mysql => '`'
  | postgres => '"'
  | sqlite => '"'

/-- A word of the vocabulary, or the place of a value. -/
def Fixed (d : Driver) (w : String) : Prop :=
  w ∈ vocabulary ∨ ∃ k, w = d.dialect.placeholder k

/-- A name that is not written with a cast: only PostgreSQL takes `::` for one. -/
def CastFree (d : Driver) (s : String) : Prop := d = .postgres → ¬[':', ':'] <:+: s.toList

theorem dialect_quote (d : Driver) : d.dialect.quote = quoteWith d.quoteMark := by
  cases d <;> rfl

/-- A text without `::` is all path. -/
theorem cutCast_eq_none {cs : List Char} (h : ¬[':', ':'] <:+: cs) :
    Identifier.cutCast cs = (cs, none) := by
  rcases hcut : Identifier.cutCast cs with ⟨path, _ | type⟩
  · rw [Identifier.eq_of_cutCast_none hcut]
  · exact absurd ⟨path, type, by simp [Identifier.eq_of_cutCast_some hcut]⟩ h

/-- A name without a cast is written part by part. -/
theorem CastFree.wrapName_eq {d : Driver} {s : String} (h : d.CastFree s) :
    d.dialect.wrapName s = dotted (quoteWith d.quoteMark) s := by
  cases d with
  | mysql => rfl
  | sqlite => rfl
  | postgres =>
    show Identifier.dottedWithCast (quoteWith '"') s = _
    rw [Identifier.dottedWithCast, cutCast_eq_none (h rfl)]
    show dotted _ (String.ofList s.toList) = _
    rw [String.ofList_toList]
    rfl

/-- No word of a driver's text has a quote, and none is empty. -/
theorem Fixed.legible {d : Driver} {w : String} (h : d.Fixed w) :
    (Phrase.word w).Legible d.quoteMark := by
  rcases h with h | ⟨k, rfl⟩
  · have hall : ∀ d : Driver, ∀ w ∈ vocabulary, w ≠ "" ∧ d.quoteMark ∉ w.toList := by
      intro d
      cases d <;> decide +kernel
    exact hall d w h
  · cases d with
    | mysql => exact (by decide : (Phrase.word "?").Legible mysql.quoteMark)
    | sqlite => exact (by decide : (Phrase.word "?").Legible sqlite.quoteMark)
    | postgres =>
      refine ⟨by simp [dialect, Dialect.postgres], fun hmem => ?_⟩
      -- Behind the `$` there are only digits.
      rcases List.mem_append.1 (String.toList_append ▸ hmem) with hmem | hmem
      · exact absurd hmem (by decide)
      · have hdigit := Nat.isDigit_of_mem_toDigits (by decide) (by decide)
          (show '"' ∈ Nat.toDigits 10 k by simpa [quoteMark] using hmem)
        exact absurd hdigit (by decide)

end Driver

/-! ### The phrases of tokens -/

/-- The vocabulary in a word: its text without the spaces, commas and parentheses run together. -/
def Word.parts : Word → List String
  | .comma => [",", " "]
  | .opening => ["(", " "]
  | .closing => [" ", ")"]
  | w => [w.text]

/-- A part of a path: a star, or an identifier. -/
def segmentPhrase (s : List Char) : Phrase := if s = ['*'] then .word "*" else .identifier s

/-- The parts of a path with points between them. -/
def pathPhrases (s : String) : List Phrase :=
  [Phrase.word "."].intercalate ((segmentsOf s.toList).map fun part => [segmentPhrase part])

/-- The phrases of names with commas between them. -/
def pathListPhrases (names : List String) : List Phrase :=
  [Phrase.word ",", .word " "].intercalate (names.map pathPhrases)

namespace Token

/-- The phrases of a token after `n` numbers.  A fragment has none: it is not written in phrases. -/
def phrases (d : Driver) (n : Nat) : Token → List Phrase
  | .word w => w.parts.map .word
  | .path s => pathPhrases s
  | .identifier s => [.identifier s.toList]
  | .place _ => [.word (d.dialect.placeholder (n + 1))]
  | .insertVerb skip => [.word (d.dialect.insertVerb skip), .word " "]
  | .onConflict skip =>
    if (d.dialect.onConflict skip).isEmpty then []
    else [.word " ", .word (d.dialect.onConflict skip)]
  | .returning columns =>
    if columns.isEmpty || !d.dialect.supportsReturning then []
    else [.word " ", .word "RETURNING", .word " "] ++ pathListPhrases columns
  | .fragment _ | .spacedFragment _ | .queryTarget => []

/-- The phrases of a list of tokens after `n` numbers. -/
def allPhrases (d : Driver) (n : Nat) : List Token → List Phrase
  | [] => []
  | t :: ts => t.phrases d n ++ allPhrases d (t.next n) ts

/-- No fragment, and no name with a cast. -/
def Plain (d : Driver) : Token → Prop
  | .fragment _ | .spacedFragment _ => False
  | .path s => d.CastFree s
  | .returning columns => ∀ c ∈ columns, d.CastFree c
  | _ => True

end Token

/-! ### Every word is on the list -/

theorem Word.mem_vocabulary (w : Word) : ∀ p ∈ w.parts, p ∈ vocabulary := by
  cases w with
  | operator o => cases o <;> decide
  | direction d => cases d <;> decide
  | function f => cases f <;> decide
  | _ => decide

theorem mem_vocabulary_of_mem_pathPhrases {s w : String} (h : .word w ∈ pathPhrases s) :
    w ∈ vocabulary := by
  rcases mem_intercalate h with h | ⟨ts, hts, h⟩
  · obtain rfl : w = "." := by simpa using h
    decide
  · obtain ⟨part, _, rfl⟩ := List.mem_map.1 hts
    have h := List.mem_singleton.1 h
    rw [segmentPhrase] at h
    split at h
    · obtain rfl : w = "*" := by simpa using h
      decide
    · cases h

theorem mem_vocabulary_of_mem_pathListPhrases {names : List String} {w : String}
    (h : .word w ∈ pathListPhrases names) : w ∈ vocabulary := by
  rcases mem_intercalate h with h | ⟨ts, hts, h⟩
  · obtain rfl | rfl : w = "," ∨ w = " " := by simpa using h
    · decide
    · decide
  · obtain ⟨s, _, rfl⟩ := List.mem_map.1 hts
    exact mem_vocabulary_of_mem_pathPhrases h

namespace Token

/-- A word of a token is on the list, or is a place. -/
theorem fixed_of_mem_phrases {d : Driver} {n : Nat} {t : Token} {w : String}
    (h : .word w ∈ t.phrases d n) : d.Fixed w := by
  cases t with
  | word v =>
    obtain ⟨p, hp, heq⟩ := List.mem_map.1 h
    cases heq
    exact .inl (v.mem_vocabulary _ hp)
  | path s => exact .inl (mem_vocabulary_of_mem_pathPhrases h)
  | identifier s => cases List.mem_singleton.1 h
  | place b =>
    cases List.mem_singleton.1 h
    exact .inr ⟨n + 1, rfl⟩
  | insertVerb skip =>
    obtain rfl | rfl : w = d.dialect.insertVerb skip ∨ w = " " := by simpa [phrases] using h
    · cases d <;> cases skip <;> exact .inl (by decide)
    · exact .inl (by decide)
  | onConflict skip =>
    rw [phrases] at h
    split at h
    · cases h
    · rename_i hne
      obtain rfl | rfl : w = " " ∨ w = d.dialect.onConflict skip := by simpa using h
      · exact .inl (by decide)
      · -- The dialects without such a word have been dealt with by `hne`.
        cases d <;> cases skip <;> first | exact absurd rfl hne | exact .inl (by decide)
  | returning columns =>
    rw [phrases] at h
    split at h
    · cases h
    · rcases List.mem_append.1 h with h | h
      · obtain rfl | rfl | rfl : w = " " ∨ w = "RETURNING" ∨ w = " " := by simpa using h
        · exact .inl (by decide)
        · exact .inl (by decide)
        · exact .inl (by decide)
      · exact .inl (mem_vocabulary_of_mem_pathListPhrases h)
  | _ => cases h

/-- Every word of a list of tokens is on the list, or is a place. -/
theorem fixed_of_mem_allPhrases {d : Driver} {n : Nat} {ts : List Token} {w : String}
    (h : .word w ∈ allPhrases d n ts) : d.Fixed w := by
  induction ts generalizing n with
  | nil => cases h
  | cons t ts ih =>
    rcases List.mem_append.1 h with h | h
    · exact fixed_of_mem_phrases h
    · exact ih h

end Token

/-! ### Plain tokens are written as their phrases -/

theorem Word.chars_parts (q : Char) (w : Word) :
    (w.parts.map Phrase.word).flatMap (Phrase.chars q) = w.text.toList := by
  cases w <;> first | rfl | simp [parts, Phrase.chars]

/-- A dotted path is written as its parts. -/
theorem chars_pathPhrases (q : Char) (s : String) :
    (pathPhrases s).flatMap (Phrase.chars q) = (dotted (quoteWith q) s).toList := by
  have hpart : ∀ part : List Char,
      [segmentPhrase part].flatMap (Phrase.chars q) = Identifier.segment (quoteWith q) part := by
    intro part
    rw [segmentPhrase, Identifier.segment]
    split
    · rename_i h
      rw [h]
      rfl
    · simp [Phrase.chars, quoteWith]
  -- The point between the parts is the same on both sides.
  rw [pathPhrases, flatMap_intercalate_eq, List.map_map, dotted, String.toList_ofList]
  congr 1
  exact List.map_congr_left fun part _ => hpart part

namespace Token

/-- The characters of a text of pieces, piece by piece. -/
theorem toList_renderAll (d : Dialect) (ps : List Piece) :
    (Piece.renderAll d ps).toList = ps.flatMap fun p => (p.render d).toList := by
  rw [Piece.renderAll, String.toList_ofList]

theorem toList_renderAll_names {d : Driver} {columns : List String}
    (h : ∀ c ∈ columns, d.CastFree c) :
    (Piece.renderAll d.dialect
      ((columns.map fun c => Piece.text (d.dialect.wrapName c)).intersperse (.text ", "))).toList =
      (pathListPhrases columns).flatMap (Phrase.chars d.quoteMark) := by
  have hseparator : [Piece.text ", "].flatMap (fun p => (p.render d.dialect).toList) =
      [Phrase.word ",", .word " "].flatMap (Phrase.chars d.quoteMark) := by
    simp [Piece.render, Phrase.chars]
  rw [toList_renderAll, intersperse_eq_intercalate, flatMap_intercalate_eq, pathListPhrases,
    flatMap_intercalate_eq, hseparator, List.map_map, List.map_map, List.map_map]
  congr 1
  refine List.map_congr_left fun c hc => ?_
  simp [Piece.render, chars_pathPhrases, (h c hc).wrapName_eq]

/-- A plain token is written as its phrases. -/
theorem toList_pieces {d : Driver} {t : Token} (h : t.Plain d) (n : Nat) :
    (Piece.renderAll d.dialect (t.pieces d.dialect n)).toList =
      (t.phrases d n).flatMap (Phrase.chars d.quoteMark) := by
  rw [toList_renderAll]
  cases t with
  | fragment f => exact h.elim
  | spacedFragment f => exact h.elim
  | word w => simp [pieces, phrases, Piece.render, w.chars_parts]
  | path s =>
    have h : d.CastFree s := h
    simp [pieces, phrases, Piece.render, chars_pathPhrases, h.wrapName_eq]
  | identifier s =>
    simp [pieces, phrases, Piece.render, d.dialect_quote, quoteWith, Phrase.chars]
  | place b => simp [pieces, phrases, Piece.render, Phrase.chars]
  | insertVerb skip =>
    cases d <;> cases skip <;> rfl
  | onConflict skip =>
    cases d <;> cases skip <;> rfl
  | returning columns =>
    rw [pieces, phrases]
    split
    · rfl
    · have hword : ((Piece.text " RETURNING ").render d.dialect).toList =
          [Phrase.word " ", .word "RETURNING", .word " "].flatMap (Phrase.chars d.quoteMark) := by
        simp [Piece.render, Phrase.chars]
      rw [List.flatMap_append, ← toList_renderAll_names h, toList_renderAll, List.flatMap_cons,
        hword]
  | queryTarget => rfl

/-- **Phrases.**  Plain tokens are written as their phrases. -/
theorem toList_render {d : Driver} {ts : List Token} (h : ∀ t ∈ ts, t.Plain d) (n : Nat) :
    (render d.dialect n ts).toList = (allPhrases d n ts).flatMap (Phrase.chars d.quoteMark) := by
  induction ts generalizing n with
  | nil => rfl
  | cons t ts ih =>
    obtain ⟨ht, hts⟩ := List.forall_mem_cons.1 h
    have ih := ih hts (t.next n)
    rw [render, toList_renderAll] at ih ⊢
    rw [allPieces, List.flatMap_append, ih, ← toList_renderAll, toList_pieces ht, allPhrases,
      List.flatMap_append]

end Token

end SqlBuilder
