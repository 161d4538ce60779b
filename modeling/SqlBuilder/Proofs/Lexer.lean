import Mathlib.Data.List.Chain
import SqlBuilder.Dialect.Identifier

namespace SqlBuilder

open Identifier (doubled)

/-!
# Reading quoted identifiers

A scanner that knows nothing of SQL but its quoted identifiers.  The quote character opens one, two
of them inside stand for one, and a single one closes it.

* `Lexeme`, `Mode`, `scan` — the scanner; it fails if the text ends inside an identifier;
* `Phrase` — a word that is written as it stands, or an identifier that is written quoted;
* `scan_identifier` — a quoted identifier is read back, unless a quote follows it;
* `scan_phrases` — phrases are read back as they are, if no identifier follows another at once.
-/

/-- A character outside quotes, or an identifier without its quotes. -/
inductive Lexeme where
  | plain (c : Char)
  | identifier (s : List Char)
  deriving DecidableEq

/-- Where the scanner is. -/
inductive Mode where
  | outside
  /-- In an identifier that starts with `s`. -/
  | inside (s : List Char)
  /-- Behind a quote that ends the identifier `s` or is the first of two in it. -/
  | behindQuote (s : List Char)

/-- The lexemes of a text.  There are none if the text ends inside an identifier. -/
def scan (q : Char) : Mode → List Char → Option (List Lexeme)
  | .outside, [] => some []
  | .inside _, [] => none
  | .behindQuote s, [] => some [.identifier s]
  | .outside, c :: cs =>
    if c = q then scan q (.inside []) cs else (scan q .outside cs).map (.plain c :: ·)
  | .inside s, c :: cs =>
    if c = q then scan q (.behindQuote s) cs else scan q (.inside (s ++ [c])) cs
  | .behindQuote s, c :: cs =>
    if c = q then scan q (.inside (s ++ [q])) cs
    else (scan q .outside cs).map (.identifier s :: .plain c :: ·)

/-! ### Phrases -/

/-- A word that is written as it stands, or an identifier that is written quoted. -/
inductive Phrase where
  | word (w : String)
  | identifier (s : List Char)
  deriving DecidableEq

namespace Phrase

/-- How a phrase is written. -/
def chars (q : Char) : Phrase → List Char
  | word w => w.toList
  | identifier s => q :: doubled q s ++ [q]

/-- What a phrase should be read as. -/
def lexemes : Phrase → List Lexeme
  | word w => w.toList.map .plain
  | identifier s => [.identifier s]

/-- A word has a character, and none of its characters is a quote. -/
def Legible (q : Char) : Phrase → Prop
  | word w => w ≠ "" ∧ q ∉ w.toList
  | identifier _ => True

instance (q : Char) (w : String) : Decidable ((word w).Legible q) :=
  inferInstanceAs (Decidable (w ≠ "" ∧ q ∉ w.toList))

/-- The phrase is an identifier. -/
def IsIdentifier : Phrase → Prop
  | word _ => False
  | identifier _ => True

/-- Two phrases that may follow each other: the quotes of two identifiers would be read as one. -/
def Apart (a b : Phrase) : Prop := a.IsIdentifier → ¬b.IsIdentifier

end Phrase

/-! ### Reading back -/

/-- Words without a quote are read character by character. -/
theorem scan_word {q : Char} {cs : List Char} (h : q ∉ cs) (rest : List Char) :
    scan q .outside (cs ++ rest) = (scan q .outside rest).map (cs.map .plain ++ ·) := by
  induction cs with
  | nil => simp
  | cons c cs ih =>
    obtain ⟨hc, hcs⟩ := not_or.1 (List.mem_cons.not.1 h)
    rw [List.cons_append, scan, if_neg (Ne.symm hc), ih hcs, Option.map_map]
    rfl

/-- The text between two quotes is read as it was before its quotes were doubled. -/
theorem scan_doubled (q : Char) (s cs rest : List Char) :
    scan q (.inside s) (doubled q cs ++ q :: rest) = scan q (.behindQuote (s ++ cs)) rest := by
  induction cs generalizing s with
  | nil => simp [doubled, scan]
  | cons c cs ih =>
    by_cases hc : c = q
    · -- A quote is written twice: the scanner passes through `behindQuote` and back.
      subst hc
      simp [doubled, scan, ih]
    · simp [doubled, scan, hc, ih]

/-- A quote ends the identifier if no other one follows. -/
theorem scan_behindQuote {q : Char} (s : List Char) {rest : List Char}
    (h : rest.head? ≠ some q) :
    scan q (.behindQuote s) rest = (scan q .outside rest).map (.identifier s :: ·) := by
  cases rest with
  | nil => rfl
  | cons c rest =>
    have hc : c ≠ q := by simpa using h
    rw [scan, scan, if_neg hc, if_neg hc, Option.map_map]
    rfl

/-- A quoted identifier is read back, unless a quote follows it. -/
theorem scan_identifier {q : Char} (s : List Char) {rest : List Char}
    (h : rest.head? ≠ some q) :
    scan q .outside ((Phrase.identifier s).chars q ++ rest) =
      (scan q .outside rest).map (.identifier s :: ·) := by
  show scan q .outside (q :: doubled q s ++ [q] ++ rest) = _
  rw [List.append_assoc, List.cons_append, scan, if_pos rfl, List.singleton_append, scan_doubled,
    List.nil_append, scan_behindQuote s h]

/-- A phrase that is no identifier does not start with a quote. -/
theorem Phrase.head?_chars_ne {q : Char} {ps : List Phrase} (hq : ∀ p ∈ ps, p.Legible q)
    (h : ∀ p ∈ ps.head?, ¬p.IsIdentifier) : (ps.flatMap (chars q)).head? ≠ some q := by
  cases ps with
  | nil =>
    intro h
    cases h
  | cons p ps =>
    cases p with
    | identifier s => exact absurd trivial (h _ rfl)
    | word w =>
      obtain ⟨hne, hw⟩ := hq _ List.mem_cons_self
      obtain ⟨c, cs, hcs⟩ := List.exists_cons_of_ne_nil (mt String.toList_eq_nil_iff.1 hne)
      have hc : c ≠ q := by
        rintro rfl
        exact hw (hcs ▸ List.mem_cons_self)
      simpa [chars, hcs] using hc

/-- **Reading back.**  Phrases are read back as they are, if no identifier follows another at once.
    In particular the text ends outside quotes. -/
theorem scan_phrases {q : Char} {ps : List Phrase} (hq : ∀ p ∈ ps, p.Legible q)
    (h : ps.IsChain Phrase.Apart) :
    scan q .outside (ps.flatMap (Phrase.chars q)) = some (ps.flatMap Phrase.lexemes) := by
  induction ps with
  | nil => rfl
  | cons p ps ih =>
    obtain ⟨hp, hps⟩ := List.forall_mem_cons.1 hq
    have ih := ih hps h.tail
    rw [List.flatMap_cons, List.flatMap_cons]
    cases p with
    | word w =>
      show scan q .outside (w.toList ++ _) = _
      rw [scan_word hp.2, ih]
      rfl
    | identifier s =>
      -- No identifier follows at once, so the next character is no quote.
      have hnext : ∀ p ∈ ps.head?, ¬p.IsIdentifier := by
        intro p hmem
        cases ps with
        | nil => cases hmem
        | cons p' ps =>
          cases hmem
          exact (List.isChain_cons_cons.1 h).1 trivial
      rw [scan_identifier s (Phrase.head?_chars_ne hps hnext), ih]
      rfl

end SqlBuilder
