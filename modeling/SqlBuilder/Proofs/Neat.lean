import SqlBuilder.Proofs.Assembly
import SqlBuilder.Proofs.Vocabulary

namespace SqlBuilder

/-!
# Identifiers that do not touch

Two quoted identifiers that touch would be read as one.  A list of tokens is neat if this cannot
happen in its text, and neat lists may be put together with a word between them.

* `Token.Neat` — tokens of plain names whose identifiers do not touch;
* `Neat.append_word`, `Neat.insertion` — neat lists with a word between them, and an insertion;
* `Neat.scan_render` — the text of neat tokens is read as their phrases;
* `Neat.closed` — neatness goes up from the parts of a statement to the whole;
* `CastFree.of_infix` — a part of a name without a cast has none, so the name is written neatly.
-/

/-! ### Identifiers that do not touch -/

section

variable {ps qs : List Phrase}

/-- Words may stand in front of everything. -/
theorem isChain_words_append (ws : List String) (h : ps.IsChain Phrase.Apart) :
    (ws.map Phrase.word ++ ps).IsChain Phrase.Apart := by
  induction ws with
  | nil => exact h
  | cons w ws ih =>
    refine ih.cons fun p _ hw => ?_
    cases hw

/-- Phrases may follow each other if the second ones do not start with an identifier. -/
theorem isChain_append_of_head? (hp : ps.IsChain Phrase.Apart) (hq : qs.IsChain Phrase.Apart)
    (h : ∀ q ∈ qs.head?, ¬q.IsIdentifier) : (ps ++ qs).IsChain Phrase.Apart :=
  hp.append hq fun _ _ q hmem _ => h q hmem

/-- Words do not start with an identifier. -/
theorem not_isIdentifier_head? {ws : List String} (hne : ws ≠ []) (ps : List Phrase) :
    ∀ q ∈ (ws.map Phrase.word ++ ps).head?, ¬q.IsIdentifier := by
  cases ws with
  | nil => exact absurd rfl hne
  | cons w ws =>
    intro q hmem hq
    cases hmem
    cases hq

/-- With words between them, phrases that do not touch do not touch. -/
theorem isChain_intercalate {ws : List String} (hne : ws ≠ []) {items : List (List Phrase)}
    (h : ∀ ps ∈ items, ps.IsChain Phrase.Apart) :
    ((ws.map Phrase.word).intercalate items).IsChain Phrase.Apart := by
  induction items with
  | nil => exact .nil
  | cons ps items ih =>
    obtain ⟨hps, hitems⟩ := List.forall_mem_cons.1 h
    cases items with
    | nil => simpa using hps
    | cons qs items =>
      rw [List.intercalate_cons_cons, List.append_assoc]
      exact isChain_append_of_head? hps (isChain_words_append ws (ih hitems))
        (not_isIdentifier_head? hne _)

theorem isChain_pathPhrases (s : String) : (pathPhrases s).IsChain Phrase.Apart := by
  refine isChain_intercalate (List.cons_ne_nil "." []) fun ps hps => ?_
  obtain ⟨part, _, rfl⟩ := List.mem_map.1 hps
  exact .singleton _

theorem isChain_pathListPhrases (names : List String) :
    (pathListPhrases names).IsChain Phrase.Apart := by
  refine isChain_intercalate (List.cons_ne_nil "," [" "]) fun ps hps => ?_
  obtain ⟨s, _, rfl⟩ := List.mem_map.1 hps
  exact isChain_pathPhrases s

end

namespace Token

variable {d : Driver} {ts us : List Token}

/-- Tokens of plain names whose identifiers do not touch, whatever the counter is. -/
structure Neat (d : Driver) (ts : List Token) : Prop where
  plain : ∀ t ∈ ts, t.Plain d
  apart : ∀ n, (allPhrases d n ts).IsChain Phrase.Apart

theorem allPhrases_append (d : Driver) (n : Nat) (ts us : List Token) :
    allPhrases d n (ts ++ us) =
      allPhrases d n ts ++ allPhrases d (n + (ts.flatMap binds).length) us := by
  induction ts generalizing n with
  | nil => rfl
  | cons t ts ih =>
    rw [List.cons_append, allPhrases, allPhrases, ih, next_eq, List.append_assoc,
      List.flatMap_cons, List.length_append, Nat.add_assoc]

namespace Neat

theorem nil : Neat d [] where
  plain t ht := by cases ht
  apart _ := .nil

/-- Neat tokens may follow each other if the second ones do not start with an identifier. -/
theorem append (hts : Neat d ts) (hus : Neat d us)
    (h : ∀ n, ∀ p ∈ (allPhrases d n us).head?, ¬p.IsIdentifier) : Neat d (ts ++ us) where
  plain t ht := (List.mem_append.1 ht).elim (hts.plain t) (hus.plain t)
  apart n := by
    rw [allPhrases_append]
    exact isChain_append_of_head? (hts.apart _) (hus.apart _) (h _)

/-- A word may stand in front of everything. -/
theorem word_cons (w : Word) (h : Neat d ts) : Neat d (.word w :: ts) where
  plain := List.forall_mem_cons.2 ⟨trivial, h.plain⟩
  apart _ := isChain_words_append w.parts (h.apart _)

/-- A word may stand between everything. -/
theorem append_word (hts : Neat d ts) (w : Word) (hus : Neat d us) :
    Neat d (ts ++ .word w :: us) := by
  refine hts.append (hus.word_cons w) fun n => ?_
  have hne : w.parts ≠ [] := by cases w <;> exact List.cons_ne_nil _ _
  exact not_isIdentifier_head? hne _

theorem place (b : Bind) : Neat d [.place b] where
  plain := List.forall_mem_singleton.2 trivial
  apart _ := .singleton _

theorem identifier (s : String) : Neat d [.identifier s] where
  plain := List.forall_mem_singleton.2 trivial
  apart _ := .singleton _

theorem path {s : String} (h : d.CastFree s) : Neat d [.path s] where
  plain := List.forall_mem_singleton.2 h
  apart n := by
    rw [allPhrases, allPhrases, List.append_nil]
    exact isChain_pathPhrases s

theorem queryTarget : Neat d [.queryTarget] where
  plain := List.forall_mem_singleton.2 trivial
  apart _ := .nil

/-- The end of an insertion, in a dialect with it or without. -/
theorem insertEnd (skip : Bool) {columns : List String} (h : ∀ c ∈ columns, d.CastFree c) :
    Neat d [.onConflict skip, .returning columns] where
  plain := List.forall_mem_cons.2 ⟨trivial, List.forall_mem_singleton.2 h⟩
  apart n := by
    have hreturning : ∀ k, ((Token.returning columns).phrases d k).IsChain Phrase.Apart := by
      intro k
      rw [phrases]
      split
      · exact .nil
      · exact isChain_words_append [" ", "RETURNING", " "] (isChain_pathListPhrases columns)
    rw [allPhrases, allPhrases, allPhrases, List.append_nil, phrases]
    split
    · exact hreturning n
    · exact isChain_words_append [" ", d.dialect.onConflict skip] (hreturning n)

/-- The end of an insertion does not start with an identifier. -/
theorem insertEnd_head? (skip : Bool) (columns : List String) (n : Nat) :
    ∀ p ∈ (allPhrases d n [.onConflict skip, .returning columns]).head?, ¬p.IsIdentifier := by
  rw [allPhrases, allPhrases, allPhrases, List.append_nil, phrases, phrases]
  -- Each part may be missing, so the first word is that of the first part that is there.
  split
  · split
    · intro p hp
      cases hp
    · exact not_isIdentifier_head? (List.cons_ne_nil " " ["RETURNING", " "]) _
  · exact not_isIdentifier_head? (List.cons_ne_nil " " [d.dialect.onConflict skip]) _

/-- An insertion: its verb, its clauses and its end. -/
theorem insertion (skip : Bool) {columns : List String} (h : Neat d ts)
    (hcolumns : ∀ c ∈ columns, d.CastFree c) :
    Neat d (.insertVerb skip :: ts ++ [.onConflict skip, .returning columns]) := by
  have hverb : Neat d (.insertVerb skip :: ts) := {
    plain := List.forall_mem_cons.2 ⟨trivial, h.plain⟩
    apart n := isChain_words_append [d.dialect.insertVerb skip, " "] (h.apart _) }
  exact hverb.append (insertEnd skip hcolumns) (insertEnd_head? skip columns)

/-- The text of neat tokens is read as their phrases. -/
theorem scan_render (h : Neat d ts) (n : Nat) :
    scan d.quoteMark .outside (render d.dialect n ts).toList =
      some ((allPhrases d n ts).flatMap Phrase.lexemes) := by
  have hlegible : ∀ p ∈ allPhrases d n ts, p.Legible d.quoteMark := by
    intro p hp
    cases p with
    | word w => exact (fixed_of_mem_allPhrases hp).legible
    | identifier _ => trivial
  rw [toList_render h.plain]
  exact scan_phrases hlegible (h.apart n)

/-- Words keep neat lists apart. -/
theorem closed (d : Driver) : Closed (Neat d) where
  nil := .nil
  append w hts hus := hts.append_word w hus

end Neat

end Token

/-! ### Names -/

namespace Driver.CastFree

variable {d : Driver} {s : String}

/-- A part of a name without a cast has none. -/
theorem of_infix {t : String} (h : d.CastFree s) (ht : t.toList <:+: s.toList) : d.CastFree t :=
  fun hd hcast => h hd (hcast.trans ht)

theorem trim (h : d.CastFree s) : d.CastFree (Text.trim s) := h.of_infix (Text.infix_trim s)

theorem empty : d.CastFree "" := fun _ h => by
  have hlength := h.length_le
  exact absurd hlength (by decide)

/-- A name without a cast is written neatly. -/
theorem neat_nameTokens (h : d.CastFree s) : Token.Neat d (nameTokens s) :=
  (Token.Neat.closed d).nameTokens (fun _ ht => .path (h.of_infix ht)) fun t _ => .identifier t

end Driver.CastFree

end SqlBuilder
