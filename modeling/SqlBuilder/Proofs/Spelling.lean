import SqlBuilder.Proofs.Lexemes
import SqlBuilder.Proofs.Neat
import SqlBuilder.Proofs.Rendering

namespace SqlBuilder

open Identifier (cutCast)

/-!
# How columns to write are spelled

The columns of rows and of assignments, and the columns to return, may come from anywhere, for
instance from the keys of a JSON object.  Each is written as its parts in quotes, with points
between them; only PostgreSQL has casts in names, and writes them as they stand.

* `Driver.Spells`, `Driver.SpellsAll` — how a name is written, and a list of names;
* `scan_wrapNames` — a scanner reads names without casts as their parts, and nothing else;
* `eq_cast_of_not_castFree` — a name with a cast is cut at the first `::`;
* `Driver.spells_wrapName` — so the dialects spell every name;
* `spelling` — the names in the text of an insertion and of an update;
* `unquoted_castKey` — behind `::`, PostgreSQL writes a name without quotes.
-/

/-! ### Names -/

/-- How a name is written.  A scanner of quoted identifiers finds nothing in it but the parts of
    the name, points between them, and stars.  In PostgreSQL this is so up to the first `::`; the
    rest of the name is written as it stands. -/
inductive Driver.Spells (d : Driver) : String → String → Prop
  | quoted {name text : String} : d.CastFree name →
      scan d.quoteMark .outside text.toList = some (pathLexemes name) → Spells d name text
  | cast {path type text : String} : d = .postgres → ¬[':', ':'] <:+: path.toList ++ [':'] →
      scan d.quoteMark .outside text.toList = some (pathLexemes path) →
      Spells d (path ++ "::" ++ type) (text ++ "::" ++ type)

/-- How a list of names is written: each name by itself, with commas between them.  Without casts
    the scanner finds the names and the commas, and nothing else. -/
structure Driver.SpellsAll (d : Driver) (names : List String) (text : String) : Prop where
  each : ∃ texts, List.Forall₂ d.Spells names texts ∧ text = ", ".intercalate texts
  whole : (∀ c ∈ names, d.CastFree c) → scan d.quoteMark .outside text.toList =
    some ([.plain ',', .plain ' '].intercalate (names.map pathLexemes))

/-- Words of the vocabulary have no quotes. -/
theorem legible_of_mem_vocabulary {ps : List Phrase} (d : Driver)
    (h : ∀ w, .word w ∈ ps → w ∈ vocabulary) : ∀ p ∈ ps, p.Legible d.quoteMark := by
  intro p hp
  cases p with
  | word w =>
    have hfixed : d.Fixed w := .inl (h w hp)
    exact hfixed.legible
  | identifier _ => trivial

/-- A scanner finds in a list of names their parts, with commas between the names. -/
theorem scan_wrapNames {d : Driver} {names : List String} (h : ∀ c ∈ names, d.CastFree c) :
    scan d.quoteMark .outside (", ".intercalate (names.map d.dialect.wrapName)).toList =
      some ([.plain ',', .plain ' '].intercalate (names.map pathLexemes)) := by
  have hchars : (", ".intercalate (names.map d.dialect.wrapName)).toList =
      (pathListPhrases names).flatMap (Phrase.chars d.quoteMark) := by
    rw [← Token.toList_renderAll_names h, ← renderAll_intersperse d.dialect, List.map_map]
    rfl
  have hlexemes : (pathListPhrases names).flatMap Phrase.lexemes =
      [.plain ',', .plain ' '].intercalate (names.map pathLexemes) := by
    rw [pathListPhrases, flatMap_intercalate_eq, List.map_map]
    congr 1
    exact List.map_congr_left fun c _ => Token.lexemes_path d c
  have hwords : ∀ w, .word w ∈ pathListPhrases names → w ∈ vocabulary := fun w =>
    mem_vocabulary_of_mem_pathListPhrases
  have hlegible := legible_of_mem_vocabulary d hwords
  rw [hchars, scan_phrases hlegible (isChain_pathListPhrases names), hlexemes]

theorem scan_wrapName {d : Driver} {name : String} (h : d.CastFree name) :
    scan d.quoteMark .outside (d.dialect.wrapName name).toList = some (pathLexemes name) := by
  have hnames := scan_wrapNames (List.forall_mem_singleton.2 h)
  simpa using hnames

/-! ### Casts -/

/-- What is not cut has no `::`. -/
theorem not_cast_of_cutCast_none {cs path : List Char} (h : cutCast cs = (path, none)) :
    ¬[':', ':'] <:+: cs := by
  fun_induction cutCast cs generalizing path with
  | case1 => decide
  | case2 cs => cases h
  | case3 c cs hcast path' type hcut ih =>
    obtain ⟨rfl, rfl⟩ := Prod.mk.inj h
    intro hinside
    rcases List.infix_cons_iff.1 hinside with ⟨rest, hstart⟩ | hrest
    · obtain ⟨hc, hcs⟩ := List.cons.inj hstart
      exact hcast rest hc.symm hcs.symm
    · exact ih hcut hrest

/-- A text is cut at its first `::`. -/
theorem not_cast_of_cutCast_some {cs path type : List Char} (h : cutCast cs = (path, some type)) :
    ¬[':', ':'] <:+: path ++ [':'] := by
  fun_induction cutCast cs generalizing path with
  | case1 => cases h
  | case2 cs =>
    cases h
    decide
  | case3 c cs hcast path' type' hcut ih =>
    obtain ⟨rfl, rfl⟩ := Prod.mk.inj h
    intro hinside
    rcases List.infix_cons_iff.1 hinside with ⟨rest, hstart⟩ | hrest
    · -- The cut would have been made here.
      obtain ⟨hc, hpath⟩ := List.cons.inj hstart
      have hpath : path' ++ [':'] = ':' :: rest := hpath.symm
      have hcs : cs = ':' :: (rest ++ ':' :: type) := by
        rw [Identifier.eq_of_cutCast_some hcut, List.append_cons, hpath, List.cons_append]
      exact hcast _ hc.symm hcs
    · exact ih hcut hrest

/-- A name with a cast is cut at the first `::`, and only the part in front is written part by
    part. -/
theorem eq_cast_of_not_castFree {d : Driver} {name : String} (h : ¬ d.CastFree name) :
    ∃ path type, d = .postgres ∧ name = path ++ "::" ++ type ∧
      ¬[':', ':'] <:+: path.toList ++ [':'] ∧
      d.dialect.wrapName name = d.dialect.wrapName path ++ "::" ++ type := by
  obtain ⟨rfl, hcast⟩ : d = .postgres ∧ [':', ':'] <:+: name.toList := by
    simpa [Driver.CastFree] using h
  cases hcut : cutCast name.toList with
  | mk path o =>
    cases o with
    | none => exact absurd hcast (not_cast_of_cutCast_none hcut)
    | some type =>
      have hname : name = String.ofList path ++ "::" ++ String.ofList type := by
        rw [← String.toList_inj]
        simp [Identifier.eq_of_cutCast_some hcut]
      have hfirst := not_cast_of_cutCast_some hcut
      have hfree : Driver.postgres.CastFree (String.ofList path) := by
        intro _ hinside
        rw [String.toList_ofList] at hinside
        exact hfirst (hinside.trans (List.prefix_append _ _).isInfix)
      refine ⟨String.ofList path, String.ofList type, rfl, hname, by simpa using hfirst, ?_⟩
      rw [hfree.wrapName_eq]
      show Identifier.dottedWithCast _ name = _
      rw [Identifier.dottedWithCast, hcut]
      rfl

/-! ### Every name is spelled -/

namespace Driver

theorem spells_wrapName (d : Driver) (name : String) : d.Spells name (d.dialect.wrapName name) := by
  by_cases h : d.CastFree name
  · exact .quoted h (scan_wrapName h)
  · obtain ⟨path, type, hd, hname, hfirst, hwrap⟩ := eq_cast_of_not_castFree h
    have hpath : d.CastFree path := fun _ hcast =>
      hfirst (hcast.trans (List.prefix_append _ _).isInfix)
    rw [hwrap, hname]
    exact .cast hd hfirst (scan_wrapName hpath)

theorem spells_wrapNames (d : Driver) (names : List String) :
    List.Forall₂ d.Spells names (names.map d.dialect.wrapName) := by
  induction names with
  | nil => exact .nil
  | cons name names ih => exact .cons (d.spells_wrapName name) ih

theorem spellsAll_wrapNames (d : Driver) (names : List String) :
    d.SpellsAll names (", ".intercalate (names.map d.dialect.wrapName)) where
  each := ⟨_, d.spells_wrapNames names, rfl⟩
  whole h := scan_wrapNames h

end Driver

/-- **Spelling.**  The columns in the text of an insertion, the columns to return, and the columns
    that an update assigns are spelled as names, whatever characters they have: nothing of them
    stands outside quotes but points, lone stars and, in PostgreSQL, `::` with all that follows
    it. -/
theorem spelling (d : Driver) {s : Statement} {text : String} (h : s.compile d.dialect = .ok text) :
    (s.kind = some .insert → ∃ columns rows returning, d.SpellsAll s.rowColumns columns ∧
      d.SpellsAll s.returning returning ∧
      rows = ", ".intercalate ((renderRows d.dialect
        ((targetTokens s.table s.source).flatMap Token.binds).length s.rows).map fun tuple =>
          "( " ++ ", ".intercalate tuple ++ " )") ∧
      text = Token.render d.dialect 0 s.insertHead ++
        (if s.rowColumns.isEmpty then "" else " ( " ++ columns ++ " ) VALUES " ++ rows) ++
        (d.dialect.conflictText s.skipConflicts ++
          if s.returning.isEmpty || !d.dialect.supportsReturning then ""
          else " RETURNING " ++ returning)) ∧
    (s.kind = some .update → ∃ columns values n,
      List.Forall₂ d.Spells (s.assignments.map (·.column)) columns ∧
      values = Token.renderEach d.dialect
        ((targetTokens s.table s.source).flatMap Token.binds).length
        (s.assignments.map (·.value.tokens)) ∧
      text = "UPDATE " ++ Token.render d.dialect 0 (targetTokens s.table s.source) ++
        (if s.assignments.isEmpty then ""
          else " SET " ++ ", ".intercalate
            (List.zipWith (fun column value => column ++ " = " ++ value) columns values)) ++
        Token.render d.dialect n (Token.following (filterTokens .WHERE s.wheres))) := by
  obtain ⟨_, rfl⟩ := Statement.compile_eq_ok h
  refine ⟨fun hkind => ?_, fun hkind => ?_⟩
  · exact ⟨_, _, _, d.spellsAll_wrapNames s.rowColumns, d.spellsAll_wrapNames s.returning, rfl,
      Statement.render_insert d.dialect hkind⟩
  · obtain ⟨n, htext⟩ := Statement.render_update d.dialect hkind
    have hcolumns := d.spells_wrapNames (s.assignments.map (·.column))
    rw [List.map_map] at hcolumns
    exact ⟨_, _, n, hcolumns, rfl, htext⟩

/-- A row from a JSON object with hostile keys, and columns to return. -/
def hostileKeys : Script :=
  [.table (.table "t"),
   .insert [.json (.object [("b\"; DROP TABLE t --", .null), ("a\".*.", .bool true)])],
   .returning ["*", "c d::text"]]

/-- The text of the insertion in PostgreSQL. -/
def hostileKeysText : String :=
  "INSERT INTO \"t\" ( \"a\"\"\".*.\"\", \"b\"\"; DROP TABLE t --\" ) VALUES ( $1, $2 ) " ++
    "RETURNING *, \"c d\"::text"

theorem spelling_hostileKeys :
    ∃ s, hostileKeys.build = .ok s ∧ s.kind = some .insert ∧
      s.compile .postgres = .ok hostileKeysText ∧
      ∃ columns rows returning,
        Driver.postgres.SpellsAll ["a\".*.", "b\"; DROP TABLE t --"] columns ∧
        Driver.postgres.SpellsAll ["*", "c d::text"] returning ∧
        hostileKeysText = "INSERT INTO \"t\"" ++ (" ( " ++ columns ++ " ) VALUES " ++ rows) ++
          (" RETURNING " ++ returning) := by
  obtain ⟨s, hbuild, hkind, hcolumns, hreturning, hfront, hconflict, htext⟩ : ∃ s,
      hostileKeys.build = .ok s ∧ s.kind = some .insert ∧
      s.rowColumns = ["a\".*.", "b\"; DROP TABLE t --"] ∧ s.returning = ["*", "c d::text"] ∧
      Token.render .postgres 0 s.insertHead = "INSERT INTO \"t\"" ∧
      Dialect.postgres.conflictText s.skipConflicts = "" ∧
      s.compile .postgres = .ok hostileKeysText :=
    ⟨_, rfl, rfl, by decide +kernel, rfl, by decide +kernel, rfl, by decide +kernel⟩
  obtain ⟨hinsert, _⟩ := spelling .postgres htext
  obtain ⟨columns, rows, returning, hspelled, hreturned, _, heq⟩ := hinsert hkind
  have hfront : Token.render Driver.postgres.dialect 0 s.insertHead = "INSERT INTO \"t\"" := hfront
  have hconflict : Driver.postgres.dialect.conflictText s.skipConflicts = "" := hconflict
  rw [hcolumns] at hspelled
  rw [hreturning] at hreturned
  rw [hfront, hconflict, hcolumns, hreturning, String.empty_append] at heq
  exact ⟨s, hbuild, hkind, htext, columns, rows, returning, hspelled, hreturned, heq⟩

/-- A row from a JSON object whose key has `::` in it. -/
def castKey : Script :=
  [.table (.table "t"), .insert [.json (.object [("id::int ) SELECT 1 --", .bool true)])]]

/-- Its column in PostgreSQL. -/
def castKeyColumn : String := "\"id\"::int ) SELECT 1 --"

/-- Not every column is written in quotes altogether. -/
theorem unquoted_castKey :
    ∃ s, castKey.build = .ok s ∧ s.kind = some .insert ∧
      s.rowColumns = ["id::int ) SELECT 1 --"] ∧
      s.compile .postgres =
        .ok ("INSERT INTO \"t\" ( " ++ castKeyColumn ++ " ) VALUES ( $1 )") ∧
      ¬ ∃ xs, scan '"' .outside castKeyColumn.toList = some xs ∧
        ∀ c, .plain c ∈ xs → c ∈ ['.', '*', ',', ' '] := by
  refine ⟨_, rfl, rfl, rfl, by decide +kernel, ?_⟩
  rintro ⟨xs, hscan, hplain⟩
  have hxs : scan '"' .outside castKeyColumn.toList =
      some (.identifier ['i', 'd'] :: "::int ) SELECT 1 --".toList.map .plain) := by
    decide +kernel
  rw [hxs] at hscan
  cases hscan
  have hcolon := hplain ':' (by decide +kernel)
  exact absurd hcolon (by decide)

end SqlBuilder
