import SqlBuilder.Proofs.Vocabulary

namespace SqlBuilder

open Identifier (doubled quoteWith segmentsOf dotted cutCast)

/-!
# Wrapped names can be read back

A wrapped name is a path whose parts are stars or stand in quotes, and in PostgreSQL a type may
follow it.  A reader that knows this much and nothing of names finds the name again, so no two names
are wrapped to the same text.

* `NamePart`, `NameReading` — how a wrapped name reads, and what it is written as;
* `readQuoted`, `readPart`, `readName` — a reader of such texts;
* `readName_eq_some_iff` — it reads what is written so, and nothing else;
* `Driver.unwrap` — the name for a reading;
* `wrapName_eq` — how a wrapped name reads;
* `unwrapping` — the reader undoes the wrapping.
-/

/-- A part of a wrapped name. -/
inductive NamePart where
  | star
  | quoted (s : List Char)
  deriving DecidableEq

namespace NamePart

/-- What is written for a part: a star as it stands, a text in quotes, each quote inside twice. -/
def write (q : Char) : NamePart → List Char
  | star => ['*']
  | quoted s => q :: doubled q s ++ [q]

/-- The part of a name that is read. -/
def text : NamePart → List Char
  | star => ['*']
  | quoted s => s

/-- How the part of a name is wrapped: only a lone star is not quoted. -/
def ofText (s : List Char) : NamePart := if s = ['*'] then star else quoted s

@[simp] theorem text_ofText (s : List Char) : (ofText s).text = s := by
  rw [ofText]
  split
  · rename_i h
    rw [h, text]
  · rfl

theorem ofText_ne_quoted_star (s : List Char) : ofText s ≠ quoted ['*'] := by
  rw [ofText]
  split <;> simp_all

theorem write_ofText (q : Char) (s : List Char) :
    (ofText s).write q = Identifier.segment (quoteWith q) s := by
  rw [ofText, Identifier.segment]
  split
  · rename_i h
    rw [h, write]
  · simp [write, quoteWith]

end NamePart

/-- The parts of a wrapped name, and the type that follows it. -/
structure NameReading where
  parts : List NamePart
  type : Option (List Char)
  deriving DecidableEq

namespace NameReading

/-- A type behind `::`, as it stands. -/
def typeSuffix (r : NameReading) : List Char := r.type.elim [] (':' :: ':' :: ·)

/-- What is written for a reading: the parts with points between them, and the type. -/
def write (q : Char) (r : NameReading) : List Char :=
  ['.'].intercalate (r.parts.map (NamePart.write q)) ++ r.typeSuffix

/-- The name that is read. -/
def name (r : NameReading) : List Char :=
  ['.'].intercalate (r.parts.map NamePart.text) ++ r.typeSuffix

/-- A reading with one more part in front. -/
def cons (p : NamePart) (r : NameReading) : NameReading := { r with parts := p :: r.parts }

/-- A part in front of others is written with a point behind it. -/
theorem write_cons (q : Char) (p : NamePart) {r : NameReading} (h : r.parts ≠ []) :
    (r.cons p).write q = p.write q ++ '.' :: r.write q := by
  obtain ⟨p', ps, hps⟩ := List.exists_cons_of_ne_nil h
  simp [write, cons, typeSuffix, hps]

end NameReading

/-! ### The reader -/

/-- Reads a text up to the quote that ends it, and gives back what is behind. Two quotes are one in
    the text. -/
def readQuoted (q : Char) : List Char → Option (List Char × List Char)
  | [] => none
  | c :: cs =>
    if c = q then
      match cs with
      | [] => some ([], [])
      | c' :: cs =>
        if c' = q then (readQuoted q cs).map fun (s, rest) => (q :: s, rest)
        else some ([], c' :: cs)
    else (readQuoted q cs).map fun (s, rest) => (c :: s, rest)

/-- Reads a star or a text in quotes, and gives back what is behind. -/
def readPart (q : Char) : List Char → Option (NamePart × List Char)
  | [] => none
  | c :: cs =>
    if c = q then (readQuoted q cs).map fun (s, rest) => (.quoted s, rest)
    else if c = '*' then some (.star, cs)
    else none

section

variable {q : Char} {cs s rest : List Char} {p : NamePart}

theorem eq_of_readQuoted (h : readQuoted q cs = some (s, rest)) :
    cs = doubled q s ++ q :: rest ∧ rest.head? ≠ some q := by
  fun_induction readQuoted q cs generalizing s with
  | case1 => cases h
  | case2 =>
    cases h
    exact ⟨rfl, by simp⟩
  | case3 cs ih =>
    obtain ⟨⟨s', rest'⟩, hread, heq⟩ := Option.map_eq_some_iff.1 h
    cases heq
    obtain ⟨rfl, hrest⟩ := ih hread
    exact ⟨by simp [doubled], hrest⟩
  | case4 c cs hne =>
    cases h
    exact ⟨rfl, by simpa using hne⟩
  | case5 c cs hne ih =>
    obtain ⟨⟨s', rest'⟩, hread, heq⟩ := Option.map_eq_some_iff.1 h
    cases heq
    obtain ⟨rfl, hrest⟩ := ih hread
    exact ⟨by simp [doubled, hne], hrest⟩

/-- A text that is written in quotes is read back, and so is where it ends. -/
theorem readQuoted_doubled (h : rest.head? ≠ some q) :
    readQuoted q (doubled q s ++ q :: rest) = some (s, rest) := by
  induction s with
  | nil =>
    cases rest with
    | nil => simp [doubled, readQuoted]
    | cons c rest =>
      have hc : c ≠ q := by simpa using h
      simp [doubled, readQuoted, hc]
  | cons c s ih =>
    by_cases hc : c = q
    · simp [doubled, readQuoted, hc, ih]
    · rw [doubled, if_neg hc, List.cons_append, readQuoted.eq_def]
      simp [hc, ih]

/-- What is read as a part is written as one, and no quote follows a text in quotes. -/
theorem eq_of_readPart (h : readPart q cs = some (p, rest)) :
    cs = p.write q ++ rest ∧ (p ≠ .star → rest.head? ≠ some q) := by
  cases cs with
  | nil => cases h
  | cons c cs =>
    rw [readPart] at h
    split at h
    · rename_i hc
      obtain ⟨⟨s, rest'⟩, hread, heq⟩ := Option.map_eq_some_iff.1 h
      cases heq
      obtain ⟨rfl, hrest⟩ := eq_of_readQuoted hread
      exact ⟨by simp [NamePart.write, hc], fun _ => hrest⟩
    · split at h
      · rename_i hc
        cases h
        exact ⟨by simp [NamePart.write, hc], fun hne => absurd rfl hne⟩
      · cases h

theorem readPart_write (hq : q ≠ '*') (h : rest.head? ≠ some q) :
    readPart q (p.write q ++ rest) = some (p, rest) := by
  cases p with
  | star => simp [NamePart.write, readPart, hq.symm]
  | quoted s =>
    have hread := readQuoted_doubled (s := s) h
    simp [NamePart.write, readPart, hread]

/-- A part takes up some of the text. -/
theorem length_of_readPart (h : readPart q cs = some (p, rest)) : rest.length < cs.length := by
  obtain ⟨rfl, _⟩ := eq_of_readPart h
  cases p with
  | star => simp [NamePart.write]
  | quoted s =>
    simp only [NamePart.write, List.length_append, List.length_cons]
    omega

end

/-- Reads parts with points between them and, where there are casts, a type at the end. -/
def readName (q : Char) (casts : Bool) (cs : List Char) : Option NameReading :=
  match _h : readPart q cs with
  | some (p, []) => some ⟨[p], none⟩
  | some (p, '.' :: rest) => (readName q casts rest).map (.cons p)
  | some (p, ':' :: ':' :: type) => if casts then some ⟨[p], some type⟩ else none
  | _ => none
termination_by cs.length
decreasing_by
  have hlength := length_of_readPart _h
  rw [List.length_cons] at hlength
  omega

section

variable {q : Char} {casts : Bool} {cs : List Char} {r : NameReading}

theorem eq_of_readName (h : readName q casts cs = some r) :
    cs = r.write q ∧ r.parts ≠ [] ∧ (r.type ≠ none → casts = true) := by
  fun_induction readName q casts cs generalizing r with
  | case1 cs p hpart =>
    cases h
    obtain ⟨rfl, _⟩ := eq_of_readPart hpart
    exact ⟨by simp [NameReading.write, NameReading.typeSuffix], by simp, by simp⟩
  | case2 cs p rest hpart ih =>
    obtain ⟨r', hread, rfl⟩ := Option.map_eq_some_iff.1 h
    obtain ⟨rfl, hparts, hcasts⟩ := ih hread
    obtain ⟨rfl, _⟩ := eq_of_readPart hpart
    exact ⟨(NameReading.write_cons q p hparts).symm, by simp [NameReading.cons], hcasts⟩
  | case3 cs p type hpart hcasts =>
    cases h
    obtain ⟨rfl, _⟩ := eq_of_readPart hpart
    exact ⟨by simp [NameReading.write, NameReading.typeSuffix], by simp, fun _ => hcasts⟩
  | case4 => cases h
  | case5 => cases h

/-- What is written for a reading is read back. The marks between parts must not be quotes. -/
theorem readName_write (hq : q ∉ ['*', '.', ':']) (hparts : r.parts ≠ [])
    (hcasts : r.type ≠ none → casts = true) : readName q casts (r.write q) = some r := by
  obtain ⟨parts, type⟩ := r
  simp only [List.mem_cons, List.not_mem_nil, or_false, not_or] at hq
  obtain ⟨hstar, hpoint, hcolon⟩ := hq
  induction parts with
  | nil => exact absurd rfl hparts
  | cons p ps ih =>
    cases ps with
    | nil =>
      -- The last part is followed by the type, if there is one.
      have hpart : ∀ rest, rest.head? ≠ some q → readPart q (p.write q ++ rest) = some (p, rest) :=
        fun rest => readPart_write hstar
      have hwrite : NameReading.write q ⟨[p], type⟩ =
          p.write q ++ NameReading.typeSuffix ⟨[p], type⟩ := by
        simp [NameReading.write]
      rw [hwrite, readName.eq_def, NameReading.typeSuffix]
      cases type with
      | none =>
        rw [Option.elim_none, hpart [] (by simp)]
      | some type =>
        rw [Option.elim_some, hpart (':' :: ':' :: type) (by simpa using Ne.symm hcolon)]
        exact if_pos (hcasts (by simp))
    | cons p' ps =>
      have hrest := ih (by simp) hcasts
      have hpart : ∀ rest, readPart q (p.write q ++ '.' :: rest) = some (p, '.' :: rest) :=
        fun rest => readPart_write hstar (by simpa using Ne.symm hpoint)
      have hwrite := NameReading.write_cons q p (r := ⟨p' :: ps, type⟩) (by simp)
      rw [NameReading.cons] at hwrite
      rw [hwrite, readName.eq_def, hpart]
      simp [hrest, NameReading.cons]

/-- What is read is what is written for a reading that has a part, and a type only where there are
    casts. -/
theorem readName_eq_some_iff (hq : q ∉ ['*', '.', ':']) :
    readName q casts cs = some r ↔
      cs = r.write q ∧ r.parts ≠ [] ∧ (r.type ≠ none → casts = true) := by
  refine ⟨eq_of_readName, ?_⟩
  rintro ⟨rfl, hparts, hcasts⟩
  exact readName_write hq hparts hcasts

end

/-! ### The names of the dialects -/

/-- A path is written part by part. -/
theorem dotted_eq (q : Char) (path : List Char) :
    dotted (quoteWith q) (String.ofList path) =
      String.ofList (NameReading.write q ⟨(segmentsOf path).map .ofText, none⟩) := by
  have hparts : (segmentsOf path).map (Identifier.segment (quoteWith q)) =
      ((segmentsOf path).map NamePart.ofText).map (NamePart.write q) := by
    rw [List.map_map]
    exact List.map_congr_left fun s _ => (NamePart.write_ofText q s).symm
  rw [dotted, String.toList_ofList, hparts, NameReading.write]
  simp [NameReading.typeSuffix]

namespace Driver

/-- Reads a name that the driver's dialect has wrapped. Only PostgreSQL has casts. -/
def read (d : Driver) (text : String) : Option NameReading :=
  readName d.quoteMark (d = .postgres) text.toList

/-- Undoes the wrapping of a name. -/
def unwrap (d : Driver) (text : String) : Option String :=
  (d.read text).map fun r => String.ofList r.name

/-- How the wrapped name reads: the parts between points, up to the first `::` in PostgreSQL. -/
def reading (d : Driver) (name : String) : NameReading :=
  let (path, type) := if d = .postgres then cutCast name.toList else (name.toList, none)
  ⟨(segmentsOf path).map .ofText, type⟩

theorem name_reading (d : Driver) (name : String) :
    String.ofList (d.reading name).name = name := by
  have htext : ∀ path, (segmentsOf path).map (NamePart.text ∘ NamePart.ofText) = segmentsOf path :=
    fun path => by simp [Function.comp_def]
  rw [← String.toList_inj, String.toList_ofList, reading, NameReading.name]
  split
  rename_i path type hcut
  rw [List.map_map, htext, Identifier.intercalate_segmentsOf]
  split at hcut
  · cases type with
    | none => simp [NameReading.typeSuffix, Identifier.eq_of_cutCast_none hcut]
    | some type => simp [NameReading.typeSuffix, Identifier.eq_of_cutCast_some hcut]
  · cases hcut
    simp [NameReading.typeSuffix]

theorem wrapName_eq (d : Driver) (name : String) :
    d.dialect.wrapName name = String.ofList ((d.reading name).write d.quoteMark) := by
  have hdotted : ∀ q, dotted (quoteWith q) name =
      String.ofList (NameReading.write q ⟨(segmentsOf name.toList).map .ofText, none⟩) := by
    intro q
    rw [← dotted_eq, String.ofList_toList]
  cases d with
  | mysql => exact hdotted _
  | sqlite => exact hdotted _
  | postgres =>
    show Identifier.dottedWithCast (quoteWith '"') name = _
    rw [Identifier.dottedWithCast, reading, if_pos rfl]
    split
    · rename_i path hcut
      rw [hcut]
      exact dotted_eq _ path
    · rename_i path type hcut
      rw [hcut, dotted_eq, ← String.toList_inj]
      simp [NameReading.write, NameReading.typeSuffix, quoteMark]

theorem read_eq_some_iff (d : Driver) {text : String} {r : NameReading} :
    d.read text = some r ↔ text = String.ofList (r.write d.quoteMark) ∧ r.parts ≠ [] ∧
      (r.type ≠ none → d = .postgres) := by
  have hquote : d.quoteMark ∉ ['*', '.', ':'] := by cases d <;> decide
  rw [read, readName_eq_some_iff hquote, ← String.toList_inj, String.toList_ofList]
  simp

theorem read_wrapName (d : Driver) (name : String) :
    d.read (d.dialect.wrapName name) = some (d.reading name) := by
  refine d.read_eq_some_iff.2 ⟨d.wrapName_eq name, ?_, fun htype => ?_⟩
  · simp [reading, Identifier.segmentsOf_ne_nil]
  · by_contra hd
    simp [reading, hd] at htype

end Driver

/-- **Unwrapping.**  For each dialect there is a reader of stars and quoted texts with points
    between them, and in PostgreSQL with a type behind `::`; it reads these texts and no others.  It
    finds every name again that the dialect has wrapped, whatever characters the name has.  So no
    two names are wrapped to the same text, and a star that stands alone is never quoted. -/
theorem unwrapping (d : Driver) :
    (∀ text r, d.read text = some r ↔ text = String.ofList (r.write d.quoteMark) ∧ r.parts ≠ [] ∧
      (r.type ≠ none → d = .postgres)) ∧
    (∀ name, d.unwrap (d.dialect.wrapName name) = some name) ∧
    Function.Injective d.dialect.wrapName ∧
    (∀ name r, d.read (d.dialect.wrapName name) = some r → .quoted ['*'] ∉ r.parts) := by
  have hunwrap : ∀ name, d.unwrap (d.dialect.wrapName name) = some name := by
    intro name
    rw [Driver.unwrap, d.read_wrapName, Option.map_some, d.name_reading]
  refine ⟨fun text r => d.read_eq_some_iff, hunwrap, fun name other h => ?_, fun name r h => ?_⟩
  · have hname := hunwrap name
    rw [h, hunwrap] at hname
    exact (Option.some.inj hname).symm
  · rw [d.read_wrapName] at h
    obtain rfl := Option.some.inj h
    intro hmem
    obtain ⟨s, _, hs⟩ := List.mem_map.1 hmem
    exact NamePart.ofText_ne_quoted_star s hs

end SqlBuilder
