import SqlBuilder.Proofs.Labels
import SqlBuilder.Proofs.Unwrapping
import SqlBuilder.Text.Uppercase

namespace SqlBuilder

open Text (isBlank endsWord wordsOf words)
open Identifier (doubled quoteWith)

/-!
# What the text of a name keeps of its words

A name of two or three words is written as a path with a label, any other as one path.  Wrapping
adds quotes and takes nothing away, so the words can be read back from the text: all of them, but
the middle one of exactly three, at which nothing looks.

* `Padded` — a text with some characters put in that are no blanks;
* `Text.IsWord`, `Text.words_intercalate` — words, and texts of words with spaces between them;
* `Padded.length_wordsOf` — it has at least as many words;
* `Driver.padded_wrapName` — wrapping only puts quotes in;
* `Driver.nameText`, `Driver.Labels` — the text of a name, and when it has a label;
* `Driver.retrieve` — a reader of such texts;
* `retention` — the words that it finds;
* `dropped_middleWord` — a word that nothing could find.
-/

/-! ### Words -/

/-- A text with some characters put in that are no blanks. -/
inductive Padded : List Char → List Char → Prop
  | nil : Padded [] []
  | keep {cs ds : List Char} (c : Char) : Padded cs ds → Padded (c :: cs) (c :: ds)
  | put {cs ds : List Char} {c : Char} : isBlank c = false → Padded cs ds → Padded cs (c :: ds)

namespace Text

theorem endsWord_cons (c : Char) (cs : List Char) : endsWord (c :: cs) = isBlank c := rfl

/-- A character ends a word if it is no blank and a word ends behind it. -/
theorem length_wordsOf_cons (c : Char) (cs : List Char) :
    (wordsOf (c :: cs)).length =
      (wordsOf cs).length + if !isBlank c && endsWord cs then 1 else 0 := by
  rw [wordsOf]
  cases hc : isBlank c with
  | true => simp
  | false =>
    cases hend : endsWord cs with
    | true => simp
    | false =>
      cases hcs : wordsOf cs with
      | nil =>
        -- A text that does not end a word starts with one.
        cases cs with
        | nil => cases hend
        | cons b bs =>
          have hb : isBlank b = false := hend
          rw [wordsOf, if_neg (by simp [hb])] at hcs
          split at hcs
          · cases hcs
          · split at hcs <;> cases hcs
      | cons w ws => simp

/-- A text without blanks is the first word, if a blank follows. -/
theorem wordsOf_append {w : List Char} (hne : w ≠ []) (h : ∀ c ∈ w, isBlank c = false)
    {cs : List Char} (hcs : endsWord cs = true) : wordsOf (w ++ cs) = w :: wordsOf cs := by
  induction w with
  | nil => exact absurd rfl hne
  | cons c w ih =>
    obtain ⟨hc, hw⟩ := List.forall_mem_cons.1 h
    cases w with
    | nil => simp [wordsOf, hc, hcs]
    | cons b bs =>
      have hb : isBlank b = false := hw b List.mem_cons_self
      rw [List.cons_append, wordsOf, ih (by simp) hw]
      simp [hc, hb, endsWord]

/-- A text without blanks is one word. -/
theorem wordsOf_eq_singleton {cs : List Char} (hne : cs ≠ []) (h : ∀ c ∈ cs, isBlank c = false) :
    wordsOf cs = [cs] := by
  have hwords := wordsOf_append hne h (rfl : endsWord [] = true)
  rwa [List.append_nil] at hwords

/-- A text that is one word. -/
def IsWord (w : String) : Prop := w.toList ≠ [] ∧ ∀ c ∈ w.toList, isBlank c = false

instance (w : String) : Decidable (IsWord w) :=
  decidable_of_iff (w.toList ≠ [] ∧ w.toList.all (!isBlank ·) = true) (by simp [IsWord])

theorem isWord_of_mem_words {s w : String} (h : w ∈ words s) : IsWord w := by
  obtain ⟨cs, hcs, rfl⟩ := List.mem_map.1 h
  rw [IsWord, String.toList_ofList]
  exact ⟨ne_nil_of_mem_wordsOf hcs, not_isBlank_of_mem_wordsOf hcs⟩

theorem IsWord.words_eq {w : String} (h : IsWord w) : words w = [w] := by
  rw [words, wordsOf_eq_singleton h.1 h.2, List.map_singleton, String.ofList_toList]

/-- A word and what a blank starts. -/
theorem IsWord.words_append {w : String} (h : IsWord w) {s : String}
    (hs : endsWord s.toList = true) : words (w ++ s) = w :: words s := by
  rw [words, String.toList_append, wordsOf_append h.1 h.2 hs, List.map_cons,
    String.ofList_toList, words]

/-- Words with a space between them are the words of the text. -/
theorem words_intercalate {ws : List String} (h : ∀ w ∈ ws, IsWord w) :
    words (" ".intercalate ws) = ws := by
  induction ws with
  | nil => rfl
  | cons w ws ih =>
    obtain ⟨hw, hws⟩ := List.forall_mem_cons.1 h
    cases ws with
    | nil => simpa using hw.words_eq
    | cons w' ws =>
      have hends : endsWord (" " ++ " ".intercalate (w' :: ws)).toList = true := by
        rw [String.toList_append]
        rfl
      have hspace : words (" " ++ " ".intercalate (w' :: ws)) = w' :: ws := by
        rw [words, String.toList_append]
        exact ih hws
      rw [String.intercalate_cons_cons, String.append_assoc, hw.words_append hends, hspace]

end Text

namespace Padded

theorem append {cs ds cs' ds' : List Char} (h : Padded cs ds) (h' : Padded cs' ds') :
    Padded (cs ++ cs') (ds ++ ds') := by
  induction h with
  | nil => exact h'
  | keep c _ ih => exact .keep c ih
  | put hc _ ih => exact .put hc ih

theorem refl (cs : List Char) : Padded cs cs := by
  induction cs with
  | nil => exact .nil
  | cons c cs ih => exact .keep c ih

/-- What is put in is no blank. -/
theorem mem {cs ds : List Char} (h : Padded cs ds) {c : Char} (hc : c ∈ ds) :
    c ∈ cs ∨ isBlank c = false := by
  induction h with
  | nil => exact .inl hc
  | keep b _ ih =>
    rcases List.mem_cons.1 hc with rfl | hc
    · exact .inl List.mem_cons_self
    · exact (ih hc).imp_left (List.mem_cons_of_mem _)
  | put hb _ ih =>
    rcases List.mem_cons.1 hc with rfl | hc
    · exact .inr hb
    · exact ih hc

/-- No word is lost, but words may be cut in two. -/
theorem length_wordsOf {cs ds : List Char} (h : Padded cs ds) :
    (wordsOf cs).length ≤ (wordsOf ds).length := by
  -- The induction has to know how many words there are if another character stands in front.
  suffices hboth : (wordsOf cs).length ≤ (wordsOf ds).length ∧
      (wordsOf cs).length + (if endsWord cs then 1 else 0) ≤
        (wordsOf ds).length + if endsWord ds then 1 else 0 from hboth.1
  induction h with
  | nil => simp
  | @keep cs ds c _ ih =>
    obtain ⟨hless, hstart⟩ := ih
    rw [Text.length_wordsOf_cons, Text.length_wordsOf_cons, Text.endsWord_cons, Text.endsWord_cons]
    cases isBlank c with
    | true => simpa using hless
    | false => simpa using hstart
  | @put cs ds c hc _ ih =>
    obtain ⟨hless, hstart⟩ := ih
    rw [Text.length_wordsOf_cons, Text.endsWord_cons, hc]
    simp only [Bool.not_false, Bool.true_and, Bool.false_eq_true, if_false]
    constructor
    · omega
    · omega

end Padded

/-! ### Wrapping puts quotes in -/

theorem padded_doubled {q : Char} (hq : isBlank q = false) (cs : List Char) :
    Padded cs (doubled q cs) := by
  induction cs with
  | nil => exact .nil
  | cons c cs ih =>
    rw [doubled]
    split
    · rename_i hc
      subst hc
      exact .put hq (.keep c ih)
    · exact .keep c ih

theorem NamePart.padded_write {q : Char} (hq : isBlank q = false) (p : NamePart) :
    Padded p.text (p.write q) := by
  cases p with
  | star => exact .refl _
  | quoted s =>
    have hend : Padded [] [q] := .put hq .nil
    have hinside := (padded_doubled hq s).append hend
    rw [List.append_nil] at hinside
    exact .put hq hinside

/-- A text with a mark between parts is padded where the parts are. -/
theorem padded_intercalate {q : Char} (hq : isBlank q = false) (sep : List Char)
    (ps : List NamePart) :
    Padded (sep.intercalate (ps.map NamePart.text))
      (sep.intercalate (ps.map (NamePart.write q))) := by
  induction ps with
  | nil => exact .nil
  | cons p ps ih =>
    cases ps with
    | nil => simpa using p.padded_write hq
    | cons p' ps =>
      simp only [List.map_cons, List.intercalate_cons_cons] at ih ⊢
      exact ((p.padded_write hq).append (.refl sep)).append ih

namespace Driver

theorem isBlank_quoteMark (d : Driver) : isBlank d.quoteMark = false := by
  cases d <;> decide

/-- Wrapping only puts quotes in. -/
theorem padded_wrapName (d : Driver) (name : String) :
    Padded name.toList (d.dialect.wrapName name).toList := by
  have hname := d.name_reading name
  rw [← String.toList_inj, String.toList_ofList] at hname
  rw [d.wrapName_eq, String.toList_ofList, NameReading.write]
  conv => lhs; rw [← hname, NameReading.name]
  exact (padded_intercalate d.isBlank_quoteMark _ _).append (.refl _)

end Driver

namespace Text.IsWord

variable {w : String}

/-- A word with characters put in is a word. -/
theorem of_padded (h : IsWord w) {v : String} (hv : Padded w.toList v.toList) : IsWord v := by
  refine ⟨fun hnil => ?_, fun c hc => ?_⟩
  · have hless := hv.length_wordsOf
    rw [hnil, wordsOf_eq_singleton h.1 h.2] at hless
    simp [wordsOf] at hless
  · rcases hv.mem hc with hc | hblank
    · exact h.2 c hc
    · exact hblank

theorem wrapName (h : IsWord w) (d : Driver) : IsWord (d.dialect.wrapName w) :=
  h.of_padded (d.padded_wrapName w)

theorem quote (h : IsWord w) (d : Driver) : IsWord (d.dialect.quote w) := by
  refine h.of_padded ?_
  rw [d.dialect_quote, quoteWith, String.toList_ofList]
  exact (NamePart.quoted w.toList).padded_write d.isBlank_quoteMark

/-- A path and a label are two words, with a third one between them. -/
theorem words_labelled {path label : String} (hpath : IsWord path) (hlabel : IsWord label) :
    words (path ++ " as " ++ label) = [path, "as", label] := by
  have has : IsWord "as" := by decide
  have hall : ∀ w ∈ [path, "as", label], IsWord w := by simp [hpath, has, hlabel]
  have htext : path ++ " as " ++ label = " ".intercalate [path, "as", label] := by
    have hsign : " as " = " " ++ ("as" ++ " ") := rfl
    rw [String.intercalate_cons_cons, String.intercalate_cons_cons, String.intercalate_singleton,
      hsign]
    simp only [String.append_assoc]
  rw [htext, words_intercalate hall]

end Text.IsWord

open Text (IsWord)

/-! ### The forms of a name -/

/-- The forms of a name: no word, one path, a path and a label with or without a word between, and
    four words or more. -/
theorem words_cases (s : String) :
    words s = [] ∨ (∃ path, words s = [path]) ∨
      (∃ path label, words s = [path, label] ∨ ∃ w, words s = [path, w, label]) ∨
      3 < (words s).length := by
  rcases words s with _ | ⟨path, _ | ⟨label, _ | ⟨label', _ | ⟨w, ws⟩⟩⟩⟩
  · exact .inl rfl
  · exact .inr (.inl ⟨path, rfl⟩)
  · exact .inr (.inr (.inl ⟨path, label, .inl rfl⟩))
  · exact .inr (.inr (.inl ⟨path, label', .inr ⟨label, rfl⟩⟩))
  · exact .inr (.inr (.inr (by simp)))

/-- The words that the text of a name keeps: all of them, but the middle one of exactly three. -/
def keptWords (s : String) : List String :=
  match words s with
  | [path, _, label] => [path, label]
  | ws => ws

namespace Driver

variable (d : Driver)

/-- The text of a name: a path with a label for two or three words, else one path. -/
def nameText (s : String) : String :=
  match words s with
  | [] => ""
  | [path] => d.dialect.wrapName path
  | [path, label] | [path, _, label] => d.dialect.wrapName path ++ " as " ++ d.dialect.quote label
  | _ => d.dialect.wrapName s

/-- The text of a name with a label: each of them is one word. -/
def Labels (path label text : String) : Prop :=
  IsWord path ∧ IsWord label ∧ text = d.dialect.wrapName path ++ " as " ++ d.dialect.quote label

theorem render_nameTokens (n : Nat) (s : String) :
    Token.render d.dialect n (nameTokens s) = d.nameText s := by
  have hlabelled : ∀ path label, Token.render d.dialect n (.path path :: labelTokens (some label)) =
      d.dialect.wrapName path ++ " as " ++ d.dialect.quote label := by
    intro path label
    rw [← List.singleton_append, Token.render_append, Token.render_path, Token.render_labelTokens,
      Dialect.labelText, String.append_assoc]
  rw [nameTokens, nameText]
  rcases words s with _ | ⟨path, _ | ⟨label, _ | ⟨label', _ | ⟨w, ws⟩⟩⟩⟩
  · rfl
  · exact Token.render_path _ n path
  · exact hlabelled path label
  · exact hlabelled path label'
  · exact Token.render_path _ n s

section

variable {d} {s path label : String}

theorem nameText_of_path (h : words s = [path]) : d.nameText s = d.dialect.wrapName path := by
  rw [nameText, h]

theorem nameText_of_labelled (h : words s = [path, label] ∨ ∃ w, words s = [path, w, label]) :
    d.nameText s = d.dialect.wrapName path ++ " as " ++ d.dialect.quote label := by
  rcases h with h | ⟨w, h⟩
  · rw [nameText, h]
  · rw [nameText, h]

theorem nameText_of_long (h : 3 < (words s).length) : d.nameText s = d.dialect.wrapName s := by
  rw [nameText]
  split
  all_goals simp_all

/-- Two or three words make a label. -/
theorem labels_nameText (h : words s = [path, label] ∨ ∃ w, words s = [path, w, label]) :
    d.Labels path label (d.nameText s) := by
  have hword : ∀ w ∈ words s, IsWord w := fun w => Text.isWord_of_mem_words
  refine ⟨hword path ?_, hword label ?_, nameText_of_labelled h⟩
  · rcases h with h | ⟨w, h⟩ <;> simp [h]
  · rcases h with h | ⟨w, h⟩ <;> simp [h]

/-- A text with a label has three words. -/
theorem Labels.words_eq {text : String} (h : d.Labels path label text) :
    words text = [d.dialect.wrapName path, "as", d.dialect.quote label] := by
  obtain ⟨hpath, hlabel, rfl⟩ := h
  exact (hpath.wrapName d).words_labelled (hlabel.quote d)

/-- A text without a label has not. -/
theorem length_words_nameText (h : ¬((words s).length = 2 ∨ (words s).length = 3)) :
    (words (d.nameText s)).length ≠ 3 := by
  rcases words_cases s with hwords | ⟨path, hwords⟩ | ⟨path, label, hwords⟩ | hlong
  · have hempty : (words "").length ≠ 3 := by decide
    rwa [nameText, hwords]
  · have hpath : IsWord path := Text.isWord_of_mem_words (s := s) (by simp [hwords])
    simp [nameText_of_path hwords, (hpath.wrapName d).words_eq]
  · refine absurd ?_ h
    rcases hwords with hwords | ⟨w, hwords⟩ <;> simp [hwords]
  · -- Wrapping does not bring the number of words down.
    have hless := (d.padded_wrapName s).length_wordsOf
    rw [nameText_of_long hlong]
    rw [words, List.length_map] at hlong ⊢
    omega

end

/-- A label is written for two words and for three. -/
theorem labels_nameText_iff (s : String) :
    (∃ path label, d.Labels path label (d.nameText s)) ↔
      (words s).length = 2 ∨ (words s).length = 3 := by
  constructor
  · rintro ⟨path, label, hlabels⟩
    by_contra hlength
    refine length_words_nameText (d := d) hlength ?_
    rw [hlabels.words_eq]
    rfl
  · intro hlength
    rcases words_cases s with hwords | ⟨path, hwords⟩ | ⟨path, label, hwords⟩ | hlong
    · simp [hwords] at hlength
    · simp [hwords] at hlength
    · exact ⟨path, label, labels_nameText hwords⟩
    · omega

/-! ### A reader -/

/-- Reads a label. -/
def readLabel (text : String) : Option String :=
  match readPart d.quoteMark text.toList with
  | some (p, []) => some (String.ofList p.text)
  | _ => none

/-- Reads the words of a name: a path and a label where the text has three words, else the words of
    one path. -/
def retrieve (text : String) : List String :=
  match words text with
  | [path, _, label] => (d.unwrap path).toList ++ (d.readLabel label).toList
  | _ => (d.unwrap text).toList.flatMap words

theorem readLabel_quote (label : String) : d.readLabel (d.dialect.quote label) = some label := by
  have hstar : d.quoteMark ≠ '*' := by cases d <;> decide
  have hread : readPart d.quoteMark (NamePart.write d.quoteMark (.quoted label.toList) ++ []) =
      some (.quoted label.toList, []) := readPart_write hstar (by simp)
  rw [List.append_nil, NamePart.write] at hread
  rw [readLabel, d.dialect_quote, quoteWith, String.toList_ofList, hread]
  simp [NamePart.text]

theorem unwrap_wrapName (name : String) : d.unwrap (d.dialect.wrapName name) = some name := by
  rw [unwrap, d.read_wrapName, Option.map_some, d.name_reading]

theorem unwrap_empty : d.unwrap "" = none := by
  have hread : readName d.quoteMark (d = .postgres) [] = none := by
    rw [readName.eq_def]
    rfl
  exact congrArg (Option.map _) hread

/-- A text that has not three words is read as one path. -/
theorem retrieve_of_length_ne {text : String} (h : (words text).length ≠ 3) :
    d.retrieve text = (d.unwrap text).toList.flatMap words := by
  rw [retrieve]
  split
  · rename_i hwords
    rw [hwords] at h
    exact absurd rfl h
  · rfl

/-- The reader finds the words that the text keeps. -/
theorem retrieve_nameText (s : String) : d.retrieve (d.nameText s) = keptWords s := by
  rcases words_cases s with hwords | ⟨path, hwords⟩ | ⟨path, label, hwords⟩ | hlong
  · have hlength := length_words_nameText (d := d) (s := s) (by simp [hwords])
    rw [d.retrieve_of_length_ne hlength, nameText, keptWords, hwords]
    simp [d.unwrap_empty]
  · have hlength := length_words_nameText (d := d) (s := s) (by simp [hwords])
    have hpath : IsWord path := Text.isWord_of_mem_words (s := s) (by simp [hwords])
    rw [d.retrieve_of_length_ne hlength, nameText_of_path hwords, keptWords, hwords]
    simp [d.unwrap_wrapName, hpath.words_eq]
  · have hkept : keptWords s = [path, label] := by
      rcases hwords with hwords | ⟨w, hwords⟩
      · rw [keptWords, hwords]
      · rw [keptWords, hwords]
    rw [retrieve, (labels_nameText (d := d) hwords).words_eq, hkept]
    simp [d.unwrap_wrapName, d.readLabel_quote]
  · have hlength := length_words_nameText (d := d) (s := s) (by omega)
    have hkept : keptWords s = words s := by
      rw [keptWords]
      split
      all_goals simp_all
    rw [d.retrieve_of_length_ne hlength, nameText_of_long hlong, hkept]
    simp [d.unwrap_wrapName]

end Driver

/-- The word that may stand in front of a label, in any case. -/
def Text.IsAs (w : String) : Prop := w.toList.map Text.lowerAscii = ['a', 's']

instance (w : String) : Decidable (Text.IsAs w) :=
  inferInstanceAs (Decidable (w.toList.map Text.lowerAscii = ['a', 's']))

/-- **Retention.**  Wherever a column or a table is given by name, its text has a label exactly if
    the name has two or three words, and a reader of the text finds all words of the name but the
    middle one of exactly three.  So no word but `as` is lost from a name that has no other word in
    that place. -/
theorem retention (d : Driver) :
    (∀ n s, Token.render d.dialect n (Column.name s).tokens = d.nameText s ∧
      Token.render d.dialect n (Source.table s).tokens = d.nameText s ∧
      ∀ table, Token.render d.dialect n (targetTokens table (some (.table s))) = d.nameText s) ∧
    (∀ s, (∃ path label, d.Labels path label (d.nameText s)) ↔
      (words s).length = 2 ∨ (words s).length = 3) ∧
    (∀ s, d.retrieve (d.nameText s) = keptWords s) ∧
    (∀ s, (∀ path w label, words s = [path, w, label] → Text.IsAs w) →
      ∀ w ∈ words s, w ∈ d.retrieve (d.nameText s) ∨
        Text.IsAs w ∧ ∃ path label, words s = [path, w, label]) := by
  refine ⟨fun n s => ?_, d.labels_nameText_iff, d.retrieve_nameText, fun s has w hw => ?_⟩
  · have htext := d.render_nameTokens n s
    exact ⟨htext, htext, fun _ => htext⟩
  · rw [d.retrieve_nameText, keptWords]
    rcases hwords : words s with _ | ⟨path, _ | ⟨label, _ | ⟨label', _ | ⟨w', ws⟩⟩⟩⟩
    all_goals rw [hwords] at hw
    · exact .inl hw
    · exact .inl hw
    · exact .inl hw
    · simp only [List.mem_cons, List.not_mem_nil, or_false] at hw ⊢
      rcases hw with rfl | rfl | rfl
      · exact .inl (.inl rfl)
      · exact .inr ⟨has _ _ _ hwords, path, label', rfl⟩
      · exact .inl (.inr rfl)
    · exact .inl hw

/-- A name of three words whose middle word is not `as` has the text of the other two, so nothing
    can find that word again. -/
theorem dropped_middleWord :
    words "users archived u" = ["users", "archived", "u"] ∧ ¬Text.IsAs "archived" ∧
    ∀ d : Driver,
      (∀ n, Token.render d.dialect n (Column.name "users archived u").tokens =
        d.dialect.wrapName "users" ++ " as " ++ d.dialect.quote "u") ∧
      (∀ n, Token.render d.dialect n (Column.name "users archived u").tokens =
        Token.render d.dialect n (Column.name "users u").tokens) ∧
      ¬∃ read : String → List String, ∀ n s,
        (∀ w ∈ words s, ¬Text.IsAs w →
          w ∈ read (Token.render d.dialect n (Column.name s).tokens)) ∧
        ∀ w ∈ read (Token.render d.dialect n (Column.name s).tokens), w ∈ words s := by
  have hthree : words "users archived u" = ["users", "archived", "u"] := by decide
  have htwo : words "users u" = ["users", "u"] := by decide
  refine ⟨hthree, by decide, fun d => ?_⟩
  have hsame : nameTokens "users archived u" = nameTokens "users u" := by
    rw [nameTokens, nameTokens, hthree, htwo]
  have htext : ∀ n, Token.render d.dialect n (Column.name "users archived u").tokens =
      d.dialect.wrapName "users" ++ " as " ++ d.dialect.quote "u" := by
    intro n
    rw [Column.tokens, d.render_nameTokens, Driver.nameText, hthree]
  refine ⟨htext, fun n => congrArg _ hsame, ?_⟩
  rintro ⟨read, hread⟩
  have hword : "archived" ∈ words "users archived u" := by
    rw [hthree]
    decide
  have hfound := (hread 0 "users archived u").1 "archived" hword (by decide)
  rw [Column.tokens, hsame] at hfound
  have hmissing := (hread 0 "users u").2 "archived" hfound
  rw [htwo] at hmissing
  exact absurd hmissing (by decide)

end SqlBuilder
