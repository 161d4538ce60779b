import Mathlib.Data.List.Forall2
import SqlBuilder.Proofs.Embedding
import SqlBuilder.Proofs.Rendering
import SqlBuilder.Text.Uppercase

namespace SqlBuilder

open Token (spaced)

/-!
# Which texts pass for an operator or a direction

What is compared with the list is the upper case of a text, and upper case is not only for ASCII:
it takes letters of other alphabets to ASCII, and single letters to several.  Still, no more than
two letters from outside pass.

* `Text.wordsOf_eq_splitOnP` — words are what is left between blanks;
* `Text.spellings` — the characters that pass for a character of the list;
* `Text.upper_cases` — what the upper case of a character can be;
* `Text.Listed`, `Text.upperOf_eq_iff` — a text with a listed upper case, character by character;
* `Operator.parse?_eq_some_iff`, `Direction.parse?_eq_some_iff` — the texts that pass;
* `Operator.Passes`, `Operator.Fails` — what the calls make of a text for an operator;
* `Operator.StandsIn`, `Direction.StandsIn` — how a comparison and a sort key are written;
* `admission` — all that passes is kept, and written as the listed text.
-/

namespace Text

/-! ### Words between blanks -/

theorem head_splitOnP (cs : List Char) :
    (cs.splitOnP isBlank).head (List.splitOnP_ne_nil _ _) = [] ↔ endsWord cs = true := by
  cases cs with
  | nil => simp [endsWord]
  | cons c cs =>
    by_cases hc : isBlank c = true
    · simp [List.splitOnP_cons_eq_if_modifyHead, hc, endsWord]
    · obtain ⟨w, ws, hws⟩ := List.exists_cons_of_ne_nil (List.splitOnP_ne_nil isBlank cs)
      simp [List.splitOnP_cons_eq_if_modifyHead, hc, endsWord, hws]

/-- Words are what is left between blanks, where anything is left. -/
theorem wordsOf_eq_splitOnP (cs : List Char) :
    wordsOf cs = (cs.splitOnP isBlank).filter (!·.isEmpty) := by
  induction cs with
  | nil => simp [wordsOf]
  | cons c cs ih =>
    have hhead := head_splitOnP cs
    obtain ⟨w, ws, hws⟩ := List.exists_cons_of_ne_nil (List.splitOnP_ne_nil isBlank cs)
    simp only [hws, List.head_cons] at hhead
    rw [hws] at ih
    rw [wordsOf, List.splitOnP_cons_eq_if_modifyHead]
    by_cases hc : isBlank c = true
    · simp [hc, ih, hws]
    · -- The word goes on, unless the rest starts with an empty piece.
      rw [if_neg hc, if_neg hc, hws, List.modifyHead_cons]
      by_cases hend : endsWord cs = true
      · simp [hend, ih, hhead.2 hend]
      · cases w with
        | nil => exact absurd (hhead.1 rfl) hend
        | cons b w => simp [hend, ih]

/-! ### The upper case of a character -/

/-- The characters that pass for a character of a listed text: itself, its small letter, and two
    letters that are not ASCII. -/
def spellings (t : Char) : List Char :=
  [t, lowerAscii t] ++ if t = 'I' then ['ı'] else if t = 'S' then ['ſ'] else []

/-- A character of ASCII that is no small letter. -/
def isCapital (t : Char) : Bool := t.toNat < 128 && !('a' ≤ t && t ≤ 'z')

/-- What becomes of the letters that are two or three letters of ASCII at once. -/
def ligatures : List (List Char) :=
  [['S', 'S'], ['F', 'F'], ['F', 'I'], ['F', 'L'], ['F', 'F', 'I'], ['F', 'F', 'L'], ['S', 'T']]

theorem toNat_ofNat {n : Nat} (h : n.isValidChar) : (Char.ofNat n).toNat = n := by
  rw [Char.ofNat, dif_pos h]
  rfl

theorem forall_ascii {P : Char → Prop} (h : ∀ n < 128, P (Char.ofNat n)) {c : Char}
    (hc : c.toNat < 128) : P c := by
  have hn := h c.toNat hc
  rwa [Char.ofNat_toNat] at hn

theorem toNat_lt_of_isCapital {t : Char} (h : isCapital t = true) : t.toNat < 128 := by
  rw [isCapital, Bool.and_eq_true, decide_eq_true_eq] at h
  exact h.1

/-- A character of ASCII passes for its upper case, which is of ASCII again. -/
theorem upper_of_ascii {c : Char} (hc : c.toNat < 128) :
    ∃ t, isCapital t = true ∧ upper c = [t] ∧ c ∈ spellings t := by
  have hall : ∀ n < 128, (upper (Char.ofNat n)).any fun t =>
      isCapital t && upper (Char.ofNat n) == [t] && (spellings t).contains (Char.ofNat n) := by
    decide +kernel
  have hsome := forall_ascii (P := fun c => (upper c).any fun t =>
    isCapital t && upper c == [t] && (spellings t).contains c) hall hc
  obtain ⟨t, _, ht⟩ := List.any_eq_true.1 hsome
  simp only [Bool.and_eq_true, beq_iff_eq, List.contains_iff_mem] at ht
  exact ⟨t, ht.1.1, ht.1.2, ht.2⟩

/-- Of the letters with an expansion, all but ligatures become characters that are not ASCII. -/
theorem upper_of_expansion {p : Nat × List Nat} (h : p ∈ upperExpansions) :
    p.2.map Char.ofNat ∈ ligatures ∨ ∃ x ∈ p.2.map Char.ofNat, 128 ≤ x.toNat := by
  have hall : ∀ p ∈ upperExpansions, p.2.map Char.ofNat ∈ ligatures ∨
      (p.2.map Char.ofNat).any (128 ≤ ·.toNat) = true := by
    decide +kernel
  refine (hall p h).imp id fun hany => ?_
  obtain ⟨x, hx, hforeign⟩ := List.any_eq_true.1 hany
  exact ⟨x, hx, of_decide_eq_true hforeign⟩

/-- The runs lead to ASCII from two letters only. -/
theorem target_of_run {first last step target : Nat}
    (h : (first, last, step, target) ∈ upperRuns) :
    (first, last, step, target) = (0x131, 0x131, 1, 0x49) ∨
      (first, last, step, target) = (0x17F, 0x17F, 1, 0x53) ∨
      128 ≤ target ∧ (target + (last - first) < 0xD800 ∨
        0xDFFF < target ∧ target + (last - first) < 0x110000) := by
  have hall : ∀ r ∈ upperRuns, r = (0x131, 0x131, 1, 0x49) ∨ r = (0x17F, 0x17F, 1, 0x53) ∨
      128 ≤ r.2.2.2 ∧ (r.2.2.2 + (r.2.1 - r.1) < 0xD800 ∨
        0xDFFF < r.2.2.2 ∧ r.2.2.2 + (r.2.1 - r.1) < 0x110000) := by
    decide +kernel
  exact hall _ h

/-- The upper case of a character that is not ASCII is not ASCII, but for two letters and the
    ligatures. -/
theorem upper_of_not_ascii {c : Char} (hc : ¬c.toNat < 128) :
    c = 'ı' ∨ c = 'ſ' ∨ upper c ∈ ligatures ∨ ∃ x ∈ upper c, 128 ≤ x.toNat := by
  rw [upper, if_neg hc]
  cases hexpansion : upperExpansions.lookup c.toNat with
  | some ns =>
    obtain ⟨_, _, hsplit, _⟩ := List.lookup_eq_some_iff.1 hexpansion
    have hmem : (c.toNat, ns) ∈ upperExpansions := by simp [hsplit]
    exact .inr (.inr (upper_of_expansion hmem))
  | none =>
    cases hrun : upperRun? c.toNat with
    | none => exact .inr (.inr (.inr ⟨c, List.mem_singleton_self c, by omega⟩))
    | some r =>
      obtain ⟨first, last, step, target⟩ := r
      have hmem := List.mem_of_find?_eq_some hrun
      have hholds := List.find?_some hrun
      simp only [Bool.and_eq_true, decide_eq_true_eq] at hholds
      obtain ⟨⟨hfirst, hlast⟩, _⟩ := hholds
      rcases target_of_run hmem with hdotless | hlong | ⟨hbig, hvalid⟩
      · cases hdotless
        have hn : c.toNat = 0x131 := by omega
        rw [← Char.ofNat_toNat c, hn]
        exact .inl rfl
      · cases hlong
        have hn : c.toNat = 0x17F := by omega
        rw [← Char.ofNat_toNat c, hn]
        exact .inr (.inl rfl)
      · have hchar : (target + (c.toNat - first)).isValidChar := by
          rcases hvalid with hlow | ⟨hhigh, hbound⟩
          · exact .inl (by omega)
          · exact .inr ⟨by omega, by omega⟩
        refine .inr (.inr (.inr ⟨_, List.mem_singleton_self _, ?_⟩))
        rw [toNat_ofNat hchar]
        omega

/-- What the upper case of a character can be: a character of ASCII, a ligature, or something with
    a character that is not ASCII. -/
theorem upper_cases (c : Char) :
    (∃ t, isCapital t = true ∧ upper c = [t]) ∨ upper c ∈ ligatures ∨
      ∃ x ∈ upper c, isCapital x = false := by
  by_cases hc : c.toNat < 128
  · obtain ⟨t, ht, hupper, _⟩ := upper_of_ascii hc
    exact .inl ⟨t, ht, hupper⟩
  · rcases upper_of_not_ascii hc with rfl | rfl | hligature | ⟨x, hx, hforeign⟩
    · exact .inl ⟨'I', by decide, by decide +kernel⟩
    · exact .inl ⟨'S', by decide, by decide +kernel⟩
    · exact .inr (.inl hligature)
    · refine .inr (.inr ⟨x, hx, ?_⟩)
      have hsmall : decide (x.toNat < 128) = false := decide_eq_false (by omega)
      rw [isCapital, hsmall, Bool.false_and]

/-- A capital letter or a sign is the upper case of the characters that pass for it, and of no
    others. -/
theorem upper_eq_singleton_iff {t : Char} (ht : isCapital t = true) (c : Char) :
    upper c = [t] ↔ c ∈ spellings t := by
  constructor
  · intro hupper
    by_cases hc : c.toNat < 128
    · obtain ⟨t', _, hupper', hspelling⟩ := upper_of_ascii hc
      obtain rfl : t' = t := by simpa [hupper'] using hupper
      exact hspelling
    · rcases upper_of_not_ascii hc with rfl | rfl | hligature | ⟨x, hx, hforeign⟩
      · have hi : upper 'ı' = ['I'] := by decide +kernel
        rw [hi] at hupper
        cases hupper
        decide
      · have hs : upper 'ſ' = ['S'] := by decide +kernel
        rw [hs] at hupper
        cases hupper
        decide
      · rw [hupper] at hligature
        simp [ligatures] at hligature
      · rw [hupper, List.mem_singleton] at hx
        have hlt := toNat_lt_of_isCapital ht
        rw [hx] at hforeign
        omega
  · have hascii : ∀ n < 128, isCapital (Char.ofNat n) = true →
        (spellings (Char.ofNat n)).all (upper · == [Char.ofNat n]) = true := by
      decide +kernel
    have hspellings := forall_ascii
      (P := fun t => isCapital t = true → (spellings t).all (upper · == [t]) = true)
      hascii (toNat_lt_of_isCapital ht) ht
    exact fun hc => beq_iff_eq.1 (List.all_eq_true.1 hspellings c hc)

/-- A text that an upper case can be compared with: capital letters and signs, and no ligature in
    it, for which a single letter would pass. -/
structure Listed (ts : List Char) : Prop where
  capital : ∀ t ∈ ts, isCapital t = true
  ligature : ∀ l ∈ ligatures, ¬l <:+: ts

theorem Listed.tail {t : Char} {ts : List Char} (h : Listed (t :: ts)) : Listed ts where
  capital x hx := h.capital x (List.mem_cons_of_mem _ hx)
  ligature l hl hinside := h.ligature l hl (hinside.trans (List.suffix_cons t ts).isInfix)

/-- A text has a listed upper case exactly if its characters pass for the listed ones, one by
    one. -/
theorem upperOf_eq_iff {ts cs : List Char} (hlisted : Listed ts) :
    upperOf cs = ts ↔ List.Forall₂ (fun t c => c ∈ spellings t) ts cs := by
  constructor
  · intro h
    induction cs generalizing ts with
    | nil =>
      obtain rfl : ts = [] := h.symm
      exact .nil
    | cons c cs ih =>
      have hsplit : upper c ++ upperOf cs = ts := h
      rcases upper_cases c with ⟨t, ht, hupper⟩ | hmem | ⟨x, hx, hforeign⟩
      · rw [hupper] at hsplit
        obtain rfl : t :: upperOf cs = ts := hsplit
        exact .cons ((upper_eq_singleton_iff ht c).1 hupper) (ih hlisted.tail rfl)
      · exact absurd ⟨[], upperOf cs, by simpa using hsplit⟩ (hlisted.ligature _ hmem)
      · have hcapital := hlisted.capital x (by rw [← hsplit]; exact List.mem_append_left _ hx)
        rw [hforeign] at hcapital
        cases hcapital
  · intro h
    induction h with
    | nil => rfl
    | @cons t c ts cs hspelling _ ih =>
      have hupper := (upper_eq_singleton_iff (hlisted.capital t List.mem_cons_self) c).2 hspelling
      rw [upperOf, List.flatMap_cons, hupper, ← upperOf, ih hlisted.tail]
      rfl

/-- Of values with texts of their own, a search by text finds the one that has the text. -/
theorem find?_text_eq_some_iff {α : Type} {text : α → String} (htext : Function.Injective text)
    {as : List α} (hall : ∀ a, a ∈ as) {cs : List Char} {a : α} :
    (as.find? fun a => (text a).toList == cs) = some a ↔ cs = (text a).toList := by
  constructor
  · intro h
    have hfound := List.find?_some h
    exact (beq_iff_eq.1 hfound).symm
  · rintro rfl
    cases hfind : as.find? fun b => (text b).toList == (text a).toList with
    | none => exact absurd (beq_self_eq_true _) (List.find?_eq_none.1 hfind a (hall a))
    | some b =>
      have hfound := List.find?_some hfind
      rw [htext (String.toList_inj.1 (beq_iff_eq.1 hfound))]

end Text

/-! ### Operators and directions -/

namespace Operator

/-- A text names an operator: its words, one space apart, are the listed text, but for characters
    that pass for the listed ones. -/
def Names (s : String) (o : Operator) : Prop :=
  List.Forall₂ (fun t c => c ∈ Text.spellings t) o.text.toList
    ([' '].intercalate ((s.toList.splitOnP Text.isBlank).filter (!·.isEmpty)))

theorem listed_text (o : Operator) : Text.Listed o.text.toList where
  capital := List.all_eq_true.1 (by cases o <;> decide)
  ligature := by cases o <;> decide +kernel

theorem text_injective : Function.Injective text := by
  intro o o' h
  cases o <;> cases o' <;> first | rfl | exact absurd h (by decide)

/-- The texts that name an operator pass for it, and no others. -/
theorem parse?_eq_some_iff {s : String} {o : Operator} : parse? s = some o ↔ Names s o := by
  have hall : ∀ o : Operator, o ∈ all := by
    intro o
    cases o <;> decide
  rw [parse?, Text.find?_text_eq_some_iff text_injective hall, normalize, Text.wordsOf_eq_splitOnP]
  exact Text.upperOf_eq_iff o.listed_text

theorem check_eq_ok {s : String} {o : Operator} (h : Names s o) : check s = .ok o := by
  rw [check, parse?_eq_some_iff.2 h]

theorem check_eq_error {s : String} (h : ∀ o, ¬Names s o) :
    check s = .error (.unknownOperator s) := by
  cases hparse : parse? s with
  | none => rw [check, hparse]
  | some o => exact absurd (parse?_eq_some_iff.1 hparse) (h o)

/-- Every call that takes an operator takes the text, and keeps the listed operator. -/
structure Passes (s : String) (o : Operator) : Prop where
  compare : ∀ (st : Statement) f c column value, st.compare f c column s value =
    .ok (st.addCondition f c (.compare column o value) (column.binds ++ value.binds))
  on : ∀ (j : JoinDraft) c first second, j.on c first s second =
    .ok (j.addTest c (.columns first o second) (first.binds ++ second.binds))
  compareJoined : ∀ (j : JoinDraft) c column value, j.compare c column s value =
    .ok (j.addTest c (.value column o value) (column.binds ++ value.binds))
  join : ∀ (st : Statement) kind table first second, st.join kind table first s second =
    .ok (st.addJoin
      ((JoinDraft.start kind table).addTest .and (.columns (.name first) o (.name second)) []))

/-- Every call that takes an operator refuses the text, and gives no statement. -/
structure Fails (s : String) : Prop where
  compare : ∀ (st : Statement) f c column value,
    st.compare f c column s value = .error (.unknownOperator s)
  on : ∀ (j : JoinDraft) c first second, j.on c first s second = .error (.unknownOperator s)
  compareJoined : ∀ (j : JoinDraft) c column value,
    j.compare c column s value = .error (.unknownOperator s)
  join : ∀ (st : Statement) kind table first second,
    st.join kind table first s second = .error (.unknownOperator s)

theorem Names.passes {s : String} {o : Operator} (h : Names s o) : Passes s o where
  compare st f c column value := by rw [Statement.compare, check_eq_ok h]; rfl
  on j c first second := by rw [JoinDraft.on, check_eq_ok h]; rfl
  compareJoined j c column value := by rw [JoinDraft.compare, check_eq_ok h]; rfl
  join st kind table first second := by rw [Statement.join, JoinDraft.on, check_eq_ok h]; rfl

theorem fails {s : String} (h : ∀ o, ¬Names s o) : Fails s where
  compare st f c column value := by rw [Statement.compare, check_eq_error h]; rfl
  on j c first second := by rw [JoinDraft.on, check_eq_error h]; rfl
  compareJoined j c column value := by rw [JoinDraft.compare, check_eq_error h]; rfl
  join st kind table first second := by rw [Statement.join, JoinDraft.on, check_eq_error h]; rfl

end Operator

namespace Direction

/-- A text names a direction: without the blanks around it is the listed text, but for characters
    that pass for the listed ones. -/
def Names (s : String) (d : Direction) : Prop :=
  List.Forall₂ (fun t c => c ∈ Text.spellings t) d.text.toList (Text.trim s).toList

theorem listed_text (d : Direction) : Text.Listed d.text.toList where
  capital := List.all_eq_true.1 (by cases d <;> decide)
  ligature := by cases d <;> decide +kernel

theorem text_injective : Function.Injective text := by
  intro d d' h
  cases d <;> cases d' <;> first | rfl | exact absurd h (by decide)

/-- The texts that name a direction pass for it, and no others. -/
theorem parse?_eq_some_iff {s : String} {d : Direction} : parse? s = some d ↔ Names s d := by
  have hall : ∀ d : Direction, d ∈ [ascending, descending] := by
    intro d
    cases d <;> decide
  rw [parse?, Text.find?_text_eq_some_iff text_injective hall]
  exact Text.upperOf_eq_iff d.listed_text

theorem check_eq_ok {s : String} {d : Direction} (h : Names s d) : check s = .ok d := by
  rw [check, parse?_eq_some_iff.2 h]

theorem check_eq_error {s : String} (h : ∀ d, ¬Names s d) :
    check s = .error (.unknownDirection s) := by
  cases hparse : parse? s with
  | none => rw [check, hparse]
  | some d => exact absurd (parse?_eq_some_iff.1 hparse) (h d)

end Direction

/-! ### In the text of a statement -/

/-- The text has a comparison in it: two sides, and the listed text between them. -/
def Operator.StandsIn (o : Operator) (d : Dialect) (left right : List Token) (text : String) :
    Prop :=
  ∃ front n back, text = front ++ (Token.render d n left ++ " " ++ o.text ++ " " ++
    Token.render d (n + (left.flatMap Token.binds).length) right) ++ back

/-- The text has a sort key in it: a column, and the listed text behind it. -/
def Direction.StandsIn (direction : Direction) (d : Dialect) (column : Column) (text : String) :
    Prop :=
  ∃ front n back, text =
    front ++ (Token.render d n column.tokens ++ " " ++ direction.text) ++ back

namespace Token

theorem render_comparison (d : Dialect) (n : Nat) (left : List Token) (o : Operator)
    (right : List Token) :
    render d n (comparison left o right) = render d n left ++ " " ++ o.text ++ " " ++
      render d (n + (left.flatMap binds).length) right := by
  rw [comparison, render_append, render_word_cons, render_after]
  simp only [← String.append_assoc]
  rfl

theorem render_order (d : Dialect) (n : Nat) (o : Order) :
    render d n o.tokens = render d n o.column.tokens ++ " " ++ o.direction.text := by
  rw [Order.tokens, render_append, render_word_cons, render_word, ← String.append_assoc]
  rfl

/-- Tokens in the text of a statement are written there, after the values in front of them. -/
theorem exists_text_of_infix {s : Statement} {d : Dialect} {text : String}
    (htext : s.compile d = .ok text) {ts : List Token} (h : ts <:+: s.tokens) :
    ∃ front n back, text = front ++ render d n ts ++ back := by
  obtain ⟨_, rfl⟩ := Statement.compile_eq_ok htext
  obtain ⟨us, vs, htokens⟩ := h
  rw [← htokens, render_append, render_append]
  exact ⟨_, _, _, rfl⟩

end Token

theorem Operator.standsIn_of_infix {s : Statement} {d : Dialect} {text : String} {o : Operator}
    {left right : List Token} (htext : s.compile d = .ok text)
    (h : comparison left o right <:+: s.tokens) : o.StandsIn d left right text := by
  obtain ⟨front, n, back, heq⟩ := Token.exists_text_of_infix htext h
  rw [Token.render_comparison] at heq
  exact ⟨front, n, back, heq⟩

/-- A test is a comparison, or a group that has one in it. -/
inductive Predicate.Compares (column : Column) (o : Operator) (value : Value) : Predicate → Prop
  | here : Compares column o value (.compare column o value)
  | inside {cs : List Condition} {connector : Option Connector} {p : Predicate} :
      ⟨connector, p⟩ ∈ cs → Compares column o value p → Compares column o value (.group cs)

/-- A comparison stands in the condition that has it. -/
theorem Condition.infix_comparison {column : Column} {o : Operator} {value : Value} {c : Condition}
    (h : c.predicate.Compares column o value) :
    comparison column.tokens o value.tokens <:+: c.tokens := by
  obtain ⟨connector, p⟩ := c
  have hp : p.Compares column o value := h
  clear h
  induction hp generalizing connector with
  | here =>
    cases connector with
    | none => exact List.infix_rfl
    | some k => exact infix_after k.word _
  | @inside cs inner p hmem _ ih =>
    have hgroup : comparison column.tokens o value.tokens <:+: (Predicate.group cs).tokens := by
      have hitem := ih inner
      rw [Predicate.tokens, conditionItems_eq_map]
      exact hitem.trans ((infix_spaced (List.mem_map_of_mem hmem)).trans (infix_enclosed _))
    cases connector with
    | none => exact hgroup
    | some k => exact hgroup.trans (infix_after k.word _)

namespace Statement

variable {s : Statement}

/-- The conditions of a filter are written, in `HAVING` by a query only. -/
theorem infix_tokens_of_mem_conditions {f : Filter} {c : Condition} (h : c ∈ s.conditions f)
    (hkind : s.kind = none ∨ s.kind = some .select ∨
      f = .wheres ∧ (s.kind = some .update ∨ s.kind = some .delete)) : c.tokens <:+: s.tokens := by
  have hquery : s.kind = none ∨ s.kind = some .select → c.tokens <:+: s.tokens := by
    intro hselect
    rw [tokens_select hselect]
    cases f with
    | wheres => exact (infix_filterTokens .WHERE h).trans (infix_clauses (by simp [conditions]))
    | havings => exact (infix_filterTokens .HAVING h).trans (infix_clauses (by simp [conditions]))
  rcases hkind with hkind | hkind | ⟨rfl, hkind | hkind⟩
  · exact hquery (.inl hkind)
  · exact hquery (.inr hkind)
  · rw [tokens_update hkind]
    exact (infix_filterTokens .WHERE h).trans (infix_clauses (by simp [conditions]))
  · rw [tokens_delete hkind]
    exact (infix_filterTokens .WHERE h).trans (infix_clauses (by simp [conditions]))

/-- The tests of the joins of a query are written. -/
theorem infix_tokens_of_mem_joins (hkind : s.kind = none ∨ s.kind = some .select) {j : Join}
    (hj : j ∈ s.joins) {c : JoinCondition} (hc : c ∈ j.conditions) :
    c.test.tokens <:+: s.tokens := by
  have htest : c.test.tokens <:+: c.tokens := by
    obtain ⟨connector, test⟩ := c
    cases connector with
    | none => exact List.infix_rfl
    | some k => exact infix_after k.word _
  have hjoin : c.tokens <:+: j.tokens := by
    obtain ⟨kind, table, cs⟩ := j
    have hne : cs.isEmpty = false := List.isEmpty_eq_false_iff_exists_mem.2 ⟨c, hc⟩
    rw [Join.tokens, hne, joinConditionItems_eq_map]
    exact ((infix_spaced (List.mem_map_of_mem hc)).trans (infix_enclosed _)).trans
      (infix_behind _ _ _)
  have hclause : j.tokens <:+: spaced (s.joins.map Join.tokens) :=
    infix_spaced (List.mem_map_of_mem hj)
  rw [tokens_select hkind]
  exact ((htest.trans hjoin).trans hclause).trans (infix_clauses (by simp))

/-- The sort keys of a query are written. -/
theorem infix_tokens_of_mem_orders (hkind : s.kind = none ∨ s.kind = some .select) {o : Order}
    (ho : o ∈ s.orders) : o.tokens <:+: s.tokens := by
  rw [tokens_select hkind]
  exact (infix_listedAfter .ORDER_BY (List.mem_map_of_mem ho)).trans (infix_clauses (by simp))

end Statement

/-- **Admission.**  A text passes for an operator exactly if its words, one space apart, are the
    listed text, each letter in either case, or `ı` for an `I`; for a direction exactly if it is the
    listed text with blanks around, each letter in either case, or `ſ` for an `S`.  The calls that
    take such a text keep what is listed; they refuse every other text and give no statement.  What
    is kept is written as the listed text. -/
theorem admission :
    (∀ s o, Operator.parse? s = some o ↔ Operator.Names s o) ∧
    (∀ s direction, Direction.parse? s = some direction ↔ Direction.Names s direction) ∧
    (∀ s o, Operator.Names s o → Operator.Passes s o) ∧
    (∀ s, (∀ o, ¬Operator.Names s o) → Operator.Fails s) ∧
    (∀ s direction, Direction.Names s direction → ∀ (st : Statement) column,
      st.orderBy column s = .ok { st with
        orders := st.orders ++ [⟨column, direction⟩]
        ledger := st.ledger.add .orders column.binds }) ∧
    (∀ s, (∀ direction, ¬Direction.Names s direction) → ∀ (st : Statement) column,
      st.orderBy column s = .error (.unknownDirection s)) ∧
    ∀ (st : Statement) d text, st.compile d = .ok text →
      (∀ f, st.kind = none ∨ st.kind = some .select ∨
          f = .wheres ∧ (st.kind = some .update ∨ st.kind = some .delete) →
        ∀ c ∈ st.conditions f, ∀ column o value, c.predicate.Compares column o value →
          o.StandsIn d column.tokens value.tokens text) ∧
      (st.kind = none ∨ st.kind = some .select → ∀ j ∈ st.joins, ∀ connector,
        (∀ first o second, ⟨connector, .columns first o second⟩ ∈ j.conditions →
          o.StandsIn d first.tokens second.tokens text) ∧
        ∀ column o value, ⟨connector, .value column o value⟩ ∈ j.conditions →
          o.StandsIn d column.tokens value.tokens text) ∧
      (st.kind = none ∨ st.kind = some .select → ∀ order ∈ st.orders,
        order.direction.StandsIn d order.column text) := by
  refine ⟨fun s o => Operator.parse?_eq_some_iff, fun s d => Direction.parse?_eq_some_iff,
    fun s o h => h.passes, fun s h => Operator.fails h, ?_, ?_, ?_⟩
  · intro s direction h st column
    rw [Statement.orderBy, Direction.check_eq_ok h]
    rfl
  · intro s h st column
    rw [Statement.orderBy, Direction.check_eq_error h]
    rfl
  · intro st d text htext
    refine ⟨?_, ?_, ?_⟩
    · intro f hkind c hmem column o value hcompares
      have hinside := Statement.infix_tokens_of_mem_conditions hmem hkind
      exact Operator.standsIn_of_infix htext ((Condition.infix_comparison hcompares).trans hinside)
    · intro hkind j hj connector
      refine ⟨fun first o second hmem => ?_, fun column o value hmem => ?_⟩
      · exact Operator.standsIn_of_infix htext (Statement.infix_tokens_of_mem_joins hkind hj hmem)
      · exact Operator.standsIn_of_infix htext (Statement.infix_tokens_of_mem_joins hkind hj hmem)
    · intro hkind order hmem
      obtain ⟨front, n, back, heq⟩ :=
        Token.exists_text_of_infix htext (Statement.infix_tokens_of_mem_orders hkind hmem)
      rw [Token.render_order] at heq
      exact ⟨front, n, back, heq⟩

/-- Blanks of any kind may stand between the words, and the dotless letter passes for an `I`. -/
example : Operator.parse? "\u3000nOt\u2003\n lıKe " = some .notLike := by decide +kernel

end SqlBuilder
