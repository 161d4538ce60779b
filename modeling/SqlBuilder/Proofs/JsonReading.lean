import Mathlib.Data.List.TakeWhile
import SqlBuilder.Proofs.JsonLexemes

namespace SqlBuilder.Json

open Numeral

/-!
# Every text of a JSON value is read

Blanks may stand between the parts, and a value may be nested to any depth as far as its parts are
concerned; only the whole of it is refused if it is nested too deep.

* `value?_number`, `value?_items`, `value?_members` — what a value starts with;
* `items?_comma`, `memberTail_comma`, `members?_key` — what stands behind a value and a key;
* `Part.Reads`, `Spells.reads` — each part of a text is read;
* `parse?_isText`, `parse?_of_integral` — a text is read as its value, if it is read, and without
  floats it is read unless the value is nested too deep;
* `IsText.unique` — a text without floats has one value.
-/

variable {float : List Char → Binary64}

/-- A number starts with a digit or a sign. -/
theorem numberText_front {text : List Char} {m : Number} (h : NumberText float text m) :
    ∃ c cs, text = c :: cs ∧ (c.isDigit = true ∨ c = '-') := by
  have hfront : ∀ sign ∈ [[], ['-']], ∀ (n : Nat) (tail : List Char),
      ∃ c cs, sign ++ (digitsOf n ++ tail) = c :: cs ∧ (c.isDigit = true ∨ c = '-') := by
    intro sign hsign n tail
    simp only [List.mem_cons, List.not_mem_nil, or_false] at hsign
    rcases hsign with rfl | rfl
    · obtain ⟨d, ds, hds⟩ :=
        List.exists_cons_of_ne_nil (show digitsOf n ≠ [] from Nat.toDigits_ne_nil)
      exact ⟨d, ds ++ tail, by rw [hds]; rfl,
        .inl (isDigit_of_mem_digitsOf (hds ▸ List.mem_cons_self))⟩
    · exact ⟨'-', _, rfl, .inr rfl⟩
  cases h with
  | integer i range =>
    rw [integerText_eq, ← List.append_nil (digitsOf _)]
    exact hfront _ (by split <;> simp) _ _
  | float hsign _ _ htext _ => exact htext ▸ hfront _ hsign _ _

/-- A digit or a sign starts nothing else, and is no blank. -/
theorem numberStart {c : Char} (h : c.isDigit = true ∨ c = '-') :
    isSpace c = false ∧ c ∉ ['n', 't', 'f', '"', '[', ']', '\x7b'] := by
  have hall : ∀ n < 58, (Char.ofNat n).isDigit = true ∨ Char.ofNat n = '-' →
      isSpace (Char.ofNat n) = false ∧
        Char.ofNat n ∉ ['n', 't', 'f', '"', '[', ']', '\x7b'] := by
    decide
  have hsmall : c.toNat < 58 := by
    rcases h with h | rfl
    · exact Nat.lt_succ_of_le (Char.isDigit_iff_toNat.1 h).2
    · decide
  have hc := hall c.toNat hsmall
  rw [Char.ofNat_toNat] at hc
  exact hc h

/-- What starts like a number is read as one. -/
theorem value?_number {c : Char} (hc : c.isDigit = true ∨ c = '-') (steps : Nat) (cs : List Char) :
    value? (steps + 1) (c :: cs) = (number? (c :: cs)).map fun (n, rest) => (.number n, rest) := by
  obtain ⟨hspace, hother⟩ := numberStart hc
  simp only [List.mem_cons, List.not_mem_nil, or_false, not_or] at hother
  rw [value?.eq_def]
  simp only [skip_cons hspace]
  split <;> simp_all

/-- No blank and no closing bracket stands in front of a value. -/
theorem Spells.value_front {text : List Char} {j : Json} (h : Spells float text (.value j)) :
    ∃ c cs, text = c :: cs ∧ isSpace c = false ∧ c ≠ ']' := by
  cases h with
  | null | bool_true | bool_false | emptyArray | array | emptyObject | object =>
    exact ⟨_, _, rfl, by decide, by decide⟩
  | number h =>
    obtain ⟨c, cs, htext, hc⟩ := numberText_front h
    obtain ⟨hspace, hother⟩ := numberStart hc
    exact ⟨c, cs, htext, hspace, fun heq => hother (by simp [heq])⟩
  | string h =>
    obtain ⟨h⟩ := h
    exact ⟨'"', _, rfl, by decide, by decide⟩

/-- Blanks may stand in front of the first item. -/
theorem Spells.items_front {text : List Char} {js : List Json}
    (h : Spells float text (.items js)) :
    ∃ gap c cs, Blank gap ∧ text = gap ++ c :: cs ∧ isSpace c = false ∧ c ≠ ']' := by
  have hpadded : ∀ {text : List Char} {j : Json}, Spells float text (.padded j) →
      ∃ gap c cs, Blank gap ∧ text = gap ++ c :: cs ∧ isSpace c = false ∧ c ≠ ']' := by
    intro text j h
    cases h with
    | padded hbefore h _ =>
      obtain ⟨c, cs, rfl, hc⟩ := h.value_front
      exact ⟨_, c, _, hbefore, rfl, hc⟩
  cases h with
  | lastItem h => exact hpadded h
  | nextItem h _ =>
    obtain ⟨gap, c, cs, hgap, rfl, hc⟩ := hpadded h
    exact ⟨gap, c, _, hgap, by rw [List.append_assoc, List.cons_append], hc⟩

/-- Blanks may stand in front of the quote of the first key. -/
theorem Spells.members_front {text : List Char} {ms : List (String × Json)}
    (h : Spells float text (.members ms)) :
    ∃ gap cs, Blank gap ∧ text = gap ++ '"' :: cs := by
  have hmember : ∀ {text : List Char} {key : String} {j : Json},
      Spells float text (.member key j) → ∃ gap cs, Blank gap ∧ text = gap ++ '"' :: cs := by
    intro text key j h
    cases h with
    | member hbefore hkey _ _ =>
      obtain ⟨hkey⟩ := hkey
      exact ⟨_, _, hbefore, rfl⟩
  cases h with
  | lastMember h => exact hmember h
  | nextMember h _ =>
    obtain ⟨gap, cs, hgap, rfl⟩ := hmember h
    exact ⟨gap, _, hgap, by rw [List.append_assoc, List.cons_append]⟩

/-- Behind the opening bracket stands the first item. -/
theorem value?_items {text : List Char} {js : List Json}
    (h : Spells float text (.items js)) (steps : Nat) (rest : List Char) :
    value? (steps + 1) ('[' :: (text ++ rest)) =
      (items? steps (text ++ rest)).map fun (items, rest) => (.array items, rest) := by
  obtain ⟨gap, c, cs, hgap, rfl, hspace, hclose⟩ := h.items_front
  rw [List.append_assoc, List.cons_append, items?_blank hgap, value?.eq_def]
  simp only [skip_cons (show isSpace '[' = false by decide), skip_blank_cons hgap hspace]
  split
  · rename_i heq
    exact absurd (List.cons.inj heq).1 hclose
  · rfl

/-- Behind the opening brace stands the first member. -/
theorem value?_members {text : List Char} {ms : List (String × Json)}
    (h : Spells float text (.members ms)) (steps : Nat) (rest : List Char) :
    value? (steps + 1) ('\x7b' :: (text ++ rest)) =
      (members? steps (text ++ rest)).map fun (members, rest) => (.object members, rest) := by
  obtain ⟨gap, cs, hgap, rfl⟩ := h.members_front
  rw [List.append_assoc, List.cons_append, members?_blank hgap, value?.eq_def]
  simp only [skip_cons (show isSpace '\x7b' = false by decide),
    skip_blank_cons hgap (show isSpace '"' = false by decide)]
  rfl

/-! ### What stands behind a value -/

/-- What is read behind a key and its value. -/
def memberTail (steps : Nat) (key : String) :
    Json × List Char → Option (List (String × Json) × List Char)
  | (value, rest) => do
    match skip rest with
    | ',' :: rest =>
      let (members, rest) ← members? steps rest
      return ((key, value) :: members, rest)
    | '\x7d' :: rest => return ([(key, value)], rest)
    | _ => none

section

variable {steps : Nat} {cs gap rest after : List Char} {key : String} {j : Json}
  {sure sure' : Prop} (hgap : Blank gap)

include hgap

/-- The bracket closes the items behind the last one. -/
theorem items?_close (h : Answers (value? steps cs) (j, gap ++ ']' :: rest) sure) :
    Answers (items? (steps + 1) cs) ([j], rest) sure := by
  rw [items?]
  refine h.bind_some ?_
  simp only [skip_blank_cons hgap (show isSpace ']' = false by decide)]
  rfl

/-- Behind a comma stand the other items. -/
theorem items?_comma {js : List Json}
    (h : Answers (value? steps cs) (j, gap ++ ',' :: rest) sure)
    (hrest : Answers (items? steps rest) (js, after) sure') :
    Answers (items? (steps + 1) cs) (j :: js, after) (sure ∧ sure') := by
  rw [items?]
  refine h.bind ?_
  simp only [skip_blank_cons hgap (show isSpace ',' = false by decide)]
  exact hrest.bind_some rfl

/-- The brace closes the members behind the last one. -/
theorem memberTail_close : memberTail steps key (j, gap ++ '\x7d' :: rest) =
    some ([(key, j)], rest) := by
  simp only [memberTail, skip_blank_cons hgap (show isSpace '\x7d' = false by decide)]
  rfl

/-- Behind a comma stand the other members. -/
theorem memberTail_comma {ms : List (String × Json)}
    (hrest : Answers (members? steps rest) (ms, after) sure) :
    Answers (memberTail steps key (j, gap ++ ',' :: rest)) ((key, j) :: ms, after) sure := by
  simp only [memberTail, skip_blank_cons hgap (show isSpace ',' = false by decide)]
  exact hrest.bind_some rfl

end

/-- A key is read with the colon behind it, and then its value. -/
theorem members?_key {before quoted between : List Char} {key : String} (hbefore : Blank before)
    (hkey : QuotedText quoted key) (hbetween : Blank between) (steps : Nat) (cs : List Char) :
    members? (steps + 1) (before ++ (quoted ++ (between ++ ':' :: cs))) =
      (value? steps cs).bind (memberTail steps key) := by
  obtain ⟨tail, rfl, hstring⟩ := string?_quotedText hkey
  have hcolon := skip_blank_cons hbetween (show isSpace ':' = false by decide) cs
  rw [members?_blank hbefore, List.cons_append, members?, skip_cons (by decide)]
  simp only [hstring, hcolon, Option.bind_eq_bind, Option.bind_some]
  rfl

/-! ### Each part of a text -/

/-- The reader answers the part of the text, if there are enough steps and nothing continues it.
    The blanks behind a value are left over. -/
def Part.Reads (text : List Char) : Part → Prop
  | .value j => ∀ steps rest, text.length ≤ steps → Ends rest →
      Answers (value? steps (text ++ rest)) (j, rest) j.Integral
  | .padded j => ∃ gap, Blank gap ∧ ∀ steps rest, text.length ≤ steps → Ends rest →
      Answers (value? steps (text ++ rest)) (j, gap ++ rest) j.Integral
  | .items js => ∀ steps rest, text.length < steps →
      Answers (items? steps (text ++ ']' :: rest)) (js, rest) (∀ j ∈ js, j.Integral)
  | .member key j => ∃ gap, Blank gap ∧ ∀ steps rest, text.length ≤ steps → Ends rest →
      ∃ o, Answers o (j, gap ++ rest) j.Integral ∧
        members? (steps + 1) (text ++ rest) = o.bind (memberTail steps key)
  | .members ms => ∀ steps rest, text.length < steps →
      Answers (members? steps (text ++ '\x7d' :: rest)) (ms, rest) (∀ m ∈ ms, m.2.Integral)

/-- A step is left for a value, for it has a text. -/
theorem Spells.exists_steps {text : List Char} {j : Json}
    (h : Spells float text (.value j)) {steps : Nat} (hsteps : text.length ≤ steps) :
    ∃ k, steps = k + 1 := by
  obtain ⟨c, cs, rfl, _⟩ := h.value_front
  exact Nat.exists_eq_add_one.2 (Nat.zero_lt_of_lt hsteps)

/-- Each part of a text is read. -/
theorem Spells.reads {text : List Char} {p : Part} (h : Spells floatOf text p) : p.Reads text := by
  induction h with
  | null | bool_true | bool_false =>
    intro steps rest hsteps _
    obtain ⟨steps, rfl⟩ := Nat.exists_eq_add_one.2 (Nat.zero_lt_of_lt hsteps)
    exact .inl rfl
  | number h =>
    intro steps rest hsteps hrest
    obtain ⟨steps, rfl⟩ := (Spells.number h).exists_steps hsteps
    obtain ⟨o, ho, hread⟩ := number?_numberText h
    -- The first character tells a number from all other values.
    obtain ⟨c, cs, rfl, hc⟩ := numberText_front h
    have hvalue := hread rest hrest
    rw [List.cons_append] at hvalue ⊢
    rw [value?_number hc, hvalue, Option.map_map]
    exact ho.map rfl
  | string h =>
    intro steps rest hsteps _
    obtain ⟨steps, rfl⟩ := (show Spells floatOf _ _ from .string h).exists_steps hsteps
    obtain ⟨tail, rfl, hread⟩ := string?_quotedText h
    rw [List.cons_append, value?, skip_cons (by decide)]
    exact .inl (by simp [hread])
  | emptyArray hgap =>
    intro steps rest hsteps _
    obtain ⟨steps, rfl⟩ := Nat.exists_eq_add_one.2 (Nat.zero_lt_of_lt hsteps)
    refine .inl ?_
    simp [value?, skip_cons (show isSpace '[' = false by decide),
      skip_blank_cons hgap (show isSpace ']' = false by decide)]
  | @array text items h ih =>
    intro steps rest hsteps _
    obtain ⟨steps, rfl⟩ := Nat.exists_eq_add_one.2 (Nat.zero_lt_of_lt hsteps)
    -- The brackets are two characters more than the items, so a step is left over for these.
    have hinner : text.length < steps := by simp at hsteps; omega
    have htext : '[' :: (text ++ [']']) ++ rest = '[' :: (text ++ ']' :: rest) := by simp
    rw [htext, value?_items h]
    refine ((ih steps rest hinner).map rfl).mono fun hintegral => ?_
    cases hintegral with
    | array hitems => exact hitems
  | emptyObject hgap =>
    intro steps rest hsteps _
    obtain ⟨steps, rfl⟩ := Nat.exists_eq_add_one.2 (Nat.zero_lt_of_lt hsteps)
    refine .inl ?_
    simp [value?, skip_cons (show isSpace '\x7b' = false by decide),
      skip_blank_cons hgap (show isSpace '\x7d' = false by decide)]
  | @object text members h ih =>
    intro steps rest hsteps _
    obtain ⟨steps, rfl⟩ := Nat.exists_eq_add_one.2 (Nat.zero_lt_of_lt hsteps)
    have hinner : text.length < steps := by simp at hsteps; omega
    have htext : '\x7b' :: (text ++ ['\x7d']) ++ rest = '\x7b' :: (text ++ '\x7d' :: rest) := by
      simp
    rw [htext, value?_members h]
    refine ((ih steps rest hinner).map rfl).mono fun hintegral => ?_
    cases hintegral with
    | object hmembers => exact hmembers
  | @padded before text after j hbefore h hafter ih =>
    refine ⟨after, hafter, fun steps rest hsteps hrest => ?_⟩
    have hinner : text.length ≤ steps := by simp at hsteps; omega
    -- The reader stops behind the value, and the blanks there do not continue a number.
    rw [List.append_assoc, List.append_assoc, value?_blank hbefore]
    exact ih steps (after ++ rest) hinner (ends_blank hafter hrest)
  | @lastItem text j _ ih =>
    obtain ⟨gap, hgap, hread⟩ := ih
    intro steps rest hsteps
    obtain ⟨steps, rfl⟩ := Nat.exists_eq_add_one.2 (Nat.zero_lt_of_lt hsteps)
    have hj := hread steps (']' :: rest) (Nat.le_of_lt_succ hsteps) (ends_cons (by decide) _)
    exact (items?_close hgap hj).mono fun hitems => hitems j List.mem_cons_self
  | @nextItem text rest j items _ _ ih ihs =>
    obtain ⟨gap, hgap, hread⟩ := ih
    intro steps after hsteps
    obtain ⟨steps, rfl⟩ := Nat.exists_eq_add_one.2 (Nat.zero_lt_of_lt hsteps)
    rw [List.length_append, List.length_cons] at hsteps
    have hj := hread steps (',' :: (rest ++ ']' :: after)) (by omega) (ends_cons (by decide) _)
    rw [List.append_assoc, List.cons_append]
    exact (items?_comma hgap hj (ihs steps after (by omega))).mono List.forall_mem_cons.1
  | @member before quoted between text key j hbefore hkey hbetween _ ih =>
    obtain ⟨gap, hgap, hread⟩ := ih
    refine ⟨gap, hgap, fun steps rest hsteps hrest => ⟨_, hread steps rest ?_ hrest, ?_⟩⟩
    · simp at hsteps
      omega
    · simp only [List.append_assoc, List.cons_append]
      exact members?_key hbefore hkey hbetween steps (text ++ rest)
  | @lastMember text key j _ ih =>
    obtain ⟨gap, hgap, hread⟩ := ih
    intro steps rest hsteps
    obtain ⟨steps, rfl⟩ := Nat.exists_eq_add_one.2 (Nat.zero_lt_of_lt hsteps)
    obtain ⟨o, hj, hmember⟩ := hread steps ('\x7d' :: rest) (Nat.le_of_lt_succ hsteps)
      (ends_cons (by decide) _)
    rw [hmember]
    exact (hj.bind_some (memberTail_close hgap)).mono fun hmembers =>
      hmembers _ List.mem_cons_self
  | @nextMember text rest key j members _ _ ih ihs =>
    obtain ⟨gap, hgap, hread⟩ := ih
    intro steps after hsteps
    obtain ⟨steps, rfl⟩ := Nat.exists_eq_add_one.2 (Nat.zero_lt_of_lt hsteps)
    rw [List.length_append, List.length_cons] at hsteps
    obtain ⟨o, hj, hmember⟩ := hread steps (',' :: (rest ++ '\x7d' :: after)) (by omega)
      (ends_cons (by decide) _)
    rw [List.append_assoc, List.cons_append, hmember]
    exact (hj.bind (memberTail_comma hgap (ihs steps after (by omega)))).mono
      List.forall_mem_cons.1

/-! ### Whole texts -/

/-- A text of a value is read as the value, blanks around it included. -/
theorem value?_isText {s : String} {j : Json} (h : IsText floatOf s j) :
    ∃ gap, Blank gap ∧ Answers (value? (2 * s.toList.length + 2) s.toList) (j, gap) j.Integral := by
  obtain ⟨gap, hgap, hread⟩ := h.reads
  have hvalue := hread (2 * s.toList.length + 2) [] (by omega) nofun
  rw [List.append_nil, List.append_nil] at hvalue
  exact ⟨gap, hgap, hvalue⟩

/-- A text of a value is read as nothing else. -/
theorem parse?_isText {s : String} {j : Json} (h : IsText floatOf s j) :
    parse? s = some j ∨ parse? s = none := by
  obtain ⟨gap, hgap, hread⟩ := value?_isText h
  rw [parse?]
  rcases hread with hsome | ⟨hnone, _⟩
  · rw [hsome, Option.bind_eq_bind, Option.bind_some]
    exact ite_eq_or_eq _ _ _
  · rw [hnone]
    exact .inr rfl

/-- A text of a value without floats is read as the value, if it is not nested too deep. -/
theorem parse?_of_integral {s : String} {j : Json} (h : IsText float s j)
    (hintegral : j.Integral) :
    parse? s = if j.depth ≤ maxDepth then some j else none := by
  obtain ⟨gap, hgap, hread⟩ := value?_isText (h.of_integral hintegral)
  have hempty : (skip gap).isEmpty = true := by
    rw [skip, List.isEmpty_iff, List.dropWhile_eq_nil_iff]
    exact hgap
  rw [parse?, hread.eq_some hintegral, Option.bind_eq_bind, Option.bind_some]
  simp only [hempty, true_and]

/-- A text is that of one value without floats at most. -/
theorem IsText.unique {s : String} {j k : Json}
    (hj : IsText float s j) (hk : IsText float s k) (hjs : j.Integral) (hks : k.Integral) :
    j = k := by
  -- The reader has one answer for the text.
  obtain ⟨_, _, hread⟩ := value?_isText (hj.of_integral hjs)
  obtain ⟨_, _, hread'⟩ := value?_isText (hk.of_integral hks)
  rw [hread.eq_some hjs] at hread'
  exact (Prod.mk.inj (Option.some.inj (hread'.eq_some hks))).1

end SqlBuilder.Json
