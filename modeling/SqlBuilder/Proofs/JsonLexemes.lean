import Mathlib.Data.List.Basic
import SqlBuilder.Json.Parser
import SqlBuilder.Proofs.JsonText

namespace SqlBuilder.Json

open Numeral

/-!
# Every quoted text and every number of JSON is read

The readers take what the grammar allows, up to where it ends, with every spelling of a character.
Only a number may be refused, if it is too large for a float.

* `Answers` — the one answer that a reader can give, if it gives any;
* `value?_blank`, `items?_blank`, `members?_blank` — blanks in front have no part in a value;
* `units?_charText`, `string?_quotedText` — a character and a text in quotes;
* `Stops`, `Ends` — what may stand behind digits and behind a number;
* `number?_parts` — the parts of a number, one after the other;
* `spells_ofInteger`, `number?_integerText` — an integer of any size is a number;
* `number?_numberText` — every number is read, if it is not too large.
-/

/-- The answer is this one, and there is one if that is `sure`. -/
def Answers {α : Type} (o : Option α) (a : α) (sure : Prop) : Prop :=
  o = some a ∨ o = none ∧ ¬sure

namespace Answers

variable {α β : Type} {o : Option α} {a : α} {sure sure' : Prop}

theorem mono (h : Answers o a sure) (himp : sure' → sure) : Answers o a sure' :=
  h.imp_right fun ⟨hnone, hunsure⟩ => ⟨hnone, fun hsure => hunsure (himp hsure)⟩

theorem map {f : α → β} {b : β} (h : Answers o a sure) (hf : f a = b) :
    Answers (o.map f) b sure := by
  rcases h with rfl | ⟨rfl, hunsure⟩
  · exact .inl (congrArg some hf)
  · exact .inr ⟨rfl, hunsure⟩

theorem bind {f : α → Option β} {b : β} (h : Answers o a sure) (hf : Answers (f a) b sure') :
    Answers (o.bind f) b (sure ∧ sure') := by
  rcases h with rfl | ⟨rfl, hunsure⟩
  · exact hf.mono And.right
  · exact .inr ⟨rfl, fun hsure => hunsure hsure.1⟩

theorem bind_some {f : α → Option β} {b : β} (h : Answers o a sure) (hf : f a = some b) :
    Answers (o.bind f) b sure := by
  rcases h with rfl | ⟨rfl, hunsure⟩
  · exact .inl hf
  · exact .inr ⟨rfl, hunsure⟩

theorem eq_some (h : Answers o a sure) (hsure : sure) : o = some a :=
  h.resolve_right fun hnone => hnone.2 hsure

end Answers

/-! ### Blanks -/

theorem skip_cons {c : Char} (hc : isSpace c = false) (cs : List Char) :
    skip (c :: cs) = c :: cs := by
  rw [skip, List.dropWhile_cons, if_neg (by simp [hc])]

section Blank

variable {gap : List Char} (hgap : Blank gap)

include hgap

theorem skip_blank (cs : List Char) : skip (gap ++ cs) = skip cs := by
  rw [skip, skip, List.dropWhile_append_of_pos hgap]

theorem skip_blank_cons {c : Char} (hc : isSpace c = false) (cs : List Char) :
    skip (gap ++ c :: cs) = c :: cs := by
  rw [skip_blank hgap, skip_cons hc]

/-- Blanks in front of a value have no part in it. -/
theorem value?_blank (steps : Nat) (cs : List Char) :
    value? steps (gap ++ cs) = value? steps cs := by
  cases steps with
  | zero => rfl
  | succ steps => rw [value?.eq_def, value?.eq_def]; simp only [skip_blank hgap]

theorem items?_blank (steps : Nat) (cs : List Char) :
    items? steps (gap ++ cs) = items? steps cs := by
  cases steps with
  | zero => rfl
  | succ steps => rw [items?, items?, value?_blank hgap]

theorem members?_blank (steps : Nat) (cs : List Char) :
    members? steps (gap ++ cs) = members? steps cs := by
  cases steps with
  | zero => rfl
  | succ steps => rw [members?.eq_def, members?.eq_def]; simp only [skip_blank hgap]

end Blank

/-! ### Texts -/

/-- A unit that is no surrogate is a character by itself. -/
theorem joinUnits?_unit {n : Nat} (hhigh : isHighSurrogate n = false)
    (hlow : isLowSurrogate n = false) (us : List Unit16) :
    joinUnits? (.unit n :: us) = (joinUnits? us).map (Char.ofNat n :: ·) := by
  cases us with
  | nil => simp [joinUnits?, hhigh, hlow]
  | cons u us => cases u <;> simp [joinUnits?, hhigh, hlow]

/-- The steps that a character is read as stand for it. -/
theorem units?_charText {text : List Char} {c : Char} (h : CharText text c) :
    ∃ us, (∀ cs, units? (text ++ cs) = (units? cs).map fun (vs, rest) => (us ++ vs, rest)) ∧
      ∀ vs, joinUnits? (us ++ vs) = (joinUnits? vs).map (c :: ·) := by
  cases h with
  | plain hcontrol _ hslash =>
    refine ⟨[.char c], fun cs => ?_, fun vs => by simp [joinUnits?]⟩
    have hc : ¬c < ' ' := Char.not_lt.2 hcontrol
    cases hcs : units? cs <;> simp [units?, hslash, hc, hcs]
  | @short e _ hshort =>
    refine ⟨[.char c], fun cs => ?_, fun vs => by simp [joinUnits?]⟩
    have he : e ≠ 'u' := by
      rintro rfl
      cases hshort
    cases hcs : units? cs <;> simp [units?, he, hshort, hcs]
  | @unit a b c d n hunit hhigh hlow =>
    refine ⟨[.unit n], fun cs => ?_, fun vs => joinUnits?_unit hhigh hlow vs⟩
    cases hcs : units? cs <;> simp [units?, hunit, hcs]
  | @pair a b c d a' b' c' d' hi lo hunit hhigh hunit' hlow =>
    -- Both units are read before they are joined to one character.
    refine ⟨[.unit hi, .unit lo], fun cs => ?_, fun vs => by simp [joinUnits?, hhigh, hlow]⟩
    cases hcs : units? cs <;> simp [units?, hunit, hunit', hcs]

theorem units?_charsText {text cs : List Char} (h : CharsText text cs) :
    ∃ us, (∀ rest, units? (text ++ '"' :: rest) = some (us, rest)) ∧ joinUnits? us = some cs := by
  induction h with
  | nil => exact ⟨[], fun rest => rfl, rfl⟩
  | cons hc _ ih =>
    obtain ⟨us, hunits, hjoin⟩ := units?_charText hc
    obtain ⟨vs, hrest, hvs⟩ := ih
    refine ⟨us ++ vs, fun rest => ?_, ?_⟩
    · rw [List.append_assoc, hunits, hrest, Option.map_some]
    · rw [hjoin, hvs, Option.map_some]

/-- A text in quotes is read up to the closing one. -/
theorem string?_quotedText {text : List Char} {s : String} (h : QuotedText text s) :
    ∃ tail, text = '"' :: tail ∧ ∀ rest, string? (tail ++ rest) = some (s, rest) := by
  obtain ⟨h⟩ := h
  obtain ⟨us, hunits, hjoin⟩ := units?_charsText h
  refine ⟨_, rfl, fun rest => ?_⟩
  rw [List.append_assoc, List.singleton_append, string?, hunits]
  simp [hjoin]

/-! ### Numbers -/

/-- What follows a run of digits does not continue it. -/
def Stops (rest : List Char) : Prop := ∀ c ∈ rest.head?, c.isDigit = false

/-- What follows a number does not continue it. -/
def Ends (rest : List Char) : Prop :=
  ∀ c ∈ rest.head?, c.isDigit = false ∧ c ∉ ['.', 'e', 'E']

theorem Ends.stops {rest : List Char} (h : Ends rest) : Stops rest := fun c hc => (h c hc).1

theorem ends_cons {c : Char} (hc : c ∈ [',', ']', '\x7d']) (cs : List Char) : Ends (c :: cs) := by
  rintro b hb
  cases hb
  simp only [List.mem_cons, List.not_mem_nil, or_false] at hc
  rcases hc with rfl | rfl | rfl <;> decide

/-- Blanks do not continue a number. -/
theorem ends_blank {gap cs : List Char} (hgap : Blank gap) (h : Ends cs) : Ends (gap ++ cs) := by
  cases gap with
  | nil => exact h
  | cons c gap =>
    rintro b hb
    cases hb
    have hc : isSpace c = true := hgap c List.mem_cons_self
    simp only [isSpace, Bool.or_eq_true, beq_iff_eq] at hc
    rcases hc with ((rfl | rfl) | rfl) | rfl <;> decide

theorem digits_append {ds rest : List Char} (hds : ∀ c ∈ ds, c.isDigit = true)
    (h : Stops rest) : digits (ds ++ rest) = (ds, rest) := by
  have hrest : rest.takeWhile Char.isDigit = [] ∧ rest.dropWhile Char.isDigit = rest := by
    cases rest with
    | nil => exact ⟨rfl, rfl⟩
    | cons c cs =>
      have hc := h c rfl
      simp [hc]
  rw [digits, List.takeWhile_append_of_pos hds, List.dropWhile_append_of_pos hds, hrest.1,
    hrest.2, List.append_nil]

theorem isDigit_of_mem_digitsOf {n : Nat} {c : Char} (h : c ∈ digitsOf n) : c.isDigit = true :=
  Nat.isDigit_of_mem_toDigits (by decide) (by decide) h

/-- Only zero starts with the digit zero. -/
theorem head?_digitsOf {n : Nat} (hn : 0 < n) : (digitsOf n).head? ≠ some '0' := by
  induction n using Nat.strongRecOn with
  | ind n ih =>
    by_cases hsmall : n < 10
    · have hall : ∀ n < 10, 0 < n → Nat.digitChar n ≠ '0' := by decide
      rw [digitsOf, Nat.toDigits_of_lt_base hsmall]
      simpa using hall n hsmall hn
    · have hne : Nat.toDigits 10 (n / 10) ≠ [] := Nat.toDigits_ne_nil
      have hfront := ih (n / 10) (by omega) (by omega)
      rw [digitsOf, Nat.toDigits_of_base_le (by decide) (by omega),
        List.head?_append_of_ne_nil _ hne]
      exact hfront

/-- The digits of a number are read as its whole part. -/
theorem whole?_digitsOf (n : Nat) {rest : List Char} (h : Stops rest) :
    whole? (digitsOf n ++ rest) = some (digitsOf n, rest) := by
  rw [whole?, digits_append (fun c => isDigit_of_mem_digitsOf) h]
  split
  · rename_i hnil
    exact absurd (Prod.mk.inj hnil).1 Nat.toDigits_ne_nil
  · rename_i hzero
    have hdigits := (Prod.mk.inj hzero).1
    rcases Nat.eq_zero_or_pos n with rfl | hn
    · cases hdigits
    · exact absurd (by rw [hdigits]; rfl) (head?_digitsOf hn)
  · rename_i heq
    cases heq
    rfl

/-- A fraction is read up to where its digits end. -/
theorem point?_fractionText {text : List Char} (h : FractionText text) :
    ∃ fraction, (fraction = none ↔ text = []) ∧ ∀ rest, Stops rest → (∀ c ∈ rest.head?, c ≠ '.') →
      point? (text ++ rest) = some (fraction, rest) := by
  cases h with
  | none =>
    refine ⟨none, iff_of_true rfl rfl, fun rest _ hrest => ?_⟩
    rw [List.nil_append, point?.eq_def]
    split
    · exact absurd rfl (hrest '.' rfl)
    · rfl
  | @digits ds hds =>
    refine ⟨some ds, iff_of_false nofun nofun, fun rest hrest _ => ?_⟩
    rw [List.cons_append, point?, digits_append hds.2 hrest]
    split
    · rename_i heq
      exact absurd (Prod.mk.inj heq).1 hds.1
    · rename_i heq
      cases heq
      rfl

theorem power?_digits {ds rest : List Char} (negative : Bool) (hds : IsDigits ds)
    (h : Stops rest) :
    power? negative (ds ++ rest) =
      some (some (if negative then -(valueOf ds : Int) else valueOf ds), rest) := by
  rw [power?, digits_append hds.2 h]
  split
  · rename_i heq
    exact absurd (Prod.mk.inj heq).1 hds.1
  · rename_i heq
    cases heq
    rfl

/-- An exponent is read up to where its digits end. -/
theorem exponent?_exponentText {text : List Char} (h : ExponentText text) :
    ∃ exponent, (exponent = none ↔ text = []) ∧ ∀ rest, Ends rest →
      exponent? (text ++ rest) = some (exponent, rest) := by
  cases h with
  | none =>
    refine ⟨none, iff_of_true rfl rfl, fun rest hrest => ?_⟩
    rw [List.nil_append, exponent?.eq_def]
    split
    any_goals simp [Ends] at hrest
    rfl
  | @digits mark sign ds hmark hsign hds =>
    obtain ⟨d, ds', rfl⟩ := List.exists_cons_of_ne_nil hds.1
    have hd : d ≠ '-' ∧ d ≠ '+' := by
      constructor <;> rintro rfl <;> exact absurd (hds.2 _ List.mem_cons_self) (by decide)
    simp only [List.mem_cons, List.not_mem_nil, or_false] at hmark hsign
    refine ⟨some (if sign = ['-'] then -(valueOf (d :: ds') : Int) else valueOf (d :: ds')),
      iff_of_false nofun nofun, fun rest hrest => ?_⟩
    have hpower := fun negative => power?_digits negative hds hrest.stops
    simp only [List.cons_append] at hpower
    rcases hmark with rfl | rfl <;> rcases hsign with rfl | rfl | rfl <;>
      simp [exponent?, hd.1, hd.2, hpower]

/-- What stands behind the digits in front of an exponent. -/
theorem exponentText_front {text rest : List Char} (h : ExponentText text) (hrest : Ends rest) :
    ∀ c ∈ (text ++ rest).head?, c.isDigit = false ∧ c ≠ '.' := by
  cases h with
  | none =>
    intro c hc
    obtain ⟨hdigit, hother⟩ := hrest c hc
    exact ⟨hdigit, fun heq => hother (by simp [heq])⟩
  | digits hmark _ _ =>
    rintro c hc
    cases hc
    simp only [List.mem_cons, List.not_mem_nil, or_false] at hmark
    rcases hmark with rfl | rfl <;> decide

/-- A fraction ends the digits of the whole part. -/
theorem stops_fraction {text rest : List Char} (h : FractionText text) (hrest : Stops rest) :
    Stops (text ++ rest) := by
  cases h with
  | none => exact hrest
  | digits _ =>
    rintro c hc
    cases hc
    decide

theorem valueOf_digitsOf (n : Nat) : valueOf (digitsOf n) = n :=
  Nat.ofDigitChars_toDigits (by decide) (by decide)

/-- No sign stands in front of digits. -/
theorem digitsOf_ne_sign (n : Nat) (cs tail : List Char) : digitsOf n ++ cs ≠ '-' :: tail := by
  intro h
  obtain ⟨d, ds, hds⟩ := List.exists_cons_of_ne_nil (show digitsOf n ≠ [] from Nat.toDigits_ne_nil)
  have hdigit : d.isDigit = true := isDigit_of_mem_digitsOf (hds ▸ List.mem_cons_self)
  rw [hds, List.cons_append] at h
  obtain rfl := (List.cons.inj h).1
  exact absurd hdigit (by decide)

theorem float?_eq_some {negative : Bool} {whole fraction : List Char} {exponent : Int}
    {m : Number} (h : float? negative whole fraction exponent = some m) : ∃ x, m = .float x := by
  obtain ⟨x, _, rfl⟩ := Option.map_eq_some_iff.1 h
  exact ⟨x, rfl⟩

theorem ofParts?_eq_some {negative : Bool} {whole : List Char} {fraction : Option (List Char)}
    {exponent : Option Int} {m : Number} (h : ofParts? negative whole fraction exponent = some m) :
    (∃ x, m = .float x) ∨ fraction = none ∧ exponent = none ∧ integer? negative whole = some m := by
  rw [ofParts?.eq_def] at h
  split at h
  · exact .inr ⟨rfl, rfl, h⟩
  · exact .inl (float?_eq_some h)

/-- A sign is read by itself, and without one all is left for the digits. -/
theorem minus_sign {sign : List Char} (hsign : sign ∈ [[], ['-']]) (n : Nat) (cs : List Char) :
    minus (sign ++ (digitsOf n ++ cs)) = (sign == ['-'], digitsOf n ++ cs) := by
  simp only [List.mem_cons, List.not_mem_nil, or_false] at hsign
  rcases hsign with rfl | rfl
  · rw [List.nil_append, minus.eq_def]
    split
    · rename_i heq
      exact absurd heq (digitsOf_ne_sign n cs _)
    · rfl
  · rfl

/-- The parts of a number are read, one after the other. -/
theorem number?_parts {sign fraction exponent : List Char} (n : Nat) (hsign : sign ∈ [[], ['-']])
    (hfraction : FractionText fraction) (hexponent : ExponentText exponent) :
    ∃ f e, (f = none ↔ fraction = []) ∧ (e = none ↔ exponent = []) ∧ ∀ rest, Ends rest →
      number? (sign ++ (digitsOf n ++ (fraction ++ (exponent ++ rest)))) =
        (ofParts? (sign == ['-']) (digitsOf n) f e).map fun m => (m, rest) := by
  obtain ⟨f, hf, hpoint⟩ := point?_fractionText hfraction
  obtain ⟨e, he, hpower⟩ := exponent?_exponentText hexponent
  refine ⟨f, e, hf, he, fun rest hrest => ?_⟩
  have hfront := exponentText_front hexponent hrest
  have hstops : Stops (exponent ++ rest) := fun c hc => (hfront c hc).1
  have hwhole := whole?_digitsOf n (stops_fraction hfraction hstops)
  have hparts := hpoint (exponent ++ rest) hstops fun c hc => (hfront c hc).2
  rw [number?, minus_sign hsign]
  simp only [hwhole, hparts, hpower rest hrest, Option.bind_eq_bind, Option.bind_some,
    Option.map_eq_bind]
  rfl

/-- The text of an integer is its digits, behind a sign if it is negative. -/
theorem integerText_eq (i : Int) :
    integerText i = (if i < 0 then ['-'] else []) ++ digitsOf i.natAbs := by
  rw [integerText]
  split <;> rfl

theorem integerText_injective {i k : Int} (h : integerText i = integerText k) : i = k := by
  have hdigits : ∀ {m n : Nat}, digitsOf m = digitsOf n → m = n := by
    intro m n h
    rw [← valueOf_digitsOf m, h, valueOf_digitsOf]
  have hsign : ∀ (n : Nat) (tail : List Char), digitsOf n ≠ '-' :: tail := by
    intro n tail
    simpa using digitsOf_ne_sign n [] tail
  rw [integerText, integerText] at h
  split at h
  · split at h
    · have habs := hdigits (List.cons.inj h).2
      omega
    · exact absurd h.symm (hsign _ _)
  · split at h
    · exact absurd h (hsign _ _)
    · have habs := hdigits h
      omega

/-- The text of any integer is that of a number. -/
theorem spells_ofInteger (float : List Char → Binary64) (i : Int) :
    Spells float (integerText i) (.value (ofInteger float i)) := by
  rw [ofInteger]
  split
  · exact .number (.integer i _)
  · rename_i hrange
    have hsign : (if i < 0 then ['-'] else []) ∈ [[], ['-']] := by split <;> simp
    have htext : integerText i =
        (if i < 0 then ['-'] else []) ++ (digitsOf i.natAbs ++ ([] ++ [])) := by
      rw [integerText_eq, List.append_nil, List.append_nil]
    refine .number (.float hsign .none .none htext fun k hk heq => hrange ?_)
    exact integerText_injective heq ▸ hk

theorem integer?_digitsOf (i : Int) (range : -9223372036854775808 ≤ i ∧ i < 18446744073709551616) :
    integer? (decide (i < 0)) (digitsOf i.natAbs) = some (.integer i range) := by
  have hsign : (if decide (i < 0) then -(i.natAbs : Int) else i.natAbs) = i := by
    simp only [decide_eq_true_eq]
    split <;> omega
  have hzero : ¬(decide (i < 0) = true ∧ i.natAbs = 0) := by
    simp only [decide_eq_true_eq]
    omega
  rw [integer?]
  simp only [valueOf_digitsOf, hsign]
  rw [dif_pos ⟨range, hzero⟩]

theorem eq_of_integer? {negative : Bool} {whole : List Char} {i : Int} {range}
    (h : integer? negative whole = some (.integer i range)) :
    i = (if negative then -(valueOf whole : Int) else valueOf whole) ∧
      ¬(negative ∧ valueOf whole = 0) := by
  rw [integer?, dite_eq_iff] at h
  obtain ⟨⟨_, hzero⟩, hi⟩ | ⟨_, hfloat⟩ := h
  · exact ⟨(Number.integer.inj (Option.some.inj hi)).symm, hzero⟩
  · obtain ⟨x, hx⟩ := float?_eq_some hfloat
    cases hx

/-- Only the digits of an integer are read as it. -/
theorem integerText_of_integer? {negative : Bool} {n : Nat} {i : Int} {range}
    (h : integer? negative (digitsOf n) = some (.integer i range)) :
    integerText i = (if negative then ['-'] else []) ++ digitsOf n := by
  obtain ⟨hi, hzero⟩ := eq_of_integer? h
  rw [valueOf_digitsOf] at hi hzero
  subst hi
  cases negative with
  | true =>
    have hneg : -(n : Int) < 0 := by simp at hzero; omega
    rw [integerText_eq, if_pos rfl, if_pos rfl, if_pos hneg, Int.natAbs_neg, Int.natAbs_natCast]
  | false =>
    have hpos : ¬(n : Int) < 0 := by omega
    rw [integerText_eq, if_neg Bool.false_ne_true, if_neg Bool.false_ne_true, if_neg hpos,
      Int.natAbs_natCast]

/-- An integer is read up to where it ends. -/
theorem number?_integerText (i : Int) (range) {rest : List Char} (hrest : Ends rest) :
    number? (integerText i ++ rest) = some (.integer i range, rest) := by
  have hsign : (if i < 0 then ['-'] else []) ∈ [[], ['-']] := by split <;> simp
  have hminus : ((if i < 0 then ['-'] else []) == ['-']) = decide (i < 0) := by
    split <;> simp_all
  obtain ⟨f, e, hf, he, hparts⟩ := number?_parts i.natAbs hsign .none .none
  obtain rfl := hf.2 rfl
  obtain rfl := he.2 rfl
  have hread := hparts rest hrest
  rw [List.nil_append, List.nil_append, hminus, ofParts?, integer?_digitsOf i range] at hread
  rw [integerText_eq, List.append_assoc, hread, Option.map_some]

/-- A number is read up to where it ends, unless it is too large for a float. -/
theorem number?_numberText {text : List Char} {m : Number} (h : NumberText floatOf text m) :
    ∃ o, Answers o m (Integral (.number m)) ∧ ∀ rest, Ends rest →
      number? (text ++ rest) = o.map fun m => (m, rest) := by
  cases h with
  | integer i range =>
    exact ⟨some (.integer i range), .inl rfl, fun rest => number?_integerText i range⟩
  | @float sign fraction exponent _ n hsign hfraction hexponent htext hother =>
    obtain ⟨f, e, hf, he, hparts⟩ := number?_parts n hsign hfraction hexponent
    have hnumber : ∀ rest, Ends rest → number? (text ++ rest) =
        (ofParts? (sign == ['-']) (digitsOf n) f e).map fun m => (m, rest) := by
      intro rest hrest
      rw [htext, List.append_assoc, List.append_assoc, List.append_assoc]
      exact hparts rest hrest
    refine ⟨_, ?_, hnumber⟩
    cases hread : ofParts? (sign == ['-']) (digitsOf n) f e with
    | none => exact .inr ⟨rfl, nofun⟩
    | some m =>
      cases m with
      | float x =>
        -- The float is the one that this reader takes the text for.
        have hall := hnumber [] nofun
        rw [List.append_nil, hread, Option.map_some] at hall
        exact .inl (by rw [floatOf, hall])
      | integer i range =>
        -- No integer is read, for its digits would be the text.
        obtain ⟨x, hx⟩ | ⟨rfl, rfl, hinteger⟩ := ofParts?_eq_some hread
        · cases hx
        · refine absurd ?_ (hother i range)
          have hminus : (if (sign == ['-']) = true then ['-'] else []) = sign := by
            simp only [List.mem_cons, List.not_mem_nil, or_false] at hsign
            rcases hsign with rfl | rfl <;> rfl
          rw [integerText_of_integer? hinteger, hminus, htext, hf.1 rfl, he.1 rfl]
          simp only [List.append_nil]

end SqlBuilder.Json
