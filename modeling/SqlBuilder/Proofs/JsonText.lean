import SqlBuilder.Json.Grammar
import SqlBuilder.Json.Printer

namespace SqlBuilder.Json

open Numeral

/-!
# What is written for a JSON value is a text of it

A value without floats is written as the grammar says, whatever characters its texts have and
however deep it is nested.

* `charText_escaped`, `quotedText_stringText` — a character and a text in quotes;
* `spells_chars`, `isText_print` — a value;
* `Spells.of_integral` — without floats it does not matter which float a number is taken for;
* `canonical_eq_self` — a value whose objects are maps stays as it is when it is sorted.
-/

variable {float float' : List Char → Binary64}

theorem blank_nil : Blank [] := List.forall_mem_nil _

/-! ### Texts -/

/-- The digits of a control stand for it. -/
theorem hexValue4?_control {c : Char} (h : c < ' ') :
    hexValue4? '0' '0' (hexDigit (c.toNat / 16)) (hexDigit (c.toNat % 16)) = some c.toNat := by
  have hall : ∀ n < 32, hexValue4? '0' '0' (hexDigit (n / 16)) (hexDigit (n % 16)) = some n := by
    decide
  exact hall c.toNat h

/-- No control is a surrogate. -/
theorem surrogate_of_lt {n : Nat} (h : n < 32) :
    isHighSurrogate n = false ∧ isLowSurrogate n = false := by
  have hsmall : ¬0xD800 ≤ n ∧ ¬0xDC00 ≤ n := by omega
  simp [isHighSurrogate, isLowSurrogate, hsmall]

theorem charText_escaped (c : Char) : CharText (escaped c) c := by
  by_cases hshort : c ∈ ['"', '\\', '\x08', '\x0c', '\n', '\r', '\t']
  · simp only [List.mem_cons, List.not_mem_nil, or_false] at hshort
    rcases hshort with rfl | rfl | rfl | rfl | rfl | rfl | rfl
    all_goals exact .short rfl
  · simp only [List.mem_cons, List.not_mem_nil, or_false, not_or] at hshort
    obtain ⟨hquote, hslash, hb, hf, hn, hr, ht⟩ := hshort
    rw [escaped, if_neg hquote, if_neg hslash, if_neg hb, if_neg hf, if_neg hn, if_neg hr,
      if_neg ht]
    by_cases hcontrol : c < ' '
    · obtain ⟨hhigh, hlow⟩ := surrogate_of_lt hcontrol
      have hunit := CharText.unit (hexValue4?_control hcontrol) hhigh hlow
      rw [if_pos hcontrol]
      rwa [Char.ofNat_toNat] at hunit
    · rw [if_neg hcontrol]
      exact .plain (Char.not_lt.1 hcontrol) hquote hslash

theorem charsText_escaped (cs : List Char) : CharsText (cs.flatMap escaped) cs := by
  induction cs with
  | nil => exact .nil
  | cons c cs ih => exact .cons (charText_escaped c) ih

theorem quotedText_stringText (s : String) : QuotedText (stringText s) s :=
  .intro (charsText_escaped s.toList)

/-! ### Values -/

/-- A part without blanks around it is a part with blanks. -/
theorem Spells.bare {text : List Char} {j : Json} (h : Spells float text (.value j)) :
    Spells float text (.padded j) := by
  have hpadded := Spells.padded blank_nil h blank_nil
  rwa [List.nil_append, List.append_nil] at hpadded

theorem spells_itemChars {items : List Json} (hne : items ≠ [])
    (h : ∀ j ∈ items, Spells float j.chars (.value j)) :
    Spells float (itemChars items) (.items items) := by
  induction items with
  | nil => exact absurd rfl hne
  | cons j js ih =>
    obtain ⟨hj, hjs⟩ := List.forall_mem_cons.1 h
    cases js with
    | nil => exact .lastItem hj.bare
    | cons j' js => exact .nextItem hj.bare (ih (List.cons_ne_nil _ _) hjs)

/-- A member is written without blanks. -/
theorem Spells.bareMember {text : List Char} {j : Json} (key : String)
    (h : Spells float text (.value j)) :
    Spells float (stringText key ++ ':' :: text) (.member key j) :=
  .member blank_nil (quotedText_stringText key) blank_nil h.bare

theorem spells_memberChars {members : List (String × Json)} (hne : members ≠ [])
    (h : ∀ m ∈ members, Spells float m.2.chars (.value m.2)) :
    Spells float (memberChars members) (.members members) := by
  induction members with
  | nil => exact absurd rfl hne
  | cons m ms ih =>
    obtain ⟨key, j⟩ := m
    obtain ⟨hj, hms⟩ := List.forall_mem_cons.1 h
    cases ms with
    | nil => exact .lastMember (hj.bareMember key)
    | cons m' ms => exact .nextMember (hj.bareMember key) (ih (List.cons_ne_nil _ _) hms)

/-- A value without floats is written as the grammar says. -/
theorem spells_chars {j : Json} (h : Integral j) : Spells float j.chars (.value j) := by
  induction h with
  | null => exact .null
  | bool b =>
    cases b with
    | true => exact .bool_true
    | false => exact .bool_false
  | integer i range => exact .number (.integer i range)
  | string s => exact .string (quotedText_stringText s)
  | @array items _ ih =>
    cases items with
    | nil => exact .emptyArray blank_nil
    | cons j js => exact .array (spells_itemChars (List.cons_ne_nil j js) ih)
  | @object members _ ih =>
    cases members with
    | nil => exact .emptyObject blank_nil
    | cons m ms => exact .object (spells_memberChars (List.cons_ne_nil m ms) ih)

/-- Its text is a text of it. -/
theorem isText_print {j : Json} (h : Integral j) : IsText float j.print j := by
  rw [IsText, print, String.toList_ofList]
  exact (spells_chars h).bare

/-- No float stands in the part. -/
def Part.Integral : Part → Prop
  | .value j | .padded j | .member _ j => j.Integral
  | .items js => ∀ j ∈ js, j.Integral
  | .members ms => ∀ m ∈ ms, m.2.Integral

/-- Without floats it does not matter which float a number is taken for. -/
theorem Spells.of_integral {text : List Char} {p : Part} (h : Spells float text p)
    (hp : p.Integral) : Spells float' text p := by
  induction h with
  | null => exact .null
  | bool_true => exact .bool_true
  | bool_false => exact .bool_false
  | number h =>
    cases h with
    | integer i range => exact .number (.integer i range)
    | float => cases hp
  | string h => exact .string h
  | emptyArray hgap => exact .emptyArray hgap
  | array _ ih =>
    cases hp with
    | array hitems => exact .array (ih hitems)
  | emptyObject hgap => exact .emptyObject hgap
  | object _ ih =>
    cases hp with
    | object hmembers => exact .object (ih hmembers)
  | padded hbefore _ hafter ih => exact .padded hbefore (ih hp) hafter
  | lastItem _ ih => exact .lastItem (ih (hp _ List.mem_cons_self))
  | nextItem _ _ ih ihs =>
    obtain ⟨hj, hjs⟩ := List.forall_mem_cons.1 hp
    exact .nextItem (ih hj) (ihs hjs)
  | member hbefore hkey hbetween _ ih => exact .member hbefore hkey hbetween (ih hp)
  | lastMember _ ih => exact .lastMember (ih (hp _ List.mem_cons_self))
  | nextMember _ _ ih ihs =>
    obtain ⟨hj, hms⟩ := List.forall_mem_cons.1 hp
    exact .nextMember (ih hj) (ihs hms)

/-! ### Sorted objects -/

theorem canonicalItems_eq_map (js : List Json) : canonicalItems js = js.map canonical := by
  induction js with
  | nil => rfl
  | cons j js ih => rw [canonicalItems, ih, List.map_cons]

/-- A sorted value is its own canonical one. -/
theorem canonical_eq_self {j : Json} (h : Sorted j) : j.canonical = j := by
  induction h with
  | null | bool | number | string => rfl
  | @array items _ ih =>
    rw [canonical, canonicalItems_eq_map, List.map_congr_left ih, List.map_id']
  | @object members hkeys hsorted ih =>
    clear hsorted
    rw [canonical]
    congr 1
    induction members with
    | nil => rfl
    | cons m ms ihms =>
      obtain ⟨key, j⟩ := m
      obtain ⟨hkey, hkeys⟩ := List.pairwise_cons.1 hkeys
      obtain ⟨hj, hms⟩ := List.forall_mem_cons.1 ih
      have hj : j.canonical = j := hj
      rw [canonicalMembers, ihms hkeys hms, hj]
      cases ms with
      | nil => rfl
      | cons m' ms =>
        have hlt : key < m'.1 := hkey _ List.mem_cons_self
        rw [insertMember, if_pos hlt]

end SqlBuilder.Json
