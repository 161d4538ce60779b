import SqlBuilder.Bind.Convert
import SqlBuilder.Proofs.Sorting

namespace SqlBuilder

/-!
# Payloads of records

A field is stored in the column that its attributes name, or else in the column of its own name.
Several fields can meet in one column, and then the last one counts.

* `Attribute.Gives`, `Attribute.textOf?_eq_some_iff` — the first text for a key, read attribute by
  attribute;
* `Field.ResolvesTo`, `Field.column_eq_iff` — the column of a field;
* `Field.Fills`, `Entity.LastFor` — the fields that take part, and the one that counts;
* `Content` — what a field holds;
* `Entity.get?_payload` — a column has the content of the field that counts;
* `derivation` — payloads of records, and what statements make of them.
-/

/-! ### The first text for a key -/

namespace Attribute

variable {name key s : String} {keys : List (String × Literal)} {attributes : List Attribute}

/-- An entry that is for another key, or has no text. -/
def SilentEntry (key : String) : String × Literal → Prop
  | (k, .text _) => k ≠ key
  | (_, .other) => True

/-- The first text for a key in a list: all entries in front of it are silent. -/
inductive FirstText (key : String) : List (String × Literal) → String → Prop
  | here (s : String) (keys : List (String × Literal)) : FirstText key ((key, .text s) :: keys) s
  | later {entry : String × Literal} {keys : List (String × Literal)} {s : String} :
      SilentEntry key entry → FirstText key keys s → FirstText key (entry :: keys) s

/-- An attribute that has another name, has no list of keys, or has silent entries only. -/
inductive Silent (name key : String) : Attribute → Prop
  | otherName {a : Attribute} : a.name ≠ name → Silent name key a
  | unlisted (n : String) : Silent name key ⟨n, none⟩
  | entries {keys : List (String × Literal)} (n : String) :
      (∀ entry ∈ keys, SilentEntry key entry) → Silent name key ⟨n, some keys⟩

/-- The first text for a key in the attributes of a name: all attributes in front of it are
    silent. -/
inductive Gives (name key : String) : List Attribute → String → Prop
  | here {keys : List (String × Literal)} {s : String} (attributes : List Attribute) :
      FirstText key keys s → Gives name key (⟨name, some keys⟩ :: attributes) s
  | later {a : Attribute} {attributes : List Attribute} {s : String} :
      Silent name key a → Gives name key attributes s → Gives name key (a :: attributes) s

/-- Silent entries have no part in the texts. -/
theorem textsOf_cons_silent {entry : String × Literal} (h : SilentEntry key entry) :
    textsOf key (entry :: keys) = textsOf key keys := by
  obtain ⟨k, literal⟩ := entry
  cases literal with
  | text s => exact List.filterMap_cons_none (if_neg h)
  | other => rfl

theorem textsOf_cons_text : textsOf key ((key, .text s) :: keys) = s :: textsOf key keys :=
  List.filterMap_cons_some (if_pos rfl)

/-- An entry is silent, or it is a text for the key. -/
theorem silentEntry_or (key : String) (entry : String × Literal) :
    SilentEntry key entry ∨ ∃ s, entry = (key, .text s) := by
  obtain ⟨k, literal⟩ := entry
  cases literal with
  | other => exact .inl trivial
  | text s =>
    by_cases hk : k = key
    · exact .inr ⟨s, by rw [hk]⟩
    · exact .inl hk

theorem not_silentEntry_text : ¬ SilentEntry key (key, .text s) := fun h => h rfl

theorem textsOf_eq_nil_iff : textsOf key keys = [] ↔ ∀ entry ∈ keys, SilentEntry key entry := by
  induction keys with
  | nil => exact ⟨fun _ => List.forall_mem_nil _, fun _ => rfl⟩
  | cons entry keys ih =>
    rw [List.forall_mem_cons]
    obtain hsilent | ⟨s, rfl⟩ := silentEntry_or key entry
    · rw [textsOf_cons_silent hsilent, ih]
      exact (and_iff_right hsilent).symm
    · rw [textsOf_cons_text]
      exact ⟨nofun, fun h => absurd h.1 not_silentEntry_text⟩

theorem head?_textsOf_eq_some_iff : (textsOf key keys).head? = some s ↔ FirstText key keys s := by
  induction keys with
  | nil => exact ⟨nofun, nofun⟩
  | cons entry keys ih =>
    obtain hsilent | ⟨r, rfl⟩ := silentEntry_or key entry
    · rw [textsOf_cons_silent hsilent, ih]
      constructor
      · exact .later hsilent
      · intro h
        cases h with
        | here => exact absurd hsilent not_silentEntry_text
        | later _ h => exact h
    · rw [textsOf_cons_text, List.head?_cons, Option.some.injEq]
      constructor
      · rintro rfl
        exact .here r keys
      · intro h
        cases h with
        | here => rfl
        | later h _ => exact absurd h not_silentEntry_text

/-- The texts that an attribute has for a key, if its name is the right one. -/
def texts (name key : String) (a : Attribute) : List String :=
  if a.name = name then textsOf key (a.keys.getD []) else []

theorem textOf?_cons (a : Attribute) :
    textOf? (a :: attributes) name key =
      (a.texts name key).head?.or (textOf? attributes name key) := by
  rw [textOf?, textOf?, texts, List.filter_cons]
  by_cases hname : a.name = name
  · simp [hname]
  · simp [hname]

theorem texts_eq_nil_iff {a : Attribute} : a.texts name key = [] ↔ a.Silent name key := by
  obtain ⟨n, listed⟩ := a
  rw [texts]
  split
  · rename_i hname
    cases listed with
    | none => exact ⟨fun _ => .unlisted n, fun _ => rfl⟩
    | some keys =>
      rw [Option.getD_some, textsOf_eq_nil_iff]
      constructor
      · exact .entries n
      · intro h
        cases h with
        | otherName hother => exact absurd hname hother
        | entries _ h => exact h
  · rename_i hname
    exact ⟨fun _ => .otherName hname, fun _ => rfl⟩

/-- An attribute that is not silent has the name and a list with a first text. -/
theorem head?_texts_eq_some_iff {a : Attribute} :
    (a.texts name key).head? = some s ↔ ∃ keys, a = ⟨name, some keys⟩ ∧ FirstText key keys s := by
  obtain ⟨n, listed⟩ := a
  rw [texts]
  split
  · rename_i hname
    obtain rfl : n = name := hname
    cases listed with
    | none => exact ⟨nofun, nofun⟩
    | some keys =>
      rw [Option.getD_some, head?_textsOf_eq_some_iff]
      constructor
      · exact fun h => ⟨keys, rfl, h⟩
      · rintro ⟨keys, heq, h⟩
        cases heq
        exact h
  · rename_i hname
    constructor
    · exact nofun
    · rintro ⟨keys, heq, _⟩
      cases heq
      exact absurd rfl hname

/-- No text is found exactly if all attributes are silent. -/
theorem textOf?_eq_none_iff :
    textOf? attributes name key = none ↔ ∀ a ∈ attributes, a.Silent name key := by
  induction attributes with
  | nil => exact ⟨fun _ => List.forall_mem_nil _, fun _ => rfl⟩
  | cons a attributes ih =>
    rw [textOf?_cons, Option.or_eq_none_iff, List.head?_eq_none_iff, texts_eq_nil_iff, ih,
      List.forall_mem_cons]

/-- The text that is found is the first one. -/
theorem textOf?_eq_some_iff :
    textOf? attributes name key = some s ↔ Gives name key attributes s := by
  induction attributes with
  | nil => exact ⟨nofun, nofun⟩
  | cons a attributes ih =>
    rw [textOf?_cons, Option.or_eq_some_iff, List.head?_eq_none_iff, texts_eq_nil_iff,
      head?_texts_eq_some_iff, ih]
    constructor
    · rintro (⟨keys, rfl, h⟩ | ⟨hsilent, h⟩)
      · exact .here attributes h
      · exact .later hsilent h
    · intro h
      cases h with
      | here _ h => exact .inl ⟨_, rfl, h⟩
      | later hsilent h => exact .inr ⟨hsilent, h⟩

end Attribute

/-! ### The columns of fields -/

namespace Field

variable {f : Field} {c : String}

/-- The field is marked to be skipped, whatever other attributes it has. -/
def Skipped (f : Field) : Prop := ∃ a ∈ f.attributes, a.name = "skip"

/-- The column of a field: the first text for the key `name` in its attributes `column`, or its own
    name if there is none. -/
inductive ResolvesTo (f : Field) : String → Prop
  | named {c : String} : Attribute.Gives "column" "name" f.attributes c → ResolvesTo f c
  | own : (∀ a ∈ f.attributes, a.Silent "column" "name") → ResolvesTo f f.name

/-- The field takes part in payloads, with this column. -/
def Fills (f : Field) (c : String) : Prop := ¬ f.Skipped ∧ f.ResolvesTo c

theorem isSkipped_iff : f.isSkipped = true ↔ f.Skipped := by
  rw [isSkipped, List.any_eq_true, Skipped]
  simp only [beq_iff_eq]

theorem column_eq_iff : f.column = c ↔ f.ResolvesTo c := by
  rw [column]
  cases htext : Attribute.textOf? f.attributes "column" "name" with
  | some s =>
    have hgives := Attribute.textOf?_eq_some_iff.1 htext
    rw [Option.getD_some]
    constructor
    · rintro rfl
      exact .named hgives
    · intro h
      cases h with
      | named h => exact Option.some.inj (htext.symm.trans (Attribute.textOf?_eq_some_iff.2 h))
      | own h =>
        rw [Attribute.textOf?_eq_none_iff.2 h] at htext
        cases htext
  | none =>
    rw [Option.getD_none]
    constructor
    · rintro rfl
      exact .own (Attribute.textOf?_eq_none_iff.1 htext)
    · intro h
      cases h with
      | named h =>
        rw [Attribute.textOf?_eq_some_iff.2 h] at htext
        cases htext
      | own => rfl

theorem fills_iff : f.isSkipped = false ∧ (f.column == c) = true ↔ f.Fills c := by
  rw [← Bool.not_eq_true, isSkipped_iff, beq_iff_eq, column_eq_iff, Fills]

end Field

/-! ### The contents of fields -/

/-- What a field holds: a value of any type that can be bound, or a value of a statement. -/
inductive Content : Type 1 where
  | scalar {α : Type} [ToBind α] (a : α)
  | value (v : Value)

/-- The value for a content. -/
def Content.toValue : Content → Value
  | @scalar _ _ a => .bind (toBind a)
  | .value v => v

namespace Entity

/-- The payload of a record with these contents. -/
def payloadOf (e : Entity) (contents : Field → Content) : Payload :=
  e.payload fun f => (contents f).toValue

variable {e : Entity} {c : String} {v : Value}

/-- The field is the last one, as they are declared, that fills the column. -/
def LastFor (e : Entity) (c : String) (f : Field) : Prop :=
  ∃ before after, e.fields = before ++ f :: after ∧ f.Fills c ∧ ∀ g ∈ after, ¬ g.Fills c

/-- A lookup among named values finds the first thing that has the name. -/
theorem lookup_map {α : Type} (name : α → String) (value : α → Value) (as : List α) :
    (as.map fun a => (name a, value a)).lookup c = (as.find? (name · == c)).map value := by
  induction as with
  | nil => rfl
  | cons a as ih =>
    rw [List.map_cons, List.lookup_cons, List.find?_cons, ih]
    by_cases hc : name a = c
    · simp [hc]
    · have hne : (c == name a) = false := by simpa using Ne.symm hc
      have hne' : (name a == c) = false := by simpa using hc
      rw [hne, hne']

/-- A column has the value of the last field that fills it, and no value if there is none. -/
theorem get?_payload (value : Field → Value) :
    (e.payload value).get? c = some v ↔ ∃ f, e.LastFor c f ∧ value f = v := by
  rw [payload, Payload.get?_ofList, ← List.map_reverse, ← List.filter_reverse, lookup_map,
    List.find?_filter, Option.map_eq_some_iff]
  refine exists_congr fun f => and_congr_left fun _ => ?_
  simp only [List.find?_eq_some_iff_append, Field.fills_iff, decide_eq_true_eq, Bool.not_eq_true',
    decide_eq_false_iff_not, LastFor]
  -- The list is searched from its end, so what stands in front stands behind, and in reverse.
  constructor
  · rintro ⟨hfills, front, back, hfields, hfront⟩
    refine ⟨back.reverse, front.reverse, ?_, hfills, fun g hg => hfront g (List.mem_reverse.1 hg)⟩
    rw [← List.reverse_reverse e.fields, hfields]
    simp
  · rintro ⟨before, after, hfields, hfills, hafter⟩
    refine ⟨hfills, after.reverse, before.reverse, ?_, fun g hg => hafter g (List.mem_reverse.1 hg)⟩
    rw [hfields]
    simp

/-- The columns are those that are filled. -/
theorem mem_columns_payload (value : Field → Value) :
    c ∈ (e.payload value).columns ↔ ∃ f ∈ e.fields, f.Fills c := by
  rw [(Payload.Written.record e value).mem_columns_iff, List.map_map, List.mem_map]
  refine exists_congr fun f => ?_
  rw [List.mem_filter, and_assoc, ← Field.fills_iff, Bool.not_eq_true', beq_iff_eq]
  rfl

/-- Fields that are skipped have no part in payloads: neither have their contents. -/
theorem payload_congr {value other : Field → Value}
    (h : ∀ f ∈ e.fields, ¬ f.Skipped → value f = other f) : e.payload value = e.payload other := by
  rw [payload, payload]
  refine congrArg Payload.ofList (List.map_congr_left fun f hf => ?_)
  obtain ⟨hmem, hkept⟩ := List.mem_filter.1 hf
  have hskipped : ¬ f.Skipped := by
    rwa [← Field.isSkipped_iff, Bool.not_eq_true, ← Bool.not_eq_true']
  rw [h f hmem hskipped]

/-! ### Statements -/

/-- The statement of an entity takes one row, whatever its columns are. -/
theorem exists_insert_query (e : Entity) (p : Payload) : ∃ t, e.query.insert [p] = .ok t := by
  have hadmits : e.query.admits .insert = true := rfl
  rw [Statement.insert, if_pos hadmits]
  exact Statement.exists_addRows (List.forall_mem_singleton.2 rfl) (.inl rfl)

/-- It hands over the values of the row. -/
theorem data_insert_query {t : Statement} {p : Payload} (h : e.query.insert [p] = .ok t) :
    t.data = p.binds := by
  rw [Payload.data_insert rfl h, List.flatMap_singleton]
  rfl

/-- So it does with the values of an update. -/
theorem data_update_query (e : Entity) (p : Payload) : (e.query.update p).data = p.binds := by
  rw [Payload.data_update rfl]
  exact List.append_nil p.binds

end Entity

/-- **Derivation.**  A field resolves to exactly one column.  The payload of a record has the
    columns that some field fills, in ascending order, and each of them has the content of the last
    such field; one that is missing is null.  The contents of fields that are skipped have no part
    in it.  The statement of the entity takes the payload as a row and as assignments, and both
    times hands over the values column by column. -/
theorem derivation (e : Entity) (contents : Field → Content) :
    (∀ f : Field, ∃! c, f.ResolvesTo c) ∧
    (e.payloadOf contents).columns.Pairwise (· < ·) ∧
    (∀ c, c ∈ (e.payloadOf contents).columns ↔ ∃ f ∈ e.fields, f.Fills c) ∧
    (∀ c v, (e.payloadOf contents).get? c = some v ↔
      ∃ f, e.LastFor c f ∧ (contents f).toValue = v) ∧
    (∀ c f, e.LastFor c f → ∀ (α : Type) [ToBind α], contents f = .scalar (none : Option α) →
      (e.payloadOf contents).get? c = some (.bind .null)) ∧
    (∀ others : Field → Content, (∀ f ∈ e.fields, ¬ f.Skipped → contents f = others f) →
      e.payloadOf contents = e.payloadOf others) ∧
    (∃ t, e.query.insert [e.payloadOf contents] = .ok t ∧
      t.rowColumns = (e.payloadOf contents).columns ∧
      t.data = (e.payloadOf contents).columns.flatMap fun c =>
        ((e.payloadOf contents).get? c).elim [] Value.binds) ∧
    (e.query.update (e.payloadOf contents)).data =
      ((e.payloadOf contents).columns.flatMap fun c =>
        ((e.payloadOf contents).get? c).elim [] Value.binds) ∧
    (e.payloadOf contents).WrittenInOrder := by
  have hlookup : ∀ c v, (e.payloadOf contents).get? c = some v ↔
      ∃ f, e.LastFor c f ∧ (contents f).toValue = v := fun c v => Entity.get?_payload _
  refine ⟨fun f => ?_, Payload.ascending_columns _, fun c => Entity.mem_columns_payload _, hlookup,
    fun c f hlast α _ hcontent => ?_, fun others h => ?_, ?_, ?_, Payload.writtenInOrder _⟩
  · exact ⟨f.column, Field.column_eq_iff.1 rfl, fun c hc => (Field.column_eq_iff.2 hc).symm⟩
  · exact (hlookup c _).2 ⟨f, hlast, by rw [hcontent]; rfl⟩
  · exact Entity.payload_congr fun f hf hkept => by rw [h f hf hkept]
  · obtain ⟨t, ht⟩ := e.exists_insert_query (e.payloadOf contents)
    have hextended := Statement.extended_insert rfl ht
    refine ⟨t, ht, (hextended.columns _ List.mem_cons_self).symm, ?_⟩
    rw [Entity.data_insert_query ht, Payload.flatMap_get?_columns]
  · rw [Entity.data_update_query, Payload.flatMap_get?_columns]

/-- A record with two fields in one column, and with attributes that say nothing. -/
def signUp : Entity where
  name := "SignUp"
  attributes := []
  fields :=
    [⟨"mail", []⟩,
     ⟨"email", [⟨"column", none⟩, ⟨"column", some [("title", .text "x"), ("name", .other)]⟩,
       ⟨"column", some [("name", .text "mail"), ("name", .text "post")]⟩]⟩,
     ⟨"secret", [⟨"skip", none⟩, ⟨"column", some [("name", .text "age")]⟩]⟩,
     ⟨"age", []⟩]

/-- Its contents; the second field is missing. -/
def signUpContents (f : Field) : Content :=
  if f.name = "email" then .scalar (none : Option String)
  else if f.name = "age" then .scalar (7 : UInt8) else .scalar f.name

theorem derivation_signUp :
    (signUp.payloadOf signUpContents).get? "mail" = some (.bind .null) ∧
    (signUp.payloadOf signUpContents).columns = ["age", "mail"] ∧
    ∃ t, signUp.query.insert [signUp.payloadOf signUpContents] = .ok t ∧
      t.compile .postgres =
        .ok "INSERT INTO \"sign_up\" ( \"age\", \"mail\" ) VALUES ( $1, $2 )" ∧
      t.data = [.int16 7, .null] := by
  obtain ⟨_, _, _, _, hnull, _, ⟨t, ht, _, hdata⟩, _⟩ := derivation signUp signUpContents
  have hlast : signUp.LastFor "mail" (signUp.fields.getD 1 ⟨"", []⟩) := by
    refine ⟨signUp.fields.take 1, signUp.fields.drop 2, rfl, Field.fills_iff.1 (by decide), ?_⟩
    simp only [← Field.fills_iff]
    decide
  refine ⟨hnull _ _ hlast String rfl, by decide, t, ht, ?_, ?_⟩
  · cases ht
    decide +kernel
  · rw [hdata]
    decide

end SqlBuilder
