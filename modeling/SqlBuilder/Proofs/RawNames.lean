import SqlBuilder.Proofs.TableNames

namespace SqlBuilder

open Text (isUppercase)

/-!
# Names in raw spelling

A name that is a keyword can be written in raw spelling, with `r#` in front.  That is no part of the
name.  But default names in the database are made from the text of the description, and so the two
characters stay in them.

* `spelled`, `Field.respelled`, `Entity.respelled` — a description with names in raw spelling;
* `Attribute.getD_textOf?_eq_iff` — where a default name matters;
* `Field.column_respelled_eq_iff`, `Entity.table_respelled_eq_iff` — which names in the database
  are the same in both spellings;
* `Entity.payload_respelled_eq`, `Entity.mem_columns_payload_respelled` — the payload of a record,
  and its columns;
* `respelling` — what the spelling changes, and what it does not;
* `prefixed_keywordRecord` — a record whose columns do not have the names of its fields.
-/

/-- A name in raw spelling, or as it is. -/
def spelled (raw : Bool) (name : String) : String := if raw then "r#" ++ name else name

/-- A text is not the same with something in front. -/
theorem append_ne_self {s : String} (h : s ≠ "") (t : String) : s ++ t ≠ t := by
  intro heq
  have hchars := congrArg String.toList heq
  rw [String.toList_append, List.append_left_eq_self, String.toList_eq_nil_iff] at hchars
  exact h hchars

theorem spelled_eq_iff {raw : Bool} {name : String} : spelled raw name = name ↔ raw = false := by
  cases raw with
  | false => exact iff_of_true rfl rfl
  | true => exact iff_of_false (append_ne_self (by decide) name) Bool.noConfusion

/-- Of two default names it matters which one it is, unless attributes have a text for the key. -/
theorem Attribute.getD_textOf?_eq_iff {attributes : List Attribute} {name key s t : String} :
    (textOf? attributes name key).getD s = (textOf? attributes name key).getD t ↔
      s = t ∨ ∃ r, Gives name key attributes r := by
  simp only [← textOf?_eq_some_iff]
  cases textOf? attributes name key with
  | some r => exact iff_of_true rfl (.inr ⟨r, rfl⟩)
  | none => simp

/-! ### Columns -/

namespace Field

/-- The field, with its name in raw spelling if it is one of these. -/
def respelled (raw : Field → Bool) (f : Field) : Field :=
  { f with name := spelled (raw f) f.name }

variable {raw : Field → Bool} {f : Field}

/-- The column stays if the name does, or if an attribute names it. -/
theorem column_respelled_eq_iff :
    (f.respelled raw).column = f.column ↔
      raw f = false ∨ ∃ c, Attribute.Gives "column" "name" f.attributes c := by
  rw [column, column, respelled, Attribute.getD_textOf?_eq_iff, spelled_eq_iff]

/-- Without such an attribute it is spelled as the name is. -/
theorem column_respelled_of_silent (h : ∀ a ∈ f.attributes, a.Silent "column" "name") :
    (f.respelled raw).column = spelled (raw f) f.column := by
  rw [column, column, respelled, Attribute.textOf?_eq_none_iff.2 h]
  rfl

end Field

/-! ### Tables -/

/-- Where letters stand behind others, the first one has its underscore too. -/
theorem flatMap_snakeLetter_eq (cs : List Char) :
    cs.flatMap snakeLetter = (if cs.head?.any isUppercase then ['_'] else []) ++ snakeCase cs := by
  cases cs with
  | nil => rfl
  | cons c cs =>
    by_cases hc : isUppercase c = true
    · rw [← underscore_snakeCase hc]
      simp [hc]
    · rw [List.flatMap_cons, snakeLetter, if_neg hc, snakeCase_cons]
      simp [hc]

/-- A default table name keeps the raw spelling, and behind it the first letter is one more. -/
theorem snakeCase_spelled (name : String) :
    String.ofList (snakeCase (spelled true name).toList) =
      (if name.toList.head?.any isUppercase then "r#_" else "r#") ++
        String.ofList (snakeCase name.toList) := by
  have hchars : (spelled true name).toList = 'r' :: '#' :: name.toList := by
    rw [spelled, if_pos rfl, String.toList_append]
    rfl
  have hfirst : Text.lowerAscii 'r' = 'r' := by decide
  have hmark : snakeLetter '#' = ['#'] := by decide +kernel
  rw [← String.toList_inj, hchars, snakeCase_cons, List.flatMap_cons, hfirst, hmark,
    flatMap_snakeLetter_eq]
  split <;> simp

/-- So it is another name. -/
theorem snakeCase_spelled_eq_iff {raw : Bool} {name : String} :
    String.ofList (snakeCase (spelled raw name).toList) =
      String.ofList (snakeCase name.toList) ↔ raw = false := by
  cases raw with
  | false => exact iff_of_true rfl rfl
  | true =>
    rw [snakeCase_spelled]
    refine iff_of_false (append_ne_self ?_ _) Bool.noConfusion
    split <;> decide

namespace Entity

/-- The description, with the entity's name in raw spelling if `own` says so, and the names of these
    fields. -/
def respelled (own : Bool) (raw : Field → Bool) (e : Entity) : Entity where
  name := spelled own e.name
  attributes := e.attributes
  fields := e.fields.map (Field.respelled raw)

variable {own : Bool} {raw : Field → Bool} {e : Entity}

/-- The table stays if the name does, or if an attribute names it. -/
theorem table_respelled_eq_iff :
    (e.respelled own raw).table = e.table ↔
      own = false ∨ ∃ t, Attribute.Gives "model" "table" e.attributes t := by
  rw [table, table, respelled, Attribute.getD_textOf?_eq_iff, snakeCase_spelled_eq_iff]

/-- Without such an attribute it is named for the spelling. -/
theorem table_respelled_of_silent (h : ∀ a ∈ e.attributes, a.Silent "model" "table") :
    (e.respelled true raw).table =
      (if e.name.toList.head?.any isUppercase then "r#_" else "r#") ++ e.table := by
  have hspelled : ∀ a ∈ (e.respelled true raw).attributes, a.Silent "model" "table" := h
  rw [table_eq_snakeCase h, table_eq_snakeCase hspelled]
  exact snakeCase_spelled e.name

/-! ### Payloads -/

/-- The payload is written from the same contents, column by column. -/
theorem payload_respelled (value : Field → Value) :
    (e.respelled own raw).payload value =
      .ofList ((e.fields.filter (!·.isSkipped)).map fun f =>
        ((f.respelled raw).column, value (f.respelled raw))) := by
  rw [payload, respelled, List.filter_map, List.map_map]
  rfl

/-- If attributes name the columns, it is the same payload. -/
theorem payload_respelled_eq (value : Field → Value)
    (h : ∀ f ∈ e.fields, ¬ f.Skipped → raw f = true →
      ∃ c, Attribute.Gives "column" "name" f.attributes c) :
    (e.respelled own raw).payload value = e.payload fun f => value (f.respelled raw) := by
  rw [payload_respelled, payload]
  refine congrArg Payload.ofList (List.map_congr_left fun f hf => ?_)
  obtain ⟨hmem, hkept⟩ := List.mem_filter.1 hf
  have hskipped : ¬ f.Skipped := by
    rwa [← Field.isSkipped_iff, Bool.not_eq_true, ← Bool.not_eq_true']
  have hcolumn : (f.respelled raw).column = f.column := by
    rw [Field.column_respelled_eq_iff]
    cases hraw : raw f with
    | false => exact .inl rfl
    | true => exact .inr (h f hmem hskipped hraw)
  rw [hcolumn]

/-- Its columns are those of the fields that are not skipped, in their spelling. -/
theorem mem_columns_payload_respelled {c : String} (value : Field → Value) :
    c ∈ ((e.respelled own raw).payload value).columns ↔
      ∃ f ∈ e.fields, ¬ f.Skipped ∧ (f.respelled raw).column = c := by
  have hfills : ∀ f : Field, (f.respelled raw).Fills c ↔
      ¬ f.Skipped ∧ (f.respelled raw).column = c := fun f => by
    rw [← Field.fills_iff, ← Field.isSkipped_iff, Bool.not_eq_true, beq_iff_eq]
    rfl
  rw [mem_columns_payload]
  constructor
  · rintro ⟨g, hg, hc⟩
    obtain ⟨f, hf, rfl⟩ := List.mem_map.1 hg
    exact ⟨f, hf, (hfills f).1 hc⟩
  · rintro ⟨f, hf, hc⟩
    exact ⟨_, List.mem_map_of_mem hf, (hfills f).2 hc⟩

end Entity

/-- **Respelling.**  Raw spelling changes the table of an entity exactly if it is the spelling of
    the entity's own name and no attribute names the table, and the column of a field exactly if it
    is the spelling of that field and no attribute names the column.  A name that changes has `r#`
    in front, and a table with a capital an underscore more.  So the payloads are the same if
    attributes name the columns of all fields in raw spelling that are not skipped.  In general the
    columns of such fields keep the `r#`, and no statement that is built from the payload drops
    it. -/
theorem respelling (e : Entity) (own : Bool) (raw : Field → Bool) (contents : Field → Content) :
    ((e.respelled own raw).table = e.table ↔
      own = false ∨ ∃ t, Attribute.Gives "model" "table" e.attributes t) ∧
    (own = true → (∀ a ∈ e.attributes, a.Silent "model" "table") →
      (e.respelled own raw).table =
        (if e.name.toList.head?.any isUppercase then "r#_" else "r#") ++ e.table) ∧
    (∀ f : Field, (f.respelled raw).column = f.column ↔
      raw f = false ∨ ∃ c, Attribute.Gives "column" "name" f.attributes c) ∧
    (∀ f : Field, raw f = true → (∀ a ∈ f.attributes, a.Silent "column" "name") →
      (f.respelled raw).column = "r#" ++ f.column) ∧
    ((∀ f ∈ e.fields, ¬ f.Skipped → raw f = true →
        ∃ c, Attribute.Gives "column" "name" f.attributes c) →
      (e.respelled own raw).payloadOf contents =
        e.payloadOf fun f => contents (f.respelled raw)) ∧
    (∀ c, c ∈ ((e.respelled own raw).payloadOf contents).columns ↔
      ∃ f ∈ e.fields, ¬ f.Skipped ∧ (f.respelled raw).column = c) ∧
    (∀ (s t : Statement) (rows : List Payload), s.admits .insert = true → s.insert rows = .ok t →
      (e.respelled own raw).payloadOf contents ∈ rows →
        t.rowColumns = ((e.respelled own raw).payloadOf contents).columns) ∧
    ∀ s : Statement, s.admits .update = true →
      (s.update ((e.respelled own raw).payloadOf contents)).assignments.map (·.column) =
        ((e.respelled own raw).payloadOf contents).columns := by
  refine ⟨Entity.table_respelled_eq_iff, fun hown hsilent => ?_,
    fun f => Field.column_respelled_eq_iff, fun f hraw hsilent => ?_,
    fun h => Entity.payload_respelled_eq _ h, fun c => Entity.mem_columns_payload_respelled _,
    fun s t rows hadmits ht hrow => ?_, fun s hadmits => ?_⟩
  · rw [hown, Entity.table_respelled_of_silent hsilent]
  · rw [Field.column_respelled_of_silent hsilent, hraw]
    rfl
  · exact ((Statement.extended_insert hadmits ht).columns _ hrow).symm
  · obtain ⟨_, hassignments, _⟩ := Payload.update_parts hadmits
      ((e.respelled own raw).payloadOf contents)
    rw [hassignments, Payload.columns]

/-- A record that is named for a keyword, as are its fields but for one. -/
def keywordRecord : Entity where
  name := "Match"
  attributes := []
  fields := [⟨"type", []⟩, ⟨"match", []⟩, ⟨"plain", []⟩]

/-- The same record with its keywords in raw spelling. -/
def spelledRecord : Entity := keywordRecord.respelled true (·.name != "plain")

/-- The payload of either, with the same content in all fields. -/
def keywordPayload (e : Entity) : Payload := e.payloadOf fun _ => .scalar true

/-- The spelling gets into the names of the table and of the columns, and into all texts with
    them. -/
theorem prefixed_keywordRecord :
    keywordRecord.table = "match" ∧ spelledRecord.table = "r#_match" ∧
    (keywordPayload keywordRecord).columns = ["match", "plain", "type"] ∧
    (keywordPayload spelledRecord).columns = ["plain", "r#match", "r#type"] ∧
    (∃ t, spelledRecord.query.insert [keywordPayload spelledRecord] = .ok t ∧
      t.compile .mysql =
        .ok "INSERT INTO `r#_match` ( `plain`, `r#match`, `r#type` ) VALUES ( ?, ?, ? )") ∧
    (spelledRecord.query.update (keywordPayload spelledRecord)).compile .mysql =
      .ok "UPDATE `r#_match` SET `plain` = ?, `r#match` = ?, `r#type` = ?" := by
  refine ⟨by decide +kernel, by decide +kernel, by decide +kernel, by decide +kernel,
    ⟨_, rfl, ?_⟩, by decide +kernel⟩
  decide +kernel

end SqlBuilder
