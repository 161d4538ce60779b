import SqlBuilder.Payload.Basic
import SqlBuilder.Statement.Build
import SqlBuilder.Statement.Filters
import SqlBuilder.Text.Uppercase

namespace SqlBuilder

/-!
# Entities

An entity describes a record that is stored in a table: its name, its fields, and attributes on both
that override the names in the database.

* `Attribute`, `Field`, `Entity` — the description;
* `Attribute.textOf?` — the first text that attributes of one name give for a key;
* `snakeCase` — the default table name;
* `Entity.table`, `Entity.primaryKey`, `Field.column` — the names in the database;
* `Entity.query`, `Entity.find`, `Entity.payload` — statements and payloads of the entity.
-/

/-- The value of a key in an attribute. -/
inductive Literal where
  | text (s : String)
  /-- A value that is no text, or none at all. -/
  | other
  deriving DecidableEq, Repr

/-- An attribute.  A bare one has no list of keys, and neither has one whose list cannot be read. -/
structure Attribute where
  name : String
  keys : Option (List (String × Literal))
  deriving DecidableEq, Repr

namespace Attribute

/-- The texts for a key in a list of keys. -/
def textsOf (key : String) (keys : List (String × Literal)) : List String :=
  keys.filterMap fun
    | (k, .text s) => if k = key then some s else none
    | (_, .other) => none

/-- The first text for a key in the attributes of a name. -/
def textOf? (attributes : List Attribute) (name key : String) : Option String :=
  ((attributes.filter (·.name == name)).flatMap fun a => textsOf key (a.keys.getD [])).head?

end Attribute

/-- A field of an entity. -/
structure Field where
  name : String
  attributes : List Attribute
  deriving DecidableEq, Repr

namespace Field

/-- The field takes no part in payloads. -/
def isSkipped (f : Field) : Bool := f.attributes.any (·.name == "skip")

/-- The column of a field: the name it is given, else its own. -/
def column (f : Field) : String := (Attribute.textOf? f.attributes "column" "name").getD f.name

end Field

/-- A stored record. -/
structure Entity where
  name : String
  attributes : List Attribute
  fields : List Field
  deriving DecidableEq, Repr

/-- Small letters for the ASCII capitals, with an underscore before every capital letter but a
    first one. Capitals beyond ASCII stay. -/
def snakeCase : List Char → List Char
  | [] => []
  | c :: cs =>
    Text.lowerAscii c ::
      cs.flatMap fun d =>
        if Text.isUppercase d then ['_', Text.lowerAscii d] else [Text.lowerAscii d]

namespace Entity

/-- The table of the entity. -/
def table (e : Entity) : String :=
  (Attribute.textOf? e.attributes "model" "table").getD (String.ofList (snakeCase e.name.toList))

/-- The column that identifies a record. -/
def primaryKey (e : Entity) : String := (Attribute.textOf? e.attributes "model" "pk").getD "id"

/-- The statement that reads the table of the entity. -/
def query (e : Entity) : Statement := .ofSource (.table e.table)

/-- The statement that reads the record with this key. -/
def find (e : Entity) (id : Value) : Except Misuse Statement :=
  e.query.compare .wheres .and (.name e.primaryKey) "=" id

/-- The payload of a record. Of fields with one column the last counts. -/
def payload (e : Entity) (value : Field → Value) : Payload :=
  .ofList ((e.fields.filter (!·.isSkipped)).map fun f => (f.column, value f))

end Entity

end SqlBuilder
