import SqlBuilder.Token

namespace SqlBuilder

/-!
# The tokens of a statement

* `Column.tokens` — a name with its label, or a fragment;
* `Value.tokens`, `Predicate.tokens`, …, `Statement.tokens` — the parts of a statement, down to its
  sub-queries;
* `Statement.compile` — the text of a statement in a dialect. It fails only where a sub-query
  stands for the table to write to.
-/

namespace Token

/-- A word, a space and more. -/
def after (w : Word) (ts : List Token) : List Token := .word w :: .word .space :: ts

/-- Tokens in spaced parentheses. -/
def enclosed (ts : List Token) : List Token := .word .opening :: ts ++ [.word .closing]

/-- Items with commas between them. -/
def listed (items : List (List Token)) : List Token := [Token.word .comma].intercalate items

/-- Items with spaces between them. -/
def spaced (items : List (List Token)) : List Token := [Token.word .space].intercalate items

/-- Clauses with spaces between them; an absent clause has no tokens and leaves no space. -/
def clauses (parts : List (List Token)) : List Token := spaced (parts.filter (!·.isEmpty))

/-- A list of items after a word; nothing without items. -/
def listedAfter (w : Word) (items : List (List Token)) : List Token :=
  if items.isEmpty then [] else after w (listed items)

end Token

open Token (after enclosed listed spaced clauses listedAfter)

/-- The words of a name: a path, a path and a label, or these two with a word between. Anything
    longer is one path. -/
def nameTokens (s : String) : List Token :=
  match Text.words s with
  | [] => []
  | [path] => [.path path]
  | [path, label] | [path, _, label] =>
    [.path path, .word .space, .word .AS, .word .space, .identifier label]
  | _ => [.path s]

/-- The tokens of a column. -/
def Column.tokens : Column → List Token
  | .name s => nameTokens s
  | .raw f => [.fragment f]

/-- A function over a column, and its label. -/
def Aggregate.tokens (a : Aggregate) : List Token :=
  .word (.function a.function) :: .word .callOpening :: a.column.tokens ++ .word .callClosing ::
    if a.label.isEmpty then []
    else [.word .space, .word .AS, .word .space, .identifier a.label]

/-- A column and the direction to sort by. -/
def Order.tokens (o : Order) : List Token :=
  o.column.tokens ++ [.word .space, .word (.direction o.direction)]

/-- The word of a connector. -/
def Connector.word : Connector → Word
  | .and => .AND
  | .or => .OR

/-- The words of a join. -/
def JoinKind.word : JoinKind → Word
  | .inner => .INNER_JOIN
  | .left => .LEFT_JOIN

/-- A test after its connector. A fragment without text leaves the connector alone. -/
def Predicate.afterConnector : Option Connector → Predicate → List Token → List Token
  | none, _, ts => ts
  | some c, .raw f, _ => [.word c.word, .spacedFragment f]
  | some c, _, ts => after c.word ts

/-- A comparison of two sides. -/
def comparison (left : List Token) (o : Operator) (right : List Token) : List Token :=
  left ++ .word .space :: after (.operator o) right

/-- The table that a statement writes to. Without a source it is the last table name given. -/
def targetTokens (table : String) : Option Source → List Token
  | none => nameTokens table
  | some (.table name) => nameTokens name
  | some (.raw f) => [.fragment f]
  | some (.query _) => [.queryTarget]

/-- The label of a derived table. -/
def labelTokens : Option String → List Token
  | none => []
  | some name => [.word .space, .word .AS, .word .space, .identifier name]

mutual

/-- A place, a fragment, or a sub-query in parentheses. -/
def Value.tokens : Value → List Token
  | .bind b => [.place b]
  | .raw f => [.fragment f]
  | .query s => enclosed s.tokens

/-- The items of a list of values. -/
def valueItems : List Value → List (List Token)
  | [] => []
  | v :: vs => v.tokens :: valueItems vs

/-- The rows of an `INSERT`. -/
def rowItems : List (List Value) → List (List Token)
  | [] => []
  | vs :: rows => enclosed (listed (valueItems vs)) :: rowItems rows

/-- A column, the sign `=` and the value. -/
def Assignment.tokens : Assignment → List Token
  | ⟨column, value⟩ => .path column :: .word .space :: after .becomes value.tokens

/-- The items of a list of assignments. -/
def assignmentItems : List Assignment → List (List Token)
  | [] => []
  | a :: as => a.tokens :: assignmentItems as

/-- The source after `FROM`; a sub-query carries the label of its table. -/
def Source.tokens : Source → List Token
  | .table name => nameTokens name
  | .raw f => [.fragment f]
  | .query s => enclosed s.tokens ++ labelTokens s.label?

/-- The clause of the source. -/
def fromTokens : Option Source → List Token
  | none => []
  | some source => after .FROM source.tokens

/-- A test of a join. -/
def JoinTest.tokens : JoinTest → List Token
  | .columns first o second => comparison first.tokens o second.tokens
  | .value column o value => comparison column.tokens o value.tokens

/-- A test of a join after its connector. -/
def JoinCondition.tokens : JoinCondition → List Token
  | ⟨none, test⟩ => test.tokens
  | ⟨some c, test⟩ => after c.word test.tokens

/-- The items of the tests of a join. -/
def joinConditionItems : List JoinCondition → List (List Token)
  | [] => []
  | c :: cs => c.tokens :: joinConditionItems cs

/-- A join; without tests it has no `ON`. -/
def Join.tokens : Join → List Token
  | ⟨kind, table, conditions⟩ =>
    after kind.word table.tokens ++
      if conditions.isEmpty then []
      else .word .space :: after .ON (enclosed (spaced (joinConditionItems conditions)))

/-- The items of a list of joins. -/
def joinItems : List Join → List (List Token)
  | [] => []
  | j :: js => j.tokens :: joinItems js

/-- One test of a filter. -/
def Predicate.tokens : Predicate → List Token
  | .compare column o value => comparison column.tokens o value.tokens
  | .raw f => [.fragment f]
  | .constant holds => [.word (if holds then .always else .never)]
  | .group conditions => enclosed (spaced (conditionItems conditions))
  | .between column low high negated =>
    column.tokens ++ .word .space :: after (if negated then .NOT_BETWEEN else .BETWEEN)
      (low.tokens ++ .word .space :: after .AND high.tokens)
  | .isNull column negated =>
    column.tokens ++ [.word .space, .word (if negated then .IS_NOT_NULL else .IS_NULL)]
  | .among column values negated =>
    column.tokens ++ .word .space :: after (if negated then .NOT_IN else .IN)
      (enclosed (listed (valueItems values)))
  | .amongQuery column query negated =>
    column.tokens ++ .word .space :: after (if negated then .NOT_IN else .IN)
      (enclosed query.tokens)

/-- A test after its connector. -/
def Condition.tokens : Condition → List Token
  | ⟨connector, predicate⟩ => predicate.afterConnector connector predicate.tokens

/-- The items of a list of conditions. -/
def conditionItems : List Condition → List (List Token)
  | [] => []
  | c :: cs => c.tokens :: conditionItems cs

/-- The clause of a limit or an offset. -/
def boundTokens (w : Word) : Option Value → List Token
  | none => []
  | some value => after w value.tokens

/-- The text of a statement. Each kind writes its own clauses. -/
def Statement.tokens : Statement → List Token
  | { kind, table, columns, aggregates, source, joins, wheres, groups, havings, orders, limit,
      offset, assignments, rowColumns, rows, skipConflicts, returning, .. } =>
    let filter (w : Word) (conditions : List (List Token)) : List Token :=
      if conditions.isEmpty then [] else after w (spaced conditions)
    match kind with
    | none | some .select =>
      let items := columns.map Column.tokens ++ aggregates.map Aggregate.tokens
      clauses
        [after .SELECT (if items.isEmpty then [.word .star] else listed items),
         fromTokens source,
         spaced (joinItems joins),
         filter .WHERE (conditionItems wheres),
         listedAfter .GROUP_BY (groups.map Column.tokens),
         filter .HAVING (conditionItems havings),
         listedAfter .ORDER_BY (orders.map Order.tokens),
         boundTokens .LIMIT limit,
         boundTokens .OFFSET offset]
    | some .insert =>
      .insertVerb skipConflicts ::
        clauses
          [after .INTO (targetTokens table source),
           if rowColumns.isEmpty then []
           else enclosed (listed (rowColumns.map fun c => [.path c])),
           if rowColumns.isEmpty then [] else after .VALUES (listed (rowItems rows))] ++
        [.onConflict skipConflicts, .returning returning]
    | some .update =>
      clauses
        [after .UPDATE (targetTokens table source),
         listedAfter .SET (assignmentItems assignments),
         filter .WHERE (conditionItems wheres)]
    | some .delete =>
      clauses
        [[.word .DELETE],
         fromTokens source,
         filter .WHERE (conditionItems wheres)]

end

/-! ### The items of a list, one by one -/

@[simp] theorem valueItems_eq_map (vs : List Value) : valueItems vs = vs.map Value.tokens := by
  induction vs with
  | nil => rfl
  | cons v vs ih => rw [valueItems, ih, List.map_cons]

@[simp] theorem rowItems_eq_map (rows : List (List Value)) :
    rowItems rows = rows.map fun vs => enclosed (listed (vs.map Value.tokens)) := by
  induction rows with
  | nil => rfl
  | cons vs rows ih => rw [rowItems, ih, valueItems_eq_map, List.map_cons]

@[simp] theorem assignmentItems_eq_map (as : List Assignment) :
    assignmentItems as = as.map Assignment.tokens := by
  induction as with
  | nil => rfl
  | cons a as ih => rw [assignmentItems, ih, List.map_cons]

@[simp] theorem joinConditionItems_eq_map (cs : List JoinCondition) :
    joinConditionItems cs = cs.map JoinCondition.tokens := by
  induction cs with
  | nil => rfl
  | cons c cs ih => rw [joinConditionItems, ih, List.map_cons]

@[simp] theorem joinItems_eq_map (js : List Join) : joinItems js = js.map Join.tokens := by
  induction js with
  | nil => rfl
  | cons j js ih => rw [joinItems, ih, List.map_cons]

@[simp] theorem conditionItems_eq_map (cs : List Condition) :
    conditionItems cs = cs.map Condition.tokens := by
  induction cs with
  | nil => rfl
  | cons c cs ih => rw [conditionItems, ih, List.map_cons]

namespace Statement

/-- The text of a statement in a dialect, its places numbered from 1. -/
def compile (d : Dialect) (s : Statement) : Except Misuse String :=
  if Token.queryTarget ∈ s.tokens then .error .queryTarget else .ok (Token.render d 0 s.tokens)

end Statement

end SqlBuilder
