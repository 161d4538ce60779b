import SqlBuilder.Statement.Basic

namespace SqlBuilder

/-!
# Tokens of SQL text

The text of a statement is first a list of tokens that knows no dialect. A dialect then turns each
token into pieces, text or numbered places, and the pieces into characters.

* `Word` — the fixed vocabulary;
* `Token`, `Token.binds` — a step of the text, and the values whose numbers it takes;
* `Piece` — text, or the place of a value;
* `Fragment.splice` — the walk through a fragment, which replaces question marks by places;
* `Fragment.pieces`, `Fragment.next` — what the walk leaves, and where it leads the counter;
* `Token.pieces`, `Token.next` — the same for a token;
* `Token.allPieces`, `Token.counter` — the same for a list of tokens;
* `Token.render` — the text of a list of tokens.
-/

/-- The vocabulary that the library itself writes. -/
inductive Word where
  | SELECT | FROM | WHERE | HAVING | LIMIT | OFFSET
  | GROUP_BY | ORDER_BY
  | DELETE | UPDATE | SET | INTO | VALUES | RETURNING
  | INNER_JOIN | LEFT_JOIN | ON
  | AND | OR
  | BETWEEN | NOT_BETWEEN | IN | NOT_IN | IS_NULL | IS_NOT_NULL
  | AS
  | always | never
  | star | becomes | space | comma
  | opening | closing | callOpening | callClosing
  | operator (o : Operator)
  | direction (d : Direction)
  | function (f : AggregateFunction)
  deriving DecidableEq, Repr

/-- The name of an aggregate function. -/
def AggregateFunction.text : AggregateFunction → String
  | .count => "COUNT"
  | .sum => "SUM"
  | .avg => "AVG"
  | .min => "MIN"
  | .max => "MAX"

namespace Word

/-- The text of a word. -/
def text : Word → String
  | SELECT => "SELECT"
  | FROM => "FROM"
  | WHERE => "WHERE"
  | HAVING => "HAVING"
  | LIMIT => "LIMIT"
  | OFFSET => "OFFSET"
  | GROUP_BY => "GROUP BY"
  | ORDER_BY => "ORDER BY"
  | DELETE => "DELETE"
  | UPDATE => "UPDATE"
  | SET => "SET"
  | INTO => "INTO"
  | VALUES => "VALUES"
  | RETURNING => "RETURNING"
  | INNER_JOIN => "INNER JOIN"
  | LEFT_JOIN => "LEFT JOIN"
  | ON => "ON"
  | AND => "AND"
  | OR => "OR"
  | BETWEEN => "BETWEEN"
  | NOT_BETWEEN => "NOT BETWEEN"
  | IN => "IN"
  | NOT_IN => "NOT IN"
  | IS_NULL => "IS NULL"
  | IS_NOT_NULL => "IS NOT NULL"
  | AS => "as"
  | always => "1 = 1"
  | never => "0 = 1"
  | star => "*"
  | becomes => "="
  | space => " "
  | comma => ", "
  | opening => "( "
  | closing => " )"
  | callOpening => "("
  | callClosing => ")"
  | operator o => o.text
  | direction d => d.text
  | function f => f.text

end Word

/-- A step of the text of a statement. -/
inductive Token where
  /-- A word of the vocabulary. -/
  | word (w : Word)
  /-- A path such as `users.id`, wrapped by the dialect. -/
  | path (s : String)
  /-- One quoted identifier. -/
  | identifier (s : String)
  /-- The place of a value. -/
  | place (b : Bind)
  /-- A fragment of the caller's. -/
  | fragment (f : Fragment)
  /-- A space and a fragment; nothing at all if the fragment has no text. -/
  | spacedFragment (f : Fragment)
  /-- The verb of an `INSERT` and a space. -/
  | insertVerb (skipConflicts : Bool)
  /-- A space and the dialect's clause on conflicts. -/
  | onConflict (skipConflicts : Bool)
  /-- A space and the list of columns to return, where the dialect has one. -/
  | returning (columns : List String)
  /-- A sub-query where a table to write to is named: nothing can be written for it. -/
  | queryTarget
  deriving DecidableEq

/-- A piece of SQL text: characters, or the place of the value with a number. -/
inductive Piece where
  | text (s : String)
  | place (n : Nat)
  deriving DecidableEq, Repr

/-- The text of a piece. -/
def Piece.render (d : Dialect) : Piece → String
  | .text s => s
  | .place n => d.placeholder n

/-- The text of a list of pieces. -/
def Piece.renderAll (d : Dialect) (ps : List Piece) : String :=
  String.ofList (ps.flatMap fun p => (p.render d).toList)

namespace Fragment

/-- The pieces of a text after `n` numbers, and the counter behind it. A question mark takes the
    next number as long as values are left, and is text otherwise. Values that are left at the end
    take their numbers there. -/
def splice : List Char → (n left : Nat) → List Piece × Nat
  | [], n, left => ([], n + left)
  | '?' :: cs, n, left + 1 =>
    let rest := splice cs (n + 1) left
    (.place (n + 1) :: rest.1, rest.2)
  | c :: cs, n, left =>
    let rest := splice cs n left
    (.text (String.singleton c) :: rest.1, rest.2)

/-- The pieces of a fragment after `n` numbers. -/
def pieces (n : Nat) (f : Fragment) : List Piece := (splice f.text.toList n f.binds.length).1

/-- The counter behind a fragment. -/
def next (n : Nat) (f : Fragment) : Nat := (splice f.text.toList n f.binds.length).2

/-- The walk leads the counter on by the number of values, whether there are fewer question marks,
    as many or more. -/
theorem snd_splice (cs : List Char) (n left : Nat) : (splice cs n left).2 = n + left := by
  induction cs generalizing n left with
  | nil => rfl
  | cons c cs ih =>
    cases left with
    | zero => simp [splice, ih]
    | succ left =>
      by_cases hc : c = '?'
      · -- The number that the question mark takes is one of those that were left.
        subst hc
        simp only [splice, ih]
        omega
      · simp [splice, hc, ih]

theorem next_eq (n : Nat) (f : Fragment) : f.next n = n + f.binds.length := snd_splice _ n _

end Fragment

namespace Token

/-- The values whose numbers a token takes. A fragment takes a number for each of its values, also
    for those that no question mark asks for. -/
def binds : Token → List Bind
  | .place b => [b]
  | .fragment f => f.binds
  | .spacedFragment f => f.binds
  | _ => []

/-- A text and a space, nothing for an empty text. -/
def followed (s : String) : List Piece := if s.isEmpty then [] else [.text s, .text " "]

/-- A space and a text, nothing for an empty text. -/
def preceded (s : String) : List Piece := if s.isEmpty then [] else [.text " ", .text s]

/-- The pieces of a token after `n` numbers. -/
def pieces (d : Dialect) (n : Nat) : Token → List Piece
  | .word w => [.text w.text]
  | .path s => [.text (d.wrapName s)]
  | .identifier s => [.text (d.quote s)]
  | .place _ => [.place (n + 1)]
  | .fragment f => f.pieces n
  | .spacedFragment f =>
    if (Piece.renderAll d (f.pieces n)).isEmpty then [] else .text " " :: f.pieces n
  | .insertVerb skip => followed (d.insertVerb skip)
  | .onConflict skip => preceded (d.onConflict skip)
  | .returning columns =>
    if columns.isEmpty || !d.supportsReturning then []
    else .text " RETURNING " ::
      (columns.map fun c => Piece.text (d.wrapName c)).intersperse (.text ", ")
  | .queryTarget => []

/-- The counter behind a token. -/
def next (n : Nat) : Token → Nat
  | .place _ => n + 1
  | .fragment f => f.next n
  | .spacedFragment f => f.next n
  | _ => n

/-- The counter goes up by the number of values. -/
theorem next_eq (n : Nat) (t : Token) : t.next n = n + t.binds.length := by
  cases t with
  | fragment f => exact f.next_eq n
  | spacedFragment f => exact f.next_eq n
  | _ => rfl

/-- The pieces of a list of tokens after `n` numbers. -/
def allPieces (d : Dialect) (n : Nat) : List Token → List Piece
  | [] => []
  | t :: ts => t.pieces d n ++ allPieces d (t.next n) ts

/-- The counter behind a list of tokens. -/
def counter (n : Nat) : List Token → Nat
  | [] => n
  | t :: ts => counter (t.next n) ts

/-- The counter goes up by the number of values of the tokens. -/
theorem counter_eq (n : Nat) (ts : List Token) :
    counter n ts = n + (ts.flatMap binds).length := by
  induction ts generalizing n with
  | nil => rfl
  | cons t ts ih =>
    rw [counter, ih, next_eq, List.flatMap_cons, List.length_append]
    omega

/-- The tokens behind others are numbered on from the counter behind these. -/
theorem allPieces_append (d : Dialect) (n : Nat) (ts us : List Token) :
    allPieces d n (ts ++ us) = allPieces d n ts ++ allPieces d (counter n ts) us := by
  induction ts generalizing n with
  | nil => rfl
  | cons t ts ih => rw [List.cons_append, allPieces, ih, allPieces, counter, List.append_assoc]

/-- The text of a list of tokens after `n` numbers. -/
def render (d : Dialect) (n : Nat) (ts : List Token) : String :=
  Piece.renderAll d (allPieces d n ts)

end Token

end SqlBuilder
