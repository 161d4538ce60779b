import SqlBuilder.Statement.Basic

namespace SqlBuilder

/-!
# Payloads

A payload gives each of its columns one value; it fills a row of an `INSERT` or the assignments of
an `UPDATE`.

* `Payload` — its assignments, with the columns in ascending order, so that the order in which they
  were given cannot show;
* `Payload.set`, `get?`, `erase`, `ofList` — the map's operations; a later value replaces an
  earlier one.
-/

/-- Column names in strictly ascending order. -/
abbrev Ascending (as : List Assignment) : Prop := as.Pairwise fun a b => a.column < b.column

/-- A map from columns to values. -/
structure Payload where
  assignments : List Assignment := []
  ascending : Ascending assignments := by exact List.Pairwise.nil

namespace Payload

/-! ### Ordered lists of assignments -/

/-- The list with a value for a column, in place of the one it had. -/
def insertAt (column : String) (value : Value) : List Assignment → List Assignment
  | [] => [⟨column, value⟩]
  | a :: as =>
    if column < a.column then ⟨column, value⟩ :: a :: as
    else if column = a.column then ⟨column, value⟩ :: as
    else a :: insertAt column value as

/-- Every column of `insertAt` is the new one or an old one. -/
theorem column_of_mem_insertAt {column : String} {value : Value} {as : List Assignment}
    {b : Assignment} (h : b ∈ insertAt column value as) : b.column = column ∨ b ∈ as := by
  induction as with
  | nil => simp_all [insertAt]
  | cons a as ih =>
    simp only [insertAt] at h
    split at h
    · rcases List.mem_cons.1 h with rfl | h
      · exact .inl rfl
      · exact .inr h
    · split at h
      · rcases List.mem_cons.1 h with rfl | h
        · exact .inl rfl
        · exact .inr (List.mem_cons_of_mem _ h)
      · rcases List.mem_cons.1 h with rfl | h
        · exact .inr List.mem_cons_self
        · exact (ih h).imp id (List.mem_cons_of_mem _)

/-- `insertAt` keeps the order. -/
theorem ascending_insertAt {column : String} {value : Value} {as : List Assignment}
    (h : Ascending as) : Ascending (insertAt column value as) := by
  induction as with
  | nil => simp [insertAt, Ascending]
  | cons a as ih =>
    obtain ⟨ha, has⟩ := List.pairwise_cons.1 h
    simp only [insertAt]
    split
    · rename_i hlt
      refine List.pairwise_cons.2 ⟨fun b hb => ?_, h⟩
      rcases List.mem_cons.1 hb with rfl | hb
      · exact hlt
      · exact String.lt_trans hlt (ha b hb)
    · rename_i hge
      split
      · rename_i heq
        exact List.pairwise_cons.2 ⟨fun b hb => heq ▸ ha b hb, has⟩
      · rename_i hne
        refine List.pairwise_cons.2 ⟨fun b hb => ?_, ih has⟩
        rcases column_of_mem_insertAt hb with hb | hb
        · rw [hb]
          exact Std.lt_of_le_of_ne (String.not_lt.1 hge) (Ne.symm hne)
        · exact ha b hb

/-! ### Operations -/

/-- The payload with a value for a column. -/
def set (p : Payload) (column : String) (value : Value) : Payload :=
  ⟨insertAt column value p.assignments, ascending_insertAt p.ascending⟩

/-- The value of a column. -/
def get? (p : Payload) (column : String) : Option Value :=
  (p.assignments.find? (·.column == column)).map (·.value)

/-- The payload without a column. -/
def erase (p : Payload) (column : String) : Payload :=
  ⟨p.assignments.filter (·.column != column), p.ascending.filter _⟩

/-- The columns, ascending. -/
def columns (p : Payload) : List String := p.assignments.map (·.column)

/-- The values, in the order of their columns. -/
def values (p : Payload) : List Value := p.assignments.map (·.value)

/-- The columns with their values, in order. -/
def toList (p : Payload) : List (String × Value) := p.assignments.map fun a => (a.column, a.value)

/-- How many columns have a value. -/
def size (p : Payload) : Nat := p.assignments.length

/-- No column has a value. -/
def isEmpty (p : Payload) : Bool := p.assignments.isEmpty

/-- The payload of these pairs; the last value of a column counts. -/
def ofList (entries : List (String × Value)) : Payload :=
  entries.foldl (fun p (column, value) => p.set column value) {}

/-- Looking up a column after `insertAt`. -/
theorem find?_insertAt (column other : String) (value : Value) (as : List Assignment)
    (h : Ascending as) :
    (insertAt column value as).find? (·.column == other) =
      if column = other then some ⟨column, value⟩ else as.find? (·.column == other) := by
  induction as with
  | nil => by_cases hc : column = other <;> simp [insertAt, hc]
  | cons a as ih =>
    have ih := ih (List.pairwise_cons.1 h).2
    simp only [insertAt]
    split
    · by_cases hc : column = other <;> simp [List.find?_cons, hc]
    · split
      · rename_i heq
        by_cases hc : column = other <;> simp_all
      · rename_i hne
        by_cases hc : column = other
        · subst hc
          simp [ih, Ne.symm hne]
        · by_cases ha : a.column = other <;> simp [ih, hc, ha]

/-- A column has the value that was set, and the others keep theirs. -/
theorem get?_set (p : Payload) (column other : String) (value : Value) :
    (p.set column value).get? other = if column = other then some value else p.get? other := by
  simp only [get?, set, find?_insertAt column other value p.assignments p.ascending]
  split <;> rfl

/-- The values that stand in the values, in order. -/
def binds (p : Payload) : List Bind := p.values.flatMap Value.binds

end Payload

end SqlBuilder
