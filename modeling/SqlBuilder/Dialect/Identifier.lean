namespace SqlBuilder.Identifier

/-!
# Quoted identifiers

* `quoteWith` — an identifier between quote characters, the ones inside written twice;
* `segmentsOf` — the parts of a dotted path, empty ones included;
* `dotted` — a path with every part quoted but a lone `*`;
* `cutCast` — a path and the type after its first `::`.
-/

/-- Every `q` twice. -/
def doubled (q : Char) : List Char → List Char
  | [] => []
  | c :: cs => if c = q then q :: q :: doubled q cs else c :: doubled q cs

/-- The text between two `q`, each `q` inside written twice. -/
def quoteWith (q : Char) (s : String) : String := String.ofList (q :: doubled q s.toList ++ [q])

/-- The parts between the points, in order. -/
def segmentsOf : List Char → List (List Char)
  | [] => [[]]
  | c :: cs =>
    if c = '.' then [] :: segmentsOf cs
    else match segmentsOf cs with
      | [] => [[c]]
      | s :: ss => (c :: s) :: ss

theorem segmentsOf_ne_nil (cs : List Char) : segmentsOf cs ≠ [] := by
  fun_cases segmentsOf cs <;> simp

/-- The parts with points between them are the path again. -/
theorem intercalate_segmentsOf (cs : List Char) : ['.'].intercalate (segmentsOf cs) = cs := by
  fun_induction segmentsOf cs with
  | case1 => rfl
  | case2 cs ih =>
    obtain ⟨s, ss, hs⟩ := List.exists_cons_of_ne_nil (segmentsOf_ne_nil cs)
    rw [hs] at ih ⊢
    rw [List.intercalate_cons_cons, ih]
    rfl
  | case3 _ cs _ hs => exact absurd hs (segmentsOf_ne_nil cs)
  | case4 c cs _ s ss hs ih =>
    rw [hs] at ih
    cases ss with
    | nil => simp_all
    | cons t ts =>
      rw [List.intercalate_cons_cons] at ih ⊢
      rw [← ih]
      rfl

/-- A part of a path: `*` stands for all columns and is not quoted. -/
def segment (quote : String → String) (s : List Char) : List Char :=
  if s = ['*'] then s else (quote (String.ofList s)).toList

/-- A dotted path with its parts quoted. -/
def dotted (quote : String → String) (path : String) : String :=
  String.ofList (['.'].intercalate ((segmentsOf path.toList).map (segment quote)))

/-- What stands before the first `::`, and what after it. -/
def cutCast : List Char → List Char × Option (List Char)
  | [] => ([], none)
  | ':' :: ':' :: cs => ([], some cs)
  | c :: cs => let (path, type) := cutCast cs; (c :: path, type)

/-- Path and type, with `::` between them, are the text again. -/
theorem eq_of_cutCast_some {cs path type : List Char} (h : cutCast cs = (path, some type)) :
    cs = path ++ ':' :: ':' :: type := by
  fun_induction cutCast cs generalizing path with
  | case1 => simp at h
  | case2 cs => simp_all
  | case3 c cs _ path' type' hcut ih =>
    obtain ⟨rfl, rfl⟩ := Prod.mk.inj h
    rw [ih hcut, List.cons_append]

/-- A text without a type is its own path. -/
theorem eq_of_cutCast_none {cs path : List Char} (h : cutCast cs = (path, none)) : cs = path := by
  fun_induction cutCast cs generalizing path with
  | case1 => simp_all
  | case2 cs => simp at h
  | case3 c cs _ path' type' hcut ih => simp_all

/-- A dotted path whose type, after `::`, is written as it stands. -/
def dottedWithCast (quote : String → String) (s : String) : String :=
  match cutCast s.toList with
  | (path, none) => dotted quote (String.ofList path)
  | (path, some type) => dotted quote (String.ofList path) ++ "::" ++ String.ofList type

end SqlBuilder.Identifier
