import SqlBuilder.Text.Ranges

namespace SqlBuilder.Text

/-!
# Blank characters, words and trimming

Blank is the Unicode property `White_Space`, 25 characters.

* `isBlank` — the property;
* `words` — the maximal runs of other characters, in order;
* `trim` — the text without the blanks at its two ends.
-/

/-- The characters with the property `White_Space`. -/
def blanks : Ranges :=
  [(0x9, 0xD), (0x20, 0x20), (0x85, 0x85), (0xA0, 0xA0), (0x1680, 0x1680), (0x2000, 0x200A),
   (0x2028, 0x2029), (0x202F, 0x202F), (0x205F, 0x205F), (0x3000, 0x3000)]

/-- `c` has the property `White_Space`. -/
def isBlank (c : Char) : Bool := blanks.contains c

/-- A word is not continued by `cs`: it is empty or starts with a blank. -/
def endsWord : List Char → Bool
  | [] => true
  | c :: _ => isBlank c

/-- The maximal runs of characters that are not blank. -/
def wordsOf : List Char → List (List Char)
  | [] => []
  | c :: cs =>
    if isBlank c then wordsOf cs
    else if endsWord cs then [c] :: wordsOf cs
    else match wordsOf cs with
      | [] => [[c]]
      | w :: ws => (c :: w) :: ws

/-- The words of a text, in order. -/
def words (s : String) : List String := (wordsOf s.toList).map String.ofList

/-- The characters without the blanks at the end. -/
def trimEnd (cs : List Char) : List Char := (cs.reverse.dropWhile isBlank).reverse

/-- The text without the blanks at its two ends. -/
def trim (s : String) : String := String.ofList (trimEnd (s.toList.dropWhile isBlank))

/-- A word of `wordsOf` has a character. -/
theorem ne_nil_of_mem_wordsOf {cs w : List Char} (h : w ∈ wordsOf cs) : w ≠ [] := by
  fun_induction wordsOf cs with
  | case1 => simp at h
  | case2 _ _ _ ih => exact ih h
  | case3 _ _ _ _ ih =>
    rcases List.mem_cons.1 h with rfl | h
    · simp
    · exact ih h
  | case4 => simp_all
  | case5 _ _ _ _ _ _ hw ih =>
    rcases List.mem_cons.1 h with rfl | h
    · simp
    · exact ih (hw ▸ List.mem_cons_of_mem _ h)

/-- A word of `wordsOf` has no blank. -/
theorem not_isBlank_of_mem_wordsOf {cs w : List Char} (h : w ∈ wordsOf cs) :
    ∀ c ∈ w, isBlank c = false := by
  fun_induction wordsOf cs generalizing w with
  | case1 => simp at h
  | case2 _ _ _ ih => exact ih h
  | case3 _ _ hc _ ih =>
    rcases List.mem_cons.1 h with rfl | h
    · simpa using hc
    · exact ih h
  | case4 => simp_all
  | case5 _ _ hc _ _ _ hw ih =>
    rcases List.mem_cons.1 h with rfl | h
    · intro d hd
      rcases List.mem_cons.1 hd with rfl | hd
      · simpa using hc
      · exact ih (by rw [hw]; exact List.mem_cons_self) d hd
    · exact ih (hw ▸ List.mem_cons_of_mem _ h)

/-! ### The words of a trimmed text -/

theorem wordsOf_dropWhile (cs : List Char) : wordsOf (cs.dropWhile isBlank) = wordsOf cs := by
  induction cs with
  | nil => rfl
  | cons c cs ih =>
    rw [List.dropWhile_cons]
    split
    · rename_i hc
      rw [ih, wordsOf, if_pos hc]
    · rfl

/-- A blank at the end adds no word. -/
theorem wordsOf_concat_blank (cs : List Char) {c : Char} (hc : isBlank c = true) :
    wordsOf (cs ++ [c]) = wordsOf cs := by
  induction cs with
  | nil => simp [wordsOf, hc]
  | cons b cs ih =>
    have hend : endsWord (cs ++ [c]) = endsWord cs := by
      cases cs <;> simp [endsWord, hc]
    rw [List.cons_append, wordsOf, wordsOf, ih, hend]

theorem wordsOf_trimEnd (cs : List Char) : wordsOf (trimEnd cs) = wordsOf cs := by
  -- The induction is on the text from its end.
  suffices hback : ∀ rs : List Char,
      wordsOf (rs.dropWhile isBlank).reverse = wordsOf rs.reverse by
    rw [trimEnd, hback, List.reverse_reverse]
  intro rs
  induction rs with
  | nil => rfl
  | cons c rs ih =>
    rw [List.dropWhile_cons]
    split
    · rename_i hc
      rw [ih, List.reverse_cons, wordsOf_concat_blank _ hc]
    · rfl

/-- Trimming keeps the words. -/
theorem words_trim (s : String) : words (trim s) = words s := by
  rw [words, words, trim, String.toList_ofList, wordsOf_trimEnd, wordsOf_dropWhile]

end SqlBuilder.Text
