import SqlBuilder.Proofs.Admission
import SqlBuilder.Proofs.Derivation

namespace SqlBuilder

open Text (isUppercase lowerAscii forall_ascii)

/-!
# Default table names

The default name of a table has an underscore in front of every capital of the entity's name but the
first.  Capitals beyond ASCII stay as they are, so the name of the entity can be read from that of
its table if it starts with a capital and has no underscores of its own.

* `snakeLetter` — what becomes of a letter behind the first;
* `capitalized`, `camelCase` — the reader: what stands behind an underscore is a capital;
* `camelCase_snakeCase` — it reads names back;
* `count_snakeCase` — the underscores are the capitals behind the first;
* `Entity.NamedByDefault`, `Entity.nameOfTable` — entities whose table is named by default, and the
  reader of their table names;
* `recovery` — default table names, and the names they come from.
-/

/-! ### Characters -/

namespace Text

variable {c : Char}

theorem isUpper_iff : c.isUpper = true ↔ 65 ≤ c.toNat ∧ c.toNat ≤ 90 := decide_eq_true_iff

theorem isLower_iff : c.isLower = true ↔ 97 ≤ c.toNat ∧ c.toNat ≤ 122 := by
  show (decide (c.val ≥ 'a'.val) && decide (c.val ≤ 'z'.val)) = true ↔ _
  rw [Bool.and_eq_true, decide_eq_true_eq, decide_eq_true_eq]
  exact Iff.rfl

/-- Letters and digits, in the sense of core, are of ASCII. -/
theorem toNat_lt_of_isAlphanum (h : c.isAlphanum = true) : c.toNat < 128 := by
  have hkinds : ((c.isUpper || c.isLower) || c.isDigit) = true := h
  have hnine : '9'.toNat = 57 := rfl
  rw [Bool.or_eq_true, Bool.or_eq_true, isUpper_iff, isLower_iff, Char.isDigit_iff_toNat] at hkinds
  omega

/-- A capital of ASCII becomes a small letter, from which it can be read. -/
theorem lowerAscii_of_isUpper (h : c.isUpper = true) :
    (lowerAscii c).isLower = true ∧ (lowerAscii c).toUpper = c := by
  have hascii : c.toNat < 128 := by
    rw [isUpper_iff] at h
    omega
  have hall : ∀ n < 128, (Char.ofNat n).isUpper = true →
      (lowerAscii (Char.ofNat n)).isLower = true ∧
        (lowerAscii (Char.ofNat n)).toUpper = Char.ofNat n := by
    decide +kernel
  exact forall_ascii
    (P := fun c => c.isUpper = true → (lowerAscii c).isLower = true ∧ (lowerAscii c).toUpper = c)
    hall hascii h

theorem lowerAscii_of_not_isUpper (h : ¬ c.isUpper = true) : lowerAscii c = c :=
  if_neg (mt isUpper_iff.2 h)

theorem toUpper_of_not_isLower (h : ¬ c.isLower = true) : c.toUpper = c :=
  dif_neg (mt isLower_iff.2 h)

/-- The capitals of ASCII are the first run of the property, and all other runs lie beyond. -/
theorem isUppercase_iff_of_ascii (hc : c.toNat < 128) :
    isUppercase c = true ↔ c.isUpper = true := by
  have hruns : uppercase = (0x41, 0x5A, 1) :: uppercase.tail := rfl
  have hbeyond : ∀ run ∈ uppercase.tail, 128 ≤ run.1 := by decide +kernel
  rw [isUpper_iff, isUppercase, List.any_eq_true]
  constructor
  · rintro ⟨run, hmem, hrun⟩
    rw [Bool.and_eq_true, Bool.and_eq_true, decide_eq_true_eq, decide_eq_true_eq] at hrun
    rw [hruns] at hmem
    rcases List.mem_cons.1 hmem with rfl | hmem
    · exact hrun.1
    · have hfar := hbeyond run hmem
      omega
  · intro h
    refine ⟨(0x41, 0x5A, 1), hruns ▸ List.mem_cons_self, ?_⟩
    simp [h, Nat.mod_one]

/-- A capital can be read from its small letter. -/
theorem toUpper_lowerAscii (h : isUppercase c = true) : (lowerAscii c).toUpper = c := by
  by_cases hupper : c.isUpper = true
  · exact (lowerAscii_of_isUpper hupper).2
  · -- A capital beyond ASCII is not changed either way.
    have hforeign : 128 ≤ c.toNat := by
      by_contra hascii
      exact hupper ((isUppercase_iff_of_ascii (by omega)).1 h)
    have hlower : ¬ c.isLower = true := by
      rw [isLower_iff]
      omega
    rw [lowerAscii_of_not_isUpper hupper, toUpper_of_not_isLower hlower]

/-- What is no capital stays. -/
theorem lowerAscii_of_not_isUppercase (h : ¬ isUppercase c = true) : lowerAscii c = c := by
  refine lowerAscii_of_not_isUpper fun hupper => h ?_
  have hbounds := isUpper_iff.1 hupper
  exact (isUppercase_iff_of_ascii (by omega)).2 hupper

/-- Only an underscore becomes one. -/
theorem lowerAscii_ne_underscore (h : c ≠ '_') : lowerAscii c ≠ '_' := by
  by_cases hupper : c.isUpper = true
  · intro heq
    have hlower := (lowerAscii_of_isUpper hupper).1
    rw [heq] at hlower
    exact absurd hlower (by decide)
  · rwa [lowerAscii_of_not_isUpper hupper]

end Text

/-- What becomes of a letter behind the first. -/
def snakeLetter (c : Char) : List Char :=
  if isUppercase c then ['_', lowerAscii c] else [lowerAscii c]

theorem snakeCase_cons (c : Char) (cs : List Char) :
    snakeCase (c :: cs) = lowerAscii c :: cs.flatMap snakeLetter := rfl

/-- A small letter, a digit or an underscore, of ASCII. -/
def isSnake (c : Char) : Bool := c.isLower || c.isDigit || c == '_'

/-- Letters and digits of ASCII become small letters and digits. -/
theorem isSnake_lowerAscii {c : Char} (hc : c.isAlphanum = true) :
    isSnake (lowerAscii c) = true := by
  by_cases hupper : c.isUpper = true
  · simp [isSnake, (Text.lowerAscii_of_isUpper hupper).1]
  · have hkinds : ((c.isUpper || c.isLower) || c.isDigit) = true := hc
    rw [Bool.eq_false_of_not_eq_true hupper, Bool.false_or] at hkinds
    rw [Text.lowerAscii_of_not_isUpper hupper, isSnake, hkinds, Bool.true_or]

theorem isSnake_of_mem_snakeLetter {c x : Char} (hc : c.isAlphanum = true)
    (hx : x ∈ snakeLetter c) : isSnake x = true := by
  rw [snakeLetter] at hx
  split at hx
  · rcases List.mem_cons.1 hx with rfl | hx
    · rfl
    · obtain rfl := List.mem_singleton.1 hx
      exact isSnake_lowerAscii hc
  · obtain rfl := List.mem_singleton.1 hx
    exact isSnake_lowerAscii hc

/-! ### Reading names back -/

/-- The text with capitals for underscores and the letters behind them. -/
def capitalized : List Char → List Char
  | '_' :: c :: cs => c.toUpper :: capitalized cs
  | c :: cs => c :: capitalized cs
  | [] => []

/-- The name that a default table name comes from; its first letter is a capital too. -/
def camelCase (cs : List Char) : List Char := capitalized ('_' :: cs)

variable {cs : List Char}

/-- A letter is read back. -/
theorem capitalized_snakeLetter {c : Char} (h : c ≠ '_') (cs : List Char) :
    capitalized (snakeLetter c ++ cs) = c :: capitalized cs := by
  rw [snakeLetter]
  split
  · rename_i hcapital
    show (lowerAscii c).toUpper :: capitalized cs = c :: capitalized cs
    rw [Text.toUpper_lowerAscii hcapital]
  · rename_i hsmall
    rw [Text.lowerAscii_of_not_isUppercase hsmall, List.singleton_append, capitalized]
    intro b bs hc
    exact absurd hc h

theorem capitalized_flatMap_snakeLetter (h : '_' ∉ cs) :
    capitalized (cs.flatMap snakeLetter) = cs := by
  induction cs with
  | nil => rfl
  | cons c cs ih =>
    rw [List.mem_cons, not_or] at h
    obtain ⟨hc, hcs⟩ := h
    rw [List.flatMap_cons, capitalized_snakeLetter (Ne.symm hc), ih hcs]

/-- With an underscore in front the first capital is as the others. -/
theorem underscore_snakeCase {c : Char} (h : isUppercase c = true) (cs : List Char) :
    '_' :: snakeCase (c :: cs) = (c :: cs).flatMap snakeLetter := by
  rw [List.flatMap_cons, snakeLetter, if_pos h, snakeCase_cons]
  rfl

/-- A name that starts with a capital and has no underscores is read back. -/
theorem camelCase_snakeCase (hcapital : ∃ c, cs.head? = some c ∧ isUppercase c = true)
    (hjoined : '_' ∉ cs) : camelCase (snakeCase cs) = cs := by
  obtain ⟨c, hc, hupper⟩ := hcapital
  obtain ⟨cs, rfl⟩ := List.head?_eq_some_iff.1 hc
  rw [camelCase, underscore_snakeCase hupper, capitalized_flatMap_snakeLetter hjoined]

/-! ### What default names are made of -/

theorem count_snakeLetter {c : Char} (h : c ≠ '_') :
    (snakeLetter c).count '_' = if isUppercase c then 1 else 0 := by
  have hlower : [lowerAscii c].count '_' = 0 :=
    List.count_eq_zero.2 fun hmem =>
      Text.lowerAscii_ne_underscore h (List.mem_singleton.1 hmem).symm
  rw [snakeLetter]
  split
  · rw [List.count_cons_self, hlower]
  · exact hlower

theorem count_flatMap_snakeLetter (h : '_' ∉ cs) :
    (cs.flatMap snakeLetter).count '_' = cs.countP isUppercase := by
  induction cs with
  | nil => rfl
  | cons c cs ih =>
    rw [List.mem_cons, not_or] at h
    obtain ⟨hc, hcs⟩ := h
    rw [List.flatMap_cons, List.count_append, ih hcs, count_snakeLetter (Ne.symm hc),
      List.countP_cons, Nat.add_comm]

/-- The underscores are the capitals behind the first letter. -/
theorem count_snakeCase (h : '_' ∉ cs) :
    (snakeCase cs).count '_' = cs.tail.countP isUppercase := by
  cases cs with
  | nil => rfl
  | cons c cs =>
    rw [List.mem_cons, not_or] at h
    obtain ⟨hc, hcs⟩ := h
    rw [snakeCase_cons, List.count_cons_of_ne (Text.lowerAscii_ne_underscore (Ne.symm hc)),
      count_flatMap_snakeLetter hcs, List.tail_cons]

/-- Letters and digits of ASCII give small letters, digits and underscores. -/
theorem isSnake_of_mem_snakeCase {x : Char} (h : ∀ c ∈ cs, c.isAlphanum = true)
    (hx : x ∈ snakeCase cs) : isSnake x = true := by
  cases cs with
  | nil => cases hx
  | cons c cs =>
    obtain ⟨hc, hcs⟩ := List.forall_mem_cons.1 h
    rw [snakeCase_cons] at hx
    rcases List.mem_cons.1 hx with rfl | hx
    · exact isSnake_lowerAscii hc
    · obtain ⟨b, hb, hx⟩ := List.mem_flatMap.1 hx
      exact isSnake_of_mem_snakeLetter (hcs b hb) hx

/-- A capital of ASCII gives a small letter at the start. -/
theorem head?_snakeCase (hcapital : ∃ c, cs.head? = some c ∧ isUppercase c = true)
    (h : ∀ c ∈ cs, c.isAlphanum = true) :
    ∃ x, (snakeCase cs).head? = some x ∧ x.isLower = true := by
  obtain ⟨c, hc, hupper⟩ := hcapital
  obtain ⟨cs, rfl⟩ := List.head?_eq_some_iff.1 hc
  have hascii := Text.toNat_lt_of_isAlphanum (h c List.mem_cons_self)
  rw [Text.isUppercase_iff_of_ascii hascii] at hupper
  exact ⟨lowerAscii c, rfl, (Text.lowerAscii_of_isUpper hupper).1⟩

/-! ### Entities -/

namespace Entity

/-- The name of the entity starts with a capital and has no underscore, and no attribute names a
    table. -/
structure NamedByDefault (e : Entity) : Prop where
  capital : ∃ c, e.name.toList.head? = some c ∧ isUppercase c = true
  joined : '_' ∉ e.name.toList
  silent : ∀ a ∈ e.attributes, a.Silent "model" "table"

/-- The name of the entity whose table has this name by default. -/
def nameOfTable (table : String) : String := String.ofList (camelCase table.toList)

theorem table_eq_snakeCase {e : Entity} (h : ∀ a ∈ e.attributes, a.Silent "model" "table") :
    e.table = String.ofList (snakeCase e.name.toList) := by
  rw [table, Attribute.textOf?_eq_none_iff.2 h, Option.getD_none]

/-- The name is read back. -/
theorem NamedByDefault.nameOfTable_table {e : Entity} (h : e.NamedByDefault) :
    nameOfTable e.table = e.name := by
  rw [table_eq_snakeCase h.silent, nameOfTable, String.toList_ofList,
    camelCase_snakeCase h.capital h.joined, String.ofList_toList]

end Entity

/-- **Recovery.**  Take entities whose names start with a capital and have no underscores, and whose
    tables are named by default.  The name of each can be read from that of its table, so they have
    the same table only if they have the same name.  A table name has as many underscores as there
    are capitals behind the first letter.  If the name has only letters and digits of ASCII, then
    the table name has only small letters, digits and underscores, and starts with a small
    letter. -/
theorem recovery {e f : Entity} (he : e.NamedByDefault) (hf : f.NamedByDefault) :
    Entity.nameOfTable e.table = e.name ∧
    (e.name ≠ f.name → e.table ≠ f.table) ∧
    e.table.toList.count '_' = e.name.toList.tail.countP isUppercase ∧
    ((∀ c ∈ e.name.toList, c.isAlphanum = true) →
      (∀ x ∈ e.table.toList, x.isLower = true ∨ x.isDigit = true ∨ x = '_') ∧
        ∃ x, e.table.toList.head? = some x ∧ x.isLower = true) := by
  have hchars : e.table.toList = snakeCase e.name.toList := by
    rw [Entity.table_eq_snakeCase he.silent, String.toList_ofList]
  refine ⟨he.nameOfTable_table, fun hne htable => hne ?_, ?_, fun hascii => ⟨fun x hx => ?_, ?_⟩⟩
  · calc
      e.name = Entity.nameOfTable e.table := he.nameOfTable_table.symm
      _ = Entity.nameOfTable f.table := by rw [htable]
      _ = f.name := hf.nameOfTable_table
  · rw [hchars, count_snakeCase he.joined]
  · rw [hchars] at hx
    have hsnake := isSnake_of_mem_snakeCase hascii hx
    rw [isSnake, Bool.or_eq_true, Bool.or_eq_true, beq_iff_eq, or_assoc] at hsnake
    exact hsnake
  · rw [hchars]
    exact head?_snakeCase he.capital hascii

/-- An entity with capitals in a row, whose attribute names the key and not the table. -/
def serverLog : Entity where
  name := "HTTPServerLog2"
  attributes := [⟨"model", some [("pk", .text "uuid")]⟩]
  fields := []

/-- An entity whose first letter is not of ASCII. -/
def outlook : Entity where
  name := "ÀVenir"
  attributes := []
  fields := []

theorem recovery_serverLog :
    serverLog.NamedByDefault ∧ outlook.NamedByDefault ∧
    serverLog.table = "h_t_t_p_server_log2" ∧ outlook.table = "À_venir" ∧
    Entity.nameOfTable "h_t_t_p_server_log2" = "HTTPServerLog2" ∧
    Entity.nameOfTable "À_venir" = "ÀVenir" ∧
    serverLog.table ≠ outlook.table ∧
    serverLog.table.toList.count '_' = 5 ∧
    ∀ x ∈ serverLog.table.toList, x.isLower = true ∨ x.isDigit = true ∨ x = '_' := by
  have hlog : serverLog.NamedByDefault :=
    ⟨⟨'H', by decide +kernel⟩, by decide +kernel, fun a ha => by
      obtain rfl := List.mem_singleton.1 ha
      refine .entries "model" fun entry hentry => ?_
      obtain rfl := List.mem_singleton.1 hentry
      show "pk" ≠ "table"
      decide⟩
  have houtlook : outlook.NamedByDefault :=
    ⟨⟨'À', by decide +kernel⟩, by decide +kernel, List.forall_mem_nil _⟩
  have htable : serverLog.table = "h_t_t_p_server_log2" := by decide +kernel
  have htable' : outlook.table = "À_venir" := by decide +kernel
  have hletters : serverLog.name.toList.all Char.isAlphanum = true := by decide +kernel
  obtain ⟨hname, hne, hcount, hascii⟩ := recovery hlog houtlook
  obtain ⟨hname', _⟩ := recovery houtlook hlog
  refine ⟨hlog, houtlook, htable, htable', htable ▸ hname, htable' ▸ hname',
    hne (by decide), ?_, (hascii (List.all_eq_true.1 hletters)).1⟩
  rw [hcount]
  decide +kernel

end SqlBuilder
