import SqlBuilder.Proofs.OwnCodec
import SqlBuilder.Proofs.Rounding

namespace SqlBuilder

open Numeral

/-!
# Bound values and their tagged text

What is said here holds of all libraries that write and read bound values as trees under a tag, and
dates in their usual form.

* `Json.Tagged.readable`, `Codec.parseBind?_printBind` — what is written is read back;
* `Codec.parseBind?_eq_none` — a text of a tree without a value is refused;
* `IntegerKind`, `tagged_integer` — an integer has to fit the kind it is tagged with;
* `tagged_bytes_iff` — a list of integers has to hold bytes only;
* `tags`, `eq_of_tagged` — a tree has exactly one of the tags;
* `tagging` — what is written is read back, and nothing else is read.
-/

variable {c : Codec}

/-! ### Writing and reading back -/

/-- The text that is written for an ordinary date is read as the date. -/
theorem Json.Tagged.readable {j : Json} {b : Bind}
    (h : j.Tagged (fun s d => c.dateText d = s) b) (hdates : c.IsoDates) (hb : b.Exact) :
    j.Tagged (fun s d => c.date? s = some d) b := by
  cases h with
  | null => exact .null
  | nullMember => exact .nullMember
  | text s => exact .text s
  | int64 hk => exact .int64 hk
  | int32 hk => exact .int32 hk
  | int16 hk => exact .int16 hk
  | float64 n x => exact .float64 n x
  | float32 n x => exact .float32 n x
  | bool b => exact .bool b
  | bytes hitems => exact .bytes hitems
  | @dateTime s d hd =>
    have htext : d.IsText s := by
      rw [← hd, hdates.written d hb]
      exact DateTime.isText_text hb
    exact .dateTime (hdates.read s d hb htext)

namespace Codec

/-- Reading undoes writing. -/
theorem parseBind?_printBind (htagged : c.TaggedForm) (hdates : c.IsoDates) {b : Bind}
    (hb : b.Exact) : c.parseBind? (c.printBind b) = some b := by
  obtain ⟨j, hj, hprint⟩ := htagged.written b hb
  have htext : Json.IsText c.float (c.printBind b) j := by
    rw [hprint]
    exact Json.isText_print (hj.integral hb)
  exact htagged.read _ j b htext hb (hj.readable hdates hb)

/-- A text of a tree is refused if the tree is no value under its tag. -/
theorem parseBind?_eq_none (htagged : c.TaggedForm) {s : String} {j : Json}
    (hs : Json.IsText c.float s j) (h : ∀ b, ¬j.Tagged (fun s d => c.date? s = some d) b) :
    c.parseBind? s = none := by
  rw [Option.eq_none_iff_forall_ne_some]
  exact fun b hb => h b (htagged.tagged s j b hs hb)

end Codec

namespace Bind

/-! ### Contents that do not fit -/

/-- A kind of integers: its tag, and the range from `low` up to below `high`. -/
structure IntegerKind where
  tag : String
  low : Int
  high : Int
  deriving DecidableEq

/-- The kinds there are. -/
def integerKinds : List IntegerKind :=
  [⟨"Int64", -9223372036854775808, 9223372036854775808⟩, ⟨"Int32", -2147483648, 2147483648⟩,
   ⟨"Int16", -32768, 32768⟩]

section

variable {float : List Char → Binary64} {date : String → DateTime → Prop} {kind : IntegerKind}
  {i : Int}

/-- Under the tag of a kind an integer of its range is the value with this integer. -/
theorem exists_tagged_integer (hkind : kind ∈ integerKinds) (hi : kind.low ≤ i ∧ i < kind.high) :
    ∃ b : Bind, b.Exact ∧ b.Denotes i ∧
      (Json.object [(kind.tag, .ofInteger float i)]).Tagged date b := by
  simp only [integerKinds, List.mem_cons, List.not_mem_nil, or_false] at hkind
  have hrange : -9223372036854775808 ≤ i ∧ i < 18446744073709551616 := by
    rcases hkind with rfl | rfl | rfl
    all_goals dsimp only at hi; omega
  rw [Json.ofInteger, dif_pos hrange]
  rcases hkind with rfl | rfl | rfl
  · have hexact := Int64.toInt_ofInt_of_le hi.1 hi.2
    exact ⟨.int64 (Int64.ofInt i), trivial, hexact, .int64 hexact⟩
  · have hexact := Int32.toInt_ofInt_of_le hi.1 hi.2
    exact ⟨.int32 (Int32.ofInt i), trivial, hexact, .int32 hexact⟩
  · have hexact := Int16.toInt_ofInt_of_le hi.1 hi.2
    exact ⟨.int16 (Int16.ofInt i), trivial, hexact, .int16 hexact⟩

/-- A number under a tag is a float or an integer in the range of a kind. -/
theorem of_tagged_number {tag : String} {n : Json.Number} {b : Bind}
    (h : (Json.object [(tag, .number n)]).Tagged date b) :
    tag ∈ ["Float64", "Float32"] ∨ ∃ kind ∈ integerKinds, tag = kind.tag ∧
      ∃ i range, n = .integer i range ∧ kind.low ≤ i ∧ i < kind.high := by
  cases h with
  | @int64 k _ range hk =>
    refine .inr ⟨_, List.mem_cons_self, rfl, _, range, rfl, ?_⟩
    rw [← hk]
    exact ⟨k.le_toInt, k.toInt_lt⟩
  | @int32 k _ range hk =>
    refine .inr ⟨_, List.mem_cons_of_mem _ List.mem_cons_self, rfl, _, range, rfl, ?_⟩
    rw [← hk]
    exact ⟨k.le_toInt, k.toInt_lt⟩
  | @int16 k _ range hk =>
    refine .inr ⟨_, List.mem_cons_of_mem _ (List.mem_cons_of_mem _ List.mem_cons_self), rfl, _,
      range, rfl, ?_⟩
    rw [← hk]
    exact ⟨k.le_toInt, k.toInt_lt⟩
  | float64 | float32 => exact .inl (by simp)

/-- No other integer is a value under the tag. -/
theorem range_of_tagged_integer (hkind : kind ∈ integerKinds) {b : Bind}
    (h : (Json.object [(kind.tag, .ofInteger float i)]).Tagged date b) :
    kind.low ≤ i ∧ i < kind.high := by
  have hfloat : ∀ kind ∈ integerKinds, kind.tag ∉ ["Float64", "Float32"] := by decide
  have htags : ∀ kind ∈ integerKinds, ∀ other ∈ integerKinds, kind.tag = other.tag →
      kind = other := by decide
  have hnumber : ∃ n, Json.ofInteger float i = .number n ∧
      ∀ k range, n = .integer k range → k = i := by
    rw [Json.ofInteger]
    split
    · exact ⟨_, rfl, fun k range hk => (Json.Number.integer.inj hk).symm⟩
    · exact ⟨_, rfl, fun k range hk => by cases hk⟩
  obtain ⟨n, hn, hinteger⟩ := hnumber
  rw [hn] at h
  obtain hother | ⟨other, hother, htag, k, range, hk, hrange⟩ := of_tagged_number h
  · exact absurd hother (hfloat kind hkind)
  · obtain rfl := htags kind hkind other hother htag
    obtain rfl := hinteger k range hk
    exact hrange

theorem ofByte_eq_ofInteger_iff {b : UInt8} :
    Json.ofByte b = .ofInteger float i ↔ (b.toNat : Int) = i := by
  have hb := b.toNat_lt
  rw [Json.ofByte, Json.ofInteger]
  split
  · rw [Json.number.injEq, Json.Number.integer.injEq]
  · rename_i hi
    refine iff_of_false (fun h => ?_) (by omega)
    cases Json.number.inj h

/-- Integers are bytes under the tag exactly if they are the numbers of bytes. -/
theorem tagged_bytes_iff {is : List Int} {b : Bind} :
    (Json.object [("Bytes", .array (is.map (.ofInteger float)))]).Tagged date b ↔
      ∃ bs, b = .bytes bs ∧ bs.map (fun b => (b.toNat : Int)) = is := by
  have hitems : ∀ (bs : List UInt8) (is : List Int),
      bs.map Json.ofByte = is.map (.ofInteger float) ↔ bs.map (fun b => (b.toNat : Int)) = is := by
    intro bs
    induction bs with
    | nil =>
      intro is
      cases is with
      | nil => exact iff_of_true rfl rfl
      | cons i is => exact iff_of_false nofun nofun
    | cons b bs ih =>
      intro is
      cases is with
      | nil => exact iff_of_false nofun nofun
      | cons i is =>
        rw [List.map_cons, List.map_cons, List.map_cons, List.cons_eq_cons, List.cons_eq_cons, ih,
          ofByte_eq_ofInteger_iff]
  have hbytes : ∀ {tag : String} {items : List Json},
      (Json.object [(tag, .array items)]).Tagged date b →
        ∃ bs, b = .bytes bs ∧ bs.map Json.ofByte = items := by
    intro tag items h
    cases h with
    | bytes h => exact ⟨_, rfl, h⟩
  constructor
  · intro h
    obtain ⟨bs, hb, hbs⟩ := hbytes h
    exact ⟨bs, hb, (hitems bs is).1 hbs⟩
  · rintro ⟨bs, rfl, h⟩
    exact .bytes ((hitems bs is).2 h)

end

/-- Integers below 256 are the numbers of bytes. -/
theorem exists_bytes_iff {is : List Int} :
    (∃ bs : List UInt8, bs.map (fun b => (b.toNat : Int)) = is) ↔ ∀ i ∈ is, 0 ≤ i ∧ i < 256 := by
  constructor
  · rintro ⟨bs, rfl⟩ i hi
    obtain ⟨b, _, rfl⟩ := List.mem_map.1 hi
    have hb := b.toNat_lt
    omega
  · intro hall
    refine ⟨is.map fun i => UInt8.ofNat i.toNat, ?_⟩
    rw [List.map_map]
    exact (List.map_congr_left fun i hi => toNat_byteOfInt (hall i hi)).trans (List.map_id is)

/-- The tags. -/
def tags : List String :=
  ["String", "Int64", "Int32", "Int16", "Float64", "Float32", "Bool", "Bytes", "DateTime", "Null"]

/-- A value under its tag is the text of null or an object with one of the tags. -/
theorem eq_of_tagged {date : String → DateTime → Prop} {j : Json} {b : Bind}
    (h : j.Tagged date b) :
    j = .string "Null" ∨ ∃ tag ∈ tags, ∃ content, j = .object [(tag, content)] := by
  cases h with
  | null => exact .inl rfl
  | _ => exact .inr ⟨_, by simp [tags], _, rfl⟩

end Bind

/-- **Tagging.**  A value that is no float is read back from its text, so two such values do not
    share a text.  An integer is read under the tag of a kind exactly if it is in the range of the
    kind, and then as itself, whatever its size and however its text is spaced.  Integers are read
    as bytes exactly if all of them are below 256.  A text without tag, with several tags or with
    an unknown one is refused. -/
theorem tagging (c : Codec) (htagged : c.TaggedForm) (hdates : c.IsoDates) :
    (∀ b : Bind, b.Exact → c.parseBind? (c.printBind b) = some b) ∧
    (∀ b b' : Bind, b.Exact → b'.Exact → c.printBind b = c.printBind b' → b = b') ∧
    (∀ kind ∈ Bind.integerKinds, ∀ (i : Int) (s : String),
      Json.IsText c.float s (.object [(kind.tag, .ofInteger c.float i)]) →
        (kind.low ≤ i ∧ i < kind.high → ∃ b, c.parseBind? s = some b ∧ b.Denotes i) ∧
        (¬(kind.low ≤ i ∧ i < kind.high) → c.parseBind? s = none)) ∧
    (∀ (is : List Int) (s : String),
      Json.IsText c.float s (.object [("Bytes", .array (is.map (.ofInteger c.float)))]) →
        ((∀ i ∈ is, 0 ≤ i ∧ i < 256) → ∃ bs : List UInt8, c.parseBind? s = some (.bytes bs) ∧
          bs.map (fun b => (b.toNat : Int)) = is) ∧
        ((∃ i ∈ is, ¬(0 ≤ i ∧ i < 256)) → c.parseBind? s = none)) ∧
    ∀ (s : String) (j : Json), Json.IsText c.float s j → j ≠ .string "Null" →
      (∀ tag ∈ Bind.tags, ∀ content, j ≠ .object [(tag, content)]) → c.parseBind? s = none := by
  have hback : ∀ b : Bind, b.Exact → c.parseBind? (c.printBind b) = some b :=
    fun b => Codec.parseBind?_printBind htagged hdates
  refine ⟨hback, fun b b' hb hb' h => ?_, fun kind hkind i s hs => ⟨fun hi => ?_, fun hi => ?_⟩,
    fun is s hs => ⟨fun hall => ?_, ?_⟩, fun s j hs hnull hother => ?_⟩
  · have hread := hback b hb
    rw [h, hback b' hb'] at hread
    exact (Option.some.inj hread).symm
  · obtain ⟨b, hb, hdenotes, htree⟩ := Bind.exists_tagged_integer hkind hi
    exact ⟨b, htagged.read s _ b hs hb htree, hdenotes⟩
  · exact Codec.parseBind?_eq_none htagged hs fun b hb =>
      hi (Bind.range_of_tagged_integer hkind hb)
  · obtain ⟨bs, hbs⟩ := Bind.exists_bytes_iff.2 hall
    exact ⟨bs, htagged.read s _ _ hs trivial (Bind.tagged_bytes_iff.2 ⟨bs, rfl, hbs⟩), hbs⟩
  · rintro ⟨i, hi, hbyte⟩
    refine Codec.parseBind?_eq_none htagged hs fun b hb => ?_
    obtain ⟨bs, _, hbs⟩ := Bind.tagged_bytes_iff.1 hb
    exact hbyte (Bind.exists_bytes_iff.1 ⟨bs, hbs⟩ i hi)
  · refine Codec.parseBind?_eq_none htagged hs fun b hb => ?_
    obtain rfl | ⟨tag, htag, content, rfl⟩ := Bind.eq_of_tagged hb
    · exact hnull rfl
    · exact hother tag htag content rfl

/-- The last nanosecond of a leap day. -/
def leapDay : DateTime :=
  ⟨2024, 2, 29, 23, 59, 59, 999999999, by decide, by decide, by decide⟩

/-- Texts with an integer too large, with a byte too large and with a tag given twice, and values
    that are read back. -/
theorem tagging_overfullTexts :
    Bind.parse? "\t\x7b \"Int16\" :40000\x7d" = none ∧
    Bind.parse? "\x7b\"Int64\":100000000000000000000\x7d" = none ∧
    Bind.parse? "\x7b\"Bytes\":[0,256]\x7d" = none ∧
    Bind.parse? "\x7b\"Bool\":true,\"Bool\":true\x7d" = none ∧
    Bind.parse? (Bind.text "\"\\\x01\u2028😀").print = some (.text "\"\\\x01\u2028😀") ∧
    Bind.parse? (Bind.dateTime leapDay).print = some (.dateTime leapDay) := by
  have hown := tagging Codec.own Codec.own_taggedForm Codec.own_isoDates
  dsimp only [Codec.own] at hown
  obtain ⟨hback, _, hinteger, hbytes, hother⟩ := hown
  have hspace : Json.Blank [' '] := List.forall_mem_singleton.2 rfl
  have htab : Json.Blank ['\t'] := List.forall_mem_singleton.2 rfl
  have hnumber := Json.spells_ofInteger Json.floatOf
  have htrue : Json.Spells Json.floatOf _ (.value (.bool true)) := .bool_true
  have hbool := htrue.bareMember "Bool"
  have isText : ∀ {text : List Char} {j : Json}, Json.Spells Json.floatOf text (.padded j) →
      ∀ s : String, s.toList = text → Json.IsText Json.floatOf s j := by
    rintro text j h s rfl
    exact h
  refine ⟨?_, ?_, ?_, ?_, hback _ trivial, hback _ ⟨by decide, by decide⟩⟩
  · have hmember := Json.Spells.member hspace (Json.quotedText_stringText "Int16") hspace
      (hnumber 40000).bare
    have htext := isText (.padded htab (.object (.lastMember hmember)) Json.blank_nil)
      "\t\x7b \"Int16\" :40000\x7d" (by decide +kernel)
    exact (hinteger ⟨"Int16", -32768, 32768⟩ (by decide) 40000 _ htext).2 (by decide)
  · have hmember := (hnumber 100000000000000000000).bareMember "Int64"
    have htext := isText (Json.Spells.bare (.object (.lastMember hmember)))
      "\x7b\"Int64\":100000000000000000000\x7d" (by decide +kernel)
    exact (hinteger ⟨"Int64", -9223372036854775808, 9223372036854775808⟩ (by decide) _ _ htext).2
      (by decide)
  · have hitems := Json.Spells.nextItem (hnumber 0).bare (.lastItem (hnumber 256).bare)
    have hmember := Json.Spells.bareMember "Bytes" (.array hitems)
    have htext := isText (Json.Spells.bare (.object (.lastMember hmember)))
      "\x7b\"Bytes\":[0,256]\x7d" (by decide +kernel)
    exact (hbytes [0, 256] _ htext).2 ⟨256, by decide, by decide⟩
  · have htext := isText (Json.Spells.bare (.object (.nextMember hbool (.lastMember hbool))))
      "\x7b\"Bool\":true,\"Bool\":true\x7d" (by decide +kernel)
    exact hother _ _ htext nofun fun tag _ content h => by simp at h

end SqlBuilder
