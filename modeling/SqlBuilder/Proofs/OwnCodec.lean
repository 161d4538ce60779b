import SqlBuilder.Codec
import SqlBuilder.Proofs.DateText
import SqlBuilder.Proofs.JsonReading

namespace SqlBuilder

open Numeral

/-!
# The functions of this library are such a codec

What theorems rely on of the libraries for JSON and for dates holds of the functions that stand for
them here.

* `Codec.own_compact`, `Codec.own_readsJson` — values are written compactly and read back;
* `Bind.tagged_of_ofJson?`, `Bind.ofJson?_of_tagged` — trees are read as the value under their tag;
* `Bind.exists_tagged` — such a tree is written for every exact value;
* `Codec.own_taggedForm`, `Codec.own_isoDates` — bound values and dates.
-/

theorem Codec.own_compact : Codec.own.Compact := by
  intro j hsorted _
  exact congrArg Json.print (Json.canonical_eq_self hsorted)

theorem Codec.own_readsJson : Codec.own.ReadsJson := by
  intro s j hs hsorted hintegral
  have hread : Codec.own.parse? s = if j.depth ≤ Json.maxDepth then some j else none := by
    have hparse : Codec.own.parse? s = (Json.parse? s).map Json.canonical := rfl
    rw [hparse, Json.parse?_of_integral hs hintegral]
    split
    · rw [Option.map_some, Json.canonical_eq_self hsorted]
    · rfl
  have hlimit : (∀ n ∈ Codec.own.limit, j.depth ≤ n) ↔ j.depth ≤ Json.maxDepth := by
    simp [Codec.own]
  rw [hread, hlimit]
  simp

theorem Codec.own_isoDates : Codec.own.IsoDates where
  written _ _ := rfl
  read _ _ _ := DateTime.parse?_isText

namespace Bind

/-! ### Reading a tree -/

theorem integerIn?_eq_some_iff {low high i : Int} {j : Json} :
    integerIn? low high j = some i ↔
      (∃ range, j = .number (.integer i range)) ∧ low ≤ i ∧ i < high := by
  constructor
  · intro h
    rw [integerIn?.eq_def] at h
    split at h
    · split at h
      · rename_i range hk
        cases h
        exact ⟨⟨range, rfl⟩, hk⟩
      · cases h
    · cases h
  · rintro ⟨⟨range, rfl⟩, hi⟩
    exact if_pos hi

theorem text?_eq_some_iff {j : Json} {s : String} : text? j = some s ↔ j = .string s := by
  cases j <;> simp [text?]

theorem bool?_eq_some_iff {j : Json} {b : Bool} : bool? j = some b ↔ j = .bool b := by
  cases j <;> simp [bool?]

/-- Only numbers are read as doubles. -/
theorem number_of_double? {j : Json} {x : Binary64} (h : double? j = some x) :
    ∃ n, j = .number n := by
  cases j with
  | number n => exact ⟨n, rfl⟩
  | _ => cases h

/-- Only numbers are read as singles. -/
theorem number_of_single? {j : Json} {x : Binary32} (h : single? j = some x) :
    ∃ n, j = .number n := by
  cases j with
  | number n => exact ⟨n, rfl⟩
  | _ => cases h

/-- A byte holds the integers below 256. -/
theorem toNat_byteOfInt {i : Int} (h : 0 ≤ i ∧ i < 256) :
    ((UInt8.ofNat i.toNat).toNat : Int) = i := by
  rw [UInt8.toNat_ofNat_of_lt' (by rw [UInt8.size]; omega)]
  omega

theorem byte?_eq_some_iff {j : Json} {b : UInt8} : byte? j = some b ↔ Json.ofByte b = j := by
  rw [byte?, Option.map_eq_some_iff, Json.ofByte]
  constructor
  · rintro ⟨i, hi, rfl⟩
    obtain ⟨⟨range, rfl⟩, hbyte⟩ := integerIn?_eq_some_iff.1 hi
    simp only [toNat_byteOfInt hbyte]
  · rintro rfl
    have hb := b.toNat_lt
    refine ⟨b.toNat, integerIn?_eq_some_iff.2 ⟨⟨_, rfl⟩, by omega, by omega⟩, ?_⟩
    rw [Int.toNat_natCast, UInt8.ofNat_toNat]

theorem mapM_byte?_eq_some_iff {items : List Json} {bs : List UInt8} :
    items.mapM byte? = some bs ↔ bs.map Json.ofByte = items := by
  induction items generalizing bs with
  | nil => cases bs <;> simp
  | cons j js ih =>
    simp only [List.mapM_cons, Option.bind_eq_bind, Option.bind_eq_some_iff, Option.pure_def,
      Option.some.injEq, ih, byte?_eq_some_iff]
    constructor
    · rintro ⟨b, rfl, bs, rfl, rfl⟩
      rfl
    · intro h
      obtain ⟨b, bs, rfl, hb, hbs⟩ := List.map_eq_cons_iff.1 h
      exact ⟨b, hb, bs, hbs, rfl⟩

theorem bytes?_eq_some_iff {j : Json} {bs : List UInt8} :
    bytes? j = some bs ↔ j = .array (bs.map Json.ofByte) := by
  cases j <;> simp [bytes?, mapM_byte?_eq_some_iff, eq_comm]

/-- An integer of a kind is the integer that was read. -/
theorem map_integerIn?_eq_some_iff {low high : Int} {j : Json} {f : Int → Bind} {b : Bind} :
    (integerIn? low high j).map f = some b ↔
      ∃ i range, j = .number (.integer i range) ∧ (low ≤ i ∧ i < high) ∧ f i = b := by
  simp only [Option.map_eq_some_iff, integerIn?_eq_some_iff]
  constructor
  · rintro ⟨i, ⟨⟨range, hj⟩, hi⟩, hb⟩
    exact ⟨i, range, hj, hi, hb⟩
  · rintro ⟨i, range, hj, hi, hb⟩
    exact ⟨i, ⟨⟨range, hj⟩, hi⟩, hb⟩

/-- A date that a text is read as. -/
def ReadDate (s : String) (d : DateTime) : Prop := DateTime.parse? s = some d

/-- A tree is read as no other value than the one under its tag. -/
theorem tagged_of_ofJson? {j : Json} {b : Bind} (h : ofJson? j = some b) :
    j.Tagged ReadDate b := by
  rw [ofJson?.eq_def] at h
  split at h
  · cases h
    exact .null
  · rw [ofMember?.eq_def] at h
    split at h
    · obtain ⟨s, hs, rfl⟩ := Option.map_eq_some_iff.1 h
      obtain rfl := text?_eq_some_iff.1 hs
      exact .text s
    · obtain ⟨i, range, rfl, hi, rfl⟩ := map_integerIn?_eq_some_iff.1 h
      exact .int64 (Int64.toInt_ofInt_of_le hi.1 hi.2)
    · obtain ⟨i, range, rfl, hi, rfl⟩ := map_integerIn?_eq_some_iff.1 h
      exact .int32 (Int32.toInt_ofInt_of_le hi.1 hi.2)
    · obtain ⟨i, range, rfl, hi, rfl⟩ := map_integerIn?_eq_some_iff.1 h
      exact .int16 (Int16.toInt_ofInt_of_le hi.1 hi.2)
    · obtain ⟨x, hx, rfl⟩ := Option.map_eq_some_iff.1 h
      obtain ⟨n, rfl⟩ := number_of_double? hx
      exact .float64 n x
    · obtain ⟨x, hx, rfl⟩ := Option.map_eq_some_iff.1 h
      obtain ⟨n, rfl⟩ := number_of_single? hx
      exact .float32 n x
    · obtain ⟨x, hx, rfl⟩ := Option.map_eq_some_iff.1 h
      obtain rfl := bool?_eq_some_iff.1 hx
      exact .bool x
    · obtain ⟨bs, hbs, rfl⟩ := Option.map_eq_some_iff.1 h
      obtain rfl := bytes?_eq_some_iff.1 hbs
      exact .bytes rfl
    · obtain ⟨d, hd, rfl⟩ := Option.map_eq_some_iff.1 h
      obtain ⟨s, hs, hd⟩ := Option.bind_eq_some_iff.1 hd
      obtain rfl := text?_eq_some_iff.1 hs
      exact .dateTime hd
    · split at h
      · cases h
        exact .nullMember
      · cases h
    · cases h
  · cases h

/-- The tree of an exact value is read as the value. -/
theorem ofJson?_of_tagged {j : Json} {b : Bind} (h : j.Tagged ReadDate b) (hb : b.Exact) :
    ofJson? j = some b := by
  cases h with
  | null | nullMember | text | bool => rfl
  | @int64 k i range hk =>
    have hbounds : -9223372036854775808 ≤ k.toInt ∧ k.toInt < 9223372036854775808 :=
      ⟨k.le_toInt, k.toInt_lt⟩
    exact map_integerIn?_eq_some_iff.2
      ⟨i, range, rfl, hk ▸ hbounds, by rw [← hk, Int64.ofInt_toInt]⟩
  | @int32 k i range hk =>
    have hbounds : -2147483648 ≤ k.toInt ∧ k.toInt < 2147483648 := ⟨k.le_toInt, k.toInt_lt⟩
    exact map_integerIn?_eq_some_iff.2
      ⟨i, range, rfl, hk ▸ hbounds, by rw [← hk, Int32.ofInt_toInt]⟩
  | @int16 k i range hk =>
    have hbounds : -32768 ≤ k.toInt ∧ k.toInt < 32768 := ⟨k.le_toInt, k.toInt_lt⟩
    exact map_integerIn?_eq_some_iff.2
      ⟨i, range, rfl, hk ▸ hbounds, by rw [← hk, Int16.ofInt_toInt]⟩
  | float64 _ _ | float32 _ _ => cases hb
  | bytes hitems =>
    exact Option.map_eq_some_iff.2 ⟨_, bytes?_eq_some_iff.2 (congrArg Json.array hitems.symm), rfl⟩
  | dateTime hd =>
    exact Option.map_eq_some_iff.2 ⟨_, Option.bind_eq_some_iff.2 ⟨_, rfl, hd⟩, rfl⟩

/-! ### Writing a tree -/

/-- Bytes are written as the numbers of a list. -/
theorem chars_ofByte (bs : List UInt8) :
    (Json.array (bs.map Json.ofByte)).chars = byteChars bs := by
  have hbyte : ∀ b : UInt8, (Json.ofByte b).chars = digitsOf b.toNat := by
    intro b
    rw [Json.ofByte, Json.chars, Json.Number.text, integerText, if_neg (by omega),
      Int.natAbs_natCast]
  -- Items are written with a case for the last one, and lists with commas without.
  have hitems : Json.itemChars (bs.map Json.ofByte) =
      [','].intercalate (bs.map fun b => digitsOf b.toNat) := by
    induction bs with
    | nil => rfl
    | cons b bs ih =>
      cases bs with
      | nil => simp [Json.itemChars, hbyte]
      | cons c bs =>
        have hsplit : Json.itemChars ((b :: c :: bs).map Json.ofByte) =
            (Json.ofByte b).chars ++ ',' :: Json.itemChars ((c :: bs).map Json.ofByte) := rfl
        rw [hsplit, ih, hbyte, List.map_cons, List.map_cons, List.map_cons,
          List.intercalate_cons_cons, List.append_assoc, List.singleton_append]
  rw [Json.chars, hitems, byteChars]

/-- What is written for an exact value is the text of its tree. -/
theorem exists_tagged {b : Bind} (h : b.Exact) :
    ∃ j : Json, j.Tagged (fun s d => d.text = s) b ∧ b.print = j.print := by
  have hmember : ∀ {tag : String} {j : Json} {b : Bind}, b.chars = member tag j.chars →
      b.print = (Json.object [(tag, j)]).print := by
    intro tag j b hb
    rw [print, Json.print, hb]
    simp [Json.chars, Json.memberChars, member]
  cases b with
  | float64 x => cases h
  | float32 x => cases h
  | text s => exact ⟨_, .text s, hmember rfl⟩
  | int64 k =>
    have hrange : -9223372036854775808 ≤ k.toInt ∧ k.toInt < 18446744073709551616 :=
      ⟨k.le_toInt, Int.lt_trans k.toInt_lt (by decide)⟩
    exact ⟨.object [("Int64", .number (.integer k.toInt hrange))], .int64 rfl, hmember rfl⟩
  | int32 k =>
    have hrange : -9223372036854775808 ≤ k.toInt ∧ k.toInt < 18446744073709551616 :=
      ⟨Int.le_trans (by decide) k.le_toInt, Int.lt_trans k.toInt_lt (by decide)⟩
    exact ⟨.object [("Int32", .number (.integer k.toInt hrange))], .int32 rfl, hmember rfl⟩
  | int16 k =>
    have hrange : -9223372036854775808 ≤ k.toInt ∧ k.toInt < 18446744073709551616 :=
      ⟨Int.le_trans (by decide) k.le_toInt, Int.lt_trans k.toInt_lt (by decide)⟩
    exact ⟨.object [("Int16", .number (.integer k.toInt hrange))], .int16 rfl, hmember rfl⟩
  | bool b => exact ⟨_, .bool b, hmember rfl⟩
  | bytes bs => exact ⟨_, .bytes rfl, hmember (congrArg (member "Bytes") (chars_ofByte bs).symm)⟩
  | dateTime d => exact ⟨_, .dateTime rfl, hmember rfl⟩
  | null => exact ⟨_, .null, rfl⟩

end Bind

/-- A tagged tree is not deep. -/
theorem Json.Tagged.depth_le {date : String → DateTime → Prop} {j : Json} {b : Bind}
    (h : j.Tagged date b) : j.depth ≤ 2 := by
  cases h with
  | @bytes _ bs hitems =>
    subst hitems
    have hflat : Json.itemDepth (bs.map Json.ofByte) = 0 := by
      induction bs with
      | nil => rfl
      | cons b bs ih =>
        rw [List.map_cons, Json.itemDepth, ih]
        rfl
    simp [Json.depth, Json.memberDepth, hflat]
  | _ => simp [Json.depth, Json.memberDepth]

theorem Codec.own_taggedForm : Codec.own.TaggedForm where
  written _ := Bind.exists_tagged
  read s j b hs hb h := by
    have hread := Json.parse?_of_integral hs (h.integral hb)
    rw [if_pos (Nat.le_trans h.depth_le (by decide))] at hread
    exact Option.bind_eq_some_iff.2 ⟨j, hread, Bind.ofJson?_of_tagged h hb⟩
  tagged s j b hs h := by
    obtain ⟨k, hk, hb⟩ := Option.bind_eq_some_iff.1 h
    -- The text may be refused for a float, but it is not read as another tree.
    rcases Json.parse?_isText hs with hj | hnone
    · obtain rfl := Option.some.inj (hk.symm.trans hj)
      exact Bind.tagged_of_ofJson? hb
    · cases hk.symm.trans hnone

end SqlBuilder
