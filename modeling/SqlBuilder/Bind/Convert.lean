import SqlBuilder.Bind.Basic

namespace SqlBuilder

open Numeral

/-!
# Scalars from other types

* `ToBind` — types whose values can be bound. Integers without a kind of their own take the next
  wider one, so that no value is lost; a missing value is null.
-/

/-- The values of `α` can be bound. -/
class ToBind (α : Type) where
  /-- The scalar for a value. -/
  toBind : α → Bind

export ToBind (toBind)

instance : ToBind Bind := ⟨id⟩
instance : ToBind String := ⟨.text⟩
instance : ToBind Int64 := ⟨.int64⟩
instance : ToBind Int32 := ⟨.int32⟩
instance : ToBind Int16 := ⟨.int16⟩
instance : ToBind Int8 := ⟨fun i => .int16 i.toInt16⟩
instance : ToBind UInt8 := ⟨fun n => .int16 (Int16.ofNat n.toNat)⟩
instance : ToBind UInt16 := ⟨fun n => .int32 (Int32.ofNat n.toNat)⟩
instance : ToBind UInt32 := ⟨fun n => .int64 (Int64.ofNat n.toNat)⟩
instance : ToBind Binary64 := ⟨.float64⟩
instance : ToBind Binary32 := ⟨.float32⟩
instance : ToBind Bool := ⟨.bool⟩
instance : ToBind (List UInt8) := ⟨.bytes⟩
instance : ToBind DateTime := ⟨.dateTime⟩
instance {α : Type} [ToBind α] : ToBind (Option α) := ⟨fun o => (o.map toBind).getD .null⟩

end SqlBuilder
