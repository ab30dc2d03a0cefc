import PortableSql.Catalog.TypeRules
import PortableSql.Dialect.Definition
import PortableSql.Proofs.NativeType

namespace PortableSql

open Dialect

/-- A decimal without a scale is written with the scale zero. -/
theorem Dialect.decimalTypeSql_of_length {c : Column} {n : UInt32} (h : c.length = some n) :
    decimalTypeSql c = s!"DECIMAL({n},{c.precision.getD 0})" := by
  unfold decimalTypeSql
  rw [h]
  cases c.precision with
  | some scale => rfl
  | none =>
    change "DECIMAL(" ++ toString n ++ ",0)" = "DECIMAL(" ++ toString n ++ "," ++ "0" ++ ")"
    rw [String.append_assoc, String.append_assoc, String.append_assoc]
    rfl

namespace NativeType

theorem toNat_lt_of_mem_digits {n : Nat} : ∀ c ∈ Nat.toDigits 10 n, c.toNat < 65 := by
  intro c hc
  have := Numeral.toNat_of_isDigit (Numeral.isDigit_of_mem_digits hc)
  omega

theorem toList_sized (name : String) (n : UInt32) :
    (sized name (some n)).toList = name.toList ++ '(' :: (Nat.toDigits 10 n.toNat ++ [')']) := by
  simp [sized, toString]

theorem toList_decimal (n scale : UInt32) :
    s!"DECIMAL({n},{scale})".toList = "DECIMAL".toList ++
      '(' :: ((Nat.toDigits 10 n.toNat ++ ',' :: Nat.toDigits 10 scale.toNat) ++ [')']) := by
  simp [toString]

theorem ofText_sized {name : String} (hname : IsTypeWord name.toList) (n : UInt32)
    (unsigned : Bool) :
    ofText (markUnsigned unsigned (sized name (some n))) =
      { base := String.ofList (name.toList.map Char.toLower)
        length := some n
        precision := none
        unsigned } := by
  rw [ofText_of_arguments hname (toList_sized name n) toNat_lt_of_mem_digits, numbers_digits]
  rfl

theorem ofText_decimal (n scale : UInt32) (unsigned : Bool) :
    ofText (markUnsigned unsigned s!"DECIMAL({n},{scale})") =
      { base := "decimal", length := some n, precision := some scale, unsigned } := by
  have harguments : ∀ c ∈ Nat.toDigits 10 n.toNat ++ ',' :: Nat.toDigits 10 scale.toNat,
      c.toNat < 65 := by
    intro c hc
    rcases List.mem_append.mp hc with hc | hc
    · exact toNat_lt_of_mem_digits c hc
    · rcases List.mem_cons.mp hc with rfl | hc
      · decide
      · exact toNat_lt_of_mem_digits c hc
  rw [ofText_of_arguments (by decide) (toList_decimal n scale) harguments, numbers_append,
    numbers_digits]
  rfl

variable {rules : List TypeRule}

/-- A string or binary type with a length, which tells identifiers from other fixed strings. -/
theorem toColumn_sized (name : String) (fixed : Bool) (hname : IsTypeWord name.toList)
    {type : ColumnType} (htype : type = .string ∨ type = .binary)
    (hmeaning : meaning rules (String.ofList (name.toList.map Char.toLower)) = (type, fixed, none))
    (n : UInt32) :
    toColumn rules true (sized name (some n)) =
      charsToUuid { Column.ofType type with length := some n, fixed } := by
  have hread := ofText_sized hname n false
  change ofText (sized name (some n)) = _ at hread
  rw [toColumn, hread]
  simp only [hmeaning]
  rcases htype with rfl | rfl <;> rfl

theorem toColumn_float
    (hmeaning : meaning rules (String.ofList ("FLOAT".toList.map Char.toLower)) =
      (.float, false, none))
    (n : UInt32) (unsigned : Bool) :
    toColumn rules true (markUnsigned unsigned (sized "FLOAT" (some n))) =
      { Column.ofType .float with precision := some n, unsigned } := by
  rw [toColumn, ofText_sized (by decide)]
  simp only [hmeaning]
  rfl

theorem toColumn_decimal (hmeaning : meaning rules "decimal" = (.decimal, false, none))
    (n scale : UInt32) (unsigned : Bool) :
    toColumn rules true (markUnsigned unsigned s!"DECIMAL({n},{scale})") =
      { Column.ofType .decimal with length := some n, precision := some scale, unsigned } := by
  rw [toColumn, ofText_decimal]
  simp only [hmeaning]
  rfl

end NativeType

end PortableSql
