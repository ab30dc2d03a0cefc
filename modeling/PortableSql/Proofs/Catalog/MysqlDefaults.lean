import PortableSql.Proofs.Catalog.MysqlTypes
import PortableSql.Proofs.Catalog.RowDefaults
import PortableSql.Proofs.CatalogDefault.Unchanged

namespace PortableSql.Mysql

open Chars CatalogDefault Dialect NativeType

/-- Whatever its length, a type of varying characters is that of strings. -/
theorem readType_varchar (n : Nat) : (readType s!"varchar({n})").type = .string := by
  have htext : s!"varchar({n})".toList =
      "varchar".toList ++ '(' :: (Nat.toDigits 10 n ++ [')']) := by
    simp [toString]
  have hword : IsTypeWord "varchar".toList := by decide
  have hread := ofText_of_arguments hword htext toNat_lt_of_mem_digits false
  change ofText s!"varchar({n})" = _ at hread
  have hmeaning : meaning typeRules (String.ofList ("varchar".toList.map Char.toLower)) =
      (.string, false, none) := by decide
  rw [readType_of_first hword ⟨_, htext.symm⟩ (by decide), toColumn, hread]
  simp only [hmeaning]
  rfl

theorem column_type (name type : String) (row : Row) :
    (column name type row).type = (readType type).type := by
  have hmark := Column.markGenerated_type (readType type)
    ((row.text? "EXTRA").any fun extra =>
      Chars.includes "auto_increment".toList (Chars.lower extra.toList))
  exact (Column.withCatalog_type _ _ _).trans hmark

/-- The default of a string column comes back as it is stored if and only if it has no white space
at its ends, no parentheses around it and no cast at its end. -/
theorem foldColumn_varchar_default_iff (t : Table) {row : Row} {name s : String} {n : Nat}
    (hname : row.text? "COLUMN_NAME" = some name)
    (htype : row.text? "COLUMN_TYPE" = some s!"varchar({n})")
    (hdefault : row.text? "COLUMN_DEFAULT" = some s) (hne : s ≠ "")
    (hquote : s.toList.head? ≠ some '\'') (hnational : ¬ ['N', '\''] <+: s.toList)
    (hnull : asciiLower (trim s.toList) ≠ "null".toList)
    (hsequence : startsWith "nextval(".toList (lower (trim s.toList)) = false) :
    (mysql.foldColumn t row).error? = none ∧
      ∃ c, (mysql.foldColumn t row).table.column? name = some c ∧ c.type = .string ∧
        (c.default = some (.str s) ↔ Unchanged s.toList) := by
  have hdescribed : mysql.describedColumn? row = some (column name s!"varchar({n})" row) := by
    simp only [describedColumn?, nameKey, hname, htype, Option.bind_some, Option.map_some]
  have hfold : mysql.foldColumn t row =
      { table := t.addColumn (column name s!"varchar({n})" row) } := by
    change foldColumn t row = _
    simp only [foldColumn, Table.withText, hname, htype]
  have hstring : (column name s!"varchar({n})" row).type = .string :=
    (column_type name _ row).trans (readType_varchar n)
  have hread := describedColumn?_default hdescribed
  rw [hstring] at hread
  rw [hfold]
  refine ⟨rfl, _, t.column?_addColumn (column name s!"varchar({n})" row), hstring, ?_⟩
  rw [hread, ← ofCatalog_eq_value_iff hsequence hnull hne (unquote?_eq_none hquote hnational)]
  change ((CatalogDefault.ofCatalog? (row.text? "COLUMN_DEFAULT")).columnValue? .string = _) ↔ _
  rw [hdefault, ofCatalog?]
  cases ofCatalog s with
  | absent | generated => simp [columnValue?]
  | value text => simp [columnValue?, parse]

/-- Parentheses at both ends that do not belong together, and a cast before a quote, are kept. -/
theorem foldColumn_varchar_default_iff_marks :
    let s := "(a) b::c's (d)"
    let row : Row :=
      [("COLUMN_NAME", .str "a"), ("COLUMN_TYPE", .str "varchar(20)"),
       ("IS_NULLABLE", .str "NO"), ("COLUMN_DEFAULT", .str s)]
    (mysql.foldColumn { name := "t" } row).error? = none ∧
      ∃ c, (mysql.foldColumn { name := "t" } row).table.column? "a" = some c ∧
        c.type = .string ∧ c.default = some (.str s) := by
  intro s row
  have hname : row.text? "COLUMN_NAME" = some "a" := by decide +kernel
  have htype : row.text? "COLUMN_TYPE" = some s!"varchar({20})" := by decide +kernel
  have hdefault : row.text? "COLUMN_DEFAULT" = some s := by decide +kernel
  obtain ⟨herror, c, hcolumn, hstring, hread⟩ := foldColumn_varchar_default_iff { name := "t" }
    hname htype hdefault (by decide +kernel) (by decide +kernel) (by decide +kernel)
    (by decide +kernel) (by decide +kernel)
  have htrim : trim s.toList = s.toList := by decide +kernel
  have hparens : ¬ Enclosed s.toList := (stripParens_eq_self_iff htrim).mp (by decide +kernel)
  have hcast := stripCast_eq_self_iff.mp (by decide +kernel : stripCast s.toList = s.toList)
  exact ⟨herror, c, hcolumn, hstring, hread.mpr ⟨htrim, hparens, hcast⟩⟩

/-- Parentheses, what follows two colons, and a space of a default are lost. -/
theorem foldColumn_varchar_default_stripped :
    let default? (s : String) : Option Json :=
      let row : Row :=
        [("COLUMN_NAME", .str "a"), ("COLUMN_TYPE", .str "varchar(20)"),
         ("IS_NULLABLE", .str "NO"), ("COLUMN_DEFAULT", .str s)]
      ((mysql.foldColumn { name := "t" } row).table.column? "a").bind Column.default
    default? "(draft)" = some (.str "draft") ∧ default? "std::string" = some (.str "std") ∧
      default? " x" = some (.str "x") :=
  ⟨rfl, rfl, rfl⟩

end PortableSql.Mysql
