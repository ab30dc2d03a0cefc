/-- A name and its value, as texts, of a query that is written as a form. -/
abbrev PortableSql.Form.Pair := String × String

namespace PortableSql

/-- What is needed of a library for URLs. -/
class UrlLibrary (υ : Type) where
  /-- Reads a URL, or says what is wrong with the text. -/
  read : List Char → Except String υ
  text : υ → List Char
  scheme : υ → List Char
  /-- The path as the text has it. -/
  path : υ → List Char
  queryPairs : υ → List Form.Pair
  withoutQuery : υ → υ
  /-- The URL with the given pairs as its query. -/
  withQueryPairs : υ → List Form.Pair → υ

end PortableSql
