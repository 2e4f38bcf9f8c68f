import DataAccess.Fault
/-!
# モデルのメタデータ

一つのモデルについて組み立てが読むすべて: 表の名前（問い合わせを持つモデルでは
その別名）、書き込み先の表、列、主キー、既定の絞り込み・整列・まとめ、検索の上限。
名前 `name` は標識の最後の `.` より後ろ。
-/

namespace DataAccess

/-- モデルのメタデータ。 -/
structure Meta where
  tag : String
  table : String
  columns : List Column
  updateTable : Option String := none
  query : Option String := none
  queryParams : List Value := []
  /-- 既定の絞り込み（条件の並びの要素）。 -/
  defaultFilter : List Value := []
  /-- 既定の整列（`order` の値）。 -/
  defaultOrder : List Value := []
  /-- 既定のまとめ。 -/
  defaultGroup : List Value := []
  /-- 宣言されたままの検索の上限（`none` なら設定に従う）。 -/
  findHardLimit : Value := .none
  /-- 宣言されたままの多対の関連の上限。 -/
  hasManyHardLimit : Value := .none
  /-- 列ごとの、宣言されたままの主キーの印と型。 -/
  declared : List (Value × Value) := []
  /-- 宣言された関連の名前（宣言の順）。 -/
  relations : List String := []
  deriving Inhabited

namespace Meta

/-- 文の中で使う短い名前（標識の最後の `.` より後ろ）。 -/
def name (m : Meta) : String :=
  match m.tag.splitOn "." with
  | [] => m.tag
  | parts => parts.getLast?.getD m.tag

/-- 書き込み先の表。 -/
def writeTable (m : Meta) : String := m.updateTable.getD m.table

/-- 問い合わせを表として見せるモデルか。 -/
def isQueryBased (m : Meta) : Bool := m.query.isSome

/-- 主キーの列。 -/
def primaryKey (m : Meta) : List Column := m.columns.filter (·.primaryKey)

/-- このモデルの列か。 -/
def owns (m : Meta) (c : Column) : Bool := c.model == m.tag

/-- 属性名で、なければ列名で列を引く。 -/
def column (m : Meta) (name : String) : Except Fault Column :=
  match m.columns.find? (·.property == name) with
  | some c => .ok c
  | none =>
    match m.columns.find? (·.name == name) with
    | some c => .ok c
    | none => .error (Fault.contract (m.name ++ " has no column " ++ quoteText name) (some name))

/-- 書き込めるモデルであることを確かめる（問い合わせのモデルには書き込み先の表が要る）。 -/
def requireWritable (m : Meta) (operation : String) : Except Fault Unit :=
  if m.isQueryBased && m.updateTable.isNone then
    .error ((Fault.contract (operation ++ " on query-based model " ++ m.name ++ " needs update_table_name")
      none none (some "writable")).inModel m.name operation)
  else .ok ()

/-- 主キーを持つことを確かめ、主キーの列を返す。 -/
def requirePrimaryKey (m : Meta) (operation : String) : Except Fault (List Column) :=
  match m.primaryKey with
  | [] => .error ((Fault.contract (operation ++ " on " ++ m.name ++ " requires a primary key")
      none none (some "primary_key")).inModel m.name operation)
  | pk => .ok pk

end Meta

end DataAccess
