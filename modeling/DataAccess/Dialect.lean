import DataAccess.Sql.Fragment
import DataAccess.Sql.Identifier
import DataAccess.Sql.Statement
import DataAccess.Value.Json
import DataAccess.Value.Sequence
/-!
# 方言

PostgreSQL、MySQL、SQLite の三つの方言が SQL の断片をどう書くか。

* 印: PostgreSQL は `$1, $2, …`、MySQL は `%s`（`%` はすべて `%%`）、SQLite は `?` のまま。
* 識別子の引用符: MySQL は逆引用符、ほかは二重引用符。
* `RETURNING` と `NULLS FIRST/LAST` は MySQL にない。NULL の順は `列 IS NULL` の整列で代える。
* `LIMIT` なしの `OFFSET`: MySQL は 2^64 - 1、SQLite は -1 を上限に書く。
* 衝突時の挿入、一括更新の文の形、一時的な衝突の見分け方も方言ごとに違う。
-/

namespace DataAccess

/-- SQL の方言。 -/
inductive Dialect where
  | postgresql
  | mysql
  | sqlite
  deriving BEq, DecidableEq, Repr, Inhabited

/-- 一括更新の一つの列: 照合に使う `key`、代入する `set`、
行ごとに `target` の列を今の値のままにする真偽の印 `skip`。欄は渡されたままの値で持ち、
文の中には文字表記で書く。 -/
structure UpdateColumn where
  name : Value
  role : Value
  sqlType : Value := .none
  target : Value := .none
  deriving Inhabited

/-- 列の役割が `r` か。 -/
def UpdateColumn.hasRole (c : UpdateColumn) (r : String) : Bool := Value.equal c.role (.str r)

/-- 値としての列の指定。 -/
def UpdateColumn.value (c : UpdateColumn) : Value := .updateColumn c.name c.role c.sqlType c.target

namespace Dialect

/-- 方言の名前。 -/
def name : Dialect → String
  | .postgresql => "postgresql"
  | .mysql => "mysql"
  | .sqlite => "sqlite"

/-- 方言の型の名前。 -/
def className : Dialect → String
  | .postgresql => "PostgreSQLDialect"
  | .mysql => "MySQLDialect"
  | .sqlite => "SQLiteDialect"

/-- 名前（大文字小文字を区別しない、`postgres` は PostgreSQL）から方言を引く。 -/
def ofName (s : String) : Except Fault Dialect :=
  match s.map Char.toLower with
  | "postgresql" | "postgres" => .ok .postgresql
  | "mysql" => .ok .mysql
  | "sqlite" => .ok .sqlite
  | _ => .error (Fault.config ("Unknown dialect '" ++ s ++ "'. Supported: ['mysql', 'postgresql', 'sqlite']"))

/-- 書き込んだ行を `RETURNING` で返せるか。 -/
def supportsReturning : Dialect → Bool
  | .mysql => false
  | _ => true

/-- 組の `IN` を書けるか。 -/
def supportsTupleIn (_ : Dialect) : Bool := true

/-- `NULLS FIRST/LAST` を書けるか。 -/
def supportsNullsOrder : Dialect → Bool
  | .mysql => false
  | _ => true

/-- 列のない行の挿入。 -/
def defaultValuesClause : Dialect → String
  | .mysql => "() VALUES ()"
  | _ => "DEFAULT VALUES"

/-- 識別子の引用符。 -/
def quoteChar : Dialect → Char
  | .mysql => Sql.backtick
  | _ => '"'

/-- `index` 番目（0 から）の印。 -/
def placeholder : Dialect → Nat → String
  | .postgresql, i => "$" ++ toString (i + 1)
  | .mysql, _ => "%s"
  | .sqlite, _ => "?"

/-- 印を置き換える方言の書き方（`?` のままの方言は `none`）。 -/
def markerStyle? (d : Dialect) : Option Sql.MarkerStyle :=
  match d with
  | .postgresql => some { render := d.placeholder }
  | .mysql => some ⟨d.placeholder, true, ['\'', '"', Sql.backtick]⟩
  | .sqlite => none

/-- `?` の印を方言の印に置き換える。 -/
def convertPlaceholders (d : Dialect) (sql : String) : String :=
  match d.markerStyle? with
  | some st => Sql.rewriteMarkers st sql
  | none => sql

/-- 識別子を引用符で囲む。 -/
def quoteIdentifier (d : Dialect) (name : String) : String := Sql.quoteWith d.quoteChar name

/-- 予約語だけを引用した識別子。 -/
def identifier (d : Dialect) (name : String) : String := Sql.identifierWith d.quoteChar name

/-- 現在時刻の式。 -/
def now : Dialect → String
  | .postgresql | .mysql => "NOW()"
  | .sqlite => "CURRENT_TIMESTAMP"

/-- 真偽の定数。 -/
def boolean : Dialect → Bool → String
  | .sqlite, b => if b then "1" else "0"
  | _, b => if b then "TRUE" else "FALSE"

/-- 値を渡せる形にする。辞書（PostgreSQL 以外では並びも）は JSON の文にする。 -/
def adaptParam (d : Dialect) (v : Value) : Except Fault Value :=
  match d, v with
  | _, .dict _ => return .str (← v.jsonText)
  | .postgresql, _ => .ok v
  | _, .list _ => return .str (← v.jsonText)
  | _, _ => .ok v

/-- 整列の一項。`column` は列の文字表記。 -/
def orderTerm (d : Dialect) (column : String) (dir : Direction) (nulls : Option NullsPlacement) :
    String :=
  let col := d.identifier column
  let base := col ++ " " ++ dir.keyword
  match nulls with
  | none => base
  | some p =>
    if d.supportsNullsOrder then base ++ " NULLS " ++ p.keyword
    else col ++ " IS NULL " ++ (if p == .last then "ASC" else "DESC") ++ ", " ++ base

/-- 負でない整数（真偽は除く）であることを確かめる。 -/
def nonNegative (v : Value) (label : String) : Except Fault Int :=
  match v with
  | .int i => if i ≥ 0 then .ok i else .error (bad)
  | _ => .error bad
where
  bad := Fault.contract (label ++ " must be a non-negative integer") (some label) (some v)

/-- `LIMIT` と `OFFSET`。`none` の値は省く。 -/
def limitOffset (d : Dialect) (limit offset : Value) : Except Fault String := do
  match d, limit, offset with
  | .mysql, .none, .none => pure ""
  | .mysql, .none, o => return "LIMIT 18446744073709551615 OFFSET " ++ toString (← nonNegative o "offset")
  | .sqlite, .none, .none => pure ""
  | .sqlite, .none, o => return "LIMIT -1 OFFSET " ++ toString (← nonNegative o "offset")
  | _, l, o =>
    let lim ← match l with
      | .none => pure []
      | v => pure ["LIMIT " ++ toString (← nonNegative v "limit")]
    let off ← match o with
      | .none => pure []
      | v => pure ["OFFSET " ++ toString (← nonNegative v "offset")]
    return " ".intercalate (lim ++ off)

/-- 行の鍵。 -/
def forUpdate : Dialect → String
  | .sqlite => ""
  | _ => "FOR UPDATE"

/-- 大文字小文字を区別しない `LIKE`。 -/
def ilike (d : Dialect) (column : String) : String :=
  match d with
  | .postgresql => column ++ " ILIKE ?"
  | _ => "LOWER(" ++ column ++ ") LIKE LOWER(?)"

/-- 挿入の動詞。MySQL は衝突を無視するとき `INSERT IGNORE INTO`。 -/
def insertVerb (d : Dialect) (ignore : Bool) : String :=
  match d with
  | .mysql => if ignore then "INSERT IGNORE INTO" else "INSERT INTO"
  | _ => "INSERT INTO"

/-- 衝突したときの扱い。`updates` は上書きする列（`none` は指定なし）。 -/
def upsertClause (d : Dialect) (conflict : List String) (updates : Option (List String))
    (ignore : Bool) : Except Fault String :=
  let upd := updates.getD []
  match d with
  | .mysql =>
    if ignore then .ok ""
    else if upd.isEmpty then
      match conflict with
      | first :: _ => .ok ("ON DUPLICATE KEY UPDATE " ++ first ++ " = " ++ first)
      | [] => .error (Fault.contract "on_conflict requires at least one column" none none (some "upsert"))
    else .ok ("ON DUPLICATE KEY UPDATE " ++ ", ".intercalate (upd.map fun c => c ++ " = VALUES(" ++ c ++ ")"))
  | _ =>
    let target := if conflict.isEmpty then "" else " (" ++ ", ".intercalate conflict ++ ")"
    if ignore || upd.isEmpty then .ok ("ON CONFLICT" ++ target ++ " DO NOTHING")
    else if conflict.isEmpty then
      .error (Fault.contract "on_conflict_update requires on_conflict columns" none none (some "upsert"))
    else
      let excluded := if d == .sqlite then "excluded." else "EXCLUDED."
      .ok ("ON CONFLICT" ++ target ++ " DO UPDATE SET " ++
        ", ".intercalate (upd.map fun c => c ++ " = " ++ excluded ++ c))

/-- 衝突したときの扱いを、渡されたままの値から書く。`conflict` と `updates` は真なら列の名前の並び、
`ignore` は真偽としての値。名前の並びでない値は、繋ぐ、取り出す、0 番目を引くところで失敗する。 -/
def upsertCall (d : Dialect) (conflict updates ignore : Value) : Except Fault String := do
  match d with
  | .mysql =>
    if ignore.truthy then return ""
    if !updates.truthy then
      let first ← if conflict.truthy then conflict.first else pure .none
      match first with
      | .none => throw (Fault.contract "on_conflict requires at least one column" none none (some "upsert"))
      | f => return "ON DUPLICATE KEY UPDATE " ++ f.text ++ " = " ++ f.text
    let cs ← updates.iterate
    return "ON DUPLICATE KEY UPDATE " ++ ", ".intercalate (cs.map fun c => c.text ++ " = VALUES(" ++ c.text ++ ")")
  | _ =>
    let target ← if conflict.truthy then do pure (" (" ++ (← Value.join ", " conflict) ++ ")") else pure ""
    if ignore.truthy || !updates.truthy then return "ON CONFLICT" ++ target ++ " DO NOTHING"
    if !conflict.truthy then
      throw (Fault.contract "on_conflict_update requires on_conflict columns" none none (some "upsert"))
    let excluded := if d == .sqlite then "excluded." else "EXCLUDED."
    let cs ← updates.iterate
    return "ON CONFLICT" ++ target ++ " DO UPDATE SET " ++
      ", ".intercalate (cs.map fun c => c.text ++ " = " ++ excluded ++ c.text)

/-- 保存点を作る。 -/
def savepoint (_ : Dialect) (name : String) : String := "SAVEPOINT " ++ name

/-- 保存点を解放する。 -/
def releaseSavepoint (_ : Dialect) (name : String) : String := "RELEASE SAVEPOINT " ++ name

/-- 保存点まで戻す。 -/
def rollbackToSavepoint (_ : Dialect) (name : String) : String := "ROLLBACK TO SAVEPOINT " ++ name

/-- 配列の要素の型（PostgreSQL）。宣言の型が真ならそのまま、
偽なら最初の NULL でない値から決める。すべて NULL なら決められない。 -/
def arrayType (sqlType values column : Value) : Except Fault Value := do
  if sqlType.truthy then return sqlType
  match (← values.iterate).find? (fun v => match v with
    | .none => false
    | _ => true) with
  | some v => return .str (typeOf v)
  | none =>
    let message := "update_many column " ++ column.repr ++ " holds only NULLs; declare sql_type on it"
    throw (.lib { kind := .contract, message := .str message, field := column, constraint := .str "sql_type" })
where
  typeOf : Value → String
    | .datetime _ _ o => if o.isSome then "timestamptz" else "timestamp"
    | .bool _ => "boolean"
    | .int _ => "bigint"
    | .float _ => "double precision"
    | .decimal _ => "numeric"
    | .str _ => "text"
    | .bytes _ => "bytea"
    | .date _ => "date"
    | .time .. => "time"
    | .uuid _ => "uuid"
    | .dict _ => "jsonb"
    | .list _ => "jsonb"
    | _ => "text"

/-- 列の指定を読み、印の列の表を作る: 真の `target` から印の列の名前へ（同じ `target` は後のものが勝つ）。
列の指定でない要素は役割の属性を持たない。 -/
def skipFlags (cols : List Value) : Except Fault (List UpdateColumn × List (Value × Value)) :=
  cols.foldlM (fun (acc, flags) v => match v with
    | .updateColumn name role sqlType target => do
      let c : UpdateColumn := { name, role, sqlType, target }
      if c.hasRole "skip" && target.truthy then
        target.requireHashable
        pure (acc ++ [c], Value.dictSet flags target name)
      else pure (acc ++ [c], flags)
    | v => .error (Fault.noAttribute v "role")) ([], [])

/-- 列の名前で印の表を引く（ない名前は `None`）。 -/
def flagOf (flags : List (Value × Value)) (name : Value) : Except Fault Value := do
  name.requireHashable
  return (Value.lookup name flags).getD .none

/-- 代入の右辺。印があれば、印が真の行は今の値のまま。 -/
def assignment (table : Value) (c : UpdateColumn) (flag : Value) : String :=
  match flag with
  | .none => "v." ++ c.name.text
  | f => "CASE WHEN v." ++ f.text ++ " THEN " ++ table.text ++ "." ++ c.name.text ++ " ELSE v." ++
      c.name.text ++ " END"

/-- 配列に入れる値（PostgreSQL）。辞書と並びは JSON の文にする。 -/
def arrayElement (v : Value) : Except Fault Value :=
  match v with
  | .dict _ | .list _ => return .str (← v.jsonText)
  | _ => .ok v

/-- 列ごとの値の配列（PostgreSQL）。印の列はそのまま、ほかは `arrayElement` を通す。
列より多くの値を持つ行があれば、その値を入れる配列がない。 -/
def columnArrays (cols : List UpdateColumn) (rows : List Value) : Except Fault (List (List Value)) :=
  rows.foldlM (fun arrays row => do
    (← row.iterate).zipIdx.foldlM (fun arrays (v, i) => do
      match cols[i]? with
      | none => throw (Fault.other "IndexError" "list index out of range")
      | some c =>
        let x ← if c.hasRole "skip" then pure v else arrayElement v
        pure (arrays.modify i (· ++ [x]))) arrays) (cols.map fun _ => [])

/-- 鍵の列で表と `v` を結ぶ条件。 -/
def joinOnKeys (table keys : Value) : Except Fault String := do
  return " AND ".intercalate ((← keys.iterate).map fun k => table.text ++ "." ++ k.text ++ " = v." ++ k.text)

/-- 代入する列の `名前 = 右辺` を繋ぐ。 -/
def setList (cols : List UpdateColumn) (term : UpdateColumn → Except Fault String) : Except Fault String := do
  return ", ".intercalate (← (cols.filter (·.hasRole "set")).mapM term)

/-- 一括更新の `r` 番目（0 から）の行の値の印。値は行ごとに並べて渡す。 -/
def rowMarks (mark : Nat → String) (width r : Nat) : String :=
  ", ".intercalate ((List.range width).map fun j => mark (r * width + j))

/-- 一括更新の文。`cols` は列の指定、`keys` は照合の列の名前、`rows` は行ごとの値、
`returning` は真なら返す列の名前。`mark` は値の印の書き方（文に書くのは `?`）。 -/
def updateMany (d : Dialect) (table : Value) (cols : List Value) (keys rows returning : Value)
    (mark : Nat → String := fun _ => "?") : Except Fault Statement := do
  let (cs, flags) ← skipFlags cols
  match d with
  | .postgresql =>
    let rowList ← rows.iterate
    let arrays ← columnArrays cs rowList
    let casts ← cs.zipIdx.mapM fun (c, i) => do
      let t ← arrayType c.sqlType (.list ((arrays[i]?).getD [])) c.name
      pure (mark i ++ "::" ++ t.text ++ "[]")
    let sets ← setList cs fun c => do
      pure (c.name.text ++ " = " ++ assignment table c (← flagOf flags c.name))
    let names ← Value.joinItems ", " (cs.map (·.name))
    let join ← joinOnKeys table keys
    let sql := "UPDATE " ++ table.text ++ " SET " ++ sets ++ " FROM UNNEST(" ++ ", ".intercalate casts ++
      ") AS v(" ++ names ++ ") WHERE " ++ join
    let sql ← if returning.truthy then do
        pure (sql ++ " RETURNING " ++ ", ".intercalate ((← returning.iterate).map fun r => table.text ++ "." ++ r.text))
      else pure sql
    pure ⟨sql, arrays.map Value.list⟩
  | .mysql =>
    let rowList ← rows.iterate
    let values := ", ".intercalate (rowList.zipIdx.map fun (_, r) => "ROW(" ++ rowMarks mark cs.length r ++ ")")
    let names ← Value.joinItems ", " (cs.map (·.name))
    let join ← joinOnKeys table keys
    let sets ← setList cs fun c => do
      c.name.requireHashable
      let rhs := match Value.lookup c.name flags with
        | some f => "IF(v." ++ f.text ++ ", " ++ table.text ++ "." ++ c.name.text ++ ", v." ++ c.name.text ++ ")"
        | none => "v." ++ c.name.text
      pure (table.text ++ "." ++ c.name.text ++ " = " ++ rhs)
    let params ← rowList.flatMapM fun row => do (← row.iterate).mapM d.adaptParam
    pure ⟨"UPDATE " ++ table.text ++ " JOIN (VALUES " ++ values ++ ") AS v(" ++ names ++ ") ON " ++ join ++
      " SET " ++ sets, params⟩
  | .sqlite =>
    let rowList ← rows.iterate
    let values := ", ".intercalate (rowList.zipIdx.map fun (_, r) => "(" ++ rowMarks mark cs.length r ++ ")")
    let names ← Value.joinItems ", " (cs.map (·.name))
    let sets ← setList cs fun c => do
      pure (c.name.text ++ " = " ++ assignment table c (← flagOf flags c.name))
    let join ← joinOnKeys table keys
    let sql := "WITH v(" ++ names ++ ") AS (VALUES " ++ values ++ ") UPDATE " ++ table.text ++ " SET " ++
      sets ++ " FROM v WHERE " ++ join
    let sql ← if returning.truthy then do pure (sql ++ " RETURNING " ++ (← Value.join ", " returning))
      else pure sql
    let params ← rowList.flatMapM fun row => do (← row.iterate).mapM d.adaptParam
    pure ⟨sql, params⟩

/-- 失敗の最初の引数: ドライバの失敗でエラー番号があればその番号、ほかは文。 -/
def firstArgument : Fault → Value
  | .lib e => e.message
  | .foreign _ m => .str m
  | .driver m .none _ => m
  | .driver _ n _ => n
  | .invalid _ => .str ""

/-- 失敗の SQLSTATE が直列化の失敗かデッドロック（40001、40P01）か。SQLSTATE は
ドライバの失敗だけが持つ。並びや辞書はハッシュできないので比べられない。 -/
def sqlstateConflict : Fault → Except Fault Bool
  | .driver _ _ st => do
    st.requireHashable
    match st with
    | .str s => pure (s == "40001" || s == "40P01")
    | _ => pure false
  | _ => .ok false

/-- 一時的な衝突で、一番外のトランザクションを再試行してよい失敗か。
PostgreSQL は SQLSTATE 40001 と 40P01、MySQL は最初の引数がエラー番号 1213 か 1205、
SQLite はデータベースの鍵の文で見分ける。どの方言でも、再試行可の印か競合の決まり文句を含む文なら真。
文字表記を求められない失敗（文が文字列でないドライバの失敗）ではその失敗になる。 -/
def isTransientConflict (d : Dialect) (f : Fault) : Except Fault Bool := do
  let own ← match d with
    | .postgresql => sqlstateConflict f
    | .mysql =>
      match firstArgument f with
      | .int n => pure (n == 1213 || n == 1205)
      | _ => pure false
    | .sqlite =>
      let t := Fault.lowerText (← f.str)
      pure (Fault.mentions t "database is locked" || Fault.mentions t "database table is locked")
  if own || f.isRetryable then return true
  f.signalsConflict

end Dialect

end DataAccess
