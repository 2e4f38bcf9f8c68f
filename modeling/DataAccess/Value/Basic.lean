import DataAccess.Number.Decimal
import DataAccess.Calendar
/-!
# 値

条件の並び、書き込む値、結果の行に現れる値の型 `Value`。
スカラー（整数、浮動小数、文字列、バイト列、十進数、日時、UUID）、並びと組と辞書、
標識（`SKIP` など）、列、述語、整列の指定、主キーの結果、レコードまでを一つの型で持つ。
どの述語も欄に任意の値を持てるので、形の検査は組み立てのときに行う。

並びの形をした欄（`TupleIn` の行、`OrGroup` の群、副問い合わせの鍵の組、主キーの行）は、
要素がそれぞれ組 `.tuple` である値の並びとして持つ。
-/

namespace DataAccess

/-- 組み立てで特別に扱う標識。 -/
inductive Marker where
  /-- 条件や値をまるごと落とす。 -/
  | skip
  /-- `IS NULL`／NULL を束縛する。 -/
  | null
  /-- `IS NOT NULL`。 -/
  | notNull
  /-- サーバの現在時刻。 -/
  | now
  deriving BEq, DecidableEq, Repr, Inhabited

/-- 標識の名前。 -/
def Marker.name : Marker → String
  | .skip => "SKIP"
  | .null => "NULL"
  | .notNull => "NOT_NULL"
  | .now => "NOW"

/-- 整列の向き。 -/
inductive Direction where
  | asc
  | desc
  deriving BEq, DecidableEq, Repr, Inhabited

/-- 向きの SQL の綴り。 -/
def Direction.keyword : Direction → String
  | .asc => "ASC"
  | .desc => "DESC"

/-- NULL を先頭と末尾のどちらに置くか。 -/
inductive NullsPlacement where
  | first
  | last
  deriving BEq, DecidableEq, Repr, Inhabited

/-- 置き場所の SQL の綴り。 -/
def NullsPlacement.keyword : NullsPlacement → String
  | .first => "FIRST"
  | .last => "LAST"

/-- 行を読むときに NULL でない値に掛ける変換。 -/
inductive Converter where
  | bool
  | int
  | str
  deriving BEq, DecidableEq, Repr, Inhabited

/-- あるモデルの一つの列。同じかどうかはモデルの標識と列名で決まる。 -/
structure Column where
  /-- SQL の列名。 -/
  name : String
  /-- モデルの属性名。 -/
  property : String
  /-- 表の名前。 -/
  table : String
  /-- 持ち主のモデルの標識。 -/
  model : String
  sqlType : Option String := none
  primaryKey : Bool := false
  converter : Option Converter := none
  deriving BEq, Repr, Inhabited

/-- 同じ列か（モデルの標識と列名が等しい）。 -/
def Column.same (a b : Column) : Bool := a.model == b.model && a.name == b.name

/-- `表.列` の形。 -/
def Column.qualified (c : Column) : String := c.table ++ "." ++ c.name

/-- 値。 -/
inductive Value where
  | none
  | bool (b : Bool)
  | int (i : Int)
  | float (x : Float)
  | str (s : String)
  | bytes (b : List UInt8)
  | decimal (d : Number.DecimalNumber)
  | date (d : Calendar.Date)
  /-- 日時（協定世界時からのずれを持つこともある）。 -/
  | datetime (d : Calendar.Date) (t : Calendar.Clock) (zone : Option Calendar.Offset)
  /-- 時刻（ずれを持つこともある）。 -/
  | time (t : Calendar.Clock) (zone : Option Calendar.Offset)
  /-- UUID（小文字のハイフン区切り）。 -/
  | uuid (text : String)
  | list (items : List Value)
  | tuple (items : List Value)
  /-- 挿入順を保つ辞書。 -/
  | dict (entries : List (Value × Value))
  | marker (m : Marker)
  /-- そのまま埋め込む SQL。 -/
  | raw (sql : Value)
  /-- 自前の `?` と値を持つ SQL の断片。 -/
  | dynamic (sql : Value) (params : List Value)
  | column (c : Column)
  /-- 宣言されたモデルのクラス（クラス名）。 -/
  | model (name : String)
  /-- モデルのメタデータ（標識）。 -/
  | modelMeta (tag : String)
  /-- 外側の問い合わせの行の列を指す。 -/
  | parentRef (col : Value)
  | order (col : Value) (dir : Direction) (nulls : Option NullsPlacement)
  | comparison (col op value : Value)
  | between (col low high : Value)
  | tupleIn (cols : List Value) (rows : List Value)
  | orGroup (groups : List Value)
  | rawCondition (sql : Value) (params : List Value)
  | inSubquery (pairs : List Value) (conds : List Value) (negate : Bool)
  | existsIn (target : Value) (conds : List Value) (negate : Bool)
  /-- 組み立て途中の条件の並び。 -/
  | condList (entries : List Value)
  /-- 主キーの列と、影響した行ごとのキーの値。 -/
  | pkey (key : List Value) (rows : List Value)
  /-- 一括更新の列の指定。 -/
  | updateColumn (name role sqlType target : Value)
  /-- モデルのインスタンス。`id` は同じレコードかどうかを見分ける番号。 -/
  | record (id : Nat) (model : String) (values : List (String × Value)) (extra : List (Value × Value))
  /-- 文の実行結果。影響した行数と最後に挿入した行の番号は、ドライバが返したままの値。 -/
  | result (rows : List Value) (rowCount lastId : Value)
  /-- モデル以外のクラス。 -/
  | cls (name : String)
  /-- クラス `owner` の関連 `name`（種類 `kind`）。 -/
  | relationRef (owner name kind : String)
  /-- 例外の値: 種類の名前、文（文字表記はその文字表記）、字面。 -/
  | exception (kind : String) (message : Value) (repr : String)
  deriving Inhabited

namespace Value

/-- 述語（条件の並びの中で組ではない要素）か。 -/
def isPredicate : Value → Bool
  | .comparison .. | .between .. | .tupleIn .. | .orGroup .. | .rawCondition ..
  | .inSubquery .. | .existsIn .. => true
  | _ => false

/-- 型の名前（誤りの文に書く名前）。日時と十進数の型はモジュール名を付けて書く。 -/
def typeName : Value → String
  | .none => "NoneType"
  | .bool _ => "bool"
  | .int _ => "int"
  | .float _ => "float"
  | .str _ => "str"
  | .bytes _ => "bytes"
  | .decimal _ => "decimal.Decimal"
  | .date _ => "datetime.date"
  | .datetime .. => "datetime.datetime"
  | .time .. => "datetime.time"
  | .uuid _ => "UUID"
  | .list _ => "list"
  | .tuple _ => "tuple"
  | .dict _ => "dict"
  | .marker _ => "Sentinel"
  | .raw _ => "Raw"
  | .dynamic .. => "Dynamic"
  | .column _ => "Column"
  | .model _ => "type"
  | .modelMeta _ => "ModelMeta"
  | .parentRef _ => "ParentRef"
  | .order .. => "OrderColumn"
  | .comparison .. => "Comparison"
  | .between .. => "Between"
  | .tupleIn .. => "TupleIn"
  | .orGroup _ => "OrGroup"
  | .rawCondition .. => "RawCondition"
  | .inSubquery .. => "InSubquery"
  | .existsIn .. => "Exists"
  | .condList _ => "ConditionList"
  | .pkey .. => "PkeyResult"
  | .updateColumn .. => "UpdateManyColumn"
  | .record _ m _ _ => m
  | .result .. => "QueryResult"
  | .cls _ => "type"
  | .relationRef .. => "RelationProperty"
  | .exception k _ _ => k

/-- 真偽としての値。空の並び・辞書・文字列、0、NULL が偽。 -/
def truthy : Value → Bool
  | .none => false
  | .bool b => b
  | .int i => i != 0
  | .float x => x != 0
  | .str s => !s.isEmpty
  | .bytes b => !b.isEmpty
  | .decimal d => d.truthy
  | .list xs | .tuple xs | .condList xs => !xs.isEmpty
  | .dict kvs => !kvs.isEmpty
  | .pkey _ rows => !rows.isEmpty
  | _ => true

/-- 並び・組の要素。 -/
def items? : Value → Option (List Value)
  | .list xs | .tuple xs => some xs
  | _ => Option.none

/-- 組の要素（組でなければ `none`）。 -/
def tupleItems? : Value → Option (List Value)
  | .tuple xs => some xs
  | _ => Option.none

/-- 文字列の中身。 -/
def str? : Value → Option String
  | .str s => some s
  | _ => Option.none

/-- 列の中身。 -/
def column? : Value → Option Column
  | .column c => some c
  | _ => Option.none

/-- 数としての値の比較に使う形。真偽は 0 と 1、浮動小数はその値そのもの。 -/
def numeric? : Value → Option Number.DecimalNumber
  | .bool b => some (.finite (Number.Decimal.ofInt (if b then 1 else 0)))
  | .int i => some (.finite (Number.Decimal.ofInt i))
  | .float x => some (Number.DecimalNumber.ofFloat x)
  | .decimal d => some d
  | _ => Option.none

/-- 信号を出す十進の非数か。数との比較も、辞書のキーにすることもできない。 -/
def isSignalingNaN : Number.DecimalNumber → Bool
  | .nan _ signaling _ => signaling
  | _ => false

/-- 欄ごとの比較を前から行い、最初に等しくない欄で止める。 -/
def allFields : List (Unit → Option Bool) → Option Bool
  | [] => some true
  | f :: fs => do if ← f () then allFields fs else return false

mutual
/-- 値の比較 `a == b`。数は型をまたいで値で比べ、信号を出す十進の非数と数の比較は失敗する
（`none`）。並びと組は長さを先に比べ、要素を前から比べて最初の違いで止める。辞書は項目の数を先に比べ、
`a` の各キーを `b` で引いてその値を比べる。述語などのデータクラスは欄を宣言の順に比べる。
一括更新の列と例外は同じオブジェクトのときだけ等しいので、別々に作った値は等しくない。 -/
def compareEq : Value → Value → Option Bool
  | .none, .none => some true
  | .str a, .str b => some (a == b)
  | .float a, .float b => some (a == b)
  | .bytes a, .bytes b => some (a == b)
  | .date a, .date b => some (a == b)
  | .datetime d t o, .datetime e u p => some (Calendar.sameDateTime d t o e u p)
  | .time t o, .time u p => some (Calendar.sameTime t o u p)
  | .uuid a, .uuid b => some (a == b)
  | .list a, .list b | .tuple a, .tuple b => if a.length != b.length then some false else compareItems a b
  | .dict a, .dict b => if a.length != b.length then some false else compareEntries a b
  | .marker a, .marker b => some (a == b)
  | .raw a, .raw b => compareEq a b
  | .dynamic s a, .dynamic t b =>
    allFields [fun _ => compareEq s t, fun _ => if a.length != b.length then some false else compareItems a b]
  | .column a, .column b => some (a.same b)
  | .model a, .model b | .modelMeta a, .modelMeta b | .cls a, .cls b => some (a == b)
  | .parentRef a, .parentRef b => compareEq a b
  | .order a d n, .order b e m => allFields [fun _ => compareEq a b, fun _ => some (d == e && n == m)]
  | .comparison a o x, .comparison b p y =>
    allFields [fun _ => compareEq a b, fun _ => compareEq o p, fun _ => compareEq x y]
  | .between a l h, .between b m k =>
    allFields [fun _ => compareEq a b, fun _ => compareEq l m, fun _ => compareEq h k]
  | .tupleIn a r, .tupleIn b s =>
    allFields [fun _ => if a.length != b.length then some false else compareItems a b,
      fun _ => if r.length != s.length then some false else compareItems r s]
  | .orGroup a, .orGroup b => if a.length != b.length then some false else compareItems a b
  | .rawCondition s a, .rawCondition t b =>
    allFields [fun _ => compareEq s t, fun _ => if a.length != b.length then some false else compareItems a b]
  | .inSubquery a c n, .inSubquery b d m =>
    allFields [fun _ => if a.length != b.length then some false else compareItems a b,
      fun _ => if c.length != d.length then some false else compareItems c d, fun _ => some (n == m)]
  | .existsIn a c n, .existsIn b d m =>
    allFields [fun _ => compareEq a b, fun _ => if c.length != d.length then some false else compareItems c d,
      fun _ => some (n == m)]
  | .condList a, .condList b => if a.length != b.length then some false else compareItems a b
  | .pkey a r, .pkey b s =>
    allFields [fun _ => if a.length != b.length then some false else compareItems a b,
      fun _ => if r.length != s.length then some false else compareItems r s]
  | .record i _ _ _, .record j _ _ _ => some (i == j)
  | .relationRef a b _, .relationRef c d _ => some (a == c && b == d)
  | .result a n l, .result b m k =>
    allFields [fun _ => if a.length != b.length then some false else compareItems a b,
      fun _ => compareEq n m, fun _ => compareEq l k]
  | x, y =>
    match numeric? x, numeric? y with
    | some a, some b => if isSignalingNaN a || isSignalingNaN b then Option.none else some (a.sameValue b)
    | _, _ => some false

/-- 同じ長さの並びを要素ごとに前から比べ、最初の違いで止める。 -/
def compareItems : List Value → List Value → Option Bool
  | a :: as, b :: bs => do if ← compareEq a b then compareItems as bs else return false
  | _, _ => some true

/-- 辞書 `a` の各キーを辞書 `b` で引き、値を比べる。キーがなければ等しくない。 -/
def compareEntries : List (Value × Value) → List (Value × Value) → Option Bool
  | [], _ => some true
  | (k, v) :: rest, b =>
    match b.find? (fun kv => (compareEq k kv.1).getD false) with
    | Option.none => some false
    | some (_, w) => do if ← compareEq v w then compareEntries rest b else return false
end

/-- 値の等しさ（比較が失敗するときは等しくないとする）。辞書のキーを引くときなどに使う。 -/
def equal (a b : Value) : Bool :=
  (compareEq a b).getD false

/-- 辞書の項目の中で、キーが `k` と等しいものの値。 -/
def lookup (k : Value) : List (Value × Value) → Option Value
  | [] => Option.none
  | (k', v) :: rest => if equal k k' then some v else lookup k rest

/-- 並びに `x` と等しい要素があるか。 -/
def memberOf (x : Value) (xs : List Value) : Bool := xs.any (equal x)

end Value

end DataAccess
