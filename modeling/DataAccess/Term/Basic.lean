import DataAccess.Value.Basic
import DataAccess.Fault
/-!
# 値を作る式

呼び出しに渡す値を書く式 `Term`。モデルの列やクラスへの参照、列の補助の呼び出し、
述語や主キーの結果の組み立てを、モデルの目録に対して評価すると `Value` になる。
参照の解決と組み立ての失敗（主キーの行の幅の違反など）は評価のときに起こる。

読みそこなった部分（知らない印、欠けた欄など）も式 `failed` として残し、評価でそこに
着いたときに失敗する。それより前に読めた部分式を先に評価するので、失敗の順は、
左から読みながら作っていく順と同じになる。
-/

namespace DataAccess

/-- 値を作る式。 -/
inductive Term where
  /-- そのままの値（スカラー、標識、`Raw`）。 -/
  | lit (v : Value)
  /-- 十六進の文字列から読むバイト列。 -/
  | fromHex (hex : Value)
  /-- 十進数にする値（字面、整数、浮動小数、符号・係数・指数の三つ組）。 -/
  | decimal (v : Value)
  /-- ISO 表記から読む日付。 -/
  | date (iso : Value)
  /-- ISO 表記から読む日時。 -/
  | datetime (iso : Value)
  /-- ISO 表記から読む時刻。 -/
  | time (iso : Value)
  /-- 文字列から読む UUID。 -/
  | uuid (text : Value)
  | list (items : List Term)
  | tuple (items : List Term)
  /-- 値の要素を順に取り出して作る組。 -/
  | tupleOf (items : Term)
  /-- 文字列のキーの辞書。 -/
  | dict (fields : List (String × Term))
  /-- キーも式の辞書。 -/
  | map (entries : List (Term × Term))
  | dynamic (sql : Value) (params : List Term)
  /-- `モデル.属性` の参照が指す列（または関連）。 -/
  | column (ref : Value)
  /-- 名前で引くモデルのクラス。 -/
  | model (name : Value)
  /-- 名前で引くモデルのメタデータ。 -/
  | modelMeta (name : Value)
  | parentRef (col : Term)
  | order (col : Term) (dir : Direction) (nulls : Option NullsPlacement)
  | comparison (col : Term) (op : Value) (value : Term)
  | between (col low high : Term)
  /-- 組の `IN`。列と行は要素を順に取り出す値、行はそれぞれ要素を取り出して組にする。 -/
  | tupleIn (cols rows : Term)
  /-- 条件の並びの群の OR。 -/
  | orGroups (groups : List Term)
  | rawCondition (sql : Value) (params : List Term)
  /-- 副問い合わせの `IN`。鍵の組は要素を順に取り出す値。 -/
  | inSubquery (pairs : Term) (conds : Term) (negate : Bool)
  | existsIn (target : Term) (conds : Term) (negate : Bool)
  /-- 値の属性 `method` を引数で呼ぶ（列の補助など）。 -/
  | call (col : Term) (method : Value) (args : List Term)
  /-- 条件の並びを操作の列で組み立てる。操作は `listAdd`, `listAddIf`, `extend`。 -/
  | condList (ops : List Term)
  /-- 条件を一つ足す `add(key, value=None)`（述語なら単独、そうでなければキーと値の組）。 -/
  | listAdd (args : List Term)
  /-- 旗が真なら条件を足す `add_if(flag, key, value=None)`。 -/
  | listAddIf (args : List Term)
  /-- 条件の並びを足す。 -/
  | extend (conds : Term)
  | pkey (key : List Term) (rows : List Term)
  | updateColumn (name role sqlType target : Value)
  /-- 読みそこなった式: 先に読めた部分式 `before` を順に評価してから `fault` で失敗する。 -/
  | failed (before : List Term) (fault : Fault)
  deriving Inhabited

namespace Term

/-- 評価する順の部分式。 -/
def children : Term → List Term
  | .list xs | .tuple xs | .orGroups xs | .condList xs | .listAdd xs | .listAddIf xs => xs
  | .tupleOf x | .parentRef x | .extend x | .order x _ _ => [x]
  | .dict fs => fs.map (·.2)
  | .map es => es.flatMap fun (k, v) => [k, v]
  | .dynamic _ ps | .rawCondition _ ps => ps
  | .comparison c _ v => [c, v]
  | .between c lo hi => [c, lo, hi]
  | .tupleIn cs rs => [cs, rs]
  | .inSubquery ps cs _ => [ps, cs]
  | .existsIn t cs _ => [t, cs]
  | .call c _ args => c :: args
  | .pkey k rs => k ++ rs
  | .failed before _ => before
  | _ => []

/-- 読みそこないのうち、評価で最初に出会うもの（`fuel` は式の深さより大きく取る）。 -/
def firstFailure? : Nat → Term → Option Fault
  | 0, _ => none
  | fuel + 1, .failed before f => some ((before.findSome? (firstFailure? fuel)).getD f)
  | fuel + 1, t => t.children.findSome? (firstFailure? fuel)

end Term

end DataAccess
