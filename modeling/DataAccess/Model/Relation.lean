import DataAccess.Term.Eval
import DataAccess.Model.Declare
/-!
# 関連の解決

関連の宣言は相手・キー・整列・絞り込みを式のまま持ち、初めて使うときに評価する。
解決は次の順に進む。

1. 相手のクラスを引き、宣言したクラスと相手のメタデータを得る。
2. キーの対を評価する。最初の要素が対でなければ一つの対とみなす。空なら契約違反。
   対の左は宣言したクラスの列、右は相手の列（名前なら引き、列なら持ち主を確かめる）。
3. 整列を評価する（偽なら空、列・整列・文字列なら一項）。各項は整列の指定にする。
4. 絞り込みを条件の並びにする。
5. 多対の関連の上限に `True` は使えない。
-/

namespace DataAccess

/-- 解決した関連。 -/
structure Relation where
  kind : RelationKind
  /-- 宣言したクラスの名前。 -/
  owner : String
  name : String
  /-- 相手のクラスの名前。 -/
  target : String
  /-- 自分の列と相手の列の対。 -/
  keyPairs : List (Column × Column)
  order : List Value
  filter : List Value
  /-- 上限の指定（多対の関連だけ。なし、`False`、整数）。 -/
  hardLimit : Value
  deriving Inhabited

namespace Relation

/-- 自分の側の列。 -/
def locals (r : Relation) : List Column := r.keyPairs.map (·.1)

/-- 相手の側の列。 -/
def foreigns (r : Relation) : List Column := r.keyPairs.map (·.2)

end Relation

namespace Meta

/-- 関連のキーの列を、このモデルの列として引く。 -/
def keyColumn (m : Meta) (ref : Value) : Except Fault Column :=
  match ref with
  | .str s => m.column s
  | .column c =>
    if m.owns c then .ok c
    else .error (Fault.contract ("relation key " ++ ref.repr ++ " does not belong to " ++ m.name) (some c.name)
      none (some "relation"))
  | v => .error (Fault.noAttribute v "model_tag")

end Meta

namespace Catalog

/-- 二つに分ける（要素が二つでなければ失敗）。 -/
def unpackPair (v : Value) : Except Fault (Value × Value) := do
  match ← v.iterate with
  | [a, b] => .ok (a, b)
  | xs =>
    if xs.length < 2 then
      .error (Fault.other "ValueError" ("not enough values to unpack (expected 2, got " ++ toString xs.length ++ ")"))
    else .error (Fault.other "ValueError" "too many values to unpack (expected 2)")

/-- 関連の表記 `RelationProperty(種類, 持ち主.名前)`。 -/
def relationText (owner : String) (r : RelationDecl) : String :=
  (Value.relationRef owner r.name r.kind.keyword).repr

/-- 関連を解決する。`owner` は宣言したクラス。 -/
def resolveRelation (cat : Catalog) (owner : String) (r : RelationDecl) : Except Fault Relation := do
  if (cat.find? r.target).isNone then throw (Fault.missingKey r.target)
  let source ← cat.metaOf owner
  let target ← cat.metaOf r.target
  let keys ← r.keys.eval cat
  let pairs ← if keys.truthy then keys.iterate else pure []
  let pairs := match pairs with
    | first :: _ => match first with
      | .list _ | .tuple _ => pairs
      | _ => [keys]
    | [] => []
  if pairs.isEmpty then
    throw (Fault.contract ("relation " ++ relationText owner r ++ " declares no key pairs") none none
      (some "relation"))
  let keyPairs ← pairs.mapM fun p => do
    let (l, f) ← unpackPair p
    return (← source.keyColumn l, ← target.keyColumn f)
  let orderValue ← r.order.eval cat
  let terms ← if !orderValue.truthy then pure [] else match orderValue with
    | .column _ | .order .. | .str _ => pure [orderValue]
    | v => v.iterate
  let filter ← (← r.filter.eval cat).normalizeConditions
  if r.kind == .hasMany then
    match r.hardLimit with
    | .bool true => throw (Fault.contract "hard_limit must be an int, None or False" none (some (.bool true)))
    | _ => pure ()
  return { kind := r.kind, owner, name := r.name, target := r.target, keyPairs, order := terms.map asOrder,
           filter, hardLimit := if r.kind == .hasMany then r.hardLimit else .none }

/-- クラスの関連（継承の順に探す）と、それを宣言したクラス。 -/
def relationDecl? (cat : Catalog) (cls name : String) : Option (String × RelationDecl) :=
  match cat.attr? cls name with
  | some (.relation owner r) => some (owner, r)
  | _ => none

end Catalog

end DataAccess
