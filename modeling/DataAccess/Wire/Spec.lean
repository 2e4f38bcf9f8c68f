import DataAccess.Wire.Decode
import DataAccess.Model.Declare
/-!
# JSON から宣言と失敗へ

モデルの宣言（名前、表、列、問い合わせ、既定の絞り込み・整列・まとめ、上限、関連、親）と、
失敗の指定（種類と文と種類ごとの欄）を JSON から読む。

標識は表か問い合わせがあるときだけ渡し、書かれていなければクラスの名前。
-/

namespace DataAccess

namespace Wire

/-- あってもなくてもよい整数の欄。 -/
def intOpt (fields : List (String × Doc)) (key : String) : Option Int :=
  match (Doc.obj fields).field? key with
  | some (.num t) =>
    match number t with
    | .int i => some i
    | _ => none
  | _ => none

/-- オブジェクトの欄。 -/
def fieldsOf (d : Doc) : List (String × Doc) :=
  match d with
  | .obj fs => fs
  | _ => []

/-- 変換の名前。 -/
def converter? (s : String) : Option Converter :=
  match s with
  | "bool" => some .bool
  | "int" => some .int
  | "str" => some .str
  | _ => none

/-- 列の宣言。 -/
def columnDecl (d : Doc) : Except Fault ColumnDecl := do
  let fs := fieldsOf d
  return { property := ← text fs "name", column := plainField fs "column",
           primaryKey := plainField fs "pk" (.bool false), sqlType := plainField fs "sql_type",
           converter := (textOpt fs "converter").bind converter? }

/-- 欄を値の式として読む（なければ `default`）。 -/
def termField (fs : List (String × Doc)) (key : String) (default : Term := .lit .none) : Term :=
  match (Doc.obj fs).field? key with
  | some d => termOf d
  | none => default

/-- 欄を条件の並びとして読む（なければ `none`）。 -/
def conditionsField (fs : List (String × Doc)) (key : String) : Term :=
  match (Doc.obj fs).field? key with
  | some d => conditionsOf d
  | none => .lit .none

/-- 宣言の欄を値の式として読む。読みそこないは宣言のときの失敗。 -/
def declaredTerm (fs : List (String × Doc)) (key : String) (default : Term := .lit .none) :
    Except Fault Term :=
  match (Doc.obj fs).field? key with
  | some d => strictTermOf d
  | none => .ok default

/-- 宣言の欄を条件の並びとして読む。読みそこないは宣言のときの失敗。 -/
def declaredConditions (fs : List (String × Doc)) (key : String) : Except Fault Term :=
  match (Doc.obj fs).field? key with
  | some d => strictConditionsOf d
  | none => .ok (.lit .none)

/-- 関連の宣言。 -/
def relationSpec (d : Doc) : Except Fault RelationSpec := do
  let fs := fieldsOf d
  let hardLimit := plainField fs "hard_limit"
  return { name := ← text fs "name", kind := ← text fs "kind", target := ← text fs "target",
           keys := ← declaredTerm fs "keys", order := ← declaredTerm fs "order",
           filter := ← declaredConditions fs "where",
           hardLimit }

/-- モデルの宣言。 -/
def modelSpec (d : Doc) : Except Fault ModelSpec := do
  let fs := fieldsOf d
  let name ← text fs "name"
  let table := textOpt fs "table"
  let query := textOpt fs "query"
  -- 標識は書かれていなければクラスの名前、偽の値なら持ち主の名前になる
  let tag := if table.isSome || query.isSome then
      match (Doc.obj fs).field? "tag" with
      | none => some name
      | some t => let v := plain t; if v.truthy then some v.text else none
    else none
  return { name, table, tag, query,
           columns := ← (itemsOf fs "columns").mapM columnDecl,
           queryParams := ← (itemsOf fs "query_params").mapM strictTermOf,
           updateTable := textOpt fs "update_table",
           defaultFilter := ← declaredConditions fs "default_filter",
           defaultOrder := ← declaredTerm fs "default_order" (.list []),
           defaultGroup := ← declaredTerm fs "default_group" (.list []),
           findHardLimit := plainField fs "find_hard_limit",
           hasManyHardLimit := plainField fs "has_many_hard_limit",
           relations := ← (itemsOf fs "relations").mapM relationSpec,
           base := textOpt fs "base" }

/-- 要求のモデルの宣言: `models` があれば既定の代わりに、`extra_models` は後ろに足す。 -/
def modelSpecs (defaults : List ModelSpec) (fs : List (String × Doc)) : Except Fault (List ModelSpec) := do
  let base ← match (Doc.obj fs).field? "models" with
    | some (.arr ds) => ds.mapM modelSpec
    | _ => pure defaults
  let extra ← (itemsOf fs "extra_models").mapM modelSpec
  return base ++ extra

end Wire

end DataAccess
