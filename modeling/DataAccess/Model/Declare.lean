import DataAccess.Term.Eval
/-!
# モデルの宣言

宣言の並びから目録を作る。一つのクラスの宣言は次の順に進む。

1. 関連の種類を確かめる（知らない種類は契約違反）。
2. 表がなければ抽象のクラスとして登録して終わる（問い合わせだけを持つのは契約違反）。
3. 標識を登録する（別の持ち主がすでに使っていれば契約違反）。
4. 継承の順に抽象の祖先の列の宣言を集め、自分の宣言で上書きし（位置は最初のまま）、列にする。
5. 既定の絞り込み・整列・まとめを、自分の列が見える目録で評価する。
6. 同じ列名が二度あれば契約違反。なければ既定の値を並びにしてメタデータを登録する。
-/

namespace DataAccess

/-- 関連の宣言の入力。種類は綴りのまま受け取り、宣言のときに確かめる。 -/
structure RelationSpec where
  name : String
  kind : String
  target : String
  keys : Term
  order : Term := .lit .none
  filter : Term := .lit .none
  hardLimit : Value := .none
  deriving Inhabited

/-- モデルの宣言の入力。 -/
structure ModelSpec where
  name : String
  table : Option String := none
  tag : Option String := none
  columns : List ColumnDecl := []
  query : Option String := none
  queryParams : List Term := []
  updateTable : Option String := none
  defaultFilter : Term := .lit .none
  defaultOrder : Term := .list []
  defaultGroup : Term := .list []
  findHardLimit : Value := .none
  hasManyHardLimit : Value := .none
  relations : List RelationSpec := []
  /-- 親のクラスの名前。 -/
  base : Option String := none
  deriving Inhabited

/-- クラスの完全な名前（モデルのクラスはすべて `models` に置かれる）。 -/
def ownerName (cls : String) : String := "models." ++ cls

/-- 列の宣言を列にする。列名が偽なら属性名、型は真のときだけその文字表記。 -/
def ColumnDecl.bind (d : ColumnDecl) (table tag : String) : Column :=
  { name := if d.column.truthy then d.column.text else d.property, property := d.property, table, model := tag,
    sqlType := if d.sqlType.truthy then some d.sqlType.text else none, primaryKey := d.primaryKey.truthy,
    converter := d.converter }

/-- 名前で上書きしながら宣言を集める（上書きしても位置は最初のまま）。 -/
def mergeSpecs (acc : List ColumnDecl) (more : List ColumnDecl) : List ColumnDecl :=
  more.foldl (fun acc d =>
    if acc.any (·.property == d.property) then
      acc.map fun e => if e.property == d.property then d else e
    else acc ++ [d]) acc

/-- 列名が重ならないことを確かめる。 -/
def checkDistinct (tag : String) : List Column → List String → Except Fault Unit
  | [], _ => .ok ()
  | c :: rest, seen =>
    if seen.contains c.name then
      .error (Fault.contract (tag ++ " declares column " ++ quoteText c.name ++ " twice") (some c.name))
    else checkDistinct tag rest (c.name :: seen)

/-- 整列の項にする（整列の指定でなければ昇順）。 -/
def asOrder (v : Value) : Value :=
  match v with
  | .order .. => v
  | _ => .order v .asc none

namespace Catalog

/-- 関連の宣言を確かめて目録の形にする。 -/
def relationDecls (specs : List RelationSpec) : Except Fault (List RelationDecl) :=
  specs.mapM fun r =>
    match RelationKind.ofKeyword? r.kind with
    | some k => .ok { name := r.name, kind := k, target := r.target, keys := r.keys, order := r.order,
                      filter := r.filter, hardLimit := r.hardLimit }
    | none => .error (Fault.contract ("unknown relation kind " ++ quoteText r.kind) none (some (.str r.kind)))

/-- クラスを一つ宣言する。 -/
def declare (cat : Catalog) (spec : ModelSpec) : Except Fault Catalog := do
  let rels ← relationDecls spec.relations
  let abstractClass : ModelClass :=
    { name := spec.name, base := spec.base, specs := spec.columns, metadata := none, relations := rels }
  match spec.table with
  | none =>
    if spec.query.isSome then
      throw (Fault.contract (spec.name ++ ": query-based models need table= as the CTE alias"))
    return { cat with classes := cat.classes ++ [abstractClass] }
  | some table =>
    let owner := ownerName spec.name
    let tag := match spec.tag with
      | some t => if t.isEmpty then owner else t
      | none => owner
    match cat.tags.find? (·.1 == tag) with
    | some (_, current) =>
      if current != owner then
        throw (Fault.contract ("model tag " ++ quoteText tag ++ " already registered by " ++ current)
          (some "model_tag") (some (.str tag)))
    | none => pure ()
    let tags := if cat.tags.any (·.1 == tag) then cat.tags else cat.tags ++ [(tag, owner)]
    -- 抽象の祖先の宣言（遠い祖先から）と自分の宣言
    let parents := match spec.base with
      | some b => cat.lineage b
      | none => []
    let ancestors := parents.reverse.filter (·.metadata.isNone)
    let decls := mergeSpecs (ancestors.foldl (fun acc c => mergeSpecs acc c.specs) []) spec.columns
    let columns := decls.map (·.bind table tag)
    let draft : Meta := { tag, table, columns, updateTable := spec.updateTable, query := spec.query,
                          declared := decls.map fun d => (d.primaryKey, d.sqlType),
                          relations := rels.map (·.name), findHardLimit := spec.findHardLimit,
                          hasManyHardLimit := spec.hasManyHardLimit }
    let provisional : Catalog :=
      { cat with tags, classes := cat.classes ++ [{ abstractClass with metadata := some draft }] }
    let queryParams ← Term.evalList provisional spec.queryParams
    let filterValue ← spec.defaultFilter.eval provisional
    let orderValue ← spec.defaultOrder.eval provisional
    let groupValue ← spec.defaultGroup.eval provisional
    checkDistinct tag columns []
    let filter ← filterValue.normalizeConditions
    let order ← orderValue.iterate
    let group ← groupValue.iterate
    let m : Meta := { draft with queryParams, defaultFilter := filter, defaultOrder := order.map asOrder,
                                 defaultGroup := group }
    return { cat with tags, classes := cat.classes ++ [{ abstractClass with metadata := some m }],
                      metas := cat.metas ++ [m] }

/-- 宣言を順に行う。 -/
def declareAll (specs : List ModelSpec) : Except Fault Catalog :=
  specs.foldlM declare {}

end Catalog

end DataAccess
