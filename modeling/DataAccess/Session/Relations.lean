import DataAccess.Session.Operations
import DataAccess.Model.Relation
/-!
# 関連の読み込み

一緒に読んだレコードは一緒に関連を読む。あるレコードの関連を初めて求めると、
同じ組のまだ読んでいないレコード全部について、相手の表を一度だけ検索し、
キーごとに分けて各レコードに覚える。

検索の条件はキー（一列なら `IN`、複数なら組の `IN`）と関連の絞り込み、
整列は関連の整列の後に相手の主キーの昇順。多対の関連は上限（関連、モデル、設定の順）より
一つ多く読み、超えたら上限超過。一対の関連は最初の一行。
-/

namespace DataAccess

namespace Session

/-- レコードの番号。 -/
def recordId (r : Value) : Nat :=
  match r with
  | .record id .. => id
  | _ => 0

/-- レコードの属性の値。 -/
def recordValue (r : Value) (property : String) : Value :=
  match r with
  | .record _ _ values _ => (assocGet? values property).getD .none
  | _ => .none

/-- レコードに覚えた関連。 -/
def cachedRelations (r : Value) : Run (List (String × Value)) := do
  return (assocGet? (← get).cache (recordId r)).getD []

/-- 関連の値を覚える。 -/
def remember (r : Value) (name : String) (v : Value) : Run Unit := do
  let rels ← cachedRelations r
  modify fun s => { s with cache := assocSet s.cache (recordId r) (assocSet rels name v) }

/-- 覚えた関連を忘れる（名前がなければ全部）。 -/
def forget (r : Value) (name : Option String) : Run Unit := do
  let rels ← cachedRelations r
  let kept := match name with
    | some n => rels.filter (·.1 != n)
    | none => []
  modify fun s => { s with cache := assocSet s.cache (recordId r) kept }

/-- レコードの組のレコード。 -/
def batchRecords (r : Value) : Run (Option (List Value)) := do
  let s ← get
  return (assocGet? s.batchOf (recordId r)).bind (assocGet? s.batches)

/-- 列の値の組。NULL を許さなければ NULL を含む組は `none`。 -/
def keyOf (r : Value) (cols : List Column) (allowNull : Bool) : Option Value :=
  let vals := cols.map fun c => recordValue r c.property
  if !allowNull && vals.any (fun v => match v with
    | .none => true
    | _ => false) then none
  else some (.tuple vals)

/-- 多対の関連の上限（`none` なら上限なし）。偽を明示した関連は上限を持たない。 -/
def hardLimitOf (rel : Relation) : Run Value := do
  if rel.kind != .hasMany then return .none
  match rel.hardLimit with
  | .bool false => return .none
  | .none =>
    let owner ← metaOf rel.owner
    match owner.hasManyHardLimit with
    | .none =>
      requireBound rel.owner
      return (((← get).settings.hasManyHardLimit.map Value.int).getD .none)
    | l => return l
  | l => return l

/-- キーで分けた行に、行を足す。 -/
def addToGroup (groups : List (Value × List Value)) (key : Value) (row : Value) : List (Value × List Value) :=
  if groups.any (fun g => Value.equal g.1 key) then
    groups.map fun g => if Value.equal g.1 key then (g.1, g.2 ++ [row]) else g
  else groups ++ [(key, [row])]

/-- 組のレコードのキー: NULL を含まないキーを、重なりを除いて初めの順に並べる。重なりを除く集合に
入れるので、キーはどれも辞書のキーにできなければならない。 -/
def batchKeys (records : List Value) (locals : List Column) : Run (List Value) := do
  let recordKeys := records.filterMap fun r => keyOf r locals false
  for k in recordKeys do lift k.requireHashable
  return recordKeys.foldl (fun acc k => if Value.memberOf k acc then acc else acc ++ [k]) []

/-- 読んだ行を、相手の列のキーで分ける。 -/
def groupRows (rel : Relation) (found : Value) : Run (List (Value × List Value)) := do
  let rows ← lift found.iterate
  rows.foldlM (fun gs row => match row with
    | .record .. =>
      match keyOf row rel.foreigns true with
      | some k => do lift k.requireHashable; pure (addToGroup gs k row)
      | none => pure gs
    | v => throw (Fault.noAttribute v "_values")) []

/-- 組のキーで相手の表を引く条件: 相手の列が一列ならその値の `IN`、複数なら組の `IN`。 -/
def batchCondition (rel : Relation) (keys : List Value) : Value :=
  match rel.foreigns with
  | [one] => Value.tuple [.column one, .list (keys.map fun k => ((k.tupleItems?).getD []).headD .none)]
  | fs => .tupleIn (fs.map Value.column) keys

/-- 組の検索の整列と件数: 関連の整列の後に相手の主キーの昇順で、件数は `limit`。 -/
def batchOptions (rel : Relation) (target : Meta) (limit : Value) : FindOptions :=
  { order := .list (rel.order ++ target.primaryKey.map fun c => asOrder (.column c)), limit }

/-- キーで相手の表を一度だけ検索し、多対の関連の上限を確かめ、行をキーで分ける。 -/
def queryGroups (owner : String) (rel : Relation) (keys : List Value) : Run (List (Value × List Value)) := do
  let target ← metaOf rel.target
  let limit ← hardLimitOf rel
  let bound ← match limit with
    | .none => pure Value.none
    | l => lift (l.add (.int 1))
  let found ← selectRows rel.target target (.list (batchCondition rel keys :: rel.filter)) (batchOptions rel target bound)
  match limit with
  | .none => pure ()
  | l => checkHardLimit l found .relation (do pure (.str (← metaOf owner).name)) (.str rel.name)
  groupRows rel found

/-- 組のレコードに、キーで分けた行から関連の値を覚えさせる。 -/
def assignGroups (records : List Value) (rel : Relation) (groups : List (Value × List Value)) : Run Unit := do
  for r in records do
    let found := match keyOf r rel.locals false with
      | some k => ((groups.find? fun g => Value.equal g.1 k).map (·.2)).getD []
      | none => []
    remember r rel.name (if rel.kind == .hasMany then .list found else found.headD .none)

/-- 組のレコードについて関連を一度に読む。 -/
def loadBatch (records : List Value) (owner : String) (decl : RelationDecl) : Run Unit := do
  let cat := (← get).catalog
  let rel ← lift (cat.resolveRelation owner decl)
  let keys ← batchKeys records rel.locals
  let groups ← if keys.isEmpty then pure [] else queryGroups owner rel keys
  assignGroups records rel groups

/-- レコードの型の名前。 -/
def recordClass (r : Value) : String :=
  match r with
  | .record _ cls _ _ => cls
  | v => v.typeName

/-- レコードの属性を待つ: 関連なら読み（覚えていればそれ）、列の値は待てない。 -/
def awaitAttribute (r : Value) (name : String) : Run Value := do
  let cat := (← get).catalog
  let cls := recordClass r
  match cat.attr? cls name with
  | some (.relation owner decl) =>
    match assocGet? (← cachedRelations r) name with
    | some v => return v
    | none =>
      let batch ← match ← batchRecords r with
        | some rs => pure rs
        | none => do
          newBatch [r]
          pure [r]
      let mut pending := []
      for x in batch do
        if (assocGet? (← cachedRelations x) name).isNone then pending := pending ++ [x]
      loadBatch pending owner decl
      return (assocGet? (← cachedRelations r) name).getD .none
  | some (.column c) =>
    throw (Fault.other "TypeError" ("object " ++ (recordValue r c.property).typeName ++
      " can't be used in 'await' expression"))
  | _ => throw (Fault.other "AttributeError" (quoteText cls ++ " object has no attribute " ++ quoteText name))

/-- 前もって読む関連の一つ: クラス `cls` に名前の関連がなければ契約違反、あればまだ覚えていない
レコードについて読む。 -/
def preloadName (records : List Value) (cls : String) (cat : Catalog) (name : String) : Run Unit := do
  match cat.relationDecl? cls name with
  | none => throw (Fault.contract (cls ++ " has no relation " ++ quoteText name) (some name))
  | some (owner, decl) =>
    let mut pending := []
    for x in records do
      if (assocGet? (← cachedRelations x) name).isNone then pending := pending ++ [x]
    if !pending.isEmpty then loadBatch pending owner decl

/-- レコードの関連を前もって読む（全部を一つの組にする）。名前ごとに順に読む。 -/
def preload (records : List Value) (names : List String) : Run Unit := do
  match records with
  | [] => pure ()
  | first :: _ =>
    newBatch records
    let cls := recordClass first
    let cat := (← get).catalog
    for name in names do
      preloadName records cls cat name

end Session

end DataAccess
