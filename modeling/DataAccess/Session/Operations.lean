import DataAccess.Session.Database
import DataAccess.Session.Middleware
import DataAccess.Builder.Write
import DataAccess.Model.Record
/-!
# モデルの操作

検索、件数、挿入、更新、一括更新、削除、生の SQL。どの操作も自分のフックの鎖を通り、
文は `execute` の鎖を、検索の文はその前に `query` の鎖を通る。

* 検索は上限（モデルか設定）があり呼び出しに `LIMIT` がなければ、上限より一つ多く読み、
  超えたら上限超過。
* 書き込みは文を組み立てる前に方針を当てる。
* `RETURNING` のない方言では、書き込みの前に触れる行のキーを行の鍵を掛けて読む。
  挿入では渡したキーの値、なければ自動採番の最初の値から数えたキーを報告する。
-/

namespace DataAccess

namespace Session

/-- 結果を計算に持ち上げる。 -/
def lift {α : Type} (e : Except Fault α) : Run α :=
  match e with
  | .ok a => pure a
  | .error f => throw f

/-- モデルのメタデータ。 -/
def metaOf (cls : String) : Run Meta := do lift ((← get).catalog.metaOf cls)

/-- モデルがデータベースに結び付けられていることを確かめる。 -/
def requireBound (cls : String) : Run Unit := do
  if !(← get).bound then
    throw (Fault.unbound cls)

/-- 新しいレコードの番号。 -/
def freshRecord : Run Nat := do
  let s ← get
  set { s with nextRecord := s.nextRecord + 1 }
  return s.nextRecord

/-- レコードをまとめて一つの組にする（前の組から外れる）。 -/
def newBatch (records : List Value) : Run Unit := do
  let s ← get
  let b := s.nextBatch
  let ids := records.filterMap fun r => match r with
    | .record id .. => some id
    | _ => none
  set { s with nextBatch := b + 1, batches := s.batches ++ [(b, records)],
               batchOf := ids.foldl (fun acc i => assocSet acc i b) s.batchOf }

/-- 行からレコードを作る。二つ以上なら一つの組にする。 -/
def fromRows (cls : String) (rows : List Value) : Run (List Value) := do
  let cat := (← get).catalog
  let records ← rows.mapM fun row => do
    let id ← freshRecord
    let entries := match row with
      | .dict kvs => kvs
      | _ => []
    lift (cat.recordOfRow cls id entries)
  if records.length > 1 then newBatch records
  return records

/-- 結果の行。`execute` の鎖が文の結果でない値を返したなら、その値に行はない。 -/
def rowsOf (result : Value) : Run (List Value) :=
  match result with
  | .result rows _ _ => pure rows
  | v => throw (Fault.noAttribute v "rows")

/-- 検索の結果の件数。鎖が並びでない値を返したなら、その値の長さ。 -/
def lengthOf (v : Value) : Run Nat :=
  match v with
  | .list xs | .tuple xs | .condList xs => pure xs.length
  | .str s => pure s.length
  | .bytes b => pure b.length
  | .dict kvs => pure kvs.length
  | .pkey _ rows => pure rows.length
  | v => throw (Fault.other "TypeError" ("object of type '" ++ v.typeName ++ "' has no len()"))

/-- 検索の結果の最初の要素（偽の値なら `None`）。鎖が並びでない値を返したなら、その値の 0 番目。 -/
def firstOf (v : Value) : Run Value :=
  if !v.truthy then pure .none else lift v.first

/-- 組み立てた文を `execute` の鎖に通して走らせる。 -/
def runStatement (cls : String) (st : Statement) (write : Bool) (operation : String) (autocommit : Bool) :
    Run Value := do
  requireBound cls
  let m ← metaOf cls
  dispatch "execute" cls (.str st.sql) fun sql =>
    run ⟨sql.text, st.params⟩ write operation (some m.name) autocommit

/-- 検索の SQL を `query` の鎖に通して走らせ、レコードにする。鎖を抜けた SQL で書き込みかを
調べるので、文字列でない SQL はそこで失敗する。 -/
def fetchSql (cls : String) (sql : Value) (params : List Value) : Run Value :=
  dispatch "query" cls sql fun sql => do
    let text ← lift sql.patternText
    let result ← runStatement cls ⟨text, params⟩ (Sql.isWriteStatement text) "query" false
    return .list (← fromRows cls (← rowsOf result))

/-- 検索の文を `query` の鎖に通して走らせ、レコードにする。 -/
def fetch (cls : String) (st : Statement) : Run Value := fetchSql cls (.str st.sql) st.params

/-- 方言と目録。 -/
def context : Run (Dialect × Catalog) := do
  let s ← get
  return (s.dialect, s.catalog)

/-- 検索の文を組み立て、`query` の鎖に通してレコードにする。 -/
def selectRows (cls : String) (m : Meta) (conds : Value) (opts : FindOptions) : Run Value := do
  requireBound cls
  let (d, cat) ← context
  fetch cls (← lift (Statement.select d cat m conds opts))

/-- 検索が読んだ件数を上限 `limit` と比べ、超えたら上限超過を投げる。場所のモデルの名前は、投げるときに
`modelName` で求める。 -/
def checkHardLimit (limit found : Value) (origin : LimitOrigin) (modelName : Run Value) (relationName : Value) :
    Run Unit := do
  let n ← lengthOf found
  if ← lift (Value.greater (.int n) limit) then
    throw (Fault.limitExceeded limit (.int n) origin (← modelName) relationName)

/-- 検索の上限: モデルの上限、なければ設定の上限（`none` なら上限なし）。 -/
def findLimitOf (cls : String) (m : Meta) : Run Value :=
  match m.findHardLimit with
  | .none => do
    requireBound cls
    pure (((← get).settings.findHardLimit.map Value.int).getD .none)
  | l => pure l

/-- 上限を確かめるか: 上限があり、呼び出しが `LIMIT` を与えないとき。 -/
def checksLimit (limit callerLimit : Value) : Bool :=
  match limit, callerLimit with
  | .none, _ => false
  | _, .none => true
  | _, _ => false

/-- 検索の終端: 上限（モデルか設定）があり呼び出しに `LIMIT` がなければ、上限より一つ多く読み、
超えたら上限超過。 -/
def findRows (cls : String) (opts : FindOptions) (conds : Value) : Run Value := do
  let m ← metaOf cls
  let limit ← findLimitOf cls m
  -- 呼び出し側の上限があれば、上限の確かめはしない
  let check := checksLimit limit opts.limit
  let opts ← if check then do pure { opts with limit := ← lift (limit.add (.int 1)) } else pure opts
  let records ← selectRows cls m conds opts
  if check then checkHardLimit limit records .find (pure (.str m.name)) .none
  return records

/-- 検索。 -/
def find (cls : String) (conds : Value) (opts : FindOptions) : Run Value :=
  dispatch "find" cls conds (findRows cls opts)

/-- 最初の一件の検索の終端。 -/
def findFirst (cls : String) (opts : FindOptions) (conds : Value) : Run Value := do
  let opts := { opts with limit := .int 1 }
  requireBound cls
  let m ← metaOf cls
  firstOf (← selectRows cls m conds opts)

/-- 最初の一件の検索。 -/
def findOne (cls : String) (conds : Value) (opts : FindOptions) : Run Value :=
  dispatch "find_one" cls conds (findFirst cls opts)

/-- 主キーでの検索の終端。キーが主キーの結果でも並びでも組でもなければ一つのキーとみなす。 -/
def findKeys (cls : String) (opts : FindOptions) (keys : Value) : Run Value := do
  let keys := match keys with
    | .pkey .. | .list _ | .tuple _ => keys
    | k => .list [k]
  requireBound cls
  let m ← metaOf cls
  let (d, cat) ← context
  let cond ← lift (Statement.keyCondition m keys)
  fetch cls (← lift (Statement.select d cat m (.list [cond]) opts))

/-- 主キーでの検索。 -/
def findById (cls : String) (keys : Value) (opts : FindOptions) : Run Value :=
  dispatch "find_by_id" cls keys (findKeys cls opts)

/-- 件数の終端。 -/
def countRows (cls : String) (opts : FindOptions) (conds : Value) : Run Value := do
  requireBound cls
  let m ← metaOf cls
  let (d, cat) ← context
  let result ← runStatement cls (← lift (Statement.count d cat m conds opts)) false "count" false
  match ← rowsOf result with
  | [] => return .int 0
  | first :: _ => return .int (← lift (← lift (first.getItem (.str "count"))).toInteger)

/-- 件数。 -/
def count (cls : String) (conds : Value) (opts : FindOptions) : Run Value :=
  dispatch "count" cls conds (countRows cls opts)

/-- 行の主キーの値の組。行が主キーの列を欠けば `KeyError`。 -/
def rowKey (pk : List Column) (row : Value) : Except Fault Value := do
  let entries := match row with
    | .dict kvs => kvs
    | _ => []
  let vals ← pk.mapM fun c => match Value.lookup (.str c.name) entries with
    | some v => pure v
    | none => throw (Fault.missingKey c.name)
  return Value.tuple vals

/-- 主キーの列で行からキーを読む。 -/
def keysFromRows (pk : List Column) (rows : List Value) : Run Value := do
  return .pkey (pk.map Value.column) (← lift (rows.mapM (rowKey pk)))

/-- 束縛してよい普通の値か（NULL、標識、生の SQL、断片でない）。 -/
def isPlain (v : Value) : Bool :=
  match v with
  | .none | .marker _ | .raw _ | .dynamic .. => false
  | _ => true

/-- `RETURNING` のない方言で挿入した行のキー。 -/
def reportedKeys (m : Meta) (rows : List Value) (result : Value) : Run Value := do
  let pk := m.primaryKey
  let normalized ← rows.mapM fun r => lift (m.normalizeRow r false)
  if normalized.all fun row => pk.all fun k => isPlain ((row.get? k).getD .none) then
    return .pkey (pk.map Value.column) (normalized.map fun row => .tuple (pk.map fun k => (row.get? k).getD .none))
  match pk with
  | [_] =>
    match result with
    | .result _ _ .none => return .none
    | .result _ _ first =>
      let keys ← (List.range normalized.length).mapM fun (i : Nat) => do
        return Value.tuple [← lift (first.add (.int i))]
      return .pkey (pk.map Value.column) keys
    | v => throw (Fault.noAttribute v "last_insert_id")
  | _ => return .none

/-- 挿入。 -/
def insert (cls : String) (rows : List Value) (opts : InsertOptions) (operation : String) : Run Value := do
  let m ← metaOf cls
  requireBound cls
  let autocommit := opts.autocommit.truthy
  checkWrite operation (some m.name) autocommit
  let (d, cat) ← context
  let st ← lift (Statement.insert d cat m rows opts)
  let result ← runStatement cls st true operation autocommit
  if !opts.returning.truthy || m.primaryKey.isEmpty then return .none
  if d.supportsReturning then keysFromRows m.primaryKey (← rowsOf result)
  else reportedKeys m rows result

/-- 一件の挿入。 -/
def create (cls : String) (values : Value) (opts : InsertOptions) : Run Value :=
  dispatch "create" cls values fun values => insert cls [values] opts "create"

/-- 複数の挿入。 -/
def createMany (cls : String) (rows : Value) (opts : InsertOptions) : Run Value :=
  dispatch "create_many" cls rows fun rows => do insert cls (← lift rows.iterate) opts "create_many"

/-- 書き込みの前にキーを読む必要があるか。 -/
def needsPreselect (m : Meta) (opts : WriteOptions) : Run Bool := do
  return opts.returning.truthy && !m.primaryKey.isEmpty && !(← get).dialect.supportsReturning

/-- 書き込みが触れる行のキーを鍵を掛けて読む。 -/
def preselect (cls : String) (m : Meta) (conds : Value) (opts : WriteOptions) (operation : String) :
    Run (Option Value) := do
  if !(← needsPreselect m opts) then return none
  let (d, cat) ← context
  let st ← lift (Statement.selectKeys d cat m conds operation)
  let result ← runStatement cls st true operation opts.autocommit.truthy
  return some (← keysFromRows m.primaryKey (← rowsOf result))

/-- 書き込みの結果のキー。 -/
def writeKeys (m : Meta) (opts : WriteOptions) (result : Value) (preselected : Option Value) : Run Value := do
  match preselected with
  | some k => return k
  | none =>
    if !opts.returning.truthy || m.primaryKey.isEmpty || !(← get).dialect.supportsReturning then return .none
    keysFromRows m.primaryKey (← rowsOf result)

/-- 更新の終端。 -/
def updateRows (cls : String) (values : Value) (opts : WriteOptions) (conds : Value) : Run Value := do
  let m ← metaOf cls
  requireBound cls
  let autocommit := opts.autocommit.truthy
  checkWrite "update" (some m.name) autocommit
  let (d, cat) ← context
  let st ← lift (Statement.update d cat m conds values opts)
  let keys ← preselect cls m conds opts "update"
  let result ← runStatement cls st true "update" autocommit
  writeKeys m opts result keys

/-- 更新。 -/
def update (cls : String) (conds values : Value) (opts : WriteOptions) : Run Value :=
  dispatch "update" cls conds (updateRows cls values opts)

/-- 削除の終端。 -/
def deleteRows (cls : String) (opts : WriteOptions) (conds : Value) : Run Value := do
  let m ← metaOf cls
  requireBound cls
  let autocommit := opts.autocommit.truthy
  checkWrite "delete" (some m.name) autocommit
  let (d, cat) ← context
  let st ← lift (Statement.delete d cat m conds opts)
  let keys ← preselect cls m conds opts "delete"
  let result ← runStatement cls st true "delete" autocommit
  writeKeys m opts result keys

/-- 削除。 -/
def delete (cls : String) (conds : Value) (opts : WriteOptions) : Run Value :=
  dispatch "delete" cls conds (deleteRows cls opts)

/-- 一括更新の前に読むキーの条件: キーの列が一つなら `(列, [値…])`、複数なら組の `IN`。 -/
def keyRowsCondition (resolved : List Column) (keyRows : List (List Value)) : Value :=
  match resolved with
  | [one] => Value.tuple [.column one, .list (keyRows.map fun r => r.headD .none)]
  | _ => .tupleIn (resolved.map Value.column) (keyRows.map Value.tuple)

/-- 一括更新の終端。 -/
def updateManyRows (cls : String) (keyColumns : List Value) (opts : WriteOptions) (rows : Value) : Run Value := do
  let m ← metaOf cls
  requireBound cls
  let autocommit := opts.autocommit.truthy
  checkWrite "update_many" (some m.name) autocommit
  let rowList ← lift rows.iterate
  let d := (← get).dialect
  let st ← lift (Statement.updateMany d m rowList keyColumns opts)
  let keys ← if ← needsPreselect m opts then do
      let resolved ← lift (m.resolveColumns keyColumns)
      let normalized ← rowList.mapM fun r => lift (m.normalizeRow r false)
      let keyRows := normalized.map fun row => resolved.map fun k => (row.get? k).getD .none
      preselect cls m (.list [keyRowsCondition resolved keyRows]) opts "update_many"
    else pure none
  let result ← runStatement cls st true "update_many" autocommit
  writeKeys m opts result keys

/-- 一括更新。 -/
def updateMany (cls : String) (rows : Value) (keyColumns : List Value) (opts : WriteOptions) : Run Value :=
  dispatch "update_many" cls rows (updateManyRows cls keyColumns opts)

/-- 値を方言に合わせる。 -/
def adaptAll (params : List Value) : Run (List Value) := do
  let d := (← get).dialect
  params.mapM fun p => lift (d.adaptParam p)

/-- モデルの生の SQL。 -/
def executeSql (cls : String) (sql : Value) (params : List Value) (autocommit : Bool) : Run Value := do
  requireBound cls
  let adapted ← adaptAll params
  let text ← lift sql.patternText
  runStatement cls ⟨text, adapted⟩ (Sql.isWriteStatement text) "execute" autocommit

/-- 生の検索の SQL からレコードを作る。 -/
def query (cls : String) (sql : Value) (params : List Value) : Run Value := do
  requireBound cls
  let adapted ← adaptAll params
  fetchSql cls sql adapted

end Session

end DataAccess
