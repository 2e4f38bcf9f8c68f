import DataAccess.Session.Relations
import DataAccess.Wire.Spec
import DataAccess.Wire.Encode
/-!
# 手順の台本

一連の手順を順に走らせ、手順ごとに結果（または失敗）と、前の答えの後に増えた記録を答える。

* 一番上の手順の失敗は答えに記録して次へ進む。
* トランザクション、書き手での読み取り、要求の区切りの本体の中では、失敗は本体へ投げ直し、
  本体を打ち切る。`catch` の付いた手順は失敗を答えに記録して続ける。
* 本体の結果は中の手順の答えの並び。
* 手順の欄（条件の並び、値、選択肢）は、その手順を走らせるときに目録で評価する。

手順には出てきた順に番号を振る。失敗を投げる手順は、自分が何度走ったか（やり直しも含めて）を
番号ごとに数える。
-/

namespace DataAccess

/-- 手順。`body` はトランザクションなどの本体。 -/
inductive Step where
  | mk (id : Nat) (op : String) (fields : List (String × Doc)) (caught : Bool) (body : List Step)
  deriving Inhabited

namespace Step

/-- 手順の並びを読む。番号は `next` から振り、次に使う番号も返す。 -/
def parseAll : Nat → Nat → List Doc → List Step × Nat
  | 0, next, _ => ([], next)
  | fuel + 1, next, docs =>
    docs.foldl (fun (acc : List Step × Nat) d =>
      let fs := Wire.fieldsOf d
      let op := (Wire.textOpt fs "op").getD ""
      let (body, after) := parseAll fuel (acc.2 + 1) (Wire.itemsOf fs "body")
      (acc.1 ++ [.mk acc.2 op fs (Wire.plainField fs "catch").truthy body], after)) ([], next)

/-- 台本を読む。 -/
def parse (docs : List Doc) : List Step :=
  (parseAll ((Doc.arr docs).depth + 1) 0 docs).1

end Step

namespace Session

/-- 記録の一行の答え。 -/
def entryDoc (e : Entry) : Doc := .arr [.str e.label, .str e.sql, .arr (Wire.encodeList e.params)]

/-- 前の答えの後に増えた記録を取り出す。 -/
def takeLog : Run Doc := do
  let s ← get
  let fresh := (s.log.take (s.log.length - s.reported)).reverse
  set { s with reported := s.log.length }
  return .arr (fresh.map entryDoc)

/-- 欄の評価。 -/
def evalField (fs : List (String × Doc)) (key : String) : Run Value := do
  lift ((Wire.termField fs key).eval (← get).catalog)

/-- 欄を条件の並びとして評価する。 -/
def evalConditions (fs : List (String × Doc)) (key : String) : Run Value := do
  lift ((Wire.conditionsField fs key).eval (← get).catalog)

/-- 配列の欄の各要素を評価する。 -/
def evalItems (fs : List (String × Doc)) (key : String) : Run (List Value) := do
  let cat := (← get).catalog
  (Wire.itemsOf fs key).mapM fun d => do lift ((Wire.termOf d).eval cat)

/-- 配列の欄の各要素を条件の並びとして評価する。 -/
def evalConditionLists (fs : List (String × Doc)) (key : String) : Run (List Value) := do
  let cat := (← get).catalog
  (Wire.itemsOf fs key).mapM fun d => do lift ((Wire.conditionsOf d).eval cat)

/-- 選択肢の欄（名前と評価した値）。 -/
def optionEntries (fs : List (String × Doc)) (key : String) : Run (List (String × Value)) := do
  match (Doc.obj fs).field? key with
  | some (.obj os) =>
    let cat := (← get).catalog
    os.mapM fun (k, d) => do return (k, ← lift ((Wire.termOf d).eval cat))
  | _ => return []

/-- 手順のモデル（宣言されたクラス）。 -/
def stepModel (fs : List (String × Doc)) : Run String := do
  let cls ← lift (Wire.text fs "model")
  if ((← get).catalog.find? cls).isNone then throw (Fault.missingKey cls)
  return cls

/-- 名前を付けて残した値。 -/
def storedValue (fs : List (String × Doc)) (key : String) : Run Value := do
  let name ← lift (Wire.text fs key)
  match assocGet? (← get).stored name with
  | some v => return v
  | none => throw (Fault.missingKey name)

/-- 残した値の中のレコード（並びなら `index` 番目、一件ならそれ）。 -/
def storedRecord (fs : List (String × Doc)) : Run Value := do
  let v ← storedValue fs "records"
  let index := (Wire.intOpt fs "index").getD 0
  match v with
  | .list xs | .tuple xs =>
    let i := if index < 0 then index + xs.length else index
    match xs[i.toNat]? with
    | some r => if i < 0 then throw (Fault.other "IndexError" "list index out of range") else return r
    | none => throw (Fault.other "IndexError" "list index out of range")
  | r => return r

/-- 接続の役目の欄（既定は書き手）。 -/
def roleOf (fs : List (String × Doc)) : Role :=
  if Wire.textOpt fs "driver" == some "reader" then .reader else .writer

/-- 予約する応答。 -/
def responseOf (d : Doc) : Run (Except Fault Value) := do
  let fs := Wire.fieldsOf d
  match (Doc.obj fs).field? "error" with
  | some spec => return .error (← lift (Wire.faultSpec spec))
  | none =>
    let rows ← evalItems fs "rows"
    return .ok (.result rows (Wire.plainField fs "row_count" (.int 0)) (Wire.plainField fs "last_insert_id"))

/-- 中継ぎの振る舞いを読む。 -/
def behaviourOf (d : Doc) : Run Behaviour := do
  let cat := (← get).catalog
  match d with
  | .str "pass" => return .pass
  | .str "trace" => return .trace
  | .str "twice" => return .twice
  | .str "swallow" => return .swallow
  | .obj (("short", v) :: _) => return .short (← lift ((Wire.termOf v).eval cat))
  | .obj (("raise", spec) :: _) => return .raise (← lift (Wire.faultSpec spec))
  | .obj (("add_condition", e) :: _) => return .addCondition (← lift ((Wire.entryOf e).eval cat))
  | .obj (("rewrite_sql", r) :: _) =>
    let rs := Wire.fieldsOf r
    let field := fun (k : String) => ((Doc.obj rs).field? k).map Wire.plain
    return .rewriteSql (field "from") (field "to")
  | .obj ((k, _) :: _) => return .unknown (.str k)
  | d => return .unknown (Wire.plain d)

/-- 中継ぎの指定を読む。`none` は中継ぎでない型（`object`）。名前で作った型は一度だけ作る。 -/
def middlewareOf (d : Doc) : Run (Option Middleware) := do
  match d with
  | .str "stats" => return some .statistics
  | .str "base" => return some .base
  | .str "object" => return none
  | .obj fs =>
    let name ← lift (Wire.text fs "name")
    match assocGet? (← get).defined name with
    | some m => return some m
    | none =>
      let hooks := match (Doc.obj fs).field? "hooks" with
        | some (.obj hs) => hs
        | _ => []
      let unknown := (hooks.map (·.1)).filter (!Middleware.hooks.contains ·)
      if !unknown.isEmpty then
        let names := unknown.mergeSort Unicode.textLE
        let listed := Value.list (names.map Value.str)
        throw (Fault.contract ("unknown middleware hooks: " ++ listed.repr) (some "hooks") (some listed))
      let behaviours ← hooks.mapM fun (h, b) => do return (h, ← behaviourOf b)
      -- 型の状態は足跡の空の並び（`{"log": []}`）で作る
      let m := Middleware.custom name behaviours []
      modify fun s => { s with defined := s.defined ++ [(name, m)] }
      return some m
  | _ => throw (Fault.other "ValueError" "unknown middleware")

/-- 中継ぎでない型を登録しようとした失敗。 -/
def notMiddleware : Fault :=
  Fault.contract "<class 'object'> is not a Middleware subclass" none (some (.cls "object"))

/-- 状態の答え。 -/
def stateDoc : Run Doc := do
  let s ← get
  let depth := s.transactionDepth
  return .obj [("depth", Doc.ofInt depth), ("in_transaction", .bool (depth > 0)),
    ("in_writer", .bool ((s.binding.map (·.readonly)).getD false)), ("sticky", .bool s.request.sticky),
    ("checkouts", .obj [("reader", Doc.ofInt (s.pool .reader).checkouts),
      ("writer", Doc.ofInt (s.pool .writer).checkouts)])]

/-- 溜まりが開いているかの答え。 -/
def connectedDoc : Run Doc := do
  let s ← get
  return .obj [("reader", .bool (s.pool .reader).connected), ("writer", .bool (s.pool .writer).connected)]

/-- 値を名前で残す（欄 `as` があれば）。 -/
def keep (fs : List (String × Doc)) (v : Value) : Run Doc := do
  match Wire.textOpt fs "as" with
  | some name => modify fun s => { s with stored := assocSet s.stored name v }
  | none => pure ()
  return Wire.encode v

/-- 本体を持たない手順を走らせ、結果の文書を返す。 -/
def perform (id : Nat) (op : String) (fs : List (String × Doc)) : Run Doc := do
  match op with
  | "find" | "find_one" =>
    let cls ← stepModel fs
    let conds ← evalConditions fs "conditions"
    let opts ← lift (FindOptions.ofFields (← optionEntries fs "options"))
    keep fs (← if op == "find" then find cls conds opts else findOne cls conds opts)
  | "find_by_id" =>
    let cls ← stepModel fs
    let keys ← evalField fs "keys"
    let opts ← lift (FindOptions.ofFields (← optionEntries fs "options"))
    keep fs (← findById cls keys opts)
  | "count" =>
    let cls ← stepModel fs
    let conds ← evalConditions fs "conditions"
    let opts ← lift (FindOptions.ofFields (← optionEntries fs "options"))
    keep fs (← count cls conds opts)
  | "create" =>
    let cls ← stepModel fs
    let values ← evalConditions fs "values"
    let opts ← lift (InsertOptions.ofFields (← optionEntries fs "options"))
    keep fs (← create cls values opts)
  | "create_many" =>
    let cls ← stepModel fs
    let rows ← evalConditionLists fs "rows"
    let opts ← lift (InsertOptions.ofFields (← optionEntries fs "options"))
    keep fs (← createMany cls (.list rows) opts)
  | "update" =>
    let cls ← stepModel fs
    let conds ← evalConditions fs "conditions"
    let values ← evalConditions fs "values"
    let opts ← lift (WriteOptions.ofFields (← optionEntries fs "options"))
    keep fs (← update cls conds values opts)
  | "update_many" =>
    let cls ← stepModel fs
    let rows ← evalConditionLists fs "rows"
    let keyColumns ← match ← evalField fs "key_columns" with
      | .column c => pure [Value.column c]
      | .str s => pure [Value.str s]
      | v => lift v.iterate
    let opts ← lift (WriteOptions.ofFields (← optionEntries fs "options"))
    keep fs (← updateMany cls (.list rows) keyColumns opts)
  | "delete" =>
    let cls ← stepModel fs
    let conds ← evalConditions fs "conditions"
    let opts ← lift (WriteOptions.ofFields (← optionEntries fs "options"))
    keep fs (← delete cls conds opts)
  | "execute" =>
    let cls ← stepModel fs
    let sql ← lift (Wire.plainNeed fs "sql")
    let params ← evalItems fs "params"
    keep fs (← executeSql cls sql params (Wire.plainField fs "autocommit").truthy)
  | "db_execute" =>
    let sql ← lift (Wire.plainNeed fs "sql")
    let params ← evalItems fs "params"
    keep fs (← executeRaw sql params (Wire.plainField fs "autocommit").truthy (Wire.textOpt fs "model_name"))
  | "query" =>
    let cls ← stepModel fs
    let sql ← lift (Wire.plainNeed fs "sql")
    let params ← evalItems fs "params"
    keep fs (← query cls sql params)
  | "raise" =>
    let s ← get
    let n := (assocGet? s.raised id).getD 0 + 1
    set { s with raised := assocSet s.raised id n }
    let spec ← lift (Wire.need fs "error")
    match Wire.plainField fs "times" with
    | .none => throw (← lift (Wire.faultSpec spec))
    | t => if ← lift (Value.greater (.int n) t) then return Doc.ofInt n else throw (← lift (Wire.faultSpec spec))
  | "queue" =>
    let responses ← (Wire.itemsOf fs "responses").mapM responseOf
    modify fun s => s.modifyPool (roleOf fs) fun p => { p with queue := p.queue ++ responses }
    return .null
  | "fail" =>
    let what ← lift (Wire.plainNeed fs "what")
    lift what.requireHashable
    let verb ← match what with
      | .str "begin" | .str "commit" | .str "rollback" => pure what.text
      | _ => throw (.foreign "KeyError" what.repr)
    let f ← lift (Wire.faultSpec (← lift (Wire.need fs "error")))
    let times := ((Wire.intOpt fs "times").getD 1).toNat
    modify fun s => s.modifyPool (roleOf fs) fun p =>
      { p with failures := p.failures ++ (List.replicate times (verb, f)) }
    return .null
  | "relation" =>
    let r ← storedRecord fs
    keep fs (← awaitAttribute r (← lift (Wire.text fs "relation")))
  | "load_relations" =>
    let _ ← stepModel fs
    -- 偽の値のレコードの並びには何もしない
    let stored ← storedValue fs "records"
    if stored.truthy then
      preload (← lift stored.iterate) ((Wire.itemsOf fs "names").filterMap Doc.str?)
    return .null
  | "clear_cache" =>
    let r ← storedRecord fs
    forget r (Wire.textOpt fs "name")
    return .null
  | "cached" =>
    let r ← storedRecord fs
    let rels := (← cachedRelations r).mergeSort fun a b => Unicode.textLE a.1 b.1
    let size := match ← batchRecords r with
      | some rs => Doc.ofInt rs.length
      | none => .null
    return .obj [("relations", .obj (rels.map fun (k, v) => (k, Wire.encode v))), ("batch_size", size)]
  | "state" => stateDoc
  | "connect" =>
    connect .reader
    if (← get).writer.isSome then connect .writer
    connectedDoc
  | "close" =>
    if (← get).writer.isSome then close .writer
    close .reader
    connectedDoc
  | "use" | "use_remove" =>
    match ← middlewareOf (← lift (Wire.need fs "middleware")) with
    | none => throw notMiddleware
    | some m =>
      use m
      if op == "use_remove" then removeMiddleware m
      return Wire.encode (← middlewareNames)
  | "remove" =>
    match ← middlewareOf (← lift (Wire.need fs "middleware")) with
    | some m => removeMiddleware m
    | none => pure ()
    return Wire.encode (← middlewareNames)
  | "clear_middlewares" =>
    modify fun s => { s with registry := [] }
    return .arr []
  | "mw_state" =>
    match ← middlewareOf (← lift (Wire.need fs "middleware")) with
    | none => throw (Fault.other "AttributeError" "'object' object has no attribute 'state'")
    | some m =>
      match ← instanceOf m with
      | .log es => return .obj [("log", .arr (es.map Doc.str))]
      | _ => throw (Fault.other "AttributeError" (quoteText m.name ++ " object has no attribute 'state'"))
  | "stats" => return .obj ((← statistics).map fun (k, n) => (k, Doc.ofInt n))
  | "stats_reset" =>
    resetStatistics
    return Doc.ofInt (((← statistics).getLast?.map (·.2)).getD 0)
  | "trace" => return .arr ((← get).trace.reverse.map Doc.str)
  | other => throw (Fault.other "ValueError" ("unknown step op " ++ quoteText other))

/-- 新しい要求の区切りの中で走らせる。 -/
def inScope {α : Type} (body : Run α) : Run α := do
  let saved := (← get).request
  modify fun s => { s with request := {} }
  try
    let r ← body
    modify fun s => { s with request := saved }
    return r
  catch e =>
    modify fun s => { s with request := saved }
    throw e

/-- 手順を `via` の指定（モデルを通すならモデルが結び付けられていること）で確かめる。 -/
def checkVia (fs : List (String × Doc)) : Run Unit := do
  if Wire.textOpt fs "via" == some "model" then
    requireBound (← stepModel fs)

mutual
/-- 手順を走らせて答える。`nested` なら本体の中（`catch` のない失敗は投げ直す）。 -/
def runStep (nested : Bool) : Step → Run Doc
  | .mk id op fs caught body => do
    try
      let result ← match op with
        | "transaction" => do
          let opts ← lift (TransactionOptions.ofFields (← optionEntries fs "options"))
          checkVia fs
          pure (Doc.arr (← transaction (runSteps true body) opts))
        | "with_writer" => do
          checkVia fs
          pure (Doc.arr (← withWriter (runSteps true body)))
        | "scope" => do pure (Doc.arr (← inScope (runSteps true body)))
        | _ => perform id op fs
      let log ← takeLog
      return .obj [("result", result), ("log", log)]
    catch e =>
      if nested && !caught then throw e
      let log ← takeLog
      match Wire.faultDoc e with
      | .obj items => return .obj (items ++ [("log", log)])
      | other => return other

/-- 手順を順に走らせる。 -/
def runSteps (nested : Bool) : List Step → Run (List Doc)
  | [] => pure []
  | s :: rest => do
    let a ← runStep nested s
    let more ← runSteps nested rest
    return a :: more
end

end Session

end DataAccess
