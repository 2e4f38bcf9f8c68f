import DataAccess.Request.Common
import DataAccess.Model.Record
import DataAccess.Model.Relation
import DataAccess.Sql.Statement
import DataAccess.Settings
/-!
# 部品を調べる要求

`?` の数え方と書き換え、失敗の組み立てと分類、列の補助、主キーの結果、
レコード、モデルの宣言とメタデータ、接続の記述を調べる要求。
-/

namespace DataAccess

namespace Request

/-- `?` の書き換えの名前から書き方を引く。 -/
def markerRender (name : String) : Option (Nat → String) :=
  match name with
  | "dollar" => some fun i => "$" ++ toString (i + 1)
  | "qmark" => some fun _ => "?"
  | "percent_s" => some fun _ => "%s"
  | "colon" => some fun i => ":" ++ toString i
  | _ => none

/-- 囲みの文字を決める値（`ch in quotes` で調べる値）から、囲みに使う文字を取り出す。
文字列はその文字、並び・組・辞書は一文字の文字列の要素（辞書はキー）。ほかの値は調べられない。 -/
def quoteChars (v : Value) : Except Fault (List Char) :=
  let single := fun (xs : List Value) => xs.filterMap fun x => match x with
    | .str s => match s.toList with
      | [c] => some c
      | _ => none
    | _ => none
  match v with
  | .str s => .ok s.toList
  | .list xs | .tuple xs => .ok (single xs)
  | .dict kvs => .ok (single (kvs.map (·.1)))
  | .bytes _ => .error (Fault.other "TypeError" "a bytes-like object is required, not 'str'")
  | v => .error (Fault.other "TypeError" ("argument of type '" ++ v.typeName ++ "' is not iterable"))

/-- `?` を数え、書き込みの文かを調べ（文字列でない文は数えたあとで失敗する）、
求められれば書き換える。書き方の名前は表を引くキーで、
ない名前はその字面の `KeyError`。囲みの文字を調べられない値は、囲みの外の文字を一つでも
調べるときに失敗する（`%` を二重にするなら `%` は調べない）。 -/
def placeholders (fs : Fields) : Except Fault Doc := do
  let given ← Wire.plainNeed fs "sql"
  let count ← Sql.markerCount given
  let sql ← given.patternText
  let base : List (String × Doc) :=
    [("count", Doc.ofInt count), ("is_write", .bool (Sql.isWriteStatement sql))]
  match (Doc.obj fs).field? "render" with
  | none => return .obj base
  | some r =>
    let key := Wire.plain r
    key.requireHashable
    let render ← match key.str?.bind markerRender with
      | some f => pure f
      | none => throw (.foreign "KeyError" key.repr)
    let escape := (Wire.plainField fs "escape_percent").truthy
    let quotes ← match (Doc.obj fs).field? "quotes" with
      | none => pure ['\'', '"']
      | some q =>
        match quoteChars (Wire.plain q) with
        | .ok cs => pure cs
        | .error e => if sql.toList.any (fun c => !(escape && c == '%')) then throw e else pure []
    let st : Sql.MarkerStyle := ⟨render, escape, quotes⟩
    return .obj (base ++ [("rewritten", .str (Sql.rewriteMarkers st sql))])

/-- 知らない名前の引数。 -/
def unexpectedArgument (cls key : String) : Fault :=
  Fault.other "TypeError" (cls ++ ".__init__() got an unexpected keyword argument " ++ quoteText key)

/-- 位置で渡した引数を名前でも渡した。 -/
def multipleValues (cls key : String) : Fault :=
  Fault.other "TypeError" (cls ++ ".__init__() got multiple values for argument " ++ quoteText key)

/-- 種類が自分で受け取る引数: 受け取る組み立ての名前、位置で渡る引数、名前で受け取る引数。
ほかの名前付きの引数は基底の組み立てに回る。 -/
def ownArguments (kind : LibKind) : Option (String × List String × List String) :=
  if kind.isContract then some ("ContractError", ["message"], ["field", "value", "constraint"])
  else if kind.isPolicy then some ("PolicyError", ["message"], ["operation", "model_name"])
  else if kind == .limit then
    some ("LimitExceededError", ["limit", "actual_count"], ["origin", "model_name", "relation_name"])
  else none

/-- 基底の組み立てが名前で受け取る引数。 -/
def baseArguments : List String := ["category", "retryable", "context", "cause"]

/-- 種類の組み立てで引数の名前を確かめ、基底に回る名前を返す。 -/
def ownLevel (kind : LibKind) (keys : List String) : Except Fault (List String) :=
  match ownArguments kind with
  | some (owner, positional, named) =>
    match keys.find? positional.contains with
    | some k => .error (multipleValues owner k)
    | none => .ok (keys.filter fun k => !named.contains k)
  | none => .ok keys

/-- 基底の組み立てで引数の名前を確かめる。名前の順に見て、最初の誤りを返す。 -/
def baseLevel (keys : List String) : Except Fault Unit :=
  match keys.find? fun k => k == "message" || !baseArguments.contains k with
  | some "message" => .error (multipleValues "TableSpineError" "message")
  | some k => .error (unexpectedArgument "TableSpineError" k)
  | none => .ok ()

/-- 名前付きの引数からライブラリの失敗を作り、文脈を足す。分類の名前は組み立ての前に読み、
種類の組み立て（上限超過では場所の名前を読む）、基底の組み立ての順に引数を確かめる。
空でない値を文脈として渡すと、その値は文脈の欄を持たないので、文脈に触れたところで失敗する。
引数の値は渡されたまま失敗の欄に入る。 -/
def libError (kind : LibKind) (message : Value) (limit actual : Value) (kwargs : List (String × Value))
    (extra : List (String × Value)) : Except Fault Fault := do
  let arg : String → Option Value := fun k => (kwargs.find? (·.1 == k)).map (·.2)
  let argD : String → Value := fun k => (arg k).getD .none
  let category ← match arg "category" with
    | none | some .none => pure none
    | some v =>
      match Category.ofName? v.text with
      | some c => pure (some c)
      | none => throw (Fault.other "ValueError" (v.repr ++ " is not a valid ErrorCategory"))
  let forwarded ← ownLevel kind (kwargs.map (·.1))
  let origin ← if kind == .limit then Wire.limitOrigin ((arg "origin").getD (.str "find")) else pure .find
  baseLevel forwarded
  let context := (arg "context").filter Value.truthy
  let base := match kind with
    | .limit => Fault.limitExceeded limit actual origin (argD "model_name") (argD "relation_name")
    | k =>
      if k.isPolicy then Fault.policy k message (argD "operation") (argD "model_name")
      else Fault.lib { kind := k, message }
  match context with
  | some c =>
    if kind.isPolicy then throw (Fault.noAttribute c "operation")
    if kind == .limit then throw (Fault.noAttribute c "model")
    throw (Fault.noAttribute c (if extra.isEmpty then "to_dict" else "metadata"))
  | none => pure ()
  match base with
  | .lib e =>
    let retryable := match arg "retryable" with
      | none | some .none => e.retryable
      | some v => v
    let e := { e with category := category.getD e.category, retryable, cause := (arg "cause").map Value.text,
                      field := argD "field", value := Fault.present (argD "value"),
                      constraint := argD "constraint" }
    return Fault.withContext (.lib e) extra
  | f => return f

/-- 失敗の分類の答え（再試行の可否の値、競合の文、方言ごとの一時的な衝突）。 -/
def classification (f : Fault) : Except Fault (List (String × Doc)) := do
  let signals ← f.signalsConflict
  let sqlite ← Dialect.sqlite.isTransientConflict f
  let postgresql ← Dialect.postgresql.isTransientConflict f
  let mysql ← Dialect.mysql.isTransientConflict f
  return [("retryable", Wire.encode f.retryableValue), ("signals_conflict", .bool signals),
   ("transient", .obj [("sqlite", .bool sqlite), ("postgresql", .bool postgresql), ("mysql", .bool mysql)])]

/-- 失敗を組み立てて、文・字面・辞書・分類を答える。 -/
def errorObject (defaults : List ModelSpec) (fs : Fields) : Except Fault Doc := do
  let cat ← catalogFor defaults fs
  let kindName ← Wire.text fs "kind"
  let kind? := LibKind.ofName? kindName
  let message ← match kind? with
    | some k => if k.isPolicy || k == .limit then value cat fs "message" else needValue cat fs "message"
    | none => needValue cat fs "message"
  let kind ← match kind? with
    | some k => pure k
    | none => throw (Fault.missingKey kindName)
  let kwargs ← optionFields cat fs "kwargs"
  let f ← libError kind message (← value cat fs "limit") (← value cat fs "actual_count") kwargs
    (← optionFields cat fs "with_context")
  match f with
  | .lib e =>
    return .obj ([("str", .str e.text), ("repr", .str e.reprText),
      ("dict", .obj (Wire.errorFields e))] ++ (← classification f))
  | other => return .obj (← classification other)

/-- 失敗の指定を分類する。 -/
def conflict (fs : Fields) : Except Fault Doc := do
  return .obj (← classification (← Wire.faultSpec (← Wire.need fs "error")))

/-- 列を調べる。列でない値には、その値の文字表記・字面・等しさを答え、列の属性は持たない。 -/
def columnProbe (defaults : List ModelSpec) (fs : Fields) : Except Fault Doc := do
  let cat ← catalogFor defaults fs
  let col ← value cat fs "col"
  let result := fun (v : Value) => Except.ok (Doc.obj [("result", Wire.encode v)])
  match ← Wire.text fs "method", col with
  | "str", v => result (.str v.text)
  | "repr", v => result (.str v.repr)
  | "same", v => do
    match Value.compareEq v (← value cat fs "other") with
    | some r => result (.bool r)
    | none => throw (Fault.other "InvalidOperation" Number.DecimalNumber.invalidOperation)
  | "call", .column c => result (.str c.name)
  | "call", v => throw (Fault.other "TypeError" (quoteText v.typeName ++ " object is not callable"))
  | "qualified", .column c => result (.str c.qualified)
  | "key", .column c => result (.tuple [.str c.model, .str c.name])
  | m, v => result (← columnHelper v m (← values cat fs "args"))

/-- 列の属性を読む（列でない値は属性 `attr` を持たない）。 -/
def columnField (v : Value) (attr : String) (get : Column → String) : Except Fault String :=
  match v with
  | .column c => .ok (get c)
  | v => .error (Fault.noAttribute v attr)

/-- 主キーの結果を調べる。`rows` があれば行を列名で引いて作る。答えは長さ、最初の行、
属性名をキーにした辞書の並び、行の並び。 -/
def pkeyProbe (defaults : List ModelSpec) (fs : Fields) : Except Fault Doc := do
  let cat ← catalogFor defaults fs
  let key ← values cat fs "key"
  let result ← match (Doc.obj fs).field? "rows" with
    | some _ =>
      let rows ← values cat fs "rows"
      let picked ← rows.mapM fun row => do
        let vals ← key.mapM fun k => do row.getItem (.str (← columnField k "column_name" (·.name)))
        pure (Value.tuple vals)
      pkeyOf (.tuple key) picked
    | none => pkeyOf (.tuple key) (← values cat fs "values")
  match result with
  | .pkey k rows =>
    let first := rows.headD .none
    let names ← k.mapM fun c => columnField c "property_name" (·.property)
    let dicts := rows.map fun r => Value.dict ((names.zip ((r.tupleItems?).getD [])).map fun (n, v) => (.str n, v))
    return .obj [("len", Doc.ofInt rows.length), ("first", Wire.encode first),
      ("as_dicts", .arr (dicts.map Wire.encode)), ("values", .arr (rows.map Wire.encode))]
  | _ => return .null

/-- 辞書の項目を文字列キーの欄にする。 -/
def namedEntries (v : Value) : List (String × Value) :=
  match v with
  | .dict kvs => kvs.map fun (k, v) => (k.text, v)
  | _ => []

/-- レコードの `get` の形。 -/
def getSignature : Signature := { callee := "Model.get", params := ["name", "default"], optional := 1 }

/-- レコードを作って調べる。`row` があれば行から、なければ名前付きの引数から作り、
`set` の値を属性に置いてから、字面、辞書、主キー、`get` と属性の読み出しを答える。 -/
def instanceProbe (defaults : List ModelSpec) (fs : Fields) : Except Fault Doc := do
  let cat ← catalogFor defaults fs
  let cls ← Wire.text fs "model"
  let m ← cat.metaOf cls
  let record ← match (Doc.obj fs).field? "row", (Doc.obj fs).field? "kwargs" with
    | some _, _ =>
      match ← value cat fs "row" with
      | .dict kvs => cat.recordOfRow cls 0 kvs
      | v => throw (Fault.noAttribute v "items")
    | none, none => cat.instantiate cls 0 []
    | none, some _ =>
      match ← value cat fs "kwargs" with
      | .dict kvs =>
        let named ← kvs.mapM fun (k, v) => match k with
          | .str s => pure (s, v)
          | _ => throw (Fault.other "TypeError" "keywords must be strings")
        cat.instantiate cls 0 named
      | v => throw (Fault.other "TypeError" ("models." ++ cls ++ "() argument after ** must be a mapping, not " ++
          v.typeName))
  let assigned := namedEntries (← value cat fs "set")
  let record := assigned.foldl (fun r (k, v) =>
    match cat.attr? cls k with
    | some (.column c) => r.recordSet c.property v
    | _ => r) record
  -- 列でない名前への代入は、そのインスタンスだけの属性になる（主キーの組は読むだけ）
  let own := assigned.filter fun (k, _) => match cat.attr? cls k with
    | some (.column _) => false
    | _ => true
  if own.any (·.1 == "pkey") then
    throw (Fault.other "AttributeError" ("property 'pkey' of " ++ quoteText cls ++ " object has no setter"))
  -- インスタンスの属性はクラスのメソッドより先に見つかる
  let ownValue := fun (name : String) => (own.reverse.find? (·.1 == name)).map (·.2)
  let dict ← match ownValue "to_dict" with
    | some v => throw (notCallable v)
    | none => pure record.recordDict
  let gets ← (← fieldItems fs "get").mapM fun d => do
    let args ← (← Wire.docItems d).mapM fun a => do (Wire.termOf a).eval cat
    match ownValue "get" with
    | some v => throw (notCallable v)
    | none =>
      getSignature.check args.length
      pure (Wire.encode (← record.recordGet (args.getD 0 .none) (args.getD 1 .none)))
  let attrs ← (Wire.itemsOf fs "attrs").mapM fun d => do
    match d with
    | .str p =>
      match cat.attr? cls p with
      | some (.column c) =>
        match record with
        | .record _ _ vals _ => pure (Wire.encode (((vals.find? (·.1 == c.property)).map (·.2)).getD .none))
        | _ => pure .null
      | found =>
        if p == "pkey" then pure (Wire.encode (record.recordKey m))
        else match own.reverse.find? (·.1 == p), found with
          | some (_, v), _ => pure (Wire.encode v)
          | none, some _ => pure .null
          | none, none => throw (Fault.noAttribute record p)
    | _ => pure .null
  return .obj [("repr", .str record.repr), ("dict", Wire.encode dict),
    ("pkey", Wire.encode (record.recordKey m)), ("get", .arr gets), ("attrs", .arr attrs)]

/-- あってもなくてもよい整数。 -/
def intDoc : Option Int → Doc
  | some i => Doc.ofInt i
  | none => .null

/-- メタデータの答え。 -/
def metaDoc (m : Meta) : Doc :=
  .obj [("name", .str m.name), ("tag", .str m.tag), ("table", .str m.table), ("write_table", .str m.writeTable),
    ("is_query_based", .bool m.isQueryBased),
    ("columns", .arr ((m.columns.zip m.declared).map fun (c, pk, sqlType) => .obj [("column", .str c.name),
      ("property", .str c.property), ("table", .str c.table), ("sql_type", Wire.encode sqlType),
      ("pk", Wire.encode pk)])),
    ("primary_key", .arr (m.primaryKey.map fun c => .str c.name)),
    ("query", Wire.textDoc m.query), ("query_params", .arr (Wire.encodeList m.queryParams)),
    ("default_filter", .arr (Wire.encodeList m.defaultFilter)),
    ("default_order", .arr (Wire.encodeList m.defaultOrder)),
    ("default_group", .arr (Wire.encodeList m.defaultGroup)),
    ("find_hard_limit", Wire.encode m.findHardLimit), ("has_many_hard_limit", Wire.encode m.hasManyHardLimit),
    ("relations", .arr ((m.relations.mergeSort Unicode.textLE).map Doc.str))]

/-- 解決した関連の答え。 -/
def relationDoc (r : Relation) : Doc :=
  .obj [("kind", .str r.kind.className), ("target", .str r.target),
    ("key_pairs", .arr (r.keyPairs.map fun (l, f) => .arr [Wire.columnDoc l, Wire.columnDoc f])),
    ("order", .arr (Wire.encodeList r.order)), ("where", .arr (Wire.encodeList r.filter)),
    ("hard_limit", Wire.encode r.hardLimit)]

/-- クラスの属性を引く: 列か関連の参照。名前が文字列でなければ引けず、ない名前は属性の失敗。 -/
def classAttribute (cat : Catalog) (cls : String) (name : Value) : Except Fault Value :=
  match name with
  | .str n =>
    match cat.attr? cls n with
    | some (.column c) => .ok (.column c)
    | some (.relation owner r) => .ok (.relationRef owner r.name r.kind.keyword)
    | _ => .error (Fault.noAttribute (.model cls) n)
  | v => .error (Fault.other "TypeError" ("attribute name must be string, not '" ++ v.typeName ++ "'"))

/-- 名前か列名で列を引く。文字列でない名前に合う列はない。 -/
def columnByName (m : Meta) (name : Value) : Except Fault Column :=
  match name with
  | .str n => m.column n
  | v => .error (.lib { kind := .contract, message := .str (m.name ++ " has no column " ++ v.repr), field := v })

/-- 標識でメタデータを引く。文字列でない標識のモデルはない。 -/
def metaByTag (cat : Catalog) (tag : Value) : Except Fault Meta := do
  tag.requireHashable
  match tag with
  | .str t => cat.modelMeta t
  | v =>
    let message := "no model declared with tag " ++ v.repr
    throw (.lib { kind := .contract, message := .str message, field := .str "model_tag", value := some v })

/-- 宣言を調べる呼び出し `[名前, 引数]`。名前で呼び方を引き（ない名前は `KeyError`）、
引数を使う呼び方だけが引数を値として読む。 -/
def declCall (cat : Catalog) (cls : String) (call : Doc) : Doc :=
  Wire.answer do
    let shape := Wire.plain call
    let name ← shape.getItem (.int 0)
    let arg := fun (_ : Unit) => do
      let a ← shape.getItem (.int 1)
      match call with
      | .arr (_ :: d :: _) => (Wire.termOf d).eval cat
      | _ => pure a
    let result := fun (v : Value) => Except.ok (Doc.obj [("result", Wire.encode v)])
    name.requireHashable
    match name with
    | .str "column" => result (.column (← columnByName (← cat.metaOf cls) (← arg ())))
    | .str "require_writable" => do (← cat.metaOf cls).requireWritable (← arg ()).text; result .none
    | .str "require_primary_key" =>
      result (.tuple ((← (← cat.metaOf cls).requirePrimaryKey (← arg ()).text).map Value.column))
    | .str "get_model_meta" => result (.modelMeta (← metaByTag cat (← arg ())).tag)
    | .str "resolve" =>
      match ← classAttribute cat cls (← arg ()) with
      | .relationRef owner r _ =>
        match cat.relationDecl? owner r with
        | some (o, decl) => return .obj [("result", relationDoc (← cat.resolveRelation o decl))]
        | none => throw (Fault.noAttribute (.model owner) r)
      | v => throw (Fault.noAttribute v "resolve")
    | .str "relation_repr" => result (.str (← classAttribute cat cls (← arg ())).repr)
    | .str "database" =>
      throw (Fault.unbound cls)
    | v => throw (.foreign "KeyError" v.repr)

/-- 宣言とメタデータを調べる。モデルを指すときだけ、メタデータと呼び出しの答えを持つ。 -/
def declaration (defaults : List ModelSpec) (fs : Fields) : Except Fault Doc := do
  let cat ← catalogFor defaults fs
  let tags := Doc.arr (cat.registeredTags.map Doc.str)
  match Wire.textOpt fs "model" with
  | none => return .obj [("tags", tags)]
  | some cls =>
    if (cat.find? cls).isNone then throw (Fault.missingKey cls)
    let metaAnswer := match cat.metaOf cls with
      | .ok m => metaDoc m
      | .error _ => .null
    let calls := Doc.arr ((← fieldItems fs "calls").map (declCall cat cls))
    return .obj [("tags", tags), ("meta", metaAnswer), ("calls", calls)]

/-- 接続の記述を作り、接続の文字列、既定のポート、方言を答える。 -/
def connectionProbe (defaults : List ModelSpec) (fs : Fields) : Except Fault Doc := do
  let cat ← catalogFor defaults fs
  let c ← ConnectionConfig.ofFields (namedEntries (← value cat fs "config"))
  return .obj [("dsn", .str c.dsn), ("default_port", intDoc c.defaultPort), ("dialect", .str c.dialect.name)]

end Request

end DataAccess
