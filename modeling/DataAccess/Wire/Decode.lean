import DataAccess.Json.Doc
import DataAccess.Term.Basic
import DataAccess.Fault
/-!
# JSON から式へ

JSON の文書を値の式 `Term` に読む。スカラーはそのまま、配列は並び、`"$"` のない
オブジェクトは文字列キーの辞書。`"$"` のあるオブジェクトは標識、列、述語などの印付きの値。

条件の並びの読み方は値と少し違う: 並びの要素の配列はキーと値の組（組 `tuple`）になる。

数は小数点か指数があれば浮動小数、なければ任意の大きさの整数。
入れ子の深さに比例する燃料で読むので、どの文書も有限の手順で読み終わる
（一段の入れ子で燃料を高々四つ使う）。
-/

namespace DataAccess

namespace Wire

/-- 欄が足りないときの失敗（欠けたキーの `KeyError`）。 -/
def need (fields : List (String × Doc)) (key : String) : Except Fault Doc :=
  match (Doc.obj fields).field? key with
  | some d => .ok d
  | none => .error (Fault.missingKey key)

/-- 文字列の欄。 -/
def text (fields : List (String × Doc)) (key : String) : Except Fault String := do
  match ← need fields key with
  | .str s => .ok s
  | _ => .error (Fault.other "TypeError" (key ++ " must be a string"))

/-- あってもなくてもよい文字列の欄（`null` もなし）。 -/
def textOpt (fields : List (String × Doc)) (key : String) : Option String :=
  ((Doc.obj fields).field? key).bind Doc.str?

/-- 配列の欄（なければ空）。 -/
def itemsOf (fields : List (String × Doc)) (key : String) : List Doc :=
  (((Doc.obj fields).field? key).bind Doc.items?).getD []

/-- JSON の数を値にする。小数点か指数があれば浮動小数。`NaN`、`Infinity`、`-Infinity` は
非数と無限大の浮動小数。 -/
def number (t : String) : Value :=
  match t with
  | "NaN" => .float (0 / 0)
  | "Infinity" => .float (1 / 0)
  | "-Infinity" => .float (-1 / 0)
  | _ =>
    match Number.Numeral.read? t with
    | some n => if n.fractional then .float n.decimal.toFloat
      else .int (if n.decimal.negative then -(n.decimal.coefficient : Int) else n.decimal.coefficient)
    | none => .str t

mutual
/-- JSON の値をそのまま値にする（`"$"` の印は読まない）。 -/
def plain : Doc → Value
  | .null => .none
  | .bool b => .bool b
  | .num t => number t
  | .str s => .str s
  | .arr xs => .list (plainItems xs)
  | .obj fs => .dict (plainFields fs)

/-- 配列の要素をそのまま値にする。 -/
def plainItems : List Doc → List Value
  | [] => []
  | d :: ds => plain d :: plainItems ds

/-- オブジェクトの欄をそのまま辞書の項目にする。 -/
def plainFields : List (String × Doc) → List (Value × Value)
  | [] => []
  | (k, d) :: rest => (.str k, plain d) :: plainFields rest
end

/-- 欄の値をそのまま（なければ `default`）。 -/
def plainField (fields : List (String × Doc)) (key : String) (default : Value := .none) : Value :=
  ((Doc.obj fields).field? key).map plain |>.getD default

/-- なければ `KeyError` になる欄の値をそのまま。 -/
def plainNeed (fields : List (String × Doc)) (key : String) : Except Fault Value :=
  (need fields key).map plain

/-- 上限超過の場所の名前を読む。 -/
def limitOrigin (v : Value) : Except Fault LimitOrigin :=
  match v with
  | .str "find" => .ok .find
  | .str "relation" => .ok .relation
  | _ => .error (Fault.other "ValueError" (v.repr ++ " is not a valid LimitOrigin"))

/-- 名前で作れる、ライブラリの外の失敗の種類。 -/
def plainExceptions : List String := ["ValueError", "RuntimeError", "Exception"]

/-- 失敗の指定から失敗を作る。種類の既定はドライバの失敗、文の既定は空の文字列。
欄の値はそのまま渡す。上限超過は上限と行数が要り、場所の名前が違えば作れない。
知らない種類はその名前の `KeyError`。 -/
def faultSpec (d : Doc) : Except Fault Fault := do
  let fs := match d with
    | .obj fs => fs
    | _ => []
  let kind := plainField fs "kind" (.str "DbError")
  let message := plainField fs "message" (.str "")
  match kind with
  | .str "DbError" => return .driver message (plainField fs "errno") (plainField fs "sqlstate")
  | .str name =>
    match LibKind.ofName? name with
    | some .limit =>
      let limit ← plainNeed fs "limit"
      let actual ← plainNeed fs "actual_count"
      let origin ← limitOrigin (plainField fs "origin" (.str "find"))
      return Fault.limitExceeded limit actual origin .none .none
    | some k =>
      if k.isPolicy then
        return Fault.policy k (plainField fs "message") (plainField fs "operation") (plainField fs "model_name")
      else return .lib { kind := k, message }
    | none =>
      if plainExceptions.contains name then return .foreign name message.text
      else throw (.foreign "KeyError" kind.repr)
  | _ => throw (.foreign "KeyError" kind.repr)

/-- 整列の向き（値 `ASC` か `DESC`）。 -/
def direction (v : Value) : Except Fault Direction :=
  match v with
  | .str "ASC" => .ok .asc
  | .str "DESC" => .ok .desc
  | _ => .error (Fault.other "ValueError" (v.repr ++ " is not a valid SortDirection"))

/-- NULL の置き場所（値 `FIRST` か `LAST`）。 -/
def nullsPlacement (v : Value) : Except Fault NullsPlacement :=
  match v with
  | .str "FIRST" => .ok .first
  | .str "LAST" => .ok .last
  | _ => .error (Fault.other "ValueError" (v.repr ++ " is not a valid NullsOrder"))

/-- 文書の要素を順に取り出す。配列は要素、文字列は一文字ずつ、オブジェクトはキー。 -/
def docItems (d : Doc) : Except Fault (List Doc) :=
  match d with
  | .arr xs => .ok xs
  | .str s => .ok (s.toList.map fun c => .str c.toString)
  | .obj fs => .ok (fs.map fun (k, _) => .str k)
  | d => .error (Fault.other "TypeError" ("'" ++ (plain d).typeName ++ "' object is not iterable"))

/-- 文書を二つの要素に分ける。要素の数が二つでなければ失敗。 -/
def docPair (d : Doc) : Except Fault (Doc × Doc) :=
  match d with
  | .arr _ | .str _ | .obj _ => do
    match ← docItems d with
    | [k, v] => pure (k, v)
    | xs =>
      if xs.length > 2 then throw (Fault.other "ValueError" "too many values to unpack (expected 2)")
      else throw (Fault.other "ValueError" ("not enough values to unpack (expected 2, got " ++
        toString xs.length ++ ")"))
  | d => .error (Fault.other "TypeError" ("cannot unpack non-iterable " ++ (plain d).typeName ++ " object"))

/-- 浮動小数にする。文字列は浮動小数の字面として読み、整数は最も近い値に丸める。 -/
def floatOf (v : Value) : Except Fault Value :=
  match v with
  | .float x => .ok (.float x)
  | .bool b => .ok (.float (if b then 1 else 0))
  | .int i =>
    let x := Float.ofInt i
    if x.isInf then .error (Fault.other "OverflowError" "int too large to convert to float") else .ok (.float x)
  | .str s =>
    match Number.floatOfText? s with
    | some x => .ok (.float x)
    | none => .error (Fault.other "ValueError" ("could not convert string to float: " ++ quoteText s))
  | v => .error (Fault.other "TypeError" ("float() argument must be a string or a real number, not '" ++
      v.typeName ++ "'"))

/-- 知らない印。 -/
def unknownTag (tag : Value) : Fault := .foreign "KeyError" (quoteText ("unknown tag " ++ tag.text))

/-- 燃料切れ。燃料を深さの四倍より多く渡すので起こらない。 -/
def tooDeep : Fault := Fault.other "RecursionError" "maximum recursion depth exceeded"

/-- 読みの途中の計算。読めた部分式を順に覚えておく。 -/
abbrev Reading := ExceptT Fault (StateM (List Term))

namespace Reading

/-- 失敗しうる読みを持ち上げる。 -/
def lift {α : Type} (x : Except Fault α) : Reading α :=
  match x with
  | .ok a => pure a
  | .error f => throw f

/-- 読めた部分式を覚えて返す。 -/
def keep (t : Term) : Reading Term := do
  modify (· ++ [t])
  return t

/-- 読めた部分式の並びを覚えて返す。 -/
def keepAll (ts : List Term) : Reading (List Term) := do
  modify (· ++ ts)
  return ts

/-- 読みを終えて式にする。読みそこなえば、それまでに読めた部分式を評価してから失敗する式。 -/
def finish (r : Reading Term) : Term :=
  match Id.run ((ExceptT.run r).run []) with
  | (.ok t, _) => t
  | (.error f, before) => .failed before f

end Reading

/-- 欄の要素を順に取り出す（なければ空、あれば要素を取り出せなければ失敗）。 -/
def itemsField (fields : List (String × Doc)) (key : String) : Except Fault (List Doc) :=
  match (Doc.obj fields).field? key with
  | some d => docItems d
  | none => .ok []

mutual
/-- 値の式として読む。 -/
def term : Nat → Doc → Term
  | 0, _ => .failed [] tooDeep
  | _, .null => .lit .none
  | _, .bool b => .lit (.bool b)
  | _, .num t => .lit (number t)
  | _, .str s => .lit (.str s)
  | n + 1, .arr xs => .list (xs.map (term n))
  | n + 1, .obj fields =>
    match (Doc.obj fields).field? "$" with
    | none => .dict (fields.map fun (k, d) => (k, term n d))
    | some (.str tag) => tagged n tag fields
    | some t => .failed [] (unknownTag (plain t))

/-- 条件の並びとして読む。配列の要素の配列は組。 -/
def conditions : Nat → Doc → Term
  | 0, _ => .failed [] tooDeep
  | n + 1, .arr xs => .list (xs.map (entry n))
  | n + 1, d => term n d

/-- 条件の並びの要素として読む。配列は組。 -/
def entry : Nat → Doc → Term
  | 0, _ => .failed [] tooDeep
  | n + 1, .arr xs => .tuple (xs.map (term n))
  | n + 1, d => term n d

/-- あってもなくてもよい条件の並びの欄。 -/
def conditionsOpt : Nat → List (String × Doc) → String → Term
  | 0, _, _ => .failed [] tooDeep
  | n + 1, fields, key =>
    match (Doc.obj fields).field? key with
    | some d => conditions n d
    | none => .lit .none

/-- 呼び出しの引数: 配列なら各要素、ほかはその値一つ。 -/
def arguments : Nat → Doc → List Term
  | 0, _ => [.failed [] tooDeep]
  | n + 1, .arr xs => xs.map (term n)
  | n + 1, d => [term n d]

/-- 条件の並びを組み立てる一つの操作: `add`、なければ `add_if`、どちらもなければ `extend`。 -/
def listOp : Nat → Doc → Term
  | 0, _ => .failed [] tooDeep
  | n + 1, d =>
    match d.field? "add", d.field? "add_if" with
    | some a, _ => .listAdd (arguments n a)
    | none, some a => .listAddIf (arguments n a)
    | none, none =>
      let fields := match d with
        | .obj fs => fs
        | _ => []
      match need fields "extend" with
      | .ok c => .extend (conditions n c)
      | .error f => .failed [] f

/-- 印付きの値。欄は左から読み、読みそこなえばそこまでの部分式を前に置いて失敗する。 -/
def tagged : Nat → String → List (String × Doc) → Term
  | 0, _, _ => .failed [] tooDeep
  | n + 1, tag, fields =>
    let sub := fun (key : String) => do Reading.keep (term n (← Reading.lift (need fields key)))
    let field := fun (key : String) => Reading.lift (plainNeed fields key)
    let subs := fun (docs : List Doc) => Reading.keepAll (docs.map (term n))
    Reading.finish do
    match tag with
    | "SKIP" => pure (.lit (.marker .skip))
    | "NULL" => pure (.lit (.marker .null))
    | "NOT_NULL" => pure (.lit (.marker .notNull))
    | "NOW" => pure (.lit (.marker .now))
    | "raw" => return .lit (.raw (← field "sql"))
    | "dynamic" => do
      let sql ← field "sql"
      return .dynamic sql (← subs (← Reading.lift (itemsField fields "params")))
    | "col" => return .column (← field "ref")
    | "model" => return .model (← field "name")
    | "meta" => return .modelMeta (← field "name")
    | "parent_ref" => return .parentRef (← sub "col")
    | "tuple" => return .tupleOf (← sub "items")
    | "dict" => do
      match ← Reading.lift (need fields "value") with
      | .obj fs => return .dict (← fs.mapM fun (k, d) => return (k, ← Reading.keep (term n d)))
      | d => throw (Fault.noAttribute (plain d) "items")
    | "map" => do
      let items ← Reading.lift (docItems (← Reading.lift (need fields "items")))
      let entries ← items.mapM fun d => do
        let (k, v) ← Reading.lift (docPair d)
        let key ← Reading.keep (entry n k)
        return (key, ← Reading.keep (term n v))
      return .map entries
    | "float" => return .lit (← Reading.lift (floatOf (← field "value")))
    | "exc" => return .lit (← Reading.lift (faultSpec (.obj fields))).toValue
    | "bytes" => return .fromHex (← field "hex")
    | "decimal" => return .decimal (← field "value")
    | "date" => return .date (← field "iso")
    | "datetime" => return .datetime (← field "iso")
    | "time" => return .time (← field "iso")
    | "uuid" => return .uuid (← field "value")
    | "order" => do
      let col ← sub "col"
      let dir ← Reading.lift (direction (plainField fields "dir" (.str "ASC")))
      let nulls := plainField fields "nulls"
      let placement ← if nulls.truthy then some <$> Reading.lift (nullsPlacement nulls) else pure none
      return .order col dir placement
    | "cmp" => do
      let col ← sub "col"
      let op ← field "op"
      return .comparison col op (← sub "value")
    | "between" => do
      let col ← sub "col"
      let low ← sub "low"
      return .between col low (← sub "high")
    | "tuple_in" => do
      let cols ← sub "cols"
      return .tupleIn cols (← sub "rows")
    | "or" => do
      let groups ← Reading.lift (docItems (← Reading.lift (need fields "groups")))
      return .orGroups (← Reading.keepAll (groups.map (conditions n)))
    | "raw_cond" => do
      let sql ← field "sql"
      return .rawCondition sql (← subs (← Reading.lift (itemsField fields "params")))
    | "in_subquery" => do
      let pairs ← sub "pairs"
      let conds ← Reading.keep (conditionsOpt n fields "conditions")
      return .inSubquery pairs conds (plainField fields "negate").truthy
    | "exists" => do
      let target ← sub "target"
      let conds ← Reading.keep (conditionsOpt n fields "conditions")
      return .existsIn target conds (plainField fields "negate").truthy
    | "call" => do
      let col ← sub "col"
      let method ← field "method"
      return .call col method (← subs (← Reading.lift (itemsField fields "args")))
    | "condlist" => do
      let ops ← Reading.lift (docItems (← Reading.lift (need fields "ops")))
      return .condList (← Reading.keepAll (ops.map (listOp n)))
    | "pkey" => do
      let key ← subs (← Reading.lift (docItems (← Reading.lift (need fields "key"))))
      let rows ← subs (← Reading.lift (docItems (← Reading.lift (need fields "values"))))
      return .pkey key rows
    | "umcol" => do
      let name ← field "name"
      let role ← field "role"
      return .updateColumn name role (plainField fields "sql_type") (plainField fields "target")
    | _ => throw (unknownTag (.str tag))
end

/-- 文書を値の式として読む。 -/
def termOf (d : Doc) : Term := term (4 * d.depth + 4) d

/-- 文書を条件の並びとして読む。 -/
def conditionsOf (d : Doc) : Term := conditions (4 * d.depth + 4) d

/-- 文書を条件の並びの要素として読む。 -/
def entryOf (d : Doc) : Term := entry (4 * d.depth + 4) d

/-- 文書を値の式として読み、読みそこないがあればすぐに失敗する。 -/
def strictTermOf (d : Doc) : Except Fault Term :=
  let t := termOf d
  match t.firstFailure? (4 * d.depth + 8) with
  | some f => .error f
  | none => .ok t

/-- 文書を条件の並びとして読み、読みそこないがあればすぐに失敗する。 -/
def strictConditionsOf (d : Doc) : Except Fault Term :=
  let t := conditionsOf d
  match t.firstFailure? (4 * d.depth + 8) with
  | some f => .error f
  | none => .ok t

end Wire

end DataAccess
