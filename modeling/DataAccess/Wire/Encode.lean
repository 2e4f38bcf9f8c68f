import DataAccess.Json.Doc
import DataAccess.Value.Text
import DataAccess.Fault
import DataAccess.Sql.Statement
import DataAccess.Sql.Placeholder
import DataAccess.Dialect
/-!
# 値から JSON へ

値を JSON の文書に書く。JSON にある値（NULL、真偽、整数、浮動小数、文字列、並び、
文字列キーの辞書）はそのまま、ほかは `"$"` に型の名前を持つオブジェクト。

浮動小数は最短で元に戻る十進の字面で書く（`1.5`, `-0.0`, `1e+300`）。
失敗は種類、文、ライブラリの失敗なら詳細（分類、再試行の可否、文脈、種類ごとの欄）にする。
-/

namespace DataAccess

namespace Wire

/-- 印付きのオブジェクト。 -/
def tag (t : String) (fields : List (String × Doc)) : Doc := .obj (("$", .str t) :: fields)

/-- 浮動小数。有限でなければ印付きの字面。 -/
def floatDoc (x : Float) : Doc :=
  if x.isFinite then .num (Value.floatText x) else tag "float" [("value", .str (Value.floatText x))]

/-- バイト列の十六進。 -/
def hexText (bs : List UInt8) : String :=
  String.join (bs.map fun b => hexDigits 2 b.toNat)

/-- 列。 -/
def columnDoc (c : Column) : Doc :=
  tag "col" [("model", .str c.model), ("table", .str c.table), ("column", .str c.name),
    ("property", .str c.property)]

/-- あってもなくてもよい文字列。 -/
def textDoc : Option String → Doc
  | some s => .str s
  | none => .null

/-- キーがすべて文字列の辞書か。 -/
def stringKeyed (kvs : List (Value × Value)) : Bool :=
  kvs.all fun kv => match kv.1 with
    | .str _ => true
    | _ => false

/-- 主キーの列の名前。 -/
def keyName (v : Value) : Doc :=
  match v with
  | .column c => .str c.name
  | v => .str v.text

mutual
/-- 値の文書。 -/
def encode : Value → Doc
  | .none => .null
  | .bool b => .bool b
  | .int i => Doc.ofInt i
  | .float x => floatDoc x
  | .str s => .str s
  | .bytes bs => tag "bytes" [("hex", .str (hexText bs))]
  | .decimal d => tag "decimal" [("value", .str d.toText)]
  | .date d => tag "date" [("iso", .str d.iso)]
  | .datetime d t o => tag "datetime" [("iso", .str (Calendar.dateTimeIso "T" d t o))]
  | .time t o => tag "time" [("iso", .str (Calendar.zonedIso t o))]
  | .uuid t => tag "uuid" [("value", .str t)]
  | .list xs | .tuple xs => .arr (encodeList xs)
  | .dict kvs =>
    if stringKeyed kvs then .obj (encodeFields kvs) else tag "map" [("items", .arr (encodeEntries kvs))]
  | .marker m => tag m.name []
  | .raw sql => tag "Raw" [("sql", encode sql)]
  | .dynamic sql ps => tag "Dynamic" [("sql", encode sql), ("params", .arr (encodeList ps))]
  | .column c => columnDoc c
  | .model name => tag "class" [("name", .str name)]
  | .modelMeta t => tag "meta" [("model", .str t)]
  | .parentRef c => tag "ParentRef" [("column", encode c)]
  | .order c d n =>
    tag "OrderColumn" [("column", encode c), ("direction", .str d.keyword),
      ("nulls", textDoc (n.map NullsPlacement.keyword))]
  | .comparison c op v =>
    tag "Comparison" [("column", encode c), ("operator", encode op), ("value", encode v)]
  | .between c lo hi => tag "Between" [("column", encode c), ("low", encode lo), ("high", encode hi)]
  | .tupleIn cs rows => tag "TupleIn" [("columns", .arr (encodeList cs)), ("rows", .arr (encodeList rows))]
  | .orGroup gs => tag "OrGroup" [("groups", .arr (encodeList gs))]
  | .rawCondition sql ps => tag "RawCondition" [("sql", encode sql), ("params", .arr (encodeList ps))]
  | .inSubquery ps cs neg =>
    tag "InSubquery" [("key_pairs", .arr (encodeList ps)), ("conditions", .arr (encodeList cs)),
      ("negate", .bool neg)]
  | .existsIn t cs neg =>
    tag "Exists" [("target", encode t), ("conditions", .arr (encodeList cs)), ("negate", .bool neg)]
  | .condList es => tag "ConditionList" [("entries", .arr (encodeList es))]
  | .pkey k rows => tag "pkey" [("key", .arr (k.map keyName)), ("values", .arr (encodeList rows))]
  | .updateColumn n r t g =>
    tag "UpdateManyColumn" [("name", encode n), ("role", encode r), ("sql_type", encode t), ("target", encode g)]
  | .record _ m vals extra =>
    tag "record" [("model", .str m), ("values", .obj (encodeNamed vals)), ("extra",
      if stringKeyed extra then .obj (encodeFields extra) else tag "map" [("items", .arr (encodeEntries extra))])]
  | .result rows n l =>
    tag "query_result" [("rows", .arr (encodeList rows)), ("row_count", encode n),
      ("last_insert_id", encode l)]
  | .cls name => tag "class" [("name", .str name)]
  | .relationRef owner name kind =>
    tag "RelationProperty" [("kind", .str kind), ("owner", .str owner), ("name", .str name)]
  | .exception kind message _ => tag kind [("message", encode message)]

/-- 要素ごとの文書。 -/
def encodeList : List Value → List Doc
  | [] => []
  | x :: xs => encode x :: encodeList xs

/-- 文字列キーの辞書の欄。 -/
def encodeFields : List (Value × Value) → List (String × Doc)
  | [] => []
  | (k, v) :: rest => (k.text, encode v) :: encodeFields rest

/-- 辞書の項目を `[キー, 値]` の対で。 -/
def encodeEntries : List (Value × Value) → List Doc
  | [] => []
  | (k, v) :: rest => .arr [encode k, encode v] :: encodeEntries rest

/-- 名前の付いた欄。 -/
def encodeNamed : List (String × Value) → List (String × Doc)
  | [] => []
  | (k, v) :: rest => (k, encode v) :: encodeNamed rest
end

/-- 失敗の文脈の辞書。値のある決まった欄、続いて `metadata`。 -/
def contextFields (c : FaultContext) : List (String × Value) :=
  let typed := [("model", c.model), ("operation", c.operation), ("table", c.table), ("dialect", c.dialect),
    ("sql", c.sql)].filterMap fun (k, v) => v.map (k, ·)
  c.metadata.foldl (fun acc (k, v) => Fault.setEntry acc k v) typed

/-- ライブラリの失敗の辞書（種類名、文、分類、再試行、文脈、原因、種類ごとの欄）。
欄の値は渡されたままの値で書き、`field`、`constraint`、`relation_name` は真のときだけ、
`value` は `None` でなければ字面で書く。 -/
def errorFields (e : LibError) : List (String × Doc) :=
  let ctx := contextFields e.context
  let ifTrue := fun (key : String) (v : Value) => if v.truthy then [(key, encode v)] else []
  let base : List (String × Doc) :=
    [("error_type", .str e.kind.name), ("message", encode e.message), ("category", .str e.category.name),
      ("retryable", encode e.retryable)] ++
    (if ctx.isEmpty then [] else [("context", .obj (encodeNamed ctx))]) ++
    (match e.cause with
      | some c => [("cause", .str c)]
      | none => [])
  if e.kind.isContract then
    base ++ ifTrue "field" e.field ++
    (match e.value with
      | some v => [("value", .str v.repr)]
      | none => []) ++
    ifTrue "constraint" e.constraint
  else if e.kind.isPolicy then
    base ++ [("operation", encode e.operation), ("model_name", encode e.modelName)]
  else if e.kind == .limit then
    base ++ [("limit", encode e.limit), ("actual_count", encode e.actual), ("origin", .str e.origin.name)] ++
      ifTrue "relation_name" e.relationName
  else base

/-- 失敗の答え。ライブラリの失敗は詳細に辞書から種類名・文・値・原因を除いたもの。
設定の検証の失敗は項目ごとの場所と種類の並び。 -/
def faultDoc (f : Fault) : Doc :=
  let head := [("error", Doc.str f.kindName), ("message", Doc.str f.message)]
  match f with
  | .lib e =>
    let details := (errorFields e).filter fun (k, _) =>
      k != "error_type" && k != "message" && k != "value" && k != "cause"
    .obj (head ++ [("details", .obj details)])
  | .invalid issues =>
    .obj (head ++ [("details", .arr (issues.map fun (loc, t) =>
      .obj [("loc", .arr (loc.map locDoc)), ("type", .str t)]))])
  | _ => .obj head
where
  locDoc (s : String) : Doc :=
    match s.toNat? with
    | some n => Doc.ofInt n
    | none => .str s

/-- 文の答え: `?` の SQL、束縛する値、方言の印に直した SQL、`?` の数。 -/
def statementDoc (d : Dialect) (st : Statement) : Doc :=
  .obj [("sql", .str st.sql), ("params", .arr (encodeList st.params)),
    ("native", .str (d.convertPlaceholders st.sql)), ("placeholders", Doc.ofInt (Sql.countMarkers st.sql))]

/-- 結果か失敗を答えにする。 -/
def answer (r : Except Fault Doc) : Doc :=
  match r with
  | .ok d => d
  | .error f => faultDoc f

end Wire

end DataAccess
