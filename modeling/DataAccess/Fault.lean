import DataAccess.Value.Text
/-!
# 失敗

操作が失敗したときに返す値 `Fault`。このライブラリ自身が出す失敗（`LibError`）は、
種類ごとに分類・再試行の可否・文脈を持つ。データベースの接続や呼び出し側から届く
失敗（`foreign`）は、種類の名前と文のほかは手を加えずに通す。

* 契約違反（`CONTRACT`）: 条件や値の形が受け付けられない。SQL が出る前に起こる。
* 方針違反（`POLICY`）: トランザクションの外での書き込み、読み取り専用の文脈での書き込み。
* 上限超過（`LIMIT`）: 検索や関連の読み込みが上限を超える行を返した。
* 一時的な衝突（`TRANSIENT`）: 直列化の失敗やデッドロック。一番外のトランザクションで再試行する。
* 設定の誤り（`CONFIG`）。
-/

namespace DataAccess

/-- 失敗の分類。 -/
inductive Category where
  | contract | policy | limit | transient | database | config | internal
  deriving BEq, DecidableEq, Repr, Inhabited

/-- 分類の名前。 -/
def Category.name : Category → String
  | .contract => "CONTRACT"
  | .policy => "POLICY"
  | .limit => "LIMIT"
  | .transient => "TRANSIENT"
  | .database => "DATABASE"
  | .config => "CONFIG"
  | .internal => "INTERNAL"

/-- 名前から分類を引く。 -/
def Category.ofName? (s : String) : Option Category :=
  [Category.contract, .policy, .limit, .transient, .database, .config, .internal].find? (·.name == s)

/-- ライブラリが出す失敗の種類。 -/
inductive LibKind where
  /-- 種類を特定しない失敗。 -/
  | general
  | contract
  /-- 親の列の参照が呼び出し元と違うモデルの列を指す。 -/
  | ownership
  /-- キーの行の幅が合わない。 -/
  | arity
  | policy
  /-- トランザクションの外での書き込み。 -/
  | writeOutside
  /-- 読み取り専用の文脈での書き込み。 -/
  | readOnly
  | limit
  | transient
  /-- 直列化の失敗やデッドロック。 -/
  | conflict
  | config
  deriving BEq, DecidableEq, Repr, Inhabited

namespace LibKind

/-- 種類の名前。 -/
def name : LibKind → String
  | .general => "TableSpineError"
  | .contract => "ContractError"
  | .ownership => "ColumnOwnershipError"
  | .arity => "ArityError"
  | .policy => "PolicyError"
  | .writeOutside => "WriteOutsideTransactionError"
  | .readOnly => "ReadOnlyContextError"
  | .limit => "LimitExceededError"
  | .transient => "TransientError"
  | .conflict => "TransactionConflictError"
  | .config => "ConfigError"

/-- すべての種類。 -/
def all : List LibKind :=
  [.general, .contract, .ownership, .arity, .policy, .writeOutside, .readOnly, .limit, .transient,
    .conflict, .config]

/-- 名前から種類を引く。 -/
def ofName? (s : String) : Option LibKind := all.find? (·.name == s)

/-- 種類の既定の分類。 -/
def category : LibKind → Category
  | .general => .internal
  | .contract | .ownership | .arity => .contract
  | .policy | .writeOutside | .readOnly => .policy
  | .limit => .limit
  | .transient | .conflict => .transient
  | .config => .config

/-- 種類の既定の再試行の可否。 -/
def retryable : LibKind → Bool
  | .transient | .conflict => true
  | _ => false

/-- 契約違反の仲間か。 -/
def isContract : LibKind → Bool
  | .contract | .ownership | .arity => true
  | _ => false

/-- 方針違反の仲間か。 -/
def isPolicy : LibKind → Bool
  | .policy | .writeOutside | .readOnly => true
  | _ => false

end LibKind

/-- 失敗の文脈。名前の決まった欄のほかは `metadata` に入る。値は渡されたまま持つ。 -/
structure FaultContext where
  model : Option Value := none
  operation : Option Value := none
  table : Option Value := none
  dialect : Option Value := none
  sql : Option Value := none
  metadata : List (String × Value) := []
  deriving Inhabited

/-- 上限超過が見つかった場所。 -/
inductive LimitOrigin where
  | find
  | relation
  deriving BEq, DecidableEq, Repr, Inhabited

/-- 場所の名前。 -/
def LimitOrigin.name : LimitOrigin → String
  | .find => "find"
  | .relation => "relation"

/-- ライブラリが出す失敗。種類に関係しない欄は既定値のまま。欄の値は渡されたままの値で持ち、
表に出すときも（真偽としての値で省くかどうかを決めるほかは）そのまま出す。 -/
structure LibError where
  kind : LibKind
  /-- 文（渡されたままの値）。 -/
  message : Value
  category : Category := kind.category
  /-- 再試行の可否（渡されたままの値。既定は種類の既定）。 -/
  retryable : Value := .bool kind.retryable
  context : FaultContext := {}
  cause : Option String := none
  /-- 契約違反: 問題の欄。 -/
  field : Value := .none
  /-- 契約違反: 問題の値。 -/
  value : Option Value := none
  /-- 契約違反: 破られた制約の名前。 -/
  constraint : Value := .none
  /-- 方針違反: 拒まれた操作。 -/
  operation : Value := .none
  /-- 方針違反・上限超過: モデルの名前。 -/
  modelName : Value := .none
  /-- 上限超過: 上限と観測した行数。 -/
  limit : Value := .none
  actual : Value := .none
  origin : LimitOrigin := .find
  relationName : Value := .none
  deriving Inhabited

/-- 失敗の文字表記（文の文字表記）。 -/
def LibError.text (e : LibError) : String := e.message.text

/-- 失敗の字面 `種類(文の字面, category=分類)`。 -/
def LibError.reprText (e : LibError) : String :=
  e.kind.name ++ "(" ++ e.message.repr ++ ", category=" ++ e.category.name ++ ")"

/-- 失敗。 -/
inductive Fault where
  /-- このライブラリの失敗。 -/
  | lib (e : LibError)
  /-- 外から届く失敗（種類の名前と文）。 -/
  | foreign (kind message : String)
  /-- データベースのドライバの失敗。文、エラー番号、SQLSTATE は渡されたままの値。 -/
  | driver (message errno sqlstate : Value)
  /-- 設定の検証の失敗。項目ごとの場所と種類。 -/
  | invalid (issues : List (List String × String))
  deriving Inhabited

namespace Fault

/-- 失敗の種類の名前。 -/
def kindName : Fault → String
  | .lib e => e.kind.name
  | .foreign k _ => k
  | .driver .. => "DbError"
  | .invalid _ => "ValidationError"

/-- 失敗の文。 -/
def message : Fault → String
  | .lib e => e.text
  | .foreign _ m => m
  | .driver m _ _ => m.text
  | .invalid _ => ""

/-- 失敗の字面。ライブラリの失敗は文と分類、ドライバの失敗はエラー番号があれば番号と文。 -/
def reprText : Fault → String
  | .lib e => e.reprText
  | .foreign k m => k ++ "(" ++ quoteText m ++ ")"
  | .driver m .none _ => "DbError(" ++ m.repr ++ ")"
  | .driver m n _ => "DbError(" ++ n.repr ++ ", " ++ m.repr ++ ")"
  | .invalid _ => "ValidationError()"

/-- 失敗の文（渡されたままの値）。 -/
def messageValue : Fault → Value
  | .lib e => e.message
  | .foreign _ m => .str m
  | .driver m _ _ => m
  | .invalid _ => .str ""

/-- 値としての失敗（例外の値）。 -/
def toValue (f : Fault) : Value := .exception f.kindName f.messageValue f.reprText

/-- 外から届く失敗。 -/
def other (kind message : String) : Fault := .foreign kind message

/-- 失敗の文字表記を求める。ドライバの失敗の文字表記は文そのものなので、文が文字列でなければ失敗。 -/
def str : Fault → Except Fault String
  | .driver (.str s) _ _ => .ok s
  | .driver m _ _ => .error (other "TypeError" ("__str__ returned non-string (type " ++ m.typeName ++ ")"))
  | f => .ok f.message

/-- 値があれば `some`（`None` はなし）。 -/
def present (v : Value) : Option Value :=
  match v with
  | .none => none
  | v => some v

/-- 文字列の欄の値（なければ `None`）。 -/
def textValue (s : Option String) : Value := (s.map Value.str).getD .none

/-- 契約違反。 -/
def contract (msg : String) (field : Option String := none) (value : Option Value := none)
    (constraint : Option String := none) : Fault :=
  .lib { kind := .contract, message := .str msg, field := textValue field, value,
         constraint := textValue constraint }

/-- キーの幅の違反。 -/
def arity (msg : String) (value : Option Value := none) (constraint : Option String := none) : Fault :=
  .lib { kind := .arity, message := .str msg, value, constraint := textValue constraint }

/-- 設定の誤り。 -/
def config (msg : String) : Fault := .lib { kind := .config, message := .str msg }

/-- モデルがデータベースに結び付けられていない失敗。 -/
def unbound (cls : String) : Fault := config (cls ++ " is not bound to a Database; call bind(db) on it or a base model")

/-- 方針違反の既定の文: `操作 on モデル` に種類ごとの結びを付ける。操作が偽なら `write`、
モデルが偽なら `on` の部分を省く。 -/
def policyMessage (kind : LibKind) (operation modelName : Value) : String :=
  let target := if modelName.truthy then " on " ++ modelName.text else ""
  let op := if operation.truthy then operation.text else "write"
  match kind with
  | .writeOutside =>
    op ++ target ++ " must run inside transaction(); pass autocommit=True to opt out explicitly"
  | .readOnly => op ++ target ++ " attempted inside with_writer() read-only context"
  | _ => op ++ target ++ " refused"

/-- 方針違反。文が偽なら既定の文。文脈には操作とモデルが入る。 -/
def policy (kind : LibKind) (message operation modelName : Value) : Fault :=
  let msg := if message.truthy then message else .str (policyMessage kind operation modelName)
  .lib { kind, message := msg, operation, modelName,
         context := { operation := present operation, model := present modelName } }

/-- 上限超過。場所はモデルの名前（偽なら `query`）と、真なら関連の名前。 -/
def limitExceeded (limit actual : Value) (origin : LimitOrigin) (modelName relationName : Value) : Fault :=
  let base := if modelName.truthy then modelName.text else "query"
  let place := if relationName.truthy then base ++ "." ++ relationName.text else base
  .lib { kind := .limit,
         message := .str (origin.name ++ " on " ++ place ++ " returned more than " ++ limit.text ++
           " rows (observed " ++ actual.text ++ ")"),
         limit, actual, origin, modelName, relationName, context := { model := present modelName } }

/-- 値が属性 `attr` を持たない失敗。クラスの値は `type object` として書く。 -/
def noAttribute (v : Value) (attr : String) : Fault :=
  let owner := match v with
    | .model name | .cls name => "type object '" ++ name ++ "'"
    | _ => "'" ++ v.typeName ++ "' object"
  .foreign "AttributeError" (owner ++ " has no attribute '" ++ attr ++ "'")

/-- バイト列を求める引数に別の型の値を渡した失敗（バイト列の `replace` に文字列を渡したときなど）。 -/
def bytesRequired (v : Value) : Fault :=
  Fault.other "TypeError" ("a bytes-like object is required, not '" ++ v.typeName ++ "'")

/-- 文字列を `replace` する操作の、文字列の引数での失敗。バイト列は `replace` を持つが、文字列の引数は
受け取らない。ほかの値は `replace` を持たない。 -/
def replaceOnText (v : Value) : Fault :=
  match v with
  | .bytes _ => bytesRequired (.str "")
  | _ => noAttribute v "replace"

/-- 見つからないキー（文はキーの字面）。 -/
def missingKey (key : String) : Fault := .foreign "KeyError" (quoteText key)

/-- 辞書の項目を置く。あるキーはその場で値を替え、ないキーは末尾に足す。 -/
def setEntry (entries : List (String × Value)) (k : String) (v : Value) : List (String × Value) :=
  if entries.any (·.1 == k) then entries.map fun kv => if kv.1 == k then (k, v) else kv
  else entries ++ [(k, v)]

/-- ライブラリの失敗に文脈を足す。決まった欄の名前はその欄へ、ほかは `metadata` へ入る。
`None` を渡した欄は空になる。 -/
def withContext (f : Fault) (entries : List (String × Value)) : Fault :=
  match f with
  | .lib e =>
    let ctx := entries.foldl (fun (c : FaultContext) (kv : String × Value) =>
      let v : Option Value := match kv.2 with
        | .none => none
        | v => some v
      match kv.1 with
      | "model" => { c with model := v }
      | "operation" => { c with operation := v }
      | "table" => { c with table := v }
      | "dialect" => { c with dialect := v }
      | "sql" => { c with sql := v }
      | k => { c with metadata := setEntry c.metadata k kv.2 }) e.context
    .lib { e with context := ctx }
  | other => other

/-- 文脈にモデルと操作を入れる。 -/
def inModel (f : Fault) (model operation : String) : Fault :=
  f.withContext [("model", .str model), ("operation", .str operation)]

/-- 再試行の可否の値（ライブラリの失敗は渡された値、ほかは偽）。 -/
def retryableValue : Fault → Value
  | .lib e => e.retryable
  | _ => .bool false

/-- 再試行してよい失敗か（再試行の可否の値が真）。 -/
def isRetryable (f : Fault) : Bool := f.retryableValue.truthy

/-- 文を小文字にする（決まり文句を探すため）。ASCII の英字と、小文字が `k` になるケルビン記号を
小文字にする。ほかの文字の小文字は ASCII にならないので、ASCII の決まり文句の一致には関わらない。 -/
def lowerText (s : String) : String :=
  String.ofList (s.toList.map fun c => if c == '\u212a' then 'k' else c.toLower)

/-- 文字の並びのどこかに `p` が続けて現れるか。 -/
def occursIn (p : List Char) : List Char → Bool
  | [] => p.isEmpty
  | c :: cs => p.isPrefixOf (c :: cs) || occursIn p cs

/-- 文 `t` が語句 `p` を含むか（文字列の `in`）。 -/
def mentions (t p : String) : Bool := occursIn p.toList t.toList

/-- 競合を表す決まり文句。 -/
def conflictPhrases : List String :=
  ["could not serialize access", "deadlock detected", "deadlock found", "lock wait timeout exceeded",
    "try restarting transaction", "the transaction might succeed if retried"]

/-- 文字表記（小文字にして）が競合の決まり文句を含むか。 -/
def signalsConflict (f : Fault) : Except Fault Bool := do
  let t := lowerText (← f.str)
  return conflictPhrases.any fun p => mentions t p

end Fault

/-- 正規表現で照らす文字列。文字列でない値は照らせない（バイト列は文字列の式では照らせない）。 -/
def Value.patternText (v : Value) : Except Fault String :=
  match v with
  | .str s => .ok s
  | .bytes _ => .error (Fault.other "TypeError" "cannot use a string pattern on a bytes-like object")
  | v => .error (Fault.other "TypeError" ("expected string or bytes-like object, got '" ++ v.typeName ++ "'"))

end DataAccess
