import DataAccess.Settings
import DataAccess.Model.Catalog
import DataAccess.Json.Doc
/-!
# 実行の状態

一つのデータベースに対する一連の呼び出しの状態。

* 接続は記録する接続: 文を記録の列に足し、予約された応答（結果か失敗）を順に返す。
  `BEGIN`/`COMMIT`/`ROLLBACK` も記録し、その動詞に予約された失敗があれば一つ使って投げる。
  読み手と書き手の二つか、共有の一つ。
* 束縛: トランザクション（深さ 1 以上）か書き手での読み取り（読み取り専用）の間、
  文はすべて書き手の接続で走る。
* 要求の状態: 書き手に寄せる期間にあるか、中継ぎ（ミドルウェア）ごとの状態。
* 中継ぎの登録、レコードの関連の覚え、まとめて読んだレコードの組。

計算は `ExceptT Fault (StateM Session)` で書くので、失敗しても記録は残る。
-/

namespace DataAccess

/-- 記録の一行: 接続の名札、SQL、値。 -/
structure Entry where
  label : String
  sql : String
  params : List Value
  deriving Inhabited

/-- 接続の役目。 -/
inductive Role where
  | reader
  | writer
  deriving BEq, DecidableEq, Repr, Inhabited

/-- 記録する接続の溜まり。 -/
structure Pool where
  label : String
  /-- 次に返す応答（結果 `Value.result` か失敗）。 -/
  queue : List (Except Fault Value) := []
  /-- 動詞（`begin`/`commit`/`rollback`）ごとに予約された失敗（先に予約したものから使う）。 -/
  failures : List (String × Fault) := []
  checkouts : Nat := 0
  connected : Bool := false
  deriving Inhabited

/-- 文脈に束ねた接続（いつも書き手）。深さ 0 は書き手での読み取りだけ。 -/
structure Binding where
  depth : Nat
  readonly : Bool
  deriving Inhabited

/-- 中継ぎの振る舞い。 -/
inductive Behaviour where
  /-- そのまま次へ。 -/
  | pass
  /-- 前後に足跡を残す（次が失敗すれば後の足跡はない）。 -/
  | trace
  /-- 次を二度呼び、二度目の結果を返す。 -/
  | twice
  /-- 次の失敗を結果 `{"swallowed": 種類}` に変える。 -/
  | swallow
  /-- 次を呼ばずに値を返す。 -/
  | short (v : Value)
  /-- 失敗を投げる。 -/
  | raise (f : Fault)
  /-- 条件の並びの末尾に要素を足して次へ。 -/
  | addCondition (entry : Value)
  /-- SQL の部分文字列を置き換えて次へ。置き換える前と後（指定になければ `none`）。 -/
  | rewriteSql (old new : Option Value)
  /-- 知らない振る舞い（呼ばれたときにその名前の `KeyError`）。 -/
  | unknown (name : Value)
  deriving Inhabited

/-- 中継ぎの型。 -/
inductive Middleware where
  /-- 操作の回数を数える。 -/
  | statistics
  /-- 何も上書きしない基底。 -/
  | base
  /-- 名前とフックごとの振る舞いで作った型。`state` は要求ごとの実体の状態の初めの値（足跡の並び）で、
  要求ごとに写して使う。 -/
  | custom (name : String) (hooks : List (String × Behaviour)) (state : List String)
  deriving Inhabited

/-- 中継ぎの型の見分け。名前で作った型は名前で見分け、数える型や基底とは同じ名前でも別。 -/
inductive MiddlewareKey where
  | statistics
  | base
  | custom (name : String)
  deriving BEq, DecidableEq, Inhabited

namespace Middleware

/-- 型の見分け。 -/
def key : Middleware → MiddlewareKey
  | .statistics => .statistics
  | .base => .base
  | .custom n _ _ => .custom n

/-- 型の名前。 -/
def name : Middleware → String
  | .statistics => "StatisticsMiddleware"
  | .base => "Middleware"
  | .custom n _ _ => n

/-- フックの名前の一覧。 -/
def hooks : List String :=
  ["find", "find_one", "find_by_id", "count", "create", "create_many", "update", "update_many", "delete",
   "query", "execute"]

/-- フックを上書きしているか。 -/
def overrides (m : Middleware) (hook : String) : Bool :=
  match m with
  | .statistics => true
  | .base => false
  | .custom _ hs _ => hs.any (·.1 == hook)

end Middleware

/-- 中継ぎの要求ごとの実体の状態。 -/
inductive Instance where
  /-- 数える型: 区分ごとの回数。 -/
  | counts (c : List (String × Nat))
  /-- 作った型: 足跡の並び。 -/
  | log (entries : List String)
  | plain
  deriving Inhabited

/-- 数える区分（表示の順）。 -/
def statBuckets : List String :=
  ["find_one", "find_all", "count", "insert", "update", "delete", "execute", "query"]

/-- 中継ぎの新しい実体。作った型の実体は、型の状態を写したもの。 -/
def Middleware.fresh : Middleware → Instance
  | .statistics => .counts (statBuckets.map (·, 0))
  | .base => .plain
  | .custom _ _ state => .log state

/-- 一つの要求の状態。 -/
structure RequestState where
  /-- 書き手に寄せる期間にあるか（期間は要求の間に終わらない）。 -/
  sticky : Bool := false
  /-- 中継ぎの型ごとの実体。 -/
  instances : List (MiddlewareKey × Instance) := []
  deriving Inhabited

/-- 実行の状態。 -/
structure Session where
  dialect : Dialect
  catalog : Catalog
  settings : Settings
  /-- モデルがデータベースに結び付けられているか。 -/
  bound : Bool := true
  reader : Pool
  /-- 書き手の溜まり（`none` なら読み手と共有）。 -/
  writer : Option Pool
  /-- これまでの記録（新しいものが先頭）。 -/
  log : List Entry := []
  /-- 答えに載せた記録の数。 -/
  reported : Nat := 0
  binding : Option Binding := none
  request : RequestState := {}
  /-- 登録された中継ぎ（外側から）。 -/
  registry : List Middleware := []
  /-- 名前ごとに一度だけ作った中継ぎの型。 -/
  defined : List (String × Middleware) := []
  /-- 中継ぎの足跡（新しいものが先頭）。 -/
  trace : List String := []
  /-- 失敗を投げる手順ごとの実行回数。 -/
  raised : List (Nat × Nat) := []
  /-- トランザクションをやり直す前に待った時間（ミリ秒、待った順）。 -/
  pauses : List Value := []
  /-- 名前を付けて残した結果。 -/
  stored : List (String × Value) := []
  nextRecord : Nat := 1
  /-- レコードごとに覚えた関連の値。 -/
  cache : List (Nat × List (String × Value)) := []
  /-- レコードの属する組。 -/
  batchOf : List (Nat × Nat) := []
  /-- 組ごとのレコード。 -/
  batches : List (Nat × List Value) := []
  nextBatch : Nat := 1
  deriving Inhabited

/-- 実行の計算。 -/
abbrev Run := ExceptT Fault (StateM Session)

/-- 連想の並びの値を置き換える（なければ末尾に足す）。 -/
def assocSet {α β : Type} [BEq α] (xs : List (α × β)) (k : α) (v : β) : List (α × β) :=
  if xs.any (·.1 == k) then xs.map fun kv => if kv.1 == k then (k, v) else kv else xs ++ [(k, v)]

/-- 連想の並びの値。 -/
def assocGet? {α β : Type} [BEq α] (xs : List (α × β)) (k : α) : Option β :=
  (xs.find? (·.1 == k)).map (·.2)

namespace Session

/-- 役目の溜まり。 -/
def pool (s : Session) (r : Role) : Pool :=
  match r, s.writer with
  | .writer, some w => w
  | _, _ => s.reader

/-- 役目の溜まりを変える。 -/
def modifyPool (s : Session) (r : Role) (f : Pool → Pool) : Session :=
  match r, s.writer with
  | .writer, some w => { s with writer := some (f w) }
  | _, _ => { s with reader := f s.reader }

/-- トランザクションの深さ: 束縛の深さ、束縛がなければ 0。 -/
def transactionDepth (s : Session) : Nat :=
  (s.binding.map (·.depth)).getD 0

end Session

end DataAccess
