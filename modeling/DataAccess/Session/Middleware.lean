import DataAccess.Session.State
import DataAccess.Condition
/-!
# 中継ぎ

モデルの操作（検索、件数、書き込み、生の SQL）を包む中継ぎの鎖。

登録の順が包む順で、最初に登録したものが一番外。フックを上書きした型だけが包む。
中継ぎの実体は要求ごとに一つで、初めて使うときに作る。

* 数える型は区分の回数を一つ増やしてから次を呼ぶ（次が失敗しても数える）。
* 作った型は足跡 `フック:モデル`（SQL を受け取るフックなら `:SQL` も）を残してから、
  フックの振る舞いに従う。

鎖は第一引数（条件の並び、キー、値、行、または SQL）だけを次へ渡し直せる。
ほかの引数は終端の関数が持つ。
-/

namespace DataAccess

namespace Session

/-- 今の要求の中継ぎの実体（なければ作る）。 -/
def instanceOf (m : Middleware) : Run Instance := do
  let s ← get
  match assocGet? s.request.instances m.key with
  | some i => return i
  | none =>
    let i := m.fresh
    set { s with request := { s.request with instances := s.request.instances ++ [(m.key, i)] } }
    return i

/-- 今の要求の中継ぎの実体を変える。 -/
def modifyInstance (m : Middleware) (f : Instance → Instance) : Run Unit := do
  let i ← instanceOf m
  modify fun s => { s with request := { s.request with instances := assocSet s.request.instances m.key (f i) } }

/-- フックの数える区分。 -/
def bucketOf (hook : String) : String :=
  match hook with
  | "find" => "find_all"
  | "find_by_id" => "find_one"
  | "create" | "create_many" => "insert"
  | "update_many" => "update"
  | h => h

/-- 足跡を残す。 -/
def addTrace (t : String) : Run Unit := modify fun s => { s with trace := t :: s.trace }

/-- 並び `xs` の中の `old` を前から重ならずに `new` に置き換える（文字列とバイト列の `replace`）。
空の `old` は各要素の間と両端に `new` を入れる。空でなければ置き換えるたびに少なくとも一つ進むので、
燃料は並びの長さで足りる。 -/
def replaceSeq {α : Type} [BEq α] (old new xs : List α) : List α :=
  if old.isEmpty then new ++ xs.flatMap (fun x => x :: new)
  else go xs.length xs
where
  go : Nat → List α → List α
    | 0, rest => rest
    | _ + 1, [] => []
    | fuel + 1, x :: rest =>
      if old.isPrefixOf (x :: rest) then new ++ go fuel ((x :: rest).drop old.length)
      else x :: go fuel rest

/-- Python の `str.replace` と同じ置き換え。 -/
def replaceAll (s old new : String) : String :=
  String.ofList (replaceSeq old.toList new.toList s.toList)

/-- 振る舞いを当てる。 -/
def behave (name hook : String) (b : Behaviour) (first : Value) (next : Value → Run Value) : Run Value := do
  match b with
  | .pass => next first
  | .trace =>
    addTrace (name ++ ":" ++ hook ++ ":before")
    let r ← next first
    addTrace (name ++ ":" ++ hook ++ ":after")
    return r
  | .twice =>
    let _ ← next first
    next first
  | .swallow =>
    try next first
    catch e => return .dict [(.str "swallowed", .str e.kindName)]
  | .short v => return v
  | .raise f => throw f
  | .addCondition entry =>
    let before ← if first.truthy then
        match first.iterate with
        | .ok xs => pure xs
        | .error _ => throw (Fault.other "TypeError" ("Value after * must be an iterable, not " ++ first.typeName))
      else pure []
    next (.list (before ++ [entry]))
  | .rewriteSql old new =>
    let argument := fun (k : String) (v : Option Value) => match v with
      | some x => pure x
      | none => throw (Fault.missingKey k)
    match first with
    | .str s =>
      let o ← argument "from" old
      let n ← argument "to" new
      match o, n with
      | .str o, .str n => next (.str (replaceAll s o n))
      | .str _, v => throw (Fault.other "TypeError" ("replace() argument 2 must be str, not " ++ v.typeName))
      | v, _ => throw (Fault.other "TypeError" ("replace() argument 1 must be str, not " ++ v.typeName))
    | .bytes bs =>
      let o ← argument "from" old
      let n ← argument "to" new
      match o, n with
      | .bytes o, .bytes n => next (.bytes (replaceSeq o n bs))
      | .bytes _, v | v, _ => throw (Fault.bytesRequired v)
    | v => throw (Fault.noAttribute v "replace")
  | .unknown key =>
    match key.requireHashable with
    | .error f => throw f
    | .ok () => throw (.foreign "KeyError" key.repr)

/-- 一つの中継ぎのフック。 -/
def hookOf (m : Middleware) (hook model : String) (first : Value) (next : Value → Run Value) : Run Value := do
  match m with
  | .statistics =>
    modifyInstance m fun i => match i with
      | .counts c => .counts (c.map fun (k, n) => if k == bucketOf hook then (k, n + 1) else (k, n))
      | other => other
    next first
  | .base => next first
  | .custom name hs _ =>
    let mark := hook ++ ":" ++ model ++
      (if hook == "query" || hook == "execute" then ":" ++ first.text else "")
    modifyInstance m fun i => match i with
      | .log es => .log (es ++ [mark])
      | other => other
    match assocGet? hs hook with
    | some b => behave name hook b first next
    | none => next first

/-- 型 `m` のフック `hook` の層で、内側の鎖 `handler` を包む。 -/
def wrap (m : Middleware) (hook model : String) (handler : Value → Run Value) : Value → Run Value :=
  fun first => hookOf m hook model first handler

/-- 鎖を組む一段: 型 `m` が `hook` を上書きしていれば、今の要求の実体を引き（なければ作り）、その層で
`handler` を包む。上書きしていなければ何もしない。 -/
def wrapStep (hook model : String) (handler : Value → Run Value) (m : Middleware) : Run (Value → Run Value) := do
  if m.overrides hook then
    let _ ← instanceOf m
    return wrap m hook model handler
  return handler

/-- フック `hook` の鎖を組む。登録を最後のものから順に見て終端を包んでいくので、最初に登録した型が
一番外になる。 -/
def buildChain (hook model : String) (terminal : Value → Run Value) : Run (Value → Run Value) := do
  (← get).registry.reverse.foldlM (wrapStep hook model) terminal

/-- フック `hook` の鎖で `terminal` を呼ぶ。`model` はモデルのクラスの名前。 -/
def dispatch (hook model : String) (first : Value) (terminal : Value → Run Value) : Run Value := do
  let handler ← buildChain hook model terminal
  handler first

/-- 中継ぎを登録する（登録済みなら何もしない）。 -/
def use (m : Middleware) : Run Unit :=
  modify fun s => if s.registry.any (·.key == m.key) then s else { s with registry := s.registry ++ [m] }

/-- 中継ぎの登録を外す。 -/
def removeMiddleware (m : Middleware) : Run Unit :=
  modify fun s => { s with registry := s.registry.filter (·.key != m.key) }

/-- 登録された中継ぎの名前。 -/
def middlewareNames : Run Value := do
  return .list ((← get).registry.map fun m => .str m.name)

/-- 数える中継ぎの回数（区分ごとと合計）。 -/
def statistics : Run (List (String × Nat)) := do
  match ← instanceOf .statistics with
  | .counts c => return c ++ [("total", c.foldl (fun acc (_, n) => acc + n) 0)]
  | _ => return []

/-- 数える中継ぎの回数を 0 に戻す。 -/
def resetStatistics : Run Unit :=
  modifyInstance .statistics fun _ => Middleware.fresh .statistics

end Session

end DataAccess
