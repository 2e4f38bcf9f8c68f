import DataAccess.Session.State
import DataAccess.Sql.Statement
import DataAccess.Builder.Options
/-!
# 接続とトランザクション

記録する接続の操作と、文の行き先、書き込みの方針、トランザクションの状態機械。

* 行き先: 束縛があればその接続（書き手）。なければ書き込みか書き手に寄せる期間なら書き手、
  ほかは読み手。束縛がないときは文ごとに溜まりから接続を借りる。
* 方針: 書き手での読み取りの中の書き込みは拒む。束縛も自動確定もなく、設定が求めるなら、
  トランザクションの外の書き込みを拒む。
* 一番外のトランザクションは `BEGIN` から始め、確定か巻き戻し。一時的な衝突なら
  設定の回数まで全体をやり直す。入れ子は保存点 `sp_<深さ>` を使う。
* 巻き戻しの失敗は握りつぶし、元の失敗を投げる。
-/

namespace DataAccess

namespace Session

/-- 記録に一行足す。 -/
def append (r : Role) (sql : String) (params : List Value) : Run Unit :=
  modify fun s => { s with log := ⟨(s.pool r).label, sql, params⟩ :: s.log }

/-- 溜まりを開く（開いていれば何もしない）。 -/
def connect (r : Role) : Run Unit :=
  modify fun s => s.modifyPool r fun p => { p with connected := true }

/-- 溜まりを閉じる。 -/
def close (r : Role) : Run Unit :=
  modify fun s => s.modifyPool r fun p => { p with connected := false }

/-- 接続を借りる（開いていなければ開く）。 -/
def acquire (r : Role) : Run Unit :=
  modify fun s => s.modifyPool r fun p => { p with connected := true, checkouts := p.checkouts + 1 }

/-- 文を走らせる: 記録して、予約された次の応答を返す（なければ空の結果）。 -/
def execute (r : Role) (sql : String) (params : List Value) : Run Value := do
  append r sql params
  let s ← get
  match (s.pool r).queue with
  | [] => return .result [] (.int 0) .none
  | next :: rest =>
    set (s.modifyPool r fun p => { p with queue := rest })
    match next with
    | .ok v => return v
    | .error f => throw f

/-- `BEGIN`/`COMMIT`/`ROLLBACK` を記録し、その動詞に予約された失敗があれば一つ使って投げる。 -/
def control (r : Role) (verb : String) : Run Unit := do
  append r verb.toUpper []
  let s ← get
  let failures := (s.pool r).failures
  match failures.find? (·.1 == verb) with
  | none => pure ()
  | some (_, f) =>
    set (s.modifyPool r fun p => { p with failures := dropFirst verb failures })
    throw f
where
  dropFirst (verb : String) : List (String × Fault) → List (String × Fault)
    | [] => []
    | x :: xs => if x.1 == verb then xs else x :: dropFirst verb xs

/-- 束縛を置き換える。 -/
def setBinding (b : Option Binding) : Run Unit := modify fun s => { s with binding := b }

/-- 失敗しても束縛を戻して `body` を走らせる。 -/
def withBinding {α : Type} (b : Option Binding) (body : Run α) : Run α := do
  let saved := (← get).binding
  setBinding b
  try
    let r ← body
    setBinding saved
    return r
  catch e =>
    setBinding saved
    throw e

/-- 書き込みの方針を当てる。 -/
def checkWrite (operation : String) (modelName : Option String) (autocommit : Bool) : Run Unit := do
  let s ← get
  match s.binding with
  | some b =>
    if b.readonly then throw (Fault.policy .readOnly .none (.str operation) (Fault.textValue modelName))
  | none =>
    if !autocommit && s.settings.requireTransactionForWrites then
      throw (Fault.policy .writeOutside .none (.str operation) (Fault.textValue modelName))

/-- 文の行き先（束縛がなければ接続を借りる）。 -/
def route (write : Bool) : Run Role := do
  let s ← get
  match s.binding with
  | some _ => return .writer
  | none =>
    let r := if write || s.request.sticky then Role.writer else .reader
    acquire r
    return r

/-- 組み立てた文（`?` の印）を行き先で走らせる。 -/
def run (st : Statement) (write : Bool) (operation : String) (modelName : Option String) (autocommit : Bool) :
    Run Value := do
  if write then checkWrite operation modelName autocommit
  let d := (← get).dialect
  let r ← route write
  execute r (d.convertPlaceholders st.sql) st.params

/-- 生の SQL を値を合わせて走らせる。書き込みかどうかは SQL の先頭で決める。 -/
def executeRaw (sql : Value) (params : List Value) (autocommit : Bool) (modelName : Option String) :
    Run Value := do
  let d := (← get).dialect
  let adapted ← params.mapM fun p => match d.adaptParam p with
    | .ok v => pure v
    | .error f => throw f
  let text ← match sql.patternText with
    | .ok t => pure t
    | .error f => throw f
  run ⟨text, adapted⟩ (Sql.isWriteStatement text) "execute" modelName autocommit

/-- 失敗を握りつぶして走らせる。 -/
def quietly (body : Run Unit) : Run Unit :=
  try body catch _ => pure ()

/-- 入れ子のトランザクション: 保存点で囲む。 -/
def savepoint {α : Type} (outer : Binding) (fn : Run α) (rollbackOnly : Bool) : Run α := do
  let d := (← get).dialect
  let name := "sp_" ++ toString (outer.depth + 1)
  let _ ← execute .writer (d.savepoint name) []
  withBinding (some ⟨outer.depth + 1, false⟩) do
    try
      let r ← fn
      if rollbackOnly then
        let _ ← execute .writer (d.rollbackToSavepoint name) []
      let _ ← execute .writer (d.releaseSavepoint name) []
      return r
    catch e =>
      quietly do
        let _ ← execute .writer (d.rollbackToSavepoint name) []
        let _ ← execute .writer (d.releaseSavepoint name) []
      throw e

/-- 一番外のトランザクションを一度試す。確定したら書き手に寄せる期間に入る。 -/
def outermost {α : Type} (fn : Run α) (rollbackOnly : Bool) : Run α := do
  acquire .writer
  control .writer "begin"
  let (r, committed) ← withBinding (some ⟨1, false⟩) do
    try
      let r ← fn
      if rollbackOnly then
        control .writer "rollback"
        return (r, false)
      control .writer "commit"
      return (r, true)
    catch e =>
      quietly (control .writer "rollback")
      throw e
  let s ← get
  if committed && s.settings.useWriterAfterTransaction && s.settings.writerStickyDurationMs > 0 then
    set { s with request := { s.request with sticky := true } }
  return r

/-- 演算子が整数との組で使えない失敗。 -/
def unsupportedWithInt (op : String) (v : Value) : Fault :=
  Fault.other "TypeError" ("unsupported operand type(s) for " ++ op ++ ": '" ++ v.typeName ++ "' and 'int'")

/-- 待ち時間 `retry_delay_ms * 2 ** (attempt - 1)` を求められるか（数と、繰り返せる文字列・並び）。 -/
def pauseProduct (delay : Value) : Except Fault Unit :=
  match delay with
  | .int _ | .bool _ | .float _ | .decimal _ | .str _ | .list _ | .tuple _ | .bytes _ => .ok ()
  | v => .error (unsupportedWithInt "*" v)

/-- 再試行の前に待つ。待ち時間のミリ秒を 1000 で割った秒だけ眠る。
割れない値（文字列や並び）、正の十進数（時計の浮動小数に足せない）は失敗する。
文字列や並びは最初の再試行の割り算で必ず失敗するので、掛けた結果はその値のままでよい。 -/
def retryPause (delay : Value) : Except Fault Unit :=
  match delay with
  | .int _ | .bool _ | .float _ => .ok ()
  | .decimal d =>
    match d with
    | .nan .. => .error (Fault.other "InvalidOperation" Number.DecimalNumber.invalidOperation)
    | _ =>
      if Number.DecimalNumber.lt (.finite (Number.Decimal.ofInt 0)) d then
        .error (Fault.other "TypeError" "unsupported operand type(s) for +: 'float' and 'decimal.Decimal'")
      else .ok ()
  | v => .error (unsupportedWithInt "/" v)

/-- `attempt` 回目の試みのあとに待つ時間 `retry_delay_ms * 2 ** (attempt - 1)`（ミリ秒）。
待てる値（数）について求める。 -/
def pauseAfter (delay : Value) (attempt : Nat) : Value :=
  let factor := Nat.pow 2 (attempt - 1)
  match delay with
  | .int i => .int (i * factor)
  | .bool b => .int ((if b then 1 else 0) * factor)
  | .float x => .float (x * Float.ofNat factor)
  | .decimal (.finite d) =>
    .decimal (.finite (Number.DecimalNumber.roundToPrecision d.negative (d.coefficient * factor) d.exponent))
  | v => v

/-- 再試行の回数の上限を越えるまでの試みの数の上限（整数の上限なら正確、ほかは十分に大きい数）。 -/
def attemptFuel (limit : Value) : Nat :=
  match limit with
  | .int i => i.toNat + 1
  | _ => Nat.pow 2 64

/-- トランザクションの中で `fn` を走らせる。一番外では、一時的な衝突で失敗するたびに、
試みの番号が上限を越えるまで `fn` を最初からやり直す。上限と待ち時間は渡されたままの値で比べ、計算する。 -/
def transaction {α : Type} (fn : Run α) (opts : TransactionOptions) : Run α := do
  let s ← get
  let rollbackOnly := opts.rollbackOnly.truthy
  match s.binding with
  | some b =>
    if b.readonly then throw (Fault.policy .readOnly .none (.str "transaction") .none)
    savepoint b fn rollbackOnly
  | none =>
    let retry := match opts.retryOnError with
      | .none => s.settings.retryOnError
      | v => v.truthy
    let limit := match opts.retryLimit with
      | .none => .int s.settings.retryLimit
      | v => v
    let delay := match opts.retryDelayMs with
      | .none => .int s.settings.retryDelayMs
      | v => v
    attempt fn rollbackOnly retry limit delay 1 (attemptFuel limit)
where
  /-- `n` 回目の試み。残りの回数 `fuel` で再帰を止める。 -/
  attempt (fn : Run α) (rollbackOnly retry : Bool) (limit delay : Value) (n : Nat) : Nat → Run α
    | 0 => outermost fn rollbackOnly
    | fuel + 1 => do
      try outermost fn rollbackOnly
      catch e =>
        let d := (← get).dialect
        if !retry then throw e
        if ← liftExcept (Value.greater (.int n) limit) then throw e
        let transient ← liftExcept (d.isTransientConflict e)
        if !transient then throw e
        liftExcept (pauseProduct delay)
        let _ ← liftExcept e.str
        liftExcept (retryPause delay)
        modify fun s => { s with pauses := s.pauses ++ [pauseAfter delay n] }
        attempt fn rollbackOnly retry limit delay (n + 1) fuel

/-- 読み取りを書き手で行い、書き込みを拒む文脈で `fn` を走らせる。 -/
def withWriter {α : Type} (fn : Run α) : Run α := do
  match (← get).binding with
  | some b => withBinding (some ⟨b.depth, true⟩) fn
  | none =>
    acquire .writer
    withBinding (some ⟨0, true⟩) fn

end Session

end DataAccess
