import DataAccess.Dialect
import DataAccess.Sql.Statement
/-!
# 設定

接続の記述（方言、ホスト、ポート、データベース、…）と、データベースの振る舞いの設定
（書き込み後に書き手へ寄せるか、その時間、取得の上限、再試行、書き込みにトランザクションを求めるか）。

値は欄の宣言の順に確かめ、誤りはすべて集めて場所（欄の道筋）と種類で報告する。
ゆるい読み方をする: 整数の欄は整数、真偽（0 と 1）、小数部のない浮動小数と十進数、整数の字面を受け取り、
真偽の欄は真偽、0 と 1、決まった綴りの文字列を受け取る。文字列の欄は文字列と、UTF-8 として正しいバイト列。
整数・浮動小数・真偽の欄でも、UTF-8 として正しいバイト列は字面として読む。
知らない欄は無視する。
-/

namespace DataAccess

/-- 確かめの誤り: 場所と種類。 -/
abbrev Issue := List String × String

namespace Check

/-- 前後を除く空白の文字（Unicode の White_Space の文字。区切りの制御文字 U+001C から U+001F は含まない）。 -/
def isWhiteSpace (c : Char) : Bool :=
  let n := c.toNat
  (9 ≤ n ∧ n ≤ 13) || n = 0x20 || n = 0x85 || n = 0xa0 || n = 0x1680 || (0x2000 ≤ n ∧ n ≤ 0x200a) ||
    n = 0x2028 || n = 0x2029 || n = 0x202f || n = 0x205f || n = 0x3000

/-- 前後の空白を除いた文字の並び。 -/
def trim (cs : List Char) : List Char :=
  ((cs.dropWhile isWhiteSpace).reverse.dropWhile isWhiteSpace).reverse

/-- 64 ビットの整数の字面: 符号（`+` か `-`）の後に一つ以上の ASCII の数字。 -/
def machineInt? (cs : List Char) : Option Int :=
  let (negative, ds) := match cs with
    | '-' :: r => (true, r)
    | '+' :: r => (false, r)
    | r => (false, r)
  if Number.allDigits ds then
    let n := Number.digitsValue ds
    if negative then some (-(n : Int)) else some n
  else none

/-- 多倍長の整数の字面の数字の部分: 先頭は数字で、その後の `_` は読み飛ばす。 -/
def bigDigits? (cs : List Char) : Option Nat :=
  match cs with
  | [] | '_' :: _ => none
  | _ => if cs.all (fun c => c.isDigit || c == '_') then some (Number.digitsValue (cs.filter Char.isDigit))
    else none

/-- 多倍長の整数の字面。`-` の直後の `+` と、重ねた `+` は受け取らない。 -/
def bigInt? (cs : List Char) : Option Int :=
  let unsigned : List Char → Option Nat := fun r => match r with
    | '+' :: '+' :: _ => none
    | '+' :: r' => bigDigits? r'
    | r' => bigDigits? r'
  match cs with
  | '-' :: '+' :: _ => none
  | '-' :: r => (unsigned r).map fun n => -(n : Int)
  | r => (unsigned r).map fun n => (n : Int)

/-- 長さ `len`（UTF-8 のバイト数）の字面を整数として読む。19 バイトより短ければ 64 ビットの整数の字面、
そうでなければ多倍長の整数の字面。 -/
def integerOfLength? (cs : List Char) (len : Nat) : Option Int :=
  if len < 19 then machineInt? cs else bigInt? cs

/-- 最初の `.` の後が 0 だけなら、その前。 -/
def stripDecimalZeros? (cs : List Char) : Option (List Char) :=
  match cs.dropWhile (· ≠ '.') with
  | '.' :: zs => if zs.all (· == '0') then some (cs.takeWhile (· ≠ '.')) else none
  | _ => none

/-- `_` を除いた字面。`_` の連続、先頭と末尾の `_` は受け取らない。 -/
def stripUnderscores? (cs : List Char) : Option (List Char) :=
  let doubled := (cs.zip cs.tail).any fun (a, b) => a == '_' && b == '_'
  if doubled || cs.head? == some '_' || cs.getLast? == some '_' then none
  else some (cs.filter (· ≠ '_'))

/-- 整数の字面を読む。前後の空白を除き、そのまま、小数点の後の 0 を落として、`_` を除いて、の順に試す。
長さは空白を除いた字面のもの。 -/
def integerText (s : String) : Except String Int :=
  let cs := trim s.toList
  let len := (String.ofList cs).utf8ByteSize
  if len > 4300 then .error "int_parsing_size"
  else match integerOfLength? cs len with
    | some i => .ok i
    | none =>
      match stripDecimalZeros? cs with
      | some ds => match integerOfLength? ds len with
        | some i => .ok i
        | none => .error "int_parsing"
      | none => match stripUnderscores? cs with
        | some ds => match integerOfLength? ds len with
          | some i => .ok i
          | none => .error "int_parsing"
        | none => .error "int_parsing"

/-- 2^63。これより絶対値の小さい浮動小数だけが整数になる。 -/
def machineBound : Float := 9223372036854775808.0

/-- 浮動小数を整数にする。有限で小数部がなく、絶対値が 2^63 より小さいこと。 -/
def floatInt (x : Float) : Except String Int :=
  if x.isNaN || x.isInf then .error "finite_number"
  else match Number.FloatShape.ofFloat x with
    | .finite b =>
      if b.exponent < 0 && b.mantissa % Nat.pow 2 b.exponent.natAbs != 0 then .error "int_from_float"
      else if x ≤ -machineBound || x ≥ machineBound then .error "int_parsing_size"
      else
        let n : Nat := if b.exponent ≥ 0 then b.mantissa * Nat.pow 2 b.exponent.toNat
          else b.mantissa / Nat.pow 2 b.exponent.natAbs
        .ok (if b.negative then -(n : Int) else n)
    | _ => .error "finite_number"

/-- 文字列として読む値: 文字列と、UTF-8 として正しいバイト列。サロゲートを含む文字列は
`string_unicode`、UTF-8 として読めないバイト列は `invalid` の誤り。ほかの値は `none`。 -/
def textOf? (invalid : String) (v : Value) : Except String (Option String) :=
  match v with
  | .str s => if s.toList.any fun c => (Unicode.surrogate? c).isSome then .error "string_unicode" else .ok (some s)
  | .bytes bs =>
    match String.fromUTF8? (ByteArray.mk bs.toArray) with
    | some s => .ok (some s)
    | none => .error invalid
  | _ => .ok none

/-- 十進数を整数にする。有限で、値が整数であること。 -/
def decimalInt : Number.DecimalNumber → Except String Int
  | .finite d =>
    let n : Nat := if d.exponent ≥ 0 then d.coefficient * Nat.pow 10 d.exponent.toNat
      else d.coefficient / Nat.pow 10 d.exponent.natAbs
    if d.exponent < 0 && d.coefficient % Nat.pow 10 d.exponent.natAbs != 0 then .error "int_from_float"
    else .ok (if d.negative then -(n : Int) else n)
  | _ => .error "finite_number"

/-- 十進数を浮動小数にする。信号を出す非数は浮動小数にならない。 -/
def decimalFloat : Number.DecimalNumber → Except String Float
  | .finite d => .ok d.toFloat
  | .infinity negative => .ok (if negative then -(1 / 0) else 1 / 0)
  | .nan _ signaling _ => if signaling then .error "float_type" else .ok (0 / 0)

/-- 整数。整数と真偽はそのまま、文字列は整数の字面、浮動小数と十進数は値が整数のとき。 -/
def int (v : Value) : Except String Int := do
  match v with
  | .int i => return i
  | .bool b => return (if b then 1 else 0)
  | _ =>
    match ← textOf? "int_parsing" v with
    | some s => integerText s
    | none =>
      match v with
      | .float x => floatInt x
      | .decimal d => decimalInt d
      | _ => throw "int_type"

/-- 2^63（整数）。 -/
def machineBoundInt : Int := 9223372036854775808

/-- 真偽の綴り（大文字と小文字は区別しない。前後の空白は許さない）。 -/
def truthWords : List (String × Bool) :=
  [("0", false), ("off", false), ("f", false), ("false", false), ("n", false), ("no", false),
   ("1", true), ("on", true), ("t", true), ("true", true), ("y", true), ("yes", true)]

/-- 浮動小数を真偽にする: 0 と 1 だけ。ほかの整数は読めない綴り、整数でない値は型の誤り。 -/
def floatBool (x : Float) : Except String Bool :=
  match floatInt x with
  | .ok 0 => .ok false
  | .ok 1 => .ok true
  | .ok _ => .error "bool_parsing"
  | .error _ => .error "bool_type"

/-- 真偽。真偽はそのまま、文字列は決まった綴り、数は 0 と 1。 -/
def bool (v : Value) : Except String Bool := do
  match v with
  | .bool b => return b
  | _ =>
    match ← textOf? "bool_parsing" v with
    | some s =>
      match truthWords.find? (·.1 == s.map Char.toLower) with
      | some (_, b) => return b
      | none => throw "bool_parsing"
    | none =>
      match v with
      | .int 0 => return false
      | .int 1 => return true
      | .int i => throw (if -machineBoundInt ≤ i && i < machineBoundInt then "bool_parsing" else "bool_type")
      | .float x => floatBool x
      | .decimal d =>
        match decimalFloat d with
        | .ok x => floatBool x
        | .error _ => throw "bool_type"
      | _ => throw "bool_type"

/-- 文字列。バイト列は UTF-8 として読む。 -/
def str (v : Value) : Except String String :=
  match v with
  | .str s => .ok s
  | .bytes bs =>
    match String.fromUTF8? (ByteArray.mk bs.toArray) with
    | some s => .ok s
    | none => .error "string_unicode"
  | _ => .error "string_type"

/-- 浮動小数の字面（空白を除いたもの）: 符号の後に `inf`、`infinity`、`nan`（大文字小文字は問わない）か、
`数字 [. 数字] [e [符号] 数字]`（整数部と小数部の一方は空でもよい）。 -/
def floatLiteral? (cs : List Char) : Option Float :=
  let (negative, body) := match cs with
    | '-' :: r => (true, r)
    | '+' :: r => (false, r)
    | r => (false, r)
  let lower := String.ofList (body.map Char.toLower)
  let sign : Float := if negative then -1 else 1
  if lower == "inf" || lower == "infinity" then some (sign * (1 / 0))
  else if lower == "nan" then some (0 / 0)
  else (Number.Numeral.read? (String.ofList cs)).map fun n => n.decimal.toFloat

/-- 浮動小数の字面。前後の空白を除いて読み、読めなければ（空白を除かずに）`_` を除いて読む。 -/
def floatText (s : String) : Except String Float :=
  match floatLiteral? (trim s.toList) with
  | some x => .ok x
  | none =>
    match (stripUnderscores? s.toList).bind floatLiteral? with
    | some x => .ok x
    | none => .error "float_parsing"

/-- 浮動小数。文字列は浮動小数の字面、整数は浮動小数で表せる大きさのとき、十進数はその値。 -/
def float (v : Value) : Except String Float := do
  match v with
  | .float x => return x
  | _ =>
    match ← textOf? "float_parsing" v with
    | some s => floatText s
    | none =>
      match v with
      | .int i =>
        let x := Float.ofInt i
        if x.isInf then throw "float_type" else return x
      | .bool b => return (if b then 1 else 0)
      | .decimal d => decimalFloat d
      | _ => throw "float_type"

/-- 方言の名前（綴りは正確に）。 -/
def dialect (v : Value) : Except String Dialect :=
  match v with
  | .str "postgresql" => .ok .postgresql
  | .str "mysql" => .ok .mysql
  | .str "sqlite" => .ok .sqlite
  | _ => .error "enum"

/-- 辞書。 -/
def dict (v : Value) : Except String (List (Value × Value)) :=
  match v with
  | .dict kvs => .ok kvs
  | _ => .error "dict_type"

/-- `None` も受け取る欄。 -/
def optional {α : Type} (check : Value → Except String α) (v : Value) : Except String (Option α) :=
  match v with
  | .none => .ok none
  | v => some <$> check v

/-- 負でない整数。 -/
def nonNegative (v : Value) : Except String Int := do
  let i ← int v
  if i < 0 then .error "greater_than_equal" else .ok i

/-- 負でない整数か `None`。 -/
def nonNegativeOpt (v : Value) : Except String (Option Int) :=
  optional nonNegative v

/-- 欄を一つ確かめる。なければ既定の値、誤りは記録して既定の値。 -/
def field {α : Type} (input : List (String × Value)) (path : List String) (key : String)
    (check : Value → Except String α) (default : α) : StateM (List Issue) α := do
  match (input.reverse.find? (·.1 == key)).map (·.2) with
  | none => return default
  | some v =>
    match check v with
    | .ok a => return a
    | .error t =>
      modify (· ++ [(path ++ [key], t)])
      return default

end Check

/-- 一つの接続の記述。 -/
structure ConnectionConfig where
  dialect : Dialect := .sqlite
  host : Option String := none
  port : Option Int := none
  database : String := ":memory:"
  user : Option String := none
  password : Option String := none
  maxPoolSize : Int := 10
  minPoolSize : Int := 1
  connectTimeout : Float := 30.0
  queryTimeout : Option Float := none
  options : List (Value × Value) := []
  deriving Inhabited

namespace ConnectionConfig

/-- 欄を確かめて記述を作る（誤りは `path` の下に記録する）。 -/
def check (path : List String) (input : List (String × Value)) : StateM (List Issue) ConnectionConfig := do
  let f := fun {α : Type} (key : String) (c : Value → Except String α) (d : α) => Check.field input path key c d
  let dialect ← f "dialect" Check.dialect .sqlite
  let host ← f "host" (Check.optional Check.str) none
  let port ← f "port" (Check.optional Check.int) none
  let database ← f "database" Check.str ":memory:"
  let user ← f "user" (Check.optional Check.str) none
  let password ← f "password" (Check.optional Check.str) none
  let maxPoolSize ← f "max_pool_size" Check.int 10
  let minPoolSize ← f "min_pool_size" Check.int 1
  let connectTimeout ← f "connect_timeout" Check.float 30.0
  let queryTimeout ← f "query_timeout" (Check.optional Check.float) none
  let options ← f "options" Check.dict []
  return { dialect, host, port, database, user, password, maxPoolSize, minPoolSize, connectTimeout,
           queryTimeout, options }

/-- 欄から記述を作る。誤りがあれば設定の検証の失敗。 -/
def ofFields (input : List (String × Value)) : Except Fault ConnectionConfig :=
  let (c, issues) := (check [] input).run []
  if issues.isEmpty then .ok c else .error (.invalid issues)

/-- 方言の既定のポート。 -/
def defaultPort (c : ConnectionConfig) : Option Int :=
  match c.dialect with
  | .postgresql => some 5432
  | .mysql => some 3306
  | .sqlite => none

/-- 接続の文字列（パスワードは含めない）。 -/
def dsn (c : ConnectionConfig) : String :=
  match c.dialect with
  | .sqlite => c.database
  | d =>
    let port := match c.port with
      | some p => if p == 0 then c.defaultPort else some p
      | none => c.defaultPort
    let portText := match port with
      | some p => toString p
      | none => "None"
    let user := match c.user with
      | some u => if u.isEmpty then "" else u ++ "@"
      | none => ""
    let host := match c.host with
      | some h => if h.isEmpty then "localhost" else h
      | none => "localhost"
    d.name ++ "://" ++ user ++ host ++ ":" ++ portText ++ "/" ++ c.database

end ConnectionConfig

/-- データベースの設定。 -/
structure Settings where
  /-- 読み手の接続（書き手の指定がなければ書き手も）。 -/
  connection : ConnectionConfig := {}
  writer : Option ConnectionConfig := none
  /-- トランザクションの確定の後、しばらく読み取りも書き手に寄せる。 -/
  useWriterAfterTransaction : Bool := true
  writerStickyDurationMs : Int := 5000
  findHardLimit : Option Int := none
  hasManyHardLimit : Option Int := none
  /-- 一番外のトランザクションを一時的な衝突で再試行する。 -/
  retryOnError : Bool := true
  retryLimit : Int := 3
  retryDelayMs : Int := 200
  /-- 自動確定の指定なしにトランザクションの外で書き込むことを拒む。 -/
  requireTransactionForWrites : Bool := true
  logLevel : String := "INFO"
  deriving Inhabited

namespace Settings

/-- 入れ子の接続の記述を確かめる。 -/
def nested (path : List String) (v : Value) : StateM (List Issue) (Option ConnectionConfig) := do
  match v with
  | .dict kvs => some <$> ConnectionConfig.check path (kvs.map fun (k, x) => (k.text, x))
  | _ =>
    modify (· ++ [(path, "model_type")])
    return none

/-- 欄から設定を作る。`connection` の欄がなければ `base` を接続にする。 -/
def ofFields (base : ConnectionConfig) (input : List (String × Value)) : Except Fault Settings :=
  let run : StateM (List Issue) Settings := do
    let connection ← match (input.reverse.find? (·.1 == "connection")).map (·.2) with
      | some v => do pure ((← nested ["connection"] v).getD base)
      | none => pure base
    let writer ← match (input.reverse.find? (·.1 == "writer")).map (·.2) with
      | some Value.none | none => pure none
      | some v => nested ["writer"] v
    let f := fun {α : Type} (key : String) (c : Value → Except String α) (d : α) => Check.field input [] key c d
    let useWriterAfterTransaction ← f "use_writer_after_transaction" Check.bool true
    let writerStickyDurationMs ← f "writer_sticky_duration_ms" Check.nonNegative 5000
    let findHardLimit ← f "find_hard_limit" Check.nonNegativeOpt none
    let hasManyHardLimit ← f "has_many_hard_limit" Check.nonNegativeOpt none
    let retryOnError ← f "retry_on_error" Check.bool true
    let retryLimit ← f "retry_limit" Check.nonNegative 3
    let retryDelayMs ← f "retry_delay_ms" Check.nonNegative 200
    let requireTransactionForWrites ← f "require_transaction_for_writes" Check.bool true
    let logLevel ← f "log_level" Check.str "INFO"
    return { connection, writer, useWriterAfterTransaction, writerStickyDurationMs, findHardLimit,
             hasManyHardLimit, retryOnError, retryLimit, retryDelayMs, requireTransactionForWrites, logLevel }
  let (s, issues) := run.run []
  if issues.isEmpty then .ok s else .error (.invalid issues)

end Settings

end DataAccess
