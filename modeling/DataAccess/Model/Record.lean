import DataAccess.Model.Catalog
import DataAccess.Value.Sequence
import DataAccess.Fault
import DataAccess.Sql.Statement
/-!
# レコード

モデルのインスタンス。宣言された列の値を属性名で、行にあった知らない列を列名で持つ。

行から作るときは、自分の列を列名で引き、変換のある列には NULL でない値に変換を掛ける
（真偽・整数・文字列）。キーワードで作るときは、継承の順に見て列である名前だけを受け取る。
-/

namespace DataAccess

namespace Value

/-- 数字と、数字の間の一つの `_` だけか。 -/
def isDigitRun (cs : List Char) : Bool :=
  match cs with
  | [] => false
  | c :: rest => c.isDigit && go rest
where
  go : List Char → Bool
    | [] => true
    | '_' :: d :: rest => d.isDigit && go rest
    | d :: rest => d.isDigit && go rest

/-- ASCII の十進の整数の字面を読む（前後の ASCII の空白、符号、桁の間の一つの `_` を許す）。 -/
def readAsciiInteger? (cs : List Char) : Option Int :=
  let cs := ((cs.dropWhile Number.isAsciiSpace).reverse.dropWhile Number.isAsciiSpace).reverse
  let (negative, body) := match cs with
    | '-' :: r => (true, r)
    | '+' :: r => (false, r)
    | r => (false, r)
  if isDigitRun body then
    let n := Number.digitsValue (body.filter Char.isDigit)
    some (if negative then -(n : Int) else n)
  else Option.none

/-- 十進の整数の字面を読む。ASCII でない空白は空白に、ASCII でない十進の数字はその値の
ASCII の数字に移してから（ほかの ASCII でない文字があれば読めない）、ASCII の字面として読む。 -/
def readInteger? (s : String) : Option Int := do
  let cs ← s.toList.mapM fun c =>
    if c.toNat < 128 then some c
    else if Unicode.isSpace c then some ' '
    else (Unicode.decimalValue? c).map fun d => Char.ofNat (0x30 + d)
  readAsciiInteger? cs

/-- UUID の 128 ビットの整数の値（字面の十六進の数字を読む）。 -/
def uuidInteger (text : String) : Int :=
  let digits : List Nat := text.toList.filterMap fun c =>
    if '0' ≤ c ∧ c ≤ '9' then some (c.toNat - '0'.toNat)
    else if 'a' ≤ c ∧ c ≤ 'f' then some (c.toNat - 'a'.toNat + 10)
    else Option.none
  digits.foldl (fun (n : Int) (d : Nat) => 16 * n + d) 0

/-- 有限な浮動小数を 0 の方へ切り捨てた整数。 -/
def truncateFloat (x : Float) : Except Fault Int :=
  match Number.FloatShape.ofFloat x with
  | .finite b =>
    let n : Nat := if b.exponent ≥ 0 then b.mantissa * Nat.pow 2 b.exponent.toNat else b.mantissa / Nat.pow 2 b.exponent.natAbs
    .ok (if b.negative then -(n : Int) else n)
  | .infinite _ => .error (Fault.other "OverflowError" "cannot convert float infinity to integer")
  | .notANumber => .error (Fault.other "ValueError" "cannot convert float NaN to integer")

/-- 整数にする。浮動小数と十進数は切り捨て、文字列とバイト列は十進の字面として読み、
UUID はその 128 ビットの値。 -/
def toInteger (v : Value) : Except Fault Int :=
  match v with
  | .int i => .ok i
  | .bool b => .ok (if b then 1 else 0)
  | .float x => truncateFloat x
  | .decimal (.finite d) =>
    let n : Nat := if d.exponent ≥ 0 then d.coefficient * Nat.pow 10 d.exponent.toNat
      else d.coefficient / Nat.pow 10 d.exponent.natAbs
    .ok (if d.negative then -(n : Int) else n)
  | .decimal (.infinity _) => .error (Fault.other "OverflowError" "cannot convert Infinity to integer")
  | .decimal (.nan ..) => .error (Fault.other "ValueError" "cannot convert NaN to integer")
  | .str s =>
    match readInteger? s with
    | some i => .ok i
    | Option.none => .error (Fault.other "ValueError" ("invalid literal for int() with base 10: " ++ quoteText s))
  | .bytes bs =>
    -- バイト列は ASCII の字面として読む
    match (if bs.all (· < 128) then readAsciiInteger? (bs.map fun b => Char.ofNat b.toNat) else Option.none) with
    | some i => .ok i
    | Option.none => .error (Fault.other "ValueError" ("invalid literal for int() with base 10: " ++ v.repr))
  | .uuid t => .ok (uuidInteger t)
  | _ => .error (Fault.other "TypeError"
      ("int() argument must be a string, a bytes-like object or a real number, not " ++ quoteText v.typeName))

end Value

/-- 変換を掛ける。 -/
def Converter.apply (c : Converter) (v : Value) : Except Fault Value :=
  match c with
  | .bool => .ok (.bool v.truthy)
  | .int => return .int (← v.toInteger)
  | .str => .ok (.str v.text)

namespace Catalog

/-- キーワードからインスタンスを作る。名前はどれも継承の順に見て列でなければならない。 -/
def instantiate (cat : Catalog) (cls : String) (id : Nat) (kwargs : List (String × Value)) :
    Except Fault Value := do
  for (k, _) in kwargs do
    match cat.attr? cls k with
    | some (.column _) => pure ()
    | _ => throw (Fault.contract (cls ++ " has no column " ++ quoteText k) (some k))
  return .record id cls (kwargs.foldl (fun acc (k, v) => Fault.setEntry acc k v) []) []

/-- 行からインスタンスを作る。自分の列は属性名で（変換を掛けて）、ほかは列名で持つ。 -/
def recordOfRow (cat : Catalog) (cls : String) (id : Nat) (row : List (Value × Value)) :
    Except Fault Value := do
  let m ← cat.metaOf cls
  let (values, extra) ← row.foldlM (fun (acc : List (String × Value) × List (Value × Value)) (k, v) => do
    let (values, extra) := acc
    let column := match k with
      | .str key => m.columns.find? fun (c : Column) => c.name == key
      | _ => Option.none
    match column with
    | Option.none => return (values, Value.dictSet extra k v)
    | some col =>
      let v ← match col.converter, v with
        | some _, .none => pure Value.none
        | some c, _ => c.apply v
        | none, _ => pure v
      return (Fault.setEntry values col.property v, extra)) ([], [])
  return .record id cls values extra

end Catalog

namespace Value

/-- レコードの属性名の値、なければ知らない列の値、なければ `default`。 -/
def recordGet (r : Value) (name : Value) (default : Value) : Except Fault Value := do
  name.requireHashable
  match r with
  | .record _ _ values extra =>
    let own := match name with
      | .str n => (values.find? (·.1 == n)).map (·.2)
      | _ => Option.none
    match own with
    | some v => pure v
    | Option.none => pure ((Value.lookup name extra).getD default)
  | _ => pure default

/-- レコードの辞書: 知らない列の上に属性の値を重ねる。 -/
def recordDict (r : Value) : Value :=
  match r with
  | .record _ _ values extra => .dict (values.foldl (fun acc (k, v) => Value.dictSet acc (.str k) v) extra)
  | _ => .dict []

/-- レコードの主キーの値の組。 -/
def recordKey (r : Value) (m : Meta) : Value :=
  .tuple (m.primaryKey.map fun c => match r with
    | .record _ _ values _ => ((values.find? (·.1 == c.property)).map (·.2)).getD .none
    | _ => .none)

/-- レコードの属性に値を置く。 -/
def recordSet (r : Value) (name : String) (v : Value) : Value :=
  match r with
  | .record id owner values extra => .record id owner (Fault.setEntry values name v) extra
  | _ => r

end Value

end DataAccess
