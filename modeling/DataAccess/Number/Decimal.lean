import DataAccess.Number.Shortest
import DataAccess.Unicode.Space
import DataAccess.Unicode.Digit
/-!
# 十進数の字面

`[符号] 数字 [. 数字] [e [符号] 数字]` の字面を、符号・係数・十進指数に分けて読む。
係数の末尾の 0 は指数へ移さないので、`1.10` は係数 110、指数 -2 のまま残る。

読みは小数点か指数があったか（`Numeral.fractional`）も残すので、JSON の数を整数と
浮動小数に分けられる。精度を保つ十進数 `Decimal` とその文字表記もここに置く。

`DecimalNumber` は無限大と非数も持つ十進数の値。字面は前後の空白を除き、`_` をすべて除き、
ASCII でない十進の数字を ASCII の数字に移してから、
有限の字面、`Inf` か `Infinity`、`NaN` か `sNaN` と診断の数字として読む（英字の大文字小文字は
区別しない）。字面から作る値は丸めない: 有限の値は最上位の桁の位が 999999999999999999 以下、
指数が -1999999999999999997 以上でなければならない（`fitsExactly`）。
-/

namespace DataAccess.Number

/-- 十進数: 値は `(-1)^negative · coefficient · 10^exponent`。 -/
structure Decimal where
  negative : Bool
  coefficient : Nat
  exponent : Int
  deriving Repr, BEq, Inhabited

/-- 読み取った数の字面。`fractional` は小数点か指数を含むこと。 -/
structure Numeral where
  decimal : Decimal
  fractional : Bool

/-- 数字の並びの値。 -/
def digitsValue (ds : List Char) : Nat :=
  ds.foldl (fun n c => 10 * n + (c.toNat - '0'.toNat)) 0

/-- 数字だけの並び（空でない）か。 -/
def allDigits (ds : List Char) : Bool := !ds.isEmpty && ds.all Char.isDigit

/-- 字面を読む。整数部と小数部の一方は空でもよい（`.5`, `5.`）が、両方は空にできない。 -/
def Numeral.read? (s : String) : Option Numeral :=
  let cs := s.toList
  let (negative, r0) := match cs with
    | '-' :: r => (true, r)
    | '+' :: r => (false, r)
    | _ => (false, cs)
  let body := r0.takeWhile (fun c => c ≠ 'e' ∧ c ≠ 'E')
  let expPart := r0.dropWhile (fun c => c ≠ 'e' ∧ c ≠ 'E')
  let whole := body.takeWhile (· ≠ '.')
  let afterWhole := body.dropWhile (· ≠ '.')
  let (hasPoint, frac) := match afterWhole with
    | '.' :: f => (true, f)
    | _ => (false, [])
  let expo : Option (Option Int) := match expPart with
    | [] => some none
    | _ :: es =>
      match es with
      | '-' :: ds => if allDigits ds then some (some (-(digitsValue ds : Int))) else none
      | '+' :: ds => if allDigits ds then some (some (digitsValue ds : Int)) else none
      | ds => if allDigits ds then some (some (digitsValue ds : Int)) else none
  let okWhole := whole.all Char.isDigit
  let okFrac := frac.all Char.isDigit
  if !okWhole || !okFrac || (whole.isEmpty && frac.isEmpty) then none else
  match expo with
  | none => none
  | some e =>
    some ⟨⟨negative, digitsValue (whole ++ frac), e.getD 0 - frac.length⟩,
      hasPoint || e.isSome⟩

/-- 係数の桁の文字列。 -/
def Decimal.coefficientText (d : Decimal) : String := toString d.coefficient

/-- 十進数の文字表記。指数が 0 以下で先頭の桁の位が -6 以上なら位置表記、
それ以外は `1.5E+3` のような指数表記。係数の桁はすべて残す。 -/
def Decimal.toText (d : Decimal) : String :=
  let ds := d.coefficientText
  let len : Int := ds.length
  let left := d.exponent + len
  let dot : Int := if d.exponent ≤ 0 ∧ left > -6 then left else 1
  let (intPart, fracPart) :=
    if dot ≤ 0 then ("0", "." ++ String.ofList (List.replicate dot.natAbs '0') ++ ds)
    else if dot ≥ len then (ds ++ String.ofList (List.replicate (dot - len).toNat '0'), "")
    else (String.ofList (ds.toList.take dot.toNat), "." ++ String.ofList (ds.toList.drop dot.toNat))
  let expText :=
    if left = dot then ""
    else
      let x := left - dot
      "E" ++ (if x ≥ 0 then "+" else "-") ++ toString x.natAbs
  (if d.negative then "-" else "") ++ intPart ++ fracPart ++ expText

/-- 十進数の値の比較に使う正規形: 係数の末尾の 0 を除き、0 は符号と指数を忘れる。 -/
def Decimal.normal (d : Decimal) : Bool × Nat × Int :=
  if d.coefficient = 0 then (false, 0, 0) else
  let rec strip : Nat → Nat → Int → Nat × Int
    | 0, c, e => (c, e)
    | fuel + 1, c, e => if c % 10 = 0 then strip fuel (c / 10) (e + 1) else (c, e)
  let (c, e) := strip (decimalLength d.coefficient) d.coefficient d.exponent
  (d.negative, c, e)

/-- 値として等しいか（`1.10` と `1.1` は等しい）。 -/
def Decimal.sameValue (a b : Decimal) : Bool := a.normal == b.normal

/-- 整数値の十進数。 -/
def Decimal.ofInt (i : Int) : Decimal := ⟨i < 0, i.natAbs, 0⟩

/-- 浮動小数に直す（最も近い値に丸める）。 -/
def Decimal.toFloat (d : Decimal) : Float :=
  let x := if d.exponent ≥ 0 then Float.ofScientific d.coefficient false d.exponent.toNat
    else Float.ofScientific d.coefficient true d.exponent.natAbs
  if d.negative then -x else x

/-- 仮数の 2 の因数を、負の指数が 0 になるまで指数へ移す（値は変わらない）。
0 の指数は 0 にする。 -/
def Binary.reduce (b : Binary) : Binary :=
  if b.mantissa = 0 then { b with exponent := 0 } else
  let rec go : Nat → Nat → Int → Nat × Int
    | 0, m, e => (m, e)
    | fuel + 1, m, e => if e < 0 ∧ m % 2 = 0 then go fuel (m / 2) (e + 1) else (m, e)
  let (m, e) := go b.exponent.natAbs b.mantissa b.exponent
  { b with mantissa := m, exponent := e }

/-- 有限な二進浮動小数と同じ値の十進数（`m · 2^e = m · 5^(-e) · 10^e`）。
指数は値を表せる最大のもので、`0.5` は `0.5`、`2.0` は `2`。 -/
def Decimal.ofBinary (b : Binary) : Decimal :=
  let b := b.reduce
  if b.exponent ≥ 0 then ⟨b.negative, b.mantissa * Nat.pow 2 b.exponent.toNat, 0⟩
  else ⟨b.negative, b.mantissa * Nat.pow 5 b.exponent.natAbs, b.exponent⟩

/-- 十進数の値: 有限の十進数、符号付きの無限大、非数（信号を出すかと診断の数を持つ）。 -/
inductive DecimalNumber where
  | finite (d : Decimal)
  | infinity (negative : Bool)
  | nan (negative signaling : Bool) (payload : Nat)
  deriving Repr, BEq, Inhabited

namespace DecimalNumber

/-- 演算の精度（桁数）。 -/
def precision : Nat := 28

/-- 字面を正確に読める指数の範囲: 最上位の桁の位の上限と、指数の下限。 -/
def widestMaxExponent : Int := 999999999999999999

/-- 指数の下限（最小の指数から精度の桁を引いたもの）。 -/
def widestMinExponent : Int := -1999999999999999997

/-- 字面の値を丸めずに持てるか: 最上位の桁の位が上限以下で、指数が下限以上。 -/
def fitsExactly : DecimalNumber → Bool
  | .finite d =>
    let adjusted := d.exponent + (max 1 (decimalLength d.coefficient) : Nat) - 1
    adjusted ≤ widestMaxExponent && widestMinExponent ≤ d.exponent
  | _ => true

/-- 字面の文字を ASCII に移す。`_` は除き、ASCII でない空白は空白に、ASCII でない十進の数字は
その値の ASCII の数字にする。NUL とそれ以外の文字があれば読めない。 -/
def asciiDigits? (cs : List Char) : Option (List Char) :=
  cs.foldr (fun c acc => acc.bind fun rest =>
    if c == '_' then some rest
    else if c.toNat == 0 then none
    else if c.toNat < 128 then some (c :: rest)
    else if Unicode.isSpace c then some (' ' :: rest)
    else (Unicode.decimalValue? c).map fun d => Char.ofNat (0x30 + d) :: rest) (some [])

/-- 字面を読む。 -/
def read? (s : String) : Option DecimalNumber := do
  let cs ← asciiDigits? (Unicode.trimSpace s.toList)
  let (negative, body) := match cs with
    | '-' :: r => (true, r)
    | '+' :: r => (false, r)
    | r => (false, r)
  let lower := body.map Char.toLower
  let payload (signaling : Bool) (ds : List Char) : Option DecimalNumber :=
    if ds.all Char.isDigit then some (.nan negative signaling (digitsValue ds)) else none
  if lower == "inf".toList || lower == "infinity".toList then some (.infinity negative)
  else match lower with
    | 'n' :: 'a' :: 'n' :: ds => payload false ds
    | 's' :: 'n' :: 'a' :: 'n' :: ds => payload true ds
    | _ => (Numeral.read? (String.ofList cs)).map fun n => .finite n.decimal

/-- 文字表記: 有限なら `Decimal.toText`、ほかは `Infinity`、`NaN`、`sNaN`（診断の数が 0 でなければ続ける）。 -/
def toText : DecimalNumber → String
  | .finite d => d.toText
  | .infinity negative => (if negative then "-" else "") ++ "Infinity"
  | .nan negative signaling payload =>
    (if negative then "-" else "") ++ (if signaling then "sNaN" else "NaN") ++
      (if payload == 0 then "" else toString payload)

/-- 真偽としての値: 0 だけが偽。 -/
def truthy : DecimalNumber → Bool
  | .finite d => d.coefficient != 0
  | _ => true

/-- 数として等しいか。有限の値は値で、無限大は符号で比べ、非数は何とも等しくない。 -/
def sameValue : DecimalNumber → DecimalNumber → Bool
  | .finite a, .finite b => a.sameValue b
  | .infinity a, .infinity b => a == b
  | _, _ => false

/-- 浮動小数と同じ値の十進数。 -/
def ofFloat (x : Float) : DecimalNumber :=
  match FloatShape.ofFloat x with
  | .finite b => .finite (Decimal.ofBinary b)
  | .infinite negative => .infinity negative
  | .notANumber => .nan false false 0

/-- 有限の十進数の符号付きの値を、指数 `e` 以下の共通の位に揃えた整数。 -/
def scaledAt (d : Decimal) (e : Int) : Int :=
  let c : Int := d.coefficient * Nat.pow 10 (d.exponent - e).toNat
  if d.negative then -c else c

/-- 係数を 28 桁に収める（偶数への丸め）。 -/
def roundToPrecision (negative : Bool) (c : Nat) (e : Int) : Decimal :=
  let k := decimalLength c - precision
  if k = 0 then ⟨negative, c, e⟩ else
  let unit := Nat.pow 10 k
  let (q, r) := (c / unit, c % unit)
  let half := unit / 2
  let q := if r > half || (r == half && q % 2 == 1) then q + 1 else q
  if decimalLength q > precision then ⟨negative, q / 10, e + k + 1⟩ else ⟨negative, q, e + k⟩

/-- 無効な演算の失敗の文。 -/
def invalidOperation : String := "[<class 'decimal.InvalidOperation'>]"

/-- 和（精度 28 桁、偶数への丸め）。信号を出す非数や、符号の違う無限大どうしの和は無効な演算。
非数との和は最初の非数。0 の符号は、両方が負のときだけ負。 -/
def add (a b : DecimalNumber) : Except String DecimalNumber :=
  match a, b with
  | .nan _ true _, _ | _, .nan _ true _ => .error invalidOperation
  | .nan .., _ => .ok a
  | _, .nan .. => .ok b
  | .infinity x, .infinity y => if x == y then .ok a else .error invalidOperation
  | .infinity _, _ => .ok a
  | _, .infinity _ => .ok b
  | .finite x, .finite y =>
    let e := min x.exponent y.exponent
    let sum := scaledAt x e + scaledAt y e
    let negative := if sum = 0 then x.negative && y.negative else sum < 0
    .ok (.finite (roundToPrecision negative sum.natAbs e))

/-- 大小の比較 `a < b`。非数はどれとも比べられない（偽）。 -/
def lt (a b : DecimalNumber) : Bool :=
  match a, b with
  | .nan .., _ | _, .nan .. => false
  | .infinity x, .infinity y => x && !y
  | .infinity x, _ => x
  | _, .infinity y => !y
  | .finite x, .finite y =>
    let e := min x.exponent y.exponent
    scaledAt x e < scaledAt y e

end DecimalNumber

/-- `_` を除く。`_` は数字と数字の間にだけ置ける。 -/
def dropUnderscores (cs : List Char) : Option (List Char) :=
  go ' ' cs
where
  go (prev : Char) : List Char → Option (List Char)
    | [] => some []
    | '_' :: rest =>
      match rest with
      | c :: _ => if prev.isDigit && c.isDigit then go prev rest else none
      | [] => none
    | c :: rest => (go c rest).map (c :: ·)

/-- ASCII の空白（空白、タブ、改行、垂直タブ、改ページ、復帰）。 -/
def isAsciiSpace (c : Char) : Bool :=
  c == ' ' || c == '\t' || c == '\n' || c.toNat == 11 || c.toNat == 12 || c == '\r'

/-- 浮動小数の字面を読む。ASCII でない空白は空白に、ASCII でない十進の数字はその値の
ASCII の数字に移し（ほかの ASCII でない文字があれば読めない）、数字の間の `_` を除き、
前後の空白を除いてから、符号付きの十進の字面か、大文字小文字を問わない
`inf`・`infinity`・`nan` として読む。 -/
def floatOfText? (s : String) : Option Float := do
  let cs ← s.toList.mapM fun c =>
    if c.toNat < 128 then some c
    else if Unicode.isSpace c then some ' '
    else (Unicode.decimalValue? c).map fun d => Char.ofNat (0x30 + d)
  let cs ← dropUnderscores cs
  let cs := ((cs.dropWhile isAsciiSpace).reverse.dropWhile isAsciiSpace).reverse
  let (negative, body) := match cs with
    | '-' :: r => (true, r)
    | '+' :: r => (false, r)
    | r => (false, r)
  let lower := body.map Char.toLower
  let infinity : Float := 1 / 0
  if lower == "inf".toList || lower == "infinity".toList then some (if negative then -infinity else infinity)
  else if lower == "nan".toList then some (0 / 0)
  else (Numeral.read? (String.ofList cs)).map fun n => n.decimal.toFloat

end DataAccess.Number
