/-!
# 最短の十進表記

有限な倍精度浮動小数を、読み戻すと同じ数になる最も短い十進の桁列に直す。

値 `m · 2^e` を丸めてその数になる実数の区間（`m` が偶数なら端を含む）をとり、
桁数 1, 2, … 17 の順に、その桁数の十進の格子で値を挟む二点が区間に入るかを
自然数の厳密な計算で調べる。最初に当たった格子が桁数を決め、二点とも入れば値に近い方、
ちょうど中間なら末尾が偶数の方をとる。

桁の並べ方（どこから指数表記にするか、`.0` を付けるか）は `Layout` が決める。
-/

namespace DataAccess.Number

/-- 有限な二進浮動小数の分解: 値は `(-1)^negative · mantissa · 2^exponent`。 -/
structure Binary where
  negative : Bool
  mantissa : Nat
  exponent : Int
  deriving Repr

/-- 浮動小数の種類。 -/
inductive FloatShape where
  | finite (b : Binary)
  | infinite (negative : Bool)
  | notANumber

/-- ビット列から値の形を読む。 -/
def FloatShape.ofFloat (x : Float) : FloatShape :=
  let bits := x.toBits.toNat
  let negative := bits / Nat.pow 2 63 % 2 == 1
  let biased : Nat := bits / Nat.pow 2 52 % 2048
  let fraction : Nat := bits % Nat.pow 2 52
  if biased = 2047 then
    if fraction = 0 then .infinite negative else .notANumber
  else if biased = 0 then .finite ⟨negative, fraction, -1074⟩
  else .finite ⟨negative, fraction + Nat.pow 2 52, (biased : Int) - 1075⟩

/-- 十進の科学表記: 値は `digits · 10^exponent`。 -/
structure Scientific where
  digits : Nat
  exponent : Int
  deriving Repr, BEq

/-- `a · 2^p · 10^q` を分子と分母の組で表す。 -/
def scaled (a : Nat) (p q : Int) : Nat × Nat :=
  (a * Nat.pow 2 p.toNat * Nat.pow 10 q.toNat, Nat.pow 2 (-p).toNat * Nat.pow 10 (-q).toNat)

/-- 分数の `≤`。 -/
def fracLe (x y : Nat × Nat) : Bool := x.1 * y.2 ≤ y.1 * x.2

/-- 分数の `<`。 -/
def fracLt (x y : Nat × Nat) : Bool := x.1 * y.2 < y.1 * x.2

/-- 十進の桁数（`0` は一桁）。 -/
def decimalLength (n : Nat) : Nat := (Nat.toDigits 10 n).length

/-- 正の分数 `num / den` の常用対数の床。 -/
def floorLog10 (num den : Nat) : Int :=
  if num ≥ den then (decimalLength (num / den) : Int) - 1
  else
    let t := decimalLength (den / num)
    -- `num · 10^t ≥ den` となる最小の `t` は `t - 1` か `t`
    if num * Nat.pow 10 (t - 1) ≥ den then -((t - 1 : Nat) : Int) else -(t : Int)

/-- 丸めて `m · 2^e` になる実数の区間。端の値と、端を含むかどうか。
仮数が `2^52` ちょうどで指数が最小でなければ、下の隣との間隔は半分になる。 -/
def roundingInterval (m : Nat) (e : Int) : (Nat × Nat) × (Nat × Nat) × Bool :=
  let lowGap := if m = Nat.pow 2 52 ∧ e > -1074 then 1 else 2
  (scaled (4 * m - lowGap) (e - 2) 0, scaled (4 * m + 2) (e - 2) 0, m % 2 == 0)

/-- 格子点 `c · 10^q` が区間に入るか。 -/
def inInterval (iv : (Nat × Nat) × (Nat × Nat) × Bool) (c : Nat) (q : Int) : Bool :=
  let p := scaled c 0 q
  let (lo, hi, closed) := iv
  if closed then fracLe lo p && fracLe p hi else fracLt lo p && fracLt p hi

/-- 末尾の 0 を指数へ移す。 -/
def trimZeros : Nat → Scientific → Scientific
  | 0, s => s
  | fuel + 1, s =>
    if s.digits ≠ 0 ∧ s.digits % 10 = 0 then trimZeros fuel ⟨s.digits / 10, s.exponent + 1⟩
    else s

/-- 桁数 `n` の格子で値を挟む二点のうち、区間に入るもの（二つなら近い方、同じ近さなら偶数）。 -/
def gridPick (m : Nat) (e : Int) (k : Int) (n : Nat) : Option Scientific :=
  let v := scaled m e 0
  let q := k - n + 1
  let g := v.1 * Nat.pow 10 (-q).toNat / (v.2 * Nat.pow 10 q.toNat)
  let iv := roundingInterval m e
  let loIn := inInterval iv g q
  let hiIn := inInterval iv (g + 1) q
  if loIn && hiIn then
    -- `2v` と `(2g + 1) · 10^q` を比べる
    let twice := scaled (2 * m) e 0
    let mid := scaled (2 * g + 1) 0 q
    if fracLt twice mid then some ⟨g, q⟩
    else if fracLt mid twice then some ⟨g + 1, q⟩
    else if g % 2 = 0 then some ⟨g, q⟩ else some ⟨g + 1, q⟩
  else if loIn then some ⟨g, q⟩
  else if hiIn then some ⟨g + 1, q⟩
  else none

/-- 桁数 `n` から 17 まで順に格子を試す。 -/
def searchGrids (m : Nat) (e : Int) (k : Int) : Nat → Nat → Scientific
  | 0, _ => ⟨m, e⟩
  | fuel + 1, n =>
    match gridPick m e k n with
    | some s => s
    | none =>
      if n ≥ 17 then
        let q := k - n + 1
        let v := scaled m e 0
        ⟨v.1 * Nat.pow 10 (-q).toNat / (v.2 * Nat.pow 10 q.toNat), q⟩
      else searchGrids m e k fuel (n + 1)

/-- 正の値 `m · 2^e` の最短の十進表記。末尾に 0 を持たない。 -/
def shortest (m : Nat) (e : Int) : Scientific :=
  let v := scaled m e 0
  let k := floorLog10 v.1 v.2
  let s := searchGrids m e k 17 1
  trimZeros (decimalLength s.digits) s

/-- 桁の並べ方。 -/
structure Layout where
  /-- 十進指数（先頭の桁の位）がこれより小さければ指数表記。 -/
  sciBelow : Int
  /-- 十進指数がこれ以上なら指数表記。 -/
  sciFrom : Int
  /-- 整数になる位置表記に `.0` を付ける。 -/
  pointZero : Bool
  /-- 指数の最小の桁数。 -/
  expWidth : Nat
  /-- 正の指数にも符号を付ける。 -/
  expPlus : Bool
  /-- 無限大と非数の綴り。 -/
  infinity : String
  notANumber : String

/-- 左を `0` で埋めて `w` 桁にする。 -/
def padZeros (w : Nat) (s : String) : String :=
  String.ofList (List.replicate (w - s.length) '0') ++ s

/-- 科学表記を並べ方 `L` で書く（符号なし）。 -/
def Scientific.render (L : Layout) (s : Scientific) : String :=
  let ds := toString s.digits
  let len := ds.length
  let point : Int := s.exponent + len
  let lead := point - 1
  if lead < L.sciBelow ∨ lead ≥ L.sciFrom then
    let mant := match ds.toList with
      | d :: rest@(_ :: _) => String.ofList (d :: '.' :: rest)
      | _ => ds
    let sign := if lead < 0 then "-" else if L.expPlus then "+" else ""
    mant ++ "e" ++ sign ++ padZeros L.expWidth (toString lead.natAbs)
  else if point ≤ 0 then
    "0." ++ String.ofList (List.replicate point.natAbs '0') ++ ds
  else if point ≥ len then
    ds ++ String.ofList (List.replicate (point.toNat - len) '0') ++ (if L.pointZero then ".0" else "")
  else
    String.ofList (ds.toList.take point.toNat) ++ "." ++ String.ofList (ds.toList.drop point.toNat)

/-- 浮動小数を並べ方 `L` で書く。 -/
def render (L : Layout) (x : Float) : String :=
  match FloatShape.ofFloat x with
  | .notANumber => L.notANumber
  | .infinite neg => (if neg then "-" else "") ++ L.infinity
  | .finite b =>
    let sign := if b.negative then "-" else ""
    if b.mantissa = 0 then sign ++ (if L.pointZero then "0.0" else "0")
    else sign ++ (shortest b.mantissa b.exponent).render L

end DataAccess.Number
