import DataAccess.Fault
/-!
# 値の足し算と比較

値どうしの足し算 `a + b` と大小の比較 `a > b`。

* 数（真偽、整数、浮動小数、十進数）は数として足す。整数と浮動小数の和は浮動小数、
  整数と十進数の和は十進数。浮動小数と十進数は足せない。
* 文字列、並び、組、バイト列は同じ型どうしで繋ぐ。
* 比較は数どうし（値として正確に比べる、浮動小数の非数とはどれも偽）と文字列どうし。
* ほかの組み合わせは、演算子と両辺の型の名前を添えた `TypeError`。
-/

namespace DataAccess

namespace Value

/-- 演算子が使えない組み合わせ。 -/
def unsupported (op : String) (a b : Value) : Fault :=
  Fault.other "TypeError" ("unsupported operand type(s) for " ++ op ++ ": '" ++ a.typeName ++ "' and '" ++
    b.typeName ++ "'")

/-- 繋げない値を繋ごうとした失敗。 -/
def cannotConcatenate (kind : String) (b : Value) : Fault :=
  Fault.other "TypeError" ("can only concatenate " ++ kind ++ " (not \"" ++ b.typeName ++ "\") to " ++ kind)

/-- 整数としての値（真偽は 0 と 1）。 -/
def intLike? : Value → Option Int
  | .int i => some i
  | .bool b => some (if b then 1 else 0)
  | _ => Option.none

/-- 十進数どうしの和。 -/
def decimalSum (x y : Number.DecimalNumber) : Except Fault Value :=
  match Number.DecimalNumber.add x y with
  | .ok d => .ok (.decimal d)
  | .error m => .error (Fault.other "InvalidOperation" m)

/-- 足し算 `a + b`。 -/
def add (a b : Value) : Except Fault Value :=
  match a, b with
  | .str x, .str y => .ok (.str (x ++ y))
  | .str _, _ => .error (cannotConcatenate "str" b)
  | .list x, .list y => .ok (.list (x ++ y))
  | .list _, _ => .error (cannotConcatenate "list" b)
  | .tuple x, .tuple y => .ok (.tuple (x ++ y))
  | .tuple _, _ => .error (cannotConcatenate "tuple" b)
  | .bytes x, .bytes y => .ok (.bytes (x ++ y))
  | .bytes _, _ => .error (Fault.other "TypeError" ("can't concat " ++ b.typeName ++ " to bytes"))
  | .float x, .float y => .ok (.float (x + y))
  | .float x, _ =>
    match intLike? b with
    | some j => .ok (.float (x + Float.ofInt j))
    | Option.none => .error (unsupported "+" a b)
  | _, .float y =>
    match intLike? a with
    | some i => .ok (.float (Float.ofInt i + y))
    | Option.none => .error (unsupported "+" a b)
  | .decimal x, .decimal y => decimalSum x y
  | .decimal x, _ =>
    match intLike? b with
    | some j => decimalSum x (.finite (Number.Decimal.ofInt j))
    | Option.none => .error (unsupported "+" a b)
  | _, .decimal y =>
    match intLike? a with
    | some i => decimalSum (.finite (Number.Decimal.ofInt i)) y
    | Option.none => .error (unsupported "+" a b)
  | _, _ =>
    match intLike? a, intLike? b with
    | some i, some j => .ok (.int (i + j))
    | _, _ => .error (unsupported "+" a b)

/-- 十進数の非数か（大小の比較で無効な演算になる）。 -/
def isDecimalNaN : Value → Bool
  | .decimal (.nan ..) => true
  | _ => false

/-- 大小の比較 `a > b`。 -/
def greater (a b : Value) : Except Fault Bool :=
  match a, b with
  | .str x, .str y => .ok (decide (y < x))
  | _, _ =>
    match numeric? a, numeric? b with
    | some x, some y =>
      if isDecimalNaN a || isDecimalNaN b then
        .error (Fault.other "InvalidOperation" Number.DecimalNumber.invalidOperation)
      else .ok (Number.DecimalNumber.lt y x)
    | _, _ =>
      .error (Fault.other "TypeError" ("'>' not supported between instances of '" ++ a.typeName ++
        "' and '" ++ b.typeName ++ "'"))

end Value

end DataAccess
