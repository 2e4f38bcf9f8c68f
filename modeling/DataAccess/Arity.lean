import DataAccess.Fault
/-!
# 引数の数

位置の引数だけを取るメソッドの形と、渡した引数の数が合わないときの失敗。
呼び名は定義したクラスの名前を前に付けたもの（`Column.eq` など）で、
数には受け手そのものの分の一つを含める。
-/

namespace DataAccess

/-- メソッドの形: 呼び名、引数の名前、既定値を持つ末尾の引数の数。 -/
structure Signature where
  callee : String
  params : List String
  optional : Nat := 0
  deriving Inhabited

namespace Signature

/-- 既定値を持たない引数の数。 -/
def required (s : Signature) : Nat := s.params.length - s.optional

/-- 名前の列挙（二つは `and`、三つ以上は最後の前に `, and`）。 -/
def listNames (names : List String) : String :=
  match names.reverse with
  | [] => ""
  | [a] => a
  | [b, a] => a ++ " and " ++ b
  | last :: rest => ", ".intercalate rest.reverse ++ ", and " ++ last

/-- 単数と複数で語尾を変える。 -/
def plural (n : Nat) (word : String) : String := if n == 1 then word else word ++ "s"

/-- 足りない引数の失敗。 -/
def missing (s : Signature) (given : Nat) : Fault :=
  let names := ((s.params.take s.required).drop given).map fun p => "'" ++ p ++ "'"
  Fault.other "TypeError" (s.callee ++ "() missing " ++ toString names.length ++ " required positional " ++
    plural names.length "argument" ++ ": " ++ listNames names)

/-- 多すぎる引数の失敗。 -/
def excess (s : Signature) (given : Nat) : Fault :=
  let most := s.params.length + 1
  let takes := if s.optional == 0 then toString most
    else "from " ++ toString (s.required + 1) ++ " to " ++ toString most
  Fault.other "TypeError" (s.callee ++ "() takes " ++ takes ++ " positional " ++ plural most "argument" ++
    " but " ++ toString (given + 1) ++ " were given")

/-- 渡した引数の数を確かめる。 -/
def check (s : Signature) (given : Nat) : Except Fault Unit :=
  if given < s.required then .error (s.missing given)
  else if given > s.params.length then .error (s.excess given)
  else .ok ()

end Signature

end DataAccess
