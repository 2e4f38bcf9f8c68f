/-!
# 対にならないサロゲート

JSON の文字列は、対にならない UTF-16 のサロゲート（U+D800 から U+DFFF）を `\u` で書ける。
文字の型はサロゲートを持てないので、それぞれを割り当てのない第 4 面の同じ下位の位置
（U+4D800 から U+4DFFF、サロゲートに 0x40000 を足した位置）の文字に写して持つ。
書き出すとき、字面にするとき、並べるときは、元のサロゲートとして扱う。
-/

namespace DataAccess

namespace Unicode

/-- サロゲートの最初の位置。 -/
def surrogateBase : Nat := 0xD800

/-- サロゲートの代わりに使う文字の最初の位置。 -/
def standInBase : Nat := 0x4D800

/-- UTF-16 の単位がサロゲートか。 -/
def isSurrogateUnit (u : Nat) : Bool := surrogateBase ≤ u && u < surrogateBase + 0x800

/-- UTF-16 の単位一つが表す文字。サロゲートなら代わりの文字。 -/
def unitChar (u : Nat) : Char :=
  if isSurrogateUnit u then Char.ofNat (standInBase + (u - surrogateBase)) else Char.ofNat u

/-- 代わりの文字が表すサロゲート。 -/
def surrogate? (c : Char) : Option Nat :=
  if standInBase ≤ c.toNat && c.toNat < standInBase + 0x800 then
    some (c.toNat - standInBase + surrogateBase)
  else none

/-- 文字の符号位置。代わりの文字はそのサロゲートの位置。 -/
def codeOf (c : Char) : Nat := (surrogate? c).getD c.toNat

/-- 符号位置の並びの辞書順で `xs` が `ys` 以下か。 -/
def codesLE : List Nat → List Nat → Bool
  | [], _ => true
  | _ :: _, [] => false
  | a :: as, b :: bs => a < b || (a == b && codesLE as bs)

/-- 文字列の順序（符号位置の辞書順、代わりの文字はそのサロゲートの位置）で `a` が `b` 以下か。 -/
def textLE (a b : String) : Bool := codesLE (a.toList.map codeOf) (b.toList.map codeOf)

end Unicode

end DataAccess
