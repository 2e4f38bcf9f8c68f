/-!
# 空白の文字

前後の空白を除くときや、空白で語を区切るときに使う空白の文字。タブ、改行、垂直タブ、改ページ、
復帰、区切りの制御文字（U+001C から U+001F）、空白、次行（U+0085）と、一般分類 Zs, Zl, Zp の文字。
-/

namespace DataAccess

namespace Unicode

/-- 空白の文字か。 -/
def isSpace (c : Char) : Bool :=
  let n := c.toNat
  (9 ≤ n ∧ n ≤ 13) || (0x1c ≤ n ∧ n ≤ 0x20) || n = 0x85 || n = 0xa0 || n = 0x1680 ||
    (0x2000 ≤ n ∧ n ≤ 0x200a) || n = 0x2028 || n = 0x2029 || n = 0x202f || n = 0x205f || n = 0x3000

/-- 前後の空白を除いた文字の並び。 -/
def trimSpace (cs : List Char) : List Char :=
  ((cs.dropWhile isSpace).reverse.dropWhile isSpace).reverse

end Unicode

end DataAccess
