import DataAccess.Unicode.Surrogate
/-!
# JSON 文書

JSON の値を木として持つ型 `Doc` と、その書き出し。数は書かれた字面のまま持つので、
整数と浮動小数の区別や `-0.0` のような綴りが読み書きで失われない。

書き出しの体裁（区切りの空白、非 ASCII 文字を `\u` で書くか）は `Doc.Style` が決める。
-/

namespace DataAccess

/-- JSON の値。数は字面（`1`, `-0.0`, `1e+300`）のまま持つ。 -/
inductive Doc where
  | null
  | bool (b : Bool)
  | num (text : String)
  | str (s : String)
  | arr (items : List Doc)
  | obj (fields : List (String × Doc))
  deriving Inhabited

namespace Doc

/-- 書き出しの体裁。 -/
structure Style where
  /-- 配列・オブジェクトの要素の区切り。 -/
  itemSep : String
  /-- キーと値の区切り。 -/
  keySep : String
  /-- 非 ASCII 文字と DEL を `\u` で書く。 -/
  asciiOnly : Bool

/-- 空白を入れない体裁。 -/
def Style.compact : Style := ⟨",", ":", true⟩

/-- 区切りの後に空白を一つ置く体裁（`", "` と `": "`）。 -/
def Style.spaced : Style := ⟨", ", ": ", true⟩

/-- 4 桁の小文字十六進。 -/
def hex4 (n : Nat) : String :=
  let d := fun (k : Nat) => Nat.digitChar ((n / Nat.pow 16 k) % 16)
  String.ofList [d 3, d 2, d 1, d 0]

/-- 一つの UTF-16 単位を `\uXXXX` で書く。 -/
def unitEscape (n : Nat) : String := "\\u" ++ hex4 n

/-- 文字列の中の一文字を書く。制御文字は短い形か `\u`、`asciiOnly` なら非 ASCII も `\u`
（基本多言語面の外はサロゲート対）。対にならないサロゲートの代わりの文字は、そのサロゲートの `\u`。 -/
def escapeChar (ascii : Bool) (c : Char) : String :=
  let n := c.toNat
  if c = '"' then "\\\""
  else if c = '\\' then "\\\\"
  else if c = '\n' then "\\n"
  else if c = '\r' then "\\r"
  else if c = '\t' then "\\t"
  else if n = 8 then "\\b"
  else if n = 12 then "\\f"
  else if n < 0x20 then unitEscape n
  else if let some u := Unicode.surrogate? c then unitEscape u
  else if ascii && n ≥ 0x7f then
    if n ≥ 0x10000 then
      let m := n - 0x10000
      unitEscape (0xD800 + m / 0x400) ++ unitEscape (0xDC00 + m % 0x400)
    else unitEscape n
  else c.toString

/-- 引用符で囲んだ JSON 文字列。 -/
def quote (ascii : Bool) (s : String) : String :=
  "\"" ++ String.join (s.toList.map (escapeChar ascii)) ++ "\""

mutual
/-- 文書を体裁 `st` で書き出す。 -/
def render (st : Style) : Doc → String
  | .null => "null"
  | .bool true => "true"
  | .bool false => "false"
  | .num t => t
  | .str s => quote st.asciiOnly s
  | .arr items => "[" ++ renderItems st items ++ "]"
  | .obj fields => "\x7b" ++ renderFields st fields ++ "\x7d"

/-- 配列の要素を区切りで繋ぐ。 -/
def renderItems (st : Style) : List Doc → String
  | [] => ""
  | [d] => render st d
  | d :: rest => render st d ++ st.itemSep ++ renderItems st rest

/-- オブジェクトの欄を区切りで繋ぐ。 -/
def renderFields (st : Style) : List (String × Doc) → String
  | [] => ""
  | [(k, d)] => quote st.asciiOnly k ++ st.keySep ++ render st d
  | (k, d) :: rest =>
    quote st.asciiOnly k ++ st.keySep ++ render st d ++ st.itemSep ++ renderFields st rest
end

mutual
/-- 入れ子の深さ（スカラーは 1）。 -/
def depth : Doc → Nat
  | .arr xs => depthItems xs + 1
  | .obj fs => depthFields fs + 1
  | _ => 1

/-- 要素の深さの最大。 -/
def depthItems : List Doc → Nat
  | [] => 0
  | d :: ds => max (depth d) (depthItems ds)

/-- 欄の値の深さの最大。 -/
def depthFields : List (String × Doc) → Nat
  | [] => 0
  | (_, d) :: fs => max (depth d) (depthFields fs)
end

/-- 整数の字面。 -/
def ofInt (i : Int) : Doc := .num (toString i)

/-- オブジェクトの欄 `key` の値。同じキーが二度あれば後のもの。 -/
def field? (d : Doc) (key : String) : Option Doc :=
  match d with
  | .obj fields => (fields.reverse.find? (·.1 == key)).map (·.2)
  | _ => none

/-- 配列の要素（配列でなければ `none`）。 -/
def items? : Doc → Option (List Doc)
  | .arr xs => some xs
  | _ => none

/-- 文字列の中身。 -/
def str? : Doc → Option String
  | .str s => some s
  | _ => none

/-- 真偽（真偽でなければ `none`）。 -/
def bool? : Doc → Option Bool
  | .bool b => some b
  | _ => none

end Doc

end DataAccess
