import DataAccess.Json.Doc
import DataAccess.Unicode.Surrogate
/-!
# JSON の読み取り

文字の列から `Doc` を読む再帰下降の読み取り。数は字面のまま `Doc.num` に入れる。
数の字面のほかに `NaN`、`Infinity`、`-Infinity` も数として受け取る。
入れ子の深さは燃料で抑え、燃料には入力の長さを与えるので、正しい入力で燃料が尽きることはない。
同じキーが二度現れたオブジェクトは、最初の位置に後の値を持つ。
-/

namespace DataAccess.Doc

/-- JSON の空白を読み飛ばす。 -/
def skipBlank : List Char → List Char
  | c :: r => if c = ' ' ∨ c = '\t' ∨ c = '\n' ∨ c = '\r' then skipBlank r else c :: r
  | [] => []

/-- 十六進の一桁の値。 -/
def hexValue (c : Char) : Option Nat :=
  if '0' ≤ c ∧ c ≤ '9' then some (c.toNat - '0'.toNat)
  else if 'a' ≤ c ∧ c ≤ 'f' then some (c.toNat - 'a'.toNat + 10)
  else if 'A' ≤ c ∧ c ≤ 'F' then some (c.toNat - 'A'.toNat + 10)
  else none

/-- 4 桁の十六進が表す UTF-16 単位。 -/
def unitOf (a b c d : Char) : Option Nat := do
  let x ← hexValue a
  let y ← hexValue b
  let z ← hexValue c
  let w ← hexValue d
  pure (((x * 16 + y) * 16 + z) * 16 + w)

/-- UTF-16 単位の列を文字の列にする。上位と下位のサロゲートが並べば一文字にまとめ、
対にならないサロゲートはその代わりの文字にする。 -/
def joinUnits : List Nat → List Char
  | [] => []
  | hi :: lo :: rest =>
    if 0xD800 ≤ hi ∧ hi < 0xDC00 ∧ 0xDC00 ≤ lo ∧ lo < 0xE000 then
      Char.ofNat (0x10000 + (hi - 0xD800) * 0x400 + (lo - 0xDC00)) :: joinUnits rest
    else Unicode.unitChar hi :: joinUnits (lo :: rest)
  | [u] => [Unicode.unitChar u]

/-- 文字列の本体を閉じる引用符まで読み、UTF-16 単位の列（逆順）を返す。 -/
def readUnits (acc : List Nat) : List Char → Option (List Nat × List Char)
  | [] => none
  | '"' :: r => some (acc, r)
  | '\\' :: 'u' :: a :: b :: c :: d :: r =>
    match unitOf a b c d with
    | some u => readUnits (u :: acc) r
    | none => none
  | '\\' :: c :: r =>
    match c with
    | '"' => readUnits ('"'.toNat :: acc) r
    | '\\' => readUnits ('\\'.toNat :: acc) r
    | '/' => readUnits ('/'.toNat :: acc) r
    | 'b' => readUnits (8 :: acc) r
    | 'f' => readUnits (12 :: acc) r
    | 'n' => readUnits (10 :: acc) r
    | 'r' => readUnits (13 :: acc) r
    | 't' => readUnits (9 :: acc) r
    | _ => none
  | c :: r =>
    if c.toNat ≥ 0x10000 then
      let m := c.toNat - 0x10000
      readUnits ((0xDC00 + m % 0x400) :: (0xD800 + m / 0x400) :: acc) r
    else readUnits (c.toNat :: acc) r

/-- 文字列の本体を閉じる引用符まで読む。 -/
def readStringBody (cs : List Char) : Option (String × List Char) :=
  (readUnits [] cs).map fun (us, r) => (String.ofList (joinUnits us.reverse), r)

/-- 数字の並びを読む。 -/
def readDigits (cs : List Char) : List Char × List Char :=
  (cs.takeWhile Char.isDigit, cs.dropWhile Char.isDigit)

/-- 数の字面を読む: `-? 数字+ (. 数字+)? ([eE] [+-]? 数字+)?`。 -/
def readNumber (cs : List Char) : Option (String × List Char) :=
  let (sign, r0) := match cs with
    | '-' :: r => (['-'], r)
    | _ => ([], cs)
  let (whole, r1) := readDigits r0
  if whole.isEmpty then none else
  let (frac, r2) := match r1 with
    | '.' :: r =>
      let (ds, r') := readDigits r
      ('.' :: ds, r')
    | _ => ([], r1)
  let (expo, r3) := match r2 with
    | e :: r =>
      if e = 'e' ∨ e = 'E' then
        let (sg, r') := match r with
          | '+' :: t => (['+'], t)
          | '-' :: t => (['-'], t)
          | _ => ([], r)
        let (ds, r'') := readDigits r'
        (e :: sg ++ ds, r'')
      else ([], r2)
    | [] => ([], r2)
  some (String.ofList (sign ++ whole ++ frac ++ expo), r3)

/-- 欄を加える。同じキーがあれば値だけを置き換える。 -/
def putField (fields : List (String × Doc)) (k : String) (v : Doc) : List (String × Doc) :=
  if fields.any (·.1 == k) then fields.map fun (k', v') => if k' == k then (k', v) else (k', v')
  else fields ++ [(k, v)]

mutual
/-- 値を一つ読む。 -/
def readValue : Nat → List Char → Option (Doc × List Char)
  | 0, _ => none
  | fuel + 1, cs =>
    match skipBlank cs with
    | 'n' :: 'u' :: 'l' :: 'l' :: r => some (.null, r)
    | 't' :: 'r' :: 'u' :: 'e' :: r => some (.bool true, r)
    | 'f' :: 'a' :: 'l' :: 's' :: 'e' :: r => some (.bool false, r)
    | 'N' :: 'a' :: 'N' :: r => some (.num "NaN", r)
    | 'I' :: 'n' :: 'f' :: 'i' :: 'n' :: 'i' :: 't' :: 'y' :: r => some (.num "Infinity", r)
    | '-' :: 'I' :: 'n' :: 'f' :: 'i' :: 'n' :: 'i' :: 't' :: 'y' :: r => some (.num "-Infinity", r)
    | '"' :: r => (readStringBody r).map fun (s, r') => (.str s, r')
    | '[' :: r =>
      match skipBlank r with
      | ']' :: r' => some (.arr [], r')
      | _ => readItems fuel [] r
    | '{' :: r =>
      match skipBlank r with
      | '}' :: r' => some (.obj [], r')
      | _ => readFields fuel [] r
    | cs' => (readNumber cs').map fun (t, r) => (.num t, r)

/-- 配列の要素を `]` まで読む。 -/
def readItems : Nat → List Doc → List Char → Option (Doc × List Char)
  | 0, _, _ => none
  | fuel + 1, acc, cs =>
    match readValue fuel cs with
    | none => none
    | some (d, r) =>
      match skipBlank r with
      | ',' :: r' => readItems fuel (d :: acc) r'
      | ']' :: r' => some (.arr (d :: acc).reverse, r')
      | _ => none

/-- オブジェクトの欄を `}` まで読む。 -/
def readFields : Nat → List (String × Doc) → List Char → Option (Doc × List Char)
  | 0, _, _ => none
  | fuel + 1, acc, cs =>
    match skipBlank cs with
    | '"' :: r =>
      match readStringBody r with
      | none => none
      | some (k, r1) =>
        match skipBlank r1 with
        | ':' :: r2 =>
          match readValue fuel r2 with
          | none => none
          | some (v, r3) =>
            match skipBlank r3 with
            | ',' :: r4 => readFields fuel (putField acc k v) r4
            | '}' :: r4 => some (.obj (putField acc k v), r4)
            | _ => none
        | _ => none
    | _ => none
end

/-- 文字列全体を一つの JSON 値として読む。後ろに空白以外が残れば読めない。 -/
def parse? (s : String) : Option Doc :=
  let cs := s.toList
  match readValue (2 * cs.length + 2) cs with
  | some (d, r) => if (skipBlank r).isEmpty then some d else none
  | none => none

end DataAccess.Doc
