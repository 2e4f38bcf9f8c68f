import DataAccess.Value.Basic
import DataAccess.Unicode.Printable
import DataAccess.Unicode.Surrogate
/-!
# 値の字面

エラーの文やレコードの表示に埋め込む、値の字面（`repr`）と文字表記（`str`）。

* 文字列は単引用符で囲む。単引用符を含み二重引用符を含まないときだけ二重引用符で囲む。
  逆斜線、囲みの引用符、制御文字と表示できない文字は逆斜線で書く。
* 組は `(1, 2)`、要素一つなら `(1,)`。並びは `[1, 2]`、辞書は `{'a': 1}`。
* 浮動小数は読み戻せる最短の桁。先頭の桁の位が -4 以上 16 未満なら位置表記で `.0` を残し、
  それ以外は `1e-07`, `1e+300` のような指数表記。
* 列は `Column(users.id)`、標識はその名前、述語などの記録型は `Comparison(column=..., operator='>', value=1)`。
-/

namespace DataAccess

/-- 浮動小数の並べ方: 位の -4 から 15 までは位置表記、指数は符号付きで二桁以上。 -/
def Value.floatLayout : Number.Layout :=
  ⟨-4, 16, true, 2, true, "inf", "nan"⟩

/-- 浮動小数の字面。 -/
def Value.floatText (x : Float) : String := Number.render Value.floatLayout x

/-- 小文字の十六進で `w` 桁。 -/
def hexDigits (w n : Nat) : String :=
  String.ofList ((List.range w).reverse.map fun k => Nat.digitChar (n / Nat.pow 16 k % 16))

/-- 表示できない文字の逆斜線の書き方。対にならないサロゲートの代わりの文字は、そのサロゲートの `\u`。 -/
def charEscape (c : Char) : String :=
  let n := c.toNat
  if let some u := Unicode.surrogate? c then "\\u" ++ hexDigits 4 u
  else if n < 0x100 then "\\x" ++ hexDigits 2 n
  else if n < 0x10000 then "\\u" ++ hexDigits 4 n
  else "\\U" ++ hexDigits 8 n

/-- 文字列の字面。 -/
def quoteText (s : String) : String :=
  let q := if s.contains '\'' && !s.contains '"' then '"' else '\''
  let body := s.toList.map fun c =>
    if c = q then "\\" ++ c.toString
    else if c = '\\' then "\\\\"
    else if c = '\n' then "\\n"
    else if c = '\r' then "\\r"
    else if c = '\t' then "\\t"
    else if Unicode.isPrintable c then c.toString
    else charEscape c
  q.toString ++ String.join body ++ q.toString

/-- バイト列の字面 `b'...'`。 -/
def bytesText (bs : List UInt8) : String :=
  let q := if bs.contains 39 && !bs.contains 34 then '"' else '\''
  let body := bs.map fun b =>
    let n := b.toNat
    if n = q.toNat then "\\" ++ q.toString
    else if n = 92 then "\\\\"
    else if n = 10 then "\\n"
    else if n = 13 then "\\r"
    else if n = 9 then "\\t"
    else if n < 0x20 ∨ n ≥ 0x7f then "\\x" ++ hexDigits 2 n
    else (Char.ofNat n).toString
  "b" ++ q.toString ++ String.join body ++ q.toString

/-- 要素の字面を `, ` で繋ぐ。 -/
def joinComma (xs : List String) : String := ", ".intercalate xs

namespace Value

mutual
/-- 値の字面。 -/
def repr : Value → String
  | .none => "None"
  | .bool true => "True"
  | .bool false => "False"
  | .int i => toString i
  | .float x => floatText x
  | .str s => quoteText s
  | .bytes bs => bytesText bs
  | .decimal d => "Decimal(" ++ quoteText d.toText ++ ")"
  | .date d => d.reprText
  | .datetime d t o => Calendar.dateTimeRepr d t o
  | .time t o => Calendar.timeRepr t o
  | .uuid t => "UUID(" ++ quoteText t ++ ")"
  | .list xs => "[" ++ joinComma (reprList xs) ++ "]"
  | .tuple [x] => "(" ++ repr x ++ ",)"
  | .tuple xs => "(" ++ joinComma (reprList xs) ++ ")"
  | .dict kvs => "\x7b" ++ joinComma (reprEntries kvs) ++ "\x7d"
  | .marker m => m.name
  | .raw sql => "Raw(sql=" ++ repr sql ++ ")"
  | .dynamic sql ps => "Dynamic(sql=" ++ repr sql ++ ", params=" ++ reprTuple ps ++ ")"
  | .column c => "Column(" ++ c.qualified ++ ")"
  | .model name => "<class " ++ quoteText ("models." ++ name) ++ ">"
  | .modelMeta tag => "ModelMeta(tag=" ++ quoteText tag ++ ")"
  | .parentRef c => "ParentRef(column=" ++ repr c ++ ")"
  | .order c d n =>
    "OrderColumn(column=" ++ repr c ++ ", direction=<SortDirection." ++ d.keyword ++ ": " ++
      quoteText d.keyword ++ ">, nulls=" ++
      (match n with
        | some p => "<NullsOrder." ++ p.keyword ++ ": " ++ quoteText p.keyword ++ ">"
        | Option.none => "None") ++ ")"
  | .comparison c op v =>
    "Comparison(column=" ++ repr c ++ ", operator=" ++ repr op ++ ", value=" ++ repr v ++ ")"
  | .between c lo hi =>
    "Between(column=" ++ repr c ++ ", low=" ++ repr lo ++ ", high=" ++ repr hi ++ ")"
  | .tupleIn cs rows => "TupleIn(columns=" ++ reprTuple cs ++ ", rows=" ++ reprTuple rows ++ ")"
  | .orGroup gs => "OrGroup(groups=" ++ reprTuple gs ++ ")"
  | .rawCondition sql ps => "RawCondition(sql=" ++ repr sql ++ ", params=" ++ reprTuple ps ++ ")"
  | .inSubquery ps cs neg =>
    "InSubquery(key_pairs=" ++ reprTuple ps ++ ", conditions=" ++ reprTuple cs ++ ", negate=" ++
      (if neg then "True" else "False") ++ ")"
  | .existsIn t cs neg =>
    "Exists(target=" ++ repr t ++ ", conditions=" ++ reprTuple cs ++ ", negate=" ++
      (if neg then "True" else "False") ++ ")"
  | .condList es => "ConditionList(entries=[" ++ joinComma (reprList es) ++ "])"
  | .pkey k rows => "PkeyResult(key=" ++ reprTuple k ++ ", values=" ++ reprTuple rows ++ ")"
  | .updateColumn n r _ _ => "UpdateManyColumn(" ++ repr n ++ ", " ++ repr r ++ ")"
  | .record _ m vals _ => m ++ "(" ++ joinComma (reprFields vals) ++ ")"
  | .result rows n l =>
    "QueryResult(rows=[" ++ joinComma (reprList rows) ++ "], row_count=" ++ repr n ++
      ", last_insert_id=" ++ repr l ++ ")"
  | .cls name => "<class " ++ quoteText name ++ ">"
  | .relationRef owner name kind => "RelationProperty(" ++ kind ++ ", " ++ owner ++ "." ++ name ++ ")"
  | .exception _ _ r => r

/-- 要素ごとの字面。 -/
def reprList : List Value → List String
  | [] => []
  | x :: xs => repr x :: reprList xs

/-- 組としての字面。 -/
def reprTuple : List Value → String
  | [x] => "(" ++ repr x ++ ",)"
  | xs => "(" ++ joinComma (reprList xs) ++ ")"

/-- 辞書の項目ごとの字面 `k: v`。 -/
def reprEntries : List (Value × Value) → List String
  | [] => []
  | (k, v) :: rest => (repr k ++ ": " ++ repr v) :: reprEntries rest

/-- レコードの欄ごとの字面 `name=v`。 -/
def reprFields : List (String × Value) → List String
  | [] => []
  | (k, v) :: rest => (k ++ "=" ++ repr v) :: reprFields rest
end

/-- 値の文字表記。文字列はそのまま、列は列名、十進数・日時・UUID は標準の表記、
それ以外は字面。 -/
def text : Value → String
  | .str s => s
  | .column c => c.name
  | .decimal d => d.toText
  | .uuid t => t
  | .date d => d.iso
  | .time t o => Calendar.zonedIso t o
  | .datetime d t o => Calendar.dateTimeIso " " d t o
  | .exception _ m _ => text m
  | v => repr v

end Value

end DataAccess
