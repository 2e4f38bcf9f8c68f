import DataAccess.Value.Basic
import DataAccess.Unicode.Word
import DataAccess.Unicode.Space
/-!
# 文

組み立ての結果 `Statement`（`?` の印を持つ SQL と、印の順の値）と、
SQL の文が書き込みかどうかの判定。

書き込みの判定は先頭の語で決める。先頭の空白、`--` の注釈、`/* */` の注釈、開き括弧を
読み飛ばし、最初の語を大文字にしたものが書き込みの動詞なら書き込み。`WITH` で始まるなら、
本体のどこかに `INSERT`, `UPDATE`, `DELETE`, `MERGE` が大文字小文字を区別せずに一語として
現れるとき書き込み（語の境目は Unicode の語の文字で決める）。
-/

namespace DataAccess

/-- 組み立てた文。 -/
structure Statement where
  sql : String
  params : List Value
  deriving Inhabited

namespace Sql

/-- 先頭を読み飛ばしている途中の状態。 -/
inductive Skip where
  /-- 空白・注釈・開き括弧の並びの中。 -/
  | noise
  /-- 空白でも開き括弧でもない文字 `c` を読んだ直後（注釈の始まりかもしれない）。 -/
  | opening (c : Char)
  /-- 行の注釈の中。 -/
  | line
  /-- 区間の注釈の中。`start` は `/*` からの文字列で、閉じがなければそれを返す。 -/
  | block (start : List Char)
  /-- 区間の注釈の中で `*` を読んだ直後。 -/
  | star (start : List Char)

/-- 状態 `st` から、先頭の空白・注釈・開き括弧を読み飛ばす。行の注釈は改行の直後まで、区間の注釈は
`*/` の直後まで。閉じのない `/*` で止まる。 -/
def skipFrom : Skip → List Char → List Char
  | .noise, [] => []
  | .noise, c :: rest =>
    if Unicode.isSpace c || c = '(' then skipFrom .noise rest else skipFrom (.opening c) rest
  | .opening c, [] => [c]
  | .opening c, d :: body =>
    if c = '-' && d = '-' then skipFrom .line body
    else if c = '/' && d = '*' then skipFrom (.block (c :: d :: body)) body
    else c :: d :: body
  | .line, [] => []
  | .line, c :: rest => if c = '\n' then skipFrom .noise rest else skipFrom .line rest
  | .block start, [] => start
  | .block start, c :: rest => if c = '*' then skipFrom (.star start) rest else skipFrom (.block start) rest
  | .star start, [] => start
  | .star start, c :: rest =>
    if c = '/' then skipFrom .noise rest
    else if c = '*' then skipFrom (.star start) rest
    else skipFrom (.block start) rest

/-- 先頭の空白・注釈・開き括弧を読み飛ばす。 -/
def skipNoise (cs : List Char) : List Char := skipFrom .noise cs

/-- 大文字にしたとき ASCII の英字だけになる、ASCII でない文字とその大文字。 -/
def asciiUppercase : List (Char × String) :=
  [('\u00df', "SS"), ('\u0131', "I"), ('\u017f', "S"), ('\ufb00', "FF"), ('\ufb01', "FI"), ('\ufb02', "FL"),
   ('\ufb03', "FFI"), ('\ufb04', "FFL"), ('\ufb05', "ST"), ('\ufb06', "ST")]

/-- 語を大文字にする。ASCII の英字と `asciiUppercase` の文字を大文字にし、ほかの文字は残す
（残った ASCII でない文字は、書き込みの動詞との比較では常に違いになる）。 -/
def upperWord (s : String) : String :=
  String.join (s.toList.map fun c =>
    match asciiUppercase.find? (·.1 == c) with
    | some (_, u) => u
    | none => (Char.toUpper c).toString)

/-- 書き込みの動詞。 -/
def writeVerbs : List String :=
  ["INSERT", "UPDATE", "DELETE", "REPLACE", "MERGE", "CREATE", "ALTER", "DROP", "TRUNCATE", "UPSERT"]

/-- 文字が大文字の英字 `p` と大文字小文字を区別せずに合うか。`I` には点のない `ı` と点のある `İ`、
`S` には長い `ſ` も合う。 -/
def letterMatches (p c : Char) : Bool :=
  c.toUpper == p || (p == 'I' && (c == '\u0131' || c == '\u0130')) || (p == 'S' && c == '\u017f')

/-- `cs` の先頭が語 `w`（大文字の英字、大文字小文字を区別しない）で、その直後が語の文字でないか。 -/
def startsWord (w : List Char) (cs : List Char) : Bool :=
  let n := w.length
  (cs.take n).length == n && (w.zip (cs.take n)).all (fun (p, c) => letterMatches p c) &&
    (match cs.drop n with
      | c :: _ => !Unicode.isWordChar c
      | [] => true)

/-- 本体のどこかに DML の動詞が一語として現れるか。 -/
def mentionsDml (cs : List Char) : Bool :=
  let verbs := ["INSERT", "UPDATE", "DELETE", "MERGE"].map String.toList
  let rec go (prevWord : Bool) : List Char → Bool
    | [] => false
    | c :: rest =>
      (!prevWord && verbs.any (fun w => startsWord w (c :: rest))) || go (Unicode.isWordChar c) rest
  go false cs

/-- SQL の文が書き込みか。 -/
def isWriteStatement (sql : String) : Bool :=
  let body := skipNoise sql.toList
  let verb := upperWord (String.ofList (body.takeWhile (fun c => !Unicode.isSpace c)))
  if verb = "WITH" then mentionsDml body else writeVerbs.contains verb

end Sql

end DataAccess
