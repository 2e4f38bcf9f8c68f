/-!
# 識別子

列名や表名を SQL に書くときの引用。単純な名前（英字か `_` で始まり英数字と `_` が続く、
`.` で二つに区切ってもよい）のうち予約語の部分だけを引用符で囲み、
それ以外の式（`COUNT(*)`、`LOWER(name)` など）はそのまま通す。
-/

namespace DataAccess.Sql

/-- 引用が要る予約語（小文字）。 -/
def reservedWords : List String :=
  ["all", "and", "as", "asc", "between", "by", "case", "check", "column", "constraint", "create",
    "default", "delete", "desc", "distinct", "drop", "else", "end", "exists", "for", "foreign",
    "from", "grant", "group", "having", "in", "index", "insert", "interval", "into", "is", "join",
    "key", "like", "limit", "not", "null", "offset", "on", "or", "order", "primary", "range",
    "rank", "references", "release", "row", "rows", "select", "set", "table", "then", "to",
    "union", "unique", "update", "user", "using", "values", "when", "where", "window", "with"]

/-- ASCII の英字か `_`。 -/
def isNameStart (c : Char) : Bool := (c.isAlpha && c.toNat < 128) || c = '_'

/-- ASCII の英数字か `_`。 -/
def isNameChar (c : Char) : Bool := (c.isAlphanum && c.toNat < 128) || c = '_'

/-- 一語の単純な名前か。 -/
def isWord (cs : List Char) : Bool :=
  match cs with
  | c :: rest => isNameStart c && rest.all isNameChar
  | [] => false

/-- 単純な名前（一語か、`.` で区切った二語）か。末尾の改行一つは見ない。 -/
def isSimpleName (name : String) : Bool :=
  let cs := name.toList
  let cs := if cs.getLast? = some '\n' then cs.dropLast else cs
  match cs.splitOn '.' with
  | [a] => isWord a
  | [a, b] => isWord a && isWord b
  | _ => false

/-- 引用符 `q` で囲む。中の `q` は二重にする。 -/
def quoteWith (q : Char) (name : String) : String :=
  q.toString ++ String.join (name.toList.map fun c => if c = q then String.ofList [q, q] else c.toString)
    ++ q.toString

/-- 予約語か（大文字小文字を区別しない）。 -/
def isReserved (part : String) : Bool := reservedWords.contains (part.map Char.toLower)

/-- `.` で区切った部分。 -/
def dotParts (name : String) : List String := (name.toList.splitOn '.').map String.ofList

/-- 単純な名前なら予約語の部分だけ引用し、それ以外はそのまま返す。 -/
def identifierWith (q : Char) (name : String) : String :=
  if isSimpleName name then
    ".".intercalate ((dotParts name).map fun part => if isReserved part then quoteWith q part else part)
  else name

end DataAccess.Sql
