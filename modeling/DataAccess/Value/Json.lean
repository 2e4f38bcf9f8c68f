import DataAccess.Json.Doc
import DataAccess.Fault
/-!
# 値の JSON 表記

辞書や並びの値をパラメータとして渡すときに使う JSON の文。
並びと組は配列、辞書はオブジェクト（キーは文字列、整数、浮動小数、真偽、NULL に限り、
文字列に直す）、スカラーはその JSON の形。JSON の形を持たない値（列、標識、十進数、
日時、バイト列など）は文字表記を文字列として書く。区切りは `", "` と `": "`、
非 ASCII 文字は `\u` で書く。
-/

namespace DataAccess

/-- JSON の中の浮動小数の並べ方（無限大と非数の綴りだけが字面と違う）。 -/
def Value.jsonFloatLayout : Number.Layout :=
  { Value.floatLayout with infinity := "Infinity", notANumber := "NaN" }

namespace Value

/-- 辞書のキーを JSON のキーの文字列にする。 -/
def jsonKey : Value → Except Fault String
  | .str s => .ok s
  | .int i => .ok (toString i)
  | .float x => .ok (Number.render jsonFloatLayout x)
  | .bool true => .ok "true"
  | .bool false => .ok "false"
  | .none => .ok "null"
  | v => .error (Fault.other "TypeError"
      ("keys must be str, int, float, bool or None, not " ++ v.typeName))

mutual
/-- 値を JSON の文書にする。 -/
def toJsonDoc : Value → Except Fault Doc
  | .none => .ok .null
  | .bool b => .ok (.bool b)
  | .int i => .ok (.num (toString i))
  | .float x => .ok (.num (Number.render jsonFloatLayout x))
  | .str s => .ok (.str s)
  | .list xs | .tuple xs => return .arr (← toJsonDocs xs)
  | .dict kvs => return .obj (← toJsonFields kvs)
  | v => .ok (.str v.text)

/-- 要素ごとに JSON の文書にする。 -/
def toJsonDocs : List Value → Except Fault (List Doc)
  | [] => .ok []
  | x :: xs => return (← toJsonDoc x) :: (← toJsonDocs xs)

/-- 辞書の項目ごとに JSON の欄にする。 -/
def toJsonFields : List (Value × Value) → Except Fault (List (String × Doc))
  | [] => .ok []
  | (k, v) :: rest => return (← jsonKey k, ← toJsonDoc v) :: (← toJsonFields rest)
end

/-- 値の JSON の文。 -/
def jsonText (v : Value) : Except Fault String :=
  return (← toJsonDoc v).render Doc.Style.spaced

end Value

end DataAccess
