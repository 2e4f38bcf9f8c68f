import DataAccess.Request.Statements
import DataAccess.Request.Members
import DataAccess.Request.Objects
import DataAccess.Request.Session
import DataAccess.Json.Read
/-!
# 要求に答える

一行の JSON の要求を読み、`op` の名前で振り分けて答えの JSON を一行で書く。
失敗は失敗の答えになる。モデルの宣言を持たない要求は `defaults` のモデルを使う。
-/

namespace DataAccess

namespace Request

/-- 読んだ要求に答える。 -/
def dispatch (defaults : List ModelSpec) (fs : Fields) : Except Fault Doc := do
  match ← Wire.text fs "op" with
  | "build" => statement defaults fs
  | "dialect" => dialectMember defaults fs
  | "placeholders" => placeholders fs
  | "error" => errorObject defaults fs
  | "conflict" => conflict fs
  | "decl" => declaration defaults fs
  | "instance" => instanceProbe defaults fs
  | "pkey" => pkeyProbe defaults fs
  | "column" => columnProbe defaults fs
  | "conn_config" => connectionProbe defaults fs
  | "session" => session defaults fs
  | op => throw (Fault.other "ValueError" ("unknown op " ++ quoteText op))

/-- 一行の要求に一行の答え。 -/
def respond (defaults : List ModelSpec) (line : String) : String :=
  let answer := match Doc.parse? line with
    | some (.obj fs) => Wire.answer (dispatch defaults fs)
    | _ => Wire.faultDoc (Fault.other "JSONDecodeError" "request is not a JSON object")
  answer.render .compact

end Request

end DataAccess
