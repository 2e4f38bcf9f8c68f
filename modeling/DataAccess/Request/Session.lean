import DataAccess.Request.Common
import DataAccess.Session.Script
/-!
# 手順を走らせる要求

設定（方言と記憶の中のデータベースを接続にし、再試行の待ちを 0 にした上に要求の設定を重ねる）、
記録する接続（読み手と書き手、または共有の一つ）、モデルの結び付けを用意し、
一つの要求の区切りの中で手順を走らせる。答えは手順ごとの答えとすべての記録。
-/

namespace DataAccess

namespace Request

/-- 手順を走らせる要求に答える。 -/
def session (defaults : List ModelSpec) (fs : Fields) : Except Fault Doc := do
  let cat ← catalogFor defaults fs
  let dialect ← value cat fs "dialect"
  let base ← ConnectionConfig.ofFields [("dialect", dialect), ("database", .str ":memory:")]
  let settings ← Settings.ofFields base ([("retry_delay_ms", .int 0)] ++ (← optionFields cat fs "settings"))
  let shared := flagOr fs "shared_pool" false
  let start : Session :=
    { dialect := settings.connection.dialect, catalog := cat, settings, bound := flagOr fs "bind" true,
      reader := { label := if shared then "pool" else "reader" },
      writer := if shared then none else some { label := "writer" } }
  let steps := Step.parse (Wire.itemsOf fs "steps")
  let (outcome, final) := (Session.runSteps false steps).run.run start
  let answers := match outcome with
    | .ok docs => docs
    | .error f => [Wire.faultDoc f]
  return .obj [("steps", .arr answers), ("log", .arr (final.log.reverse.map Session.entryDoc))]

end Request

end DataAccess
