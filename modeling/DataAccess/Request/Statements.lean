import DataAccess.Request.Common
import DataAccess.Builder.Write
/-!
# 文を組み立てる要求

方言とモデルと呼び出しの名前を受け取り、組み立てた文（`?` の SQL、値、方言の印の SQL、
印の数）を答える。主キーの条件の呼び出しは、作った条件とそれで検索する文を答える。
書き込む値の正規化と列の解決は、文の代わりにその結果を答える。
-/

namespace DataAccess

namespace Request

/-- 文を組み立てる要求に答える。 -/
def statement (defaults : List ModelSpec) (fs : Fields) : Except Fault Doc := do
  let cat ← catalogFor defaults fs
  let d ← dialectField fs
  let m ← cat.metaOf (← Wire.text fs "model")
  let answer := fun (st : Statement) => Wire.statementDoc d st
  match ← Wire.text fs "call" with
  | "select" =>
    return answer (← Statement.select d cat m (← conditions cat fs "conditions") (← findOptions cat fs))
  | "count" =>
    return answer (← Statement.count d cat m (← conditions cat fs "conditions") (← findOptions cat fs))
  | "select_keys" =>
    let operation := (Wire.textOpt fs "operation").getD "update"
    let forUpdate ← match (Doc.obj fs).field? "for_update" with
      | some doc => do pure (← (Wire.termOf doc).eval cat).truthy
      | none => pure true
    return answer (← Statement.selectKeys d cat m (← conditions cat fs "conditions") operation forUpdate)
  | "insert" =>
    return answer (← Statement.insert d cat m (← conditionLists cat fs "rows") (← insertOptions cat fs))
  | "update" =>
    let conds ← conditions cat fs "conditions"
    let vals ← conditions cat fs "values"
    return answer (← Statement.update d cat m conds vals (← writeOptions cat fs))
  | "delete" =>
    return answer (← Statement.delete d cat m (← conditions cat fs "conditions") (← writeOptions cat fs))
  | "update_many" =>
    let rows ← conditionLists cat fs "rows"
    let keys ← values cat fs "key_columns"
    return answer (← Statement.updateMany d m rows keys (← writeOptions cat fs))
  | "key_condition" =>
    let cond ← Statement.keyCondition m (← value cat fs "keys")
    let st ← Statement.select d cat m (.list [cond]) (← findOptions cat fs)
    match answer st with
    | .obj items => return .obj (items ++ [("condition", Wire.encode cond)])
    | other => return other
  | "normalize_row" =>
    let row ← m.normalizeRow (← conditions cat fs "values") (flagOr fs "keep_skip" false)
    return .obj [("row", .arr (row.map fun (c, v) => .arr [Wire.columnDoc c, Wire.encode v]))]
  | "resolve_columns" =>
    let cols ← m.resolveColumns (← values cat fs "keys")
    return .obj [("columns", .arr (cols.map Wire.columnDoc))]
  | other => throw (Fault.other "AttributeError" ("'SqlBuilder' object has no attribute " ++ quoteText other))

end Request

end DataAccess
