import DataAccess.Request.Common
import DataAccess.Arity
/-!
# 方言の部品を呼ぶ要求

方言の属性を読むか、部品の関数を引数の値で呼ぶ。引数は呼び出し側の値のままで、
まず引数の数を確かめ（失敗の文には部品を定義したクラスの名前が付く）、
それから各部品が値をどう使うかに従う: 真偽として読む、文字表記で文に埋める、
文字列でなければ失敗する、要素を取り出す、など。
一括更新の部品は文を返すので、その答えは文の答え。
-/

namespace DataAccess

namespace Request

/-- 方言にない部品。 -/
def noMember (d : Dialect) (name : String) : Fault :=
  Fault.other "AttributeError" ("'" ++ d.className ++ "' object has no attribute " ++ quoteText name)

/-- 部品の形。部品を定義したクラスは、その方言が自分で定義していればその方言、
ほかは共通の基底 `_BaseDialect`。属性と、方言にない部品は `none`。 -/
def memberSignature (d : Dialect) (call : String) : Option Signature :=
  let own := d.className
  let base := "_BaseDialect"
  let owner := fun (owners : List Dialect) => if owners.contains d then own else base
  let sig := fun (cls : String) (params : List String) =>
    some ({ callee := cls ++ "." ++ call, params } : Signature)
  match call with
  | "now" => sig own []
  | "placeholder" => sig (owner [.postgresql, .mysql]) ["index"]
  | "convert_placeholders" => sig (owner [.postgresql, .mysql]) ["sql"]
  | "adapt_param" => sig (owner [.postgresql]) ["value"]
  | "ilike" => sig (owner [.postgresql]) ["column"]
  | "limit_offset" => sig (owner [.mysql, .sqlite]) ["limit", "offset"]
  | "insert_verb" => sig (owner [.mysql]) ["ignore"]
  | "upsert_clause" => sig (owner [.mysql]) ["conflict", "updates", "ignore"]
  | "update_many" => sig own ["table", "columns", "key_names", "rows", "returning"]
  | "boolean" => sig (owner [.sqlite]) ["value"]
  | "for_update" => sig (owner [.sqlite]) []
  | "_excluded" => sig (owner [.sqlite]) ["column"]
  | "quote_identifier" | "identifier" | "savepoint" | "release_savepoint" | "rollback_to_savepoint" =>
    sig base ["name"]
  | "order_term" => sig base ["term"]
  | "__repr__" => sig base []
  | "array_type" =>
    if d == .postgresql then
      some { callee := own ++ ".array_type", params := ["sql_type", "values", "column"], optional := 1 }
    else none
  | _ => none

/-- 方言の属性。 -/
def readAttribute (d : Dialect) (name : String) : Option Value :=
  match name with
  | "name" | "dialect_name" => some (.str d.name)
  | "supports_returning" => some (.bool d.supportsReturning)
  | "supports_tuple_in" => some (.bool d.supportsTupleIn)
  | "supports_nulls_order" => some (.bool d.supportsNullsOrder)
  | "default_values_clause" => some (.str d.defaultValuesClause)
  | "quote_char" => some (.str (String.singleton d.quoteChar))
  | _ => none

/-- 引数の数を確かめた部品を呼ぶ。 -/
def callMember (d : Dialect) (call : String) (args : List Value) : Except Fault Doc := do
  let arg := fun (i : Nat) => args.getD i .none
  let result := fun (v : Value) => Except.ok (Doc.obj [("result", Wire.encode v)])
  let text := fun (s : String) => result (.str s)
  match call with
  | "now" => text d.now
  | "for_update" => text d.forUpdate
  | "placeholder" =>
    match d with
    | .postgresql => text ("$" ++ (← (arg 0).add (.int 1)).text)
    | _ => text (d.placeholder 0)
  | "boolean" => text (d.boolean (arg 0).truthy)
  | "insert_verb" => text (d.insertVerb (arg 0).truthy)
  | "identifier" => text (d.identifier (← (arg 0).patternText))
  | "quote_identifier" =>
    match arg 0 with
    | .str s => text (d.quoteIdentifier s)
    | v => throw (Fault.replaceOnText v)
  | "ilike" => text (d.ilike (arg 0).text)
  | "limit_offset" => text (← d.limitOffset (arg 0) (arg 1))
  | "order_term" =>
    match arg 0 with
    | .order c dir nulls => text (d.orderTerm c.text dir nulls)
    | v@(.updateColumn n ..) => do
      let _ ← n.patternText
      throw (Fault.noAttribute v "direction")
    | v => throw (Fault.noAttribute v "name")
  | "upsert_clause" => text (← d.upsertCall (arg 0) (arg 1) (arg 2))
  | "savepoint" => text (d.savepoint (arg 0).text)
  | "release_savepoint" => text (d.releaseSavepoint (arg 0).text)
  | "rollback_to_savepoint" => text (d.rollbackToSavepoint (arg 0).text)
  | "adapt_param" => result (← d.adaptParam (arg 0))
  | "convert_placeholders" =>
    match d.markerStyle? with
    | some st => text (← Sql.rewriteValue st (arg 0)).1
    | none => result (arg 0)
  | "update_many" =>
    let st ← d.updateMany (arg 0) (← (arg 1).iterate) (arg 2) (arg 3) (arg 4)
    return .obj [("result", Wire.statementDoc d st)]
  | "array_type" => result (← Dialect.arrayType (arg 0) (arg 1) (args.getD 2 (.str "?")))
  | "_excluded" => text ((if d == .sqlite then "excluded." else "EXCLUDED.") ++ (arg 0).text)
  | "__repr__" => text (d.className ++ "()")
  | _ => throw (noMember d call)

/-- 方言の部品を呼ぶ（属性なら読む）。 -/
def member (d : Dialect) (call : String) (args : List Value) : Except Fault Doc := do
  if let some v := readAttribute d call then return .obj [("result", Wire.encode v)]
  match memberSignature d call with
  | none => throw (noMember d call)
  | some sig =>
    sig.check args.length
    callMember d call args

/-- 方言の部品を呼ぶ要求に答える。 -/
def dialectMember (defaults : List ModelSpec) (fs : Fields) : Except Fault Doc := do
  let cat ← catalogFor defaults fs
  let d ← dialectField fs
  member d (← Wire.text fs "call") (← values cat fs "args")

end Request

end DataAccess
