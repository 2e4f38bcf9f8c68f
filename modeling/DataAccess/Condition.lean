import DataAccess.Fault
import DataAccess.Arity
import DataAccess.Value.Sequence
import DataAccess.Unicode.Casing
/-!
# 条件の並び

条件の並びは要素の並びで、要素はキーと値の組か述語。組み立ては要素を AND で繋ぐ。
ここには並びの正規化（NULL は空、辞書は項目の組、述語と組み立て途中の並びはその要素、
それ以外は要素を順に取り出す）と、述語・主キーの結果・列の補助を作る関数を置く。
-/

namespace DataAccess

namespace Value

/-- 組にする（要素を順に取り出して組に入れる）。 -/
def toTuple (v : Value) : Except Fault Value := return .tuple (← v.iterate)

/-- 条件の並びを要素の並びにする。 -/
def normalizeConditions : Value → Except Fault (List Value)
  | .none => .ok []
  | .dict kvs => .ok (kvs.map fun (k, v) => .tuple [k, v])
  | .condList es => .ok es
  | v => if v.isPredicate then .ok [v] else v.iterate

end Value

/-- OR の群: 群ごとに条件の並びを正規化して組にする。 -/
def orGroupOf (groups : List Value) : Except Fault Value := do
  let gs ← groups.mapM fun g => return Value.tuple (← g.normalizeConditions)
  return .orGroup gs

/-- 組の `IN`: 列を組に、行の並びの各行を組にする。 -/
def tupleInOf (cols rows : Value) : Except Fault Value := do
  let cs ← cols.iterate
  let rs ← (← rows.iterate).mapM Value.toTuple
  return .tupleIn cs rs

/-- 主キーの結果。行の幅がキーの列の数と違えば失敗。 -/
def pkeyOf (key : Value) (rows : List Value) : Except Fault Value := do
  let k ← key.iterate
  let rs ← rows.mapM Value.iterate
  let width := k.length
  for r in rs do
    if r.length != width then
      throw (Fault.arity ("PkeyResult row " ++ (Value.tuple r).repr ++ " has " ++ toString r.length ++
        " values for " ++ toString width ++ " key columns") (some (.tuple r)) (some "arity"))
  return .pkey k (rs.map Value.tuple)

/-- 条件の並びに一つ足す操作の形。 -/
def addSignature : Signature := { callee := "ConditionList.add", params := ["key", "value"], optional := 1 }

/-- 旗が真なら一つ足す操作の形。 -/
def addIfSignature : Signature :=
  { callee := "ConditionList.add_if", params := ["flag", "key", "value"], optional := 1 }

/-- 条件の並びに要素を足す。述語ならそのまま、そうでなければキーと値の組。 -/
def addCondition (entries : List Value) (key value : Value) : List Value :=
  if key.isPredicate then entries ++ [key] else entries ++ [.tuple [key, value]]

/-- 列の補助の引数の名前（知らない補助なら `none`）。 -/
def helperParams : String → Option (List String)
  | "eq" | "ne" | "gt" | "gte" | "lt" | "lte" => some ["value"]
  | "like" | "not_like" | "ilike" => some ["pattern"]
  | "between" => some ["low", "high"]
  | "in_" | "not_in" => some ["values"]
  | "is_null" | "is_not_null" | "asc" | "desc" | "asc_nulls_first" | "asc_nulls_last"
  | "desc_nulls_first" | "desc_nulls_last" => some []
  | _ => none

/-- 列の補助の形（呼び名は `Column.` を前に付けた名前）。 -/
def helperSignature (method : String) (params : List String) : Signature :=
  { callee := "Column." ++ method, params }

/-- 列の補助の呼び出し（等しい、比べる、範囲、含む、NULL、整列）。 -/
def columnHelper (col : Value) (method : String) (args : List Value) : Except Fault Value :=
  match col, helperParams method with
  | .column _, some params => do
    (helperSignature method params).check args.length
    match method, args with
      | "eq", [v] => .ok (.tuple [col, v])
      | "ne", [v] => .ok (.comparison col (.str "!=") v)
      | "gt", [v] => .ok (.comparison col (.str ">") v)
      | "gte", [v] => .ok (.comparison col (.str ">=") v)
      | "lt", [v] => .ok (.comparison col (.str "<") v)
      | "lte", [v] => .ok (.comparison col (.str "<=") v)
      | "like", [v] => .ok (.comparison col (.str "LIKE") v)
      | "not_like", [v] => .ok (.comparison col (.str "NOT LIKE") v)
      | "ilike", [v] => .ok (.comparison col (.str "ILIKE") v)
      | "between", [lo, hi] => .ok (.between col lo hi)
      | "in_", [vs] => return .tuple [col, .list (← vs.iterate)]
      | "not_in", [vs] => return .comparison col (.str "NOT IN") (.list (← vs.iterate))
      | "is_null", _ => .ok (.tuple [col, .marker .null])
      | "is_not_null", _ => .ok (.tuple [col, .marker .notNull])
      | "asc", _ => .ok (.order col .asc none)
      | "desc", _ => .ok (.order col .desc none)
      | "asc_nulls_first", _ => .ok (.order col .asc (some .first))
      | "asc_nulls_last", _ => .ok (.order col .asc (some .last))
      | "desc_nulls_first", _ => .ok (.order col .desc (some .first))
      | _, _ => .ok (.order col .desc (some .last))
  | _, _ => .error (Fault.noAttribute col method)

/-- 列の属性のうち呼べない値（列名、属性名、表、標識、型、主キーか、キー、`表.列`）。 -/
def columnAttribute? (c : Column) (name : String) : Option Value :=
  match name with
  | "column_name" => some (.str c.name)
  | "property_name" => some (.str c.property)
  | "table_name" => some (.str c.table)
  | "model_tag" => some (.str c.model)
  | "sql_type" => some (Fault.textValue c.sqlType)
  | "primary_key" => some (.bool c.primaryKey)
  | "key" => some (.tuple [.str c.model, .str c.name])
  | "qualified" => some (.str c.qualified)
  | _ => none

/-- 呼べない値を呼んだ失敗。 -/
def notCallable (v : Value) : Fault :=
  Fault.other "TypeError" ("'" ++ v.typeName ++ "' object is not callable")

/-- 引数なしで呼ぶ文字列のメソッド（大文字小文字の写しと、文字列の性質の判定）。 -/
def stringMethod? (name : String) : Option (String → Value) :=
  match name with
  | "upper" => some fun s => .str (Unicode.upper s)
  | "lower" => some fun s => .str (Unicode.lower s)
  | "casefold" => some fun s => .str (Unicode.casefold s)
  | "title" => some fun s => .str (Unicode.title s)
  | "capitalize" => some fun s => .str (Unicode.capitalize s)
  | "swapcase" => some fun s => .str (Unicode.swapcase s)
  | "isupper" => some fun s => .bool (Unicode.isUpperText s)
  | "islower" => some fun s => .bool (Unicode.isLowerText s)
  | "istitle" => some fun s => .bool (Unicode.isTitleText s)
  | "isspace" => some fun s => .bool (Unicode.allNonEmpty Unicode.isSpace s)
  | "isdecimal" => some fun s => .bool (Unicode.allNonEmpty (fun c => (Unicode.decimalValue? c).isSome) s)
  | "isalnum" => some fun s => .bool (Unicode.allNonEmpty Unicode.isAlnum s)
  | "isascii" => some fun s => .bool (s.toList.all fun c => c.toNat < 128)
  | "isprintable" => some fun s => .bool (s.toList.all Unicode.isPrintable)
  | _ => none

/-- 前後から文字を除くメソッドが除く側（前、後）。 -/
def stripSides? (name : String) : Option (Bool × Bool) :=
  match name with
  | "strip" => some (true, true)
  | "lstrip" => some (true, false)
  | "rstrip" => some (false, true)
  | _ => none

/-- 前と後（`front`, `back` の側）から `drop` を満たす文字を除く。 -/
def stripWith (front back : Bool) (drop : Char → Bool) (s : String) : String :=
  let cs := if front then s.toList.dropWhile drop else s.toList
  String.ofList (if back then (cs.reverse.dropWhile drop).reverse else cs)

/-- 前後から文字を除くメソッドを呼ぶ。引数がないか `None` なら空白を、文字列ならその文字を除く。 -/
def callStrip (name : String) (front back : Bool) (s : String) (args : List Value) : Except Fault Value :=
  match args with
  | [] | [.none] => .ok (.str (stripWith front back Unicode.isSpace s))
  | [.str t] => .ok (.str (stripWith front back (fun c => t.toList.contains c) s))
  | [_] => .error (Fault.other "TypeError" (name ++ " arg must be None or str"))
  | _ => .error (Fault.other "TypeError" (name ++ " expected at most 1 argument, got " ++ toString args.length))

/-- 値の属性 `method` を引く。呼べる属性は引数を受け取る関数に、呼べない属性は呼ぶと
失敗する関数になる。列は補助と属性、文字列は引数なしのメソッドを持ち、ない属性は属性の失敗。 -/
def methodOf (v : Value) (method : String) : Except Fault (List Value → Except Fault Value) :=
  match v with
  | .column c =>
    match columnAttribute? c method, helperParams method with
    | some a, _ => .ok fun _ => .error (notCallable a)
    | none, some _ => .ok (columnHelper v method)
    | none, none => .error (Fault.noAttribute v method)
  | .str s =>
    match stringMethod? method, stripSides? method with
    | some f, _ => .ok fun args =>
      if args.isEmpty then .ok (f s)
      else .error (Fault.other "TypeError" ("str." ++ method ++ "() takes no arguments (" ++
        toString args.length ++ " given)"))
    | none, some (front, back) => .ok (callStrip method front back s)
    | none, none => .error (Fault.noAttribute v method)
  | _ => .error (Fault.noAttribute v method)

end DataAccess
