import DataAccess.Dialect
import DataAccess.Model.Catalog
import DataAccess.Condition
import DataAccess.Sql.Fragment
/-!
# 条件と値の翻訳

条件の並びと書き込む値を、`?` の印を持つ SQL の断片に左から右へ訳す。
値を束縛するたびに、その `?` を書くのと同時に値を並びの末尾に足すので、
値の順は印の順と必ず一致する。

* キーと値の組: 値の形で `=`, `IN`, `IS NULL`, `IS NOT NULL` などを選ぶ。`SKIP` は落とす。
* キーが `?` を含む文字列なら断片で、値をその印に束縛する。
* 述語: 比較、範囲、組の `IN`、OR の群、生の条件、副問い合わせ（`IN` と `EXISTS`）。
* 副問い合わせは `_sq1`, `_sq2`, … の別名を持ち、`parent_ref` はすぐ外側の行の列を指す。

入れ子の深さは燃料で抑える（尽きれば再帰の上限の失敗）。
-/

namespace DataAccess

/-- 条件を訳す場所: そのモデルの標識と行の別名、すぐ外側の問い合わせの標識と別名。 -/
structure Scope where
  tag : String
  rowName : String
  parent : Option (String × String) := none
  deriving Inhabited

/-- 訳しているあいだの状態。 -/
structure Compiler where
  dialect : Dialect
  catalog : Catalog
  /-- 束縛した値（逆順）。 -/
  bound : List Value := []
  /-- これまでに作った副問い合わせの数。 -/
  subqueries : Nat := 0
  /-- `i` 番目（0 から）に束縛する値の印の書き方。文に書くのは `?` だが、番号を書けば
  どの印がどの値と一緒に書かれたかが文から読める。 -/
  mark : Nat → String := fun _ => "?"

/-- 訳す計算。 -/
abbrev Build := StateT Compiler (Except Fault)

namespace Build

/-- 失敗を投げる。 -/
def fail {α : Type} (f : Fault) : Build α := throw f

/-- 失敗しうる計算を持ち上げる。 -/
def lift {α : Type} (x : Except Fault α) : Build α :=
  match x with
  | .ok a => pure a
  | .error f => throw f

/-- 方言。 -/
def dialect : Build Dialect := return (← get).dialect

/-- 束縛した値（印の順）。 -/
def params : Build (List Value) := return (← get).bound.reverse

/-- 値を束縛して、その印（`?`）を返す。値は方言の渡せる形にする。 -/
def bind (v : Value) : Build String := do
  let d ← dialect
  let p ← lift (d.adaptParam v)
  let c ← get
  set { c with bound := p :: c.bound }
  return c.mark c.bound.length

/-- 文字列の囲みの外の `?` を、次に束縛する値から順の印として書く（印が `?` ならそのまま）。 -/
def marked (sql : String) : Build String := do
  let c ← get
  return Sql.rewriteMarkers (Sql.markStyle fun i => c.mark (c.bound.length + i)) sql

/-- 断片とその値を束縛し、断片をそのまま返す。印の数と値の数が違えば失敗。 -/
def bindFragment (sql : Value) (params : List Value) (label : String) : Build Value := do
  let expected ← lift (Sql.markerCount sql)
  if expected != params.length then
    fail (Fault.arity (label ++ " has " ++ toString expected ++ " placeholders but " ++
      toString params.length ++ " values") (some sql) (some "placeholders"))
  let written ← match sql with
    | .str s => Value.str <$> marked s
    | v => pure v
  for p in params do
    let _ ← bind p
  return written

/-- 列か列名を識別子にする。 -/
def name (v : Value) : Build String := do
  let d ← dialect
  match v with
  | .column c => return d.identifier c.name
  | .str s => return d.identifier s
  | _ => fail (Fault.contract ("expected a Column or column name, got " ++ v.repr) none (some v))

/-- 値の並びの `IN`。空なら常に偽（否定なら常に真）。 -/
def inList (col : String) (values : List Value) (negate : Bool := false) : Build String := do
  if values.isEmpty then return (if negate then "1 = 1" else "1 = 0")
  let marks ← values.mapM bind
  return col ++ (if negate then " NOT IN (" else " IN (") ++ ", ".intercalate marks ++ ")"

/-- すぐ外側の行の列。外側がないか、外側のモデルの列でなければ失敗。 -/
def parentColumn (col : Value) (scope : Scope) : Build String := do
  match scope.parent with
  | none =>
    fail (Fault.contract ("parent_ref(" ++ col.repr ++ ") is only valid inside a subquery") none
      (some col) (some "parent_ref"))
  | some (ptag, prow) =>
    match col with
    | .column c =>
      if c.model != ptag then
        let msg := "parent_ref(" ++ col.repr ++ ") belongs to " ++ c.model ++
          ", but the calling model is " ++ ptag
        fail (.lib { kind := .ownership, message := .str msg, field := .str c.name, value := some col,
                     constraint := .str "parent_ref" })
      return prow ++ "." ++ (← name col)
    | _ => fail (Fault.noAttribute col "model_tag")

/-- キーと値の組の条件。 -/
def columnCondition (col : String) (v : Value) (scope : Scope) : Build String := do
  let d ← dialect
  match v with
  | .none | .marker .null => return col ++ " IS NULL"
  | .marker .notNull => return col ++ " IS NOT NULL"
  | .marker .now => return col ++ " = " ++ d.now
  | .marker _ => fail (Fault.contract (v.repr ++ " is not valid in a condition") none (some v))
  | .bool b => return col ++ " = " ++ d.boolean b
  | .raw sql => return col ++ " = " ++ sql.text
  | .dynamic sql ps => return col ++ " = " ++ (← bindFragment sql ps "dynamic value").text
  | .parentRef c => return col ++ " = " ++ (← parentColumn c scope)
  | .list xs | .tuple xs => inList col xs
  | _ =>
    if v.isPredicate then
      fail (Fault.contract ("predicate " ++ v.repr ++ " cannot be used as a value") none (some v)
        (some "condition_shape"))
    else return col ++ " = " ++ (← bind v)

/-- 断片のキーの条件。印が一つなら値そのもの、そうでなければ同じ長さの並びを束縛する。 -/
def fragment (sql : String) (v : Value) : Build String := do
  let expected := Sql.countMarkers sql
  if expected == 1 then
    let written ← marked sql
    let _ ← bind v
    return written
  match v.items? with
  | some xs =>
    if xs.length == expected then
      let written ← marked sql
      for x in xs do
        let _ ← bind x
      return written
    else failArity expected
  | none => failArity expected
where
  failArity (n : Nat) : Build String :=
    fail (Fault.arity ("fragment " ++ quoteText sql ++ " needs " ++ toString n ++ " values") (some v)
      (some "placeholders"))

/-- 比べる演算子（大文字）。 -/
def comparisonOperators : List String :=
  ["=", "!=", "<>", ">", ">=", "<", "<=", "LIKE", "NOT LIKE", "ILIKE", "IN", "NOT IN"]

/-- 比較の述語。演算子は大文字にして比べる（大文字にできるのは文字列とバイト列で、
バイト列はどの演算子とも等しくない）。 -/
def comparison (col : Value) (op : Value) (v : Value) (scope : Scope) : Build (Option String) := do
  let d ← dialect
  let unsupported : Fault := Fault.contract ("unsupported operator " ++ op.repr) none (some op)
  let operator ← match op with
    | .str s => pure (Sql.upperWord s)
    | .bytes _ => fail unsupported
    | _ => fail (Fault.noAttribute op "upper")
  if !comparisonOperators.contains operator then fail unsupported
  let n ← name col
  match v with
  | .marker .skip => return none
  | _ =>
  if operator == "IN" || operator == "NOT IN" then
    match v.items? with
    | some xs => return some (← inList n xs (operator == "NOT IN"))
    | none => fail (Fault.contract (operator ++ " needs a list of values") none (some v))
  match v with
  | .none | .marker .null =>
    if operator == "=" then return some (n ++ " IS NULL")
    if operator == "!=" || operator == "<>" then return some (n ++ " IS NOT NULL")
    fail (Fault.contract ("cannot compare " ++ n ++ " " ++ operator ++ " NULL") none (some v))
  | _ =>
  if operator == "ILIKE" then
    let sql ← marked (d.ilike n)
    let _ ← bind v
    return some sql
  match v with
  | .raw sql => return some (n ++ " " ++ operator ++ " " ++ sql.text)
  | .parentRef c => return some (n ++ " " ++ operator ++ " " ++ (← parentColumn c scope))
  | .dynamic sql ps =>
    return some (n ++ " " ++ operator ++ " " ++ (← bindFragment sql ps "dynamic value").text)
  | .marker .now => return some (n ++ " " ++ operator ++ " " ++ d.now)
  | _ => return some (n ++ " " ++ operator ++ " " ++ (← bind v))

/-- 組の `IN`。 -/
def tupleIn (cols : List Value) (rows : List Value) : Build String := do
  let width := cols.length
  if width == 0 then
    fail (Fault.contract "tuple_in needs at least one column" none none (some "tuple_in"))
  let rowItems := rows.map fun r => (r.tupleItems?).getD []
  for r in rowItems do
    if r.length != width then
      fail (Fault.arity ("tuple_in row " ++ (Value.tuple r).repr ++ " has " ++ toString r.length ++
        " values for " ++ toString width ++ " columns") (some (.tuple r)) (some "arity"))
  if rowItems.isEmpty then return "1 = 0"
  let names ← cols.mapM name
  if width == 1 then
    return ← inList (names.headD "") (rowItems.map fun r => r.headD .none)
  let groups ← rowItems.mapM fun r => do
    let marks ← r.mapM bind
    return "(" ++ ", ".intercalate marks ++ ")"
  return "(" ++ ", ".intercalate names ++ ") IN (" ++ ", ".intercalate groups ++ ")"

/-- 書き込む値の SQL。ふつうは文字列だが、`Raw` と `Dynamic` の断片は渡されたままの値。 -/
def value (v : Value) : Build Value := do
  let d ← dialect
  match v with
  | .none | .marker .null => return .str (← bind .none)
  | .marker .now => return .str d.now
  | .marker _ => fail (Fault.contract (v.repr ++ " is not valid as a column value") none (some v))
  | .raw sql => return sql
  | .dynamic sql ps => bindFragment sql ps "dynamic value"
  | .parentRef _ => fail (Fault.contract (v.repr ++ " is not valid as a column value") none (some v))
  | _ =>
    if v.isPredicate then fail (Fault.contract (v.repr ++ " is not valid as a column value") none (some v))
    else return .str (← bind v)

/-- 副問い合わせの相手の表（問い合わせのモデルは派生表）。 -/
def source (m : Meta) : Build String := do
  let d ← dialect
  match m.query with
  | none => return d.identifier m.table
  | some q => return "(" ++ (← bindFragment (.str q) m.queryParams (m.name ++ " query")).text ++ ")"

/-- 再帰の上限の失敗。 -/
def recursionLimit : Fault := Fault.other "RecursionError" "maximum recursion depth exceeded"

/-- 対の二つ目を取り出す。 -/
def pairParts (p : Value) : Build (Value × Value) :=
  match p.tupleItems? with
  | some [a, b] => pure (a, b)
  | some xs =>
    if xs.length < 2 then
      fail (Fault.other "ValueError" ("not enough values to unpack (expected 2, got " ++
        toString xs.length ++ ")"))
    else fail (Fault.other "ValueError" "too many values to unpack (expected 2)")
  | none => fail (Fault.other "TypeError" "cannot unpack non-iterable object")

mutual
/-- 条件の並びを AND で繋ぐ。残る条件がなければ `none`。 -/
def whereClause : Nat → List Value → Scope → Build (Option String)
  | 0, _, _ => fail recursionLimit
  | fuel + 1, entries, scope => do
    let parts ← entries.mapM fun e => entry fuel e scope
    match parts.filterMap id with
    | [] => return none
    | ps => return some (" AND ".intercalate ps)

/-- 条件の並びの一つの要素。 -/
def entry : Nat → Value → Scope → Build (Option String)
  | 0, _, _ => fail recursionLimit
  | fuel + 1, e, scope => do
    if e.isPredicate then return ← predicate fuel e scope
    match e with
    | .tuple [k, v] =>
      match v with
      | .marker .skip => return none
      | _ =>
      match k with
      | .column _ => return some (← columnCondition (← name k) v scope)
      | .str s =>
        if Sql.countMarkers s > 0 then return some (← fragment s v)
        else return some (← columnCondition (← name k) v scope)
      | _ => fail (Fault.contract ("condition key must be a Column or string, got " ++ k.repr) none
          (some k) (some "condition_shape"))
    | _ => fail (Fault.contract ("condition entries are (key, value) pairs or predicates, got " ++ e.repr)
        none (some e) (some "condition_shape"))

/-- 述語。 -/
def predicate : Nat → Value → Scope → Build (Option String)
  | 0, _, _ => fail recursionLimit
  | fuel + 1, p, scope => do
    match p with
    | .comparison col op v => comparison col op v scope
    | .between col lo hi =>
      let n ← name col
      let a ← bind lo
      let b ← bind hi
      return some (n ++ " BETWEEN " ++ a ++ " AND " ++ b)
    | .tupleIn cols rows => return some (← tupleIn cols rows)
    | .orGroup groups =>
      let parts ← groups.mapM fun g => whereClause fuel ((g.tupleItems?).getD []) scope
      match parts.filterMap id with
      | [] => return none
      | [g] => return some ("(" ++ g ++ ")")
      | gs => return some ("(" ++ " OR ".intercalate (gs.map fun g => "(" ++ g ++ ")") ++ ")")
    | .rawCondition sql ps => return some ("(" ++ (← bindFragment sql ps "raw condition").text ++ ")")
    | .inSubquery pairs conds negate =>
      if pairs.isEmpty then
        fail (Fault.contract "subquery needs at least one key pair" none none (some "subquery"))
      let split ← pairs.mapM pairParts
      let targets := split.map (·.2)
      let tags ← targets.mapM fun t => match t with
        | .column c => pure c.model
        | _ => fail (Fault.noAttribute t "model_tag")
      if tags.eraseDups.length != 1 then
        fail (Fault.contract "subquery target columns must belong to one model" none (some (.list targets))
          (some "subquery"))
      let m ← lift ((← get).catalog.modelMeta (tags.headD ""))
      let left ← split.mapM fun (l, _) => name l
      let lhs := match left with
        | [one] => one
        | _ => "(" ++ ", ".intercalate left ++ ")"
      let sel ← targets.mapM name
      let from_ ← subquery fuel m (m.defaultFilter ++ conds) scope
      return some (lhs ++ (if negate then " NOT IN (" else " IN (") ++ "SELECT " ++ ", ".intercalate sel ++
        " FROM " ++ from_ ++ ")")
    | .existsIn target conds negate =>
      match target with
      | .modelMeta tag =>
        let m ← lift ((← get).catalog.modelMeta tag)
        let from_ ← subquery fuel m (m.defaultFilter ++ conds) scope
        return some ((if negate then "NOT EXISTS (" else "EXISTS (") ++ "SELECT 1 FROM " ++ from_ ++ ")")
      | _ => fail (Fault.contract ("exists() target must be a model, got " ++ target.repr) none (some target))
    | _ => fail (Fault.contract ("unsupported predicate " ++ p.repr) none (some p))

/-- 副問い合わせの `FROM` の相手と `WHERE`。 -/
def subquery : Nat → Meta → List Value → Scope → Build String
  | 0, _, _, _ => fail recursionLimit
  | fuel + 1, m, conds, scope => do
    modify fun c => { c with subqueries := c.subqueries + 1 }
    let rowName := "_sq" ++ toString (← get).subqueries
    let src ← source m
    let w ← whereClause fuel conds { tag := m.tag, rowName, parent := some (scope.tag, scope.rowName) }
    match w with
    | some w => return src ++ " AS " ++ rowName ++ " WHERE " ++ w
    | none => return src ++ " AS " ++ rowName
end

/-- 入れ子の深さの上限。 -/
def depthLimit : Nat := 400

/-- 条件の並び全体を訳す。 -/
def conditions (entries : List Value) (scope : Scope) : Build (Option String) :=
  whereClause depthLimit entries scope

end Build

end DataAccess
