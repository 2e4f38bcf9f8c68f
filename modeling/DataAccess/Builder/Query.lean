import DataAccess.Builder.Compile
import DataAccess.Builder.Options
import DataAccess.Model.Meta
/-!
# 読み取りの文

検索（`SELECT`）、件数（`SELECT COUNT(*)`）、書き込みの前にキーを読む文、
主キーの値からの条件。

検索の文は左から右に組む: `WITH`（共通表式、問い合わせのモデルの本体）、選ぶ列、
結合、`WHERE`（既定の絞り込みの後に呼び出しの条件）、`GROUP BY`、`ORDER BY`、
`LIMIT`/`OFFSET`、行の鍵。値の順もこの順になる。
-/

namespace DataAccess

namespace Build

/-- 要素を取り出す。 -/
def items (v : Value) : Build (List Value) := lift v.iterate

/-- `WITH` の句。 -/
def withClause (m : Meta) (opts : FindOptions) : Build String := do
  let d ← dialect
  let cte ← if opts.cte.truthy then
      pure [← bindFragment opts.cte (← items opts.cteParams) "cte"]
    else pure []
  let own ← match m.query with
    | some q =>
      let body ← bindFragment (.str q) m.queryParams (m.name ++ " query")
      pure [Value.str (d.identifier m.table ++ " AS (" ++ body.text ++ ")")]
    | none => pure []
  let ctes := cte ++ own
  if ctes.isEmpty then return ""
  return "WITH " ++ (← lift (Value.joinItems ", " ctes)) ++ " "

/-- 結合の句。 -/
def joinClause (opts : FindOptions) : Build String := do
  if opts.join.truthy then
    match ← bindFragment opts.join (← items opts.joinParams) "join" with
    | .str s => return " " ++ s
    | v => fail (Value.cannotConcatenate "str" v)
  return ""

/-- 選ぶ列。 -/
def selectList (opts : FindOptions) (table : String) : Build String := do
  match opts.select with
  | .none => return if opts.join.truthy then table ++ ".*" else "*"
  | .str s => return s
  | v => return ", ".intercalate (← (← items v).mapM name)

/-- 書き込みに要る `WHERE`。条件が残らなければ契約違反。 -/
def requiredWhere (m : Meta) (conds : Value) (operation : String) : Build String := do
  let d ← dialect
  let entries ← lift conds.normalizeConditions
  match ← conditions entries { tag := m.tag, rowName := d.identifier m.writeTable } with
  | some w => return w
  | none => fail ((Fault.contract (operation ++ " on " ++ m.name ++ " requires at least one condition")
      none none (some "conditions")).inModel m.name operation)

/-- `RETURNING` の句（方言が返せて、主キーがあり、求められたときだけ）。 -/
def returningClause (m : Meta) (wanted : Value) : Build String := do
  let d ← dialect
  if wanted.truthy && d.supportsReturning && !m.primaryKey.isEmpty then
    return " RETURNING " ++ ", ".intercalate (← m.primaryKey.mapM fun c => name (.column c))
  return ""

/-- 訳して文にする。`mark` は値の印の書き方（文に書くのは `?`）。 -/
def toStatement (d : Dialect) (cat : Catalog) (mark : Nat → String) (b : Build String) :
    Except Fault Statement :=
  match StateT.run b { dialect := d, catalog := cat, mark } with
  | .ok (sql, c) => .ok ⟨sql, c.bound.reverse⟩
  | .error f => .error f

end Build

namespace Statement

/-- 条件の訳から `WHERE` の句を書く（条件が残らなければ何も書かない）。 -/
def whereSuffix : Option String → String
  | some w => " WHERE " ++ w
  | none => ""

/-- 検索の文。 -/
def select (d : Dialect) (cat : Catalog) (m : Meta) (conds : Value) (opts : FindOptions)
    (mark : Nat → String := fun _ => "?") : Except Fault Statement :=
  Build.toStatement d cat mark do
    let withSql ← Build.withClause m opts
    let table := d.identifier m.table
    let cols ← Build.selectList opts table
    let join ← Build.joinClause opts
    let entries ← Build.lift conds.normalizeConditions
    let w ← Build.conditions (m.defaultFilter ++ entries) { tag := m.tag, rowName := table }
    let whereSql := whereSuffix w
    let group := match opts.group with
      | .none => .list m.defaultGroup
      | g => g
    let groupSql ← if group.truthy then
        pure (" GROUP BY " ++ ", ".intercalate (← (← Build.items group).mapM Build.name))
      else pure ""
    let order := match opts.order with
      | .none => .list m.defaultOrder
      | o => o
    let orderSql ← if order.truthy then
        let terms ← Build.items order
        pure (" ORDER BY " ++ ", ".intercalate (terms.map fun t =>
          match asOrderTerm t with
          | (col, dir, nulls) => d.orderTerm col.text dir nulls))
      else pure ""
    let limits ← Build.lift (d.limitOffset opts.limit opts.offset)
    let limitSql := if limits.isEmpty then "" else " " ++ limits
    let lock := if opts.forUpdate.truthy && !d.forUpdate.isEmpty then " " ++ d.forUpdate else ""
    return withSql ++ "SELECT " ++ cols ++ " FROM " ++ table ++ join ++ whereSql ++ groupSql ++ orderSql ++
      limitSql ++ lock
where
  asOrderTerm (t : Value) : Value × Direction × Option NullsPlacement :=
    match t with
    | .order c dir n => (c, dir, n)
    | c => (c, .asc, none)

/-- 件数の文。 -/
def count (d : Dialect) (cat : Catalog) (m : Meta) (conds : Value) (opts : FindOptions)
    (mark : Nat → String := fun _ => "?") : Except Fault Statement :=
  Build.toStatement d cat mark do
    let withSql ← Build.withClause m opts
    let table := d.identifier m.table
    let join ← Build.joinClause opts
    let entries ← Build.lift conds.normalizeConditions
    let w ← Build.conditions (m.defaultFilter ++ entries) { tag := m.tag, rowName := table }
    let whereSql := whereSuffix w
    return withSql ++ "SELECT COUNT(*) AS count FROM " ++ table ++ join ++ whereSql

/-- 書き込みが触れる行の主キーを読む文（`RETURNING` のない方言のため）。 -/
def selectKeys (d : Dialect) (cat : Catalog) (m : Meta) (conds : Value) (operation : String)
    (forUpdate : Bool := true) (mark : Nat → String := fun _ => "?") : Except Fault Statement :=
  Build.toStatement d cat mark do
    let pk ← Build.lift (m.requirePrimaryKey operation)
    let w ← Build.requiredWhere m conds operation
    let cols ← pk.mapM fun c => Build.name (.column c)
    let lock := if forUpdate && !d.forUpdate.isEmpty then " " ++ d.forUpdate else ""
    return "SELECT " ++ ", ".intercalate cols ++ " FROM " ++ d.identifier m.writeTable ++ " WHERE " ++ w ++ lock

/-- 主キーの値から作る条件。主キーが一列なら `(列, [値…])`、複数なら組の `IN`。 -/
def keyCondition (m : Meta) (keys : Value) : Except Fault Value := do
  let pk ← m.requirePrimaryKey "find_by_id"
  let pkValues := pk.map Value.column
  let rows ← match keys with
    | .pkey key rows =>
      let same := key.length == pk.length && (key.zip pk).all fun (k, c) => match k with
        | .column kc => kc.same c
        | _ => false
      if !same then
        throw (Fault.contract ("PkeyResult key " ++ (Value.list key).repr ++ " does not match " ++ m.name ++
          " primary key " ++ (Value.list pkValues).repr) none none (some "primary_key"))
      pure (rows.map fun r => (r.tupleItems?).getD [])
    | _ => do
      let rs ← keys.iterate
      pure (rs.map fun r => (r.items?).getD [r])
  for r in rows do
    if r.length != pk.length then
      throw (Fault.arity ("key row " ++ (Value.tuple r).repr ++ " has " ++ toString r.length ++ " values for " ++
        toString pk.length ++ " primary key columns") (some (.tuple r)) (some "arity"))
  match pkValues with
  | [one] => return .tuple [one, .list (rows.map fun r => r.headD .none)]
  | _ => return .tupleIn pkValues (rows.map Value.tuple)

end Statement

end DataAccess
