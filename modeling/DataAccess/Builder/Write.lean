import DataAccess.Builder.Query
/-!
# 書き込みの文

挿入、更新、削除、一括更新の文と、書き込む値の正規化。

書き込む値は列と値の組の並び（または辞書）。列は列そのものか、属性名・列名で書く。
正規化は順を保ち、同じ列が二度あれば契約違反、`SKIP` の値は落とす（一括更新では残す）。

一括更新は、行ごとのキーの列で照合し、どれかの行が書く列をすべての行に代入する。
その列に触れない行は NULL を、`SKIP` を渡した行は今の値を保つ（行ごとの印の列を使う）。
-/

namespace DataAccess

/-- 正規化した書き込みの行: 列と値の組（列の順）。 -/
abbrev Row := List (Column × Value)

/-- 行の中の列の値。 -/
def Row.get? (row : Row) (c : Column) : Option Value :=
  (row.find? fun (k, _) => k.same c).map (·.2)

/-- 行が列を持つか。 -/
def Row.has (row : Row) (c : Column) : Bool := row.any fun (k, _) => k.same c

namespace Meta

/-- このモデルの列にする（名前なら引き、列ならこのモデルのものであることを確かめる）。 -/
def own (m : Meta) (key : Value) : Except Fault Column :=
  match key with
  | .str s => m.column s
  | .column c =>
    if m.owns c then .ok c
    else .error (Fault.contract (key.repr ++ " does not belong to " ++ m.name) (some c.name) none
      (some "value_shape"))
  | _ => .error (Fault.contract ("value keys must be Columns, got " ++ key.repr) none (some key)
      (some "value_shape"))

/-- 列の並びをこのモデルの列にする。 -/
def resolveColumns (m : Meta) (keys : List Value) : Except Fault (List Column) := keys.mapM m.own

/-- 書き込む値を正規化する。 -/
def normalizeRow (m : Meta) (values : Value) (keepSkip : Bool := false) : Except Fault Row := do
  let items ← match values with
    | .dict kvs => pure (kvs.map fun (k, v) => Value.tuple [k, v])
    | v => v.iterate
  items.foldlM (fun (row : Row) item => do
    match item with
    | .tuple [k, v] =>
      let c ← m.own k
      if row.has c then
        throw (Fault.contract ((Value.column c).repr ++ " given twice") (some c.name) none (some "value_shape"))
      match v with
      | .marker .skip => if keepSkip then pure (row ++ [(c, v)]) else pure row
      | _ => pure (row ++ [(c, v)])
    | _ => throw (Fault.contract ("value entries are (Column, value) pairs, got " ++ item.repr) none (some item)
        (some "value_shape"))) []

end Meta

/-- 列を重ねずに並べる（最初に現れた順）。 -/
def unionColumns (rows : List Row) : List Column :=
  rows.foldl (fun acc row => row.foldl (fun acc (c, _) => if acc.any (·.same c) then acc else acc ++ [c]) acc) []

namespace Statement

/-- 衝突したとき上書きする列。`"all"` なら挿入する列のうち衝突の列でないもの。 -/
def conflictUpdates (opts : InsertOptions) (columns : List Column) : Build (Option (List String)) := do
  match opts.onConflictUpdate with
  | .none => return none
  | .str "all" =>
    let conflict ← if opts.onConflict.truthy then Build.items opts.onConflict else pure []
    let keep := columns.filter fun c => !conflict.any fun k => match k with
      | .column kc => kc.same c
      | _ => false
    return some (← keep.mapM fun c => Build.name (.column c))
  | v => return some (← (← Build.items v).mapM Build.name)

/-- 挿入の文。 -/
def insert (d : Dialect) (cat : Catalog) (m : Meta) (rows : List Value) (opts : InsertOptions)
    (mark : Nat → String := fun _ => "?") : Except Fault Statement :=
  Build.toStatement d cat mark do
    Build.lift (m.requireWritable "create")
    if rows.isEmpty then
      Build.fail (Fault.contract "create needs at least one row" none none (some "values"))
    let normalized ← rows.mapM fun r => Build.lift (m.normalizeRow r)
    let columns := unionColumns normalized
    let table := d.identifier m.writeTable
    let ignore := opts.onConflictIgnore.truthy
    let verb := d.insertVerb ignore
    let body ← if columns.isEmpty then
        if normalized.length > 1 then
          Build.fail (Fault.contract "multi-row create needs at least one column" none none (some "values"))
        else pure (verb ++ " " ++ table ++ " " ++ d.defaultValuesClause)
      else do
        let names ← columns.mapM fun c => Build.name (.column c)
        let tuples ← normalized.mapM fun row => do
          let vs ← columns.mapM fun c => Build.value ((row.get? c).getD .none)
          pure ("(" ++ (← Build.lift (Value.joinItems ", " vs)) ++ ")")
        pure (verb ++ " " ++ table ++ " (" ++ ", ".intercalate names ++ ") VALUES " ++ ", ".intercalate tuples)
    let conflict ← if opts.onConflict.truthy then (← Build.items opts.onConflict).mapM Build.name else pure []
    let updates ← conflictUpdates opts columns
    let wantsClause := !conflict.isEmpty || ignore || !(updates.getD []).isEmpty
    let clause ← if wantsClause then Build.lift (d.upsertClause conflict updates ignore) else pure ""
    let clauseSql := if clause.isEmpty then "" else " " ++ clause
    return body ++ clauseSql ++ (← Build.returningClause m opts.returning)

/-- 更新の文。 -/
def update (d : Dialect) (cat : Catalog) (m : Meta) (conds values : Value) (opts : WriteOptions)
    (mark : Nat → String := fun _ => "?") : Except Fault Statement :=
  Build.toStatement d cat mark do
    Build.lift (m.requireWritable "update")
    let row ← Build.lift (m.normalizeRow values)
    if row.isEmpty then
      Build.fail (Fault.contract "update needs at least one value" none none (some "values"))
    let sets ← row.mapM fun (c, v) => do
      let n ← Build.name (.column c)
      let x ← Build.value v
      pure (n ++ " = " ++ x.text)
    let table := d.identifier m.writeTable
    let w ← Build.requiredWhere m conds "update"
    return "UPDATE " ++ table ++ " SET " ++ ", ".intercalate sets ++ " WHERE " ++ w ++
      (← Build.returningClause m opts.returning)

/-- 削除の文。 -/
def delete (d : Dialect) (cat : Catalog) (m : Meta) (conds : Value) (opts : WriteOptions)
    (mark : Nat → String := fun _ => "?") : Except Fault Statement :=
  Build.toStatement d cat mark do
    Build.lift (m.requireWritable "delete")
    let w ← Build.requiredWhere m conds "delete"
    return "DELETE FROM " ++ d.identifier m.writeTable ++ " WHERE " ++ w ++ (← Build.returningClause m opts.returning)

/-- 一括更新で束縛できない値か（生の SQL、断片、述語、外側の参照、NULL 以外の標識）。 -/
def unbindable (v : Value) : Bool :=
  match v with
  | .raw _ | .dynamic .. | .parentRef _ => true
  | .marker .null => false
  | .marker _ => true
  | _ => v.isPredicate

/-- 一括更新の文。 -/
def updateMany (d : Dialect) (m : Meta) (rows : List Value) (keyColumns : List Value) (opts : WriteOptions)
    (mark : Nat → String := fun _ => "?") : Except Fault Statement := do
  m.requireWritable "update_many"
  if rows.isEmpty then throw (Fault.contract "update_many needs at least one row" none none (some "values"))
  let keys ← m.resolveColumns keyColumns
  if keys.isEmpty then throw (Fault.contract "update_many needs key columns" none none (some "key_columns"))
  let normalized ← rows.mapM fun r => m.normalizeRow r true
  let (setColumns, skipped) ← normalized.foldlM (fun (acc : List Column × List Column) row => do
    for k in keys do
      match row.get? k with
      | none | some .none | some (.marker .skip) | some (.marker .null) =>
        throw (Fault.contract ("update_many row is missing key " ++ (Value.column k).repr) (some k.name) none
          (some "key_columns"))
      | _ => pure ()
    row.foldlM (fun (acc : List Column × List Column) (c, v) => do
      let (sets, skips) := acc
      if keys.any (·.same c) then return acc
      match v with
      | .marker .skip => return (sets, if skips.any (·.same c) then skips else skips ++ [c])
      | _ =>
      if unbindable v then
        throw (Fault.contract ("update_many binds plain values only, got " ++ v.repr ++ " for " ++
          (Value.column c).repr) none (some v) (some "values"))
      return (if sets.any (·.same c) then sets else sets ++ [c], skips)) acc) ([], [])
  if setColumns.isEmpty then throw (Fault.contract "update_many has no columns to set" none none (some "values"))
  let flagged := setColumns.filter fun c => skipped.any (·.same c)
  let name := d.identifier
  let text := fun (s : String) => Value.str s
  let spec : List Value :=
    keys.map (fun k => .updateColumn (text (name k.name)) (text "key") (Fault.textValue k.sqlType) .none) ++
    setColumns.map (fun s => .updateColumn (text (name s.name)) (text "set") (Fault.textValue s.sqlType) .none) ++
    flagged.map (fun f => .updateColumn (text ("_skip_" ++ f.name)) (text "skip") (text "boolean")
      (text (name f.name)))
  let matrix := normalized.map fun row =>
    keys.map (fun k => (row.get? k).getD .none) ++
    setColumns.map (fun c => match row.get? c with
      | some (.marker .skip) | some (.marker .null) | none => Value.none
      | some v => v) ++
    flagged.map (fun f => Value.bool (match row.get? f with
      | some (.marker .skip) => true
      | _ => false))
  let returning :=
    if opts.returning.truthy && d.supportsReturning && !m.primaryKey.isEmpty then
      Value.list (m.primaryKey.map fun k => text (name k.name))
    else .none
  d.updateMany (text (name m.writeTable)) spec (.list (keys.map fun k => text (name k.name)))
    (.list (matrix.map Value.list)) returning mark

end Statement

end DataAccess
