import DataAccess.Proofs.UpdateMany
/-!
# 組み立てた文の印と値

文を組み立てる七つの呼び出し（検索、数え上げ、鍵の検索、挿入、更新、削除、一括更新）を一つの型に
まとめ、どれについても次を示す: 呼び出しが持ち込む SQL の文字列が安全なら、組み立てた文の引用の外の
`?` は値と同じ数で、印の書き方 `f` で組み立てた文は、`?` の文の印を `f 0, f 1, …` と番号順に
書き直したもの。

持ち込む文字列は、名前、表の名前、`Raw` と `Dynamic` の文字列、断片のキー、問い合わせ、共通表式、
結合、選ぶ列、まとめ、整列。一括更新はそのほかに、鍵の列と書く列の宣言された型を配列の型として
引用せずに書くので、型の文字列も安全でなければならない: 型が `?` を含むと、値のない印が一つ増える。
-/

namespace DataAccess

open Sql Build

/-- 文を組み立てる呼び出し。 -/
inductive Call where
  | select (conds : Value) (opts : FindOptions)
  | count (conds : Value) (opts : FindOptions)
  | selectKeys (conds : Value) (operation : String) (forUpdate : Bool)
  | insert (rows : List Value) (opts : InsertOptions)
  | update (conds values : Value) (opts : WriteOptions)
  | delete (conds : Value) (opts : WriteOptions)
  | updateMany (rows keyColumns : List Value) (opts : WriteOptions)

namespace Call

/-- 印の書き方 `mark` で文を組み立てる。 -/
def build (d : Dialect) (cat : Catalog) (m : Meta) (mark : Nat → String) : Call → Except Fault Statement
  | .select conds opts => Statement.select d cat m conds opts mark
  | .count conds opts => Statement.count d cat m conds opts mark
  | .selectKeys conds operation forUpdate => Statement.selectKeys d cat m conds operation forUpdate mark
  | .insert rows opts => Statement.insert d cat m rows opts mark
  | .update conds values opts => Statement.update d cat m conds values opts mark
  | .delete conds opts => Statement.delete d cat m conds opts mark
  | .updateMany rows keyColumns opts => Statement.updateMany d m rows keyColumns opts mark

/-- 呼び出しが持ち込む SQL の文字列（条件、書き込む値、選択肢の名前と断片）が安全。 -/
def safe : Call → Bool
  | .select conds opts | .count conds opts => conds.conditionsSafe && opts.safe
  | .selectKeys conds _ _ | .delete conds _ => conds.conditionsSafe
  | .insert rows opts => rows.all Value.rowSafe && opts.safe
  | .update conds values _ => conds.conditionsSafe && values.rowSafe
  | .updateMany rows keyColumns _ => rows.all Value.rowSafe && keyColumns.all Value.nameSafe

/-- 呼び出しが文に書く宣言された型が安全。型を書くのは一括更新だけで、鍵の列と書く列の型を書く。
列はモデルの列か、鍵や書き込む値のキーに渡された列。 -/
def typesSafe (m : Meta) : Call → Bool
  | .updateMany rows keyColumns _ =>
    m.columns.all Column.typeSafe && rows.all Value.rowTyped && keyColumns.all Value.typeSafe
  | _ => true

end Call

/-- 呼び出しが持ち込む文字列と書く型が安全なら、組み立てた文の引用の外の印は値と同じ数で、どの印の
書き方 `f` で組み立てた文も、`?` の文の `k` 番目の印を `f k` に書き直したもの。 -/
theorem Call.build_marks {d : Dialect} {cat : Catalog} {m : Meta} (hcat : cat.safe = true) (hm : m.safe = true)
    {call : Call} (hcall : call.safe = true) (htypes : call.typesSafe m = true) {st : Statement}
    (h : call.build d cat m (fun _ => "?") = .ok st) :
    countMarkers st.sql = st.params.length ∧ ∀ f, call.build d cat m f = .ok ⟨renumber f 0 st.sql, st.params⟩ := by
  cases call with
  | select conds opts =>
    simp only [Call.safe, Bool.and_eq_true] at hcall
    exact select_marks hcat hm hcall.1 hcall.2 h
  | count conds opts =>
    simp only [Call.safe, Bool.and_eq_true] at hcall
    exact count_marks hcat hm hcall.1 hcall.2 h
  | selectKeys conds operation forUpdate => exact selectKeys_marks hcat hm hcall operation forUpdate h
  | insert rows opts =>
    simp only [Call.safe, Bool.and_eq_true, List.all_eq_true] at hcall
    exact insert_marks hm hcall.1 hcall.2 h
  | update conds values opts =>
    simp only [Call.safe, Bool.and_eq_true] at hcall
    exact update_marks hcat hm hcall.1 hcall.2 opts h
  | delete conds opts => exact delete_marks hcat hm hcall opts h
  | updateMany rows keyColumns opts =>
    -- 一括更新は組み立ての状態を通らないので、二つの書き方の文を並べる関係から導く
    simp only [Call.safe, Call.typesSafe, Bool.and_eq_true, List.all_eq_true] at hcall htypes
    obtain ⟨⟨hcols, hrowTypes⟩, hkeyTypes⟩ := htypes
    exact Agree.statement (fun f => Statement.updateMany_agree hm (List.all_eq_true.2 hcols)
      (fun r hr => ⟨hcall.1 r hr, hrowTypes r hr⟩) (fun k hk => ⟨hcall.2 k hk, hkeyTypes k hk⟩) opts f) h

/-! ## 宣言された型の印 -/

/-- 表 `tags` の主キーの列 `id`。 -/
def tagId : Column := { name := "id", property := "id", table := "tags", model := "Tag", primaryKey := true }

/-- 表 `tags` の、宣言された型が `sqlType` の列 `label`。 -/
def tagLabel (sqlType : String) : Column :=
  { name := "label", property := "label", table := "tags", model := "Tag", sqlType := some sqlType }

/-- 列 `id` と `label` を持つモデル `Tag`。 -/
def tagModel (sqlType : String) : Meta := { tag := "Tag", table := "tags", columns := [tagId, tagLabel sqlType] }

/-- 主キーが 1 の行の `label` を書き換える一括更新。 -/
def relabelTag (sqlType : String) : Call :=
  .updateMany [.list [.tuple [.column tagId, .int 1], .tuple [.column (tagLabel sqlType), .str "a"]]]
    [.column tagId] {}

/-- 型が `?` を含むと、モデルも呼び出しも安全なのに、PostgreSQL の一括更新の文は値が二つで印が三つ。 -/
theorem updateMany_declared_type_marks :
    Catalog.safe {} = true ∧ (tagModel "text?").safe = true ∧ (relabelTag "text?").safe = true ∧
      ∃ st, (relabelTag "text?").build .postgresql {} (tagModel "text?") (fun _ => "?") = .ok st ∧
        countMarkers st.sql = 3 ∧ st.params.length = 2 := by
  refine ⟨by decide +kernel, by decide +kernel, by decide +kernel, ?_⟩
  have hrun : ((relabelTag "text?").build .postgresql {} (tagModel "text?") (fun _ => "?")).toOption.map
      (fun st => (countMarkers st.sql, st.params.length)) = some (3, 2) := by
    decide +kernel
  obtain ⟨st, hst, hcounts⟩ := Except.exists_of_toOption_map hrun
  exact ⟨st, hst, (Prod.mk.inj hcounts).1, (Prod.mk.inj hcounts).2⟩

/-- 型が `text` なら、同じ一括更新の文の印は値と同じ数で、どの書き方でも番号順に書き直される。 -/
theorem relabelTag_text_marks :
    ∃ st, (relabelTag "text").build .postgresql {} (tagModel "text") (fun _ => "?") = .ok st ∧
      countMarkers st.sql = st.params.length ∧
      ∀ f, (relabelTag "text").build .postgresql {} (tagModel "text") f = .ok ⟨renumber f 0 st.sql, st.params⟩ := by
  have hrun : ((relabelTag "text").build .postgresql {} (tagModel "text") (fun _ => "?")).isOk = true := by
    decide +kernel
  obtain ⟨st, hst⟩ := Except.exists_ok hrun
  exact ⟨st, hst, Call.build_marks (by decide +kernel) (by decide +kernel) (by decide +kernel) (by decide +kernel) hst⟩

end DataAccess
