import DataAccess.Proofs.LeadingVerb
import DataAccess.Proofs.KeyLookup
/-!
# 検索の文の書き込みの判定

検索の文は `WITH` の句（共通表式か、問い合わせで定まるモデルの本体）の後に `SELECT ` が続く。
`WITH` の句がなければ文は `SELECT ` で始まり、書き込みとは見られない。あれば文は `WITH ` で始まり、
判定は文のどこかに `INSERT`, `UPDATE`, `DELETE`, `MERGE` が一語として現れるかで決まる。
行の鍵の `FOR UPDATE` もその一語になる。
-/

namespace DataAccess

namespace Build

/-- `WITH` の句の形: 共通表式があるか問い合わせで定まるモデルなら、`WITH ` で始まり空白で終わる。
どちらもなければ空。 -/
def WithShape (m : Meta) (opts : FindOptions) (sql : String) : Prop :=
  if opts.cte.truthy || m.query.isSome then ∃ body, sql = "WITH " ++ body ++ " " else sql = ""

theorem withClause_shape {P : Compiler → Prop} (m : Meta) (opts : FindOptions) :
    Triple P (withClause m opts) fun sql _ => WithShape m opts sql := by
  unfold withClause
  refine (triple_any _).bind fun d => ?_
  extract_lets jp
  -- 共通表式の並びが空なのは `cte` が偽のとき、モデルの本体の並びが空なのは問い合わせがないとき
  have hjp : ∀ cte, (cte = [] ↔ opts.cte.truthy = false) →
      Triple (fun _ => True) (jp cte) fun sql _ => WithShape m opts sql := by
    intro cte hcte
    simp -zeta only [jp]
    extract_lets jp₂
    have hjp₂ : ∀ own, (own = [] ↔ m.query = none) →
        Triple (fun _ => True) (jp₂ own) fun sql _ => WithShape m opts sql := by
      intro own hown
      simp only [jp₂]
      split
      · next hempty =>
        obtain ⟨hc, ho⟩ := List.append_eq_nil_iff.1 (List.isEmpty_iff.1 hempty)
        refine Triple.pure fun _ _ => ?_
        simp [WithShape, hcte.1 hc, hown.1 ho]
      · next hempty =>
        refine (triple_any _).bind fun body => Triple.pure fun _ _ => ?_
        have hflag : (opts.cte.truthy || m.query.isSome) = true := by
          by_contra hno
          simp only [Bool.or_eq_true, not_or, Bool.not_eq_true, Option.isSome_eq_false_iff,
            Option.isNone_iff_eq_none] at hno
          simp [hcte.2 hno.1, hown.2 hno.2] at hempty
        rw [WithShape, if_pos hflag]
        exact ⟨body, rfl⟩
    split
    · next q hq =>
      simp only [pure_bind]
      exact (triple_any _).bind fun _ => hjp₂ _ (by simp [hq])
    · next hq =>
      simp only [pure_bind]
      exact hjp₂ _ (by simp [hq])
  split
  · next ht =>
    simp only [pure_bind]
    exact (triple_any _).bind fun _ => (triple_any _).bind fun _ => hjp _ (by simp [ht])
  · next ht =>
    simp only [pure_bind]
    exact hjp _ (by simp [ht])

theorem Triple.carry {α : Type} {Q : Prop} {R S : α → Compiler → Prop} {x : Build α}
    (h : Triple (fun _ => True) x R) (hRS : ∀ a c, Q → R a c → S a c) : Triple (fun _ => Q) x S :=
  fun c a c' hq hrun => hRS a c' hq (h c a c' trivial hrun)

theorem select_sql_shape {d : Dialect} {cat : Catalog} {m : Meta} {conds : Value} {opts : FindOptions}
    {mark : Nat → String} {st : Statement} (h : Statement.select d cat m conds opts mark = .ok st) :
    ∃ withSql post, WithShape m opts withSql ∧ st.sql = withSql ++ "SELECT " ++ post := by
  unfold Statement.select at h
  refine Triple.statement (R := fun sql => ∃ withSql post, WithShape m opts withSql ∧
    sql = withSql ++ "SELECT " ++ post) ?_ h
  refine (withClause_shape m opts).bind fun withSql => Triple.carry
    (R := fun sql _ => ∃ post, sql = withSql ++ "SELECT " ++ post) ?_
    fun _ _ hshape ⟨post, hpost⟩ => ⟨withSql, post, hshape, hpost⟩
  extract_lets table group order lock
  refine (triple_any _).bind fun cols => ?_
  refine (triple_any _).bind fun join => ?_
  refine (triple_any _).bind fun entries => ?_
  refine (triple_any _).bind fun w => ?_
  extract_lets whereSql jp
  -- まとめ、整列、上限、行の鍵の句は後ろに付くだけ
  have hjp : ∀ g, Triple (fun _ => True) (jp g) fun sql _ => ∃ post, sql = withSql ++ "SELECT " ++ post := by
    intro g
    dsimp -zeta only [jp]
    extract_lets jp₁
    have hjp₁ : ∀ o, Triple (fun _ => True) (jp₁ o) fun sql _ => ∃ post, sql = withSql ++ "SELECT " ++ post := by
      intro o
      simp only [jp₁]
      exact (triple_any _).bind fun _ => Triple.pure fun _ _ => ⟨_, by simp only [String.append_assoc]; rfl⟩
    split
    · exact (triple_any _).bind fun _ => (triple_any _).bind fun o => hjp₁ o
    · exact (triple_any _).bind fun o => hjp₁ o
  split
  · exact (triple_any _).bind fun _ => (triple_any _).bind fun _ => (triple_any _).bind fun g => hjp g
  · exact (triple_any _).bind fun g => hjp g

end Build

namespace Statement

/-- 検索の文が書き込みと見られるのは、共通表式があるか問い合わせで定まるモデルで、しかも文が
`INSERT`, `UPDATE`, `DELETE`, `MERGE` のどれかを一語として含むときに限る（`FOR UPDATE` もその一つ）。 -/
theorem select_write_verdict {d : Dialect} {cat : Catalog} {m : Meta} {conds : Value} {opts : FindOptions}
    {mark : Nat → String} {st : Statement} (h : Statement.select d cat m conds opts mark = .ok st) :
    Sql.isWriteStatement st.sql = ((opts.cte.truthy || m.query.isSome) && Sql.mentionsDml st.sql.toList) := by
  obtain ⟨withSql, post, hshape, hsql⟩ := Build.select_sql_shape h
  rw [hsql]
  unfold Build.WithShape at hshape
  split at hshape
  · next hflag =>
    obtain ⟨body, rfl⟩ := hshape
    simp only [hflag, Bool.true_and, String.append_assoc]
    exact Sql.isWriteStatement_with _
  · next hflag =>
    subst hshape
    rw [Bool.not_eq_true] at hflag
    rw [hflag, Bool.false_and, String.empty_append, Sql.isWriteStatement_select]

/-- 問い合わせで定まるモデル `activeUsers` を行の鍵付きで読む文は `FOR UPDATE` で終わり、書き込みと見られる。 -/
theorem locked_query_model_read_is_write :
    ∃ st, Statement.select .postgresql {} activeUsers (.list []) { forUpdate := .bool true } = .ok st ∧
      st.sql = "WITH active_users AS (SELECT id, name FROM users WHERE active = ?) " ++
        "SELECT * FROM active_users ORDER BY id ASC FOR UPDATE" ∧
      Sql.isWriteStatement st.sql = true := by
  have hsql : (Statement.select .postgresql {} activeUsers (.list []) { forUpdate := .bool true }).toOption.map
      Statement.sql = some ("WITH active_users AS (SELECT id, name FROM users WHERE active = ?) " ++
        "SELECT * FROM active_users ORDER BY id ASC FOR UPDATE") := by
    decide +kernel
  obtain ⟨st, hst, hs⟩ := Except.exists_of_toOption_map hsql
  refine ⟨st, hst, hs, ?_⟩
  rw [select_write_verdict hst, hs]
  decide +kernel

end Statement

end DataAccess
