import DataAccess.Proofs.Conditions
/-!
# 入れ子の条件の訳

`whereClause`、`entry`、`predicate`、`subquery` は燃料で互いに呼び合う。燃料 `n` の四つの性質
（`WhereOk` など）から燃料 `n + 1` の性質を一つずつ示し（段の補題）、燃料についての帰納法で
どの燃料でも成り立つことを示す。どの段でも、安全な条件の並びなら二通りの走らせ方が並ぶ。

OR の群と副問い合わせはいくらでも入れ子にでき、副問い合わせの相手のモデルの既定の絞り込みも
同じ訳を通るので、表の集まりのどのモデルも安全であることを仮定に置く。
-/

namespace DataAccess

open Sql

theorem Value.entriesSafe_iff {es : List Value} :
    Value.entriesSafe es = true ↔ ∀ e ∈ es, e.entrySafe = true := by
  induction es with
  | nil => simp [Value.entriesSafe]
  | cons e es ih => simp [Value.entriesSafe, ih]

theorem Meta.entriesSafe_filter {m : Meta} (hm : m.safe = true) {conds : List Value}
    (hconds : Value.entriesSafe conds = true) : Value.entriesSafe (m.defaultFilter ++ conds) = true := by
  simp only [Meta.safe, Bool.and_eq_true] at hm
  rw [Value.entriesSafe_iff] at hconds ⊢
  intro e he
  rcases List.mem_append.1 he with he | he
  · exact Value.entriesSafe_iff.1 hm.1.1.2 e he
  · exact hconds e he

theorem Value.groupsSafe_mem {gs : List Value} (h : Value.groupsSafe gs = true) :
    ∀ g ∈ gs, Value.entriesSafe ((g.tupleItems?).getD []) = true := by
  induction gs with
  | nil => simp
  | cons g gs ih =>
    have hhead : Value.entriesSafe ((g.tupleItems?).getD []) = true := by
      cases g <;> simp_all [Value.groupsSafe, Value.tupleItems?, Value.entriesSafe]
    have htail : Value.groupsSafe gs = true := by
      cases g <;> simp_all [Value.groupsSafe]
    intro x hx
    rcases List.mem_cons.1 hx with rfl | hx
    · exact hhead
    · exact ih htail x hx

namespace Build

variable {d : Dialect} {cat : Catalog} {f : Nat → String}

/-! ## 部品 -/

theorem Lockstep.joinParts {sep : String} (hsep : plain sep = true) {k k' : Nat}
    {xs ys : List (Option String)} (h : Chain (OptText f) k k' xs ys) :
    Lockstep d cat f k' (fun _ k'' => OptText f k k'')
      (match xs.filterMap id with
        | [] => Pure.pure none
        | ps => Pure.pure (some (sep.intercalate ps)))
      (match ys.filterMap id with
        | [] => Pure.pure none
        | ps => Pure.pure (some (sep.intercalate ps))) := by
  have hparts := Chain.filterMap h
  generalize xs.filterMap id = as at hparts ⊢
  generalize ys.filterMap id = bs at hparts ⊢
  cases hparts with
  | nil => exact Lockstep.pure rfl
  | cons ha rest => exact Lockstep.pure (Chain.intercalate hsep (.cons ha rest))

theorem Lockstep.pairParts {p : Value} (hp : p.pairSafe = true) {k : Nat} :
    Lockstep d cat f k (fun k k' (a b : Value × Value) => Same k k' a b ∧ a.1.nameSafe = true ∧
        a.2.nameSafe = true) (Build.pairParts p) (Build.pairParts p) := by
  unfold Build.pairParts
  split
  · next a b hitems =>
    cases p with
    | tuple items =>
      simp only [Value.tupleItems?, Option.some.injEq] at hitems
      subst hitems
      simp only [Value.pairSafe, Bool.and_eq_true] at hp
      exact Lockstep.pure ⟨⟨rfl, rfl⟩, hp.1, hp.2⟩
    | _ => simp [Value.tupleItems?] at hitems
  · split
    · exact Lockstep.fail _ _
    · exact Lockstep.fail _ _
  · exact Lockstep.fail _ _

theorem Lockstep.countSubquery {k : Nat} :
    Lockstep d cat f k (fun k k' (_ _ : PUnit) => k' = k)
      (modify fun c : Compiler => { c with subqueries := c.subqueries + 1 })
      (modify fun c : Compiler => { c with subqueries := c.subqueries + 1 }) := by
  intro c a c' hc hrun
  cases hrun
  exact ⟨⟨hc.mark, hc.dialect, hc.catalog, rfl⟩, PUnit.unit, rfl, hc.length⟩

theorem Lockstep.lookup (hcat : cat.safe = true) (tag : String) {k : Nat} {β γ : Type}
    {R : Nat → Nat → β → γ → Prop} {g : Meta → Build β} {g' : Meta → Build γ}
    (hg : ∀ m, m.safe = true → Lockstep d cat f k R (g m) (g' m)) :
    Lockstep d cat f k R (MonadState.get >>= fun c => Build.lift (c.catalog.modelMeta tag) >>= g)
      (MonadState.get >>= fun c => Build.lift (c.catalog.modelMeta tag) >>= g') := by
  refine Lockstep.bind Lockstep.get fun k' c c' ⟨hk, hc', hc⟩ => ?_
  subst hc' hk
  simp only
  cases hm : c.catalog.modelMeta tag with
  | error e => exact Lockstep.fail_bind e e g g'
  | ok m =>
    rw [hc.catalog] at hm
    exact hg m (Catalog.safe_modelMeta hcat hm)

theorem Chain.parenthesize : ∀ {k k' : Nat} {xs ys : List String}, Chain (Text f) k k' xs ys →
    Chain (Text f) k k' (xs.map fun g => "(" ++ g ++ ")") (ys.map fun g => "(" ++ g ++ ")")
  | _, _, _, _, .nil k => .nil k
  | _, _, _, _, .cons ha rest =>
    .cons (Text.append_plain (Text.plain_append (by decide) ha) (by decide)) (Chain.parenthesize rest)

/-- 残った群を OR で繋ぐ（群が一つならその群だけ、何も残らなければ `none`）。 -/
theorem Lockstep.joinGroups {k k' : Nat} {xs ys : List (Option String)} (h : Chain (OptText f) k k' xs ys) :
    Lockstep d cat f k' (fun _ k'' => OptText f k k'')
      (match xs.filterMap id with
        | [] => Pure.pure none
        | [g] => Pure.pure (some ("(" ++ g ++ ")"))
        | gs => Pure.pure (some ("(" ++ " OR ".intercalate (gs.map fun g => "(" ++ g ++ ")") ++ ")")))
      (match ys.filterMap id with
        | [] => Pure.pure none
        | [g] => Pure.pure (some ("(" ++ g ++ ")"))
        | gs => Pure.pure (some ("(" ++ " OR ".intercalate (gs.map fun g => "(" ++ g ++ ")") ++ ")"))) := by
  have hparts := Chain.filterMap h
  generalize xs.filterMap id = as at hparts ⊢
  generalize ys.filterMap id = bs at hparts ⊢
  cases hparts with
  | nil => exact Lockstep.pure rfl
  | cons ha rest =>
    cases rest with
    | nil => exact Lockstep.pure (Text.append_plain (Text.plain_append (by decide) ha) (by decide))
    | cons hb rest' =>
      exact Lockstep.pure (Text.append_plain (Text.plain_append (by decide)
        ((Chain.parenthesize (.cons ha (.cons hb rest'))).intercalate (by decide))) (by decide))

/-! ## 燃料ごとの性質 -/

/-- 燃料 `n` の `whereClause` は、安全な条件の並びについて並べて走らせられる。 -/
def WhereOk (d : Dialect) (cat : Catalog) (f : Nat → String) (n : Nat) : Prop :=
  ∀ entries scope k, Value.entriesSafe entries = true → Scope.safe scope = true →
    Lockstep d cat f k (OptText f) (whereClause n entries scope) (whereClause n entries scope)

/-- 燃料 `n` の `entry`。 -/
def EntryOk (d : Dialect) (cat : Catalog) (f : Nat → String) (n : Nat) : Prop :=
  ∀ e scope k, Value.entrySafe e = true → Scope.safe scope = true →
    Lockstep d cat f k (OptText f) (entry n e scope) (entry n e scope)

/-- 燃料 `n` の `predicate`。 -/
def PredicateOk (d : Dialect) (cat : Catalog) (f : Nat → String) (n : Nat) : Prop :=
  ∀ p scope k, Value.entrySafe p = true → Scope.safe scope = true →
    Lockstep d cat f k (OptText f) (predicate n p scope) (predicate n p scope)

/-- 燃料 `n` の `subquery`。 -/
def SubqueryOk (d : Dialect) (cat : Catalog) (f : Nat → String) (n : Nat) : Prop :=
  ∀ m conds scope k, Meta.safe m = true → Value.entriesSafe conds = true → Scope.safe scope = true →
    Lockstep d cat f k (Text f) (subquery n m conds scope) (subquery n m conds scope)

theorem whereOk_succ {n : Nat} (h : EntryOk d cat f n) : WhereOk d cat f (n + 1) := by
  intro entries scope k hes hscope
  simp only [Build.whereClause]
  refine Lockstep.bind (Lockstep.mapM fun e he k => h e scope k (Value.entriesSafe_iff.1 hes e he) hscope)
    fun _ _ _ hparts => ?_
  exact Lockstep.joinParts (show plain " AND " = true by decide) hparts

theorem Scope.safe_subquery {scope : Scope} (hscope : scope.safe = true) (tag : String) (n : Nat) :
    Scope.safe { tag, rowName := "_sq" ++ toString n, parent := some (scope.tag, scope.rowName) } = true := by
  simp only [Scope.safe, Bool.and_eq_true] at hscope
  simp only [Scope.safe, Option.all_some, Bool.and_eq_true]
  exact ⟨plain_append_of (a := "_sq") (by decide) (by rw [Nat.toString_eq_repr]; exact plain_nat n),
    hscope.1⟩

theorem subqueryOk_succ {n : Nat} (h : WhereOk d cat f n) : SubqueryOk d cat f (n + 1) := by
  intro m conds scope k hm hconds hscope
  simp only [Build.subquery]
  refine Lockstep.bind Lockstep.countSubquery fun k₁ _ _ hk₁ => ?_
  subst hk₁
  refine Lockstep.bind Lockstep.get fun k₂ c c' ⟨hk₂, hc', hc⟩ => ?_
  subst hc' hk₂
  simp only
  have hscope' := Scope.safe_subquery hscope m.tag c.subqueries
  have hrow : plain ("_sq" ++ toString c.subqueries) = true := by
    simp only [Scope.safe, Bool.and_eq_true] at hscope'
    exact hscope'.1
  refine Lockstep.bind (Lockstep.source hm) fun k₃ src src' hsrc => ?_
  refine Lockstep.bind (h conds _ k₃ hconds hscope') fun k₄ w w' hw => ?_
  have hhead := Text.append_plain (Text.append_plain hsrc (b := " AS ") (by decide)) hrow
  cases w <;> cases w' <;> simp only [OptText] at hw
  · subst hw
    exact Lockstep.pure hhead
  · exact Lockstep.pure ((Text.append_plain hhead (b := " WHERE ") (by decide)).append hw)

theorem entryOk_succ {n : Nat} (h : PredicateOk d cat f n) : EntryOk d cat f (n + 1) := by
  intro e scope k he hscope
  simp only [Build.entry]
  split
  · exact h e scope k he hscope
  · split
    · next _ key v _ =>
      simp only [Value.entrySafe, Bool.and_eq_true] at he
      obtain ⟨hkey, hv⟩ := he
      -- 列のキーも印のない文字列のキーも、名前として書いて値の形で条件を選ぶ
      have hcondition : key.nameSafe = true → Lockstep d cat f k (OptText f)
          (do let c ← columnCondition (← name key) v scope; Pure.pure (some c))
          (do let c ← columnCondition (← name key) v scope; Pure.pure (some c)) := fun hname =>
        Lockstep.bind (Lockstep.name hname) fun _ _ _ ⟨⟨hk, hb⟩, hplain⟩ => by
          subst hk hb
          exact Lockstep.bind (Lockstep.columnCondition hplain hv hscope) fun _ _ _ hc => Lockstep.pure hc
      split
      · exact Lockstep.pure rfl
      · split
        · exact hcondition hkey
        · next s =>
          simp only [Value.keySafe] at hkey
          split
          · exact Lockstep.bind (Lockstep.fragment hkey v) fun _ _ _ hc => Lockstep.pure hc
          · next hzero =>
            apply hcondition
            simp only [Value.nameSafe, plain, hkey, Bool.true_and, beq_iff_eq]
            omega
        · exact Lockstep.fail _ _
    · exact Lockstep.fail _ _

theorem predicateOk_succ (hcat : cat.safe = true) {n : Nat} (hwhere : WhereOk d cat f n)
    (hsub : SubqueryOk d cat f n) : PredicateOk d cat f (n + 1) := by
  intro p scope k hp hscope
  simp only [Build.predicate]
  split
  · next col op v =>
    simp only [Value.entrySafe, Bool.and_eq_true] at hp
    exact Lockstep.comparison hp.1 op hp.2 hscope
  · next col lo hi =>
    simp only [Value.entrySafe] at hp
    refine Lockstep.bind (Lockstep.name hp) fun _ n n' ⟨⟨hk, hb⟩, hn⟩ => ?_
    subst hk hb
    refine Lockstep.bind (Lockstep.bindValue lo) fun _ _ _ ha => ?_
    refine Lockstep.bind (Lockstep.bindValue hi) fun _ _ _ hb => Lockstep.pure ?_
    exact ((Text.plain_append (plain_append_of hn (by decide)) ha).append_plain (by decide)).append hb
  · next cols rows =>
    simp only [Value.entrySafe] at hp
    exact Lockstep.bind (Lockstep.tupleIn hp rows) fun _ _ _ h => Lockstep.pure h
  · next groups =>
    simp only [Value.entrySafe] at hp
    refine Lockstep.bind (Lockstep.mapM fun g hg k =>
      hwhere _ scope k (Value.groupsSafe_mem hp g hg) hscope) fun _ _ _ hparts => ?_
    exact Lockstep.joinGroups hparts
  · next sql ps =>
    simp only [Value.entrySafe] at hp
    obtain ⟨s, rfl, hs⟩ := Value.settledText_iff.1 hp
    refine Lockstep.bind (Lockstep.bindFragment hs ps _) fun _ _ _ ⟨t, ha, hb, hts, hk⟩ => ?_
    subst ha hb
    exact Lockstep.pure (Text.append_plain (Text.plain_append (by decide) ⟨hts, hk, rfl⟩) (by decide))
  · next pairs conds negate =>
    simp only [Value.entrySafe, Bool.and_eq_true] at hp
    obtain ⟨hpairs, hconds⟩ := hp
    split
    · exact Lockstep.fail_bind _ _ _ _
    refine Lockstep.bind (Lockstep.mapM_same fun p hp' _ =>
      Lockstep.pairParts (List.all_eq_true.1 hpairs p hp')) fun _ split _ ⟨hk₁, hsplit, hparts⟩ => ?_
    subst hk₁ hsplit
    -- 対の相手の列の属するモデルは、印を使わずに一つに決まる
    refine Lockstep.bind (Lockstep.mapM_same (P := fun _ => True) fun t _ _ => ?_)
      fun _ tags _ ⟨hk₂, htags, _⟩ => ?_
    · split
      · exact Lockstep.pure ⟨⟨rfl, rfl⟩, trivial⟩
      · exact Lockstep.fail _ _
    subst hk₂ htags
    split
    · exact Lockstep.fail_bind _ _ _ _
    refine Lockstep.lookup hcat _ fun m hm => ?_
    refine Lockstep.bind (Lockstep.mapM_same fun x hx _ => Lockstep.name (hparts x hx).1)
      fun _ _ left ⟨hk₃, hleft, hlefts⟩ => ?_
    subst hk₃ hleft
    refine Lockstep.bind (Lockstep.names (List.all_eq_true.2 fun t ht => ?_)) fun _ _ sel ⟨hk₄, hsel, hsels⟩ => ?_
    · obtain ⟨x, hx, rfl⟩ := List.mem_map.1 ht
      exact (hparts x hx).2
    subst hk₄ hsel
    refine Lockstep.bind (hsub m _ scope _ hm (Meta.entriesSafe_filter hm hconds) hscope)
      fun _ _ _ h => Lockstep.pure ?_
    refine Text.append_plain (Text.plain_append ?_ h) (by decide)
    refine plain_append_of (plain_append_of (plain_append_of (plain_append_of ?_ (by split <;> decide))
      (by decide)) (plain_intercalate (by decide) hsels)) (by decide)
    split
    · exact hlefts _ (List.mem_singleton_self _)
    · exact plain_append_of (plain_append_of (by decide) (plain_intercalate (by decide) hlefts)) (by decide)
  · next target conds negate =>
    simp only [Value.entrySafe] at hp
    split
    · next tag =>
      refine Lockstep.lookup hcat tag fun m hm => ?_
      refine Lockstep.bind (hsub m _ scope k hm (Meta.entriesSafe_filter hm hp) hscope)
        fun _ _ _ h => Lockstep.pure ?_
      exact Text.append_plain (Text.plain_append (plain_append_of (by split <;> decide) (by decide)) h)
        (by decide)
    · exact Lockstep.fail _ _
  · exact Lockstep.fail _ _

/-- 燃料についての帰納法: 燃料が尽きればどれも同じ失敗で終わり、一段の燃料で四つの性質が次の段へ移る。 -/
theorem clauses_ok (hcat : cat.safe = true) :
    ∀ n, WhereOk d cat f n ∧ EntryOk d cat f n ∧ PredicateOk d cat f n ∧ SubqueryOk d cat f n
  | 0 => by
    refine ⟨fun _ _ _ _ _ => ?_, fun _ _ _ _ _ => ?_, fun _ _ _ _ _ => ?_, fun _ _ _ _ _ _ _ => ?_⟩ <;>
      simp only [Build.whereClause, Build.entry, Build.predicate, Build.subquery] <;> exact Lockstep.fail _ _
  | n + 1 => by
    obtain ⟨hwhere, hentry, hpred, hsub⟩ := clauses_ok hcat n
    exact ⟨whereOk_succ hentry, entryOk_succ hpred, predicateOk_succ hcat hwhere hsub, subqueryOk_succ hwhere⟩

/-- 安全な表の集まりと場所では、どの燃料でも安全な条件の並びの `WHERE` を並べて走らせられる。 -/
theorem Lockstep.whereClause (hcat : cat.safe = true) (n : Nat) {entries : List Value}
    (hes : Value.entriesSafe entries = true) {scope : Scope} (hscope : scope.safe = true) (k : Nat) :
    Lockstep d cat f k (OptText f) (whereClause n entries scope) (whereClause n entries scope) :=
  (clauses_ok hcat n).1 entries scope k hes hscope

end Build

end DataAccess
