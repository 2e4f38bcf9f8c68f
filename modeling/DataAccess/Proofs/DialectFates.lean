import Mathlib.Data.List.Forall2
import DataAccess.Proofs.InsertKeys
/-!
# 方言ごとの行き先

同じ呼び出しを二つの方言で組み立てると、両方成功するか、同じ種類の失敗で終わる（`Fates`）。
方言が違いを生むのは二か所だけ。

* 並びの値: PostgreSQL はそのまま渡し、ほかの方言は JSON の文にする。キーが JSON にできない辞書を
  含む並びでは、ほかの方言だけが `TypeError` で止まる（`Dialect.looser`）。
* 衝突したときの上書きの句: MySQL は衝突の列がなくても `ON DUPLICATE KEY UPDATE` を書くが、
  PostgreSQL と SQLite は契約違反にする。

組み立ての計算を二つの方言で並べて走らせる関係 `Build.Twin` を、計算の形ごとの規則で組み立てる。
二つの状態は方言だけが違う（`Build.Paired`）。
-/

namespace DataAccess

/-- `d₁` は並びの値をそのまま渡し、`d₂` は JSON の文にする。 -/
def Dialect.looser (d₁ d₂ : Dialect) : Bool := d₁ == .postgresql && d₂ != .postgresql

/-- 二つの方言での結果の行き先が同じ: 両方成功して結果が `R` で結ばれるか、両方同じ種類の失敗で
終わるか、`d₂` だけが並びを JSON にできずに `TypeError` で止まる。 -/
inductive Fates (d₁ d₂ : Dialect) {γ δ : Type} (R : γ → δ → Prop) : Except Fault γ → Except Fault δ → Prop
  | ok {a b} : R a b → Fates d₁ d₂ R (.ok a) (.ok b)
  | error {e₁ e₂} : e₁.kindName = e₂.kindName → Fates d₁ d₂ R (.error e₁) (.error e₂)
  | json {x e} : d₁.looser d₂ = true → e.kindName = "TypeError" → Fates d₁ d₂ R x (.error e)

/-- 結果の値が、文字列の中身のほかは同じ。 -/
def Value.Alike (a b : Value) : Prop := (∃ s t, a = .str s ∧ b = .str t) ∨ a = b

/-- 条件を訳す場所が、行の別名のほかは同じ。 -/
def Scope.Alike (s₁ s₂ : Scope) : Prop := s₁.tag = s₂.tag ∧ s₁.parent.map Prod.fst = s₂.parent.map Prod.fst

section Fates

variable {d₁ d₂ : Dialect} {γ δ : Type}

theorem Fates.same {R : γ → γ → Prop} (hR : ∀ a, R a a) : ∀ x : Except Fault γ, Fates d₁ d₂ R x x
  | .ok a => .ok (hR a)
  | .error _ => .error rfl

theorem Fates.self (x : Except Fault γ) : Fates d₁ d₂ (fun a b => a = b ∧ x = .ok a) x x := by
  cases x with
  | error e => exact .error rfl
  | ok a => exact .ok ⟨rfl, rfl⟩

theorem Fates.mono {R S : γ → δ → Prop} {x : Except Fault γ} {y : Except Fault δ} (h : Fates d₁ d₂ R x y)
    (hRS : ∀ a b, R a b → S a b) : Fates d₁ d₂ S x y := by
  cases h with
  | ok hab => exact .ok (hRS _ _ hab)
  | error hk => exact .error hk
  | json hl hk => exact .json hl hk

theorem Fates.bind {α β : Type} {R : γ → δ → Prop} {S : α → β → Prop} {x : Except Fault γ} {y : Except Fault δ}
    {f : γ → Except Fault α} {g : δ → Except Fault β} (hx : Fates d₁ d₂ R x y)
    (hf : ∀ a b, R a b → Fates d₁ d₂ S (f a) (g b)) : Fates d₁ d₂ S (x >>= f) (y >>= g) := by
  cases hx with
  | ok hab => exact hf _ _ hab
  | error hk => exact .error hk
  | json hl hk => exact .json hl hk

theorem Fates.mapM {α β : Type} {P : α → β → Prop} {R : γ → δ → Prop} {f : α → Except Fault γ}
    {g : β → Except Fault δ} (h : ∀ a b, P a b → Fates d₁ d₂ R (f a) (g b)) :
    ∀ {xs : List α} {ys : List β}, List.Forall₂ P xs ys → Fates d₁ d₂ (List.Forall₂ R) (xs.mapM f) (ys.mapM g)
  | [], [], .nil => .ok .nil
  | _ :: _, _ :: _, .cons hab rest => by
    simp only [List.mapM_cons]
    exact (h _ _ hab).bind fun _ _ hr => (Fates.mapM h rest).bind fun _ _ hrs => .ok (.cons hr hrs)

theorem Except.error_of_bind_error {ε α β : Type} {x : Except ε α} {f : α → Except ε β} {e : ε}
    (h : (x >>= f) = .error e) : x = .error e ∨ ∃ a, x = .ok a ∧ f a = .error e := by
  cases x with
  | error e' =>
    cases h
    exact .inl rfl
  | ok a => exact .inr ⟨a, rfl, h⟩

theorem Value.jsonKey_error {k : Value} {e : Fault} (h : k.jsonKey = .error e) : e.kindName = "TypeError" := by
  unfold Value.jsonKey at h
  split at h
  all_goals cases h
  rfl

/-- JSON にできないのは、辞書のキーが JSON のキーにならないときだけで、その失敗は `TypeError`。 -/
theorem Value.toJsonDoc_error (v : Value) : ∀ {e : Fault}, v.toJsonDoc = .error e → e.kindName = "TypeError" := by
  -- 値、辞書の項目、要素の並びについての同時の帰納法
  refine Value.toJsonDoc.induct (fun v => ∀ {e : Fault}, v.toJsonDoc = .error e → e.kindName = "TypeError")
    (fun kvs => ∀ {e : Fault}, Value.toJsonFields kvs = .error e → e.kindName = "TypeError")
    (fun xs => ∀ {e : Fault}, Value.toJsonDocs xs = .error e → e.kindName = "TypeError")
    ?_ ?_ ?_ ?_ ?_ ?_ ?_ ?_ ?_ ?_ ?_ ?_ ?_ v
  · intro e h
    cases h
  · intro b e h
    cases h
  · intro i e h
    cases h
  · intro x e h
    cases h
  · intro s e h
    cases h
  · intro xs ih e h
    rcases Except.error_of_bind_error h with h | ⟨_, -, h⟩
    · exact ih h
    · cases h
  · intro xs ih e h
    rcases Except.error_of_bind_error h with h | ⟨_, -, h⟩
    · exact ih h
    · cases h
  · intro kvs ih e h
    rcases Except.error_of_bind_error h with h | ⟨_, -, h⟩
    · exact ih h
    · cases h
  · intro v h₁ h₂ h₃ h₄ h₅ h₆ h₇ h₈ e h
    rw [Value.toJsonDoc.eq_9 v h₁ h₂ h₃ h₄ h₅ h₆ h₇ h₈] at h
    cases h
  · intro e h
    cases h
  · intro x xs ihx ihxs e h
    rcases Except.error_of_bind_error h with h | ⟨_, -, h⟩
    · exact ihx h
    rcases Except.error_of_bind_error h with h | ⟨_, -, h⟩
    · exact ihxs h
    · cases h
  · intro e h
    cases h
  · intro k v rest ihv ihrest e h
    rcases Except.error_of_bind_error h with h | ⟨_, -, h⟩
    · exact Value.jsonKey_error h
    rcases Except.error_of_bind_error h with h | ⟨_, -, h⟩
    · exact ihv h
    rcases Except.error_of_bind_error h with h | ⟨_, -, h⟩
    · exact ihrest h
    · cases h

theorem Value.jsonText_error {v : Value} {e : Fault} (h : v.jsonText = .error e) : e.kindName = "TypeError" := by
  rcases Except.error_of_bind_error h with h | ⟨_, -, h⟩
  · exact v.toJsonDoc_error h
  · cases h

/-- 値の渡し方の行き先: PostgreSQL が並びをそのまま渡すことのほかは同じ。 -/
theorem Dialect.adaptParam_fates (hd : d₂ = .postgresql → d₁ = .postgresql) (v : Value) :
    Fates d₁ d₂ (fun _ _ => True) (d₁.adaptParam v) (d₂.adaptParam v) := by
  -- MySQL と SQLite の渡し方は同じ
  have hother : ∀ v, Dialect.adaptParam .mysql v = Dialect.adaptParam .sqlite v := by
    intro v
    cases v <;> rfl
  -- PostgreSQL とほかの方言では、並びの値だけが違う
  have hlooser : ∀ d, d ≠ .postgresql → Fates .postgresql d (fun _ _ => True)
      (Dialect.adaptParam .postgresql v) (d.adaptParam v) := by
    intro d hd
    cases v
    case dict kvs =>
      cases d <;> exact Fates.same (fun _ => trivial) _
    case list xs =>
      cases hj : (Value.list xs).jsonText with
      | ok s =>
        cases d
        · exact absurd rfl hd
        all_goals simp only [Dialect.adaptParam, hj]; exact .ok trivial
      | error e =>
        cases d
        · exact absurd rfl hd
        all_goals
          simp only [Dialect.adaptParam, hj]
          exact .json (by decide) (Value.jsonText_error hj)
    all_goals cases d <;> exact .ok trivial
  cases d₁ <;> cases d₂
  · exact Fates.same (fun _ => trivial) _
  · exact hlooser .mysql (by decide)
  · exact hlooser .sqlite (by decide)
  · exact absurd (hd rfl) (by decide)
  · exact Fates.same (fun _ => trivial) _
  · rw [hother]
    exact Fates.same (fun _ => trivial) _
  · exact absurd (hd rfl) (by decide)
  · rw [← hother]
    exact Fates.same (fun _ => trivial) _
  · exact Fates.same (fun _ => trivial) _

theorem Fates.of_unit_eq {x : Except Fault γ} {y : Except Fault δ}
    (h : (fun _ => ()) <$> x = (fun _ => ()) <$> y) : Fates d₁ d₂ (fun _ _ => True) x y := by
  cases x <;> cases y
  · cases h
    exact .error rfl
  · cases h
  · cases h
  · exact .ok trivial

/-- `LIMIT` と `OFFSET` の確かめは方言によらない（綴りだけが違う）。 -/
theorem Dialect.limitOffset_unit (d : Dialect) (l o : Value) :
    (fun _ => ()) <$> d.limitOffset l o = (fun _ => ()) <$> Dialect.postgresql.limitOffset l o := by
  cases d
  · rfl
  all_goals
    unfold Dialect.limitOffset
    split
    · rfl
    · next ho =>
      dsimp only
      split
      · exact absurd rfl ho
      · cases nonNegative _ "offset" <;> rfl
    · rfl
    · next ho =>
      dsimp only
      split
      · exact absurd rfl ho
      · cases nonNegative _ "offset" <;> rfl
    · rfl

theorem Dialect.limitOffset_fates (l o : Value) :
    Fates d₁ d₂ (fun _ _ => True) (d₁.limitOffset l o) (d₂.limitOffset l o) :=
  Fates.of_unit_eq ((Dialect.limitOffset_unit d₁ l o).trans (Dialect.limitOffset_unit d₂ l o).symm)

/-- MySQL の上書きの句が拒むのは、無視せず、上書きする列も衝突の列もないときだけ。 -/
theorem Dialect.upsertClause_mysql_unit (conflict : List String) (updates : Option (List String)) (ignore : Bool) :
    (fun _ => ()) <$> Dialect.mysql.upsertClause conflict updates ignore =
      if !ignore && (updates.getD []).isEmpty && conflict.isEmpty then
        .error (Fault.contract "on_conflict requires at least one column" none none (some "upsert"))
      else .ok () := by
  unfold Dialect.upsertClause
  cases ignore <;> cases conflict <;> cases updates.getD [] <;> rfl

/-- PostgreSQL と SQLite の上書きの句が拒むのは、無視せず、上書きする列があって衝突の列がないときだけ。 -/
theorem Dialect.upsertClause_unit {d : Dialect} (hd : d ≠ .mysql) (conflict : List String)
    (updates : Option (List String)) (ignore : Bool) :
    (fun _ => ()) <$> d.upsertClause conflict updates ignore =
      if !ignore && !(updates.getD []).isEmpty && conflict.isEmpty then
        .error (Fault.contract "on_conflict_update requires on_conflict columns" none none (some "upsert"))
      else .ok () := by
  unfold Dialect.upsertClause
  cases d
  · cases ignore <;> cases conflict <;> cases updates.getD [] <;> rfl
  · exact absurd rfl hd
  · cases ignore <;> cases conflict <;> cases updates.getD [] <;> rfl

theorem Dialect.upsertClause_fates {d₁ d₂ : Dialect} {conflict₁ conflict₂ : List String}
    {updates₁ updates₂ : Option (List String)} {ignore : Bool} (hc : conflict₁.isEmpty = conflict₂.isEmpty)
    (hu : (updates₁.getD []).isEmpty = (updates₂.getD []).isEmpty)
    (hwants : (!conflict₁.isEmpty || ignore || !(updates₁.getD []).isEmpty) = true)
    (halike : (d₁ = .mysql ↔ d₂ = .mysql) ∨ ignore = true ∨ conflict₁.isEmpty = false ∨
      (updates₁.getD []).isEmpty = true) :
    Fates d₁ d₂ (fun _ _ => True) (d₁.upsertClause conflict₁ updates₁ ignore)
      (d₂.upsertClause conflict₂ updates₂ ignore) := by
  apply Fates.of_unit_eq
  by_cases h₁ : d₁ = .mysql <;> by_cases h₂ : d₂ = .mysql
  · subst h₁ h₂
    rw [Dialect.upsertClause_mysql_unit, Dialect.upsertClause_mysql_unit, hc, hu]
  · rw [h₁, Dialect.upsertClause_mysql_unit, Dialect.upsertClause_unit h₂, ← hc, ← hu]
    have halike' := halike.resolve_left fun h => h₂ (h.1 h₁)
    revert hwants halike'
    cases ignore <;> cases conflict₁.isEmpty <;> cases (updates₁.getD []).isEmpty <;> simp
  · rw [h₂, Dialect.upsertClause_mysql_unit, Dialect.upsertClause_unit h₁, ← hc, ← hu]
    have halike' := halike.resolve_left fun h => h₁ (h.2 h₂)
    revert hwants halike'
    cases ignore <;> cases conflict₁.isEmpty <;> cases (updates₁.getD []).isEmpty <;> simp
  · rw [Dialect.upsertClause_unit h₁, Dialect.upsertClause_unit h₂, hc, hu]

theorem List.Forall₂.isEmpty_eq {α β : Type} {P : α → β → Prop} {xs : List α} {ys : List β}
    (h : List.Forall₂ P xs ys) : xs.isEmpty = ys.isEmpty := by
  cases h <;> rfl

theorem List.isEmpty_eq_of_length_eq {α β : Type} {xs : List α} {ys : List β} (h : xs.length = ys.length) :
    xs.isEmpty = ys.isEmpty := by
  cases xs <;> cases ys <;> simp_all

theorem Option.isEmpty_getD_eq {α β : Type} {xs : Option (List α)} {ys : Option (List β)}
    (h : xs.map List.length = ys.map List.length) : (xs.getD []).isEmpty = (ys.getD []).isEmpty := by
  rcases xs with _ | xs <;> rcases ys with _ | ys <;>
    simp only [Option.map_none, Option.map_some, reduceCtorEq, Option.some.injEq] at h
  · rfl
  · exact List.isEmpty_eq_of_length_eq h

theorem List.forall₂_zipIdx {α β : Type} {P : α → β → Prop} :
    ∀ {xs : List α} {ys : List β}, List.Forall₂ P xs ys → ∀ k,
      List.Forall₂ (fun p q => P p.1 q.1) (xs.zipIdx k) (ys.zipIdx k)
  | [], [], .nil, _ => .nil
  | _ :: _, _ :: _, .cons h rest, k => .cons h (List.forall₂_zipIdx rest (k + 1))

/-- 文字列の中身のほかは同じ値の並びは、どちらも繋げるか、どちらも `TypeError` で繋げない。 -/
theorem Value.joinItems_fates {vs ws : List Value} (h : List.Forall₂ Value.Alike vs ws) (sep₁ sep₂ : String) :
    Fates d₁ d₂ (fun _ _ => True) (Value.joinItems sep₁ vs) (Value.joinItems sep₂ ws) := by
  unfold Value.joinItems
  refine (Fates.mapM (R := fun _ _ => True) (fun p q hpq => ?_) (List.forall₂_zipIdx h 0)).bind
    (S := fun _ _ => True) fun _ _ _ => .ok trivial
  obtain ⟨v, i⟩ := p
  obtain ⟨w, j⟩ := q
  rcases hpq with ⟨s, t, rfl, rfl⟩ | hvw
  · exact .ok trivial
  · dsimp only at hvw
    subst hvw
    dsimp only
    split
    · exact .ok trivial
    · exact .error rfl

theorem Value.iterate_ne_nil {v : Value} {xs : List Value} (ht : v.truthy = true) (h : v.iterate = .ok xs) :
    xs ≠ [] := by
  cases v <;> simp [Value.truthy, Value.iterate] at ht h <;> rw [← h] <;> simpa using ht

end Fates

namespace Build

/-- 方言だけが違う二つの組み立ての状態。 -/
structure Paired (d₁ d₂ : Dialect) (c₁ c₂ : Compiler) : Prop where
  left : c₁.dialect = d₁
  right : c₂.dialect = d₂
  catalog : c₂.catalog = c₁.catalog

/-- 二つの計算を、方言だけが違う状態から走らせると、行き先が同じで、成功すれば結果が `R` で結ばれ、
状態はまた方言だけが違う。 -/
def Twin (d₁ d₂ : Dialect) {α β : Type} (R : α → β → Prop) (x : Build α) (y : Build β) : Prop :=
  ∀ c₁ c₂, Paired d₁ d₂ c₁ c₂ →
    Fates d₁ d₂ (fun p q => R p.1 q.1 ∧ Paired d₁ d₂ p.2 q.2) (x.run c₁) (y.run c₂)

/-- 必ず成功し、方言と表の集まりを変えない計算。 -/
def Calm {α : Type} (x : Build α) : Prop :=
  ∀ c, ∃ a c', x.run c = .ok (a, c') ∧ c'.dialect = c.dialect ∧ c'.catalog = c.catalog

section Rules

variable {d₁ d₂ : Dialect} {α β γ δ : Type}

theorem Twin.pure {R : α → β → Prop} {a : α} {b : β} (h : R a b) : Twin d₁ d₂ R (Pure.pure a) (Pure.pure b) :=
  fun _ _ hc => .ok ⟨h, hc⟩

theorem Twin.pure_bind {S : γ → δ → Prop} {a : α} {b : β} {f : α → Build γ} {g : β → Build δ}
    (h : Twin d₁ d₂ S (f a) (g b)) : Twin d₁ d₂ S (Pure.pure a >>= f) (Pure.pure b >>= g) := by
  rw [LawfulMonad.pure_bind, LawfulMonad.pure_bind]
  exact h

theorem Twin.bind {R : α → β → Prop} {S : γ → δ → Prop} {x : Build α} {y : Build β}
    {f : α → Build γ} {g : β → Build δ} (hx : Twin d₁ d₂ R x y)
    (hf : ∀ a b, R a b → Twin d₁ d₂ S (f a) (g b)) : Twin d₁ d₂ S (x >>= f) (y >>= g) := by
  intro c₁ c₂ hc
  have h := hx c₁ c₂ hc
  rw [StateT.run_bind, StateT.run_bind]
  revert h
  generalize x.run c₁ = r₁
  generalize y.run c₂ = r₂
  intro h
  cases h with
  | ok hab => exact hf _ _ hab.1 _ _ hab.2
  | error hk => exact .error hk
  | json hl hk => exact .json hl hk

theorem Twin.mono {R S : α → β → Prop} {x : Build α} {y : Build β} (h : Twin d₁ d₂ R x y)
    (hRS : ∀ a b, R a b → S a b) : Twin d₁ d₂ S x y :=
  fun c₁ c₂ hc => (h c₁ c₂ hc).mono fun _ _ hab => ⟨hRS _ _ hab.1, hab.2⟩

theorem Twin.map {R : α → β → Prop} {S : γ → δ → Prop} {x : Build α} {y : Build β} {f : α → γ} {g : β → δ}
    (hx : Twin d₁ d₂ R x y) (hfg : ∀ a b, R a b → S (f a) (g b)) : Twin d₁ d₂ S (f <$> x) (g <$> y) := by
  rw [map_eq_pure_bind, map_eq_pure_bind]
  exact hx.bind fun a b hab => Twin.pure (hfg a b hab)

theorem Twin.fail {R : α → β → Prop} {e₁ e₂ : Fault} (h : e₁.kindName = e₂.kindName) :
    Twin d₁ d₂ R (Build.fail e₁) (Build.fail e₂) :=
  fun _ _ _ => .error h

theorem Twin.fail_same {R : α → β → Prop} (e : Fault) : Twin d₁ d₂ R (Build.fail e) (Build.fail e) :=
  Twin.fail rfl

theorem Twin.fail_bind {S : γ → δ → Prop} {e₁ e₂ : Fault} (h : e₁.kindName = e₂.kindName) (f : α → Build γ)
    (g : β → Build δ) : Twin d₁ d₂ S (Build.fail e₁ >>= f) (Build.fail e₂ >>= g) :=
  (Twin.fail (R := fun _ _ => False) h).bind fun _ _ h => h.elim

theorem Twin.lift {R : α → β → Prop} {x : Except Fault α} {y : Except Fault β} (h : Fates d₁ d₂ R x y) :
    Twin d₁ d₂ R (Build.lift x) (Build.lift y) := by
  intro c₁ c₂ hc
  cases h with
  | ok hab => exact .ok ⟨hab, hc⟩
  | error hk => exact .error hk
  | json hl hk => exact .json hl hk

theorem Twin.lift_same (x : Except Fault α) : Twin d₁ d₂ Eq (Build.lift x) (Build.lift x) :=
  Twin.lift (Fates.same (fun _ => rfl) x)

theorem Twin.get : Twin d₁ d₂ (Paired d₁ d₂) MonadState.get MonadState.get :=
  fun _ _ hc => .ok ⟨hc, hc⟩

theorem Twin.dialect : Twin d₁ d₂ (fun a b => a = d₁ ∧ b = d₂) Build.dialect Build.dialect :=
  Twin.get.bind fun _ _ hc => Twin.pure ⟨hc.left, hc.right⟩

theorem Twin.calm {x : Build α} {y : Build β} (hx : Calm x) (hy : Calm y) :
    Twin d₁ d₂ (fun _ _ => True) x y := by
  intro c₁ c₂ hc
  obtain ⟨a, c₁', h₁, hd₁, hcat₁⟩ := hx c₁
  obtain ⟨b, c₂', h₂, hd₂, hcat₂⟩ := hy c₂
  rw [h₁, h₂]
  exact .ok ⟨trivial, hd₁.trans hc.left, hd₂.trans hc.right, by rw [hcat₁, hcat₂, hc.catalog]⟩

/-- 要素ごとに対応する計算を並べると、結果は要素ごとに結ばれ、入力と同じ長さになる。 -/
theorem Twin.mapM_length {R : α → β → Prop} {f : γ → Build α} {g : γ → Build β} :
    ∀ {xs : List γ}, (∀ x ∈ xs, Twin d₁ d₂ R (f x) (g x)) →
      Twin d₁ d₂ (fun as bs => List.Forall₂ R as bs ∧ as.length = xs.length) (xs.mapM f) (xs.mapM g)
  | [], _ => by
    simp only [List.mapM_nil]
    exact Twin.pure ⟨.nil, rfl⟩
  | x :: xs, h => by
    simp only [List.mapM_cons]
    refine (h x List.mem_cons_self).bind fun a b hab => ?_
    refine (Twin.mapM_length fun y hy => h y (List.mem_cons_of_mem x hy)).bind fun as bs habs => ?_
    exact Twin.pure ⟨.cons hab habs.1, by rw [List.length_cons, List.length_cons, habs.2]⟩

theorem Twin.mapM {R : α → β → Prop} {f : γ → Build α} {g : γ → Build β} {xs : List γ}
    (h : ∀ x ∈ xs, Twin d₁ d₂ R (f x) (g x)) : Twin d₁ d₂ (List.Forall₂ R) (xs.mapM f) (xs.mapM g) :=
  (Twin.mapM_length h).mono fun _ _ h => h.1

theorem Twin.forIn {f g : γ → PUnit → Build (ForInStep PUnit)} :
    ∀ {xs : List γ}, (∀ x ∈ xs, Twin d₁ d₂ Eq (f x PUnit.unit) (g x PUnit.unit)) →
      Twin d₁ d₂ (fun _ _ => True) (forIn xs PUnit.unit f) (forIn xs PUnit.unit g)
  | [], _ => by
    simp only [List.forIn_nil]
    exact Twin.pure trivial
  | x :: xs, h => by
    simp only [List.forIn_cons]
    refine (h x List.mem_cons_self).bind fun r r' hr => ?_
    subst hr
    cases r with
    | done u => exact Twin.pure trivial
    | yield u => exact Twin.forIn fun y hy => h y (List.mem_cons_of_mem x hy)

end Rules

/-! ## 部品 -/

section Parts

variable {d₁ d₂ : Dialect} {α β γ δ : Type}

theorem Twin.bindValue (hd : d₂ = .postgresql → d₁ = .postgresql) (v : Value) :
    Twin d₁ d₂ (fun _ _ => True) (Build.bind v) (Build.bind v) := by
  unfold Build.bind
  refine Twin.dialect.bind fun _ _ ⟨ha, hb⟩ => ?_
  subst ha hb
  refine (Twin.lift (Dialect.adaptParam_fates hd v)).bind fun _ _ _ => ?_
  refine Twin.get.bind fun c₁ c₂ hc => ?_
  intro s₁ s₂ _
  exact .ok ⟨trivial, hc.left, hc.right, hc.catalog⟩

theorem calm_marked (s : String) : Calm (Build.marked s) :=
  fun _ => ⟨_, _, rfl, rfl, rfl⟩

theorem Twin.bindAll (hd : d₂ = .postgresql → d₁ = .postgresql) (ps : List Value) :
    Twin d₁ d₂ (fun _ _ => True)
      (ForIn.forIn ps PUnit.unit fun p _ => do
        let _ ← Build.bind p
        Pure.pure (ForInStep.yield PUnit.unit))
      (ForIn.forIn ps PUnit.unit fun p _ => do
        let _ ← Build.bind p
        Pure.pure (ForInStep.yield PUnit.unit)) :=
  Twin.forIn fun p _ => (Twin.bindValue hd p).bind fun _ _ _ => Twin.pure rfl

theorem Twin.bindFragment (hd : d₂ = .postgresql → d₁ = .postgresql) (sql : Value) (ps : List Value)
    (label : String) : Twin d₁ d₂ Value.Alike (Build.bindFragment sql ps label) (Build.bindFragment sql ps label) := by
  unfold Build.bindFragment
  refine (Twin.lift_same _).bind fun n _ h => ?_
  subst h
  dsimp only
  split
  · exact Twin.fail_bind rfl _ _
  -- 断片の文字列を書き、値を順に束縛する
  split
  · refine (Twin.map (S := Value.Alike) (Twin.calm (calm_marked _) (calm_marked _))
      fun a b _ => .inl ⟨a, b, rfl, rfl⟩).bind fun w w' hw => ?_
    exact (Twin.bindAll hd ps).bind fun _ _ _ => Twin.pure hw
  · refine (Twin.pure (R := Value.Alike) (.inr rfl)).bind fun w w' hw => ?_
    exact (Twin.bindAll hd ps).bind fun _ _ _ => Twin.pure hw

theorem Twin.name (v : Value) : Twin d₁ d₂ (fun _ _ => True) (Build.name v) (Build.name v) := by
  unfold Build.name
  refine Twin.dialect.bind fun _ _ _ => ?_
  split
  · exact Twin.pure trivial
  · exact Twin.pure trivial
  · exact Twin.fail_same _

theorem Twin.inList (hd : d₂ = .postgresql → d₁ = .postgresql) (col₁ col₂ : String) (values : List Value)
    (negate : Bool) : Twin d₁ d₂ (fun _ _ => True) (Build.inList col₁ values negate) (Build.inList col₂ values negate) := by
  unfold Build.inList
  split
  · exact Twin.pure trivial
  · exact (Twin.mapM fun v _ => Twin.bindValue hd v).bind fun _ _ _ => Twin.pure trivial

theorem Twin.parentColumn (col : Value) {scope₁ scope₂ : Scope} (hs : Scope.Alike scope₁ scope₂) :
    Twin d₁ d₂ (fun _ _ => True) (Build.parentColumn col scope₁) (Build.parentColumn col scope₂) := by
  unfold Build.parentColumn
  obtain ⟨-, hp⟩ := hs
  -- 外側があるかどうかと外側の標識は二つの場所で同じ
  cases h₁ : scope₁.parent with
  | none =>
    rw [h₁, Option.map_none, eq_comm, Option.map_eq_none_iff] at hp
    rw [hp]
    exact Twin.fail_same _
  | some p =>
    rw [h₁, Option.map_some, eq_comm, Option.map_eq_some_iff] at hp
    obtain ⟨⟨ptag, prow'⟩, h₂, hq⟩ := hp
    obtain ⟨ptag', prow⟩ := p
    dsimp only at hq
    subst hq
    rw [h₂]
    dsimp only
    split
    · split
      · exact Twin.fail_bind rfl _ _
      · exact (Twin.name _).bind fun _ _ _ => Twin.pure trivial
    · exact Twin.fail_same _

theorem Twin.columnCondition (hd : d₂ = .postgresql → d₁ = .postgresql) (col₁ col₂ : String) (v : Value)
    {scope₁ scope₂ : Scope} (hs : Scope.Alike scope₁ scope₂) :
    Twin d₁ d₂ (fun _ _ => True) (Build.columnCondition col₁ v scope₁) (Build.columnCondition col₂ v scope₂) := by
  unfold Build.columnCondition
  refine Twin.dialect.bind fun _ _ _ => ?_
  -- 値の形ごとの条件: 方言が変えるのは現在時刻と真偽の綴りだけ
  split
  · exact Twin.pure trivial
  · exact Twin.pure trivial
  · exact Twin.pure trivial
  · exact Twin.pure trivial
  · exact Twin.fail_same _
  · exact Twin.pure trivial
  · exact Twin.pure trivial
  · exact (Twin.bindFragment hd _ _ _).bind fun _ _ _ => Twin.pure trivial
  · exact (Twin.parentColumn _ hs).bind fun _ _ _ => Twin.pure trivial
  · exact Twin.inList hd _ _ _ _
  · exact Twin.inList hd _ _ _ _
  · split
    · exact Twin.fail_same _
    · exact (Twin.bindValue hd _).bind fun _ _ _ => Twin.pure trivial

theorem Twin.fragment (hd : d₂ = .postgresql → d₁ = .postgresql) (sql : String) (v : Value) :
    Twin d₁ d₂ (fun _ _ => True) (Build.fragment sql v) (Build.fragment sql v) := by
  unfold Build.fragment Build.fragment.failArity
  dsimp only
  split
  · refine (Twin.calm (calm_marked sql) (calm_marked sql)).bind fun _ _ _ => ?_
    exact (Twin.bindValue hd v).bind fun _ _ _ => Twin.pure trivial
  · split
    · split
      · refine (Twin.calm (calm_marked sql) (calm_marked sql)).bind fun _ _ _ => ?_
        exact (Twin.bindAll hd _).bind fun _ _ _ => Twin.pure trivial
      · exact Twin.fail_same _
    · exact Twin.fail_same _

/-- 条件の訳が、あるかないかで同じ。 -/
def SameShape (a b : Option String) : Prop := a.isSome = b.isSome

theorem Twin.comparison (hd : d₂ = .postgresql → d₁ = .postgresql) (col op v : Value) {scope₁ scope₂ : Scope}
    (hs : Scope.Alike scope₁ scope₂) :
    Twin d₁ d₂ SameShape (Build.comparison col op v scope₁) (Build.comparison col op v scope₂) := by
  unfold Build.comparison
  refine Twin.dialect.bind fun _ _ _ => ?_
  extract_lets unsupported rest₁ rest₂
  -- 演算子が決まった後の続き
  have hrest : ∀ o, Twin d₁ d₂ SameShape (rest₁ o) (rest₂ o) := by
    intro o
    dsimp -zeta only [rest₁, rest₂]
    extract_lets k₁ k₂
    have hk : ∀ u, Twin d₁ d₂ SameShape (k₁ u) (k₂ u) := by
      intro u
      dsimp -zeta only [k₁, k₂]
      refine (Twin.name col).bind fun n n' _ => ?_
      split
      · exact Twin.pure rfl
      extract_lets m₁ m₂
      -- `IN` のほかの演算子の値の形ごとの訳
      have hm : ∀ u, Twin d₁ d₂ SameShape (m₁ u) (m₂ u) := by
        intro u
        dsimp -zeta only [m₁, m₂]
        -- `NULL` と比べられるのは等しいか等しくないかだけ。失敗の文は列の綴りを含むが、種類は同じ
        have hnull : Twin d₁ d₂ SameShape
            (if (o == "=") = true then Pure.pure (some (n ++ " IS NULL"))
              else if (o == "!=" || o == "<>") = true then Pure.pure (some (n ++ " IS NOT NULL"))
              else Build.fail (Fault.contract ("cannot compare " ++ n ++ " " ++ o ++ " NULL") none (some v)))
            (if (o == "=") = true then Pure.pure (some (n' ++ " IS NULL"))
              else if (o == "!=" || o == "<>") = true then Pure.pure (some (n' ++ " IS NOT NULL"))
              else Build.fail (Fault.contract ("cannot compare " ++ n' ++ " " ++ o ++ " NULL") none (some v))) := by
          split
          · exact Twin.pure rfl
          split
          · exact Twin.pure rfl
          · exact Twin.fail rfl
        split
        · exact hnull
        · exact hnull
        split
        · refine (Twin.calm (calm_marked _) (calm_marked _)).bind fun _ _ _ => ?_
          exact (Twin.bindValue hd v).bind fun _ _ _ => Twin.pure rfl
        split
        · exact Twin.pure rfl
        · exact (Twin.parentColumn _ hs).bind fun _ _ _ => Twin.pure rfl
        · exact (Twin.bindFragment hd _ _ _).bind fun _ _ _ => Twin.pure rfl
        · exact Twin.pure rfl
        · exact (Twin.bindValue hd v).bind fun _ _ _ => Twin.pure rfl
      split
      · split
        · exact (Twin.inList hd _ _ _ _).bind fun _ _ _ => Twin.pure rfl
        · exact Twin.fail_bind rfl _ _
      · exact hm ()
    split
    · exact Twin.fail_bind rfl _ _
    · exact hk ()
  split
  · exact (Twin.pure rfl).bind fun o _ h => h ▸ hrest o
  · exact Twin.fail_bind rfl _ _
  · exact Twin.fail_bind rfl _ _

theorem Twin.tupleIn (hd : d₂ = .postgresql → d₁ = .postgresql) (cols rows : List Value) :
    Twin d₁ d₂ (fun _ _ => True) (Build.tupleIn cols rows) (Build.tupleIn cols rows) := by
  unfold Build.tupleIn
  dsimp only
  split
  · exact Twin.fail_bind rfl _ _
  refine (Twin.forIn fun r _ => ?_).bind fun _ _ _ => ?_
  · split
    · exact Twin.fail_bind rfl _ _
    · exact Twin.pure rfl
  split
  · exact Twin.pure trivial
  refine (Twin.mapM fun c _ => Twin.name c).bind fun _ _ _ => ?_
  split
  · exact Twin.inList hd _ _ _ _
  · refine (Twin.mapM (R := fun _ _ => True) fun r _ => ?_).bind fun _ _ _ => Twin.pure trivial
    exact (Twin.mapM fun v _ => Twin.bindValue hd v).bind fun _ _ _ => Twin.pure trivial

theorem Twin.value (hd : d₂ = .postgresql → d₁ = .postgresql) (v : Value) :
    Twin d₁ d₂ Value.Alike (Build.value v) (Build.value v) := by
  unfold Build.value
  refine Twin.dialect.bind fun _ _ _ => ?_
  have hstr : Twin d₁ d₂ Value.Alike (do let m ← Build.bind v; Pure.pure (Value.str m))
      (do let m ← Build.bind v; Pure.pure (Value.str m)) :=
    (Twin.bindValue hd v).bind fun a b _ => Twin.pure (.inl ⟨a, b, rfl, rfl⟩)
  split
  · exact (Twin.bindValue hd _).bind fun a b _ => Twin.pure (.inl ⟨a, b, rfl, rfl⟩)
  · exact (Twin.bindValue hd _).bind fun a b _ => Twin.pure (.inl ⟨a, b, rfl, rfl⟩)
  · exact Twin.pure (.inl ⟨_, _, rfl, rfl⟩)
  · exact Twin.fail_same _
  · exact Twin.pure (.inr rfl)
  · exact Twin.bindFragment hd _ _ _
  · exact Twin.fail_same _
  · split
    · exact Twin.fail_same _
    · exact hstr

theorem Twin.source (hd : d₂ = .postgresql → d₁ = .postgresql) (m : Meta) :
    Twin d₁ d₂ (fun _ _ => True) (Build.source m) (Build.source m) := by
  unfold Build.source
  refine Twin.dialect.bind fun _ _ _ => ?_
  split
  · exact Twin.pure trivial
  · exact (Twin.bindFragment hd _ _ _).bind fun _ _ _ => Twin.pure trivial

theorem Twin.pairParts (p : Value) : Twin d₁ d₂ Eq (Build.pairParts p) (Build.pairParts p) := by
  unfold Build.pairParts
  split
  · exact Twin.pure rfl
  · split
    · exact Twin.fail_same _
    · exact Twin.fail_same _
  · exact Twin.fail_same _

theorem SameShape.length_filterMap : ∀ {xs ys : List (Option String)}, List.Forall₂ SameShape xs ys →
    (xs.filterMap id).length = (ys.filterMap id).length
  | [], [], .nil => rfl
  | none :: _, none :: _, .cons _ rest => by simpa using SameShape.length_filterMap rest
  | some _ :: _, some _ :: _, .cons _ rest => by simpa using SameShape.length_filterMap rest
  | none :: _, some _ :: _, .cons h _ => by cases h
  | some _ :: _, none :: _, .cons h _ => by cases h

end Parts

/-! ## 必ず成功する計算 -/

section Calm

variable {α β : Type}

theorem calm_pure (a : α) : Calm (Pure.pure a : Build α) :=
  fun c => ⟨a, c, rfl, rfl, rfl⟩

theorem Calm.bind {x : Build α} {f : α → Build β} (hx : Calm x) (hf : ∀ a, Calm (f a)) : Calm (x >>= f) := by
  intro c
  obtain ⟨a, c', h₁, hd₁, hcat₁⟩ := hx c
  obtain ⟨b, c'', h₂, hd₂, hcat₂⟩ := hf a c'
  refine ⟨b, c'', ?_, hd₂.trans hd₁, hcat₂.trans hcat₁⟩
  rw [StateT.run_bind, h₁]
  exact h₂

theorem Calm.mapM {γ : Type} {f : γ → Build α} : ∀ {xs : List γ}, (∀ x ∈ xs, Calm (f x)) → Calm (xs.mapM f)
  | [], _ => by
    simp only [List.mapM_nil]
    exact calm_pure _
  | x :: xs, h => by
    simp only [List.mapM_cons]
    exact (h x List.mem_cons_self).bind fun _ =>
      (Calm.mapM fun y hy => h y (List.mem_cons_of_mem x hy)).bind fun _ => calm_pure _

theorem calm_dialect : Calm Build.dialect :=
  fun c => ⟨c.dialect, c, rfl, rfl, rfl⟩

theorem calm_name_column (c : Column) : Calm (Build.name (.column c)) :=
  calm_dialect.bind fun _ => calm_pure _

/-- `RETURNING` の句は、方言が返せるかどうかで中身が変わるが、いつでも書ける。 -/
theorem calm_returningClause (m : Meta) (wanted : Value) : Calm (Build.returningClause m wanted) := by
  unfold Build.returningClause
  refine calm_dialect.bind fun d => ?_
  split
  · exact (Calm.mapM fun c _ => calm_name_column c).bind fun _ => calm_pure _
  · exact calm_pure _

end Calm

/-! ## 燃料ごとの性質 -/

section Clauses

variable {d₁ d₂ : Dialect}

/-- 燃料 `n` の `whereClause` は、行の別名だけが違う場所で二つの方言に並べて走らせられる。 -/
def WhereTwin (d₁ d₂ : Dialect) (n : Nat) : Prop :=
  ∀ entries scope₁ scope₂, Scope.Alike scope₁ scope₂ →
    Twin d₁ d₂ SameShape (whereClause n entries scope₁) (whereClause n entries scope₂)

def EntryTwin (d₁ d₂ : Dialect) (n : Nat) : Prop :=
  ∀ e scope₁ scope₂, Scope.Alike scope₁ scope₂ →
    Twin d₁ d₂ SameShape (entry n e scope₁) (entry n e scope₂)

def PredicateTwin (d₁ d₂ : Dialect) (n : Nat) : Prop :=
  ∀ p scope₁ scope₂, Scope.Alike scope₁ scope₂ →
    Twin d₁ d₂ SameShape (predicate n p scope₁) (predicate n p scope₂)

def SubqueryTwin (d₁ d₂ : Dialect) (n : Nat) : Prop :=
  ∀ m conds scope₁ scope₂, Scope.Alike scope₁ scope₂ →
    Twin d₁ d₂ (fun _ _ => True) (subquery n m conds scope₁) (subquery n m conds scope₂)

theorem whereTwin_succ {n : Nat} (h : EntryTwin d₁ d₂ n) : WhereTwin d₁ d₂ (n + 1) := by
  intro entries scope₁ scope₂ hs
  simp only [Build.whereClause]
  refine (Twin.mapM fun e _ => h e scope₁ scope₂ hs).bind fun parts parts' hparts => ?_
  have hlen := SameShape.length_filterMap hparts
  revert hlen
  generalize parts.filterMap id = l₁
  generalize parts'.filterMap id = l₂
  intro hlen
  cases l₁ <;> cases l₂
  · exact Twin.pure rfl
  · cases hlen
  · cases hlen
  · exact Twin.pure rfl

theorem subqueryTwin_succ (hd : d₂ = .postgresql → d₁ = .postgresql) {n : Nat} (h : WhereTwin d₁ d₂ n) :
    SubqueryTwin d₁ d₂ (n + 1) := by
  intro m conds scope₁ scope₂ hs
  simp only [Build.subquery]
  -- 副問い合わせの番号は二つの方言で違いうるが、別名の綴りにしか使わない
  have hcount : Calm (modify fun c : Compiler => { c with subqueries := c.subqueries + 1 }) :=
    fun _ => ⟨_, _, rfl, rfl, rfl⟩
  refine (Twin.calm hcount hcount).bind fun _ _ _ => ?_
  refine Twin.get.bind fun _ _ _ => ?_
  refine (Twin.source hd m).bind fun _ _ _ => ?_
  refine (h conds _ _ ?_).bind fun w w' hw => ?_
  · exact ⟨rfl, by simp [hs.1]⟩
  cases w <;> cases w' <;> cases hw
  · exact Twin.pure trivial
  · exact Twin.pure trivial

theorem entryTwin_succ (hd : d₂ = .postgresql → d₁ = .postgresql) {n : Nat} (h : PredicateTwin d₁ d₂ n) :
    EntryTwin d₁ d₂ (n + 1) := by
  intro e scope₁ scope₂ hs
  simp only [Build.entry]
  split
  · exact h e scope₁ scope₂ hs
  -- 列のキーも印のない文字列のキーも、名前として書いて値の形で条件を選ぶ
  have hcondition : ∀ k v, Twin d₁ d₂ SameShape
      (do let c ← columnCondition (← name k) v scope₁; Pure.pure (some c))
      (do let c ← columnCondition (← name k) v scope₂; Pure.pure (some c)) := fun k v =>
    (Twin.name k).bind fun _ _ _ =>
      (Twin.columnCondition hd _ _ v hs).bind fun _ _ _ => Twin.pure rfl
  split
  · split
    · exact Twin.pure rfl
    · split
      · exact hcondition _ _
      · split
        · exact (Twin.fragment hd _ _).bind fun _ _ _ => Twin.pure rfl
        · exact hcondition _ _
      · exact Twin.fail_same _
  · exact Twin.fail_same _

theorem Twin.lookup {β γ : Type} (tag : String) {S : β → γ → Prop} {f : Meta → Build β} {g : Meta → Build γ}
    (h : ∀ m, Twin d₁ d₂ S (f m) (g m)) :
    Twin d₁ d₂ S (do let c ← MonadState.get; let m ← Build.lift (c.catalog.modelMeta tag); f m)
      (do let c ← MonadState.get; let m ← Build.lift (c.catalog.modelMeta tag); g m) := by
  refine Twin.get.bind fun c₁ c₂ hc => ?_
  rw [hc.catalog]
  exact (Twin.lift_same _).bind fun m _ hm => hm ▸ h m

theorem predicateTwin_succ (hd : d₂ = .postgresql → d₁ = .postgresql) {n : Nat} (hwhere : WhereTwin d₁ d₂ n)
    (hsub : SubqueryTwin d₁ d₂ n) : PredicateTwin d₁ d₂ (n + 1) := by
  intro p scope₁ scope₂ hs
  simp only [Build.predicate]
  split
  · exact Twin.comparison hd _ _ _ hs
  · refine (Twin.name _).bind fun _ _ _ => ?_
    refine (Twin.bindValue hd _).bind fun _ _ _ => ?_
    exact (Twin.bindValue hd _).bind fun _ _ _ => Twin.pure rfl
  · exact (Twin.tupleIn hd _ _).bind fun _ _ _ => Twin.pure rfl
  · refine (Twin.mapM fun g _ => hwhere _ scope₁ scope₂ hs).bind fun parts parts' hparts => ?_
    have hlen := SameShape.length_filterMap hparts
    revert hlen
    generalize parts.filterMap id = l₁
    generalize parts'.filterMap id = l₂
    intro hlen
    -- 群がない、一つ、二つ以上で訳が違う
    rcases l₁ with _ | ⟨a, _ | ⟨b, l₁⟩⟩ <;> rcases l₂ with _ | ⟨a', _ | ⟨b', l₂⟩⟩ <;> simp at hlen <;>
      exact Twin.pure rfl
  · exact (Twin.bindFragment hd _ _ _).bind fun _ _ _ => Twin.pure rfl
  · split
    · exact Twin.fail_bind rfl _ _
    refine (Twin.mapM fun q _ => Twin.pairParts q).bind fun sp sp' hsp => ?_
    rw [List.forall₂_eq_eq_eq] at hsp
    subst hsp
    -- 対の相手の列の属するモデルは、方言によらずに一つに決まる
    refine (Twin.mapM (R := Eq) fun t _ => ?_).bind fun tags tags' htags => ?_
    · split
      · exact Twin.pure rfl
      · exact Twin.fail_same _
    rw [List.forall₂_eq_eq_eq] at htags
    subst htags
    split
    · exact Twin.fail_bind rfl _ _
    refine Twin.lookup _ fun m => ?_
    refine (Twin.mapM fun x _ => Twin.name x.1).bind fun _ _ _ => ?_
    refine (Twin.mapM fun x _ => Twin.name x).bind fun _ _ _ => ?_
    exact (hsub m _ scope₁ scope₂ hs).bind fun _ _ _ => Twin.pure rfl
  · split
    · exact Twin.lookup _ fun m => (hsub m _ scope₁ scope₂ hs).bind fun _ _ _ => Twin.pure rfl
    · exact Twin.fail_same _
  · exact Twin.fail_same _

/-- 燃料についての帰納法: 燃料が尽きればどれも同じ失敗で終わり、一段の燃料で四つの性質が次の段へ移る。 -/
theorem clauses_twin (hd : d₂ = .postgresql → d₁ = .postgresql) :
    ∀ n, WhereTwin d₁ d₂ n ∧ EntryTwin d₁ d₂ n ∧ PredicateTwin d₁ d₂ n ∧ SubqueryTwin d₁ d₂ n
  | 0 => by
    refine ⟨fun _ _ _ _ => ?_, fun _ _ _ _ => ?_, fun _ _ _ _ => ?_, fun _ _ _ _ _ => ?_⟩ <;>
      simp only [Build.whereClause, Build.entry, Build.predicate, Build.subquery] <;> exact Twin.fail_same _
  | n + 1 => by
    obtain ⟨hwhere, hentry, hpred, hsub⟩ := clauses_twin hd n
    exact ⟨whereTwin_succ hentry, entryTwin_succ hd hpred, predicateTwin_succ hd hwhere hsub,
      subqueryTwin_succ hd hwhere⟩

theorem Twin.conditions (hd : d₂ = .postgresql → d₁ = .postgresql) (entries : List Value) {scope₁ scope₂ : Scope}
    (hs : Scope.Alike scope₁ scope₂) :
    Twin d₁ d₂ SameShape (conditions entries scope₁) (conditions entries scope₂) :=
  (clauses_twin hd depthLimit).1 entries scope₁ scope₂ hs

end Clauses

/-! ## 句 -/

section Statements

variable {d₁ d₂ : Dialect}

theorem Twin.items (v : Value) : Twin d₁ d₂ Eq (Build.items v) (Build.items v) :=
  Twin.lift_same _

theorem Twin.withClause (hd : d₂ = .postgresql → d₁ = .postgresql) (m : Meta) (opts : FindOptions) :
    Twin d₁ d₂ (fun _ _ => True) (Build.withClause m opts) (Build.withClause m opts) := by
  unfold Build.withClause
  refine Twin.dialect.bind fun _ _ _ => ?_
  extract_lets rest₁ rest₂
  -- 共通表式の並びが決まった後: モデルの本体を足して繋ぐ
  have hrest : ∀ cte cte', List.Forall₂ Value.Alike cte cte' → Twin d₁ d₂ (fun _ _ => True) (rest₁ cte) (rest₂ cte') := by
    intro cte cte' hcte
    dsimp -zeta only [rest₁, rest₂]
    extract_lets join₁ join₂
    have hjoin : ∀ own own', List.Forall₂ Value.Alike own own' →
        Twin d₁ d₂ (fun _ _ => True) (join₁ own) (join₂ own') := by
      intro own own' hown
      have hctes := List.rel_append hcte hown
      dsimp only [join₁, join₂]
      rw [← List.Forall₂.isEmpty_eq hctes]
      split
      · exact Twin.pure trivial
      · exact (Twin.lift (Value.joinItems_fates hctes _ _)).bind fun _ _ _ => Twin.pure trivial
    split
    · exact (Twin.bindFragment hd _ _ _).bind fun _ _ _ =>
        (Twin.pure (.cons (.inl ⟨_, _, rfl, rfl⟩) .nil)).bind hjoin
    · exact (Twin.pure .nil).bind hjoin
  split
  · refine (Twin.items _).bind fun ps _ hps => ?_
    subst hps
    exact (Twin.bindFragment hd _ ps _).bind fun a b hab => (Twin.pure (.cons hab .nil)).bind hrest
  · exact (Twin.pure .nil).bind hrest

theorem Twin.joinClause (hd : d₂ = .postgresql → d₁ = .postgresql) (opts : FindOptions) :
    Twin d₁ d₂ (fun _ _ => True) (Build.joinClause opts) (Build.joinClause opts) := by
  unfold Build.joinClause
  split
  · refine (Twin.items _).bind fun ps _ hps => ?_
    subst hps
    refine (Twin.bindFragment hd _ ps _).bind fun a b hab => ?_
    rcases hab with ⟨s, t, rfl, rfl⟩ | rfl
    · exact Twin.pure trivial
    · split
      · exact Twin.pure trivial
      · exact Twin.fail_same _
  · exact Twin.pure trivial

theorem Twin.selectList (opts : FindOptions) (table₁ table₂ : String) :
    Twin d₁ d₂ (fun _ _ => True) (Build.selectList opts table₁) (Build.selectList opts table₂) := by
  unfold Build.selectList
  split
  · exact Twin.pure trivial
  · exact Twin.pure trivial
  · refine (Twin.items _).bind fun vs _ hvs => ?_
    subst hvs
    exact (Twin.mapM fun v _ => Twin.name v).bind fun _ _ _ => Twin.pure trivial

theorem Twin.requiredWhere (hd : d₂ = .postgresql → d₁ = .postgresql) (m : Meta) (conds : Value)
    (operation : String) :
    Twin d₁ d₂ (fun _ _ => True) (Build.requiredWhere m conds operation) (Build.requiredWhere m conds operation) := by
  unfold Build.requiredWhere
  refine Twin.dialect.bind fun _ _ _ => ?_
  refine (Twin.lift_same _).bind fun entries _ h => ?_
  subst h
  refine (Twin.conditions hd entries ?_).bind fun w w' hw => ?_
  · exact ⟨rfl, rfl⟩
  cases w <;> cases w'
  · exact Twin.fail_same _
  · cases hw
  · cases hw
  · exact Twin.pure trivial

theorem Twin.returningClause (m : Meta) (wanted : Value) :
    Twin d₁ d₂ (fun _ _ => True) (Build.returningClause m wanted) (Build.returningClause m wanted) :=
  Twin.calm (calm_returningClause m wanted) (calm_returningClause m wanted)

theorem Twin.conflictUpdates (opts : InsertOptions) (columns : List Column) :
    Twin d₁ d₂ (fun a b => a.map List.length = b.map List.length ∧ (opts.onConflictUpdate = .none → a = none))
      (Statement.conflictUpdates opts columns) (Statement.conflictUpdates opts columns) := by
  unfold Statement.conflictUpdates
  split
  · exact Twin.pure ⟨rfl, fun _ => rfl⟩
  · next hall =>
    -- 衝突の列は方言によらないので、上書きする列も同じ列の名前
    have hkeep : ∀ keep : List Column, Twin d₁ d₂
        (fun a b => Option.map List.length a = Option.map List.length b ∧ (opts.onConflictUpdate = .none → a = none))
        (do let ns ← keep.mapM fun c => Build.name (.column c); Pure.pure (some ns))
        (do let ns ← keep.mapM fun c => Build.name (.column c); Pure.pure (some ns)) := fun keep =>
      (Twin.mapM fun c _ => Twin.name (.column c)).bind fun _ _ hns =>
        Twin.pure ⟨by simp [hns.length_eq], fun h => by rw [hall] at h; cases h⟩
    dsimp only
    split
    · refine (Twin.items _).bind fun conflict _ h => ?_
      subst h
      exact hkeep _
    · exact hkeep _
  · next hnone _ =>
    refine (Twin.items _).bind fun vs _ h => ?_
    subst h
    exact (Twin.mapM fun v _ => Twin.name v).bind fun _ _ hns => Twin.pure ⟨by simp [hns.length_eq], fun h => absurd h hnone⟩

theorem Twin.toStatement {b₁ b₂ : Build String} (h : Twin d₁ d₂ (fun _ _ => True) b₁ b₂) (cat : Catalog)
    (mark : Nat → String) :
    Fates d₁ d₂ (fun _ _ => True) (Build.toStatement d₁ cat mark b₁) (Build.toStatement d₂ cat mark b₂) := by
  unfold Build.toStatement
  have hrun := h { dialect := d₁, catalog := cat, mark } { dialect := d₂, catalog := cat, mark } ⟨rfl, rfl, rfl⟩
  revert hrun
  generalize StateT.run b₁ _ = r₁
  generalize StateT.run b₂ _ = r₂
  intro hrun
  cases hrun with
  | ok _ => exact .ok trivial
  | error hk => exact .error hk
  | json hl hk => exact .json hl hk

end Statements

end Build

/-- 衝突したときの上書きの句を二つの方言が同じように扱う: 同じ流儀（MySQL かどうか）か、衝突を無視するか、
衝突の列があるか、上書きする列の指定がない。 -/
def InsertOptions.UpsertsAlike (opts : InsertOptions) (d₁ d₂ : Dialect) : Prop :=
  (d₁ = .mysql ↔ d₂ = .mysql) ∨ opts.onConflictIgnore.truthy = true ∨ opts.onConflict.truthy = true ∨
    opts.onConflictUpdate = .none

/-- 上書きの句の前提に読み替える: 衝突の列を指定すれば空でなく、上書きの列を指定しなければない。 -/
theorem InsertOptions.UpsertsAlike.clause {opts : InsertOptions} {d₁ d₂ : Dialect} {conflict : List String}
    {updates : Option (List String)} (h : opts.UpsertsAlike d₁ d₂)
    (hne : opts.onConflict.truthy = true → conflict ≠ []) (hnone : opts.onConflictUpdate = .none → updates = none) :
    (d₁ = .mysql ↔ d₂ = .mysql) ∨ opts.onConflictIgnore.truthy = true ∨ conflict.isEmpty = false ∨
      (updates.getD []).isEmpty = true := by
  rcases h with h | h | h | h
  · exact .inl h
  · exact .inr (.inl h)
  · exact .inr (.inr (.inl (List.isEmpty_eq_false_iff.mpr (hne h))))
  · exact .inr (.inr (.inr (by rw [hnone h]; rfl)))

namespace Statement

variable {d₁ d₂ : Dialect}

theorem select_fates (hd : d₂ = .postgresql → d₁ = .postgresql) (cat : Catalog) (m : Meta) (conds : Value)
    (opts : FindOptions) (mark : Nat → String) :
    Fates d₁ d₂ (fun _ _ => True) (select d₁ cat m conds opts mark) (select d₂ cat m conds opts mark) := by
  unfold select
  refine Build.Twin.toStatement ?_ cat mark
  refine (Build.Twin.withClause hd m opts).bind fun _ _ _ => ?_
  refine (Build.Twin.selectList opts _ _).bind fun _ _ _ => ?_
  refine (Build.Twin.joinClause hd opts).bind fun _ _ _ => ?_
  refine (Build.Twin.lift_same _).bind fun entries _ h => ?_
  subst h
  refine (Build.Twin.conditions hd _ ?_).bind fun _ _ _ => ?_
  · exact ⟨rfl, rfl⟩
  extract_lets w₁ group order lock₁ rest₁ w₂ lock₂ rest₂
  -- 並べ方の句と `LIMIT` の句: 方言が変えるのは綴りだけ
  have hrest : ∀ g₁ g₂, Build.Twin d₁ d₂ (fun _ _ => True) (rest₁ g₁) (rest₂ g₂) := by
    intro g₁ g₂
    dsimp -zeta only [rest₁, rest₂]
    extract_lets k₁ k₂
    have hk : ∀ o₁ o₂, Build.Twin d₁ d₂ (fun _ _ => True) (k₁ o₁) (k₂ o₂) := by
      intro o₁ o₂
      dsimp -zeta only [k₁, k₂]
      exact (Build.Twin.lift (Dialect.limitOffset_fates _ _)).bind fun _ _ _ => Build.Twin.pure trivial
    split
    · refine (Build.Twin.items _).bind fun ts _ h => ?_
      subst h
      exact Build.Twin.pure_bind (hk _ _)
    · exact Build.Twin.pure_bind (hk _ _)
  split
  · refine (Build.Twin.items _).bind fun gs _ h => ?_
    subst h
    refine (Build.Twin.mapM fun g _ => Build.Twin.name g).bind fun _ _ _ => ?_
    exact Build.Twin.pure_bind (hrest _ _)
  · exact Build.Twin.pure_bind (hrest _ _)

theorem count_fates (hd : d₂ = .postgresql → d₁ = .postgresql) (cat : Catalog) (m : Meta) (conds : Value)
    (opts : FindOptions) (mark : Nat → String) :
    Fates d₁ d₂ (fun _ _ => True) (count d₁ cat m conds opts mark) (count d₂ cat m conds opts mark) := by
  unfold count
  refine Build.Twin.toStatement ?_ cat mark
  refine (Build.Twin.withClause hd m opts).bind fun _ _ _ => ?_
  refine (Build.Twin.joinClause hd opts).bind fun _ _ _ => ?_
  refine (Build.Twin.lift_same _).bind fun entries _ h => ?_
  subst h
  refine (Build.Twin.conditions hd _ ?_).bind fun _ _ _ => Build.Twin.pure trivial
  exact ⟨rfl, rfl⟩

theorem selectKeys_fates (hd : d₂ = .postgresql → d₁ = .postgresql) (cat : Catalog) (m : Meta) (conds : Value)
    (operation : String) (forUpdate : Bool) (mark : Nat → String) :
    Fates d₁ d₂ (fun _ _ => True) (selectKeys d₁ cat m conds operation forUpdate mark)
      (selectKeys d₂ cat m conds operation forUpdate mark) := by
  unfold selectKeys
  refine Build.Twin.toStatement ?_ cat mark
  refine (Build.Twin.lift_same _).bind fun pk _ h => ?_
  subst h
  refine (Build.Twin.requiredWhere hd m conds operation).bind fun _ _ _ => ?_
  exact (Build.Twin.mapM fun c _ => Build.Twin.name (.column c)).bind fun _ _ _ => Build.Twin.pure trivial

theorem update_fates (hd : d₂ = .postgresql → d₁ = .postgresql) (cat : Catalog) (m : Meta) (conds values : Value)
    (opts : WriteOptions) (mark : Nat → String) :
    Fates d₁ d₂ (fun _ _ => True) (update d₁ cat m conds values opts mark) (update d₂ cat m conds values opts mark) := by
  unfold update
  refine Build.Twin.toStatement ?_ cat mark
  refine (Build.Twin.lift_same _).bind fun _ _ _ => ?_
  refine (Build.Twin.lift_same _).bind fun row _ h => ?_
  subst h
  extract_lets table₁ rest₁ table₂ rest₂
  have hrest : ∀ u, Build.Twin d₁ d₂ (fun _ _ => True) (rest₁ u) (rest₂ u) := by
    intro u
    dsimp only [rest₁, rest₂]
    refine (Build.Twin.mapM (R := fun _ _ => True) fun p _ => ?_).bind fun _ _ _ => ?_
    · refine (Build.Twin.name (.column p.1)).bind fun _ _ _ => ?_
      exact (Build.Twin.value hd p.2).bind fun _ _ _ => Build.Twin.pure trivial
    refine (Build.Twin.requiredWhere hd m conds _).bind fun _ _ _ => ?_
    exact (Build.Twin.returningClause m _).bind fun _ _ _ => Build.Twin.pure trivial
  split
  · exact Build.Twin.fail_bind rfl _ _
  · exact hrest ()

theorem delete_fates (hd : d₂ = .postgresql → d₁ = .postgresql) (cat : Catalog) (m : Meta) (conds : Value)
    (opts : WriteOptions) (mark : Nat → String) :
    Fates d₁ d₂ (fun _ _ => True) (delete d₁ cat m conds opts mark) (delete d₂ cat m conds opts mark) := by
  unfold delete
  refine Build.Twin.toStatement ?_ cat mark
  refine (Build.Twin.lift_same _).bind fun _ _ _ => ?_
  refine (Build.Twin.requiredWhere hd m conds _).bind fun _ _ _ => ?_
  exact (Build.Twin.returningClause m _).bind fun _ _ _ => Build.Twin.pure trivial

theorem insert_fates (hd : d₂ = .postgresql → d₁ = .postgresql) (cat : Catalog) (m : Meta) (rows : List Value)
    (opts : InsertOptions) (halike : opts.UpsertsAlike d₁ d₂) (mark : Nat → String) :
    Fates d₁ d₂ (fun _ _ => True) (insert d₁ cat m rows opts mark) (insert d₂ cat m rows opts mark) := by
  unfold insert
  refine Build.Twin.toStatement ?_ cat mark
  refine (Build.Twin.lift_same _).bind fun _ _ _ => ?_
  extract_lets table₁ ignore verb₁ rest₁ table₂ verb₂ rest₂
  have hrest : ∀ u, Build.Twin d₁ d₂ (fun _ _ => True) (rest₁ u) (rest₂ u) := by
    intro u
    dsimp -zeta only [rest₁, rest₂]
    refine (Build.Twin.mapM fun r _ => Build.Twin.lift_same _).bind fun normalized _ h => ?_
    rw [List.forall₂_eq_eq_eq] at h
    subst h
    extract_lets columns body₁ body₂
    have hbody : ∀ s₁ s₂, Build.Twin d₁ d₂ (fun _ _ => True) (body₁ s₁) (body₂ s₂) := by
      intro s₁ s₂
      dsimp -zeta only [body₁, body₂]
      extract_lets fin₁ next₁ fin₂ next₂
      have hfin : ∀ c₁ c₂, Build.Twin d₁ d₂ (fun _ _ => True) (fin₁ c₁) (fin₂ c₂) := by
        intro c₁ c₂
        dsimp only [fin₁, fin₂]
        exact (Build.Twin.returningClause m _).bind fun _ _ _ => Build.Twin.pure trivial
      have hnext : ∀ cf₁ cf₂ : List String, cf₁.length = cf₂.length → (opts.onConflict.truthy = true → cf₁ ≠ []) →
          Build.Twin d₁ d₂ (fun _ _ => True) (next₁ cf₁) (next₂ cf₂) := by
        intro cf₁ cf₂ hlen hne
        dsimp -zeta only [next₁, next₂]
        refine (Build.Twin.conflictUpdates opts columns).bind fun up₁ up₂ ⟨hup, hnone⟩ => ?_
        dsimp only
        -- 衝突の列が空かどうかも上書きの列の有無も両方で同じなので、句を書くかどうかも同じ
        have hc : cf₁.isEmpty = cf₂.isEmpty := List.isEmpty_eq_of_length_eq hlen
        have hu : (up₁.getD []).isEmpty = (up₂.getD []).isEmpty := Option.isEmpty_getD_eq hup
        rw [← hc, ← hu]
        split
        · next hw =>
          have hupsert := Dialect.upsertClause_fates hc hu hw (halike.clause hne hnone)
          exact (Build.Twin.lift hupsert).bind fun _ _ _ => hfin _ _
        · exact Build.Twin.pure_bind (hfin _ _)
      split
      · next ht =>
        unfold Build.items
        refine (Build.Twin.lift (Fates.self _)).bind fun xs ys ⟨hxy, hxs⟩ => ?_
        subst hxy
        refine (Build.Twin.mapM_length fun x _ => Build.Twin.name x).bind fun cf₁ cf₂ ⟨hcf, hlen⟩ => ?_
        -- 衝突の列を指定したときに並びが空でないことは、前提 UpsertsAlike を句の形に読み替えるのに要る
        refine hnext cf₁ cf₂ hcf.length_eq fun _ => ?_
        exact List.ne_nil_of_length_pos (hlen ▸ List.length_pos_of_ne_nil (Value.iterate_ne_nil ht hxs))
      · next hf =>
        exact Build.Twin.pure_bind (hnext [] [] rfl fun ht => absurd ht hf)
    split
    · split
      · exact Build.Twin.fail_bind rfl _ _
      · exact Build.Twin.pure_bind (hbody _ _)
    · refine (Build.Twin.mapM fun c _ => Build.Twin.name (.column c)).bind fun _ _ _ => ?_
      refine (Build.Twin.mapM (R := fun _ _ => True) fun row _ => ?_).bind fun _ _ _ => ?_
      · refine (Build.Twin.mapM fun c _ => Build.Twin.value hd _).bind fun vs ws hvw => ?_
        exact (Build.Twin.lift (Value.joinItems_fates hvw _ _)).bind fun _ _ _ => Build.Twin.pure trivial
      · exact Build.Twin.pure_bind (hbody _ _)
  split
  · exact Build.Twin.fail_bind rfl _ _
  · exact hrest ()

/-- 六つの呼び出しが、方言 `d₁` と `d₂` で同じ行き先になる。挿入は上書きの扱いが二つの方言で
同じになる選択肢に限る。 -/
structure RefusesAlike (d₁ d₂ : Dialect) (cat : Catalog) (m : Meta) (mark : Nat → String) : Prop where
  select : ∀ conds opts,
    Fates d₁ d₂ (fun _ _ => True) (select d₁ cat m conds opts mark) (select d₂ cat m conds opts mark)
  count : ∀ conds opts,
    Fates d₁ d₂ (fun _ _ => True) (count d₁ cat m conds opts mark) (count d₂ cat m conds opts mark)
  selectKeys : ∀ conds operation forUpdate,
    Fates d₁ d₂ (fun _ _ => True) (selectKeys d₁ cat m conds operation forUpdate mark)
      (selectKeys d₂ cat m conds operation forUpdate mark)
  update : ∀ conds values opts,
    Fates d₁ d₂ (fun _ _ => True) (update d₁ cat m conds values opts mark) (update d₂ cat m conds values opts mark)
  delete : ∀ conds opts,
    Fates d₁ d₂ (fun _ _ => True) (delete d₁ cat m conds opts mark) (delete d₂ cat m conds opts mark)
  insert : ∀ rows opts, opts.UpsertsAlike d₁ d₂ →
    Fates d₁ d₂ (fun _ _ => True) (insert d₁ cat m rows opts mark) (insert d₂ cat m rows opts mark)

/-- 方言を取り替えても、成功と失敗の種類は変わらない。ただし PostgreSQL から他の方言に移ると、
並びの値を JSON の文字列にして束縛するので、キーを JSON にできない辞書を含む並びで `TypeError` になる
ことがある。 -/
theorem dialects_refuse_alike (hd : d₂ = .postgresql → d₁ = .postgresql) (cat : Catalog) (m : Meta)
    (mark : Nat → String) : RefusesAlike d₁ d₂ cat m mark where
  select conds opts := select_fates hd cat m conds opts mark
  count conds opts := count_fates hd cat m conds opts mark
  selectKeys conds operation forUpdate := selectKeys_fates hd cat m conds operation forUpdate mark
  update conds values opts := update_fates hd cat m conds values opts mark
  delete conds opts := delete_fates hd cat m conds opts mark
  insert rows opts halike := insert_fates hd cat m rows opts halike mark

theorem postgresql_mysql_refuse_alike :
    (Dialect.mysql = .postgresql → Dialect.postgresql = .postgresql) ∧
      RefusesAlike .postgresql .mysql {} Session.accountMeta (fun _ => "?") :=
  ⟨fun _ => rfl, dialects_refuse_alike (fun _ => rfl) {} Session.accountMeta (fun _ => "?")⟩

/-- 名前だけを与える一行。 -/
def namedAccount : List Value := [.list [.tuple [.str "name", .str "a"]]]

/-- 衝突の列を与えずに名前を上書きする選択肢。 -/
def nameUpsert : InsertOptions := { onConflictUpdate := .list [.str "name"] }

/-- 衝突の列なしの上書きは、MySQL では重複したキーの更新になり、ほかの方言では契約違反。 -/
theorem insert_upsert_without_target :
    (insert .mysql {} Session.accountMeta namedAccount nameUpsert).toOption.map Statement.sql =
        some "INSERT INTO accounts (name) VALUES (?) ON DUPLICATE KEY UPDATE name = VALUES(name)" ∧
      ∀ d, d ≠ .mysql → insert d {} Session.accountMeta namedAccount nameUpsert =
        .error (Fault.contract "on_conflict_update requires on_conflict columns" none none (some "upsert")) := by
  refine ⟨by decide +kernel, fun d hd => ?_⟩
  cases d with
  | postgresql => rfl
  | mysql => exact absurd rfl hd
  | sqlite => rfl

end Statement

end DataAccess
