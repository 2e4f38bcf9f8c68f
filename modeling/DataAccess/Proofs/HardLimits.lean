import DataAccess.Proofs.RelationCache
/-!
# 検索の件数の上限

呼び出しに `LIMIT` のない検索と、多対の関連の組の読み込みは、実際の上限 `L` より一つ多く
（`LIMIT L+1`）読み、読んだ件数が `L` を越えれば上限超過を投げる。実際の上限は

* 検索ならモデルの上限、なければ設定の上限。
* 多対の関連なら関連の整数の上限（偽なら上限なし）、なければ持ち主のモデルの上限、それもなければ
  設定の上限。

ここでは、上限の確かめを純粋な答え `Value.capped` として書き、検索と組の検索が「文を組み立てて読む
計算（`selectRows`）の後に `capped`」と同じに走ることを示す。呼び出しの `LIMIT`、一件の検索、
一対の関連では上限を見ない。関連の読み込みが失敗すれば覚えは変わらず、次に待てばまた読み込む。
-/

namespace DataAccess

/-- 上限 `L` で確かめた検索の答え: 読んだものの件数が `L` 以下ならそのまま、越えれば、上限、件数、
場所を載せた上限超過。 -/
def Value.capped (found : Value) (L : Int) (origin : LimitOrigin) (modelName relationName : Value) :
    Except Fault Value := do
  let n ← found.size
  if (n : Int) ≤ L then pure found else throw (Fault.limitExceeded (.int L) (.int n) origin modelName relationName)

theorem Value.capped_eq_ok {found : Value} {L : Int} {origin : LimitOrigin} {modelName relationName : Value}
    {n : Nat} (hn : found.size = .ok n) :
    found.capped L origin modelName relationName =
      if (n : Int) ≤ L then .ok found else .error (Fault.limitExceeded (.int L) (.int n) origin modelName relationName) := by
  simp only [Value.capped, hn]
  rfl

theorem Value.add_int (a b : Int) : Value.add (.int a) (.int b) = .ok (.int (a + b)) := by
  simp [Value.add, intLike?]

/-! ## 失敗したときに保つ枠 -/

namespace Frame

variable {α β : Type} {F : Frame}

/-- 計算が失敗すれば、始めの状態と `F` で結ばれる状態で終わる。 -/
def HoldsOnError (F : Frame) (x : Run α) : Prop := ∀ s e t, x.exec s = (.error e, t) → F.rel s t

theorem Holds.onError {x : Run α} (h : F.Holds x) : F.HoldsOnError x := fun s _ t hx => by
  have hs := h s
  rw [hx] at hs
  exact hs

/-- いつも枠を保つ計算の後に、失敗すれば枠を保つ続きを付けた計算は、失敗すれば枠を保つ。 -/
theorem HoldsOnError.bind {x : Run α} {f : α → Run β} (hx : F.Holds x) (hf : ∀ a, F.HoldsOnError (f a)) :
    F.HoldsOnError (x >>= f) := fun s e t h => by
  have hs := hx s
  rcases hxs : x.exec s with ⟨r, s'⟩
  rw [hxs] at hs
  cases r with
  | ok a =>
    rw [Run.exec_bind_ok hxs] at h
    exact F.trans hs (hf a s' e t h)
  | error e' =>
    rw [Run.exec_bind_error hxs] at h
    cases h
    exact hs

theorem HoldsOnError.bind_ok {x : Run α} {f : α → Run β} (hx : F.HoldsOnError x)
    (hf : ∀ a s, ∃ b t, (f a).exec s = (.ok b, t)) : F.HoldsOnError (x >>= f) := fun s e t h => by
  rcases hxs : x.exec s with ⟨r, s'⟩
  cases r with
  | ok a =>
    obtain ⟨b, t', hb⟩ := hf a s'
    rw [Run.exec_bind_ok hxs, hb] at h
    cases h
  | error e' =>
    rw [Run.exec_bind_error hxs] at h
    cases h
    exact hx s _ _ hxs

end Frame

namespace Session

open Run DataAccess.Frame

@[simp] theorem lift_ok {α : Type} (a : α) : lift (.ok a : Except Fault α) = pure a := rfl

theorem lengthOf_eq_lift_size (v : Value) : lengthOf v = lift v.size := by
  cases v <;> rfl

theorem exec_metaOf {s : Session} {cls : String} {m : Meta} (h : s.catalog.metaOf cls = .ok m) :
    (metaOf cls).exec s = (.ok m, s) := by
  unfold metaOf
  rw [exec_bind_ok (exec_get s), exec_lift, h]

theorem exec_requireBound_of_bound {s : Session} (h : s.bound = true) (cls : String) :
    (requireBound cls).exec s = (.ok (), s) := by
  unfold requireBound
  rw [exec_bind_ok (exec_get s)]
  simp [h]

theorem exec_requireBound_of_unbound {s : Session} (h : s.bound = false) (cls : String) :
    (requireBound cls).exec s =
      (.error (Fault.unbound cls), s) := by
  unfold requireBound
  rw [exec_bind_ok (exec_get s)]
  simp [h]

theorem exec_bind_congr {α β : Type} {x y : Run α} {s : Session} (h : x.exec s = y.exec s) (f : α → Run β) :
    (x >>= f).exec s = (y >>= f).exec s := by
  rw [exec_bind, exec_bind, h]

theorem exec_bind_congr_right {α β : Type} (x : Run α) {f g : α → Run β} {s : Session}
    (h : ∀ a t, x.exec s = (.ok a, t) → (f a).exec t = (g a).exec t) : (x >>= f).exec s = (x >>= g).exec s := by
  rw [exec_bind, exec_bind]
  rcases hx : x.exec s with ⟨r, t⟩
  cases r with
  | ok a => exact h a t hx
  | error e => rfl

/-- 整数の上限の確かめは、件数を数えて `capped` と同じに答える。場所のモデルの名前を求める計算は、
その状態で値を返せばよい。 -/
theorem exec_checkHardLimit_bind {β : Type} (L : Int) (found : Value) (origin : LimitOrigin)
    {modelName : Run Value} {name : Value} (relationName : Value) (k : Value → Run β) {t : Session}
    (hname : modelName.exec t = (.ok name, t)) :
    (checkHardLimit (.int L) found origin modelName relationName >>= fun _ => k found).exec t =
      (lift (found.capped L origin name relationName) >>= k).exec t := by
  unfold checkHardLimit
  rw [lengthOf_eq_lift_size]
  cases hsize : found.size with
  | error e =>
    simp only [Value.capped, hsize]
    rfl
  | ok n =>
    rw [Value.capped_eq_ok hsize]
    simp only [lift, pure_bind, Value.greater_int]
    by_cases hle : (n : Int) ≤ L
    · rw [if_pos hle, decide_eq_false (Int.not_lt.2 hle)]
      rfl
    · rw [if_neg hle, decide_eq_true (Int.lt_of_not_ge hle)]
      simp only [ite_true]
      rw [bind_assoc, exec_bind_ok hname]
      rfl

/-! ## 検索 -/

theorem exec_selectRows_unbound {s : Session} (hb : s.bound = false) (cls : String) (m : Meta) (conds : Value)
    (opts : FindOptions) : (selectRows cls m conds opts).exec s = (.error (Fault.unbound cls), s) :=
  exec_bind_error (exec_requireBound_of_unbound hb cls) _

/-- 検索の上限は状態を変えずに読め、読めないのは、モデルに上限がなく設定を読む前に結び付けがない
ときだけ。 -/
theorem exec_findLimitOf_cases (s : Session) (cls : String) (m : Meta) :
    (∃ v, (findLimitOf cls m).exec s = (.ok v, s)) ∨
      s.bound = false ∧ (findLimitOf cls m).exec s = (.error (Fault.unbound cls), s) := by
  unfold findLimitOf
  split
  · cases hb : s.bound
    · exact .inr ⟨rfl, exec_bind_error (exec_requireBound_of_unbound hb cls) _⟩
    · rw [exec_bind_ok (exec_requireBound_of_bound hb cls), exec_bind_ok (exec_get s)]
      exact .inl ⟨_, rfl⟩
  · exact .inl ⟨_, rfl⟩

theorem findLimitOf_int {s t : Session} {cls : String} {m : Meta} {L : Int} {v : Value}
    (hL : m.findHardLimit = .int L ∨ m.findHardLimit = .none ∧ s.settings.findHardLimit = some L)
    (hv : (findLimitOf cls m).exec s = (.ok v, t)) : v = .int L := by
  unfold findLimitOf at hv
  rcases hL with hfl | ⟨hfl, hset⟩
  · rw [hfl] at hv
    cases hv
    rfl
  · rw [hfl] at hv
    cases hb : s.bound
    · rw [exec_bind_error (exec_requireBound_of_unbound hb cls)] at hv
      cases hv
    · rw [exec_bind_ok (exec_requireBound_of_bound hb cls), exec_bind_ok (exec_get s), hset] at hv
      cases hv
      rfl

@[simp] theorem checksLimit_int (L : Int) : checksLimit (.int L) .none = true := rfl

theorem checksLimit_of_ne {limit callerLimit : Value} (h : callerLimit ≠ .none) :
    checksLimit limit callerLimit = false := by
  unfold checksLimit
  split
  · rfl
  · exact absurd rfl h
  · rfl

/-- 呼び出しに `LIMIT` のない検索は、実際の上限 `L`（モデルの上限、なければ設定の上限）より一つ多く
読み、読んだものを `capped` で確かめる。 -/
theorem exec_findRows_capped {s : Session} {cls : String} {m : Meta} {L : Int} (opts : FindOptions) (conds : Value)
    (hm : s.catalog.metaOf cls = .ok m)
    (hL : m.findHardLimit = .int L ∨ m.findHardLimit = .none ∧ s.settings.findHardLimit = some L)
    (hopts : opts.limit = .none) :
    (findRows cls opts conds).exec s =
      (selectRows cls m conds { opts with limit := .int (L + 1) } >>= fun found =>
        lift (found.capped L .find (.str m.name) .none)).exec s := by
  unfold findRows
  rw [exec_bind_ok (exec_metaOf hm)]
  rcases exec_findLimitOf_cases s cls m with ⟨v, hv⟩ | ⟨hb, hfail⟩
  · obtain rfl := findLimitOf_int hL hv
    rw [exec_bind_ok hv]
    simp only [hopts, checksLimit_int, ite_true, Value.add_int, lift_ok, pure_bind]
    -- 読んだ後の確かめは、読んだものを `capped` で確かめるのと同じ
    refine exec_bind_congr_right _ fun found t _ => ?_
    rw [exec_checkHardLimit_bind L found .find .none pure (exec_pure _ t), bind_pure]
  · rw [exec_bind_error hfail, exec_bind_error (exec_selectRows_unbound hb _ _ _ _)]

/-- 呼び出しが `LIMIT` を与えれば、上限を見ずに、その `LIMIT` のまま読む。 -/
theorem exec_findRows_of_limit {s : Session} {cls : String} {m : Meta} (opts : FindOptions) (conds : Value)
    (hm : s.catalog.metaOf cls = .ok m) (hopts : opts.limit ≠ .none) :
    (findRows cls opts conds).exec s = (selectRows cls m conds opts).exec s := by
  unfold findRows
  rw [exec_bind_ok (exec_metaOf hm)]
  rcases exec_findLimitOf_cases s cls m with ⟨v, hv⟩ | ⟨hb, hfail⟩
  · rw [exec_bind_ok hv]
    simp only [checksLimit_of_ne hopts, Bool.false_eq_true, ite_false, pure_bind, bind_pure]
  · rw [exec_bind_error hfail, exec_selectRows_unbound hb]

/-- 一件の検索は、`LIMIT 1` を与えた検索の最初の一件。したがって上限を見ない。 -/
theorem exec_findFirst {s : Session} {cls : String} {m : Meta} (opts : FindOptions) (conds : Value)
    (hm : s.catalog.metaOf cls = .ok m) :
    (findFirst cls opts conds).exec s = (findRows cls { opts with limit := .int 1 } conds >>= firstOf).exec s := by
  rw [exec_bind_congr (exec_findRows_of_limit _ conds hm (by simp))]
  unfold findFirst
  cases hb : s.bound
  · rw [exec_bind_error (exec_requireBound_of_unbound hb cls), exec_bind_error (exec_selectRows_unbound hb _ _ _ _)]
  · rw [exec_bind_ok (exec_requireBound_of_bound hb cls), exec_bind_ok (exec_metaOf hm)]

/-! ## 多対の関連の組の検索 -/

/-- 多対の関連の上限は、関連の整数の上限、なければ持ち主のモデルの上限、それもなければ設定の上限。 -/
theorem exec_hardLimitOf_int {s : Session} {rel : Relation} {om : Meta} {L : Int} (hkind : rel.kind = .hasMany)
    (howner : s.catalog.metaOf rel.owner = .ok om) (hb : s.bound = true)
    (hL : rel.hardLimit = .int L ∨ rel.hardLimit = .none ∧
      (om.hasManyHardLimit = .int L ∨ om.hasManyHardLimit = .none ∧ s.settings.hasManyHardLimit = some L)) :
    (hardLimitOf rel).exec s = (.ok (.int L), s) := by
  unfold hardLimitOf
  rw [hkind]
  rcases hL with hrel | ⟨hrel, hown | ⟨hown, hset⟩⟩
  · rw [hrel]
    rfl
  · rw [hrel]
    show (metaOf rel.owner >>= _).exec s = _
    rw [exec_bind_ok (exec_metaOf howner), hown]
    rfl
  · rw [hrel]
    show (metaOf rel.owner >>= _).exec s = _
    rw [exec_bind_ok (exec_metaOf howner), hown]
    show (requireBound rel.owner >>= _).exec s = _
    rw [exec_bind_ok (exec_requireBound_of_bound hb _), exec_bind_ok (exec_get s), hset]
    rfl

theorem exec_hardLimitOf_none {s : Session} {rel : Relation} (h : rel.kind ≠ .hasMany ∨ rel.hardLimit = .bool false) :
    (hardLimitOf rel).exec s = (.ok .none, s) := by
  unfold hardLimitOf
  rcases h with hkind | hoff
  · cases hk : rel.kind
    · exact absurd hk hkind
    · rfl
    · rfl
  · cases hk : rel.kind
    · rw [hoff]
      rfl
    · rfl
    · rfl

theorem catalog_of_selectRows {s t : Session} {cls : String} {m : Meta} {conds : Value} {opts : FindOptions}
    {r : Except Fault Value} (h : (selectRows cls m conds opts).exec s = (r, t)) : t.catalog = s.catalog := by
  have hkept := (effect_selectRows cls m conds opts).holds s
  rw [h] at hkept
  exact hkept.1.catalog

/-- 上限 `L` の多対の関連の組の検索は、一つ多く読み、読んだものを持ち主のモデルと関連の名前で
`capped` で確かめてから、行をキーで分ける。 -/
theorem exec_queryGroups_capped {s : Session} {owner : String} {rel : Relation} {keys : List Value}
    {target om : Meta} {L : Int} (htarget : s.catalog.metaOf rel.target = .ok target)
    (howner : s.catalog.metaOf owner = .ok om) (hlimit : (hardLimitOf rel).exec s = (.ok (.int L), s)) :
    (queryGroups owner rel keys).exec s =
      (selectRows rel.target target (.list (batchCondition rel keys :: rel.filter))
          (batchOptions rel target (.int (L + 1))) >>= fun found =>
        lift (found.capped L .relation (.str om.name) (.str rel.name)) >>= groupRows rel).exec s := by
  unfold queryGroups
  rw [exec_bind_ok (exec_metaOf htarget), exec_bind_ok hlimit]
  simp only [Value.add_int, lift_ok, pure_bind]
  refine exec_bind_congr_right _ fun found t hrun => ?_
  -- 読んでも目録は変わらないので、確かめるときに持ち主のモデルの名前が読める
  have hname : (do pure (Value.str (← metaOf owner).name) : Run Value).exec t = (.ok (.str om.name), t) := by
    rw [exec_bind_ok (exec_metaOf ((catalog_of_selectRows hrun).symm ▸ howner))]
    rfl
  exact exec_checkHardLimit_bind L found .relation (.str rel.name) (groupRows rel) hname

/-- 上限のない関連の組の検索は、件数を限らずに読み、確かめずに行をキーで分ける。 -/
theorem exec_queryGroups_uncapped {s : Session} {owner : String} {rel : Relation} {keys : List Value}
    {target : Meta} (htarget : s.catalog.metaOf rel.target = .ok target)
    (hlimit : (hardLimitOf rel).exec s = (.ok .none, s)) :
    (queryGroups owner rel keys).exec s =
      (selectRows rel.target target (.list (batchCondition rel keys :: rel.filter)) (batchOptions rel target .none)
        >>= groupRows rel).exec s := by
  unfold queryGroups
  rw [exec_bind_ok (exec_metaOf htarget), exec_bind_ok hlimit]
  rfl

/-! ## 失敗した関連の読み込み -/

theorem exec_assignGroups_ok (records : List Value) (rel : Relation) (groups : List (Value × List Value))
    (s : Session) : ∃ t, (assignGroups records rel groups).exec s = (.ok (), t) := by
  unfold assignGroups
  refine (@exec_forIn_remember rel.name _ ?_ records s).elim fun t ht => ⟨t, exec_bind_ok ht.1 _⟩
  exact fun _ _ => ⟨_, rfl⟩

/-- 関連の読み込みが失敗すれば、覚えも目録もそれまでのレコードの組も変わらない: 覚えさせる繰り返しは
失敗せず、その前の検索までは覚えに触れない。 -/
theorem loads_loadBatch_onError (records : List Value) (owner : String) (decl : RelationDecl) :
    Frame.loads.HoldsOnError (loadBatch records owner decl) := by
  unfold loadBatch
  refine Frame.HoldsOnError.bind holds_get fun _ => Frame.HoldsOnError.bind (holds_lift _) fun rel =>
    Frame.HoldsOnError.bind (same_batchKeys records rel.locals).of_same fun keys => ?_
  -- 覚えさせる繰り返しは失敗しないので、失敗するのはその前の検索まで
  have hassign : ∀ groups s, ∃ b t, (assignGroups records rel groups).exec s = (.ok b, t) :=
    fun groups s => ⟨(), exec_assignGroups_ok records rel groups s⟩
  dsimp only
  split
  · exact (holds_pure _).onError.bind_ok hassign
  · exact (effect_queryGroups owner rel keys).holds.onError.bind_ok hassign

/-- 関連を待って失敗すれば、覚えも目録もそれまでのレコードの組も変わらない。覚えていれば待つことは
失敗せず、覚えていなければ、組を作ってから読み込み、読み込みの後に覚えを読むことは失敗しない。 -/
theorem loads_awaitAttribute_onError (r : Value) (p : String) : Frame.loads.HoldsOnError (awaitAttribute r p) := by
  intro s e t h
  by_cases hattr : ∃ owner decl, s.catalog.attr? (recordClass r) p = some (.relation owner decl)
  · obtain ⟨owner, decl, hattr⟩ := hattr
    cases hc : s.cachedAt (recordId r) p with
    | some v =>
      rw [exec_awaitAttribute_cached hattr hc] at h
      cases h
    | none =>
      rw [exec_awaitAttribute_miss hattr hc] at h
      have hread : ∀ (u : Unit) (t : Session), ∃ v t', (cachedRelations r >>= fun rels =>
          (pure ((assocGet? rels p).getD .none) : Run Value)).exec t = (.ok v, t') :=
        fun _ t => ⟨_, _, exec_bind_ok (exec_cachedRelations r t) _⟩
      -- 組を作っても覚えは変わらない
      have hstart : Frame.loads.rel s (s.awaitStart r) := by
        refine ⟨extends_awaitStart s r, ?_⟩
        obtain ⟨bo, bs, nb, heq⟩ := awaitStart_footprint s r
        rw [heq]
        rfl
      exact Frame.loads.trans hstart ((loads_loadBatch_onError _ owner decl).bind_ok hread _ _ _ h)
  · obtain ⟨e', he⟩ := exec_awaitAttribute_other fun owner decl hc => hattr ⟨owner, decl, hc⟩
    rw [he] at h
    cases h
    exact Frame.loads.refl s

/-- 関連を待って失敗すれば、覚えていなかったその関連はまだ覚えておらず、次に待てば、組の覚えて
いないレコードをまた読み込む。 -/
theorem await_error_reloads {s t : Session} {r : Value} {p owner : String} {decl : RelationDecl} {e : Fault}
    (hattr : s.catalog.attr? (recordClass r) p = some (.relation owner decl))
    (h : (awaitAttribute r p).exec s = (.error e, t)) :
    t.cache = s.cache ∧ t.cachedAt (recordId r) p = none ∧
      (awaitAttribute r p).exec t =
        (loadBatch (t.pendingOf (t.awaitBatch r) p) owner decl >>= fun _ =>
          cachedRelations r >>= fun rels => pure ((assocGet? rels p).getD .none)).exec (t.awaitStart r) := by
  have hkeep := loads_awaitAttribute_onError r p s e t h
  have hcache : t.cache = s.cache := hkeep.2
  -- 覚えていれば失敗しないので、覚えていなかった
  have hmiss : t.cachedAt (recordId r) p = none := by
    cases hc : s.cachedAt (recordId r) p with
    | some v =>
      rw [exec_awaitAttribute_cached hattr hc] at h
      cases h
    | none =>
      unfold cachedAt
      rw [hcache]
      exact hc
  have hattr' : t.catalog.attr? (recordClass r) p = some (.relation owner decl) := by
    rw [hkeep.1.catalog]
    exact hattr
  exact ⟨hcache, hmiss, exec_awaitAttribute_miss hattr' hmiss⟩

/-! ## 上限の法則 -/

/-- 件数の上限の法則。

* 呼び出しに `LIMIT` のない検索は、モデルの上限、なければ設定の上限を `L` として、`LIMIT L+1` で読み、
  読んだものを検索の場所とモデルの名前で `capped L` で確かめる。
* 多対の関連の組の検索は、関連の整数の上限、なければ持ち主のモデルの上限、なければ設定の上限を `L`
  として、`LIMIT L+1` で読み、持ち主のモデルと関連の名前で `capped L` を確かめてから行を分ける。
* 関連の読み込みが失敗すれば、覚えもそれまでのレコードの組も変わらない。関連を待って失敗すれば、
  その関連はまだ覚えておらず、次に待てばまた読み込む。
* 呼び出しの `LIMIT`、一件の検索、一対の関連と偽の上限を明示した関連は、上限を見ずに読む。 -/
theorem hard_limits_enforced :
    (∀ (s : Session) (cls : String) (m : Meta) (L : Int) (opts : FindOptions) (conds : Value),
      s.catalog.metaOf cls = .ok m →
      (m.findHardLimit = .int L ∨ m.findHardLimit = .none ∧ s.settings.findHardLimit = some L) →
      opts.limit = .none →
      (findRows cls opts conds).exec s =
        (selectRows cls m conds { opts with limit := .int (L + 1) } >>= fun found =>
          lift (found.capped L .find (.str m.name) .none)).exec s) ∧
    (∀ (s : Session) (rel : Relation) (keys : List Value) (target om : Meta) (L : Int),
      rel.kind = .hasMany → s.bound = true →
      s.catalog.metaOf rel.target = .ok target → s.catalog.metaOf rel.owner = .ok om →
      (rel.hardLimit = .int L ∨ rel.hardLimit = .none ∧
        (om.hasManyHardLimit = .int L ∨ om.hasManyHardLimit = .none ∧ s.settings.hasManyHardLimit = some L)) →
      (queryGroups rel.owner rel keys).exec s =
        (selectRows rel.target target (.list (batchCondition rel keys :: rel.filter))
            (batchOptions rel target (.int (L + 1))) >>= fun found =>
          lift (found.capped L .relation (.str om.name) (.str rel.name)) >>= groupRows rel).exec s) ∧
    (∀ (records : List Value) (owner : String) (decl : RelationDecl),
      Frame.loads.HoldsOnError (loadBatch records owner decl)) ∧
    (∀ (s t : Session) (r : Value) (p owner : String) (decl : RelationDecl) (e : Fault),
      s.catalog.attr? (recordClass r) p = some (.relation owner decl) →
      (awaitAttribute r p).exec s = (.error e, t) →
      t.cache = s.cache ∧ t.cachedAt (recordId r) p = none ∧
        (awaitAttribute r p).exec t =
          (loadBatch (t.pendingOf (t.awaitBatch r) p) owner decl >>= fun _ =>
            cachedRelations r >>= fun rels => pure ((assocGet? rels p).getD .none)).exec (t.awaitStart r)) ∧
    (∀ (s : Session) (cls : String) (m : Meta) (opts : FindOptions) (conds : Value),
      s.catalog.metaOf cls = .ok m → opts.limit ≠ .none →
      (findRows cls opts conds).exec s = (selectRows cls m conds opts).exec s) ∧
    (∀ (s : Session) (cls : String) (m : Meta) (opts : FindOptions) (conds : Value),
      s.catalog.metaOf cls = .ok m →
      (findFirst cls opts conds).exec s = (findRows cls { opts with limit := .int 1 } conds >>= firstOf).exec s) ∧
    (∀ (s : Session) (owner : String) (rel : Relation) (keys : List Value) (target : Meta),
      (rel.kind ≠ .hasMany ∨ rel.hardLimit = .bool false) → s.catalog.metaOf rel.target = .ok target →
      (queryGroups owner rel keys).exec s =
        (selectRows rel.target target (.list (batchCondition rel keys :: rel.filter)) (batchOptions rel target .none)
          >>= groupRows rel).exec s) :=
  ⟨fun _ _ _ _ opts conds hm hL hopts => exec_findRows_capped opts conds hm hL hopts,
    fun _ _ _ _ _ _ hkind hb htarget howner hL =>
      exec_queryGroups_capped htarget howner (exec_hardLimitOf_int hkind howner hb hL),
    loads_loadBatch_onError,
    fun _ _ _ _ _ _ _ hattr h => await_error_reloads hattr h,
    fun _ _ _ opts conds hm hopts => exec_findRows_of_limit opts conds hm hopts,
    fun _ _ _ opts conds hm => exec_findFirst opts conds hm,
    fun _ _ _ _ _ hoff htarget => exec_queryGroups_uncapped htarget (exec_hardLimitOf_none hoff)⟩

/-- 検索の上限を一件にした利用者の目録。 -/
def cappedCatalog : Catalog :=
  let user : ModelSpec :=
    { name := "User", table := some "users", tag := some "User",
      columns := [{ property := "id", primaryKey := .bool true }], findHardLimit := .int 1 }
  match Catalog.declareAll [user] with
  | .ok cat => cat
  | .error _ => {}

/-- 上限一件の目録で、読み手が利用者を二人答える状態。 -/
def cappedUsers : Session :=
  { (default : Session) with
    catalog := cappedCatalog
    reader := { label := "reader", queue := [.ok (.result [.dict [(.str "id", .int 1)], .dict [(.str "id", .int 2)]]
      (.int 2) .none)] } }

/-- 上限一件のモデルの検索は `LIMIT 2` で読み、二人読めば失敗する。 -/
theorem capped_users_find_fails :
    ∃ m, cappedUsers.catalog.metaOf "User" = .ok m ∧
      (findRows "User" {} (.list [])).exec cappedUsers =
        (selectRows "User" m (.list []) { ({} : FindOptions) with limit := .int 2 } >>= fun found =>
          lift (found.capped 1 .find (.str m.name) .none)).exec cappedUsers ∧
      (((findRows "User" {} (.list [])).exec cappedUsers).2.log.map (·.sql) == ["SELECT * FROM users LIMIT 2"]) = true ∧
      ((findRows "User" {} (.list [])).exec cappedUsers).1.toBool = false := by
  have hlimit : (cappedUsers.catalog.metaOf "User").toOption.map (·.findHardLimit) = some (.int 1) := rfl
  obtain ⟨m, hm, hL⟩ := Except.exists_of_toOption_map hlimit
  exact ⟨m, hm, hard_limits_enforced.1 cappedUsers "User" m 1 {} (.list []) hm (.inl hL) rfl,
    by decide +kernel, by decide +kernel⟩

end Session

end DataAccess
