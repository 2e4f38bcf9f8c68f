import DataAccess.Proofs.HardLimits
/-!
# 関連の組の読み込み

組のレコードの関連を一度に読む `loadBatch` が、成功したときに何をしたか（`BatchLoaded`）。

* どのレコードのキーにも NULL があれば何も発行しない。そうでなければ、NULL のないキーを初めの順に
  重なりなく並べ（`List.eraseDupsBy`）、相手のモデルを一度だけ検索する。
* どのレコードも、読んだ行のうち外部キーの組が自分のキーと等しい行を、読んだ順に覚える（多対なら全部、
  一対なら最初の一行）。

等しさは値の `==` で、キーの上で対称かつ推移的なとき（`Value.EquivOn`）に、キーで分けた行の組を引くことと
行を絞ることが一致する。
-/

namespace DataAccess

open Session Run

/-! ## キーで分けた行 -/

/-- 相手の行の外部キーの組（NULL も含めて）。 -/
def Relation.rowKey (rel : Relation) (row : Value) : Value :=
  .tuple (rel.foreigns.map fun c => recordValue row c.property)

/-- 分けた行のうち、キーが `k` と等しい最初の組の行。 -/
def groupOf (groups : List (Value × List Value)) (k : Value) : List Value :=
  ((groups.find? fun g => Value.equal g.1 k).map (·.2)).getD []

/-- 値の並び `D` の上で、等しさが対称で推移的。 -/
def Value.EquivOn (D : List Value) : Prop :=
  ∀ a ∈ D, ∀ b ∈ D, Value.equal a b = true →
    Value.equal b a = true ∧ ∀ c ∈ D, Value.equal b c = true → Value.equal a c = true

section EquivOn

variable {D : List Value} {x y z : Value}

theorem Value.EquivOn.trans (hD : Value.EquivOn D) (hx : x ∈ D) (hy : y ∈ D) (hz : z ∈ D)
    (hxy : Value.equal x y = true) (hyz : Value.equal y z = true) : Value.equal x z = true :=
  (hD x hx y hy hxy).2 z hz hyz

/-- `x` が `z` と等しければ、`x` と `y` が等しいことと `y` と `z` が等しいことは同じ。 -/
theorem Value.EquivOn.equal_eq (hD : Value.EquivOn D) (hx : x ∈ D) (hy : y ∈ D) (hz : z ∈ D)
    (hxz : Value.equal x z = true) : Value.equal x y = Value.equal y z := by
  cases hxy : Value.equal x y
  · -- `y` が `z` と等しければ、`z` を介して `x` と `y` も等しい
    cases hyz : Value.equal y z
    · rfl
    · exact absurd (hD.trans hx hz hy hxz (hD y hy z hz hyz).1) (by rw [hxy]; decide)
  · exact (hD.trans hy hx hz (hD x hx y hy hxy).1 hxz).symm

end EquivOn

section AddToGroup

variable {D : List Value} (hD : Value.EquivOn D) {groups : List (Value × List Value)}
  (hg : ∀ g ∈ groups, g.1 ∈ D) {k K : Value} (hk : k ∈ D) (hK : K ∈ D)
include hD hg hk hK

/-- `K` の組が見つかれば、その組のキーが `k` と等しいことは `k` と `K` が等しいことと同じ。 -/
theorem equal_key_of_find? {g₀ : Value × List Value} (hf : groups.find? (fun g => Value.equal g.1 K) = some g₀) :
    Value.equal g₀.1 k = Value.equal k K :=
  hD.equal_eq (hg g₀ (List.mem_of_find?_eq_some hf)) hk hK
    (List.find?_some (p := fun g : Value × List Value => Value.equal g.1 K) hf)

/-- `k` と等しい組があれば、その組すべてに行を足すだけで、組のキーは変わらない。 -/
theorem groupOf_extend_matching (hany : groups.any (fun g => Value.equal g.1 k) = true) (row : Value) :
    groupOf (groups.map fun g => if Value.equal g.1 k then (g.1, g.2 ++ [row]) else g) K =
      groupOf groups K ++ if Value.equal k K then [row] else [] := by
  obtain ⟨g, hgm, hgk⟩ := List.any_eq_true.1 hany
  unfold groupOf
  have hpred : ((fun g : Value × List Value => Value.equal g.1 K) ∘
      fun g => if Value.equal g.1 k = true then (g.1, g.2 ++ [row]) else g) = fun g => Value.equal g.1 K := by
    funext g
    simp only [Function.comp]
    split <;> rfl
  rw [List.find?_map, hpred]
  cases hf : groups.find? fun g => Value.equal g.1 K with
  | none =>
    -- `K` の組がないのに `k` と `K` が等しければ、`k` と等しい組 `g` は `K` の組でもある
    have hkK : Value.equal k K = false := by
      cases hkK : Value.equal k K
      · rfl
      · exact absurd (hD.trans (hg g hgm) hk hK hgk hkK) (List.find?_eq_none.1 hf g hgm)
    simp [hkK]
  | some g₀ =>
    simp only [Option.map_some, Option.getD_some]
    rw [equal_key_of_find? hD hg hk hK hf]
    split <;> simp

theorem groupOf_append_group (hany : ¬groups.any (fun g => Value.equal g.1 k) = true) (row : Value) :
    groupOf (groups ++ [(k, [row])]) K = groupOf groups K ++ if Value.equal k K then [row] else [] := by
  unfold groupOf
  rw [List.find?_append]
  cases hf : groups.find? fun g => Value.equal g.1 K with
  | none =>
    simp only [Option.none_or, Option.map_none, Option.getD_none, List.nil_append, List.find?_singleton]
    split <;> simp
  | some g₀ =>
    -- 新しい組のキー `k` が `K` と等しければ、`g₀` も `k` と等しく、等しい組はなかったことに反する
    have hkK : Value.equal k K = false := by
      rw [← equal_key_of_find? hD hg hk hK hf]
      cases hk₀ : Value.equal g₀.1 k
      · rfl
      · exact absurd (List.any_eq_true.2 ⟨g₀, List.mem_of_find?_eq_some hf, hk₀⟩) hany
    simp [hkK]

theorem groupOf_addToGroup (row : Value) :
    groupOf (addToGroup groups k row) K = groupOf groups K ++ if Value.equal k K then [row] else [] := by
  unfold addToGroup
  split
  · next hany => exact groupOf_extend_matching hD hg hk hK hany row
  · next hany => exact groupOf_append_group hD hg hk hK hany row

end AddToGroup

/-- 分けた行 `groups` は、見た行 `seen` をキーで分けたもの: 組のキーは `D` にあり、`D` のどのキーの組も、
見た行のうち外部キーがそのキーと等しい行を見た順に並べたもの。 -/
def Relation.Grouped (rel : Relation) (D : List Value) (groups : List (Value × List Value)) (seen : List Value) :
    Prop :=
  (∀ g ∈ groups, g.1 ∈ D) ∧ ∀ K ∈ D, groupOf groups K = seen.filter fun row => Value.equal (rel.rowKey row) K

theorem Relation.grouped_nil (rel : Relation) (D : List Value) : rel.Grouped D [] [] :=
  ⟨fun _ h => absurd h List.not_mem_nil, fun _ _ => rfl⟩

theorem fst_mem_addToGroup {D : List Value} {groups : List (Value × List Value)} (hg : ∀ g ∈ groups, g.1 ∈ D)
    {k : Value} (hk : k ∈ D) (row : Value) : ∀ g ∈ addToGroup groups k row, g.1 ∈ D := by
  intro g hgm
  unfold addToGroup at hgm
  split at hgm
  · obtain ⟨g', hg'm, rfl⟩ := List.mem_map.1 hgm
    by_cases hc : Value.equal g'.1 k = true <;> simp [hc, hg g' hg'm]
  · rcases List.mem_append.1 hgm with hgm | hgm
    · exact hg g hgm
    · rw [List.mem_singleton.1 hgm]
      exact hk

theorem Relation.Grouped.add {rel : Relation} {D : List Value} (hD : Value.EquivOn D)
    {groups : List (Value × List Value)} {seen : List Value} (h : rel.Grouped D groups seen) {row : Value}
    (hrow : rel.rowKey row ∈ D) : rel.Grouped D (addToGroup groups (rel.rowKey row) row) (seen ++ [row]) := by
  refine ⟨fst_mem_addToGroup h.1 hrow row, fun K hK => ?_⟩
  rw [groupOf_addToGroup hD h.1 hrow hK, h.2 K hK, List.filter_append]
  split <;> simp [*]

theorem Relation.Grouped.foldl {rel : Relation} {D : List Value} (hD : Value.EquivOn D) :
    ∀ {rows : List Value} {groups : List (Value × List Value)} {seen : List Value}, rel.Grouped D groups seen →
      (∀ row ∈ rows, rel.rowKey row ∈ D) →
      rel.Grouped D (rows.foldl (fun gs row => addToGroup gs (rel.rowKey row) row) groups) (seen ++ rows)
  | [], _, seen, h, _ => by rw [List.foldl_nil, List.append_nil]; exact h
  | row :: rows, _, seen, h, hrows => by
    rw [List.foldl_cons, ← List.singleton_append, ← List.append_assoc]
    exact (h.add hD (hrows row List.mem_cons_self)).foldl hD fun r hr => hrows r (List.mem_cons_of_mem row hr)

/-! ## 成功した計算を分ける -/

theorem Run.exec_bind_eq_ok {α β : Type} {x : Run α} {f : α → Run β} {s t : Session} {b : β}
    (h : (x >>= f).exec s = (.ok b, t)) : ∃ a s', x.exec s = (.ok a, s') ∧ (f a).exec s' = (.ok b, t) := by
  rw [exec_bind] at h
  rcases hx : x.exec s with ⟨r, s'⟩
  rw [hx] at h
  cases r with
  | ok a => exact ⟨a, s', rfl, h⟩
  | error e => cases h

theorem Frame.Holds.same_eq {α : Type} {x : Run α} (hx : Frame.same.Holds x) {s t : Session} {a : α}
    (h : x.exec s = (.ok a, t)) : t = s := by
  have hs := hx s
  rw [h] at hs
  exact hs

/-- 状態に触れない一歩の後が成功したなら、一歩は同じ状態で成功し、続きは元の状態から成功した。 -/
theorem Run.exec_bind_same_eq_ok {α β : Type} {x : Run α} {f : α → Run β} (hx : Frame.same.Holds x)
    {s t : Session} {b : β} (h : (x >>= f).exec s = (.ok b, t)) :
    ∃ a, x.exec s = (.ok a, s) ∧ (f a).exec s = (.ok b, t) := by
  obtain ⟨a, s', hxa, hf⟩ := Run.exec_bind_eq_ok h
  obtain rfl := hx.same_eq hxa
  exact ⟨a, hxa, hf⟩

theorem Run.exec_lift_bind_eq_ok {α β : Type} {e : Except Fault α} {f : α → Run β} {s t : Session} {b : β}
    (h : (lift e >>= f).exec s = (.ok b, t)) : ∃ a, e = .ok a ∧ (f a).exec s = (.ok b, t) := by
  obtain ⟨a, s', he, hf⟩ := Run.exec_bind_eq_ok h
  rw [exec_lift] at he
  obtain ⟨hea, rfl⟩ := Prod.mk.inj he
  exact ⟨a, hea, hf⟩

/-- 一歩ずつ状態に触れずに `g` のとおり進む畳み込みは、成功すれば状態を変えず、`g` の畳み込みを返す。 -/
theorem Run.exec_foldlM_pure {γ β : Type} {step : β → γ → Run β} {g : β → γ → β}
    (hstep : ∀ b x s b' t, (step b x).exec s = (.ok b', t) → t = s ∧ b' = g b x) :
    ∀ (xs : List γ) (b : β) (s : Session) {b' : β} {t : Session},
      (xs.foldlM step b).exec s = (.ok b', t) → t = s ∧ b' = xs.foldl g b
  | [], b, s, _, _, h => by
    rw [List.foldlM_nil, exec_pure] at h
    cases h
    exact ⟨rfl, rfl⟩
  | x :: xs, b, s, _, _, h => by
    rw [List.foldlM_cons] at h
    obtain ⟨c, s', hc, hrest⟩ := Run.exec_bind_eq_ok h
    obtain ⟨hs, rfl⟩ := hstep b x s c s' hc
    subst hs
    exact Run.exec_foldlM_pure hstep xs _ s' hrest

theorem keyOf_true (r : Value) (cols : List Column) :
    keyOf r cols true = some (.tuple (cols.map fun c => recordValue r c.property)) := by
  simp [keyOf]

/-- 読んだ行を分けることは、成功すれば状態を変えず、行を順に `addToGroup` で足したもの。 -/
theorem exec_groupRows_ok {rel : Relation} {found : Value} {s t : Session} {groups : List (Value × List Value)}
    (h : (groupRows rel found).exec s = (.ok groups, t)) :
    t = s ∧ ∃ rows, found.iterate = .ok rows ∧
      groups = rows.foldl (fun gs row => addToGroup gs (rel.rowKey row) row) [] := by
  unfold groupRows at h
  obtain ⟨rows, hiter, hfold⟩ := Run.exec_lift_bind_eq_ok h
  refine (Run.exec_foldlM_pure ?_ rows [] s hfold).imp_right fun hg => ⟨rows, hiter, hg⟩
  intro gs row s₀ gs' t₀ hstep
  split at hstep
  · rw [keyOf_true] at hstep
    obtain ⟨u, -, hpure⟩ := Run.exec_lift_bind_eq_ok hstep
    rw [exec_pure] at hpure
    cases hpure
    exact ⟨rfl, rfl⟩
  · rw [exec_throw] at hstep
    cases hstep

/-- 組のキーを集めることは、成功すれば状態を変えず、NULL のないキーを初めの順に重なりを除いて返す。 -/
theorem exec_batchKeys_ok {records : List Value} {locals : List Column} {s t : Session} {keys : List Value}
    (h : (batchKeys records locals).exec s = (.ok keys, t)) :
    t = s ∧ keys = (records.filterMap fun r => keyOf r locals false).eraseDupsBy Value.equal := by
  refine ⟨(same_batchKeys records locals).same_eq h, ?_⟩
  unfold batchKeys at h
  obtain ⟨u, s', -, h⟩ := Run.exec_bind_eq_ok h
  rw [exec_pure] at h
  cases h
  exact dedupe_eq_eraseDupsBy _

theorem exec_metaOf_eq (cls : String) (s : Session) : (metaOf cls).exec s = (s.catalog.metaOf cls, s) := by
  unfold metaOf
  rw [exec_bind_ok (exec_get s), exec_lift]

theorem exec_selectRows_ok {cls : String} {m : Meta} {conds : Value} {opts : FindOptions} {s t : Session}
    {found : Value} (h : (selectRows cls m conds opts).exec s = (.ok found, t)) :
    ∃ st, Statement.select s.dialect s.catalog m conds opts = .ok st ∧ (fetch cls st).exec s = (.ok found, t) := by
  unfold selectRows at h
  obtain ⟨u, -, h₁⟩ := Run.exec_bind_same_eq_ok (same_requireBound cls) h
  have hctx : context.exec s = (.ok (s.dialect, s.catalog), s) := rfl
  rw [exec_bind_ok hctx] at h₁
  exact Run.exec_lift_bind_eq_ok h₁

/-- 組の検索は、成功すれば、相手のモデルの検索の文を一つ組み立てて読み、読んだ行を順に分けたものを返す。
検索の後に状態を変えるものはない。 -/
theorem exec_queryGroups_ok {owner : String} {rel : Relation} {keys : List Value} {s t : Session}
    {groups : List (Value × List Value)} (h : (queryGroups owner rel keys).exec s = (.ok groups, t)) :
    ∃ target bound st found rows, s.catalog.metaOf rel.target = .ok target ∧
      Statement.select s.dialect s.catalog target (.list (batchCondition rel keys :: rel.filter))
        (batchOptions rel target bound) = .ok st ∧
      (fetch rel.target st).exec s = (.ok found, t) ∧ found.iterate = .ok rows ∧
      groups = rows.foldl (fun gs row => addToGroup gs (rel.rowKey row) row) [] := by
  unfold queryGroups at h
  obtain ⟨target, htarget, h₁⟩ := Run.exec_bind_same_eq_ok (same_metaOf rel.target) h
  rw [exec_metaOf_eq] at htarget
  have hmeta := (Prod.mk.inj htarget).1
  obtain ⟨limit, -, h₂⟩ := Run.exec_bind_same_eq_ok (same_hardLimitOf rel) h₁
  dsimp only at h₂
  -- 上限がなければ件数を限らずに読み、あれば一つ多く読んで確かめる。どちらも確かめは状態に触れない
  split at h₂
  · rw [pure_bind] at h₂
    obtain ⟨found, s₄, hsel, h₄⟩ := Run.exec_bind_eq_ok h₂
    obtain ⟨hs₄, rows, hrows, hgroups⟩ := exec_groupRows_ok h₄
    obtain ⟨st, hst, hfetch⟩ := exec_selectRows_ok hsel
    subst hs₄
    exact ⟨target, _, st, found, rows, hmeta, hst, hfetch, hrows, hgroups⟩
  · next l hl =>
    obtain ⟨bound, -, h₃⟩ := Run.exec_lift_bind_eq_ok h₂
    obtain ⟨found, s₄, hsel, h₄⟩ := Run.exec_bind_eq_ok h₃
    obtain ⟨st, hst, hfetch⟩ := exec_selectRows_ok hsel
    split at h₄
    · exact absurd rfl hl
    · obtain ⟨u, -, h₅⟩ := Run.exec_bind_same_eq_ok
        (same_checkHardLimit _ _ _ ((same_metaOf _).bind fun _ => Frame.holds_pure _) _) h₄
      obtain ⟨hs₆, rows, hrows, hgroups⟩ := exec_groupRows_ok h₅
      subst hs₆
      exact ⟨target, bound, st, found, rows, hmeta, hst, hfetch, hrows, hgroups⟩

/-! ## 関連の値を覚えさせる -/

/-- 一対の関連なら最初の行（なければ `None`）、多対の関連なら行の並び。 -/
def Relation.pick (rel : Relation) (rows : List Value) : Value :=
  if rel.kind == .hasMany then .list rows else rows.headD .none

/-- レコード `r` に当たる行: `r` のキーに NULL がなければ、外部キーがそのキーと等しい行を読んだ順に。 -/
def Relation.matching (rel : Relation) (rows : List Value) (r : Value) : List Value :=
  (keyOf r rel.locals false).elim [] fun k => rows.filter fun row => Value.equal (rel.rowKey row) k

/-- 組のレコードに順に覚えさせると、どのレコードも自分の値を覚える。同じ番号のレコードが同じ値を覚える
ときに限る（後から覚えさせた値が残るので）。 -/
theorem cachedAt_forIn_remember {name : String} {v : Value → Value} {g : Value → PUnit → Run (ForInStep PUnit)}
    (hg : ∀ x s, (g x ⟨⟩).exec s = (.ok (.yield ⟨⟩), ((remember x name (v x)).exec s).2)) :
    ∀ (xs : List Value) (s : Session) {t : Session}, (forIn xs ⟨⟩ g).exec s = (.ok ⟨⟩, t) →
      (∀ x ∈ xs, ∀ y ∈ xs, recordId x = recordId y → v x = v y) →
      ∀ x ∈ xs, t.cachedAt (recordId x) name = some (v x)
  | [], _, _, _, _, x, hx => absurd hx List.not_mem_nil
  | x :: rest, s, t, h, hv, y, hy => by
    rw [List.forIn_cons, exec_bind_ok (hg x s)] at h
    have hrest : ∀ a ∈ rest, ∀ b ∈ rest, recordId a = recordId b → v a = v b :=
      fun a ha b hb => hv a (List.mem_cons_of_mem x ha) b (List.mem_cons_of_mem x hb)
    have hvals := cachedAt_forIn_remember hg rest _ h hrest
    rcases List.mem_cons.1 hy with rfl | hy
    · by_cases hlater : ∃ z ∈ rest, recordId z = recordId y
      · -- 後で同じ番号のレコードに覚えさせた値が残るが、それは同じ値
        obtain ⟨z, hz, hzy⟩ := hlater
        rw [← hzy, hvals z hz, hv z (List.mem_cons_of_mem y hz) y List.mem_cons_self hzy]
      · -- 後の繰り返しは `y` の番号に触れない
        obtain ⟨t', ht', -, -, hframe⟩ := exec_forIn_remember (fun a s => ⟨v a, hg a s⟩) rest
          ((remember y name (v y)).exec s).2
        rw [h] at ht'
        cases ht'
        rw [hframe (recordId y) name fun hmem => absurd (List.mem_map.1 hmem) hlater, cachedAt_remember]
        simp
    · exact hvals y hy

theorem exec_forIn_remember_eq {name : String} {v : Value → Value} {g : Value → PUnit → Run (ForInStep PUnit)}
    (hg : ∀ x s, (g x ⟨⟩).exec s = (.ok (.yield ⟨⟩), ((remember x name (v x)).exec s).2)) {xs : List Value}
    {s t : Session} (h : (forIn xs ⟨⟩ g).exec s = (.ok ⟨⟩, t))
    (hv : ∀ x ∈ xs, ∀ y ∈ xs, recordId x = recordId y → v x = v y) :
    t = { s with cache := t.cache } ∧ ∀ x ∈ xs, t.cachedAt (recordId x) name = some (v x) := by
  obtain ⟨t', ht', hcache, -, -⟩ := exec_forIn_remember (fun a s => ⟨v a, hg a s⟩) xs s
  rw [h] at ht'
  cases ht'
  exact ⟨hcache, cachedAt_forIn_remember hg xs s h hv⟩

/-- 組のレコードに覚えさせることは、成功すれば記録を変えず、どのレコードにも、そのキーの組の行から
選んだ値を覚えさせる。 -/
theorem exec_assignGroups_eq {records : List Value} {rel : Relation} {groups : List (Value × List Value)}
    {s t : Session} (hids : ∀ r ∈ records, ∀ r' ∈ records, recordId r = recordId r' → r = r')
    (h : (assignGroups records rel groups).exec s = (.ok (), t)) :
    t.log = s.log ∧ ∀ r ∈ records,
      t.cachedAt (recordId r) rel.name = some (rel.pick ((keyOf r rel.locals false).elim [] (groupOf groups))) := by
  unfold assignGroups at h
  obtain ⟨u, t', hfor, hpure⟩ := Run.exec_bind_eq_ok h
  rw [exec_pure] at hpure
  cases hpure
  -- 一歩は、レコードのキーの組の行から選んだ値を覚えさせるだけ
  obtain ⟨hcache, hvals⟩ := exec_forIn_remember_eq
    (v := fun x => rel.pick ((keyOf x rel.locals false).elim [] (groupOf groups)))
    (fun x s => by cases keyOf x rel.locals false <;> rfl) hfor
    fun r hr r' hr' hid => by rw [hids r hr r' hr' hid]
  have hlog : t.log = s.log := by rw [hcache]
  exact ⟨hlog, hvals⟩

/-! ## 組の読み込み -/

/-- 組のレコードの、NULL を含まない自分の側のキー。 -/
def Relation.recordKeys (rel : Relation) (records : List Value) : List Value :=
  records.filterMap fun r => keyOf r rel.locals false

theorem keyOf_false_eq_none_iff (r : Value) (cols : List Column) :
    keyOf r cols false = none ↔ ∃ c ∈ cols, recordValue r c.property = .none := by
  unfold keyOf
  simp only [Bool.not_false, Bool.true_and]
  split
  · next hany =>
    obtain ⟨v, hv, hvn⟩ := List.any_eq_true.1 hany
    obtain ⟨c, hc, rfl⟩ := List.mem_map.1 hv
    refine iff_of_true rfl ⟨c, hc, ?_⟩
    split at hvn
    · next hnone => exact hnone
    · cases hvn
  · next hany =>
    refine iff_of_false (by simp) fun ⟨c, hc, hnone⟩ => hany (List.any_eq_true.2 ⟨_, List.mem_map_of_mem hc, ?_⟩)
    rw [hnone]

theorem recordKeys_eq_nil_iff (rel : Relation) (records : List Value) :
    rel.recordKeys records = [] ↔ ∀ r ∈ records, ∃ c ∈ rel.locals, recordValue r c.property = .none := by
  unfold Relation.recordKeys
  rw [List.filterMap_eq_nil_iff]
  exact forall₂_congr fun r _ => keyOf_false_eq_none_iff r rel.locals

/-- 読んだ行を順に分けたものから、キーで引いた組は、外部キーがそのキーと等しい行を読んだ順に並べたもの。 -/
theorem groupOf_foldl_addToGroup {rel : Relation} {D rows : List Value} (hD : Value.EquivOn D)
    (hrows : ∀ row ∈ rows, rel.rowKey row ∈ D) {K : Value} (hK : K ∈ D) :
    groupOf (rows.foldl (fun gs row => addToGroup gs (rel.rowKey row) row) []) K =
      rows.filter fun row => Value.equal (rel.rowKey row) K := by
  have hgrouped := (Relation.grouped_nil rel D).foldl hD hrows
  rw [List.nil_append] at hgrouped
  exact hgrouped.2 K hK

/-- 解決できる関連の組の読み込みが成功したなら、組のキーが空なら覚えさせることだけが、空でなければ組の
検索とその後の覚えさせることが成功した。 -/
theorem exec_loadBatch_cases {s t : Session} {records : List Value} {owner : String} {decl : RelationDecl}
    {rel : Relation} (hrel : s.catalog.resolveRelation owner decl = .ok rel)
    (h : (loadBatch records owner decl).exec s = (.ok (), t)) :
    ((rel.recordKeys records).eraseDupsBy Value.equal = [] → (assignGroups records rel []).exec s = (.ok (), t)) ∧
      ((rel.recordKeys records).eraseDupsBy Value.equal ≠ [] → ∃ groups s₁,
        (queryGroups owner rel ((rel.recordKeys records).eraseDupsBy Value.equal)).exec s = (.ok groups, s₁) ∧
        (assignGroups records rel groups).exec s₁ = (.ok (), t)) := by
  unfold loadBatch at h
  rw [exec_bind_ok (exec_get s)] at h
  obtain ⟨rel', hrel', h₁⟩ := Run.exec_lift_bind_eq_ok h
  rw [hrel] at hrel'
  cases hrel'
  obtain ⟨keys, s₂, hkeys, h₂⟩ := Run.exec_bind_eq_ok h₁
  obtain ⟨hs₂, hkeq⟩ := exec_batchKeys_ok hkeys
  subst s₂ hkeq
  dsimp only at h₂
  unfold Relation.recordKeys
  refine ⟨fun hk => ?_, fun hk => ?_⟩
  · rw [if_pos (List.isEmpty_iff.2 hk), pure_bind] at h₂
    exact h₂
  · rw [if_neg (mt List.isEmpty_iff.1 hk)] at h₂
    exact Run.exec_bind_eq_ok h₂

/-- 関連 `rel` の組の読み込みが、状態 `s` から `t` へ成功したときにしたこと。 -/
structure BatchLoaded (s t : Session) (records : List Value) (rel : Relation) : Prop where
  /-- どのレコードのキーにも NULL があれば、何も発行せず、どのレコードも空の答えを覚える。 -/
  quiet : (∀ r ∈ records, ∃ c ∈ rel.locals, recordValue r c.property = .none) →
    t.log = s.log ∧ ∀ r ∈ records, t.cachedAt (recordId r) rel.name = some (rel.pick [])
  /-- NULL のないキーを持つレコードがあれば、キーを初めの順に重なりなく並べた条件と関連の絞り込みで
  相手のモデルを一度だけ検索し、どのレコードも、読んだ行のうち外部キーが自分のキーと等しい行を覚える。 -/
  query : (∃ r ∈ records, ∀ c ∈ rel.locals, recordValue r c.property ≠ .none) →
    ∃ target bound st found rows s₁, s.catalog.metaOf rel.target = .ok target ∧
      Statement.select s.dialect s.catalog target
          (.list (batchCondition rel ((rel.recordKeys records).eraseDupsBy Value.equal) :: rel.filter))
          (batchOptions rel target bound) = .ok st ∧
      (fetch rel.target st).exec s = (.ok found, s₁) ∧ t.log = s₁.log ∧
      (s.PassThrough → ∃ e, t.log = e :: s.log) ∧ found.iterate = .ok rows ∧
      (Value.EquivOn (rel.recordKeys records ++ rows.map rel.rowKey) →
        ∀ r ∈ records, t.cachedAt (recordId r) rel.name = some (rel.pick (rel.matching rows r)))

/-- どのレコードのキーにも NULL があれば、検索せずに、どのレコードにも空の答えを覚えさせる。 -/
theorem loadBatch_quiet {s t : Session} {records : List Value} {rel : Relation}
    (hids : ∀ r ∈ records, ∀ r' ∈ records, recordId r = recordId r' → r = r')
    (hnil : (rel.recordKeys records).eraseDupsBy Value.equal = [] →
      (assignGroups records rel []).exec s = (.ok (), t))
    (hnull : ∀ r ∈ records, ∃ c ∈ rel.locals, recordValue r c.property = .none) :
    t.log = s.log ∧ ∀ r ∈ records, t.cachedAt (recordId r) rel.name = some (rel.pick []) := by
  have hkeys := (eraseDupsBy_eq_nil_iff Value.equal _).2 ((recordKeys_eq_nil_iff rel records).2 hnull)
  obtain ⟨hlog, hvals⟩ := exec_assignGroups_eq hids (hnil hkeys)
  refine ⟨hlog, fun r hr => ?_⟩
  rw [hvals r hr]
  -- 行のない分け方では、どのキーで引いても空
  cases keyOf r rel.locals false <;> rfl

/-- NULL のないキーを持つレコードがあれば、相手のモデルを一度だけ検索し、どのレコードにも、読んだ行のうち
外部キーが自分のキーと等しい行を覚えさせる。 -/
theorem loadBatch_query {s t : Session} {records : List Value} {owner : String} {rel : Relation}
    (hids : ∀ r ∈ records, ∀ r' ∈ records, recordId r = recordId r' → r = r')
    (hcons : (rel.recordKeys records).eraseDupsBy Value.equal ≠ [] → ∃ groups s₁,
      (queryGroups owner rel ((rel.recordKeys records).eraseDupsBy Value.equal)).exec s = (.ok groups, s₁) ∧
      (assignGroups records rel groups).exec s₁ = (.ok (), t))
    (hfull : ∃ r ∈ records, ∀ c ∈ rel.locals, recordValue r c.property ≠ .none) :
    ∃ target bound st found rows s₁, s.catalog.metaOf rel.target = .ok target ∧
      Statement.select s.dialect s.catalog target
          (.list (batchCondition rel ((rel.recordKeys records).eraseDupsBy Value.equal) :: rel.filter))
          (batchOptions rel target bound) = .ok st ∧
      (fetch rel.target st).exec s = (.ok found, s₁) ∧ t.log = s₁.log ∧
      (s.PassThrough → ∃ e, t.log = e :: s.log) ∧ found.iterate = .ok rows ∧
      (Value.EquivOn (rel.recordKeys records ++ rows.map rel.rowKey) →
        ∀ r ∈ records, t.cachedAt (recordId r) rel.name = some (rel.pick (rel.matching rows r))) := by
  have hkeys : (rel.recordKeys records).eraseDupsBy Value.equal ≠ [] := fun hnil => by
    obtain ⟨r, hr, hr'⟩ := hfull
    obtain ⟨c, hc, hnone⟩ := (recordKeys_eq_nil_iff rel records).1 ((eraseDupsBy_eq_nil_iff _ _).1 hnil) r hr
    exact hr' c hc hnone
  obtain ⟨groups, s₁, hq, ha⟩ := hcons hkeys
  obtain ⟨target, bound, st, found, rows, hmeta, hst, hfetch, hrows, hgroups⟩ := exec_queryGroups_ok hq
  obtain ⟨hlog, hvals⟩ := exec_assignGroups_eq hids ha
  refine ⟨target, bound, st, found, rows, s₁, hmeta, hst, hfetch, hlog, fun hpass => ?_, hrows, fun hD r hr => ?_⟩
  · -- 素通しの中継ぎだけなら、検索は記録にちょうど一行を足す
    obtain ⟨es, hes, hlen⟩ := emits_fetchSql rel.target (.str st.sql) st.params s found s₁ hpass hfetch
    obtain ⟨e, rfl⟩ := List.length_eq_one_iff.1 hlen
    exact ⟨e, by rw [hlog, hes]; rfl⟩
  · rw [hvals r hr, hgroups]
    unfold Relation.matching
    cases hk : keyOf r rel.locals false with
    | none => rfl
    | some K =>
      rw [Option.elim_some, Option.elim_some, groupOf_foldl_addToGroup hD
        (fun row hrow => List.mem_append_right _ (List.mem_map_of_mem hrow))
        (List.mem_append_left _ (List.mem_filterMap.2 ⟨r, hr, hk⟩))]

/-- 関連の組の読み込みが成功すれば、キーの NULL のないレコードがあるときに限って相手のモデルを一度だけ
検索し、どのレコードにも、そのキーと外部キーの等しい行を覚えさせる。レコードは番号で区別される。 -/
theorem loadBatch_groups_rows {s t : Session} {records : List Value} {owner : String} {decl : RelationDecl}
    {rel : Relation} (hrel : s.catalog.resolveRelation owner decl = .ok rel)
    (hids : ∀ r ∈ records, ∀ r' ∈ records, recordId r = recordId r' → r = r')
    (h : (loadBatch records owner decl).exec s = (.ok (), t)) : BatchLoaded s t records rel :=
  have hcases := exec_loadBatch_cases hrel h
  ⟨loadBatch_quiet hids hcases.1, loadBatch_query hids hcases.2⟩

/-- 利用者の投稿の関連の宣言。 -/
def forumPostsDecl : RelationDecl := ((forumCatalog.relationDecl? "User" "posts").map Prod.snd).getD default

/-- 利用者の投稿の関連。 -/
def forumPosts : Relation := ((forumCatalog.resolveRelation "User" forumPostsDecl).toOption).getD default

/-- 投稿の検索に、利用者 1 の投稿 10 と 12、利用者 2 の投稿 11 を返す状態。 -/
def postsSession : Session :=
  { forumSession [] with
    reader := { label := "reader",
                queue := [.ok (.result [.dict [(.str "id", .int 10), (.str "user_id", .int 1)],
                  .dict [(.str "id", .int 11), (.str "user_id", .int 2)],
                  .dict [(.str "id", .int 12), (.str "user_id", .int 1)]] (.int 3) .none)] } }

/-- 二人の利用者の投稿を一度に読む: 投稿の検索が三行を返し、利用者 1 は投稿 10 と 12、利用者 2 は投稿 11 を覚える。 -/
theorem forum_posts_batch_loaded :
    postsSession.catalog.resolveRelation "User" forumPostsDecl = .ok forumPosts ∧
      (∀ r ∈ [forumUser 1, forumUser 2], ∀ r' ∈ [forumUser 1, forumUser 2], recordId r = recordId r' → r = r') ∧
      ((loadBatch [forumUser 1, forumUser 2] "User" forumPostsDecl).exec postsSession).1 = .ok () ∧
      BatchLoaded postsSession ((loadBatch [forumUser 1, forumUser 2] "User" forumPostsDecl).exec postsSession).2
        [forumUser 1, forumUser 2] forumPosts := by
  have hrel : postsSession.catalog.resolveRelation "User" forumPostsDecl = .ok forumPosts := rfl
  have hids : ∀ r ∈ [forumUser 1, forumUser 2], ∀ r' ∈ [forumUser 1, forumUser 2],
      recordId r = recordId r' → r = r' := by
    simp only [List.mem_cons, List.not_mem_nil, or_false]
    rintro r (rfl | rfl) r' (rfl | rfl) hid
    all_goals first | rfl | exact absurd hid (by decide)
  have hok : ((loadBatch [forumUser 1, forumUser 2] "User" forumPostsDecl).exec postsSession).1 = .ok () := by
    have hsome : ((loadBatch [forumUser 1, forumUser 2] "User" forumPostsDecl).exec postsSession).1.toOption =
        some () := by
      decide +kernel
    revert hsome
    cases ((loadBatch [forumUser 1, forumUser 2] "User" forumPostsDecl).exec postsSession).1 <;>
      simp [Except.toOption]
  exact ⟨hrel, hids, hok, loadBatch_groups_rows hrel hids (Prod.ext hok rfl)⟩

example : (((loadBatch [forumUser 1, forumUser 2] "User" forumPostsDecl).exec postsSession).2.cachedAt 1 "posts").map
    (fun v => (v.iterate.toOption.getD []).map recordId) = some [3, 5] := by
  decide +kernel

end DataAccess
