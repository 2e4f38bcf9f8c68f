import DataAccess.Proofs.Footprint
/-!
# 関連の覚え

レコードごとの関連の覚えと、組ごとの読み込みの法則。

レコード `r` の関連 `p` を待つと、覚えていればその値を状態に触れずに返す。覚えていなければ、
`r` の組（組がなければ `r` だけの新しい組）のうち `p` を覚えていないレコード（`pendingOf`）を
まとめて一度だけ検索し、その全部に覚えさせる。中継ぎがそのまま渡すだけなら、

* 待つ一回が記録に足す行は高々一行。成功すれば、覚えていなかったレコードのうちキーに NULL の
  ないものがあればちょうど一行、なければ一行も足さない。
* 覚えが変わるのは、覚えていなかったレコードの `p` だけ。成功すれば、それらは全部 `p` を覚える。

組のレコードの `p` を待つことと覚えを忘れることを並べた手順は、検索を高々「忘れた回数 + 1」回
しか出さない（始めに組の全部が覚えていれば「忘れた回数」回）。
-/

namespace DataAccess

/-! ## 関連の解決 -/

/-- 成功するなら結果が `P` を満たす。 -/
def Except.OkThen {ε α : Type} (P : α → Prop) (x : Except ε α) : Prop := ∀ a, x = .ok a → P a

section OkThen

variable {ε α β γ : Type} {P : α → Prop}

theorem Except.okThen_pure {a : α} (h : P a) : Except.OkThen P (pure a : Except ε α) := fun _ h' => by
  cases h'
  exact h

theorem Except.okThen_bind {x : Except ε β} {f : β → Except ε α} (hf : ∀ b, Except.OkThen P (f b)) :
    Except.OkThen P (x >>= f) := fun a h => by
  obtain ⟨b, -, hb⟩ := Except.bind_eq_ok.1 h
  exact hf b a hb

end OkThen

theorem resolveRelation_name {cat : Catalog} {owner : String} {decl : RelationDecl} {rel : Relation}
    (h : cat.resolveRelation owner decl = .ok rel) : rel.name = decl.name := by
  have key : Except.OkThen (fun r : Relation => r.name = decl.name) (cat.resolveRelation owner decl) := by
    unfold Catalog.resolveRelation
    -- `do` の継続を一つずつ取り出し、それぞれについて「成功すれば名前は宣言の名前」を示す
    extract_lets jp
    have hjp : ∀ u, Except.OkThen (fun r : Relation => r.name = decl.name) (jp u) := by
      intro u
      simp -zeta only [jp]
      refine Except.okThen_bind fun source => Except.okThen_bind fun target => Except.okThen_bind fun keys => ?_
      extract_lets pairsJp
      have hpairs : ∀ pairs, Except.OkThen (fun r : Relation => r.name = decl.name) (pairsJp pairs) := by
        intro pairs
        simp -zeta only [pairsJp]
        extract_lets pairs' keysJp
        have hkeys : ∀ u, Except.OkThen (fun r : Relation => r.name = decl.name) (keysJp u) := by
          intro u
          simp -zeta only [keysJp]
          refine Except.okThen_bind fun keyPairs => Except.okThen_bind fun orderValue => ?_
          extract_lets termsJp
          have hterms : ∀ terms, Except.OkThen (fun r : Relation => r.name = decl.name) (termsJp terms) := by
            intro terms
            simp -zeta only [termsJp]
            refine Except.okThen_bind fun _ => Except.okThen_bind fun filter => ?_
            extract_lets done
            have hdone : ∀ u, Except.OkThen (fun r : Relation => r.name = decl.name) (done u) := fun _ => Except.okThen_pure rfl
            clear_value done
            split
            · split
              · exact Except.okThen_bind fun _ => hdone _
              · exact hdone _
            · exact hdone _
          clear_value termsJp
          split
          · exact Except.okThen_bind fun _ => hterms _
          · split
            all_goals exact Except.okThen_bind fun _ => hterms _
        clear_value keysJp
        split
        · exact Except.okThen_bind fun _ => hkeys _
        · exact hkeys _
      clear_value pairsJp
      split
      · exact Except.okThen_bind fun _ => hpairs _
      · exact Except.okThen_bind fun _ => hpairs _
    clear_value jp
    split
    · exact Except.okThen_bind fun _ => hjp _
    · exact hjp _
  exact key rel h

theorem attr?_relation_name {cat : Catalog} {cls p owner : String} {decl : RelationDecl}
    (h : cat.attr? cls p = some (.relation owner decl)) : decl.name = p := by
  obtain ⟨c, -, hc⟩ := List.exists_of_findSome?_eq_some h
  unfold Catalog.ownAttr? at hc
  -- 列に当たれば関連ではない。関連の並びで見つけたなら名前が一致する
  have hrel : ∀ {o : Option RelationDecl}, (o.map (ClassAttr.relation c.name)) = some (.relation owner decl) →
      o = some decl := by
    intro o ho
    obtain ⟨d, hd, hdecl⟩ := Option.map_eq_some_iff.1 ho
    cases hdecl
    exact hd
  split at hc
  · split at hc
    · cases hc
    · simpa using List.find?_some (hrel hc)
  · split at hc
    · cases hc
    · simpa using List.find?_some (hrel hc)

/-! ## 計算の効果 -/

namespace Run

variable {α β : Type}

/-- 計算の効果: 枠 `F` を保ち、中継ぎがそのまま渡すだけなら記録に高々 `n` 行、成功すればちょうど
`n` 行を足す。 -/
structure Effect (F : Frame) (n : Nat) (x : Run α) : Prop where
  holds : F.Holds x
  writes : x.Writes n
  emits : x.Emits n

/-- 成功すれば終わりの状態が `P` を満たす。 -/
def Ensures (P : Session → Prop) (x : Run α) : Prop := ∀ s a t, x.exec s = (.ok a, t) → P t

variable {F : Frame} {n : Nat}

theorem Effect.of_same {x : Run α} (h : Frame.same.Holds x) : Effect F 0 x :=
  ⟨h.of_same, Writes.of_log h.of_same, Emits.of_log h.of_same⟩

theorem Effect.same_bind {x : Run α} {f : α → Run β} (hx : Frame.same.Holds x) (hf : ∀ a, Effect F n (f a)) :
    Effect F n (x >>= f) :=
  ⟨hx.of_same.bind fun a => (hf a).holds, Writes.same_bind hx fun a => (hf a).writes,
    Emits.same_bind hx fun a => (hf a).emits⟩

/-- 枠が中継ぎの登録を変えないなら、行数を足さない続きを付けても効果の行数は同じ。 -/
theorem Effect.bind_zero (hF : ∀ s t, F.rel s t → t.registry = s.registry) {x : Run α} {f : α → Run β}
    (hx : Effect F n x) (hf : ∀ a, Effect F 0 (f a)) : Effect F n (x >>= f) :=
  ⟨hx.holds.bind fun a => (hf a).holds, Nat.add_zero n ▸ hx.writes.bind (hx.holds.mono hF) fun a => (hf a).writes,
    Nat.add_zero n ▸ hx.emits.bind (hx.holds.mono hF) fun a => (hf a).emits⟩

theorem Effect.mono {G : Frame} {x : Run α} (hFG : ∀ s t, F.rel s t → G.rel s t) (h : Effect F n x) :
    Effect G n x :=
  ⟨h.holds.mono hFG, h.writes, h.emits⟩

theorem Ensures.bind {P : Session → Prop} {x : Run α} {f : α → Run β} (hf : ∀ a, Ensures P (f a)) :
    Ensures P (x >>= f) := fun s b t h => by
  rw [exec_bind] at h
  rcases hx : x.exec s with ⟨r, s'⟩
  rw [hx] at h
  cases r with
  | ok a => exact hf a s' b t h
  | error e => cases h

theorem Ensures.bind_pure {P : Session → Prop} {x : Run α} (hx : Ensures P x) (g : α → β) :
    Ensures P (x >>= fun a => pure (g a)) := fun s b t h => by
  rw [exec_bind] at h
  rcases hxs : x.exec s with ⟨r, s'⟩
  rw [hxs] at h
  cases r with
  | ok a =>
    cases h
    exact hx s a t hxs
  | error e => cases h

/-- 効果に加えて、成功すれば終わりの状態が `P` を満たす。 -/
structure Spec (F : Frame) (P : Session → Prop) (n : Nat) (x : Run α) : Prop extends Effect F n x where
  ensures : Ensures P x

theorem Spec.same_bind {P : Session → Prop} {x : Run α} {f : α → Run β} (hx : Frame.same.Holds x)
    (hf : ∀ a, Spec F P n (f a)) : Spec F P n (x >>= f) :=
  ⟨Effect.same_bind hx fun a => (hf a).toEffect, Ensures.bind fun a => (hf a).ensures⟩

theorem Spec.bind_zero (hF : ∀ s t, F.rel s t → t.registry = s.registry) {P : Session → Prop} {x : Run α}
    {f : α → Run β} (hx : Effect F n x) (hf : ∀ a, Spec F P 0 (f a)) : Spec F P n (x >>= f) :=
  ⟨hx.bind_zero hF fun a => (hf a).toEffect, Ensures.bind fun a => (hf a).ensures⟩

/-- 状態に触れずに値を返す計算に続けるとき、続きは返しうる値についてだけ言えばよい。 -/
theorem Spec.same_bind_of {P : Session → Prop} {x : Run α}
    {f : α → Run β} {Q : α → Prop} (hx : Frame.same.Holds x) (hq : ∀ s a t, x.exec s = (.ok a, t) → Q a)
    (hf : ∀ a, Q a → Spec F P n (f a)) : Spec F P n (x >>= f) := by
  -- 続きの性質は、始めの状態ごとに、`x` の結果で分けて確かめる
  have hcase : ∀ s, (∃ e, (x >>= f).exec s = (.error e, s)) ∨ ∃ a, Q a ∧ (x >>= f).exec s = (f a).exec s := by
    intro s
    have hs : (x.exec s).2 = s := hx s
    rcases hxs : x.exec s with ⟨r, s'⟩
    rw [hxs] at hs
    subst hs
    cases r with
    | error e => exact .inl ⟨e, exec_bind_error hxs f⟩
    | ok a => exact .inr ⟨a, hq _ _ _ hxs, exec_bind_ok hxs f⟩
  refine ⟨⟨fun s => ?_, fun s hs => ?_, fun s b t hs h => ?_⟩, fun s b t h => ?_⟩
  · rcases hcase s with ⟨e, he⟩ | ⟨a, ha, he⟩
    · rw [he]
      exact F.refl s
    · rw [he]
      exact (hf a ha).holds s
  · rcases hcase s with ⟨e, he⟩ | ⟨a, ha, he⟩
    · rw [he]
      exact ⟨[], rfl, Nat.zero_le n⟩
    · rw [he]
      exact (hf a ha).writes s hs
  · rcases hcase s with ⟨e, he⟩ | ⟨a, ha, he⟩
    · rw [he] at h
      cases h
    · rw [he] at h
      exact (hf a ha).emits s b t hs h
  · rcases hcase s with ⟨e, he⟩ | ⟨a, ha, he⟩
    · rw [he] at h
      cases h
    · rw [he] at h
      exact (hf a ha).ensures s b t h

end Run

namespace Session

open Run DataAccess.Frame

/-! ## 覚えの見方 -/

/-- レコード `id` に覚えた関連 `name` の値。 -/
def cachedAt (s : Session) (id : Nat) (name : String) : Option Value :=
  assocGet? ((assocGet? s.cache id).getD []) name

/-- 組のうち、関連 `name` をまだ覚えていないレコード。 -/
def pendingOf (s : Session) (batch : List Value) (name : String) : List Value :=
  batch.filter fun x => (s.cachedAt (recordId x) name).isNone

/-- 名前 `m` の組を除いた並びでは、`m` の値はなく、ほかの値は変わらない。 -/
theorem assocGet?_filter_ne (rels : List (String × Value)) (m n : String) :
    assocGet? (rels.filter (·.1 != m)) n = if n = m then none else assocGet? rels n := by
  unfold assocGet?
  rw [List.find?_filter]
  by_cases hn : n = m
  · subst hn
    rw [if_pos rfl, List.find?_eq_none.2 fun e _ he => by simp_all]
    rfl
  · rw [if_neg hn]
    congr 2
    funext e
    by_cases he : e.1 = n
    · simp [he, hn]
    · simp [he]

theorem exec_cachedRelations (r : Value) (s : Session) :
    (cachedRelations r).exec s = (.ok ((assocGet? s.cache (recordId r)).getD []), s) := rfl

theorem exec_batchRecords (r : Value) (s : Session) :
    (batchRecords r).exec s = (.ok (s.batchAt (recordId r)), s) := rfl

theorem exec_remember (r : Value) (name : String) (v : Value) (s : Session) :
    (remember r name v).exec s = (.ok ⟨⟩,
      { s with cache := assocSet s.cache (recordId r) (assocSet ((assocGet? s.cache (recordId r)).getD []) name v) }) :=
  rfl

theorem cachedAt_remember (r : Value) (name : String) (v : Value) (s : Session) (id : Nat) (n : String) :
    ((remember r name v).exec s).2.cachedAt id n = if id = recordId r ∧ n = name then some v else s.cachedAt id n := by
  rw [exec_remember]
  unfold cachedAt
  simp only [assocGet?_assocSet]
  by_cases hid : id = recordId r
  · subst hid
    by_cases hn : n = name <;> simp [hn, assocGet?_assocSet]
  · simp [hid]

/-- 忘れた後の覚え: 名前を指定すればその関連だけ、しなければ全部の関連を忘れる。 -/
theorem cachedAt_forget (r : Value) (name : Option String) (s : Session) (id : Nat) (n : String) :
    ((forget r name).exec s).2.cachedAt id n =
      if id = recordId r ∧ (name = none ∨ name = some n) then none else s.cachedAt id n := by
  unfold forget
  rw [exec_bind_ok (exec_cachedRelations r s)]
  unfold cachedAt
  cases name with
  | none =>
    simp only [exec_modify, assocGet?_assocSet]
    by_cases hid : id = recordId r <;> simp [hid, assocGet?]
  | some m =>
    simp only [exec_modify, assocGet?_assocSet]
    by_cases hid : id = recordId r
    · subst hid
      by_cases hn : n = m
      · simp [hn, assocGet?_filter_ne]
      · simp [hn, Ne.symm hn, assocGet?_filter_ne]
    · simp [hid]

end Session

/-! ## 覚えの枠 -/

namespace Frame

/-- 関連の覚えのうち、レコード `ids` の関連 `name` のほかを変えない。 -/
def cacheOutside (ids : List Nat) (name : String) : Frame where
  rel s t := ∀ id n, (id ∈ ids → n ≠ name) → t.cachedAt id n = s.cachedAt id n
  refl _ _ _ _ := rfl
  trans h h' id n hn := (h' id n hn).trans (h id n hn)

/-- 関連を読み込む計算の枠: 覚えはレコード `ids` の関連 `name` のほかを変えず、それまでのレコードの組を
崩さない。 -/
def loading (ids : List Nat) (name : String) : Frame := (cacheOutside ids name).both kept

theorem loads_loading {ids : List Nat} {name : String} (s t : Session) (h : loads.rel s t) :
    (loading ids name).rel s t :=
  ⟨fun id n _ => by
    unfold Session.cachedAt
    rw [show t.cache = s.cache from h.2], h.1⟩

theorem loads_registry (s t : Session) (h : loads.rel s t) : t.registry = s.registry :=
  h.1.registry

theorem loading_registry {ids : List Nat} {name : String} (s t : Session) (h : (loading ids name).rel s t) :
    t.registry = s.registry :=
  h.2.registry

end Frame

namespace Session

open Run DataAccess.Frame

/-! ## 覚えさせる繰り返し -/

/-- レコードを順に覚えさせる繰り返しは、覚えだけを変え、並びのどのレコードにもその関連を覚えさせ、
並びのレコードのその関連のほかは変えない。 -/
theorem exec_forIn_remember {name : String} {g : Value → PUnit → Run (ForInStep PUnit)}
    (hg : ∀ x s, ∃ v, (g x ⟨⟩).exec s = (.ok (.yield ⟨⟩), ((remember x name v).exec s).2)) :
    ∀ (xs : List Value) (s : Session), ∃ t, (forIn xs ⟨⟩ g).exec s = (.ok ⟨⟩, t) ∧ t = { s with cache := t.cache } ∧
      (∀ x ∈ xs, t.cachedAt (recordId x) name ≠ none) ∧
      ∀ id n, (id ∈ xs.map recordId → n ≠ name) → t.cachedAt id n = s.cachedAt id n
  | [], s => ⟨s, rfl, rfl, fun _ h => absurd h List.not_mem_nil, fun _ _ _ => rfl⟩
  | x :: xs, s => by
    obtain ⟨v, hx⟩ := hg x s
    obtain ⟨t, hrun, ht, hfill, hframe⟩ := exec_forIn_remember hg xs ((remember x name v).exec s).2
    refine ⟨t, ?_, ?_, ?_, ?_⟩
    · rw [List.forIn_cons, exec_bind_ok hx]
      exact hrun
    · rw [ht]
      rfl
    · intro y hy
      rcases List.mem_cons.1 hy with rfl | hy
      · -- 後のレコードが同じ番号なら後で覚え、そうでなければ今覚えたまま
        by_cases hin : recordId y ∈ xs.map recordId
        · obtain ⟨z, hz, hzid⟩ := List.mem_map.1 hin
          rw [← hzid]
          exact hfill z hz
        · rw [hframe _ _ (fun h => absurd h hin), cachedAt_remember, if_pos ⟨rfl, rfl⟩]
          exact Option.some_ne_none v
      · exact hfill y hy
    · intro id n hn
      rw [hframe id n fun h => hn (List.mem_cons_of_mem _ h), cachedAt_remember,
        if_neg fun (h : id = recordId x ∧ n = name) => hn (h.1 ▸ List.mem_cons_self) h.2]

/-- 覚えさせる繰り返しの効果: 記録に触れず、並びのどのレコードにも関連を覚えさせる。 -/
theorem spec_forIn_remember {name : String} {records : List Value} {g : Value → PUnit → Run (ForInStep PUnit)}
    (hg : ∀ x s, ∃ v, (g x ⟨⟩).exec s = (.ok (.yield ⟨⟩), ((remember x name v).exec s).2)) :
    Spec (Frame.loading (records.map recordId) name) (fun t => ∀ x ∈ records, t.cachedAt (recordId x) name ≠ none) 0
      (forIn records ⟨⟩ g >>= fun _ => (pure PUnit.unit : Run PUnit)) := by
  -- 繰り返しの終わりの状態は、覚えのほかは始めと同じ
  have hrun : ∀ s, ∃ t, (forIn records ⟨⟩ g >>= fun _ => (pure PUnit.unit : Run PUnit)).exec s = (.ok ⟨⟩, t) ∧
      t = { s with cache := t.cache } ∧ (∀ x ∈ records, t.cachedAt (recordId x) name ≠ none) ∧
      ∀ id n, (id ∈ records.map recordId → n ≠ name) → t.cachedAt id n = s.cachedAt id n := by
    intro s
    obtain ⟨t, hx, ht, hfill, hframe⟩ := exec_forIn_remember hg records s
    exact ⟨t, by rw [exec_bind_ok hx]; rfl, ht, hfill, hframe⟩
  refine ⟨⟨fun s => ?_, fun s _ => ?_, fun s a t' _ h => ?_⟩, fun s a t' h => ?_⟩
  · obtain ⟨t, hx, ht, -, hframe⟩ := hrun s
    rw [hx, ht]
    exact ⟨hframe, rfl, rfl, Nat.le_refl _, fun _ _ _ hb => hb⟩
  · obtain ⟨t, hx, ht, -, -⟩ := hrun s
    rw [hx, ht]
    exact ⟨[], rfl, Nat.le_refl 0⟩
  · obtain ⟨t, hx, ht, -, -⟩ := hrun s
    rw [hx] at h
    cases h
    rw [ht]
    exact ⟨[], rfl, rfl⟩
  · obtain ⟨t, hx, -, hfill, -⟩ := hrun s
    rw [hx] at h
    cases h
    exact hfill

/-- 重なりを除く畳み込みは `List.eraseDupsBy` の繰り返しと同じ（あちらは残した値を逆の順に持つ）。 -/
theorem foldl_dedupe_eq_loop (xs acc : List Value) :
    xs.foldl (fun acc k => if Value.memberOf k acc = true then acc else acc ++ [k]) acc =
      List.eraseDupsBy.loop Value.equal xs acc.reverse := by
  induction xs generalizing acc with
  | nil => simp [List.eraseDupsBy.loop]
  | cons x xs ih =>
    have hany : acc.reverse.any (Value.equal x) = Value.memberOf x acc := by
      simp [Value.memberOf, List.any_reverse]
    rw [List.foldl_cons, List.eraseDupsBy.loop, hany]
    cases hm : Value.memberOf x acc
    · rw [ih]
      simp
    · rw [ih]
      rfl

theorem dedupe_eq_eraseDupsBy (xs : List Value) :
    xs.foldl (fun acc k => if Value.memberOf k acc = true then acc else acc ++ [k]) [] =
      xs.eraseDupsBy Value.equal :=
  foldl_dedupe_eq_loop xs []

theorem eraseDupsBy_eq_nil_iff {α : Type} (r : α → α → Bool) (xs : List α) : xs.eraseDupsBy r = [] ↔ xs = [] := by
  cases xs with
  | nil => exact iff_of_true rfl rfl
  | cons x xs => exact iff_of_false (by rw [List.eraseDupsBy_cons]; exact List.cons_ne_nil _ _) (List.cons_ne_nil _ _)

theorem dedupe_isEmpty (xs : List Value) :
    (xs.foldl (fun acc k => if k.memberOf acc = true then acc else acc ++ [k]) []).isEmpty = xs.isEmpty := by
  rw [dedupe_eq_eraseDupsBy, Bool.eq_iff_iff, List.isEmpty_iff, List.isEmpty_iff]
  exact eraseDupsBy_eq_nil_iff Value.equal xs

/-! ## 組の読み込み -/

/-- 検索の効果: それまでのレコードの組と関連の覚えを保ち、記録に高々一行、成功すればちょうど一行。 -/
theorem effect_fetch (cls : String) (st : Statement) : Effect Frame.loads 1 (fetch cls st) :=
  ⟨loads_fetchSql _ _ _, writes_fetchSql _ _ _, emits_fetchSql _ _ _⟩

theorem effect_selectRows (cls : String) (m : Meta) (conds : Value) (opts : FindOptions) :
    Effect Frame.loads 1 (selectRows cls m conds opts) := by
  unfold selectRows
  refine Effect.same_bind (same_requireBound _) fun _ => Effect.same_bind (holds_get.bind fun _ => holds_pure _) fun dc => ?_
  obtain ⟨d, cat⟩ := dc
  exact Effect.same_bind (holds_lift _) fun st => effect_fetch _ _

theorem same_batchKeys (records : List Value) (locals : List Column) : Frame.same.Holds (batchKeys records locals) :=
  (holds_forIn (fun _ _ => (holds_lift _).bind fun _ => holds_pure _) _ _).bind fun _ => holds_pure _

theorem batchKeys_isEmpty {records : List Value} {locals : List Column} {s t : Session} {keys : List Value}
    (h : (batchKeys records locals).exec s = (.ok keys, t)) :
    keys.isEmpty = (records.filterMap fun r => keyOf r locals false).isEmpty := by
  unfold batchKeys at h
  rw [exec_bind] at h
  split at h
  · cases h
    exact dedupe_isEmpty _
  · cases h

/-- 上限の確かめは状態に触れない（場所のモデルの名前を求めることが触れなければ）。 -/
theorem same_checkHardLimit (limit found : Value) (origin : LimitOrigin) {modelName : Run Value}
    (hname : Frame.same.Holds modelName) (relationName : Value) :
    Frame.same.Holds (checkHardLimit limit found origin modelName relationName) := by
  unfold checkHardLimit
  refine (same_lengthOf _).bind fun _ => (holds_lift _).bind fun b => ?_
  cases b
  · exact holds_pure _
  · exact hname.bind fun _ => holds_throw _

theorem same_groupRows (rel : Relation) (found : Value) : Frame.same.Holds (groupRows rel found) := by
  unfold groupRows
  refine (holds_lift _).bind fun rows => holds_foldlM (fun gs row => ?_) _ _
  split
  · split
    · exact (holds_lift _).bind fun _ => holds_pure _
    · exact holds_pure _
  · exact holds_throw _

/-- 相手の表の検索の効果: ちょうど一度だけ検索し、それまでのレコードの組と関連の覚えを保つ。 -/
theorem effect_queryGroups (owner : String) (rel : Relation) (keys : List Value) :
    Effect Frame.loads 1 (queryGroups owner rel keys) := by
  unfold queryGroups
  refine Effect.same_bind (same_metaOf _) fun target => Effect.same_bind (same_hardLimitOf _) fun limit => ?_
  dsimp only
  split
  · -- 上限がなければ、読んだ行をそのまま分ける
    exact Effect.same_bind (holds_pure _) fun _ => Effect.bind_zero Frame.loads_registry (effect_selectRows _ _ _ _)
      fun found => Effect.of_same (same_groupRows rel found)
  · -- 上限があれば一行多く読み、行を分ける前に、上限を越えないことを確かめる
    refine Effect.same_bind (holds_lift _) fun _ =>
      Effect.bind_zero Frame.loads_registry (effect_selectRows _ _ _ _) fun found => Effect.of_same ?_
    split
    · exact same_groupRows rel found
    · exact (same_checkHardLimit _ _ _ ((same_metaOf _).bind fun _ => holds_pure _) _).bind fun _ =>
        same_groupRows rel found

/-- 解決できる関連の読み込みは、解決の後の計算と同じに走り、その計算は次の効果を持つ:
覚えは組のレコードの関連のほかを変えず、記録に足すのは、NULL のないキーを持つレコードがあれば
高々一行（成功すればちょうど一行）、なければ何も足さない。成功すれば組のどのレコードも関連を覚える。 -/
theorem exec_loadBatch {s : Session} (records : List Value) {owner : String} {decl : RelationDecl} {rel : Relation}
    (hrel : s.catalog.resolveRelation owner decl = .ok rel) :
    ∃ x : Run Unit, (loadBatch records owner decl).exec s = x.exec s ∧
      Spec (Frame.loading (records.map recordId) decl.name)
        (fun t => ∀ r ∈ records, t.cachedAt (recordId r) decl.name ≠ none)
        (if (records.filterMap fun r => keyOf r rel.locals false).isEmpty then 0 else 1) x := by
  have hname := resolveRelation_name hrel
  unfold loadBatch
  rw [exec_bind_ok (exec_get s)]
  show ∃ x : Run Unit, (lift (s.catalog.resolveRelation owner decl) >>= _).exec s = x.exec s ∧ _
  rw [exec_bind_ok (show (lift (s.catalog.resolveRelation owner decl)).exec s = (.ok rel, s) by rw [exec_lift, hrel])]
  refine ⟨_, rfl, ?_⟩
  rw [← hname]
  -- 覚えさせる繰り返しは、どの経路でも最後に一度だけ走る
  have hrem : ∀ groups, Spec (Frame.loading (records.map recordId) rel.name)
      (fun t => ∀ r ∈ records, t.cachedAt (recordId r) rel.name ≠ none) 0 (assignGroups records rel groups) :=
    fun _ => spec_forIn_remember fun _ _ => ⟨_, rfl⟩
  refine Spec.same_bind_of (same_batchKeys records rel.locals) (fun _ _ _ h => batchKeys_isEmpty h) fun keys hk => ?_
  split
  · next hempty =>
    rw [if_pos (hk ▸ hempty)]
    exact Spec.same_bind (holds_pure _) hrem
  · next hne =>
    rw [if_neg (hk ▸ hne)]
    exact Spec.bind_zero Frame.loading_registry ((effect_queryGroups _ _ _).mono Frame.loads_loading) hrem

/-! ## 関連を待つ -/

/-- 関連を待つレコードの組: 組に属していればその組、属していなければそのレコードだけ。 -/
def awaitBatch (s : Session) (r : Value) : List Value := (s.batchAt (recordId r)).getD [r]

/-- 関連を読み込む前の状態: 組に属していないレコードには、そのレコードだけの組を作る。 -/
def awaitStart (s : Session) (r : Value) : Session :=
  if (s.batchAt (recordId r)).isSome then s else ((newBatch [r]).exec s).2

theorem exec_forIn_filter {P : Value → Bool} {g : Value → List Value → Run (ForInStep (List Value))} {s : Session}
    (hg : ∀ x acc, (g x acc).exec s = (.ok (.yield (if P x then acc ++ [x] else acc)), s)) :
    ∀ xs acc : List Value, (forIn xs acc g).exec s = (.ok (acc ++ xs.filter P), s)
  | [], acc => by
    rw [List.forIn_nil, List.filter_nil, List.append_nil]
    rfl
  | x :: xs, acc => by
    rw [List.forIn_cons, exec_bind_ok (hg x acc)]
    show (forIn xs _ g).exec s = _
    rw [exec_forIn_filter hg xs, List.filter_cons]
    cases P x <;> simp

theorem exec_awaitAttribute_cached {s : Session} {r : Value} {p owner : String} {decl : RelationDecl} {v : Value}
    (hattr : s.catalog.attr? (recordClass r) p = some (.relation owner decl))
    (hv : s.cachedAt (recordId r) p = some v) : (awaitAttribute r p).exec s = (.ok v, s) := by
  have hv' : assocGet? ((assocGet? s.cache (recordId r)).getD []) p = some v := hv
  unfold awaitAttribute
  rw [exec_bind_ok (exec_get s)]
  simp only [hattr]
  rw [exec_bind_ok (exec_cachedRelations r s)]
  simp only [hv']
  rfl

/-- 覚えていなければ、組のうち覚えていないレコードをまとめて読み込み、覚えた値を返す。 -/
theorem exec_awaitAttribute_miss {s : Session} {r : Value} {p owner : String} {decl : RelationDecl}
    (hattr : s.catalog.attr? (recordClass r) p = some (.relation owner decl))
    (hmiss : s.cachedAt (recordId r) p = none) :
    (awaitAttribute r p).exec s =
      (loadBatch (s.pendingOf (s.awaitBatch r) p) owner decl >>= fun _ =>
        cachedRelations r >>= fun rels => pure ((assocGet? rels p).getD .none)).exec (s.awaitStart r) := by
  have hm : assocGet? ((assocGet? s.cache (recordId r)).getD []) p = none := hmiss
  unfold awaitAttribute
  rw [exec_bind_ok (exec_get s)]
  simp only [hattr]
  rw [exec_bind_ok (exec_cachedRelations r s)]
  simp only [hm]
  rw [exec_bind_ok (exec_batchRecords r s)]
  unfold awaitBatch awaitStart
  -- 覚えていないレコードを集める繰り返しは、状態に触れない
  have hpending : ∀ (t : Session), t.cache = s.cache → ∀ xs : List Value,
      (forIn xs [] fun x (acc : List Value) => do
        let rels ← cachedRelations x
        if (assocGet? rels p).isNone = true then pure (ForInStep.yield (acc ++ [x]))
        else pure (ForInStep.yield acc)).exec t = (.ok (s.pendingOf xs p), t) := by
    intro t ht xs
    refine exec_forIn_filter (P := fun x => (s.cachedAt (recordId x) p).isNone) (fun x acc => ?_) xs []
    rw [exec_bind_ok (exec_cachedRelations x t), ht]
    split <;> simp_all [cachedAt]
  cases hb : s.batchAt (recordId r) with
  | some B =>
    simp only [Option.getD_some, Option.isSome_some, if_true]
    rw [exec_bind_ok (exec_pure B s), exec_bind_ok (hpending s rfl B)]
  | none =>
    simp only [Option.getD_none, Option.isSome_none, Bool.false_eq_true, if_false]
    rw [exec_bind_ok (show (newBatch [r]).exec s = (.ok ⟨⟩, ((newBatch [r]).exec s).2) from rfl),
      exec_bind_ok (exec_pure [r] _), exec_bind_ok (hpending ((newBatch [r]).exec s).2 rfl [r])]

theorem awaitStart_footprint (s : Session) (r : Value) :
    ∃ bo bs nb, s.awaitStart r = { s with batchOf := bo, batches := bs, nextBatch := nb } := by
  unfold awaitStart
  split
  · exact ⟨s.batchOf, s.batches, s.nextBatch, rfl⟩
  · exact ⟨_, _, _, rfl⟩

theorem extends_awaitStart (s : Session) (r : Value) : s.Extends (s.awaitStart r) := by
  unfold awaitStart
  split
  · exact Frame.kept.refl s
  · next hnone =>
    refine ⟨rfl, rfl, Nat.le_refl _, fun id _ b hb => newBatch_batchAt [r] (fun x hx hxid => ?_) hb⟩
    -- 組に属していなかったのは `r` だけなので、組のある番号は `r` の番号でない
    rw [List.mem_singleton.1 hx] at hxid
    rw [hxid, hb] at hnone
    exact hnone rfl

theorem exec_awaitAttribute_other {s : Session} {r : Value} {p : String}
    (h : ∀ owner decl, s.catalog.attr? (recordClass r) p ≠ some (.relation owner decl)) :
    ∃ e, (awaitAttribute r p).exec s = (.error e, s) := by
  unfold awaitAttribute
  rw [exec_bind_ok (exec_get s)]
  simp only
  split
  · next owner decl hattr => exact absurd hattr (h owner decl)
  · exact ⟨_, rfl⟩
  · exact ⟨_, rfl⟩

/-- 読み込んでから覚えを読む計算は、読み込みと同じ状態で終わり、読み込みが成功したときだけ成功する。 -/
theorem exec_bind_read {y : Run Unit} {k : Unit → Run Value} (hk : ∀ u t, ∃ v, (k u).exec t = (.ok v, t))
    (t : Session) : ((y >>= k).exec t).2 = (y.exec t).2 ∧
      ∀ v, ((y >>= k).exec t).1 = .ok v → ∃ u, y.exec t = (.ok u, (y.exec t).2) := by
  rcases hy : y.exec t with ⟨ry, ty⟩
  cases ry with
  | ok u =>
    obtain ⟨v, hv⟩ := hk u ty
    rw [exec_bind_ok hy, hv]
    exact ⟨rfl, fun _ _ => ⟨u, rfl⟩⟩
  | error e =>
    rw [exec_bind_error hy]
    exact ⟨rfl, fun _ h => by cases h⟩

theorem filterMap_isEmpty {f : Value → Option Value} (xs : List Value) :
    (xs.filterMap f).isEmpty = !(xs.any fun x => (f x).isSome) := by
  induction xs with
  | nil => rfl
  | cons x xs ih =>
    rw [List.filterMap_cons, List.any_cons]
    cases hx : f x <;> simp [ih]

theorem exec_loadBatch_error {s : Session} (records : List Value) {owner : String} {decl : RelationDecl} {e : Fault}
    (h : s.catalog.resolveRelation owner decl = .error e) : (loadBatch records owner decl).exec s = (.error e, s) := by
  unfold loadBatch
  rw [exec_bind_ok (exec_get s)]
  show (lift (s.catalog.resolveRelation owner decl) >>= _).exec s = _
  rw [exec_bind_error (show (lift (s.catalog.resolveRelation owner decl)).exec s = (.error e, s) by rw [exec_lift, h])]

/-- レコード `r` の関連 `p` を、覚えていないときに待った結果 `res` と終わりの状態 `t` の法則。 -/
structure AwaitLoad (s : Session) (r : Value) (p owner : String) (decl : RelationDecl) (res : Except Fault Value)
    (t : Session) : Prop where
  /-- それまでのレコードの組を崩さず、目録も中継ぎの登録も変えない。 -/
  kept : s.Extends t
  /-- 覚えが変わるのは、組のうち覚えていなかったレコードの `p` だけ。 -/
  cacheOutside : ∀ id n, (id ∈ (s.pendingOf (s.awaitBatch r) p).map recordId → n ≠ p) →
    t.cachedAt id n = s.cachedAt id n
  /-- 記録に足すのは高々一行。 -/
  atMostOne : ∃ es, t.log = es ++ s.log ∧ es.length ≤ 1
  /-- 覚えていなかったレコードのキーがどれも NULL を含めば、何も足さない。 -/
  quiet : ∀ rel, s.catalog.resolveRelation owner decl = .ok rel →
    (∀ x ∈ s.pendingOf (s.awaitBatch r) p, keyOf x rel.locals false = none) → t.log = s.log
  /-- 成功すれば、覚えていなかったレコードはどれも `p` を覚える。 -/
  fills : ∀ v, res = .ok v → ∀ x ∈ s.pendingOf (s.awaitBatch r) p, t.cachedAt (recordId x) p ≠ none
  /-- 成功すれば、キーの揃ったレコードがあればちょうど一行、なければ何も足さない。 -/
  exactly : ∀ v, res = .ok v → ∃ rel, s.catalog.resolveRelation owner decl = .ok rel ∧ ∃ es, t.log = es ++ s.log ∧
    es.length = if (s.pendingOf (s.awaitBatch r) p).any (fun x => (keyOf x rel.locals false).isSome) then 1 else 0

theorem awaitLoad_miss {s : Session} {r : Value} {p owner : String} {decl : RelationDecl} (hs : s.PassThrough)
    (hattr : s.catalog.attr? (recordClass r) p = some (.relation owner decl))
    (hmiss : s.cachedAt (recordId r) p = none) :
    AwaitLoad s r p owner decl ((awaitAttribute r p).exec s).1 ((awaitAttribute r p).exec s).2 := by
  have hname := attr?_relation_name hattr
  obtain ⟨bo, bs, nb, hstart⟩ := awaitStart_footprint s r
  have hext := extends_awaitStart s r
  -- 読み込みの前に組を作っても、目録、中継ぎ、記録、覚えは変わらない
  have hcat : (s.awaitStart r).catalog = s.catalog := by rw [hstart]
  have hlog : (s.awaitStart r).log = s.log := by rw [hstart]
  have hcache : ∀ id n, (s.awaitStart r).cachedAt id n = s.cachedAt id n := by
    intro id n
    rw [hstart]
    rfl
  have hs₁ : (s.awaitStart r).PassThrough := fun m hm => hs m (by rw [← hext.registry]; exact hm)
  rw [exec_awaitAttribute_miss hattr hmiss]
  obtain ⟨hstate, hok⟩ := exec_bind_read (y := loadBatch (s.pendingOf (s.awaitBatch r) p) owner decl)
    (k := fun _ => cachedRelations r >>= fun rels => pure ((assocGet? rels p).getD .none))
    (fun _ _ => ⟨_, rfl⟩) (s.awaitStart r)
  rw [hstate]
  cases hres : s.catalog.resolveRelation owner decl with
  | error e =>
    -- 解決できなければ、何も読まずに失敗する
    have hload := exec_loadBatch_error (s := s.awaitStart r) (s.pendingOf (s.awaitBatch r) p)
      (by rw [hcat]; exact hres)
    have hfail : ∀ v, ((loadBatch (s.pendingOf (s.awaitBatch r) p) owner decl >>= fun _ =>
        cachedRelations r >>= fun rels => pure ((assocGet? rels p).getD .none)).exec (s.awaitStart r)).1 ≠ .ok v := by
      intro v hv
      rw [exec_bind_error hload] at hv
      cases hv
    rw [hload]
    refine ⟨hext, fun id n _ => hcache id n, ⟨[], hlog, Nat.zero_le 1⟩, fun _ hrel _ => ?_,
      fun v hv => absurd hv (hfail v), fun v hv => absurd hv (hfail v)⟩
    rw [hres] at hrel
    cases hrel
  | ok rel =>
    obtain ⟨x, hx, hspec⟩ := exec_loadBatch (s := s.awaitStart r) (s.pendingOf (s.awaitBatch r) p)
      (by rw [hcat]; exact hres)
    rw [hx] at hok ⊢
    rw [hname] at hspec
    have hframe := hspec.holds (s.awaitStart r)
    obtain ⟨es, hes, hlen⟩ := hspec.writes (s.awaitStart r) hs₁
    rw [hlog] at hes
    -- キーの揃ったレコードがあるかどうかで、行数が決まる
    have hcount : (if ((s.pendingOf (s.awaitBatch r) p).filterMap fun x => keyOf x rel.locals false).isEmpty
        then 0 else 1) = if (s.pendingOf (s.awaitBatch r) p).any (fun x => (keyOf x rel.locals false).isSome)
        then 1 else 0 := by
      rw [filterMap_isEmpty]
      cases (s.pendingOf (s.awaitBatch r) p).any (fun x => (keyOf x rel.locals false).isSome) <;> rfl
    refine ⟨Frame.kept.trans hext hframe.2, fun id n hn => (hframe.1 id n hn).trans (hcache id n),
      ⟨es, hes, Nat.le_trans hlen (by split <;> omega)⟩, fun rel' hrel' hnull => ?_, fun v hv => ?_, fun v hv => ?_⟩
    · -- どのキーにも NULL があれば、キーの並びは空で、行数は 0
      rw [hres] at hrel'
      cases hrel'
      have hempty : ((s.pendingOf (s.awaitBatch r) p).filterMap fun x => keyOf x rel.locals false).isEmpty = true :=
        List.isEmpty_iff.2 (List.filterMap_eq_nil_iff.2 hnull)
      rw [hempty, if_pos rfl] at hlen
      rw [hes, List.eq_nil_of_length_eq_zero (Nat.le_zero.1 hlen), List.nil_append]
    · obtain ⟨u, hu⟩ := hok v hv
      exact hspec.ensures _ u _ hu
    · obtain ⟨u, hu⟩ := hok v hv
      obtain ⟨es', hes', hlen'⟩ := hspec.emits (s.awaitStart r) u _ hs₁ hu
      rw [hlog] at hes'
      exact ⟨rel, hres, es', hes', hlen'.trans hcount⟩

/-! ## 待つことと忘れることの並び -/

/-- 関連の覚えに対する一歩: レコードの関連を待つか、レコードの覚えを忘れる（名前がなければ全部）。 -/
inductive CacheStep where
  | await (r : Value)
  | clear (r : Value) (name : Option String)

namespace CacheStep

/-- 関連 `p` について一歩を走らせる。 -/
def run (p : String) : CacheStep → Run Unit
  | await r => awaitAttribute r p >>= fun _ => pure ()
  | clear r name => forget r name

/-- 覚えを忘れる一歩か。 -/
def isClear : CacheStep → Bool
  | await _ => false
  | clear _ _ => true

/-- 並びのうち、覚えを忘れる一歩の数。 -/
def clears (steps : List CacheStep) : Nat := steps.countP isClear

end CacheStep

/-- 組のどのレコードも関連 `p` を覚えているか。 -/
def allCached (s : Session) (batch : List Value) (p : String) : Bool :=
  batch.all fun x => (s.cachedAt (recordId x) p).isSome

theorem AwaitLoad.allCached_batch {s t : Session} {r : Value} {p owner : String} {decl : RelationDecl}
    {res : Except Fault Value} (h : AwaitLoad s r p owner decl res t) {v : Value} (hv : res = .ok v) :
    t.allCached (s.awaitBatch r) p = true := by
  unfold allCached
  rw [List.all_eq_true]
  intro x hx
  by_cases hin : recordId x ∈ (s.pendingOf (s.awaitBatch r) p).map recordId
  · -- 同じ番号の覚えていなかったレコードが読み込まれた
    obtain ⟨z, hz, hzid⟩ := List.mem_map.1 hin
    rw [← hzid, Option.isSome_iff_ne_none]
    exact h.fills v hv z hz
  · -- 覚えていたレコードの覚えはそのまま
    rw [h.cacheOutside _ _ fun h' => absurd h' hin]
    have hkeep : x ∉ s.pendingOf (s.awaitBatch r) p := fun h' => hin (List.mem_map_of_mem h')
    rw [Option.isSome_iff_ne_none]
    simpa [pendingOf, hx] using hkeep

/-- 組 `batch` が、中継ぎがどれも渡すだけの状態 `s` で、番号を振られたレコードの組として続いている。 -/
structure BatchLive (s : Session) (batch : List Value) : Prop where
  pass : s.PassThrough
  batchAt : ∀ x ∈ batch, s.batchAt (recordId x) = some batch
  issued : ∀ x ∈ batch, recordId x < s.nextRecord

theorem BatchLive.extend {s t : Session} {batch : List Value} (h : BatchLive s batch) (ht : s.Extends t) :
    BatchLive t batch where
  pass m hm := h.pass m (by rw [← ht.registry]; exact hm)
  batchAt x hx := ht.batchAt _ (h.issued x hx) _ (h.batchAt x hx)
  issued x hx := Nat.lt_of_lt_of_le (h.issued x hx) ht.nextRecord

theorem allCached_of_miss {s : Session} {batch : List Value} {r : Value} {p : String} (hr : r ∈ batch)
    (hmiss : s.cachedAt (recordId r) p = none) : s.allCached batch p = false := by
  unfold allCached
  rw [List.all_eq_false]
  exact ⟨r, hr, by simp [hmiss]⟩

theorem forget_footprint (r : Value) (name : Option String) (s : Session) :
    ∃ c, (forget r name).exec s = (.ok ⟨⟩, { s with cache := c }) := by
  unfold forget
  rw [exec_bind_ok (exec_cachedRelations r s)]
  exact ⟨_, rfl⟩

/-- 組のレコードの関連を一度待つと、記録に足す行は、待つ前に覚えていないレコードがあったときだけ高々一行で、
成功すれば組は続き、足した行と覚えていないレコードの有無を合わせても増えない。 -/
theorem await_bound {s : Session} {batch : List Value} {r : Value} {p : String} (h : BatchLive s batch)
    (hr : r ∈ batch) :
    ∃ es, ((awaitAttribute r p).exec s).2.log = es ++ s.log ∧ es.length ≤ (if s.allCached batch p then 0 else 1) ∧
      ∀ v, ((awaitAttribute r p).exec s).1 = .ok v → BatchLive ((awaitAttribute r p).exec s).2 batch ∧
        es.length + (if ((awaitAttribute r p).exec s).2.allCached batch p then 0 else 1) ≤
          (if s.allCached batch p then 0 else 1) := by
  by_cases hrel : ∃ owner decl, s.catalog.attr? (recordClass r) p = some (.relation owner decl)
  · obtain ⟨owner, decl, hattr⟩ := hrel
    cases hc : s.cachedAt (recordId r) p with
    | some v =>
      -- 覚えていれば、状態はそのまま
      rw [exec_awaitAttribute_cached hattr hc]
      exact ⟨[], rfl, Nat.zero_le _, fun _ _ => ⟨h, Nat.le_of_eq (Nat.zero_add _)⟩⟩
    | none =>
      -- 覚えていなければ、`r` の組をまとめて読み込み、成功すれば組の全部が覚える
      have L := awaitLoad_miss h.pass hattr hc
      have hbatch : s.awaitBatch r = batch := by rw [awaitBatch, h.batchAt r hr, Option.getD_some]
      obtain ⟨es, hes, hlen⟩ := L.atMostOne
      rw [allCached_of_miss hr hc, if_neg Bool.false_ne_true]
      refine ⟨es, hes, hlen, fun v hv => ⟨h.extend L.kept, ?_⟩⟩
      have hall := L.allCached_batch hv
      rw [hbatch] at hall
      rw [hall, if_pos rfl, Nat.add_zero]
      exact hlen
  · -- 関連でなければ、状態に触れずに失敗する
    obtain ⟨e, he⟩ := exec_awaitAttribute_other fun owner decl h' => hrel ⟨owner, decl, h'⟩
    rw [he]
    exact ⟨[], rfl, Nat.zero_le _, fun _ hv => by cases hv⟩

/-- 一歩の法則: 足す行は、忘れる一歩の数と覚えていないレコードの有無の和を超えず、
成功すれば組は続き、足した行と終わりの有無の和もその和を超えない。 -/
theorem cacheStep_bound {s : Session} {batch : List Value} {p : String} (step : CacheStep)
    (h : BatchLive s batch) (hstep : ∀ r, step = .await r → r ∈ batch) :
    ∃ es, ((step.run p).exec s).2.log = es ++ s.log ∧
      es.length ≤ (if step.isClear then 1 else 0) + (if s.allCached batch p then 0 else 1) ∧
      (((step.run p).exec s).1 = .ok ⟨⟩ → BatchLive ((step.run p).exec s).2 batch ∧
        es.length + (if ((step.run p).exec s).2.allCached batch p then 0 else 1) ≤
          (if step.isClear then 1 else 0) + (if s.allCached batch p then 0 else 1)) := by
  cases step with
  | await r =>
    obtain ⟨es, hes, hlen, hok⟩ := await_bound (p := p) h (hstep r rfl)
    rcases hx : (awaitAttribute r p).exec s with ⟨res, t⟩
    rw [hx] at hes hok
    cases res with
    | ok v =>
      have hrun : ((CacheStep.await r).run p).exec s = (.ok ⟨⟩, t) := exec_bind_ok hx _
      rw [hrun]
      simp only [CacheStep.isClear, Bool.false_eq_true, if_false, Nat.zero_add]
      exact ⟨es, hes, hlen, fun _ => hok v rfl⟩
    | error e =>
      have hrun : ((CacheStep.await r).run p).exec s = (.error e, t) := exec_bind_error hx _
      rw [hrun]
      simp only [CacheStep.isClear, Bool.false_eq_true, if_false, Nat.zero_add]
      exact ⟨es, hes, hlen, fun hv => by cases hv⟩
  | clear r name =>
    -- 忘れても記録は変わらず、覚えていないレコードの有無は高々一
    obtain ⟨c, hc⟩ := forget_footprint r name s
    have hrun : ((CacheStep.clear r name).run p).exec s = (.ok ⟨⟩, { s with cache := c }) := hc
    rw [hrun]
    simp only [CacheStep.isClear, if_true]
    refine ⟨[], rfl, Nat.zero_le _, fun _ => ⟨h.extend ⟨rfl, rfl, Nat.le_refl _, fun _ _ _ hb => hb⟩, ?_⟩⟩
    split <;> split <;> simp

/-- 並びの法則: 組のレコードを待ち、覚えを忘れる並びを、最初の失敗まで走らせると、
足す行は忘れる一歩の数に、始めに覚えていないレコードがあれば一を足した数を超えない。 -/
theorem cacheSteps_bound {batch : List Value} {p : String} :
    ∀ (steps : List CacheStep) (s : Session), BatchLive s batch → (∀ r, CacheStep.await r ∈ steps → r ∈ batch) →
      ∃ es, ((steps.forM (CacheStep.run p)).exec s).2.log = es ++ s.log ∧
        es.length ≤ CacheStep.clears steps + (if s.allCached batch p then 0 else 1)
  | [], s, _, _ => ⟨[], rfl, Nat.zero_le _⟩
  | step :: rest, s, h, hsteps => by
    obtain ⟨es, hes, hlen, hok⟩ := cacheStep_bound (p := p) step h
      fun r hr => hsteps r (hr ▸ List.mem_cons_self)
    have hclears : CacheStep.clears (step :: rest) = CacheStep.clears rest + (if step.isClear then 1 else 0) :=
      List.countP_cons
    have hcons : (step :: rest).forM (CacheStep.run p) = (step.run p >>= fun _ => rest.forM (CacheStep.run p)) := rfl
    rw [hcons, hclears]
    rcases hx : (step.run p).exec s with ⟨res, t⟩
    rw [hx] at hes hok
    dsimp only at hes hok
    cases res with
    | ok u =>
      -- 一歩が成功すれば、残りの並びを次の状態から走らせる
      rw [exec_bind_ok hx]
      obtain ⟨hlive, hpot⟩ := hok rfl
      obtain ⟨es', hes', hlen'⟩ := cacheSteps_bound rest t hlive fun r hr => hsteps r (List.mem_cons_of_mem _ hr)
      refine ⟨es' ++ es, by rw [hes', hes, List.append_assoc], ?_⟩
      rw [List.length_append]
      omega
    | error e =>
      rw [exec_bind_error hx]
      exact ⟨es, hes, by omega⟩

/-- 組の全部が覚えているときに一つのレコードの関連を忘れると、覚えていないのはその番号のレコードだけ。 -/
theorem pendingOf_forget {s : Session} {batch : List Value} {p : String} (h : s.allCached batch p = true)
    (r : Value) : ((forget r (some p)).exec s).2.pendingOf batch p = batch.filter fun x => recordId x == recordId r := by
  unfold pendingOf
  apply List.filter_congr
  intro x hx
  rw [cachedAt_forget]
  by_cases hid : recordId x = recordId r
  · simp [hid]
  · -- ほかの番号のレコードは覚えたまま
    have hsome : (s.cachedAt (recordId x) p).isSome = true := List.all_eq_true.1 h x hx
    simp only [hid, false_and, if_false]
    rw [beq_false_of_ne hid, ← Option.not_isSome, hsome, Bool.not_true]

/-- 関連の覚えの法則（中継ぎがどれも渡すだけのとき）。覚えていれば、待っても何も発行せずに覚えた値を返す。
覚えていなければ、組のうち覚えていないレコードをまとめて高々一度読み込み、覚えていたレコードには触れない。
組のレコードを待ち、覚えを忘れる並びが発行する数は、忘れる数に一を足した数を超えない。
組の全部が覚えた後で一つを忘れると、次に読み込むのはその番号のレコードだけ。 -/
theorem relation_cache_batched (p : String) :
    (∀ (s : Session) (r : Value) (owner : String) (decl : RelationDecl) (v : Value),
      s.catalog.attr? (recordClass r) p = some (.relation owner decl) →
      s.cachedAt (recordId r) p = some v → (awaitAttribute r p).exec s = (.ok v, s)) ∧
    (∀ (s : Session) (r : Value) (owner : String) (decl : RelationDecl), s.PassThrough →
      s.catalog.attr? (recordClass r) p = some (.relation owner decl) → s.cachedAt (recordId r) p = none →
      AwaitLoad s r p owner decl ((awaitAttribute r p).exec s).1 ((awaitAttribute r p).exec s).2) ∧
    (∀ (batch : List Value) (steps : List CacheStep) (s : Session), BatchLive s batch →
      (∀ r, CacheStep.await r ∈ steps → r ∈ batch) →
      ∃ es, ((steps.forM (CacheStep.run p)).exec s).2.log = es ++ s.log ∧
        es.length ≤ CacheStep.clears steps + (if s.allCached batch p then 0 else 1)) ∧
    (∀ (batch : List Value) (s : Session) (r : Value), s.allCached batch p = true →
      ((forget r (some p)).exec s).2.pendingOf batch p = batch.filter fun x => recordId x == recordId r) :=
  ⟨fun _ _ _ _ _ hattr hv => exec_awaitAttribute_cached hattr hv,
    fun _ _ _ _ hs hattr hmiss => awaitLoad_miss hs hattr hmiss,
    fun _ steps s h hsteps => cacheSteps_bound steps s h hsteps,
    fun _ _ r h => pendingOf_forget h r⟩

/-! ### 利用者とその投稿 -/

/-- 利用者 `User` は投稿 `posts` を持ち、利用者の `id` を投稿の `user_id` に結ぶ。 -/
def forumCatalog : Catalog :=
  let user : ModelSpec :=
    { name := "User", table := some "users", tag := some "User",
      columns := [{ property := "id", primaryKey := .bool true }, { property := "name" }],
      relations := [{ name := "posts", kind := "has_many", target := "Post",
                      keys := .list [.list [.lit (.str "id"), .lit (.str "user_id")]] }] }
  let post : ModelSpec :=
    { name := "Post", table := some "posts", tag := some "Post",
      columns := [{ property := "id", primaryKey := .bool true }, { property := "user_id" }] }
  match Catalog.declareAll [user, post] with
  | .ok cat => cat
  | .error _ => {}

/-- 番号 `id` の利用者のレコード。 -/
def forumUser (id : Nat) : Value := .record id "User" [("id", .int id), ("name", .str "u")] []

/-- 一度の検索で読んだ二人の利用者が一つの組をなし、まだ何も覚えていない状態。 -/
def forumSession (registry : List Middleware) : Session :=
  { (default : Session) with
    catalog := forumCatalog
    registry := registry
    batchOf := [(1, 1), (2, 1)]
    batches := [(1, [forumUser 1, forumUser 2])]
    nextRecord := 3
    nextBatch := 2 }

/-- 二人の投稿を待ち、一人の覚えを忘れてまた待っても、発行は二度を超えない。 -/
theorem forum_awaits_bounded :
    BatchLive (forumSession []) [forumUser 1, forumUser 2] ∧
      ∃ es, ((List.forM [.await (forumUser 1), .await (forumUser 2), .clear (forumUser 1) (some "posts"),
          .await (forumUser 1)] (CacheStep.run "posts")).exec (forumSession [])).2.log =
        es ++ (forumSession []).log ∧ es.length ≤ 2 := by
  have hlive : BatchLive (forumSession []) [forumUser 1, forumUser 2] :=
    ⟨(fun _ hm => nomatch hm), fun x hx => by
      simp only [List.mem_cons, List.not_mem_nil, or_false] at hx
      rcases hx with rfl | rfl <;> rfl, fun x hx => by
      simp only [List.mem_cons, List.not_mem_nil, or_false] at hx
      rcases hx with rfl | rfl <;> decide⟩
  obtain ⟨es, hes, hlen⟩ := (relation_cache_batched "posts").2.2.1 [forumUser 1, forumUser 2]
    [.await (forumUser 1), .await (forumUser 2), .clear (forumUser 1) (some "posts"), .await (forumUser 1)]
    (forumSession []) hlive fun r hr => by
      simp only [List.mem_cons, CacheStep.await.injEq, reduceCtorEq, List.not_mem_nil, or_false, false_or] at hr
      rcases hr with rfl | rfl | rfl <;> simp
  exact ⟨hlive, es, hes, hlen⟩

/-- 次を二度呼ぶ中継ぎがあれば、一度待つだけで同じ読み込みを二度発行する。 -/
theorem twice_middleware_loads_twice :
    ((awaitAttribute (forumUser 1) "posts").exec
      (forumSession [.custom "Twice" [("query", .twice)] []])).2.log.length = 2 := by
  decide +kernel

end Session

end DataAccess
