import DataAccess.Proofs.Effects
import DataAccess.Proofs.Routing
/-!
# 操作が触れる状態

セッションの操作ごとに、状態のどこに触れるかを枠で言う。

* 読むだけの操作（メタデータ、結び付けの確かめ、結果の行と件数、多対の上限、方針）は状態を変えない
  （`Frame.same`）。
* 文を走らせる操作（`execute`、`run`、`runStatement`）が変えるのは記録と溜まりと要求の状態だけ
  （`Frame.stable`）。
* 検索（`fetchSql`）は結果の行からレコードを作るので、新しい番号のレコードとその組を足すが、
  それまでのレコードの組は崩さない（`Frame.kept`）。
* 中継ぎがそのまま渡すだけなら、`run`、`runStatement`、`fetchSql` は記録に高々一行を足し、
  成功すればちょうど一行を足す。
-/

namespace DataAccess

/-! ## 連想の並び -/

section Assoc

variable {α β : Type} [BEq α] [LawfulBEq α] [DecidableEq α]

theorem assocGet?_assocSet (xs : List (α × β)) (k k' : α) (v : β) :
    assocGet? (assocSet xs k v) k' = if k' = k then some v else assocGet? xs k' := by
  unfold assocSet assocGet?
  split
  · next hany =>
    -- 置き換えた組もキーは同じなので、同じ位置の組が見つかる
    have hpred : ((fun kv : α × β => kv.1 == k') ∘ fun kv => if kv.1 == k then (k, v) else kv) =
        (·.1 == k') := by
      funext kv
      by_cases h : kv.1 = k <;> simp [h]
    rw [List.find?_map, hpred]
    cases hf : xs.find? (·.1 == k') with
    | none =>
      obtain ⟨e, he, hek⟩ := List.any_eq_true.1 hany
      have hk : k' ≠ k := fun h => by
        subst h
        exact List.find?_eq_none.1 hf e he hek
      simp [hk]
    | some e =>
      have he : e.1 = k' := by simpa using List.find?_some hf
      by_cases hk : k' = k <;> simp [he, hk]
  · next hany =>
    rw [List.find?_append]
    by_cases hk : k' = k
    · subst hk
      have hnone : xs.find? (·.1 == k') = none := List.find?_eq_none.2 fun e he hek =>
        hany (List.any_eq_true.2 ⟨e, he, hek⟩)
      simp [hnone]
    · simp [hk, Ne.symm hk]

omit [LawfulBEq α] [DecidableEq α] in
theorem assocGet?_append_of_some {xs : List (α × β)} {k : α} {v : β} (h : assocGet? xs k = some v)
    (ys : List (α × β)) : assocGet? (xs ++ ys) k = some v := by
  unfold assocGet? at h ⊢
  obtain ⟨e, he, rfl⟩ := Option.map_eq_some_iff.1 h
  rw [List.find?_append, he]
  rfl

theorem assocGet?_foldl_assocSet {k : α} (b : β) :
    ∀ (ks : List α) (acc : List (α × β)), k ∉ ks →
      assocGet? (ks.foldl (fun acc i => assocSet acc i b) acc) k = assocGet? acc k
  | [], _, _ => rfl
  | i :: ks, acc, hk => by
    rw [List.foldl_cons, assocGet?_foldl_assocSet b ks _ (fun h => hk (List.mem_cons_of_mem i h)),
      assocGet?_assocSet, if_neg (fun h : k = i => hk (h ▸ List.mem_cons_self))]

end Assoc

namespace Run

variable {α β : Type}

theorem Writes.bind_log {x : Run α} {f : α → Run β} {n : Nat} (hx : x.Writes n) (hreg : Frame.registry.Holds x)
    (hf : ∀ a, Frame.log.Holds (f a)) : (x >>= f).Writes n :=
  Nat.add_zero n ▸ hx.bind hreg fun a => Writes.of_log (hf a)

theorem Emits.bind_log {x : Run α} {f : α → Run β} {n : Nat} (hx : x.Emits n) (hreg : Frame.registry.Holds x)
    (hf : ∀ a, Frame.log.Holds (f a)) : (x >>= f).Emits n :=
  Nat.add_zero n ▸ hx.bind hreg fun a => Emits.of_log (hf a)

end Run

/-- 検索の結果を読む計算の枠: それまでのレコードの組を崩さず、関連の覚えを変えない。 -/
def Frame.loads : Frame := Frame.kept.both Frame.cache

theorem Frame.Holds.stable_loads {α : Type} {x : Run α} (h : Frame.stable.Holds x) : Frame.loads.Holds x :=
  fun s => ⟨h.stable_kept s, h.stable_cache s⟩

namespace Session

open Run DataAccess.Frame

/-! ## 読むだけの操作 -/

theorem same_metaOf (cls : String) : Frame.same.Holds (metaOf cls) :=
  holds_get.bind fun _ => holds_lift _

theorem same_requireBound (cls : String) : Frame.same.Holds (requireBound cls) := by
  refine holds_of_state fun s => ?_
  unfold requireBound
  rw [exec_bind_ok (exec_get s)]
  split <;> rfl

theorem same_rowsOf (v : Value) : Frame.same.Holds (rowsOf v) := by
  refine holds_of_state fun _ => ?_
  unfold rowsOf
  split <;> rfl

theorem same_lengthOf (v : Value) : Frame.same.Holds (lengthOf v) := by
  refine holds_of_state fun _ => ?_
  unfold lengthOf
  split <;> rfl

theorem same_checkWrite (operation : String) (modelName : Option String) (autocommit : Bool) :
    Frame.same.Holds (checkWrite operation modelName autocommit) := by
  refine holds_of_state fun s => ?_
  unfold checkWrite
  rw [exec_bind_ok (exec_get s)]
  split <;> split <;> rfl

theorem same_hardLimitOf (rel : Relation) : Frame.same.Holds (hardLimitOf rel) := by
  unfold hardLimitOf
  split
  · exact holds_pure _
  · split
    · exact holds_pure _
    · refine (same_metaOf _).bind fun _ => ?_
      split
      · exact (same_requireBound _).bind fun _ => holds_get.bind fun _ => holds_pure _
      · exact holds_pure _
    · exact holds_pure _

/-! ## 文を走らせる操作 -/

theorem stable_modifyPool (s : Session) (r : Role) (f : Pool → Pool) : Frame.stable.rel s (s.modifyPool r f) := by
  unfold modifyPool
  split <;> exact ⟨rfl, rfl, rfl, rfl, rfl, rfl⟩

theorem stable_append (r : Role) (sql : String) (params : List Value) : Frame.stable.Holds (append r sql params) := by
  unfold append
  exact holds_modify fun _ => ⟨rfl, rfl, rfl, rfl, rfl, rfl⟩

theorem stable_execute (r : Role) (sql : String) (params : List Value) : Frame.stable.Holds (execute r sql params) := by
  unfold execute
  refine (stable_append r sql params).bind fun _ => holds_get_bind fun s => ?_
  split
  · exact Frame.stable.refl s
  · rw [exec_bind_ok (exec_set _ _)]
    split <;> exact stable_modifyPool _ _ _

theorem Routes.refused {x : Run Value} {s : Session} {sql : String} {params : List Value} {write : Bool}
    {operation : String} {modelName : Option String} {autocommit : Bool}
    (h : Routes x s sql params write operation modelName autocommit) (hr : s.refuses write autocommit = true) :
    ∃ e, x.exec s = (.error e, s) := by
  unfold refuses at hr
  cases write with
  | false => cases hr
  | true =>
    cases hb : s.binding with
    | some b =>
      rw [hb] at hr
      exact ⟨_, h.readOnly b hb hr rfl⟩
    | none =>
      rw [hb] at hr
      obtain ⟨ha, hreq⟩ : autocommit = false ∧ s.settings.requireTransactionForWrites = true := by
        simpa using hr
      exact ⟨_, h.outside hb rfl ha hreq⟩

theorem stable_prepared (s : Session) (write : Bool) : Frame.stable.rel s (s.prepared write) := by
  unfold prepared
  split
  · exact Frame.stable.refl s
  · exact stable_modifyPool _ _ _

theorem stable_run (st : Statement) (write : Bool) (operation : String) (modelName : Option String)
    (autocommit : Bool) : Frame.stable.Holds (run st write operation modelName autocommit) := by
  intro s
  have h := run_routes s st write operation modelName autocommit
  cases hr : s.refuses write autocommit with
  | true =>
    obtain ⟨e, he⟩ := h.refused hr
    rw [he]
    exact Frame.stable.refl s
  | false =>
    rw [h.runs hr]
    exact Frame.stable.trans (stable_prepared s write) (stable_execute _ _ _ _)

theorem stable_runStatement (cls : String) (st : Statement) (write : Bool) (operation : String)
    (autocommit : Bool) : Frame.stable.Holds (runStatement cls st write operation autocommit) := by
  unfold runStatement
  refine (same_requireBound cls).of_same.bind fun _ => (same_metaOf cls).of_same.bind fun _ => ?_
  exact holds_dispatch (F := Frame.stable) (fun _ _ => ⟨rfl, rfl, rfl, rfl, rfl, rfl⟩)
    (fun _ _ => ⟨rfl, rfl, rfl, rfl, rfl, rfl⟩)
    _ _ _ fun _ => stable_run _ _ _ _ _

/-! ## 記録に足す行 -/

theorem writes_run (st : Statement) (write : Bool) (operation : String) (modelName : Option String)
    (autocommit : Bool) : (run st write operation modelName autocommit).Writes 1 := by
  intro s _
  have h := run_routes s st write operation modelName autocommit
  cases hr : s.refuses write autocommit with
  | true =>
    obtain ⟨e, he⟩ := h.refused hr
    rw [he]
    exact ⟨[], rfl, Nat.zero_le 1⟩
  | false => exact ⟨[_], h.once hr, Nat.le_refl 1⟩

theorem emits_run (st : Statement) (write : Bool) (operation : String) (modelName : Option String)
    (autocommit : Bool) : (run st write operation modelName autocommit).Emits 1 := by
  intro s a s' _ hx
  have h := run_routes s st write operation modelName autocommit
  cases hr : s.refuses write autocommit with
  | true =>
    obtain ⟨e, he⟩ := h.refused hr
    rw [he] at hx
    cases hx
  | false =>
    have hlog := h.once hr
    rw [hx] at hlog
    exact ⟨[_], hlog, rfl⟩

theorem writes_runStatement (cls : String) (st : Statement) (write : Bool) (operation : String)
    (autocommit : Bool) : (runStatement cls st write operation autocommit).Writes 1 := by
  unfold runStatement
  exact Writes.same_bind (same_requireBound cls) fun _ => Writes.same_bind (same_metaOf cls) fun _ =>
    Writes.dispatch _ _ _ fun _ => writes_run _ _ _ _ _

theorem emits_runStatement (cls : String) (st : Statement) (write : Bool) (operation : String)
    (autocommit : Bool) : (runStatement cls st write operation autocommit).Emits 1 := by
  unfold runStatement
  exact Emits.same_bind (same_requireBound cls) fun _ => Emits.same_bind (same_metaOf cls) fun _ =>
    Emits.dispatch _ _ _ fun _ => emits_run _ _ _ _ _

/-! ## 行からレコードを作る -/

theorem exec_lift {α : Type} (x : Except Fault α) (s : Session) : (lift x).exec s = (x, s) := by
  cases x <;> rfl

theorem exec_freshRecord (s : Session) :
    freshRecord.exec s = (.ok s.nextRecord, { s with nextRecord := s.nextRecord + 1 }) := rfl

theorem recordOfRow_id {cat : Catalog} {cls : String} {id : Nat} {row : List (Value × Value)} {v : Value}
    (h : cat.recordOfRow cls id row = .ok v) : recordId v = id := by
  unfold Catalog.recordOfRow at h
  simp only [bind, Except.bind] at h
  split at h
  · cases h
  · split at h
    · cases h
    · cases h
      rfl

/-- 一つごとに新しい番号を一つ使ってレコードを作るなら、並び全体では番号を先へ進めるだけで、
作ったレコードの番号は始めの次の番号より小さくない。 -/
theorem exec_mapM_fresh {g : Value → Run Value}
    (hg : ∀ row s, ((g row).exec s).2 = { s with nextRecord := s.nextRecord + 1 } ∧
      ∀ v, ((g row).exec s).1 = .ok v → recordId v = s.nextRecord) :
    ∀ (rows : List Value) (s : Session), ∃ n, ((rows.mapM g).exec s).2 = { s with nextRecord := s.nextRecord + n } ∧
      ∀ vs, ((rows.mapM g).exec s).1 = .ok vs → ∀ v ∈ vs, s.nextRecord ≤ recordId v
  | [], s => ⟨0, rfl, fun vs h v hv => by cases h; cases hv⟩
  | row :: rows, s => by
    obtain ⟨hstate, hid⟩ := hg row s
    rw [List.mapM_cons]
    rcases hx : (g row).exec s with ⟨r, s₁⟩
    rw [hx] at hstate hid
    subst hstate
    cases r with
    | error e => exact ⟨1, by rw [exec_bind_error hx], fun vs h => by rw [exec_bind_error hx] at h; cases h⟩
    | ok v =>
      -- 残りの行は一つ先の番号から作る
      obtain ⟨n, hrest, hids⟩ := exec_mapM_fresh hg rows { s with nextRecord := s.nextRecord + 1 }
      rw [exec_bind_ok hx, exec_bind]
      rcases hy : (rows.mapM g).exec { s with nextRecord := s.nextRecord + 1 } with ⟨r', s₂⟩
      rw [hy] at hrest hids
      subst hrest
      refine ⟨1 + n, by cases r' <;> simp [Nat.add_assoc], fun vs h w hw => ?_⟩
      cases r' with
      | error e => cases h
      | ok ws =>
        cases h
        rcases List.mem_cons.1 hw with rfl | hw
        · exact Nat.le_of_eq (hid w rfl).symm
        · exact Nat.le_of_lt (Nat.lt_of_lt_of_le (Nat.lt_succ_self _) (hids ws rfl w hw))

/-- 行一つからレコードを作る一歩は、新しい番号を一つ使い、その番号のレコードを作る。 -/
theorem fresh_records (cat : Catalog) (cls : String) (entries : Value → List (Value × Value)) (row : Value)
    (s : Session) :
    ((do let id ← freshRecord; lift (cat.recordOfRow cls id (entries row)) : Run Value).exec s).2 =
        { s with nextRecord := s.nextRecord + 1 } ∧
      ∀ v, ((do let id ← freshRecord; lift (cat.recordOfRow cls id (entries row)) : Run Value).exec s).1 = .ok v →
        recordId v = s.nextRecord := by
  rw [exec_bind_ok (exec_freshRecord s), exec_lift]
  exact ⟨rfl, fun _ hv => recordOfRow_id hv⟩

theorem mapM_fresh_of_exec {g : Value → Run Value}
    (hg : ∀ row s, ((g row).exec s).2 = { s with nextRecord := s.nextRecord + 1 } ∧
      ∀ v, ((g row).exec s).1 = .ok v → recordId v = s.nextRecord)
    {rows : List Value} {s s₁ : Session} {r : Except Fault (List Value)} (h : (rows.mapM g).exec s = (r, s₁)) :
    ∃ n, s₁ = { s with nextRecord := s.nextRecord + n } ∧ ∀ vs, r = .ok vs → ∀ v ∈ vs, s.nextRecord ≤ recordId v := by
  obtain ⟨n, hstate, hids⟩ := exec_mapM_fresh hg rows s
  rw [h] at hstate hids
  exact ⟨n, hstate, hids⟩

theorem newBatch_batchAt (records : List Value) {s : Session} {id : Nat} (hid : ∀ x ∈ records, recordId x ≠ id)
    {b : List Value} (hb : s.batchAt id = some b) : ((newBatch records).exec s).2.batchAt id = some b := by
  unfold newBatch
  rw [exec_bind_ok (exec_get s)]
  unfold batchAt at hb ⊢
  obtain ⟨n, hn, hb'⟩ := Option.bind_eq_some_iff.1 hb
  simp only [exec_set]
  -- 組に入れたレコードの番号は `id` でないので、`id` の組の番号は変わらない
  rw [assocGet?_foldl_assocSet _ _ _ ?hnot, hn]
  · exact assocGet?_append_of_some hb' _
  · intro hmem
    obtain ⟨x, hx, hxid⟩ := List.mem_filterMap.1 hmem
    apply hid x hx
    split at hxid
    · cases hxid
      rfl
    · cases hxid

/-- 行からレコードを作ると、番号を先へ進め、組を足すだけ。それまでのレコードの組はそのまま。 -/
theorem fromRows_footprint (cls : String) (rows : List Value) (s : Session) :
    ∃ n bo bs nb, ((fromRows cls rows).exec s).2 =
      { s with nextRecord := s.nextRecord + n, batchOf := bo, batches := bs, nextBatch := nb } ∧
      s.Extends ((fromRows cls rows).exec s).2 := by
  unfold fromRows
  rw [exec_bind_ok (exec_get s), exec_bind]
  split
  · next records s₁ hm =>
    obtain ⟨n, rfl, hids⟩ := mapM_fresh_of_exec (fresh_records s.catalog cls _) hm
    -- 作ったレコードの番号は、それまでのどの番号とも違う
    have hnew : ∀ id < s.nextRecord, ∀ x ∈ records, recordId x ≠ id := fun id hid x hx hx' =>
      Nat.lt_irrefl _ (Nat.lt_of_lt_of_le hid (hx' ▸ hids records rfl x hx))
    split
    · rw [exec_bind]
      exact ⟨n, _, _, _, rfl, rfl, rfl, Nat.le_add_right _ _,
        fun id hid b hb => newBatch_batchAt records (hnew id hid) hb⟩
    · exact ⟨n, s.batchOf, s.batches, s.nextBatch, rfl, rfl, rfl, Nat.le_add_right _ _, fun _ _ _ hb => hb⟩
  · next e s₁ hm =>
    obtain ⟨n, rfl, -⟩ := mapM_fresh_of_exec (fresh_records s.catalog cls _) hm
    exact ⟨n, s.batchOf, s.batches, s.nextBatch, rfl, rfl, rfl, Nat.le_add_right _ _, fun _ _ _ hb => hb⟩

theorem loads_fromRows (cls : String) (rows : List Value) : Frame.loads.Holds (fromRows cls rows) := by
  intro s
  obtain ⟨n, bo, bs, nb, h, hext⟩ := fromRows_footprint cls rows s
  exact ⟨hext, by rw [h]; rfl⟩

theorem log_fromRows (cls : String) (rows : List Value) : Frame.log.Holds (fromRows cls rows) := by
  intro s
  obtain ⟨n, bo, bs, nb, h, -⟩ := fromRows_footprint cls rows s
  rw [h]
  rfl

/-! ## 検索 -/

/-- 検索はそれまでのレコードの組を崩さず、関連の覚えを変えない（中継ぎの振る舞いによらない）。 -/
theorem loads_fetchSql (cls : String) (sql : Value) (params : List Value) :
    Frame.loads.Holds (fetchSql cls sql params) := by
  unfold fetchSql
  refine holds_dispatch (F := Frame.loads) (fun _ _ => ⟨⟨rfl, rfl, Nat.le_refl _, fun _ _ _ h => h⟩, rfl⟩)
    (fun _ _ => ⟨⟨rfl, rfl, Nat.le_refl _, fun _ _ _ h => h⟩, rfl⟩) _ _ _ fun _ => ?_
  exact (holds_lift _).bind fun _ => (stable_runStatement _ _ _ _ _).stable_loads.bind fun _ =>
    (same_rowsOf _).of_same.bind fun _ => (loads_fromRows _ _).bind fun _ => holds_pure _

theorem writes_fetchSql (cls : String) (sql : Value) (params : List Value) :
    (fetchSql cls sql params).Writes 1 := by
  unfold fetchSql
  refine Writes.dispatch _ _ _ fun _ => Writes.same_bind (holds_lift _) fun _ => ?_
  -- 文を走らせた後は、結果の行からレコードを作るだけ
  exact (writes_runStatement cls _ _ _ false).bind_log (stable_runStatement _ _ _ _ _).stable_kept.kept_registry
    fun _ => (same_rowsOf _).of_same.bind fun _ => (log_fromRows cls _).bind fun _ => holds_pure _

theorem emits_fetchSql (cls : String) (sql : Value) (params : List Value) :
    (fetchSql cls sql params).Emits 1 := by
  unfold fetchSql
  refine Emits.dispatch _ _ _ fun _ => Emits.same_bind (holds_lift _) fun _ => ?_
  exact (emits_runStatement cls _ _ _ false).bind_log (stable_runStatement _ _ _ _ _).stable_kept.kept_registry
    fun _ => (same_rowsOf _).of_same.bind fun _ => (log_fromRows cls _).bind fun _ => holds_pure _

end Session

end DataAccess
