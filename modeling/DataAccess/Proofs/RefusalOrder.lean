import DataAccess.Proofs.Refusals
/-!
# 拒む失敗は文の前に

モデルの操作（検索、件数、挿入、更新、削除、一括更新、生の SQL、関連を待つこと、関連の前もっての
読み込み）は、中継ぎがそのまま渡すだけでドライバが正直なら、拒むとき文を一つも送っておらず、関連の覚えも
変えていない。どの操作も、文を送らずに拒みうる所（方針の確かめ、文の組み立て）の後に文を走らせ、その後は
応答を読むだけで拒まない、という形をしている。書き込みは方針を通った後にキーを読む文と書き込みの文を
走らせるが、方針の確かめは束縛と設定だけで決まり、文を走らせてもそれは変わらないので、どちらの文も拒まない。
挿入のキーを答える所は行を正規化し直すが、文を組み立てられた行は正規化できる。

関連を前もって読む操作だけは違う。名前ごとに、関連があるかを確かめてから読むので、二つ目以降の名前で
拒むと、前の名前の読み込みの文はもう送られている。拒んだときの記録と覚えは、拒んだ名前の前までを
読み終えたときのもの（`preload_refuses_after_loaded_prefix`）。
-/

namespace DataAccess

namespace Session

open Run

variable {P : Session → Prop}

/-! ### 応答を読む -/

theorem neverRefuses_rowsOf (v : Value) : NeverRefuses P (rowsOf v) := by
  unfold rowsOf
  split
  · exact neverRefuses_pure _
  · exact neverRefuses_throw rfl

theorem neverRefuses_lengthOf (v : Value) : NeverRefuses P (lengthOf v) := by
  unfold lengthOf
  split
  all_goals first | exact neverRefuses_pure _ | exact neverRefuses_throw rfl

theorem neverRefuses_firstOf (v : Value) : NeverRefuses P (firstOf v) := by
  unfold firstOf
  split
  · exact neverRefuses_pure _
  · exact neverRefuses_lift v.first_noRefusal

theorem neverRefuses_keysFromRows (hP : Persists P) (pk : List Column) (rows : List Value) :
    NeverRefuses P (keysFromRows pk rows) := by
  unfold keysFromRows
  exact (neverRefuses_lift (noRefusal_mapM (rowKey_noRefusal pk) rows)).bind hP fun _ => neverRefuses_pure _

theorem neverRefuses_freshRecord : NeverRefuses P freshRecord :=
  .of_ok (fun _ => ⟨rfl, rfl, rfl, id⟩) fun _ => ⟨_, rfl⟩

theorem neverRefuses_newBatch (records : List Value) : NeverRefuses P (newBatch records) :=
  .of_ok (fun _ => ⟨rfl, rfl, rfl, id⟩) fun _ => ⟨_, rfl⟩

theorem neverRefuses_get : NeverRefuses P (get : Run Session) :=
  .of_same Frame.holds_get fun _ => noRefusal_ok _

theorem neverRefuses_fromRows (hP : Persists P) (cls : String) (rows : List Value) :
    NeverRefuses P (fromRows cls rows) := by
  unfold fromRows
  refine neverRefuses_get.bind hP fun s => (NeverRefuses.mapM hP (fun row => neverRefuses_freshRecord.bind hP
    fun id => neverRefuses_lift (Catalog.recordOfRow_noRefusal _ _ _ _)) rows).bind hP fun records => ?_
  split
  · exact (neverRefuses_newBatch _).bind hP fun _ => neverRefuses_pure _
  · exact neverRefuses_pure _

theorem neverRefuses_checkHardLimit (hP : Persists P) (limit found : Value) (origin : LimitOrigin)
    {modelName : Run Value} (hm : NeverRefuses P modelName) (relationName : Value) :
    NeverRefuses P (checkHardLimit limit found origin modelName relationName) := by
  unfold checkHardLimit
  refine (neverRefuses_lengthOf found).bind hP fun n => (neverRefuses_lift (Value.greater_noRefusal _ _)).bind hP
    fun b => ?_
  split
  · exact hm.bind hP fun _ => neverRefuses_throw rfl
  · exact neverRefuses_pure _

theorem neverRefuses_writeKeys (hP : Persists P) (m : Meta) (opts : WriteOptions) (result : Value)
    (preselected : Option Value) : NeverRefuses P (writeKeys m opts result preselected) := by
  unfold writeKeys
  split
  · exact neverRefuses_pure _
  · refine neverRefuses_get.bind hP fun s => ?_
    split
    · exact neverRefuses_pure _
    · exact (neverRefuses_rowsOf result).bind hP fun rows => neverRefuses_keysFromRows hP _ rows

theorem neverRefuses_groupRows (hP : Persists P) (rel : Relation) (found : Value) :
    NeverRefuses P (groupRows rel found) := by
  unfold groupRows
  refine (neverRefuses_lift found.iterate_noRefusal).bind hP fun rows =>
    NeverRefuses.foldlM hP (fun gs row => ?_) rows []
  split
  · split
    · exact (neverRefuses_lift (Value.requireHashable_noRefusal _)).bind hP fun _ => neverRefuses_pure _
    · exact neverRefuses_pure _
  · exact neverRefuses_throw rfl

theorem neverRefuses_remember (r : Value) (name : String) (v : Value) : NeverRefuses P (remember r name v) :=
  .of_ok (fun s => by rw [exec_remember]; exact ⟨rfl, rfl, rfl, id⟩) fun s => ⟨_, by rw [exec_remember]⟩

theorem neverRefuses_assignGroups (hP : Persists P) (records : List Value) (rel : Relation)
    (groups : List (Value × List Value)) : NeverRefuses P (assignGroups records rel groups) := by
  unfold assignGroups
  exact (NeverRefuses.forIn hP (fun _ _ => (neverRefuses_remember _ _ _).bind hP fun _ => neverRefuses_pure _)
    records PUnit.unit).bind hP fun _ => neverRefuses_pure _

theorem neverRefuses_normalizeRows {m : Meta} {rows : List Value} {ns : List Row}
    (hns : rows.mapM (m.normalizeRow · false) = .ok ns) :
    NeverRefuses P (rows.mapM fun r => lift (m.normalizeRow r false)) where
  guard := Frame.holds_mapM (fun _ => Frame.holds_lift _) _
  never s _ _ := by
    rw [exec_normalizeRows s hns]
    exact noRefusal_ok _

theorem neverRefuses_reportedKeys (hP : Persists P) {m : Meta} {rows : List Value}
    (hnorm : ∃ ns, rows.mapM (m.normalizeRow · false) = .ok ns) (result : Value) :
    NeverRefuses P (reportedKeys m rows result) := by
  obtain ⟨ns, hns⟩ := hnorm
  unfold reportedKeys
  refine (neverRefuses_normalizeRows hns).bind hP fun normalized => ?_
  split
  · exact neverRefuses_pure _
  · split
    · split
      · exact neverRefuses_pure _
      · exact (NeverRefuses.mapM hP (fun _ => (neverRefuses_lift (Value.add_noRefusal _ _)).bind hP
          fun _ => neverRefuses_pure _) _).bind hP fun _ => neverRefuses_pure _
      · exact neverRefuses_throw rfl
    · exact neverRefuses_pure _

/-! ### 文を送らない所 -/

theorem persists_true : Persists fun _ => True := fun _ _ _ _ => trivial

theorem same_context : Frame.same.Holds context := Frame.holds_of_state fun _ => rfl

theorem same_needsPreselect (m : Meta) (opts : WriteOptions) : Frame.same.Holds (needsPreselect m opts) :=
  Frame.holds_of_state fun _ => rfl

theorem same_findLimitOf (cls : String) (m : Meta) : Frame.same.Holds (findLimitOf cls m) := by
  unfold findLimitOf
  split
  · exact (same_requireBound cls).bind fun _ => Frame.holds_get.bind fun _ => Frame.holds_pure _
  · exact Frame.holds_pure _

theorem same_adaptAll (params : List Value) : Frame.same.Holds (adaptAll params) := by
  unfold adaptAll
  exact Frame.holds_get.bind fun _ => Frame.holds_mapM (fun _ => Frame.holds_lift _) _

theorem same_cachedRelations (r : Value) : Frame.same.Holds (cachedRelations r) :=
  Frame.holds_of_state fun _ => rfl

/-! ### 検索 -/

section Fetch

variable (hP : Persists P)
include hP

theorem refusesUpfront_fetchSql (cls : String) (sql : Value) (params : List Value) :
    RefusesUpfront P (fetchSql cls sql params) := by
  unfold fetchSql
  exact .dispatch hP _ _ _ fun _ => .idle_bind hP (Frame.holds_lift _) fun _ =>
    (refusesUpfront_runStatement hP _ _ _ _ _).bind_never hP fun result =>
      (neverRefuses_rowsOf result).bind hP fun rows => (neverRefuses_fromRows hP _ rows).bind hP fun _ =>
        neverRefuses_pure _

theorem refusesUpfront_selectRows (cls : String) (m : Meta) (conds : Value) (opts : FindOptions) :
    RefusesUpfront P (selectRows cls m conds opts) := by
  unfold selectRows
  refine .idle_bind hP (same_requireBound cls).same_idle fun _ => .idle_bind hP same_context.same_idle fun p => ?_
  obtain ⟨d, cat⟩ := p
  exact .idle_bind hP (Frame.holds_lift _) fun _ => refusesUpfront_fetchSql hP _ _ _

end Fetch

theorem refusesUpfront_find (cls : String) (conds : Value) (opts : FindOptions) :
    RefusesUpfront (fun _ => True) (find cls conds opts) := by
  have hT := persists_true
  unfold find findRows
  refine .dispatch hT _ _ _ fun conds => .idle_bind hT (same_metaOf cls).same_idle fun m =>
    .idle_bind hT (same_findLimitOf cls m).same_idle fun limit => ?_
  dsimp only
  -- 上限を確かめるなら、検索の件数を上限より一つ多くする
  split
  all_goals try refine .idle_bind hT (Frame.holds_lift _) fun _ => ?_
  all_goals
    refine .idle_bind hT (Frame.holds_pure _) fun _ =>
      (refusesUpfront_selectRows hT _ _ _ _).bind_never hT fun records => ?_
    first
      | exact (neverRefuses_checkHardLimit hT _ _ _ (neverRefuses_pure _) _).bind hT fun _ => neverRefuses_pure _
      | exact neverRefuses_pure _

theorem refusesUpfront_findOne (cls : String) (conds : Value) (opts : FindOptions) :
    RefusesUpfront (fun _ => True) (findOne cls conds opts) := by
  have hT := persists_true
  unfold findOne findFirst
  exact .dispatch hT _ _ _ fun _ => .idle_bind hT (same_requireBound cls).same_idle fun _ =>
    .idle_bind hT (same_metaOf cls).same_idle fun _ =>
      (refusesUpfront_selectRows hT _ _ _ _).bind_never hT fun records => neverRefuses_firstOf records

theorem refusesUpfront_findById (cls : String) (keys : Value) (opts : FindOptions) :
    RefusesUpfront (fun _ => True) (findById cls keys opts) := by
  have hT := persists_true
  unfold findById findKeys
  refine .dispatch hT _ _ _ fun _ => .idle_bind hT (same_requireBound cls).same_idle fun _ =>
    .idle_bind hT (same_metaOf cls).same_idle fun _ => .idle_bind hT same_context.same_idle fun p => ?_
  obtain ⟨d, cat⟩ := p
  exact .idle_bind hT (Frame.holds_lift _) fun _ => .idle_bind hT (Frame.holds_lift _) fun st =>
    refusesUpfront_fetchSql hT _ _ _

theorem refusesUpfront_count (cls : String) (conds : Value) (opts : FindOptions) :
    RefusesUpfront (fun _ => True) (count cls conds opts) := by
  have hT := persists_true
  unfold count countRows
  refine .dispatch hT _ _ _ fun _ => .idle_bind hT (same_requireBound cls).same_idle fun _ =>
    .idle_bind hT (same_metaOf cls).same_idle fun _ => .idle_bind hT same_context.same_idle fun p => ?_
  obtain ⟨d, cat⟩ := p
  refine .idle_bind hT (Frame.holds_lift _) fun _ => (refusesUpfront_runStatement hT _ _ _ _ _).bind_never hT
    fun result => (neverRefuses_rowsOf result).bind hT fun rows => ?_
  -- 件数は最初の行の count 列を整数にしたもの
  split
  · exact neverRefuses_pure _
  · exact (neverRefuses_lift (Value.getItem_noRefusal _ _)).bind hT fun _ =>
      (neverRefuses_lift (Value.toInteger_noRefusal _)).bind hT fun _ => neverRefuses_pure _

/-! ### 書き込み -/

/-- 挿入は方針の確かめと文の組み立てで拒み、その後は拒まない。組み立てが進んだなら行は正規化できるので、
キーを答える所でも拒まない。 -/
theorem refusesUpfront_insert (cls : String) (rows : List Value) (opts : InsertOptions) (operation : String) :
    RefusesUpfront (fun _ => True) (insert cls rows opts operation) := by
  have hT := persists_true
  have hA := persists_admits true opts.autocommit.truthy
  unfold insert
  refine .idle_bind hT (same_metaOf cls).same_idle fun m => .idle_bind hT (same_requireBound cls).same_idle fun _ =>
    RefusesUpfront.checkWrite_bind _ _ _ fun _ => .idle_bind hA same_context.same_idle fun p => ?_
  obtain ⟨d, cat⟩ := p
  refine RefusesUpfront.lift_bind fun st hst =>
    ((neverRefuses_runStatement cls st true operation _).bind hA fun result => ?_).upfront
  split
  · exact neverRefuses_pure _
  · split
    · exact (neverRefuses_rowsOf result).bind hA fun rows => neverRefuses_keysFromRows hA _ rows
    · exact neverRefuses_reportedKeys hA (Statement.insert_normalizes hst) result

theorem refusesUpfront_create (cls : String) (values : Value) (opts : InsertOptions) :
    RefusesUpfront (fun _ => True) (create cls values opts) := by
  unfold create
  exact .dispatch persists_true _ _ _ fun _ => refusesUpfront_insert _ _ _ _

theorem refusesUpfront_createMany (cls : String) (rows : Value) (opts : InsertOptions) :
    RefusesUpfront (fun _ => True) (createMany cls rows opts) := by
  unfold createMany
  exact .dispatch persists_true _ _ _ fun _ =>
    .idle_bind persists_true (Frame.holds_lift _) fun _ => refusesUpfront_insert _ _ _ _

/-- 書き込みの前にキーを読む所は、組み立てで拒みうるが、方針を通った後の文は拒まない。 -/
theorem refusesUpfront_preselect (cls : String) (m : Meta) (conds : Value) (opts : WriteOptions)
    (operation : String) :
    RefusesUpfront (Admits true opts.autocommit.truthy) (preselect cls m conds opts operation) := by
  have hA := persists_admits true opts.autocommit.truthy
  unfold preselect
  refine .idle_bind hA (same_needsPreselect m opts).same_idle fun b => ?_
  split
  · exact .of_idle (Frame.holds_pure _)
  · refine .idle_bind hA same_context.same_idle fun p => ?_
    obtain ⟨d, cat⟩ := p
    exact .idle_bind hA (Frame.holds_lift _) fun st => ((neverRefuses_runStatement cls st true operation _).bind hA
      fun result => (neverRefuses_rowsOf result).bind hA fun rows =>
        (neverRefuses_keysFromRows hA _ rows).bind hA fun _ => neverRefuses_pure _).upfront

/-- 更新と削除の終端の形: 方針を確かめ、文を組み立て、キーを読み、文を走らせてキーを答える。 -/
theorem refusesUpfront_writeRows (cls : String) (opts : WriteOptions) (operation : String)
    (build : Dialect → Catalog → Meta → Except Fault Statement) (conds : Value) :
    RefusesUpfront (fun _ => True) (metaOf cls >>= fun m => requireBound cls >>= fun _ =>
      checkWrite operation (some m.name) opts.autocommit.truthy >>= fun _ => context >>= fun dc =>
      lift (build dc.1 dc.2 m) >>= fun st => preselect cls m conds opts operation >>= fun keys =>
      runStatement cls st true operation opts.autocommit.truthy >>= fun result => writeKeys m opts result keys) := by
  have hT := persists_true
  have hA := persists_admits true opts.autocommit.truthy
  exact .idle_bind hT (same_metaOf cls).same_idle fun m => .idle_bind hT (same_requireBound cls).same_idle fun _ =>
    RefusesUpfront.checkWrite_bind _ _ _ fun _ => .idle_bind hA same_context.same_idle fun _ =>
      .idle_bind hA (Frame.holds_lift _) fun st => (refusesUpfront_preselect cls m conds opts operation).bind_never hA
        fun keys => (neverRefuses_runStatement cls st true operation _).bind hA fun result =>
          neverRefuses_writeKeys hA m opts result keys

theorem refusesUpfront_update (cls : String) (conds values : Value) (opts : WriteOptions) :
    RefusesUpfront (fun _ => True) (update cls conds values opts) := by
  unfold update updateRows
  exact .dispatch persists_true _ _ _ fun conds =>
    refusesUpfront_writeRows cls opts "update" (fun d cat m => Statement.update d cat m conds values opts) conds

theorem refusesUpfront_delete (cls : String) (conds : Value) (opts : WriteOptions) :
    RefusesUpfront (fun _ => True) (delete cls conds opts) := by
  unfold delete deleteRows
  exact .dispatch persists_true _ _ _ fun conds =>
    refusesUpfront_writeRows cls opts "delete" (fun d cat m => Statement.delete d cat m conds opts) conds

/-- 一括更新は、キーを読む前に行の列を解き、行を正規化するが、どちらも文を送る前。 -/
theorem refusesUpfront_updateMany (cls : String) (rows : Value) (keyColumns : List Value) (opts : WriteOptions) :
    RefusesUpfront (fun _ => True) (updateMany cls rows keyColumns opts) := by
  have hT := persists_true
  have hA := persists_admits true opts.autocommit.truthy
  unfold updateMany updateManyRows
  refine .dispatch hT _ _ _ fun rows => .idle_bind hT (same_metaOf cls).same_idle fun m =>
    .idle_bind hT (same_requireBound cls).same_idle fun _ => RefusesUpfront.checkWrite_bind _ _ _ fun _ =>
      .idle_bind hA (Frame.holds_lift _) fun rowList => .idle_bind hA Frame.holds_get fun _ =>
        .idle_bind hA (Frame.holds_lift _) fun st =>
          .idle_bind hA (same_needsPreselect m opts).same_idle fun b => ?_
  -- 書き込みの文を走らせてキーを答える所は、方針を通った後なので拒まない
  have tail : ∀ keys, NeverRefuses (Admits true opts.autocommit.truthy) (do
      let result ← runStatement cls st true "update_many" opts.autocommit.truthy
      writeKeys m opts result keys) := fun keys =>
    (neverRefuses_runStatement cls st true "update_many" _).bind hA fun result =>
      neverRefuses_writeKeys hA m opts result keys
  dsimp only
  split
  · exact .idle_bind hA (Frame.holds_lift _) fun _ => .idle_bind hA (Frame.holds_mapM (fun _ => Frame.holds_lift _) _)
      fun _ => (refusesUpfront_preselect _ _ _ _ _).bind_never hA tail
  · exact .idle_bind hA (Frame.holds_pure _) fun keys => (tail keys).upfront

theorem refusesUpfront_executeSql (cls : String) (sql : Value) (params : List Value) (autocommit : Bool) :
    RefusesUpfront (fun _ => True) (executeSql cls sql params autocommit) := by
  have hT := persists_true
  unfold executeSql
  exact .idle_bind hT (same_requireBound cls).same_idle fun _ => .idle_bind hT (same_adaptAll params).same_idle
    fun _ => .idle_bind hT (Frame.holds_lift _) fun _ => refusesUpfront_runStatement hT _ _ _ _ _

theorem refusesUpfront_query (cls : String) (sql : Value) (params : List Value) :
    RefusesUpfront (fun _ => True) (query cls sql params) := by
  have hT := persists_true
  unfold query
  exact .idle_bind hT (same_requireBound cls).same_idle fun _ => .idle_bind hT (same_adaptAll params).same_idle
    fun _ => refusesUpfront_fetchSql hT _ _ _

/-! ### 関連の読み込み -/

section Load

variable (hP : Persists P)
include hP

theorem refusesUpfront_queryGroups (owner : String) (rel : Relation) (keys : List Value) :
    RefusesUpfront P (queryGroups owner rel keys) := by
  unfold queryGroups
  refine .idle_bind hP (same_metaOf _).same_idle fun target => .idle_bind hP (same_hardLimitOf rel).same_idle
    fun limit => ?_
  dsimp only
  -- 上限があれば上限より一つ多く読み、読んだ後で確かめる
  split
  · exact .idle_bind hP (Frame.holds_pure _) fun _ => (refusesUpfront_selectRows hP _ _ _ _).bind_never hP
      fun found => neverRefuses_groupRows hP rel found
  · refine .idle_bind hP (Frame.holds_lift _) fun _ => (refusesUpfront_selectRows hP _ _ _ _).bind_never hP
      fun found => ?_
    split
    · exact neverRefuses_groupRows hP rel found
    · exact (neverRefuses_checkHardLimit hP _ _ _ ((neverRefuses_metaOf owner).bind hP fun _ => neverRefuses_pure _)
        _).bind hP fun _ => neverRefuses_groupRows hP rel found

theorem refusesUpfront_loadBatch (records : List Value) (owner : String) (decl : RelationDecl) :
    RefusesUpfront P (loadBatch records owner decl) := by
  unfold loadBatch
  refine .idle_bind hP Frame.holds_get fun _ => .idle_bind hP (Frame.holds_lift _) fun rel =>
    .idle_bind hP (same_batchKeys _ _).same_idle fun keys => ?_
  dsimp only
  split
  · exact .idle_bind hP (Frame.holds_pure _) fun _ => (neverRefuses_assignGroups hP _ _ _).upfront
  · exact (refusesUpfront_queryGroups hP owner rel keys).bind_never hP fun _ => neverRefuses_assignGroups hP _ _ _

end Load

theorem idle_newBatch (records : List Value) : Frame.idle.Holds (newBatch records) :=
  fun _ => ⟨⟨rfl, rfl, rfl, id⟩, rfl, rfl⟩

theorem same_pending (name : String) (batch : List Value) :
    Frame.same.Holds (forIn batch [] fun x (acc : List Value) => do
      let rels ← cachedRelations x
      if (assocGet? rels name).isNone then pure (ForInStep.yield (acc ++ [x])) else pure (ForInStep.yield acc)) :=
  Frame.holds_forIn (fun x _ => (same_cachedRelations x).bind fun _ => by
    split
    · exact Frame.holds_pure _
    · exact Frame.holds_pure _) batch []

/-- 関連を待つのは、まだ覚えていなければ組のレコードについて一度に読むことで、読む所だけが文を送る。 -/
theorem refusesUpfront_awaitAttribute (r : Value) (name : String) :
    RefusesUpfront (fun _ => True) (awaitAttribute r name) := by
  have hT := persists_true
  unfold awaitAttribute
  refine .idle_bind hT Frame.holds_get fun s => ?_
  dsimp only
  split
  · refine .idle_bind hT (same_cachedRelations r).same_idle fun rels => ?_
    split
    · exact .of_idle (Frame.holds_pure _)
    · refine .idle_bind hT (Frame.holds_of_state fun _ => rfl) fun batch? => ?_
      split
      all_goals try refine .idle_bind hT (idle_newBatch _) fun _ => ?_
      all_goals
        exact .idle_bind hT (Frame.holds_pure _) fun batch => .idle_bind hT (same_pending name batch).same_idle
          fun pending => (refusesUpfront_loadBatch hT pending _ _).bind_never hT fun _ =>
            (NeverRefuses.of_same (same_cachedRelations r) fun _ => noRefusal_ok _).bind hT fun _ =>
              neverRefuses_pure _
  · exact .of_idle (Frame.holds_throw _)
  · exact .of_idle (Frame.holds_throw _)

/-- 前もって読む関連の一つは、名前の関連があるかを確かめてから、まだ覚えていないレコードについて読む。 -/
theorem refusesUpfront_preloadName (records : List Value) (cls : String) (cat : Catalog) (name : String) :
    RefusesUpfront (fun _ => True) (preloadName records cls cat name) := by
  have hT := persists_true
  unfold preloadName
  split
  · exact .of_idle (Frame.holds_throw _)
  · dsimp only
    refine .idle_bind hT (same_pending name records).same_idle fun pending => ?_
    split
    · exact refusesUpfront_loadBatch hT pending _ _
    · exact .of_idle (Frame.holds_pure _)

/-- 関連を前もって読むのは、組を作って目録を読んでから、名前ごとに順に読むこと。 -/
theorem exec_preload_cons {first : Value} {others : List Value} {s s₁ : Session}
    (hb : (newBatch (first :: others)).exec s = (.ok ⟨⟩, s₁)) (names : List String) :
    (preload (first :: others) names).exec s =
      ((forIn names PUnit.unit fun name _ => do
        preloadName (first :: others) (recordClass first) s₁.catalog name
        pure (ForInStep.yield PUnit.unit)) >>= fun _ => pure ()).exec s₁ := by
  unfold preload
  dsimp only
  rw [exec_bind_ok hb, exec_bind_ok (exec_get s₁)]

/-- 前もって読む関連の名前ごとの読み込みは前もって拒むが、全体では、拒んだ名前の前の名前の読み込みは
済んでいる: 拒んだときの記録と関連の覚えは、その前までの名前を前もって読み終えたときのもの。 -/
theorem preload_refuses_after_loaded_prefix (records : List Value) (names : List String) {s t : Session}
    {e : Fault} (hs : s.Ready) (h : (preload records names).exec s = (.error e, t)) (hr : e.refusal = true) :
    ∃ done name rest u, names = done ++ name :: rest ∧ (preload records done).exec s = (.ok ⟨⟩, u) ∧
      t.log = u.log ∧ t.cache = u.cache := by
  cases records with
  | nil => cases h
  | cons first others =>
    have hT := persists_true
    obtain ⟨s₁, hb⟩ : ∃ s₁, (newBatch (first :: others)).exec s = (.ok ⟨⟩, s₁) := ⟨_, rfl⟩
    have hg : Frame.guard.rel s s₁ := by simpa only [hb] using (idle_newBatch (first :: others) s).1
    have hs₁ : s₁.Ready := hs.guards hg
    rw [exec_preload_cons hb, exec_bind] at h
    rcases hloop : (forIn names PUnit.unit fun name _ => do
        preloadName (first :: others) (recordClass first) s₁.catalog name
        pure (ForInStep.yield PUnit.unit)).exec s₁ with ⟨r, t'⟩
    rw [hloop] at h
    cases r with
    | ok _ => cases h
    | error e' =>
      simp only [Prod.mk.injEq, Except.error.injEq] at h
      obtain ⟨rfl, rfl⟩ := h
      -- 名前ごとの一歩は前もって拒むので、繰り返しの前置きの法則が使える
      obtain ⟨done, name, rest, _, u, hsplit, hdone, hlog, hcache⟩ :=
        RefusesUpfront.forIn_prefix hT (fun _ _ => (refusesUpfront_preloadName _ _ _ _).bind_never hT fun _ =>
          neverRefuses_pure _) names PUnit.unit s₁ trivial hs₁ e' t' hloop hr
      refine ⟨done, name, rest, u, hsplit, ?_, hlog, hcache⟩
      rw [exec_preload_cons hb, exec_bind, hdone]
      rfl

theorem guard_preload (records : List Value) (names : List String) : Frame.guard.Holds (preload records names) := by
  unfold preload
  split
  · exact Frame.holds_pure _
  · exact (idle_newBatch _).idle_guard.bind fun _ => Frame.holds_get.bind fun _ =>
      (Frame.holds_forIn (fun _ _ => (refusesUpfront_preloadName _ _ _ _).guard.bind fun _ => Frame.holds_pure _)
        _ _).bind fun _ => Frame.holds_pure _

theorem idle_preload_nil (records : List Value) : Frame.idle.Holds (preload records []) := by
  unfold preload
  split
  · exact Frame.holds_pure _
  · refine (idle_newBatch _).bind fun _ => Frame.holds_get.bind fun _ => ?_
    simp only [List.forIn_nil]
    exact (Frame.holds_pure _).bind fun _ => Frame.holds_pure _

theorem refusesUpfront_preload_single (records : List Value) (name : String) :
    RefusesUpfront (fun _ => True) (preload records [name]) where
  guard := guard_preload records [name]
  upfront s _ hs e he hr := by
    rcases hx : (preload records [name]).exec s with ⟨r, t⟩
    rw [hx] at he
    cases he
    obtain ⟨done, _, rest, u, hsplit, hdone, hlog, hcache⟩ := preload_refuses_after_loaded_prefix records [name] hs hx hr
    -- 拒んだのは一つしかない名前なので、その前の名前はない
    obtain rfl : done = [] := by
      cases done with
      | nil => rfl
      | cons y ys => simp at hsplit
    have hu := idle_preload_nil records s
    rw [hdone] at hu
    exact ⟨hlog.trans hu.2.1, hcache.trans hu.2.2⟩

/-! ## 拒む失敗と文の順序 -/

/-- モデルの操作の呼び出し: 検索、件数、挿入、更新、削除、生の SQL、関連を待つこと、関連を前もって
読むこと。 -/
inductive ModelCall where
  | find (cls : String) (conds : Value) (opts : FindOptions)
  | findOne (cls : String) (conds : Value) (opts : FindOptions)
  | findById (cls : String) (keys : Value) (opts : FindOptions)
  | count (cls : String) (conds : Value) (opts : FindOptions)
  | create (cls : String) (values : Value) (opts : InsertOptions)
  | createMany (cls : String) (rows : Value) (opts : InsertOptions)
  | update (cls : String) (conds values : Value) (opts : WriteOptions)
  | updateMany (cls : String) (rows : Value) (keyColumns : List Value) (opts : WriteOptions)
  | delete (cls : String) (conds : Value) (opts : WriteOptions)
  | execute (cls : String) (sql : Value) (params : List Value) (autocommit : Bool)
  | query (cls : String) (sql : Value) (params : List Value)
  | await (r : Value) (name : String)
  | preload (records : List Value) (names : List String)

namespace ModelCall

/-- 呼び出しを走らせる。前もって読む操作は値を返さない。 -/
def run : ModelCall → Run Value
  | find cls conds opts => Session.find cls conds opts
  | findOne cls conds opts => Session.findOne cls conds opts
  | findById cls keys opts => Session.findById cls keys opts
  | count cls conds opts => Session.count cls conds opts
  | create cls values opts => Session.create cls values opts
  | createMany cls rows opts => Session.createMany cls rows opts
  | update cls conds values opts => Session.update cls conds values opts
  | updateMany cls rows keyColumns opts => Session.updateMany cls rows keyColumns opts
  | delete cls conds opts => Session.delete cls conds opts
  | execute cls sql params autocommit => Session.executeSql cls sql params autocommit
  | query cls sql params => Session.query cls sql params
  | await r name => Session.awaitAttribute r name
  | preload records names => do
    Session.preload records names
    pure .none

/-- 前もって読む関連の名前が高々一つか（ほかの呼び出しはいつもそう）。 -/
def loadsAtMostOneName : ModelCall → Bool
  | preload _ names => names.length ≤ 1
  | _ => true

end ModelCall

/-- 登録された中継ぎがそのまま渡すだけで、ドライバが契約違反や方針違反を返さないなら、モデルの操作は
契約違反（所有とキーの幅の違反を含む）か方針違反で拒むとき、文を一つも送っておらず関連の覚えも変えて
いない。関連を前もって読む操作は名前ごとにそうなるので、名前が高々一つのときに限る。 -/
theorem refusals_precede_statements (c : ModelCall) (hc : c.loadsAtMostOneName = true) :
    RefusesUpfront (fun _ => True) c.run := by
  cases c with
  | find cls conds opts => exact refusesUpfront_find cls conds opts
  | findOne cls conds opts => exact refusesUpfront_findOne cls conds opts
  | findById cls keys opts => exact refusesUpfront_findById cls keys opts
  | count cls conds opts => exact refusesUpfront_count cls conds opts
  | create cls values opts => exact refusesUpfront_create cls values opts
  | createMany cls rows opts => exact refusesUpfront_createMany cls rows opts
  | update cls conds values opts => exact refusesUpfront_update cls conds values opts
  | updateMany cls rows keyColumns opts => exact refusesUpfront_updateMany cls rows keyColumns opts
  | delete cls conds opts => exact refusesUpfront_delete cls conds opts
  | execute cls sql params autocommit => exact refusesUpfront_executeSql cls sql params autocommit
  | query cls sql params => exact refusesUpfront_query cls sql params
  | await r name => exact refusesUpfront_awaitAttribute r name
  | preload records names =>
    refine RefusesUpfront.bind_never persists_true ?_ fun _ => neverRefuses_pure _
    -- 名前がなければ組を作るだけ、一つならその名前を確かめてから読む
    cases names with
    | nil => exact .of_idle (idle_preload_nil records)
    | cons name rest =>
      cases rest with
      | nil => exact refusesUpfront_preload_single records name
      | cons _ _ => simp [ModelCall.loadsAtMostOneName] at hc

theorem forumSession_ready : (forumSession []).Ready := by
  refine ⟨fun _ hm => (List.not_mem_nil hm).elim, fun r _ he => ?_⟩
  have hq : ((forumSession []).pool r).queue = [] := by cases r <;> rfl
  rw [hq] at he
  exact (List.not_mem_nil he).elim

/-- ない関連 bogus だけを前もって読むと、文を送らず何も覚えずに拒む。 -/
theorem bogus_preload_refused_upfront :
    (ModelCall.preload [forumUser 1, forumUser 2] ["bogus"]).loadsAtMostOneName = true ∧
      ∃ e t, (ModelCall.preload [forumUser 1, forumUser 2] ["bogus"]).run.exec (forumSession []) = (.error e, t) ∧
        e.refusal = true ∧ t.log = (forumSession []).log ∧ t.cache = (forumSession []).cache := by
  have hrun : refused ((ModelCall.preload [forumUser 1, forumUser 2] ["bogus"]).run.exec (forumSession [])).1 = true := by
    decide +kernel
  rcases hx : (ModelCall.preload [forumUser 1, forumUser 2] ["bogus"]).run.exec (forumSession []) with ⟨r, t⟩
  rw [hx] at hrun
  obtain ⟨e, rfl, hr⟩ := refused_eq_true.1 hrun
  have hup := (refusals_precede_statements (.preload [forumUser 1, forumUser 2] ["bogus"]) rfl).upfront
    (forumSession []) trivial forumSession_ready e (by rw [hx]) hr
  rw [hx] at hup
  exact ⟨rfl, e, t, rfl, hr, hup⟩

/-- 利用者の投稿 posts と、ない関連 bogus を前もって読むと、投稿の検索を一つ送ってから拒む: 拒んだときの
記録と覚えは、投稿だけを前もって読んだときのもの。 -/
theorem posts_preloaded_before_bogus_refused :
    ∃ e t, (preload [forumUser 1, forumUser 2] ["posts", "bogus"]).exec (forumSession []) = (.error e, t) ∧
      e.refusal = true ∧ t.log.length = 1 ∧ ∃ u, (preload [forumUser 1, forumUser 2] ["posts"]).exec (forumSession []) =
        (.ok ⟨⟩, u) ∧ t.log = u.log ∧ t.cache = u.cache := by
  have hrun : refused ((preload [forumUser 1, forumUser 2] ["posts", "bogus"]).exec (forumSession [])).1 = true ∧
      ((preload [forumUser 1, forumUser 2] ["posts", "bogus"]).exec (forumSession [])).2.log.length = 1 := by
    decide +kernel
  rcases hx : (preload [forumUser 1, forumUser 2] ["posts", "bogus"]).exec (forumSession []) with ⟨r, t⟩
  rw [hx] at hrun
  obtain ⟨⟨e, rfl, hr⟩, hlen⟩ := And.imp_left refused_eq_true.1 hrun
  obtain ⟨done, name, rest, u, hsplit, hdone, hlog, hcache⟩ :=
    preload_refuses_after_loaded_prefix _ _ forumSession_ready hx hr
  refine ⟨e, t, rfl, hr, hlen, u, ?_, hlog, hcache⟩
  -- 拒んだのは bogus で、その前は posts だけ: 名前がなければ記録は空のまま
  cases done with
  | nil =>
    have hu := idle_preload_nil [forumUser 1, forumUser 2] (forumSession [])
    rw [hdone] at hu
    rw [hlog, hu.2.1] at hlen
    cases hlen
  | cons a done =>
    cases done with
    | nil =>
      simp only [List.cons_append, List.nil_append, List.cons.injEq] at hsplit
      rw [← hsplit.1] at hdone
      exact hdone
    | cons b done => simp at hsplit

end Session

end DataAccess
