import DataAccess.Proofs.HookCalls
/-!
# モデルの操作が触れる欄

モデルの操作（検索、件数、書き込み、生の SQL、関連を待つことと前もって読むこと）が書き換えるのは、
溜まり、記録、中継ぎの実体、足跡、レコードとその組、関連の覚えだけ。その書き換えを許す枠
（`Frame.Tolerant`）は、中継ぎの振る舞いによらず、どの操作でも保たれる（`holds_modelCall`）。
トランザクションの制御の文も記録と溜まりにしか触れない。

* 束縛、設定、書き手に寄せる印を変えない枠 `Frame.routing` はそうした枠なので、どの操作も文の行き先を
  決める欄を変えない。設定と印だけを見る枠 `Frame.sticky` は、束縛の付け替えも許す。
-/

namespace DataAccess

namespace Frame

/-- 設定と、書き手に寄せる印を変えない。 -/
def sticky : Frame where
  rel s t := t.settings = s.settings ∧ t.request.sticky = s.request.sticky
  refl _ := ⟨rfl, rfl⟩
  trans h h' := ⟨h'.1.trans h.1, h'.2.trans h.2⟩

/-- 文の行き先を決める欄（束縛、設定、書き手に寄せる印）を変えない。 -/
def routing : Frame where
  rel s t := t.binding = s.binding ∧ sticky.rel s t
  refl s := ⟨rfl, sticky.refl s⟩
  trans h h' := ⟨h'.1.trans h.1, sticky.trans h.2 h'.2⟩

/-- 枠が、モデルの操作の書き換える欄（溜まり、記録、中継ぎの実体、足跡、レコードとその組、関連の覚え）の
書き換えを許す。 -/
structure Tolerant (F : Frame) : Prop where
  pool : ∀ s r f, F.rel s (s.modifyPool r f)
  log : ∀ s l, F.rel s { s with log := l }
  instances : ∀ s is, F.rel s { s with request := { s.request with instances := is } }
  trace : ∀ s t, F.rel s { s with trace := t }
  records : ∀ s n bo bs nb, F.rel s { s with nextRecord := n, batchOf := bo, batches := bs, nextBatch := nb }
  cache : ∀ s c, F.rel s { s with cache := c }

theorem Holds.rel_of_exec {α : Type} {F : Frame} {x : Run α} {s t : Session} {r : Except Fault α} (hx : F.Holds x)
    (h : x.exec s = (r, t)) : F.rel s t := by
  have h' := hx s
  rw [h] at h'
  exact h'

theorem tolerant_routing : routing.Tolerant where
  pool _ _ _ := ⟨Session.modifyPool_binding, Session.modifyPool_settings, by rw [Session.modifyPool_request]⟩
  log _ _ := ⟨rfl, rfl, rfl⟩
  instances _ _ := ⟨rfl, rfl, rfl⟩
  trace _ _ := ⟨rfl, rfl, rfl⟩
  records _ _ _ _ _ := ⟨rfl, rfl, rfl⟩
  cache _ _ := ⟨rfl, rfl, rfl⟩

theorem tolerant_sticky : sticky.Tolerant where
  pool _ _ _ := ⟨Session.modifyPool_settings, by rw [Session.modifyPool_request]⟩
  log _ _ := ⟨rfl, rfl⟩
  instances _ _ := ⟨rfl, rfl⟩
  trace _ _ := ⟨rfl, rfl⟩
  records _ _ _ _ _ := ⟨rfl, rfl⟩
  cache _ _ := ⟨rfl, rfl⟩

end Frame

namespace Session

open Run DataAccess.Frame

/-! ## モデルの操作が触れる欄 -/

section Tolerant

variable {F : Frame} (hF : F.Tolerant)
include hF

theorem holds_instanceOf (m : Middleware) : F.Holds (instanceOf m) := fun s => by
  rw [exec_instanceOf]
  exact hF.instances s _

theorem holds_modifyInstance (m : Middleware) (f : Instance → Instance) : F.Holds (modifyInstance m f) := fun s => by
  rw [exec_modifyInstance]
  exact hF.instances s _

theorem holds_hooks (hook model : String) (first : Value) {terminal : Value → Run Value}
    (hterm : ∀ v, F.Holds (terminal v)) : F.Holds (dispatch hook model first terminal) :=
  holds_dispatch_of hF.trace (holds_instanceOf hF) (holds_modifyInstance hF) hook model first hterm

theorem holds_execute (r : Role) (sql : String) (params : List Value) : F.Holds (execute r sql params) := by
  unfold execute append
  refine (holds_modify fun s => hF.log s _).bind fun _ => holds_get_bind fun s => ?_
  split
  · exact F.refl s
  · rw [exec_bind_ok (exec_set _ _)]
    split
    · exact hF.pool _ _ _
    · exact hF.pool _ _ _

theorem holds_control (r : Role) (verb : String) : F.Holds (control r verb) := by
  unfold control append
  refine (holds_modify fun s => hF.log s _).bind fun _ => holds_get_bind fun s => ?_
  dsimp only
  split
  · exact F.refl s
  · rw [exec_bind_ok (exec_set _ _)]
    exact hF.pool _ _ _

theorem holds_prepared (s : Session) (write : Bool) : F.rel s (s.prepared write) := by
  unfold prepared checkout
  split
  · exact F.refl s
  · exact hF.pool _ _ _

theorem holds_run (st : Statement) (write : Bool) (operation : String) (modelName : Option String)
    (autocommit : Bool) : F.Holds (run st write operation modelName autocommit) := by
  intro s
  have h := run_routes s st write operation modelName autocommit
  cases hr : s.refuses write autocommit with
  | true =>
    obtain ⟨e, he⟩ := h.refused hr
    rw [he]
    exact F.refl s
  | false =>
    rw [h.runs hr]
    exact F.trans (holds_prepared hF s write) (holds_execute hF _ _ _ _)

theorem holds_runStatement (cls : String) (st : Statement) (write : Bool) (operation : String)
    (autocommit : Bool) : F.Holds (runStatement cls st write operation autocommit) := by
  unfold runStatement
  exact (same_requireBound cls).of_same.bind fun _ => (same_metaOf cls).of_same.bind fun _ =>
    holds_hooks hF _ _ _ fun _ => holds_run hF _ _ _ _ _

theorem holds_fromRows (cls : String) (rows : List Value) : F.Holds (fromRows cls rows) := fun s => by
  obtain ⟨n, bo, bs, nb, h, -⟩ := fromRows_footprint cls rows s
  rw [h]
  exact hF.records s _ _ _ _

theorem holds_fetchSql (cls : String) (sql : Value) (params : List Value) : F.Holds (fetchSql cls sql params) := by
  unfold fetchSql
  exact holds_hooks hF _ _ _ fun _ => (holds_lift _).bind fun _ => (holds_runStatement hF _ _ _ _ _).bind fun _ =>
    (same_rowsOf _).of_same.bind fun _ => (holds_fromRows hF _ _).bind fun _ => holds_pure _

theorem holds_selectRows (cls : String) (m : Meta) (conds : Value) (opts : FindOptions) :
    F.Holds (selectRows cls m conds opts) := by
  unfold selectRows
  refine (same_requireBound cls).of_same.bind fun _ => same_context.of_same.bind fun p => ?_
  obtain ⟨d, cat⟩ := p
  exact (holds_lift _).bind fun _ => holds_fetchSql hF _ _ _

theorem holds_find (cls : String) (conds : Value) (opts : FindOptions) : F.Holds (find cls conds opts) := by
  unfold find findRows
  refine holds_hooks hF _ _ _ fun conds => (same_metaOf cls).of_same.bind fun m =>
    (same_findLimitOf cls m).of_same.bind fun limit => ?_
  dsimp only
  -- 上限を確かめるなら、検索の件数を上限より一つ多くし、読んだ後で確かめる
  split
  · exact (holds_lift _).bind fun _ => (holds_pure _).bind fun _ => (holds_selectRows hF _ _ _ _).bind fun _ =>
      (same_checkHardLimit _ _ _ (holds_pure _) _).of_same.bind fun _ => holds_pure _
  · exact (holds_pure _).bind fun _ => (holds_selectRows hF _ _ _ _).bind fun _ => holds_pure _

theorem holds_findOne (cls : String) (conds : Value) (opts : FindOptions) : F.Holds (findOne cls conds opts) := by
  unfold findOne findFirst
  exact holds_hooks hF _ _ _ fun _ => (same_requireBound cls).of_same.bind fun _ =>
    (same_metaOf cls).of_same.bind fun _ => (holds_selectRows hF _ _ _ _).bind fun records =>
      (same_firstOf records).of_same

theorem holds_findById (cls : String) (keys : Value) (opts : FindOptions) : F.Holds (findById cls keys opts) := by
  unfold findById findKeys
  refine holds_hooks hF _ _ _ fun _ => (same_requireBound cls).of_same.bind fun _ =>
    (same_metaOf cls).of_same.bind fun _ => same_context.of_same.bind fun p => ?_
  obtain ⟨d, cat⟩ := p
  exact (holds_lift _).bind fun _ => (holds_lift _).bind fun _ => holds_fetchSql hF _ _ _

theorem holds_count (cls : String) (conds : Value) (opts : FindOptions) : F.Holds (count cls conds opts) := by
  unfold count countRows
  refine holds_hooks hF _ _ _ fun _ => (same_requireBound cls).of_same.bind fun _ =>
    (same_metaOf cls).of_same.bind fun _ => same_context.of_same.bind fun p => ?_
  obtain ⟨d, cat⟩ := p
  refine (holds_lift _).bind fun _ => (holds_runStatement hF _ _ _ _ _).bind fun result =>
    (same_rowsOf result).of_same.bind fun rows => ?_
  split
  · exact holds_pure _
  · exact (holds_lift _).bind fun _ => (holds_lift _).bind fun _ => holds_pure _

theorem holds_insert (cls : String) (rows : List Value) (opts : InsertOptions) (operation : String) :
    F.Holds (insert cls rows opts operation) := by
  unfold insert
  refine (same_metaOf cls).of_same.bind fun m => (same_requireBound cls).of_same.bind fun _ =>
    (same_checkWrite _ _ _).of_same.bind fun _ => same_context.of_same.bind fun p => ?_
  obtain ⟨d, cat⟩ := p
  refine (holds_lift _).bind fun st => (holds_runStatement hF _ _ _ _ _).bind fun result => ?_
  split
  · exact holds_pure _
  · split
    · exact (same_rowsOf result).of_same.bind fun rows => (same_keysFromRows _ rows).of_same
    · exact (same_reportedKeys m rows result).of_same

theorem holds_preselect (cls : String) (m : Meta) (conds : Value) (opts : WriteOptions) (operation : String) :
    F.Holds (preselect cls m conds opts operation) := by
  unfold preselect
  refine (same_needsPreselect m opts).of_same.bind fun b => ?_
  split
  · exact holds_pure _
  · refine same_context.of_same.bind fun p => ?_
    obtain ⟨d, cat⟩ := p
    exact (holds_lift _).bind fun _ => (holds_runStatement hF _ _ _ _ _).bind fun result =>
      (same_rowsOf result).of_same.bind fun rows => (same_keysFromRows _ rows).of_same.bind fun _ => holds_pure _

theorem holds_writeRows (cls : String) (opts : WriteOptions) (operation : String)
    (build : Dialect → Catalog → Meta → Except Fault Statement) (conds : Value) :
    F.Holds (metaOf cls >>= fun m => requireBound cls >>= fun _ =>
      checkWrite operation (some m.name) opts.autocommit.truthy >>= fun _ => context >>= fun dc =>
      lift (build dc.1 dc.2 m) >>= fun st => preselect cls m conds opts operation >>= fun keys =>
      runStatement cls st true operation opts.autocommit.truthy >>= fun result => writeKeys m opts result keys) :=
  (same_metaOf cls).of_same.bind fun m => (same_requireBound cls).of_same.bind fun _ =>
    (same_checkWrite _ _ _).of_same.bind fun _ => same_context.of_same.bind fun _ => (holds_lift _).bind fun _ =>
      (holds_preselect hF _ _ _ _ _).bind fun keys => (holds_runStatement hF _ _ _ _ _).bind fun result =>
        (same_writeKeys m opts result keys).of_same

theorem holds_updateMany (cls : String) (rows : Value) (keyColumns : List Value) (opts : WriteOptions) :
    F.Holds (updateMany cls rows keyColumns opts) := by
  unfold updateMany updateManyRows
  refine holds_hooks hF _ _ _ fun rows => (same_metaOf cls).of_same.bind fun m =>
    (same_requireBound cls).of_same.bind fun _ => (same_checkWrite _ _ _).of_same.bind fun _ =>
      (holds_lift _).bind fun rowList => holds_get.bind fun _ => (holds_lift _).bind fun st =>
        (same_needsPreselect m opts).of_same.bind fun b => ?_
  -- 書き込みの文を走らせてキーを答える所は、キーを読むかによらない
  have tail : ∀ keys, F.Holds (do
      let result ← runStatement cls st true "update_many" opts.autocommit.truthy
      writeKeys m opts result keys) := fun keys =>
    (holds_runStatement hF _ _ _ _ _).bind fun result => (same_writeKeys m opts result keys).of_same
  dsimp only
  split
  · exact (holds_lift _).bind fun _ => (holds_mapM (fun _ => holds_lift _) _).bind fun _ =>
      (holds_preselect hF _ _ _ _ _).bind tail
  · exact (holds_pure _).bind tail

theorem holds_executeSql (cls : String) (sql : Value) (params : List Value) (autocommit : Bool) :
    F.Holds (executeSql cls sql params autocommit) := by
  unfold executeSql
  exact (same_requireBound cls).of_same.bind fun _ => (same_adaptAll params).of_same.bind fun _ =>
    (holds_lift _).bind fun _ => holds_runStatement hF _ _ _ _ _

theorem holds_query (cls : String) (sql : Value) (params : List Value) : F.Holds (query cls sql params) := by
  unfold query
  exact (same_requireBound cls).of_same.bind fun _ => (same_adaptAll params).of_same.bind fun _ =>
    holds_fetchSql hF _ _ _

/-! ### 関連の読み込み -/

theorem holds_remember (r : Value) (name : String) (v : Value) : F.Holds (remember r name v) := fun s => by
  rw [exec_remember]
  exact hF.cache s _

theorem holds_assignGroups (records : List Value) (rel : Relation) (groups : List (Value × List Value)) :
    F.Holds (assignGroups records rel groups) := by
  unfold assignGroups
  exact (holds_forIn (fun _ _ => (holds_remember hF _ _ _).bind fun _ => holds_pure _) records PUnit.unit).bind
    fun _ => holds_pure _

theorem holds_queryGroups (owner : String) (rel : Relation) (keys : List Value) :
    F.Holds (queryGroups owner rel keys) := by
  unfold queryGroups
  refine (same_metaOf _).of_same.bind fun target => (same_hardLimitOf rel).of_same.bind fun limit => ?_
  dsimp only
  -- 上限があれば上限より一つ多く読み、読んだ後で確かめる
  split
  · exact (holds_pure _).bind fun _ => (holds_selectRows hF _ _ _ _).bind fun found =>
      (same_groupRows rel found).of_same
  · refine (holds_lift _).bind fun _ => (holds_selectRows hF _ _ _ _).bind fun found => ?_
    split
    · exact (same_groupRows rel found).of_same
    · exact (same_checkHardLimit _ _ _ ((same_metaOf owner).bind fun _ => holds_pure _) _).of_same.bind
        fun _ => (same_groupRows rel found).of_same

theorem holds_loadBatch (records : List Value) (owner : String) (decl : RelationDecl) :
    F.Holds (loadBatch records owner decl) := by
  unfold loadBatch
  refine holds_get.bind fun _ => (holds_lift _).bind fun rel => (same_batchKeys _ _).of_same.bind fun keys => ?_
  dsimp only
  split
  · exact (holds_pure _).bind fun _ => holds_assignGroups hF _ _ _
  · exact (holds_queryGroups hF owner rel keys).bind fun _ => holds_assignGroups hF _ _ _

theorem holds_newBatch (records : List Value) : F.Holds (newBatch records) := fun s =>
  hF.records s s.nextRecord _ _ _

theorem holds_awaitAttribute (r : Value) (name : String) : F.Holds (awaitAttribute r name) := by
  unfold awaitAttribute
  refine holds_get.bind fun s => ?_
  dsimp only
  split
  · next owner decl _ =>
    refine (same_cachedRelations r).of_same.bind fun rels => ?_
    split
    · exact holds_pure _
    · -- 組がなければレコード一つの組を作ってから、まだ覚えていないレコードについて読む
      have tail : ∀ batch : List Value, F.Holds (do
          let pending ← forIn batch [] fun x (acc : List Value) => do
            let rels ← cachedRelations x
            if (assocGet? rels name).isNone then pure (ForInStep.yield (acc ++ [x])) else pure (ForInStep.yield acc)
          loadBatch pending owner decl
          return (assocGet? (← cachedRelations r) name).getD .none) := fun batch =>
        (same_pending name batch).of_same.bind fun pending => (holds_loadBatch hF pending _ _).bind fun _ =>
          (same_cachedRelations r).of_same.bind fun _ => holds_pure _
      refine (holds_of_state fun _ => rfl).bind fun batch? => ?_
      split
      · exact (holds_pure _).bind tail
      · exact (holds_newBatch hF _).bind fun _ => (holds_pure _).bind tail
  · exact holds_throw _
  · exact holds_throw _

theorem holds_preloadName (records : List Value) (cls : String) (cat : Catalog) (name : String) :
    F.Holds (preloadName records cls cat name) := by
  unfold preloadName
  split
  · exact holds_throw _
  · dsimp only
    refine (same_pending name records).of_same.bind fun pending => ?_
    split
    · exact holds_loadBatch hF pending _ _
    · exact holds_pure _

theorem holds_preload (records : List Value) (names : List String) : F.Holds (preload records names) := by
  unfold preload
  split
  · exact holds_pure _
  · exact (holds_newBatch hF _).bind fun _ => holds_get.bind fun _ =>
      (holds_forIn (fun _ _ => (holds_preloadName hF _ _ _ _).bind fun _ => holds_pure _) _ _).bind
        fun _ => holds_pure _

/-- 枠がモデルの操作の書き換える欄の書き換えを許すなら、どの操作もその枠を保つ。 -/
theorem holds_modelCall (c : ModelCall) : F.Holds c.run := by
  cases c with
  | find cls conds opts => exact holds_find hF cls conds opts
  | findOne cls conds opts => exact holds_findOne hF cls conds opts
  | findById cls keys opts => exact holds_findById hF cls keys opts
  | count cls conds opts => exact holds_count hF cls conds opts
  | create cls values opts => exact holds_hooks hF _ _ _ fun _ => holds_insert hF _ _ _ _
  | createMany cls rows opts => exact holds_hooks hF _ _ _ fun _ => (holds_lift _).bind fun _ => holds_insert hF _ _ _ _
  | update cls conds values opts =>
    exact holds_hooks hF _ _ _ fun conds =>
      holds_writeRows hF cls opts "update" (fun d cat m => Statement.update d cat m conds values opts) conds
  | updateMany cls rows keyColumns opts => exact holds_updateMany hF cls rows keyColumns opts
  | delete cls conds opts =>
    exact holds_hooks hF _ _ _ fun conds =>
      holds_writeRows hF cls opts "delete" (fun d cat m => Statement.delete d cat m conds opts) conds
  | execute cls sql params autocommit => exact holds_executeSql hF cls sql params autocommit
  | query cls sql params => exact holds_query hF cls sql params
  | await r name => exact holds_awaitAttribute hF r name
  | preload records names => exact (holds_preload hF records names).bind fun _ => holds_pure _

end Tolerant

theorem keeps_modelCall (c : ModelCall) : c.run.Keeps := fun s => (holds_modelCall tolerant_routing c s).1

end Session

end DataAccess
