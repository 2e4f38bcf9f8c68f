import DataAccess.Proofs.InsertKeys
/-!
# 書き込みが報告するキー

更新、削除、一括更新に `returning` を求めると、主キーの結果を答える。

* `RETURNING` のある方言では、書き込みの文だけを走らせ、その文が返した行の主キーを答える。
* `RETURNING` のない方言では、書き込みの前に、同じ条件の並びで触れる行の主キーを行の鍵を掛けて読み
  （`SELECT … FOR UPDATE`）、その行の主キーを答える。書き込みの答えは見ない。

接続は文に予約された応答を順に返すので、どちらの方言でも答えは「書き手の接続の最初の応答の行の
主キー」になる。データベースが二つの方言で同じ行を選び、`RETURNING` が書き込んだ後の行を返すなら、
二つの答えが一致するのは、書き込みが選んだ行の主キーを変えないときに限る。削除の `RETURNING` は
消す前の行を返すので、いつも一致する。

一件の挿入と複数の挿入は、`RETURNING` のない方言ではキーを読む文を走らせない。挿入の文を走らせ、
ドライバの結果から `reportedKeys` で答える（`reported_insert_keys`）。
-/

namespace DataAccess

namespace Session

open Run

/-! ## 文の答えの主キー -/

/-- 文の答え（結果）の行から読んだ主キー。結果でない答えに行はない。 -/
def answerKeys (pk : List Column) (answer : Value) : Except Fault Value :=
  match answer with
  | .result rows _ _ => Value.pkey (pk.map Value.column) <$> rows.mapM (rowKey pk)
  | v => .error (Fault.noAttribute v "rows")

theorem exec_keysFromRows (pk : List Column) (rows : List Value) (s : Session) :
    (keysFromRows pk rows).exec s = (Value.pkey (pk.map Value.column) <$> rows.mapM (rowKey pk), s) := by
  unfold keysFromRows
  rw [exec_bind, exec_lift]
  cases rows.mapM (rowKey pk) <;> rfl

/-- 答えの行を取り出して主キーを読む計算は、状態に触れずに `answerKeys` を答える。 -/
theorem exec_answerKeys (pk : List Column) (answer : Value) (s : Session) :
    (rowsOf answer >>= keysFromRows pk).exec s = (answerKeys pk answer, s) := by
  cases answer with
  | result rows _ _ => rw [rowsOf, exec_bind_ok (exec_pure _ s), exec_keysFromRows, answerKeys]
  | _ => rfl

/-! ## 予約された応答を返す文 -/

@[simp] theorem pool_rerequest {s : Session} {r : Role} (req : RequestState) :
    ({ s with request := req } : Session).pool r = s.pool r := rfl

/-- 書き込みの文を走らせる前の状態の書き手は、予約された応答をそのまま持つ。 -/
@[simp] theorem prepared_queue (s : Session) : ((s.prepared true).pool .writer).queue = (s.pool .writer).queue := by
  unfold prepared
  split
  · rfl
  · simp [destination, checkout]

/-- 予約された応答の先頭が結果なら、文はそれを返し、記録に一行足して応答を一つ進める。 -/
theorem exec_execute_answer {s : Session} {r : Role} {a : Value} {rest : List (Except Fault Value)}
    (hq : (s.pool r).queue = .ok a :: rest) (sql : String) (params : List Value) :
    (execute r sql params).exec s = (.ok a, ({ s with log := ⟨(s.pool r).label, sql, params⟩ :: s.log } : Session).modifyPool r
      fun p => { p with queue := rest }) :=
  exec_execute_head hq sql params

/-- `t` は `s` から文を一つ走らせた状態: 記録に一行 `e` が足され、書き手の予約された応答は残りの
`rest`。目録、方言、中継ぎの登録、結び付き、束縛、設定はそのまま。 -/
structure Answered (s t : Session) (e : Entry) (rest : List (Except Fault Value)) : Prop where
  log : t.log = e :: s.log
  queue : (t.pool .writer).queue = rest
  label : (t.pool .writer).label = (s.pool .writer).label
  catalog : t.catalog = s.catalog
  dialect : t.dialect = s.dialect
  registry : t.registry = s.registry
  bound : t.bound = s.bound
  binding : t.binding = s.binding
  settings : t.settings = s.settings

/-- モデル `cls`（メタデータ `m`）の書き込みの文を走らせられる状態: 中継ぎはそのまま渡すだけで、
モデルは結び付いていて、方針は書き込みを拒まない。 -/
structure WriteReady (s : Session) (cls : String) (m : Meta) (autocommit : Bool) : Prop where
  pass : s.PassThrough
  bound : s.bound = true
  found : s.catalog.metaOf cls = .ok m
  allowed : s.refuses true autocommit = false

theorem WriteReady.rerequest {s : Session} {cls : String} {m : Meta} {autocommit : Bool}
    (h : WriteReady s cls m autocommit) (req : RequestState) : WriteReady { s with request := req } cls m autocommit :=
  ⟨h.pass, h.bound, h.found, h.allowed⟩

theorem WriteReady.answered {s t : Session} {cls : String} {m : Meta} {autocommit : Bool} {e : Entry}
    {rest : List (Except Fault Value)} (h : WriteReady s cls m autocommit) (ht : Answered s t e rest) :
    WriteReady t cls m autocommit where
  pass := fun mw hmw => h.pass mw (ht.registry ▸ hmw)
  bound := ht.bound.trans h.bound
  found := ht.catalog ▸ h.found
  allowed := by
    have hallowed := h.allowed
    unfold refuses at hallowed ⊢
    rw [ht.binding, ht.settings]
    exact hallowed

/-- 状態 `s` の書き手で文 `st` を走らせたときの記録の一行。 -/
def entryOf (s : Session) (st : Statement) : Entry :=
  ⟨(s.pool .writer).label, s.dialect.convertPlaceholders st.sql, st.params⟩

theorem Answered.entryOf {s t : Session} {e : Entry} {rest : List (Except Fault Value)} (ht : Answered s t e rest)
    (st : Statement) : t.entryOf st = s.entryOf st := by
  simp only [Session.entryOf, ht.label, ht.dialect]

theorem answered_execute (s : Session) (rest : List (Except Fault Value)) (sql : String) (params : List Value) :
    Answered s (({ s with log := ⟨(s.pool .writer).label, sql, params⟩ :: s.log } : Session).modifyPool .writer
      fun p => { p with queue := rest }) ⟨(s.pool .writer).label, sql, params⟩ rest := by
  constructor <;> simp

/-- 中継ぎが要求の状態を変え、書き込みの文のために接続を借りた後の状態から走らせた文は、元の状態から
走らせた文と同じに数える。 -/
theorem Answered.of_prepared {s t : Session} {e : Entry} {rest : List (Except Fault Value)} (req : RequestState)
    (h : Answered (({ s with request := req } : Session).prepared true) t e rest) : Answered s t e rest where
  log := by rw [h.log, prepared_log]
  queue := h.queue
  label := by rw [h.label, prepared_label]; rfl
  catalog := by rw [h.catalog, prepared_catalog]
  dialect := by rw [h.dialect, prepared_dialect]
  registry := by rw [h.registry, prepared_registry]
  bound := by rw [h.bound, prepared_bound]
  binding := by rw [h.binding, prepared_binding]
  settings := by rw [h.settings, prepared_settings]

/-- 書き込みの文は書き手で走り、予約された応答の先頭の結果を返す。 -/
theorem runStatement_answer {s : Session} {cls : String} {m : Meta} {autocommit : Bool}
    (h : WriteReady s cls m autocommit) {a : Value} {rest : List (Except Fault Value)}
    (hq : (s.pool .writer).queue = .ok a :: rest) (st : Statement) (operation : String) :
    ∃ t, (runStatement cls st true operation autocommit).exec s = (.ok a, t) ∧ Answered s t (s.entryOf st) rest := by
  unfold runStatement
  rw [exec_bind_ok (exec_requireBound_of_bound h.bound cls), exec_bind_ok (exec_metaOf h.found)]
  obtain ⟨req, hreq⟩ := exec_dispatch_pass h.pass "execute" cls (.str st.sql)
    fun sql => run ⟨sql.text, st.params⟩ true operation (some m.name) autocommit
  rw [hreq]
  -- 中継ぎが変えるのは要求の状態だけなので、方針も行き先も元の状態のまま
  have hallowed : ({ s with request := req } : Session).refuses true autocommit = false := h.allowed
  rw [(run_routes _ ⟨(Value.str st.sql).text, st.params⟩ true operation (some m.name) autocommit).runs hallowed]
  have hdest : ({ s with request := req } : Session).destination true = .writer := by simp [destination]
  -- 束縛がなければ書き手の接続を一つ借りるが、借りても書き手の名札も予約された応答も変わらない
  have hq' : ((({ s with request := req } : Session).prepared true).pool .writer).queue = .ok a :: rest := by
    rw [prepared_queue]
    exact hq
  have he : (⟨((({ s with request := req } : Session).prepared true).pool .writer).label,
      ({ s with request := req } : Session).dialect.convertPlaceholders (Value.str st.sql).text, st.params⟩ : Entry) =
      s.entryOf st := by
    simp [entryOf, Value.text]
  rw [hdest, exec_execute_answer hq']
  exact ⟨_, rfl, he ▸ (answered_execute _ rest _ _).of_prepared req⟩

/-! ## 書き込みの後半: キーを読み、書き込み、答える -/

/-- 計算 `x` を `s` から走らせると `answer` を答え、成功すれば記録に `entries` を（古い順に）足す。 -/
structure Reports (x : Run Value) (s : Session) (answer : Except Fault Value) (entries : List Entry) : Prop where
  returns : (x.exec s).1 = answer
  log : ∀ k, answer = .ok k → (x.exec s).2.log = entries.reverse ++ s.log

theorem Reports.of_exec {x y : Run Value} {s : Session} {answer : Except Fault Value} {entries : List Entry}
    (heq : x.exec s = y.exec s) (h : Reports y s answer entries) : Reports x s answer entries :=
  ⟨heq ▸ h.returns, fun k hk => heq ▸ h.log k hk⟩

/-- そのまま渡すだけの中継ぎの鎖は、要求の状態を変えて終端を一度呼ぶので、終端の答えと記録のまま。 -/
theorem Reports.dispatch {s : Session} (hs : s.PassThrough) {hook model : String} {first : Value}
    {terminal : Value → Run Value} {answer : Except Fault Value} {entries : List Entry}
    (h : ∀ req : RequestState, Reports (terminal first) { s with request := req } answer entries) :
    Reports (dispatch hook model first terminal) s answer entries := by
  obtain ⟨req, hreq⟩ := exec_dispatch_pass hs hook model first terminal
  exact ⟨hreq ▸ (h req).returns, fun k hk => hreq ▸ (h req).log k hk⟩

/-- 書き込みの後半: キーを読む計算 `pre` の後に書き込みの文を走らせ、読んだキーか書き込みの答えの
キーを答える。 -/
def writeTail (cls : String) (m : Meta) (opts : WriteOptions) (operation : String) (pre : Run (Option Value))
    (st : Statement) : Run Value := do
  let keys ← pre
  let result ← runStatement cls st true operation opts.autocommit.truthy
  writeKeys m opts result keys

theorem exec_lift_ok {α : Type} {x : Except Fault α} {a : α} (h : x = .ok a) (s : Session) :
    (lift x).exec s = (.ok a, s) := by
  rw [exec_lift, h]

theorem exec_context (s : Session) : context.exec s = (.ok (s.dialect, s.catalog), s) := rfl

theorem exec_needsPreselect (m : Meta) (opts : WriteOptions) (s : Session) :
    (needsPreselect m opts).exec s =
      (.ok (opts.returning.truthy && !m.primaryKey.isEmpty && !s.dialect.supportsReturning), s) := rfl

theorem exec_answerKeys_some (pk : List Column) (answer : Value) (s : Session) :
    (do let keys ← keysFromRows pk (← rowsOf answer); pure (some keys) : Run (Option Value)).exec s =
      (some <$> answerKeys pk answer, s) := by
  rw [← bind_assoc, exec_bind, exec_answerKeys]
  cases answerKeys pk answer <;> rfl

/-- `RETURNING` のない方言では、キーを読む文を書き手で走らせ、その答えの行の主キーを返す。 -/
theorem exec_preselect_answer {s : Session} {cls : String} {m : Meta} {opts : WriteOptions}
    (h : WriteReady s cls m opts.autocommit.truthy) (hreturn : opts.returning.truthy = true)
    (hpk : m.primaryKey ≠ []) (hd : s.dialect.supportsReturning = false) {conds : Value} {operation : String}
    {st : Statement} (hst : Statement.selectKeys s.dialect s.catalog m conds operation = .ok st) {a : Value}
    {rest : List (Except Fault Value)} (hq : (s.pool .writer).queue = .ok a :: rest) :
    ∃ t, (preselect cls m conds opts operation).exec s = (some <$> answerKeys m.primaryKey a, t) ∧
      Answered s t (s.entryOf st) rest := by
  have hneeds : (needsPreselect m opts).exec s = (.ok true, s) := by
    rw [exec_needsPreselect, hreturn, hd]
    simp [hpk]
  obtain ⟨t, hrun, ht⟩ := runStatement_answer h hq st operation
  refine ⟨t, ?_, ht⟩
  unfold preselect
  rw [exec_bind_ok hneeds]
  simp only [Bool.not_true, Bool.false_eq_true, ↓reduceIte]
  rw [exec_bind_ok (exec_context s), exec_bind_ok (exec_lift_ok hst s), exec_bind_ok hrun, exec_answerKeys_some]

/-- キーを読まない書き込みは、`RETURNING` のある方言では書き込みの答えの行の主キーを答える。 -/
theorem writeTail_returning {s : Session} {cls : String} {m : Meta} {opts : WriteOptions}
    (h : WriteReady s cls m opts.autocommit.truthy) (hreturn : opts.returning.truthy = true)
    (hpk : m.primaryKey ≠ []) (hd : s.dialect.supportsReturning = true) {operation : String}
    {pre : Run (Option Value)} (hpre : pre.exec s = (.ok none, s)) {a : Value} {rest : List (Except Fault Value)}
    (hq : (s.pool .writer).queue = .ok a :: rest) (st : Statement) :
    Reports (writeTail cls m opts operation pre st) s (answerKeys m.primaryKey a) [s.entryOf st] := by
  obtain ⟨t, hrun, ht⟩ := runStatement_answer h hq st operation
  -- 書き込みの答えからキーを読む計算は状態に触れない
  have hwrite : (writeTail cls m opts operation pre st).exec s = (answerKeys m.primaryKey a, t) := by
    unfold writeTail writeKeys
    rw [exec_bind_ok hpre, exec_bind_ok hrun, exec_bind_ok (exec_get t), ht.dialect, hreturn, hd]
    simp only [Bool.not_true, Bool.or_false, Bool.false_or, List.isEmpty_iff, hpk, if_false]
    exact exec_answerKeys m.primaryKey a t
  refine ⟨by rw [hwrite], fun _ _ => ?_⟩
  rw [hwrite, ht.log]
  rfl

theorem writeTail_preselected {s t : Session} {cls : String} {m : Meta} {opts : WriteOptions}
    (h : WriteReady s cls m opts.autocommit.truthy) {operation : String} {pre : Run (Option Value)}
    {answer : Except Fault Value} (hpre : pre.exec s = (some <$> answer, t)) {e : Entry} {a : Value}
    {rest : List (Except Fault Value)} (ht : Answered s t e (.ok a :: rest)) (st : Statement) :
    Reports (writeTail cls m opts operation pre st) s answer [e, s.entryOf st] := by
  cases answer with
  | error f =>
    -- キーを読めなければ書き込まずに失敗する
    have hfail : (writeTail cls m opts operation pre st).exec s = (.error f, t) := by
      unfold writeTail
      exact exec_bind_error hpre _
    exact ⟨by rw [hfail], fun _ hk => by cases hk⟩
  | ok k =>
    obtain ⟨u, hrun, hu⟩ := runStatement_answer (h.answered ht) ht.queue st operation
    have hok : (writeTail cls m opts operation pre st).exec s = (.ok k, u) := by
      unfold writeTail writeKeys
      rw [exec_bind_ok hpre, exec_bind_ok hrun]
      rfl
    refine ⟨by rw [hok], fun _ _ => ?_⟩
    rw [hok, hu.log, ht.log, ht.entryOf]
    rfl

/-! ## 更新、削除、一括更新 -/

theorem exec_updateRows {s : Session} {cls : String} {m : Meta} {opts : WriteOptions}
    (h : WriteReady s cls m opts.autocommit.truthy) {conds values : Value} {st : Statement}
    (hst : Statement.update s.dialect s.catalog m conds values opts = .ok st) :
    (updateRows cls values opts conds).exec s =
      (writeTail cls m opts "update" (preselect cls m conds opts "update") st).exec s := by
  unfold updateRows
  rw [exec_bind_ok (exec_metaOf h.found), exec_bind_ok (exec_requireBound_of_bound h.bound cls),
    exec_bind_ok (exec_checkWrite_pass h.allowed _ _), exec_bind_ok (exec_context s),
    exec_bind_ok (exec_lift_ok hst s)]
  rfl

theorem exec_deleteRows {s : Session} {cls : String} {m : Meta} {opts : WriteOptions}
    (h : WriteReady s cls m opts.autocommit.truthy) {conds : Value} {st : Statement}
    (hst : Statement.delete s.dialect s.catalog m conds opts = .ok st) :
    (deleteRows cls opts conds).exec s =
      (writeTail cls m opts "delete" (preselect cls m conds opts "delete") st).exec s := by
  unfold deleteRows
  rw [exec_bind_ok (exec_metaOf h.found), exec_bind_ok (exec_requireBound_of_bound h.bound cls),
    exec_bind_ok (exec_checkWrite_pass h.allowed _ _), exec_bind_ok (exec_context s),
    exec_bind_ok (exec_lift_ok hst s)]
  rfl

/-- 一括更新の前にキーを読む計算: `RETURNING` のない方言では、行ごとのキーの列の値で作った条件で読む。 -/
def manyPreselect (cls : String) (m : Meta) (keyColumns : List Value) (opts : WriteOptions) (rowList : List Value) :
    Run (Option Value) := do
  if ← needsPreselect m opts then
    let resolved ← lift (m.resolveColumns keyColumns)
    let normalized ← rowList.mapM fun r => lift (m.normalizeRow r false)
    let keyRows := normalized.map fun row => resolved.map fun k => (row.get? k).getD .none
    preselect cls m (.list [keyRowsCondition resolved keyRows]) opts "update_many"
  else pure none

/-- 一括更新は、方針を当てて行を取り出し文を組み立てた後、キーを読んで書き込む。 -/
theorem exec_updateManyRows {s : Session} {cls : String} {m : Meta} {opts : WriteOptions}
    (h : WriteReady s cls m opts.autocommit.truthy) {rows : Value} {rowList : List Value}
    (hrows : rows.iterate = .ok rowList) {keyColumns : List Value} {st : Statement}
    (hst : Statement.updateMany s.dialect m rowList keyColumns opts = .ok st) :
    (updateManyRows cls keyColumns opts rows).exec s =
      (writeTail cls m opts "update_many" (manyPreselect cls m keyColumns opts rowList) st).exec s := by
  unfold updateManyRows
  rw [exec_bind_ok (exec_metaOf h.found), exec_bind_ok (exec_requireBound_of_bound h.bound cls),
    exec_bind_ok (exec_checkWrite_pass h.allowed _ _), exec_bind_ok (exec_lift_ok hrows s),
    exec_bind_ok (exec_get s), exec_bind_ok (exec_lift_ok hst s)]
  -- キーを読むかどうかで分けると、どちらの枝も書き込みの後半に続く
  simp only [writeTail, manyPreselect, bind_assoc]
  refine exec_bind_congr_right _ fun b t _ => ?_
  cases b <;> simp only [Bool.false_eq_true, ↓reduceIte, pure_bind, bind_assoc]

/-- `RETURNING` のない方言では、一括更新は行ごとのキーの列の値で作った条件でキーを読む。 -/
theorem exec_manyPreselect_answer {s : Session} {cls : String} {m : Meta} {opts : WriteOptions}
    (h : WriteReady s cls m opts.autocommit.truthy) (hreturn : opts.returning.truthy = true)
    (hpk : m.primaryKey ≠ []) (hd : s.dialect.supportsReturning = false) {keyColumns rowList : List Value}
    {resolved : List Column} (hres : m.resolveColumns keyColumns = .ok resolved) {normalized : List Row}
    (hnorm : rowList.mapM (fun r => m.normalizeRow r false) = .ok normalized) {st : Statement}
    (hst : Statement.selectKeys s.dialect s.catalog m
      (.list [keyRowsCondition resolved (normalized.map fun row => resolved.map fun k => (row.get? k).getD .none)])
      "update_many" = .ok st)
    {a : Value} {rest : List (Except Fault Value)} (hq : (s.pool .writer).queue = .ok a :: rest) :
    ∃ t, (manyPreselect cls m keyColumns opts rowList).exec s = (some <$> answerKeys m.primaryKey a, t) ∧
      Answered s t (s.entryOf st) rest := by
  obtain ⟨t, hpre, ht⟩ := exec_preselect_answer h hreturn hpk hd hst hq
  refine ⟨t, ?_, ht⟩
  have hneeds : (needsPreselect m opts).exec s = (.ok true, s) := by
    rw [exec_needsPreselect, hreturn, hd]
    simp [hpk]
  unfold manyPreselect
  rw [exec_bind_ok hneeds]
  simp only [↓reduceIte]
  rw [exec_bind_ok (exec_lift_ok hres s), exec_bind_ok (by rw [exec_normalizeRows s hnorm]), hpre]

theorem exec_manyPreselect_returning (cls : String) (m : Meta) (keyColumns : List Value) (opts : WriteOptions)
    (rowList : List Value) {s : Session} (hd : s.dialect.supportsReturning = true) :
    (manyPreselect cls m keyColumns opts rowList).exec s = (.ok none, s) := by
  unfold manyPreselect
  rw [exec_bind_ok (exec_needsPreselect m opts s), hd]
  simp

theorem exec_preselect_returning (cls : String) (m : Meta) (conds : Value) (opts : WriteOptions)
    (operation : String) {s : Session} (hd : s.dialect.supportsReturning = true) :
    (preselect cls m conds opts operation).exec s = (.ok none, s) := by
  unfold preselect
  rw [exec_bind_ok (exec_needsPreselect m opts s), hd]
  simp

/-! ## 二つの方言の答え -/

/-- 行の並びの主キーの結果。 -/
def rowsKeys (pk : List Column) (rows : List Value) : Except Fault Value :=
  Value.pkey (pk.map Value.column) <$> rows.mapM (rowKey pk)

@[simp] theorem answerKeys_result (pk : List Column) (rows : List Value) (rowCount lastId : Value) :
    answerKeys pk (.result rows rowCount lastId) = rowsKeys pk rows := rfl

theorem exists_mapM_ok {α β ε : Type} {f : α → Except ε β} {l : List α} (h : ∀ a ∈ l, ∃ b, f a = .ok b) :
    ∃ bs, l.mapM f = .ok bs := by
  induction l with
  | nil => exact ⟨[], rfl⟩
  | cons a l ih =>
    obtain ⟨b, hb⟩ := h a List.mem_cons_self
    obtain ⟨bs, hbs⟩ := ih fun x hx => h x (List.mem_cons_of_mem a hx)
    exact ⟨b :: bs, by rw [List.mapM_cons, hb, hbs]; rfl⟩

/-- 並びのどの要素でも二つの関数が値を返すなら、並びに当てた結果が等しいのは、要素ごとに等しいとき。 -/
theorem mapM_eq_mapM_iff {α β ε : Type} {f g : α → Except ε β} {l : List α}
    (h : ∀ a ∈ l, (∃ b, f a = .ok b) ∧ ∃ b, g a = .ok b) : l.mapM f = l.mapM g ↔ ∀ a ∈ l, f a = g a := by
  induction l with
  | nil => simp
  | cons a l ih =>
    obtain ⟨⟨b, hb⟩, ⟨b', hb'⟩⟩ := h a List.mem_cons_self
    have hl : ∀ x ∈ l, (∃ b, f x = .ok b) ∧ ∃ b, g x = .ok b := fun x hx => h x (List.mem_cons_of_mem a hx)
    obtain ⟨bs, hbs⟩ := exists_mapM_ok fun x hx => (hl x hx).1
    obtain ⟨bs', hbs'⟩ := exists_mapM_ok fun x hx => (hl x hx).2
    have ih' := ih hl
    rw [hbs, hbs'] at ih'
    rw [List.mapM_cons, List.mapM_cons, hb, hb', hbs, hbs', List.forall_mem_cons, ← ih', hb, hb']
    simp only [bind, Except.bind, pure, Except.pure, Except.ok.injEq, List.cons.injEq]

/-- 書き込んだ後の行の主キーの結果が書き込む前の行のものと等しいのは、どの行でも書き込みが主キーを
変えないとき（どの行も、書き込みの前にも後にも主キーの列を持つとして）。 -/
theorem rowsKeys_map_eq_iff {pk : List Column} {rows : List Value} {after : Value → Value}
    (hkeys : ∀ r ∈ rows, (∃ k, rowKey pk r = .ok k) ∧ ∃ k, rowKey pk (after r) = .ok k) :
    rowsKeys pk rows = rowsKeys pk (rows.map after) ↔ ∀ r ∈ rows, rowKey pk (after r) = rowKey pk r := by
  obtain ⟨ks, hks⟩ := exists_mapM_ok fun r hr => (hkeys r hr).1
  obtain ⟨ks', hks'⟩ := exists_mapM_ok (f := rowKey pk ∘ after) fun r hr => (hkeys r hr).2
  have hafter : (rows.map after).mapM (rowKey pk) = rows.mapM (rowKey pk ∘ after) := List.mapM_map
  have hiff := mapM_eq_mapM_iff (f := rowKey pk ∘ after) (g := rowKey pk) fun r hr => ⟨(hkeys r hr).2, (hkeys r hr).1⟩
  rw [hks, hks'] at hiff
  have hiff' : ks' = ks ↔ ∀ r ∈ rows, rowKey pk (after r) = rowKey pk r := by simpa using hiff
  unfold rowsKeys
  rw [hafter, hks, hks', ← hiff', eq_comm]
  simp only [Functor.map, Except.map, Except.ok.injEq, Value.pkey.injEq, true_and]

/-- 二つの方言で同じ書き込み `op` を走らせたときの答え。`RETURNING` のない方言の状態 `sN` では、キーを
読む文 `stK` と書き込みの文 `stN` を走らせ、キーを読む文が返した行 `rows` の主キーを答える。
`RETURNING` のある方言の状態 `sR` では、書き込みの文 `stR` だけを走らせ、それが返した行、つまり
書き込んだ後の行 `rows.map after` の主キーを答える。 -/
structure KeyStrategies (op : Run Value) (sN sR : Session) (pk : List Column) (rows : List Value)
    (after : Value → Value) (stK stN stR : Statement) : Prop where
  preselected : Reports op sN (rowsKeys pk rows) [sN.entryOf stK, sN.entryOf stN]
  returned : Reports op sR (rowsKeys pk (rows.map after)) [sR.entryOf stR]

/-- 二つの答えが等しいのは、書き込みがどの行の主キーも変えないとき。 -/
theorem KeyStrategies.agree_iff {op : Run Value} {sN sR : Session} {pk : List Column} {rows : List Value}
    {after : Value → Value} {stK stN stR : Statement} (h : KeyStrategies op sN sR pk rows after stK stN stR)
    (hkeys : ∀ r ∈ rows, (∃ k, rowKey pk r = .ok k) ∧ ∃ k, rowKey pk (after r) = .ok k) :
    (op.exec sN).1 = (op.exec sR).1 ↔ ∀ r ∈ rows, rowKey pk (after r) = rowKey pk r := by
  rw [h.preselected.returns, h.returned.returns]
  exact rowsKeys_map_eq_iff hkeys

/-! ## 方言ごとの答え -/

section Reports

variable {s : Session} {cls : String} {m : Meta} {opts : WriteOptions}

/-- `RETURNING` のない方言の更新は、キーを読む文と更新の文を走らせ、読んだ行の主キーを答える。 -/
theorem update_reports_preselected (h : WriteReady s cls m opts.autocommit.truthy)
    (hreturn : opts.returning.truthy = true) (hpk : m.primaryKey ≠ []) (hd : s.dialect.supportsReturning = false)
    {conds values : Value} {stK stN : Statement}
    (hK : Statement.selectKeys s.dialect s.catalog m conds "update" = .ok stK)
    (hN : Statement.update s.dialect s.catalog m conds values opts = .ok stN)
    {rows : List Value} {rowCount lastId a : Value} {rest : List (Except Fault Value)}
    (hq : (s.pool .writer).queue = .ok (.result rows rowCount lastId) :: .ok a :: rest) :
    Reports (update cls conds values opts) s (rowsKeys m.primaryKey rows) [s.entryOf stK, s.entryOf stN] :=
  Reports.dispatch h.pass fun req => by
    obtain ⟨t, hpre, ht⟩ := exec_preselect_answer (h.rerequest req) hreturn hpk hd hK hq
    exact (writeTail_preselected (h.rerequest req) hpre ht stN).of_exec (exec_updateRows (h.rerequest req) hN)

/-- `RETURNING` のある方言の更新は、更新の文だけを走らせ、それが返した行の主キーを答える。 -/
theorem update_reports_returning (h : WriteReady s cls m opts.autocommit.truthy)
    (hreturn : opts.returning.truthy = true) (hpk : m.primaryKey ≠ []) (hd : s.dialect.supportsReturning = true)
    {conds values : Value} {stR : Statement} (hR : Statement.update s.dialect s.catalog m conds values opts = .ok stR)
    {rows : List Value} {rowCount lastId : Value} {rest : List (Except Fault Value)}
    (hq : (s.pool .writer).queue = .ok (.result rows rowCount lastId) :: rest) :
    Reports (update cls conds values opts) s (rowsKeys m.primaryKey rows) [s.entryOf stR] :=
  Reports.dispatch h.pass fun req =>
    (writeTail_returning (h.rerequest req) hreturn hpk hd (exec_preselect_returning cls m conds opts "update" hd) hq
      stR).of_exec (exec_updateRows (h.rerequest req) hR)

/-- `RETURNING` のない方言の削除は、キーを読む文と削除の文を走らせ、読んだ行の主キーを答える。 -/
theorem delete_reports_preselected (h : WriteReady s cls m opts.autocommit.truthy)
    (hreturn : opts.returning.truthy = true) (hpk : m.primaryKey ≠ []) (hd : s.dialect.supportsReturning = false)
    {conds : Value} {stK stN : Statement}
    (hK : Statement.selectKeys s.dialect s.catalog m conds "delete" = .ok stK)
    (hN : Statement.delete s.dialect s.catalog m conds opts = .ok stN)
    {rows : List Value} {rowCount lastId a : Value} {rest : List (Except Fault Value)}
    (hq : (s.pool .writer).queue = .ok (.result rows rowCount lastId) :: .ok a :: rest) :
    Reports (delete cls conds opts) s (rowsKeys m.primaryKey rows) [s.entryOf stK, s.entryOf stN] :=
  Reports.dispatch h.pass fun req => by
    obtain ⟨t, hpre, ht⟩ := exec_preselect_answer (h.rerequest req) hreturn hpk hd hK hq
    exact (writeTail_preselected (h.rerequest req) hpre ht stN).of_exec (exec_deleteRows (h.rerequest req) hN)

/-- `RETURNING` のある方言の削除は、削除の文だけを走らせ、それが返した行の主キーを答える。 -/
theorem delete_reports_returning (h : WriteReady s cls m opts.autocommit.truthy)
    (hreturn : opts.returning.truthy = true) (hpk : m.primaryKey ≠ []) (hd : s.dialect.supportsReturning = true)
    {conds : Value} {stR : Statement} (hR : Statement.delete s.dialect s.catalog m conds opts = .ok stR)
    {rows : List Value} {rowCount lastId : Value} {rest : List (Except Fault Value)}
    (hq : (s.pool .writer).queue = .ok (.result rows rowCount lastId) :: rest) :
    Reports (delete cls conds opts) s (rowsKeys m.primaryKey rows) [s.entryOf stR] :=
  Reports.dispatch h.pass fun req =>
    (writeTail_returning (h.rerequest req) hreturn hpk hd (exec_preselect_returning cls m conds opts "delete" hd) hq
      stR).of_exec (exec_deleteRows (h.rerequest req) hR)

/-- `RETURNING` のない方言の一括更新は、行ごとのキーの列の値でキーを読む文と一括更新の文を走らせ、
読んだ行の主キーを答える。 -/
theorem updateMany_reports_preselected (h : WriteReady s cls m opts.autocommit.truthy)
    (hreturn : opts.returning.truthy = true) (hpk : m.primaryKey ≠ []) (hd : s.dialect.supportsReturning = false)
    {rowsValue : Value} {rowList keyColumns : List Value} (hrows : rowsValue.iterate = .ok rowList)
    {resolved : List Column} (hres : m.resolveColumns keyColumns = .ok resolved) {normalized : List Row}
    (hnorm : rowList.mapM (fun r => m.normalizeRow r false) = .ok normalized) {stK stN : Statement}
    (hK : Statement.selectKeys s.dialect s.catalog m
      (.list [keyRowsCondition resolved (normalized.map fun row => resolved.map fun k => (row.get? k).getD .none)])
      "update_many" = .ok stK)
    (hN : Statement.updateMany s.dialect m rowList keyColumns opts = .ok stN)
    {rows : List Value} {rowCount lastId a : Value} {rest : List (Except Fault Value)}
    (hq : (s.pool .writer).queue = .ok (.result rows rowCount lastId) :: .ok a :: rest) :
    Reports (updateMany cls rowsValue keyColumns opts) s (rowsKeys m.primaryKey rows) [s.entryOf stK, s.entryOf stN] :=
  Reports.dispatch h.pass fun req => by
    obtain ⟨t, hpre, ht⟩ := exec_manyPreselect_answer (h.rerequest req) hreturn hpk hd hres hnorm hK hq
    exact (writeTail_preselected (h.rerequest req) hpre ht stN).of_exec
      (exec_updateManyRows (h.rerequest req) hrows hN)

/-- `RETURNING` のある方言の一括更新は、一括更新の文だけを走らせ、それが返した行の主キーを答える。 -/
theorem updateMany_reports_returning (h : WriteReady s cls m opts.autocommit.truthy)
    (hreturn : opts.returning.truthy = true) (hpk : m.primaryKey ≠ []) (hd : s.dialect.supportsReturning = true)
    {rowsValue : Value} {rowList keyColumns : List Value} (hrows : rowsValue.iterate = .ok rowList)
    {stR : Statement} (hR : Statement.updateMany s.dialect m rowList keyColumns opts = .ok stR)
    {rows : List Value} {rowCount lastId : Value} {rest : List (Except Fault Value)}
    (hq : (s.pool .writer).queue = .ok (.result rows rowCount lastId) :: rest) :
    Reports (updateMany cls rowsValue keyColumns opts) s (rowsKeys m.primaryKey rows) [s.entryOf stR] :=
  Reports.dispatch h.pass fun req =>
    (writeTail_returning (h.rerequest req) hreturn hpk hd
      (exec_manyPreselect_returning cls m keyColumns opts rowList hd) hq stR).of_exec
      (exec_updateManyRows (h.rerequest req) hrows hR)

end Reports

/-! ## 挿入が答えるキー -/

section Inserts

variable {s : Session} {cls : String} {m : Meta} {opts : InsertOptions}

theorem Stateless.answer_eq {α : Type} {x : Run α} (hx : Stateless x) (s t : Session) : (x.exec t).1 = (x.exec s).1 := by
  rw [hx.exec_eq s t]

/-- 挿入は、方針を当てて文を組み立て、書き手で走らせた後、`RETURNING` のない方言ではドライバの結果から
`reportedKeys` で答えたキーを返す。 -/
theorem insert_reports_reportedKeys (h : WriteReady s cls m opts.autocommit.truthy)
    (hreturn : opts.returning.truthy = true) (hpk : m.primaryKey ≠ []) (hd : s.dialect.supportsReturning = false)
    {rows : List Value} {st : Statement} (hst : Statement.insert s.dialect s.catalog m rows opts = .ok st)
    {result : Value} {rest : List (Except Fault Value)} (hq : (s.pool .writer).queue = .ok result :: rest)
    (operation : String) :
    Reports (Session.insert cls rows opts operation) s ((reportedKeys m rows result).exec s).1 [s.entryOf st] := by
  obtain ⟨t, hrun, ht⟩ := runStatement_answer h hq st operation
  -- キーは文の後の状態から答えるが、その答えは状態に依らない
  have hinsert : (Session.insert cls rows opts operation).exec s = (((reportedKeys m rows result).exec s).1, t) := by
    unfold Session.insert
    rw [exec_bind_ok (exec_metaOf h.found), exec_bind_ok (exec_requireBound_of_bound h.bound cls),
      exec_bind_ok (exec_checkWrite_pass h.allowed _ _), exec_bind_ok (exec_context s),
      exec_bind_ok (exec_lift_ok hst s), exec_bind_ok hrun]
    simp only [hreturn, hd, Bool.not_true, Bool.false_or, List.isEmpty_iff, hpk, if_false]
    exact (stateless_reportedKeys m rows result).exec_eq s t
  exact ⟨by rw [hinsert], fun _ _ => by rw [hinsert, ht.log]; rfl⟩

theorem create_reports (h : WriteReady s cls m opts.autocommit.truthy) (hreturn : opts.returning.truthy = true)
    (hpk : m.primaryKey ≠ []) (hd : s.dialect.supportsReturning = false) {values : Value} {st : Statement}
    (hst : Statement.insert s.dialect s.catalog m [values] opts = .ok st) {result : Value}
    {rest : List (Except Fault Value)} (hq : (s.pool .writer).queue = .ok result :: rest) :
    Reports (create cls values opts) s ((reportedKeys m [values] result).exec s).1 [s.entryOf st] :=
  Reports.dispatch h.pass fun req => by
    have hr := insert_reports_reportedKeys (h.rerequest req) hreturn hpk hd hst hq "create"
    rwa [(stateless_reportedKeys m [values] result).answer_eq s] at hr

theorem createMany_reports (h : WriteReady s cls m opts.autocommit.truthy) (hreturn : opts.returning.truthy = true)
    (hpk : m.primaryKey ≠ []) (hd : s.dialect.supportsReturning = false) {rowsValue : Value} {rows : List Value}
    (hrows : rowsValue.iterate = .ok rows) {st : Statement}
    (hst : Statement.insert s.dialect s.catalog m rows opts = .ok st) {result : Value}
    {rest : List (Except Fault Value)} (hq : (s.pool .writer).queue = .ok result :: rest) :
    Reports (createMany cls rowsValue opts) s ((reportedKeys m rows result).exec s).1 [s.entryOf st] :=
  Reports.dispatch h.pass fun req => by
    have hr := insert_reports_reportedKeys (h.rerequest req) hreturn hpk hd hst hq "create_many"
    rw [(stateless_reportedKeys m rows result).answer_eq s] at hr
    exact hr.of_exec (exec_bind_ok (exec_lift_ok hrows _) _)

/-- `RETURNING` のない方言で `returning` を求め、主キーのあるモデルに一件の挿入か複数の挿入をすると、
挿入の文を書き手で走らせ、ドライバの結果 `result` から `reportedKeys` で答えたキーを返す。その答え方は
`KeyAnswers` のとおり: どの行も主キーを与えれば与えたキー、一列のキーを与えない行があれば最初の番号
`first` から行の数だけ続けた番号（キーを与えた行にも）、最初の番号がなければ `None`、複数の列のキーを
与えない行があれば `None`。キーをどの行も与えるか、どの行も与えなければ、答えはデータベースが与えたキー
`assignedKeys` に一致する。 -/
theorem reported_insert_keys (h : WriteReady s cls m opts.autocommit.truthy) (hreturn : opts.returning.truthy = true)
    (hpk : m.primaryKey ≠ []) (hd : s.dialect.supportsReturning = false) {rows : List Value}
    {normalized : List Row} (hnorm : rows.mapM (m.normalizeRow · false) = .ok normalized) {st : Statement}
    (hst : Statement.insert s.dialect s.catalog m rows opts = .ok st) :
    KeyAnswers m normalized (fun result => ((reportedKeys m rows result).exec s).1) ∧
      ∀ result rest, (s.pool .writer).queue = .ok result :: rest →
        (∀ values, rows = [values] →
          Reports (create cls values opts) s ((reportedKeys m rows result).exec s).1 [s.entryOf st]) ∧
        ∀ rowsValue, rowsValue.iterate = .ok rows →
          Reports (createMany cls rowsValue opts) s ((reportedKeys m rows result).exec s).1 [s.entryOf st] := by
  refine ⟨(reportedKeys_answers s hnorm).1, fun result rest hq => ⟨fun values hrows => ?_,
    fun rowsValue hiter => createMany_reports h hreturn hpk hd hiter hst hq⟩⟩
  subst hrows
  exact create_reports h hreturn hpk hd hst hq

end Inserts

/-! ## 二つの方言の答えの一致 -/

/-- 同じモデル `cls` の書き込みを、`RETURNING` のない方言の状態 `sN` と、ある方言の状態 `sR` で
`returning` を求めて走らせる。どちらでも書き込みの文を走らせられ、モデルには主キーがある。 -/
structure TwoDialects (sN sR : Session) (cls : String) (m : Meta) (opts : WriteOptions) : Prop where
  readyN : WriteReady sN cls m opts.autocommit.truthy
  readyR : WriteReady sR cls m opts.autocommit.truthy
  withoutReturning : sN.dialect.supportsReturning = false
  withReturning : sR.dialect.supportsReturning = true
  returning : opts.returning.truthy = true
  primaryKey : m.primaryKey ≠ []

/-- 二つの方言のデータベースが鍵を掛けた同じ行 `rows`（書き込む前の行、データベースの順）を選ぶ。
`RETURNING` のない方言の書き手は、キーを読む文にその行を、書き込みに何かの結果を返す。`RETURNING` の
ある方言の書き手は、書き込みにそれぞれの行の書き込んだ後の行 `after r` を返す。 -/
structure LockedRows (sN sR : Session) (rows : List Value) (after : Value → Value) : Prop where
  preselected : ∃ rowCount lastId a rest,
    (sN.pool .writer).queue = .ok (.result rows rowCount lastId) :: .ok a :: rest
  returned : ∃ rowCount lastId rest, (sR.pool .writer).queue = .ok (.result (rows.map after) rowCount lastId) :: rest

section Strategies

variable {sN sR : Session} {cls : String} {m : Meta} {opts : WriteOptions} {rows : List Value}
  {after : Value → Value} {stK stN stR : Statement}

theorem update_keyStrategies (hd : TwoDialects sN sR cls m opts) (hrows : LockedRows sN sR rows after)
    {conds values : Value} (hK : Statement.selectKeys sN.dialect sN.catalog m conds "update" = .ok stK)
    (hN : Statement.update sN.dialect sN.catalog m conds values opts = .ok stN)
    (hR : Statement.update sR.dialect sR.catalog m conds values opts = .ok stR) :
    KeyStrategies (update cls conds values opts) sN sR m.primaryKey rows after stK stN stR := by
  obtain ⟨_, _, _, _, hq⟩ := hrows.preselected
  obtain ⟨_, _, _, hq'⟩ := hrows.returned
  exact ⟨update_reports_preselected hd.readyN hd.returning hd.primaryKey hd.withoutReturning hK hN hq,
    update_reports_returning hd.readyR hd.returning hd.primaryKey hd.withReturning hR hq'⟩

theorem delete_keyStrategies (hd : TwoDialects sN sR cls m opts) (hrows : LockedRows sN sR rows after)
    {conds : Value} (hK : Statement.selectKeys sN.dialect sN.catalog m conds "delete" = .ok stK)
    (hN : Statement.delete sN.dialect sN.catalog m conds opts = .ok stN)
    (hR : Statement.delete sR.dialect sR.catalog m conds opts = .ok stR) :
    KeyStrategies (delete cls conds opts) sN sR m.primaryKey rows after stK stN stR := by
  obtain ⟨_, _, _, _, hq⟩ := hrows.preselected
  obtain ⟨_, _, _, hq'⟩ := hrows.returned
  exact ⟨delete_reports_preselected hd.readyN hd.returning hd.primaryKey hd.withoutReturning hK hN hq,
    delete_reports_returning hd.readyR hd.returning hd.primaryKey hd.withReturning hR hq'⟩

theorem updateMany_keyStrategies (hd : TwoDialects sN sR cls m opts) (hrows : LockedRows sN sR rows after)
    {rowsValue : Value} {rowList keyColumns : List Value} (hiter : rowsValue.iterate = .ok rowList)
    {resolved : List Column} (hres : m.resolveColumns keyColumns = .ok resolved) {normalized : List Row}
    (hnorm : rowList.mapM (fun r => m.normalizeRow r false) = .ok normalized)
    (hK : Statement.selectKeys sN.dialect sN.catalog m
      (.list [keyRowsCondition resolved (normalized.map fun row => resolved.map fun k => (row.get? k).getD .none)])
      "update_many" = .ok stK)
    (hN : Statement.updateMany sN.dialect m rowList keyColumns opts = .ok stN)
    (hR : Statement.updateMany sR.dialect m rowList keyColumns opts = .ok stR) :
    KeyStrategies (updateMany cls rowsValue keyColumns opts) sN sR m.primaryKey rows after stK stN stR := by
  obtain ⟨_, _, _, _, hq⟩ := hrows.preselected
  obtain ⟨_, _, _, hq'⟩ := hrows.returned
  exact ⟨updateMany_reports_preselected hd.readyN hd.returning hd.primaryKey hd.withoutReturning hiter hres hnorm
      hK hN hq,
    updateMany_reports_returning hd.readyR hd.returning hd.primaryKey hd.withReturning hiter hR hq'⟩

end Strategies

/-- 主キーを読み直す書き込みと `RETURNING` の書き込みの答え。
* どの書き込み（更新、削除、一括更新）でも、`RETURNING` のない方言では、書き込みの前に同じ条件の並び
  （一括更新なら行ごとのキーの列の値で作った条件）で主キーを行の鍵を掛けて読む文を走らせ、次に書き込みの
  文を走らせ、読んだ行の主キーを答える。`RETURNING` のある方言では書き込みの文だけを走らせ、それが返した
  行の主キーを答える。
* 二つの方言のデータベースが同じ行を選び、`RETURNING` が書き込んだ後の行を返すなら（どの行も書き込みの
  前後で主キーの列を持つとして）、更新と一括更新の二つの答えが等しいのは、書き込みがどの行の主キーも
  変えないとき。削除の `RETURNING` は消す前の行を返すので、答えはいつも等しい。 -/
theorem preselected_keys_agree (sN sR : Session) (cls : String) (m : Meta) (opts : WriteOptions)
    (rows : List Value) (stK stN stR : Statement) :
    (∀ (conds values : Value) (after : Value → Value),
      TwoDialects sN sR cls m opts → LockedRows sN sR rows after →
      Statement.selectKeys sN.dialect sN.catalog m conds "update" = .ok stK →
      Statement.update sN.dialect sN.catalog m conds values opts = .ok stN →
      Statement.update sR.dialect sR.catalog m conds values opts = .ok stR →
      (∀ r ∈ rows, (∃ k, rowKey m.primaryKey r = .ok k) ∧ ∃ k, rowKey m.primaryKey (after r) = .ok k) →
      KeyStrategies (update cls conds values opts) sN sR m.primaryKey rows after stK stN stR ∧
        (((update cls conds values opts).exec sN).1 = ((update cls conds values opts).exec sR).1 ↔
          ∀ r ∈ rows, rowKey m.primaryKey (after r) = rowKey m.primaryKey r)) ∧
    (∀ conds : Value,
      TwoDialects sN sR cls m opts → LockedRows sN sR rows id →
      Statement.selectKeys sN.dialect sN.catalog m conds "delete" = .ok stK →
      Statement.delete sN.dialect sN.catalog m conds opts = .ok stN →
      Statement.delete sR.dialect sR.catalog m conds opts = .ok stR →
      KeyStrategies (delete cls conds opts) sN sR m.primaryKey rows id stK stN stR ∧
        ((delete cls conds opts).exec sN).1 = ((delete cls conds opts).exec sR).1) ∧
    (∀ (rowsValue : Value) (rowList keyColumns : List Value) (resolved : List Column) (normalized : List Row)
      (after : Value → Value),
      TwoDialects sN sR cls m opts → LockedRows sN sR rows after → rowsValue.iterate = .ok rowList →
      m.resolveColumns keyColumns = .ok resolved → rowList.mapM (fun r => m.normalizeRow r false) = .ok normalized →
      Statement.selectKeys sN.dialect sN.catalog m
        (.list [keyRowsCondition resolved (normalized.map fun row => resolved.map fun k => (row.get? k).getD .none)])
        "update_many" = .ok stK →
      Statement.updateMany sN.dialect m rowList keyColumns opts = .ok stN →
      Statement.updateMany sR.dialect m rowList keyColumns opts = .ok stR →
      (∀ r ∈ rows, (∃ k, rowKey m.primaryKey r = .ok k) ∧ ∃ k, rowKey m.primaryKey (after r) = .ok k) →
      KeyStrategies (updateMany cls rowsValue keyColumns opts) sN sR m.primaryKey rows after stK stN stR ∧
        (((updateMany cls rowsValue keyColumns opts).exec sN).1 = ((updateMany cls rowsValue keyColumns opts).exec sR).1 ↔
          ∀ r ∈ rows, rowKey m.primaryKey (after r) = rowKey m.primaryKey r)) := by
  refine ⟨fun conds values after hd hrows hK hN hR hkeys => ?_, fun conds hd hrows hK hN hR => ?_,
    fun rowsValue rowList keyColumns resolved normalized after hd hrows hiter hres hnorm hK hN hR hkeys => ?_⟩
  · have h := update_keyStrategies hd hrows hK hN hR
    exact ⟨h, h.agree_iff hkeys⟩
  · -- 削除の `RETURNING` が返すのは消す前の行そのもの
    have h := delete_keyStrategies hd hrows hK hN hR
    refine ⟨h, ?_⟩
    rw [h.preselected.returns, h.returned.returns, List.map_id]
  · have h := updateMany_keyStrategies hd hrows hiter hres hnorm hK hN hR
    exact ⟨h, h.agree_iff hkeys⟩

/-! ### 利用者の表 -/

/-- 主キー `id` と名前 `name` の列を持つ利用者の表だけの目録。 -/
def userCatalog : Catalog :=
  let user : ModelSpec :=
    { name := "User", table := some "users", tag := some "User",
      columns := [{ property := "id", primaryKey := .bool true }, { property := "name" }] }
  match Catalog.declareAll [user] with
  | .ok cat => cat
  | .error _ => {}

def userIdColumn : Column := { name := "id", property := "id", table := "users", model := "User", primaryKey := true }

def userNameColumn : Column := { name := "name", property := "name", table := "users", model := "User" }

def userMeta : Meta :=
  { tag := "User", table := "users", columns := [userIdColumn, userNameColumn],
    declared := [(.bool true, .none), (.bool false, .none)] }

/-- 方言 `d` で、トランザクションの中にあり、書き手が `answers` を順に返す状態。 -/
def usersSession (d : Dialect) (answers : List (Except Fault Value)) : Session :=
  { (default : Session) with
    dialect := d
    catalog := userCatalog
    reader := { label := "reader" }
    writer := some { label := "writer", queue := answers }
    binding := some ⟨1, false⟩ }

theorem usersSession_ready (d : Dialect) (answers : List (Except Fault Value)) :
    WriteReady (usersSession d answers) "User" userMeta false :=
  ⟨fun _ h => (List.not_mem_nil h).elim, rfl, rfl, rfl⟩

/-- 主キーだけの行 `{"id": k}`。 -/
def idRow (k : Int) : Value := .dict [(.str "id", .int k)]

/-- 利用者 1 の名前を変える更新。 -/
def renameUser : Run Value :=
  update "User" (.list [.tuple [.str "id", .int 1]]) (.list [.tuple [.str "name", .str "b"]]) {}

/-- 利用者 1 の名前を変える更新では、二つの方言の答えは、どちらも鍵を掛けた行の主キー。 -/
theorem rename_keys_agree :
    ∃ stK stN stR, KeyStrategies renameUser
      (usersSession .mysql [.ok (.result [idRow 1] (.int 1) .none), .ok (.result [] (.int 1) .none)])
      (usersSession .postgresql [.ok (.result [idRow 1] (.int 1) .none)]) userMeta.primaryKey [idRow 1] id
      stK stN stR ∧
    ((renameUser.exec (usersSession .mysql [.ok (.result [idRow 1] (.int 1) .none), .ok (.result [] (.int 1) .none)])).1 =
        (renameUser.exec (usersSession .postgresql [.ok (.result [idRow 1] (.int 1) .none)])).1 ↔
      ∀ r ∈ [idRow 1], rowKey userMeta.primaryKey (id r) = rowKey userMeta.primaryKey r) :=
  ⟨_, _, _, (preselected_keys_agree _ _ "User" userMeta ({} : WriteOptions) [idRow 1] _ _ _).1 _ _ id
    ⟨usersSession_ready _ _, usersSession_ready _ _, rfl, rfl, rfl, by simp [userMeta, Meta.primaryKey, userIdColumn]⟩
    ⟨⟨_, _, _, _, rfl⟩, ⟨_, _, _, rfl⟩⟩ rfl rfl rfl
    (by simp only [List.mem_singleton, forall_eq]; exact ⟨⟨_, rfl⟩, ⟨_, rfl⟩⟩)⟩

/-- 利用者 1 の主キーを 100 に変える更新。 -/
def rekeyUser : Run Value :=
  update "User" (.list [.tuple [.str "id", .int 1]]) (.list [.tuple [.str "id", .int 100]]) {}

/-- 主キーを変える更新では、二つの方言の答えが違う: 先に読む方言は変える前のキー 1 を、`RETURNING` の
方言は変えた後のキー 100 を答える。 -/
theorem rekey_reports_old_key :
    (rekeyUser.exec (usersSession .mysql [.ok (.result [idRow 1] (.int 1) .none), .ok (.result [] (.int 1) .none)])).1 =
        .ok (.pkey [.column userIdColumn] [.tuple [.int 1]]) ∧
      (rekeyUser.exec (usersSession .postgresql [.ok (.result [idRow 100] (.int 1) .none)])).1 =
        .ok (.pkey [.column userIdColumn] [.tuple [.int 100]]) :=
  ⟨rfl, rfl⟩

/-- 一行目だけが番号 5 を与える二人の利用者。 -/
def mixedUsers : List Value :=
  [.list [.tuple [.str "id", .int 5], .tuple [.str "name", .str "a"]], .list [.tuple [.str "name", .str "b"]]]

/-- 最初の番号 6 を返す MySQL の書き手で二人を一度に挿入すると、答えは番号 6, 7。データベースが与える
キーは 5, 6 なので、番号 5 の行は答えになく、答えの 7 の行はない。 -/
theorem mixed_users_keys :
    ((createMany "User" (.list mixedUsers) {}).exec (usersSession .mysql [.ok (.result [] (.int 2) (.int 6))])).1 =
        .ok (.pkey [.column userIdColumn] [.tuple [.int 6], .tuple [.int 7]]) ∧
      assignedKeys userIdColumn 6 [[(userIdColumn, .int 5), (userNameColumn, .str "a")], [(userNameColumn, .str "b")]] =
        [.tuple [.int 5], .tuple [.int 6]] := by
  have hnorm : mixedUsers.mapM (userMeta.normalizeRow · false) =
      .ok [[(userIdColumn, .int 5), (userNameColumn, .str "a")], [(userNameColumn, .str "b")]] := rfl
  have hready : WriteReady (usersSession .mysql [.ok (.result [] (.int 2) (.int 6))]) "User" userMeta
      (({} : InsertOptions).autocommit.truthy) := usersSession_ready _ _
  obtain ⟨st, hst⟩ : ∃ st, Statement.insert .mysql userCatalog userMeta mixedUsers {} = .ok st := ⟨_, rfl⟩
  obtain ⟨hkeys, hrun⟩ := reported_insert_keys hready rfl (by simp [userMeta, Meta.primaryKey, userIdColumn]) rfl
    hnorm hst
  -- 二行目はキーを与えないので、どの行にも 6 から続けた番号を答える
  have hanswer := hkeys.counted userIdColumn [] (.int 2) 6 rfl ⟨_, List.mem_cons_of_mem _ List.mem_cons_self, rfl⟩
  refine ⟨((hrun _ [] rfl).2 _ rfl).returns.trans ?_, rfl⟩
  rw [hanswer]
  rfl

end Session

end DataAccess
