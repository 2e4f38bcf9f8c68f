import DataAccess.Proofs.Run
import DataAccess.Proofs.Plain
/-!
# 文の行き先と書き込みの方針

組み立てた文（`run`）と生の SQL（`executeRaw`）は、どの束縛の状態からでも次のどれかになる。

* 読み取り専用の束縛の中の書き込みは、自動確定の指定があっても `ReadOnlyContextError` で拒む。
* 束縛がなく、自動確定の指定がなく、設定が求める書き込みは `WriteOutsideTransactionError` で拒む。
* 拒んだときは状態に触れない: 接続を借りず、記録も伸びない。
* ほかの文は方言の印に直して一度だけ走る。束縛があれば束縛した書き手の接続で（新しく借りない）、
  なければ書き込みか書き手に寄せる期間なら書き手、ほかは読み手の溜まりから一つ借りて。

束縛の形（なし、深さ `d` のトランザクション、その上の読み取り専用）は `Binding` のどの値でもよい。
-/

namespace DataAccess

namespace Session

open Run

/-- 書き込みの方針が文を拒むか: 読み取り専用の束縛の中の書き込みか、束縛のない書き込みで
自動確定の指定がなく設定がトランザクションを求めるとき。 -/
def refuses (s : Session) (write autocommit : Bool) : Bool :=
  write && match s.binding with
    | some b => b.readonly
    | none => !autocommit && s.settings.requireTransactionForWrites

/-- 拒まれない文の行き先: 束縛があれば束縛した書き手、なければ書き込みか書き手に寄せる期間なら
書き手、ほかは読み手。 -/
def destination (s : Session) (write : Bool) : Role :=
  if s.binding.isSome || write || s.request.sticky then .writer else .reader

/-- 溜まりから接続を一つ借りた状態。 -/
def checkout (s : Session) (r : Role) : Session :=
  s.modifyPool r fun p => { p with connected := true, checkouts := p.checkouts + 1 }

/-- 文を走らせる前の状態: 束縛がなければ行き先の溜まりから接続を一つ借りる。 -/
def prepared (s : Session) (write : Bool) : Session :=
  if s.binding.isSome then s else s.checkout (s.destination write)

@[simp] theorem checkout_label (s : Session) (r r' : Role) : ((s.checkout r).pool r').label = (s.pool r').label := by
  unfold checkout modifyPool pool
  cases r <;> cases r' <;> cases s.writer <;> rfl

theorem checkout_failures (s : Session) (r r' : Role) :
    ((s.checkout r).pool r').failures = (s.pool r').failures := by
  unfold checkout modifyPool pool
  cases r <;> cases r' <;> cases s.writer <;> rfl

theorem checkout_queue (s : Session) (r r' : Role) :
    ((s.checkout r).pool r').queue = (s.pool r').queue := by
  unfold checkout modifyPool pool
  cases r <;> cases r' <;> cases s.writer <;> rfl

theorem checkout_checkouts (s : Session) (r : Role) :
    ((s.checkout r).pool r).checkouts = (s.pool r).checkouts + 1 := by
  unfold checkout modifyPool pool
  cases r <;> cases s.writer <;> rfl

@[simp] theorem checkout_log (s : Session) (r : Role) : (s.checkout r).log = s.log := modifyPool_log

@[simp] theorem prepared_label (s : Session) (write : Bool) (r : Role) :
    ((s.prepared write).pool r).label = (s.pool r).label := by
  unfold prepared
  split <;> simp

@[simp] theorem prepared_log (s : Session) (write : Bool) : (s.prepared write).log = s.log := by
  unfold prepared
  split <;> simp

@[simp] theorem prepared_catalog (s : Session) (write : Bool) : (s.prepared write).catalog = s.catalog := by
  unfold prepared
  split <;> simp [checkout]

@[simp] theorem prepared_dialect (s : Session) (write : Bool) : (s.prepared write).dialect = s.dialect := by
  unfold prepared
  split <;> simp [checkout]

@[simp] theorem prepared_registry (s : Session) (write : Bool) : (s.prepared write).registry = s.registry := by
  unfold prepared
  split <;> simp [checkout]

@[simp] theorem prepared_bound (s : Session) (write : Bool) : (s.prepared write).bound = s.bound := by
  unfold prepared
  split <;> simp [checkout]

@[simp] theorem prepared_binding (s : Session) (write : Bool) : (s.prepared write).binding = s.binding := by
  unfold prepared
  split <;> simp [checkout]

@[simp] theorem prepared_settings (s : Session) (write : Bool) : (s.prepared write).settings = s.settings := by
  unfold prepared
  split <;> simp [checkout]

theorem execute_log (r : Role) (sql : String) (params : List Value) (s : Session) :
    ((execute r sql params).exec s).2.log = ⟨(s.pool r).label, sql, params⟩ :: s.log := by
  unfold execute
  rw [exec_bind_ok (exec_append _ _ _ _), exec_bind_ok (exec_get _)]
  split
  · rfl
  · rw [exec_bind_ok (exec_set _ _)]
    split <;> simp

theorem execute_checkouts (r r' : Role) (sql : String) (params : List Value) (s : Session) :
    (((execute r sql params).exec s).2.pool r').checkouts = (s.pool r').checkouts := by
  unfold execute
  rw [exec_bind_ok (exec_append _ _ _ _), exec_bind_ok (exec_get _)]
  split
  · rfl
  · rw [exec_bind_ok (exec_set _ _)]
    split <;>
    · simp only [exec_pure, exec_throw]
      apply modifyPool_checkouts
      intro p
      rfl

/-! ## 方針と行き先の一歩 -/

theorem exec_checkWrite_readOnly {s : Session} {b : Binding} (hb : s.binding = some b) (hro : b.readonly = true)
    (operation : String) (modelName : Option String) (autocommit : Bool) :
    (checkWrite operation modelName autocommit).exec s =
      (.error (Fault.policy .readOnly .none (.str operation) (Fault.textValue modelName)), s) := by
  unfold checkWrite
  rw [exec_bind_ok (exec_get _)]
  simp only [hb, hro, if_true]
  rfl

theorem exec_checkWrite_outside {s : Session} (hb : s.binding = none) (operation : String)
    (modelName : Option String) (hreq : s.settings.requireTransactionForWrites = true) :
    (checkWrite operation modelName false).exec s =
      (.error (Fault.policy .writeOutside .none (.str operation) (Fault.textValue modelName)), s) := by
  unfold checkWrite
  rw [exec_bind_ok (exec_get _)]
  simp only [hb, hreq, Bool.not_false, Bool.and_self, if_true]
  rfl

theorem exec_checkWrite_pass {s : Session} {autocommit : Bool} (h : s.refuses true autocommit = false)
    (operation : String) (modelName : Option String) :
    (checkWrite operation modelName autocommit).exec s = (.ok ⟨⟩, s) := by
  unfold refuses at h
  unfold checkWrite
  rw [exec_bind_ok (exec_get _)]
  cases hb : s.binding with
  | some b =>
    simp only [hb, Bool.true_and] at h
    simp [h]
  | none =>
    simp only [hb, Bool.true_and] at h
    simp [h]

theorem exec_route (s : Session) (write : Bool) :
    (route write).exec s = (.ok (s.destination write), s.prepared write) := by
  unfold route
  rw [exec_bind_ok (exec_get _)]
  cases hb : s.binding with
  | some b => simp [destination, prepared, hb]
  | none =>
    rw [exec_bind_ok (exec_acquire _ _)]
    simp [destination, prepared, checkout, hb]

/-! ## 文を走らせる計算 -/

/-- 文を走らせる計算 `x` の法則。`sql` は方言の印に直した文、`write` は書き込みか。 -/
structure Routes (x : Run Value) (s : Session) (sql : String) (params : List Value) (write : Bool)
    (operation : String) (modelName : Option String) (autocommit : Bool) : Prop where
  /-- 読み取り専用の束縛の中の書き込みは、自動確定でも拒み、状態に触れない。 -/
  readOnly : ∀ b, s.binding = some b → b.readonly = true → write = true →
    x.exec s = (.error (Fault.policy .readOnly .none (.str operation) (Fault.textValue modelName)), s)
  /-- 束縛のない書き込みは、自動確定の指定がなく設定が求めれば拒み、状態に触れない。 -/
  outside : s.binding = none → write = true → autocommit = false →
    s.settings.requireTransactionForWrites = true →
    x.exec s = (.error (Fault.policy .writeOutside .none (.str operation) (Fault.textValue modelName)), s)
  /-- 拒まれない文は行き先で走る（束縛がなければ行き先の溜まりから一つ借りて）。 -/
  runs : s.refuses write autocommit = false →
    x.exec s = (execute (s.destination write) sql params).exec (s.prepared write)
  /-- 拒まれない文は一度だけ走る: 記録に行き先の名札の一行が足される。 -/
  once : s.refuses write autocommit = false →
    (x.exec s).2.log = ⟨(s.pool (s.destination write)).label, sql, params⟩ :: s.log

theorem Routes.of_runs {x : Run Value} {s : Session} {sql : String} {params : List Value} {write : Bool}
    {operation : String} {modelName : Option String} {autocommit : Bool}
    (hro : ∀ b, s.binding = some b → b.readonly = true → write = true →
      x.exec s = (.error (Fault.policy .readOnly .none (.str operation) (Fault.textValue modelName)), s))
    (hout : s.binding = none → write = true → autocommit = false →
      s.settings.requireTransactionForWrites = true →
      x.exec s = (.error (Fault.policy .writeOutside .none (.str operation) (Fault.textValue modelName)), s))
    (hruns : s.refuses write autocommit = false →
      x.exec s = (execute (s.destination write) sql params).exec (s.prepared write)) :
    Routes x s sql params write operation modelName autocommit where
  readOnly := hro
  outside := hout
  runs := hruns
  once h := by rw [hruns h, execute_log, prepared_label, prepared_log]

/-- 組み立てた文は、どの束縛の状態からでも方針と行き先の法則に従う。 -/
theorem run_routes (s : Session) (st : Statement) (write : Bool) (operation : String)
    (modelName : Option String) (autocommit : Bool) :
    Routes (run st write operation modelName autocommit) s (s.dialect.convertPlaceholders st.sql) st.params
      write operation modelName autocommit := by
  -- 方針を通った後は、方言を読み、行き先を決めて走らせる
  have hrest : ((do
      let d := (← get).dialect
      let r ← route write
      execute r (d.convertPlaceholders st.sql) st.params) : Run Value).exec s =
      (execute (s.destination write) (s.dialect.convertPlaceholders st.sql) st.params).exec (s.prepared write) := by
    rw [exec_bind_ok (exec_get _), exec_bind_ok (exec_route _ _)]
  refine Routes.of_runs ?_ ?_ ?_
  · intro b hb hro hw
    subst hw
    unfold run
    rw [if_pos rfl, exec_bind_error (exec_checkWrite_readOnly hb hro _ _ _)]
  · intro hb hw ha hreq
    subst hw ha
    unfold run
    rw [if_pos rfl, exec_bind_error (exec_checkWrite_outside hb _ _ hreq)]
  · intro hpass
    unfold run
    cases write with
    | false => exact hrest
    | true => rw [if_pos rfl, exec_bind_ok (exec_checkWrite_pass hpass _ _)]; exact hrest

/-- 状態に触れずに失敗しうる変換 `h` を走らせる計算 `g` を並びに当てると、変換の並びの結果を返して
状態に触れない。 -/
theorem exec_mapM_lift {α β : Type} {g : α → Run β} {h : α → Except Fault β} {s : Session}
    (hg : ∀ p, (g p).exec s = (h p, s)) : ∀ params : List α, (params.mapM g).exec s = (params.mapM h, s)
  | [] => rfl
  | p :: ps => by
    simp only [List.mapM_cons]
    rw [exec_bind, hg p]
    cases h p with
    | error f => rfl
    | ok v =>
      simp only
      rw [exec_bind, exec_mapM_lift hg ps]
      cases ps.mapM h <;> rfl

/-- 生の SQL は、値を方言に合わせられれば、先頭の動詞で決めた書き込みの別で組み立てた文と同じに走る。 -/
theorem exec_executeRaw {s : Session} {text : String} {params adapted : List Value}
    (hadapt : params.mapM s.dialect.adaptParam = .ok adapted) (autocommit : Bool) (modelName : Option String) :
    (executeRaw (.str text) params autocommit modelName).exec s =
      (run ⟨text, adapted⟩ (Sql.isWriteStatement text) "execute" modelName autocommit).exec s := by
  unfold executeRaw
  rw [exec_bind_ok (exec_get _)]
  dsimp only
  rw [exec_bind, exec_mapM_lift (h := s.dialect.adaptParam) ?adapt, hadapt]
  case adapt =>
    -- 値を一つ合わせる一歩は、合わせた結果を返して状態に触れない
    intro p
    split <;> simp_all
  have htext : (Value.str text).patternText = .ok text := rfl
  simp only [htext, pure_bind]

/-- 値を方言に合わせられなければ、生の SQL は接続に触れずにその失敗で終わる。 -/
theorem exec_executeRaw_unadapted {s : Session} {params : List Value} {f : Fault}
    (hadapt : params.mapM s.dialect.adaptParam = .error f) (sql : Value) (autocommit : Bool)
    (modelName : Option String) : (executeRaw sql params autocommit modelName).exec s = (.error f, s) := by
  unfold executeRaw
  rw [exec_bind_ok (exec_get _)]
  dsimp only
  rw [exec_bind, exec_mapM_lift (h := s.dialect.adaptParam) ?adapt, hadapt]
  case adapt =>
    intro p
    split <;> simp_all

theorem exec_transaction_readOnly {α : Type} {s : Session} {b : Binding} (hb : s.binding = some b)
    (hro : b.readonly = true) (fn : Run α) (opts : TransactionOptions) :
    (transaction fn opts).exec s = (.error (Fault.policy .readOnly .none (.str "transaction") .none), s) := by
  unfold transaction
  rw [exec_bind_ok (exec_get _)]
  simp only [hb, hro, if_true]
  rfl

/-- 書き込みの方針と文の行き先: 束縛のどの状態からでも、組み立てた文と生の SQL は `Routes` の法則に
従い（値を方言に合わせられない生の SQL は接続に触れずに失敗し）、読み取り専用の束縛の中の
トランザクションは接続に触れずに拒まれる。 -/
theorem statement_routing (s : Session) :
    (∀ st write operation modelName autocommit,
      Routes (run st write operation modelName autocommit) s (s.dialect.convertPlaceholders st.sql) st.params
        write operation modelName autocommit) ∧
    (∀ text params adapted autocommit modelName, params.mapM s.dialect.adaptParam = .ok adapted →
      Routes (executeRaw (.str text) params autocommit modelName) s (s.dialect.convertPlaceholders text) adapted
        (Sql.isWriteStatement text) "execute" modelName autocommit) ∧
    (∀ sql params f autocommit modelName, params.mapM s.dialect.adaptParam = .error f →
      (executeRaw sql params autocommit modelName).exec s = (.error f, s)) ∧
    (∀ {α : Type} (fn : Run α) opts b, s.binding = some b → b.readonly = true →
      (transaction fn opts).exec s = (.error (Fault.policy .readOnly .none (.str "transaction") .none), s)) := by
  refine ⟨run_routes s, ?_, fun sql _ _ autocommit modelName hadapt =>
    exec_executeRaw_unadapted hadapt sql autocommit modelName,
    fun fn opts b hb hro => exec_transaction_readOnly hb hro fn opts⟩
  intro text params adapted autocommit modelName hadapt
  have hraw : (executeRaw (.str text) params autocommit modelName).exec s = _ :=
    exec_executeRaw hadapt autocommit modelName
  have hrun := run_routes s ⟨text, adapted⟩ (Sql.isWriteStatement text) "execute" modelName autocommit
  exact ⟨fun b hb hro hw => hraw.trans (hrun.readOnly b hb hro hw),
    fun hb hw ha hreq => hraw.trans (hrun.outside hb hw ha hreq),
    fun h => hraw.trans (hrun.runs h), fun h => by rw [hraw]; exact hrun.once h⟩

/-- 書き手での読み取りの中では、自動確定を指定した生の削除の文も、接続に触れずに拒まれる。 -/
theorem readOnly_raw_delete_refused :
    ([] : List Value).mapM ({ (default : Session) with binding := some ⟨0, true⟩ } : Session).dialect.adaptParam =
        .ok [] ∧
      (executeRaw (.str "DELETE FROM t") [] true none).exec { (default : Session) with binding := some ⟨0, true⟩ } =
        (.error (Fault.policy .readOnly .none (.str "execute") .none),
          { (default : Session) with binding := some ⟨0, true⟩ }) :=
  ⟨rfl, ((statement_routing _).2.1 "DELETE FROM t" [] [] true none rfl).readOnly ⟨0, true⟩ rfl rfl (by decide)⟩

end Session

end DataAccess
