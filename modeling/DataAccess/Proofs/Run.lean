import DataAccess.Session.Database
/-!
# 実行の計算を状態から走らせる

`Run` の計算を状態から走らせた結果（成否と次の状態）を `Run.exec` で読む。結び付き、失敗の
受け止め、状態の読み書きの式を一つずつ置き、接続の操作（文、制御の文、束縛の付け替え）は、
走らせた後の状態を一つの補題で言う。後の証明は操作を開かずにこれらの補題を引く。

書き手の接続が失敗しない状態（`DriverOk`）では、文は必ず結果を返し、`BEGIN` と `ROLLBACK` は
失敗しない。記録の伸び方は `Grows` で言う: 記録に新しい行が足され、束縛、方言、書き手の名札は
そのまま。
-/

namespace DataAccess

/-- 計算を状態 `s` から走らせた結果と次の状態。 -/
def Run.exec {α : Type} (x : Run α) (s : Session) : Except Fault α × Session := x.run.run s

namespace Run

variable {α β : Type}

@[simp] theorem exec_pure (a : α) (s : Session) : (pure a : Run α).exec s = (.ok a, s) := rfl

@[simp] theorem exec_throw (e : Fault) (s : Session) : (throw e : Run α).exec s = (.error e, s) := rfl

@[simp] theorem exec_get (s : Session) : (get : Run Session).exec s = (.ok s, s) := rfl

@[simp] theorem exec_set (s' s : Session) : (set s' : Run PUnit).exec s = (.ok ⟨⟩, s') := rfl

@[simp] theorem exec_modify (f : Session → Session) (s : Session) :
    (modify f : Run PUnit).exec s = (.ok ⟨⟩, f s) := rfl

theorem exec_bind (x : Run α) (f : α → Run β) (s : Session) :
    (x >>= f).exec s = match x.exec s with
      | (.ok a, s') => (f a).exec s'
      | (.error e, s') => (.error e, s') := by
  simp only [exec, ExceptT.run_bind, StateT.run_bind]
  rcases h : x.run.run s with ⟨r, s'⟩
  cases r <;> rfl

theorem exec_tryCatch (x : Run α) (h : Fault → Run α) (s : Session) :
    (tryCatch x h).exec s = match x.exec s with
      | (.ok a, s') => (.ok a, s')
      | (.error e, s') => (h e).exec s' := by
  change StateT.run (ExceptT.tryCatch x h) s = _
  simp only [ExceptT.tryCatch, ExceptT.mk, StateT.run_bind]
  rw [show StateT.run x s = x.exec s from rfl]
  rcases x.exec s with ⟨r, s'⟩
  cases r <;> rfl

theorem exec_bind_ok {x : Run α} {s s' : Session} {a : α} (h : x.exec s = (.ok a, s')) (f : α → Run β) :
    (x >>= f).exec s = (f a).exec s' := by
  rw [exec_bind, h]

theorem exec_bind_error {x : Run α} {s s' : Session} {e : Fault} (h : x.exec s = (.error e, s'))
    (f : α → Run β) : (x >>= f).exec s = (.error e, s') := by
  rw [exec_bind, h]

/-- `do` 記法の途中の `return` は、値を外へ運ぶ失敗として走る。 -/
theorem exec_earlyReturn {ρ : Type} (r : ρ) (s : Session) :
    Run.exec (EarlyReturnT.return r : EarlyReturnT ρ Run β) s = (.ok (.error r), s) := rfl

end Run

namespace Session

variable {s : Session} {r : Role} {f : Pool → Pool}

@[simp] theorem modifyPool_binding : (s.modifyPool r f).binding = s.binding := by
  unfold modifyPool
  split <;> rfl

@[simp] theorem modifyPool_dialect : (s.modifyPool r f).dialect = s.dialect := by
  unfold modifyPool
  split <;> rfl

@[simp] theorem modifyPool_log : (s.modifyPool r f).log = s.log := by
  unfold modifyPool
  split <;> rfl

@[simp] theorem modifyPool_request : (s.modifyPool r f).request = s.request := by
  unfold modifyPool
  split <;> rfl

@[simp] theorem modifyPool_settings : (s.modifyPool r f).settings = s.settings := by
  unfold modifyPool
  split <;> rfl

@[simp] theorem modifyPool_catalog : (s.modifyPool r f).catalog = s.catalog := by
  unfold modifyPool
  split <;> rfl

@[simp] theorem modifyPool_registry : (s.modifyPool r f).registry = s.registry := by
  unfold modifyPool
  split <;> rfl

@[simp] theorem modifyPool_bound : (s.modifyPool r f).bound = s.bound := by
  unfold modifyPool
  split <;> rfl

@[simp] theorem modifyPool_cache : (s.modifyPool r f).cache = s.cache := by
  unfold modifyPool
  split <;> rfl

@[simp] theorem pool_relog (l : List Entry) : ({ s with log := l } : Session).pool r = s.pool r := rfl

@[simp] theorem pool_modifyPool_writer : (s.modifyPool .writer f).pool .writer = f (s.pool .writer) := by
  cases hw : s.writer <;> simp [modifyPool, pool, hw]

theorem modifyPool_checkouts (hf : ∀ p, (f p).checkouts = p.checkouts) (r' : Role) :
    ((s.modifyPool r f).pool r').checkouts = (s.pool r').checkouts := by
  unfold modifyPool pool
  cases r <;> cases r' <;> cases s.writer <;> simp [hf]

/-- 書き手の接続が失敗しない: 予約された応答はどれも結果で、`BEGIN` と `ROLLBACK` に予約された
失敗はない（`COMMIT` の失敗は予約してよい）。 -/
def DriverOk (s : Session) : Prop :=
  (∀ x ∈ (s.pool .writer).queue, x.isOk = true) ∧
    ∀ e ∈ (s.pool .writer).failures, e.1 ≠ "begin" ∧ e.1 ≠ "rollback"

/-- 記録の伸び: `s'` の記録は `s` の記録に `es` を（古いものから順に）足したもの。束縛、方言、
書き手の名札と予約された失敗はそのまま。 -/
structure Grows (s s' : Session) (es : List Entry) : Prop where
  log : s'.log = es.reverse ++ s.log
  binding : s'.binding = s.binding
  dialect : s'.dialect = s.dialect
  label : (s'.pool .writer).label = (s.pool .writer).label
  failures : (s'.pool .writer).failures = (s.pool .writer).failures

theorem Grows.refl (s : Session) : s.Grows s [] := ⟨by simp, rfl, rfl, rfl, rfl⟩

theorem Grows.trans {s₁ s₂ s₃ : Session} {es es' : List Entry} (h₁ : s₁.Grows s₂ es) (h₂ : s₂.Grows s₃ es') :
    s₁.Grows s₃ (es ++ es') where
  log := by rw [h₂.log, h₁.log, List.reverse_append, List.append_assoc]
  binding := h₂.binding.trans h₁.binding
  dialect := h₂.dialect.trans h₁.dialect
  label := h₂.label.trans h₁.label
  failures := h₂.failures.trans h₁.failures

/-! ## 文と制御の文 -/

theorem exec_append (r : Role) (sql : String) (params : List Value) (s : Session) :
    (append r sql params).exec s = (.ok ⟨⟩, { s with log := ⟨(s.pool r).label, sql, params⟩ :: s.log }) := rfl

theorem exec_acquire (r : Role) (s : Session) :
    (acquire r).exec s =
      (.ok ⟨⟩, s.modifyPool r fun p => { p with connected := true, checkouts := p.checkouts + 1 }) := rfl

theorem acquire_writer_grows (hok : s.DriverOk) :
    ∃ s', (acquire .writer).exec s = (.ok ⟨⟩, s') ∧ s.Grows s' [] ∧ s'.DriverOk :=
  ⟨_, exec_acquire .writer s, ⟨by simp, by simp, by simp, by simp, by simp⟩, by simpa [DriverOk] using hok⟩

/-- 予約された応答の先頭があれば、文はそれを返し（失敗なら投げ）、記録に一行足して応答を一つ進める。 -/
theorem exec_execute_head {a : Except Fault Value} {rest : List (Except Fault Value)}
    (hq : (s.pool r).queue = a :: rest) (sql : String) (params : List Value) :
    (execute r sql params).exec s =
      (a, ({ s with log := ⟨(s.pool r).label, sql, params⟩ :: s.log } : Session).modifyPool r
        fun p => { p with queue := rest }) := by
  unfold execute
  rw [Run.exec_bind_ok (exec_append _ _ _ _), Run.exec_bind_ok (Run.exec_get _)]
  simp only [pool_relog, hq]
  cases a <;> rfl

/-- 書き手の接続が失敗しなければ、書き手で走らせた文は結果を返し、記録に一行足す。 -/
theorem execute_writer (hok : s.DriverOk) (sql : String) (params : List Value) :
    ∃ v s', (execute .writer sql params).exec s = (.ok v, s') ∧
      s.Grows s' [⟨(s.pool .writer).label, sql, params⟩] ∧ s'.DriverOk ∧ s'.request = s.request := by
  obtain ⟨hqueue, hfail⟩ := hok
  unfold execute
  rw [Run.exec_bind_ok (exec_append _ _ _ _), Run.exec_bind_ok (Run.exec_get _)]
  -- 記録に足した状態の書き手は元のまま
  have hpool : ({ s with log := ⟨(s.pool .writer).label, sql, params⟩ :: s.log } : Session).pool .writer =
      s.pool .writer := rfl
  have hgrow : s.Grows { s with log := ⟨(s.pool .writer).label, sql, params⟩ :: s.log }
      [⟨(s.pool .writer).label, sql, params⟩] := ⟨rfl, rfl, rfl, rfl, rfl⟩
  rw [hpool]
  -- 応答がなければ空の結果、あれば先頭の応答（予約は結果だけ）を返して一つ進める
  cases hq : (s.pool .writer).queue with
  | nil => exact ⟨_, _, rfl, hgrow, ⟨by simp [hpool, hq], by simpa [hpool] using hfail⟩, rfl⟩
  | cons next rest =>
    have hnext : next.isOk = true := hqueue next (by simp [hq])
    cases next with
    | error e => cases hnext
    | ok v =>
      refine ⟨v, _, rfl, ⟨by simp, by simp, by simp, by simp [hpool], by simp [hpool]⟩, ⟨?_, ?_⟩, by simp⟩
      · intro x hx
        simp only [pool_modifyPool_writer] at hx
        exact hqueue x (by simp [hq, hx])
      · intro e he
        simp only [pool_modifyPool_writer, hpool] at he
        exact hfail e he

theorem mem_of_mem_dropFirst {verb : String} :
    ∀ {xs : List (String × Fault)} {e : String × Fault}, e ∈ control.dropFirst verb xs → e ∈ xs
  | [], _, h => by simp [control.dropFirst] at h
  | x :: xs, e, h => by
    unfold control.dropFirst at h
    split at h
    · exact List.mem_cons_of_mem _ h
    · rcases List.mem_cons.1 h with rfl | h
      · exact List.mem_cons_self
      · exact List.mem_cons_of_mem _ (mem_of_mem_dropFirst h)

/-- 制御の文: 動詞を大文字で記録し、その動詞に予約された失敗があれば一つ使って投げる。 -/
theorem exec_control_writer (verb : String) (s : Session) :
    (control .writer verb).exec s =
      let s₁ := { s with log := ⟨(s.pool .writer).label, verb.toUpper, []⟩ :: s.log }
      match (s.pool .writer).failures.find? (·.1 == verb) with
      | none => (.ok ⟨⟩, s₁)
      | some (_, f) =>
        (.error f, s₁.modifyPool .writer fun p =>
          { p with failures := control.dropFirst verb (s.pool .writer).failures }) := by
  unfold control
  rw [Run.exec_bind_ok (exec_append _ _ _ _), Run.exec_bind_ok (Run.exec_get _)]
  have hpool : ({ s with log := ⟨(s.pool .writer).label, verb.toUpper, []⟩ :: s.log } : Session).pool .writer =
      s.pool .writer := rfl
  rw [hpool]
  cases hfind : (s.pool .writer).failures.find? (·.1 == verb) with
  | none => simp only [hfind]; rfl
  | some e => simp only [hfind]; rfl

theorem control_writer_ok {verb : String} (hverb : ∀ e ∈ (s.pool .writer).failures, e.1 ≠ verb) :
    (control .writer verb).exec s = (.ok ⟨⟩, { s with log := ⟨(s.pool .writer).label, verb.toUpper, []⟩ :: s.log }) := by
  rw [exec_control_writer]
  have hfind : (s.pool .writer).failures.find? (·.1 == verb) = none := by
    rw [List.find?_eq_none]
    intro e he
    simpa using hverb e he
  simp only [hfind]

theorem control_writer_grows {verb : String} (hok : s.DriverOk)
    (hverb : ∀ e ∈ (s.pool .writer).failures, e.1 ≠ verb) :
    ∃ s', (control .writer verb).exec s = (.ok ⟨⟩, s') ∧
      s.Grows s' [⟨(s.pool .writer).label, verb.toUpper, []⟩] ∧ s'.DriverOk :=
  ⟨_, control_writer_ok hverb, ⟨rfl, rfl, rfl, rfl, rfl⟩, hok⟩

theorem control_log (verb : String) (s : Session) :
    ((control .writer verb).exec s).2.log = ⟨(s.pool .writer).label, verb.toUpper, []⟩ :: s.log := by
  rw [exec_control_writer]
  split <;> simp

theorem control_label (verb : String) (s : Session) :
    (((control .writer verb).exec s).2.pool .writer).label = (s.pool .writer).label := by
  rw [exec_control_writer]
  split <;> simp

theorem exec_quietly (x : Run Unit) (s : Session) : (quietly x).exec s = (.ok ⟨⟩, (x.exec s).2) := by
  unfold quietly
  rw [Run.exec_tryCatch]
  rcases x.exec s with ⟨r, s'⟩
  cases r <;> rfl

theorem upper_begin : "begin".toUpper = "BEGIN" := by decide +kernel

theorem upper_commit : "commit".toUpper = "COMMIT" := by decide +kernel

theorem upper_rollback : "rollback".toUpper = "ROLLBACK" := by decide +kernel

/-! ## 束縛 -/

theorem exec_withBinding {α : Type} (b : Option Binding) (body : Run α) (s : Session) :
    (withBinding b body).exec s =
      Prod.map id (fun s' => { s' with binding := s.binding }) (body.exec { s with binding := b }) := by
  unfold withBinding setBinding
  rw [Run.exec_bind_ok (Run.exec_get _), Run.exec_bind_ok (Run.exec_modify _ _), Run.exec_bind,
    Run.exec_tryCatch, Run.exec_bind]
  rcases body.exec { s with binding := b } with ⟨r, s'⟩
  cases r <;> rfl

@[simp] theorem pool_rebind (s : Session) (b : Option Binding) (r : Role) :
    ({ s with binding := b } : Session).pool r = s.pool r := rfl

theorem DriverOk.rebind {s : Session} (h : s.DriverOk) (b : Option Binding) :
    ({ s with binding := b } : Session).DriverOk := h

theorem Grows.rebind {s t : Session} {b : Option Binding} {es : List Entry}
    (h : ({ s with binding := b } : Session).Grows t es) : s.Grows { t with binding := s.binding } es :=
  ⟨h.log, rfl, h.dialect, h.label, h.failures⟩

end Session

/-! ## 束縛を変えない計算

束縛を付け替えるのは `withBinding` だけで、それも戻してから終わる。ほかの操作は束縛に触れないので、
組み立てた計算はどれも、成否にかかわらず束縛を元のままにして終わる。 -/

namespace Run

variable {α β : Type}

/-- 計算はどの状態から走らせても束縛を変えない。 -/
def Keeps (x : Run α) : Prop := ∀ s, (x.exec s).2.binding = s.binding

theorem keeps_pure (a : α) : (pure a : Run α).Keeps := fun _ => rfl

theorem keeps_throw (e : Fault) : (throw e : Run α).Keeps := fun _ => rfl

theorem keeps_get : (get : Run Session).Keeps := fun _ => rfl

theorem keeps_liftExcept (x : Except Fault α) : (liftExcept x : Run α).Keeps := by
  cases x <;> exact fun _ => rfl

theorem keeps_modify {f : Session → Session} (hf : ∀ s, (f s).binding = s.binding) :
    (modify f : Run PUnit).Keeps := hf

theorem Keeps.bind {x : Run α} {f : α → Run β} (hx : x.Keeps) (hf : ∀ a, (f a).Keeps) : (x >>= f).Keeps := by
  intro s
  rw [exec_bind]
  have hs := hx s
  rcases hxs : x.exec s with ⟨r, s'⟩
  rw [hxs] at hs
  cases r with
  | ok a => exact (hf a s').trans hs
  | error e => exact hs

theorem Keeps.ite {c : Prop} [Decidable c] {x y : Run α} (hx : x.Keeps) (hy : y.Keeps) :
    (if c then x else y).Keeps := by
  split
  · exact hx
  · exact hy

/-- `if c then throw e` に続く計算は、続きが束縛を変えなければ変えない。 -/
theorem Keeps.throwIf {c : Prop} [Decidable c] {e : Fault} {y : Run α} (hy : y.Keeps) :
    (if c then (throw e : Run PUnit) >>= fun _ => y else y).Keeps :=
  Keeps.ite ((keeps_throw e).bind fun _ => hy) hy

theorem Keeps.tryCatch {x : Run α} {h : Fault → Run α} (hx : x.Keeps) (hh : ∀ e, (h e).Keeps) :
    (tryCatch x h).Keeps := by
  intro s
  rw [exec_tryCatch]
  have hs := hx s
  rcases hxs : x.exec s with ⟨r, s'⟩
  rw [hxs] at hs
  cases r with
  | ok a => exact hs
  | error e => exact (hh e s').trans hs

/-- 状態を読んでから走らせる計算は、読んだ状態から走らせたときに束縛を変えなければよい。 -/
theorem keeps_get_bind {f : Session → Run β} (hf : ∀ s, ((f s).exec s).2.binding = s.binding) :
    (get >>= f).Keeps := fun s => by
  rw [exec_bind_ok (exec_get s)]
  exact hf s

end Run

namespace Session

open Run

theorem keeps_append (r : Role) (sql : String) (params : List Value) : (append r sql params).Keeps :=
  keeps_modify fun _ => rfl

theorem keeps_acquire (r : Role) : (acquire r).Keeps := keeps_modify fun _ => modifyPool_binding

theorem keeps_execute (r : Role) (sql : String) (params : List Value) : (execute r sql params).Keeps := by
  unfold execute
  refine (keeps_append r sql params).bind fun _ => keeps_get_bind fun s => ?_
  split
  · rfl
  · rw [exec_bind_ok (exec_set _ _)]
    split <;> exact modifyPool_binding

theorem keeps_control (r : Role) (verb : String) : (control r verb).Keeps := by
  unfold control
  refine (keeps_append r _ _).bind fun _ => keeps_get_bind fun s => ?_
  dsimp only
  split
  · rfl
  · rw [exec_bind_ok (exec_set _ _)]
    exact modifyPool_binding

theorem keeps_withBinding {α : Type} (b : Option Binding) (body : Run α) : (withBinding b body).Keeps := by
  intro s
  rw [exec_withBinding]
  rfl

theorem Keeps.quietly {body : Run Unit} (h : body.Keeps) : (quietly body).Keeps := by
  intro s
  rw [exec_quietly]
  exact h s

theorem keeps_checkWrite (operation : String) (modelName : Option String) (autocommit : Bool) :
    (checkWrite operation modelName autocommit).Keeps := by
  unfold checkWrite
  refine keeps_get_bind fun s => ?_
  split
  · split <;> rfl
  · split <;> rfl

theorem keeps_route (write : Bool) : (route write).Keeps := by
  unfold route
  refine keeps_get_bind fun s => ?_
  split
  · rfl
  · exact ((keeps_acquire _).bind fun _ => keeps_pure _) s

theorem keeps_run (st : Statement) (write : Bool) (operation : String) (modelName : Option String)
    (autocommit : Bool) : (run st write operation modelName autocommit).Keeps := by
  unfold run
  dsimp only
  -- 書き込みなら方針を当ててから、どちらも行き先を決めて走らせる
  have hrest : ∀ d : Dialect, (route write >>= fun r => execute r (d.convertPlaceholders st.sql) st.params).Keeps :=
    fun _ => (keeps_route write).bind fun r => keeps_execute r _ _
  split
  · exact (keeps_checkWrite _ _ _).bind fun _ => keeps_get_bind fun s => hrest s.dialect s
  · exact keeps_get_bind fun s => hrest s.dialect s

theorem keeps_savepoint {α : Type} (outer : Binding) (fn : Run α) (rollbackOnly : Bool) :
    (savepoint outer fn rollbackOnly).Keeps := by
  unfold savepoint
  exact keeps_get_bind fun s => ((keeps_execute _ _ _).bind fun _ => keeps_withBinding _ _) s

theorem keeps_outermost {α : Type} (fn : Run α) (rollbackOnly : Bool) : (outermost fn rollbackOnly).Keeps := by
  unfold outermost
  refine (keeps_acquire _).bind fun _ => (keeps_control _ _).bind fun _ =>
    (keeps_withBinding _ _).bind fun p => ?_
  obtain ⟨r, committed⟩ := p
  refine keeps_get_bind fun s => ?_
  split
  · rw [exec_bind_ok (exec_set _ _)]
    rfl
  · rfl

theorem keeps_attempt {α : Type} (fn : Run α) (rollbackOnly retry : Bool) (limit delay : Value) (fuel : Nat) :
    ∀ n, (transaction.attempt fn rollbackOnly retry limit delay n fuel).Keeps := by
  induction fuel with
  | zero => exact fun _ => keeps_outermost fn rollbackOnly
  | succ fuel ih =>
    intro n
    unfold transaction.attempt
    refine (keeps_outermost fn rollbackOnly).tryCatch fun e => keeps_get.bind fun s => ?_
    dsimp only
    -- 再試行しない三つの場合は失敗を投げ、残りは待ってから次の試みに移る
    refine Keeps.throwIf <| (keeps_liftExcept _).bind fun _ => Keeps.throwIf <|
      (keeps_liftExcept _).bind fun _ => Keeps.throwIf ?_
    refine (keeps_liftExcept _).bind fun _ => (keeps_liftExcept _).bind fun _ => (keeps_liftExcept _).bind fun _ =>
      (keeps_modify ?_).bind fun _ => ih (n + 1)
    exact fun _ => rfl

theorem keeps_transaction {α : Type} (fn : Run α) (opts : TransactionOptions) : (transaction fn opts).Keeps := by
  unfold transaction
  refine keeps_get.bind fun s => ?_
  dsimp only
  split
  · exact Keeps.throwIf (keeps_savepoint _ _ _)
  · exact keeps_attempt _ _ _ _ _ _ _

theorem keeps_withWriter {α : Type} (fn : Run α) : (withWriter fn).Keeps := by
  unfold withWriter
  refine keeps_get.bind fun s => ?_
  split
  · exact keeps_withBinding _ _
  · exact (keeps_acquire _).bind fun _ => keeps_withBinding _ _

end Session

end DataAccess
