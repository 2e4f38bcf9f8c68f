import DataAccess.Proofs.Routing
/-!
# 一番外のトランザクションのやり直し

束縛のない状態の `transaction` は、`outermost` の試みを次の決まりで繰り返す（`Retries`）。

* 試みが値を返せば、その値で終わる。
* 試みが失敗 `e` で終わり、やり直しの指定が偽か、試みの番号 `n` が上限 `L` を越えたか、
  方言が `e` を一時的な衝突と見ないなら、`e` をそのまま投げる。
* そうでなければ `D * 2 ^ (n - 1)` ミリ秒待って（待ち時間を記録して）、次の試みへ。

衝突の見分けと、待つ前にログに書く失敗の文字表記は失敗しうる（文が文字列でないドライバの失敗）。
そのときはその失敗で終わる。上限と待ち時間が整数なら、試みの数の燃料は足りて、`transaction` の
結果はこの決まりで一つに決まる（`transaction_retries`、`Retries.unique`）。

一つ一つの試みは書き手の溜まりから接続を一つ借り、`BEGIN` で始め、確定か巻き戻しで終わる
（`outermost_shape`）。入れ子のトランザクションは保存点で、やり直さない。
-/

namespace DataAccess

theorem Value.greater_int (a b : Int) : Value.greater (.int a) (.int b) = .ok (decide (b < a)) := by
  -- 指数 0 の十進数の値は整数そのもの
  have hval : ∀ i : Int, Number.DecimalNumber.scaledAt (Number.Decimal.ofInt i) 0 = i := by
    intro i
    have hpow : Nat.pow 10 ((0 : Int) - 0).toNat = 1 := rfl
    simp only [Number.DecimalNumber.scaledAt, Number.Decimal.ofInt, hpow, Int.natCast_one, Int.mul_one]
    by_cases hi : i < 0
    · simp only [hi, decide_true, if_true]
      omega
    · simp only [hi, decide_false, Bool.false_eq_true, if_false]
      omega
  simp only [Value.greater, Value.numeric?, Value.isDecimalNaN, Bool.or_self, Bool.false_eq_true, if_false,
    Number.DecimalNumber.lt]
  have hexp : min (Number.Decimal.ofInt b).exponent (Number.Decimal.ofInt a).exponent = 0 := rfl
  rw [hexp, hval a, hval b]

/-- 呼び出しの選択肢が与えなければ設定の、やり直すかどうか。 -/
def TransactionOptions.retryWith (opts : TransactionOptions) (st : Settings) : Bool :=
  match opts.retryOnError with
  | .none => st.retryOnError
  | v => v.truthy

/-- 呼び出しの選択肢が与えなければ設定の、やり直しの上限。 -/
def TransactionOptions.limitWith (opts : TransactionOptions) (st : Settings) : Value :=
  match opts.retryLimit with
  | .none => .int st.retryLimit
  | v => v

/-- 呼び出しの選択肢が与えなければ設定の、待ち時間の元（ミリ秒）。 -/
def TransactionOptions.delayWith (opts : TransactionOptions) (st : Settings) : Value :=
  match opts.retryDelayMs with
  | .none => .int st.retryDelayMs
  | v => v

namespace Run

variable {α β : Type}

@[simp] theorem exec_liftExcept (x : Except Fault α) (s : Session) : (liftExcept x : Run α).exec s = (x, s) := by
  cases x <;> rfl

theorem exec_throw_bind (e : Fault) (f : α → Run β) (s : Session) :
    ((throw e : Run α) >>= f).exec s = (.error e, s) := rfl

end Run

namespace Session

open Run

variable {α : Type}

theorem pauseProduct_int (d : Int) : pauseProduct (.int d) = .ok () := rfl

theorem retryPause_int (d : Int) : retryPause (.int d) = .ok () := rfl

/-! ## やり直しの決まり -/

/-- 一番外のトランザクションの試みの列: `n` 回目の試みを状態 `s` から始めると、結果と状態 `r` で
終わる。やり直しの指定 `retry`、上限 `limit`、待ち時間の元 `delay`（ミリ秒）。 -/
inductive Retries (fn : Run α) (rollbackOnly retry : Bool) (limit delay : Int) :
    Nat → Session → Except Fault α × Session → Prop
  /-- 試みが値を返せば、その値で終わる。 -/
  | done {n : Nat} {s s' : Session} {v : α} :
      (outermost fn rollbackOnly).exec s = (.ok v, s') → Retries fn rollbackOnly retry limit delay n s (.ok v, s')
  /-- やり直さない失敗: やり直しが切られているか、番号が上限を越えたか、一時的な衝突でない。 -/
  | stop {n : Nat} {s s' : Session} {e : Fault} :
      (outermost fn rollbackOnly).exec s = (.error e, s') →
      (retry = false ∨ limit < n ∨ s'.dialect.isTransientConflict e = .ok false) →
      Retries fn rollbackOnly retry limit delay n s (.error e, s')
  /-- 衝突の見分けそのものが失敗すれば、その失敗で終わる。 -/
  | unclassified {n : Nat} {s s' : Session} {e f : Fault} :
      (outermost fn rollbackOnly).exec s = (.error e, s') → retry = true → (n : Int) ≤ limit →
      s'.dialect.isTransientConflict e = .error f → Retries fn rollbackOnly retry limit delay n s (.error f, s')
  /-- 待つ前にログに書く失敗の文字表記を求められなければ、その失敗で終わる。 -/
  | unprintable {n : Nat} {s s' : Session} {e f : Fault} :
      (outermost fn rollbackOnly).exec s = (.error e, s') → retry = true → (n : Int) ≤ limit →
      s'.dialect.isTransientConflict e = .ok true → e.str = .error f →
      Retries fn rollbackOnly retry limit delay n s (.error f, s')
  /-- 上限までの一時的な衝突は、`delay * 2 ^ (n - 1)` ミリ秒待って次の試みへ。 -/
  | again {n : Nat} {s s' : Session} {e : Fault} {t : String} {r : Except Fault α × Session} :
      (outermost fn rollbackOnly).exec s = (.error e, s') → retry = true → (n : Int) ≤ limit →
      s'.dialect.isTransientConflict e = .ok true → e.str = .ok t →
      Retries fn rollbackOnly retry limit delay (n + 1)
        { s' with pauses := s'.pauses ++ [.int (delay * (Nat.pow 2 (n - 1) : Nat))] } r →
      Retries fn rollbackOnly retry limit delay n s r

variable {fn : Run α} {rollbackOnly retry : Bool} {limit delay : Int}

/-- やり直さない理由があるのに、やり直しが許され番号も上限の内なら、失敗は衝突と見られていない。 -/
theorem stop_not_transient {n : Nat} {c : Except Fault Bool}
    (hwhy : retry = false ∨ limit < n ∨ c = .ok false) (hr : retry = true) (hn : (n : Int) ≤ limit) :
    c = .ok false := by
  rcases hwhy with h | h | h
  · simp [hr] at h
  · omega
  · exact h

/-- やり直しの決まりは結果を一つに決める。同じ試みの結果から、どの規則が当たるかは一つに決まる。 -/
theorem Retries.unique {n : Nat} {s : Session} {r r' : Except Fault α × Session}
    (h : Retries fn rollbackOnly retry limit delay n s r) (h' : Retries fn rollbackOnly retry limit delay n s r') :
    r = r' := by
  induction h generalizing r' with
  | done hx => cases h' <;> simp_all
  | stop hx hwhy =>
    cases h' with
    | done hx' => simp_all
    | stop hx' _ => simp_all
    | unclassified hx' hr hn hc =>
      rw [hx] at hx'; cases hx'
      rw [stop_not_transient hwhy hr hn] at hc; cases hc
    | unprintable hx' hr hn hc _ =>
      rw [hx] at hx'; cases hx'
      rw [stop_not_transient hwhy hr hn] at hc; cases hc
    | again hx' hr hn hc _ _ =>
      rw [hx] at hx'; cases hx'
      rw [stop_not_transient hwhy hr hn] at hc; cases hc
  | unclassified hx hr hn hc =>
    cases h' with
    | done hx' => simp_all
    | stop hx' hwhy =>
      rw [hx] at hx'; cases hx'
      rw [stop_not_transient hwhy hr hn] at hc; cases hc
    | unclassified hx' _ _ hc' => rw [hx] at hx'; cases hx'; rw [hc] at hc'; cases hc'; rfl
    | unprintable hx' _ _ hc' _ => rw [hx] at hx'; cases hx'; rw [hc] at hc'; cases hc'
    | again hx' _ _ hc' _ _ => rw [hx] at hx'; cases hx'; rw [hc] at hc'; cases hc'
  | unprintable hx hr hn hc hstr =>
    cases h' with
    | done hx' => simp_all
    | stop hx' hwhy =>
      rw [hx] at hx'; cases hx'
      rw [stop_not_transient hwhy hr hn] at hc; cases hc
    | unclassified hx' _ _ hc' => rw [hx] at hx'; cases hx'; rw [hc] at hc'; cases hc'
    | unprintable hx' _ _ _ hstr' => rw [hx] at hx'; cases hx'; rw [hstr] at hstr'; cases hstr'; rfl
    | again hx' _ _ _ hstr' _ => rw [hx] at hx'; cases hx'; rw [hstr] at hstr'; cases hstr'
  | again hx hr hn hc hstr _ ih =>
    cases h' with
    | done hx' => simp_all
    | stop hx' hwhy =>
      rw [hx] at hx'; cases hx'
      rw [stop_not_transient hwhy hr hn] at hc; cases hc
    | unclassified hx' _ _ hc' => rw [hx] at hx'; cases hx'; rw [hc] at hc'; cases hc'
    | unprintable hx' _ _ _ hstr' => rw [hx] at hx'; cases hx'; rw [hstr] at hstr'; cases hstr'
    | again hx' _ _ _ _ hnext => rw [hx] at hx'; cases hx'; exact ih hnext

/-! ## 試みの繰り返し -/

/-- 燃料が番号と合わせて上限を越えていれば、試みの繰り返しはやり直しの決まりに従う。燃料が尽きる
最後の試みでは番号がすでに上限を越えているので、やり直さないことは決まりと同じ。 -/
theorem attempt_retries (fuel n : Nat) (s : Session) (hfuel : limit < n + fuel) :
    Retries fn rollbackOnly retry limit delay n s
      ((transaction.attempt fn rollbackOnly retry (.int limit) (.int delay) n fuel).exec s) := by
  induction fuel generalizing n s with
  | zero =>
    unfold transaction.attempt
    rcases hx : (outermost fn rollbackOnly).exec s with ⟨r, s'⟩
    cases r with
    | ok v => exact .done hx
    | error e => exact .stop hx (.inr (.inl (by omega)))
  | succ fuel ih =>
    unfold transaction.attempt
    rw [exec_tryCatch]
    rcases hx : (outermost fn rollbackOnly).exec s with ⟨r, s'⟩
    cases r with
    | ok v => exact .done hx
    | error e =>
      dsimp only
      rw [exec_bind_ok (exec_get _)]
      cases retry with
      | false =>
        simp only [Bool.not_false, if_true]
        rw [exec_throw_bind]
        exact .stop hx (.inl rfl)
      | true =>
        simp only [Bool.not_true, Bool.false_eq_true, if_false]
        rw [Value.greater_int, exec_bind_ok (exec_liftExcept _ _)]
        by_cases hlt : limit < n
        · simp only [hlt, decide_true, if_true]
          rw [exec_throw_bind]
          exact .stop hx (.inr (.inl hlt))
        · simp only [hlt, decide_false, Bool.false_eq_true, if_false]
          have hn : (n : Int) ≤ limit := by omega
          rw [exec_bind, exec_liftExcept]
          cases hc : s'.dialect.isTransientConflict e with
          | error f => exact .unclassified hx rfl hn hc
          | ok transient =>
            cases transient with
            | false =>
              simp only [Bool.not_false, if_true]
              rw [exec_throw_bind]
              exact .stop hx (.inr (.inr hc))
            | true =>
              simp only [Bool.not_true, Bool.false_eq_true, if_false]
              rw [pauseProduct_int, exec_bind_ok (exec_liftExcept _ _), exec_bind, exec_liftExcept]
              cases hstr : e.str with
              | error f => exact .unprintable hx rfl hn hc hstr
              | ok t =>
                dsimp only
                rw [retryPause_int, exec_bind_ok (exec_liftExcept _ _), exec_bind_ok (exec_modify _ _)]
                refine .again hx rfl hn hc hstr ?_
                exact ih (n + 1) _ (by omega)

/-- 束縛のない `transaction` は、選択肢と設定から決めたやり直しの指定で試みを繰り返す。 -/
theorem exec_transaction_unbound {s : Session} (hb : s.binding = none) (fn : Run α) (opts : TransactionOptions) :
    (transaction fn opts).exec s =
      (transaction.attempt fn opts.rollbackOnly.truthy (opts.retryWith s.settings) (opts.limitWith s.settings)
        (opts.delayWith s.settings) 1 (attemptFuel (opts.limitWith s.settings))).exec s := by
  unfold transaction
  rw [exec_bind_ok (exec_get _)]
  simp only [hb]
  rfl

/-- 束縛のない `transaction` の結果は、上限と待ち時間が整数なら、一番目の試みからのやり直しの決まりで
決まる。 -/
theorem transaction_retries {s : Session} (hb : s.binding = none) (fn : Run α) (opts : TransactionOptions)
    {limit delay : Int} (hlimit : opts.limitWith s.settings = .int limit)
    (hdelay : opts.delayWith s.settings = .int delay) :
    Retries fn opts.rollbackOnly.truthy (opts.retryWith s.settings) limit delay 1 s ((transaction fn opts).exec s) := by
  rw [exec_transaction_unbound hb, hlimit, hdelay]
  apply attempt_retries
  -- 燃料は上限の自然数部分より一つ多い
  simp only [attemptFuel]
  omega

/-! ## 一つの試み -/

/-- 試みの始め: 書き手の溜まりから接続を一つ借りて `BEGIN` を書き、深さ 1 で束縛した状態。 -/
def begun (s : Session) : Session :=
  { (s.checkout .writer) with
    log := ⟨(s.pool .writer).label, "BEGIN", []⟩ :: s.log
    binding := some ⟨1, false⟩ }

/-- 試みの終わり: 呼び出しの結果、試みの結果、そのあいだに書く制御の文（新しいものが先）。 -/
inductive Ending (label : String) : Bool → Except Fault α → Except Fault α → List Entry → Prop
  /-- 値を返せば確定する。 -/
  | commit {v : α} : Ending label false (.ok v) (.ok v) [⟨label, "COMMIT", []⟩]
  /-- 確定が失敗すれば巻き戻して、確定の失敗を投げる。 -/
  | commitFailed {v : α} {f : Fault} :
      Ending label false (.ok v) (.error f) [⟨label, "ROLLBACK", []⟩, ⟨label, "COMMIT", []⟩]
  /-- 巻き戻すだけの指定なら、値を返しても巻き戻す。 -/
  | rollback {v : α} : Ending label true (.ok v) (.ok v) [⟨label, "ROLLBACK", []⟩]
  /-- その巻き戻しが失敗すれば、もう一度巻き戻して、最初の失敗を投げる。 -/
  | rollbackFailed {v : α} {f : Fault} :
      Ending label true (.ok v) (.error f) [⟨label, "ROLLBACK", []⟩, ⟨label, "ROLLBACK", []⟩]
  /-- 呼び出しが失敗すれば巻き戻して、同じ失敗を投げる（巻き戻しの失敗は握りつぶす）。 -/
  | failed {ro : Bool} {e : Fault} : Ending label ro (.error e) (.error e) [⟨label, "ROLLBACK", []⟩]

/-- 一番外の試みの形: `BEGIN` が失敗しなければ、呼び出しは `begun s` から一度だけ走り、その後に
`Ending` の制御の文が同じ書き手の名札で続く。束縛は元に戻る。 -/
theorem outermost_shape (s : Session) (ro : Bool) (hbegin : ∀ e ∈ (s.pool .writer).failures, e.1 ≠ "begin") :
    ∃ r s₁ r' s' ends, fn.exec (begun s) = (r, s₁) ∧ (outermost fn ro).exec s = (r', s') ∧
      s'.log = ends ++ s₁.log ∧ s'.binding = s.binding ∧ Ending (s₁.pool .writer).label ro r r' ends := by
  have hbegin' : ∀ e ∈ ((s.checkout .writer).pool .writer).failures, e.1 ≠ "begin" := by
    rw [checkout_failures]; exact hbegin
  have hacq : (acquire .writer).exec s = (.ok ⟨⟩, s.checkout .writer) := exec_acquire _ _
  -- `BEGIN` を書いてから束縛した状態が試みの始め
  have hstart : ({ ({ (s.checkout .writer) with
      log := ⟨((s.checkout .writer).pool .writer).label, "begin".toUpper, []⟩ :: (s.checkout .writer).log } :
        Session) with binding := some ⟨1, false⟩ } : Session) = begun s := by
    rw [upper_begin, checkout_label, checkout_log]
    rfl
  unfold outermost
  rw [exec_bind_ok hacq, exec_bind_ok (control_writer_ok hbegin'), exec_bind, exec_withBinding, exec_bind,
    exec_tryCatch, exec_bind, hstart]
  rcases hfn : fn.exec (begun s) with ⟨r, s₁⟩
  cases r with
  | error e =>
    rcases hrb : (control .writer "rollback").exec s₁ with ⟨c, s₂⟩
    have hlog : s₂.log = ⟨(s₁.pool .writer).label, "ROLLBACK", []⟩ :: s₁.log := by
      rw [← upper_rollback, ← control_log, hrb]
    refine ⟨_, _, .error e, { s₂ with binding := s.binding }, _, rfl, ?_, hlog, rfl, .failed⟩
    simp only [exec_bind, exec_quietly, hrb, exec_throw, Prod.map, id, checkout, modifyPool_binding]
  | ok v =>
    cases ro with
    | true =>
      rcases hrb : (control .writer "rollback").exec s₁ with ⟨c, s₂⟩
      have hlog : s₂.log = ⟨(s₁.pool .writer).label, "ROLLBACK", []⟩ :: s₁.log := by
        rw [← upper_rollback, ← control_log, hrb]
      cases c with
      | ok u =>
        refine ⟨_, _, .ok v, { s₂ with binding := s.binding }, _, rfl, ?_, hlog, rfl, .rollback⟩
        simp only [exec_bind, hrb, exec_earlyReturn, if_true, EarlyReturn.runK, exec_pure, Prod.map, id, exec_get,
          Bool.false_and, Bool.false_eq_true, if_false, checkout, modifyPool_binding]
      | error f =>
        -- 失敗した巻き戻しのあと、受け止めた側でもう一度巻き戻す
        rcases hrb' : (control .writer "rollback").exec s₂ with ⟨c', s₃⟩
        have hlabel : (s₂.pool .writer).label = (s₁.pool .writer).label := by
          rw [← control_label "rollback" s₁, hrb]
        have hlog' : s₃.log = ⟨(s₁.pool .writer).label, "ROLLBACK", []⟩ :: s₂.log := by
          rw [← hlabel, ← upper_rollback, ← control_log, hrb']
        refine ⟨_, _, .error f, { s₃ with binding := s.binding }, _, rfl, ?_, ?_, rfl, .rollbackFailed⟩
        · simp only [exec_bind, if_true, hrb, exec_quietly, hrb', exec_throw, Prod.map, id, checkout,
            modifyPool_binding]
        · rw [hlog', hlog]
          rfl
    | false =>
      rcases hc : (control .writer "commit").exec s₁ with ⟨c, s₂⟩
      have hlog : s₂.log = ⟨(s₁.pool .writer).label, "COMMIT", []⟩ :: s₁.log := by
        rw [← upper_commit, ← control_log, hc]
      cases c with
      | ok u =>
        -- 確定のあと、設定によっては書き手に寄せる期間に入る（記録と束縛には触れない）
        by_cases hsticky :
            (s₂.settings.useWriterAfterTransaction && decide (s₂.settings.writerStickyDurationMs > 0)) = true
        · refine ⟨_, _, .ok v, { s₂ with binding := s.binding, request := { s₂.request with sticky := true } }, _,
            rfl, ?_, hlog, rfl, .commit⟩
          simp only [Bool.false_eq_true, if_false, exec_bind, hc, exec_earlyReturn, EarlyReturn.runK, exec_pure,
            Prod.map, id, exec_get, Bool.true_and, hsticky, if_true, exec_set, checkout, modifyPool_binding]
        · refine ⟨_, _, .ok v, { s₂ with binding := s.binding }, _, rfl, ?_, hlog, rfl, .commit⟩
          simp only [Bool.false_eq_true, if_false, exec_bind, hc, exec_earlyReturn, EarlyReturn.runK, exec_pure,
            Prod.map, id, exec_get, Bool.true_and, hsticky, checkout, modifyPool_binding]
      | error f =>
        rcases hrb : (control .writer "rollback").exec s₂ with ⟨c', s₃⟩
        have hlabel : (s₂.pool .writer).label = (s₁.pool .writer).label := by
          rw [← control_label "commit" s₁, hc]
        have hlog' : s₃.log = ⟨(s₁.pool .writer).label, "ROLLBACK", []⟩ :: s₂.log := by
          rw [← hlabel, ← upper_rollback, ← control_log, hrb]
        refine ⟨_, _, .error f, { s₃ with binding := s.binding }, _, rfl, ?_, ?_, rfl, .commitFailed⟩
        · simp only [Bool.false_eq_true, if_false, exec_bind, hc, exec_quietly, hrb, exec_throw, Prod.map, id,
            checkout, modifyPool_binding]
        · rw [hlog', hlog]
          rfl

/-! ## 最初の試みから数えた試み -/

/-- `k` 回やり直したあとの試み（`k + 1` 回目）の始めの状態: 前の試みの終わりの状態に、
そのあとの待ち時間 `delay * 2 ^ k` を記録したもの。 -/
def retryStart (fn : Run α) (rollbackOnly : Bool) (delay : Int) (s : Session) : Nat → Session
  | 0 => s
  | k + 1 =>
    let s' := ((outermost fn rollbackOnly).exec (retryStart fn rollbackOnly delay s k)).2
    { s' with pauses := s'.pauses ++ [.int (delay * (Nat.pow 2 k : Nat))] }

/-- 最後の試みの番号（0 から数える）`m` の範囲: 衝突の数 `j` を越えず、`j` より前なら
やり直しが切られているか上限に届いていて、0 より後ならやり直しが許され上限の内にある。 -/
theorem lastAttempt_bounds {j m : Nat} (hm : m = if retry then min j limit.toNat else 0) :
    m ≤ j ∧ (m < j → retry = false ∨ limit < (m + 1 : Nat)) ∧ (0 < m → retry = true ∧ ((m : Nat) : Int) ≤ limit) := by
  cases retry with
  | false =>
    simp only [Bool.false_eq_true, if_false] at hm
    subst hm
    exact ⟨Nat.zero_le _, fun _ => .inl rfl, fun h => absurd h (Nat.lt_irrefl 0)⟩
  | true =>
    simp only [if_true] at hm
    exact ⟨by omega, fun _ => .inr (by omega), fun _ => ⟨rfl, by omega⟩⟩

/-- 最初の `j` 回の試みが同じ一時的な衝突 `e` で失敗し、`j + 1` 回目が値 `v` を返すなら、
`m - d + 1` 回目から始めたやり直しは `m + 1` 回目の試みの結果で終わる。`d` についての帰納法で、
一段ごとに `again` の規則を一つ足す。 -/
theorem retries_conflicts {s : Session} {j : Nat} {e : Fault} {t : String} {v : α} (hstr : e.str = .ok t)
    (hfail : ∀ k < j, ∃ s', (outermost fn rollbackOnly).exec (retryStart fn rollbackOnly delay s k) = (.error e, s') ∧
      s'.dialect.isTransientConflict e = .ok true)
    (hdone : ∃ s', (outermost fn rollbackOnly).exec (retryStart fn rollbackOnly delay s j) = (.ok v, s'))
    {m : Nat} (hm : m = if retry then min j limit.toNat else 0) :
    ∀ d ≤ m, Retries fn rollbackOnly retry limit delay (m - d + 1) (retryStart fn rollbackOnly delay s (m - d))
      ((outermost fn rollbackOnly).exec (retryStart fn rollbackOnly delay s m)) := by
  obtain ⟨hmj, hstop, hgo⟩ := lastAttempt_bounds hm
  intro d
  induction d with
  | zero =>
    intro _
    rw [Nat.sub_zero]
    by_cases hlast : m = j
    · obtain ⟨s', hx⟩ := hdone
      rw [← hlast] at hx
      rw [hx]
      exact .done hx
    · obtain ⟨s', hx, _⟩ := hfail m (by omega)
      rw [hx]
      refine .stop hx ?_
      rcases hstop (by omega) with h | h
      · exact .inl h
      · exact .inr (.inl h)
  | succ d ih =>
    intro hd
    -- 試み m - d は衝突で失敗し、上限の内なのでやり直す
    have hk : m - (d + 1) < j := by omega
    obtain ⟨s', hx, hc⟩ := hfail _ hk
    obtain ⟨hretry, hlim⟩ := hgo (by omega)
    have hn : (((m - (d + 1) + 1 : Nat)) : Int) ≤ limit := by omega
    have hnext : retryStart fn rollbackOnly delay s (m - d) =
        { s' with pauses := s'.pauses ++ [.int (delay * (Nat.pow 2 (m - (d + 1) + 1 - 1) : Nat))] } := by
      have hsucc : m - d = m - (d + 1) + 1 := by omega
      rw [hsucc, Nat.add_sub_cancel]
      simp only [retryStart, hx]
    refine .again hx hretry hn hc hstr ?_
    have hsucc : m - (d + 1) + 1 + 1 = m - d + 1 := by omega
    rw [hsucc, ← hnext]
    exact ih (by omega)

/-- 最初の `j` 回だけ一時的な衝突で失敗する呼び出し: `transaction` は `m + 1` 回目の試みそのもの
（`m` はやり直すなら `min j L`、やり直さないなら 0）で、値を返すのは `j = 0` か、やり直しが許され
`j ≤ L` のときだけ。そうでなければ衝突をそのまま投げる。 -/
theorem transaction_conflicts {s : Session} (hb : s.binding = none) (fn : Run α) (opts : TransactionOptions)
    (hlimit : opts.limitWith s.settings = .int limit) (hdelay : opts.delayWith s.settings = .int delay)
    {j : Nat} {e : Fault} {t : String} {v : α} (hstr : e.str = .ok t)
    (hfail : ∀ k < j, ∃ s', (outermost fn opts.rollbackOnly.truthy).exec
      (retryStart fn opts.rollbackOnly.truthy delay s k) = (.error e, s') ∧ s'.dialect.isTransientConflict e = .ok true)
    (hdone : ∃ s', (outermost fn opts.rollbackOnly.truthy).exec
      (retryStart fn opts.rollbackOnly.truthy delay s j) = (.ok v, s')) :
    (transaction fn opts).exec s = (outermost fn opts.rollbackOnly.truthy).exec
        (retryStart fn opts.rollbackOnly.truthy delay s
          (if opts.retryWith s.settings then min j limit.toNat else 0)) ∧
      ((transaction fn opts).exec s).1 =
        if j = 0 ∨ (opts.retryWith s.settings = true ∧ (j : Int) ≤ limit) then .ok v else .error e := by
  generalize hm : (if opts.retryWith s.settings then min j limit.toNat else 0) = m
  obtain ⟨hmj, hstop, hgo⟩ := lastAttempt_bounds hm.symm
  -- 最初の試みからの決まりは、最後の試みの結果で終わる
  have hrun := retries_conflicts hstr hfail hdone hm.symm m (Nat.le_refl m)
  rw [Nat.sub_self] at hrun
  have heq := (transaction_retries hb fn opts hlimit hdelay).unique hrun
  refine ⟨heq, ?_⟩
  rw [heq]
  by_cases hlast : m = j
  · -- 最後の試みは値を返す j + 1 回目: やり直しなしの一回目か、上限の内
    subst hlast
    obtain ⟨s', hx⟩ := hdone
    rw [hx, if_pos]
    rcases Nat.eq_zero_or_pos m with h | h
    · exact .inl h
    · exact .inr (hgo h)
  · -- 最後の試みは衝突で失敗し、やり直しが切られているか上限を越えている
    obtain ⟨s', hx, _⟩ := hfail m (by omega)
    rw [hx, if_neg]
    rintro (h | ⟨hr, hj⟩)
    · omega
    · rcases hstop (by omega) with h' | h'
      · rw [hr] at h'; cases h'
      · omega

/-! ## 入れ子のトランザクション -/

/-- 書き込める束縛の中の `transaction` は、保存点で囲んで一度だけ走らせる。 -/
theorem exec_transaction_nested {s : Session} {b : Binding} (hb : s.binding = some b) (hw : b.readonly = false)
    (fn : Run α) (opts : TransactionOptions) :
    (transaction fn opts).exec s = (savepoint b fn opts.rollbackOnly.truthy).exec s := by
  unfold transaction
  rw [exec_bind_ok (exec_get _)]
  simp only [hb, hw, Bool.false_eq_true, if_false]

/-- 保存点の中で呼び出しが失敗すれば、保存点まで巻き戻して同じ失敗を投げる。衝突でもやり直さない。 -/
theorem savepoint_error {s s₀ s₁ : Session} {b : Binding} {u : Value} {e : Fault} {ro : Bool}
    (hsp : (execute .writer (s.dialect.savepoint ("sp_" ++ toString (b.depth + 1))) []).exec s = (.ok u, s₀))
    (hfn : fn.exec { s₀ with binding := some ⟨b.depth + 1, false⟩ } = (.error e, s₁)) :
    ((savepoint b fn ro).exec s).1 = .error e := by
  unfold savepoint
  rw [exec_bind_ok (exec_get _)]
  dsimp only
  rw [exec_bind_ok hsp, exec_withBinding, exec_bind, exec_tryCatch, exec_bind, hfn]
  simp only [exec_bind, exec_quietly, exec_throw, Prod.map, id]

/-! ## やり直しの法則 -/

/-- `transaction` のやり直しの法則。
束縛がなく上限 `L` と待ち時間 `D` が整数なら、結果はやり直しの決まり `Retries` がただ一つ定めるもの
（`n` 回目の失敗のあと `D * 2 ^ (n - 1)` ミリ秒の待ちを記録する）。とくに最初の `j` 回だけ一時的な衝突で
失敗する呼び出しは、`j = 0` か、やり直しが許され `j ≤ L` のときに限り値を返し、`transaction` は
`m + 1` 回目の試みそのもの。一つ一つの試みは接続を借りて `BEGIN` で始まり、`Ending` の制御の文で
終わる。書き込める束縛の中では保存点で一度だけ走らせ、失敗はそのまま出る。 -/
theorem transaction_retry_law (s : Session) (fn : Run α) (opts : TransactionOptions) :
    (s.binding = none → ∀ limit delay : Int, opts.limitWith s.settings = .int limit →
      opts.delayWith s.settings = .int delay →
      (∀ r, Retries fn opts.rollbackOnly.truthy (opts.retryWith s.settings) limit delay 1 s r ↔
        r = (transaction fn opts).exec s) ∧
      ∀ (j : Nat) (e : Fault) (t : String) (v : α), e.str = .ok t →
        (∀ k < j, ∃ s', (outermost fn opts.rollbackOnly.truthy).exec
          (retryStart fn opts.rollbackOnly.truthy delay s k) = (.error e, s') ∧
            s'.dialect.isTransientConflict e = .ok true) →
        (∃ s', (outermost fn opts.rollbackOnly.truthy).exec
          (retryStart fn opts.rollbackOnly.truthy delay s j) = (.ok v, s')) →
        (transaction fn opts).exec s = (outermost fn opts.rollbackOnly.truthy).exec
            (retryStart fn opts.rollbackOnly.truthy delay s
              (if opts.retryWith s.settings then min j limit.toNat else 0)) ∧
          ((transaction fn opts).exec s).1 =
            if j = 0 ∨ (opts.retryWith s.settings = true ∧ (j : Int) ≤ limit) then .ok v else .error e) ∧
    (∀ σ : Session, (∀ e ∈ (σ.pool .writer).failures, e.1 ≠ "begin") →
      ∃ r σ₁ r' σ' ends, fn.exec (begun σ) = (r, σ₁) ∧
        (outermost fn opts.rollbackOnly.truthy).exec σ = (r', σ') ∧
        σ'.log = ends ++ σ₁.log ∧ σ'.binding = σ.binding ∧
        Ending (σ₁.pool .writer).label opts.rollbackOnly.truthy r r' ends) ∧
    (∀ b : Binding, s.binding = some b → b.readonly = false → ∀ (u : Value) (s₀ : Session) (e : Fault) (s₁ : Session),
      (execute .writer (s.dialect.savepoint ("sp_" ++ toString (b.depth + 1))) []).exec s = (.ok u, s₀) →
      fn.exec { s₀ with binding := some ⟨b.depth + 1, false⟩ } = (.error e, s₁) →
      ((transaction fn opts).exec s).1 = .error e) := by
  refine ⟨?_, fun σ hσ => outermost_shape σ _ hσ, ?_⟩
  · intro hb limit delay hlimit hdelay
    have hlaw := transaction_retries hb fn opts hlimit hdelay
    refine ⟨fun r => ⟨fun h => h.unique hlaw, fun h => h ▸ hlaw⟩, ?_⟩
    intro j e t v hstr hfail hdone
    exact transaction_conflicts hb fn opts hlimit hdelay hstr hfail hdone
  · intro b hb hw u s₀ e s₁ hsp hfn
    rw [exec_transaction_nested hb hw]
    exact savepoint_error hsp hfn

/-- 一度目だけ一時的な衝突で失敗し、やり直すと値を返す呼び出し（待ちの記録で一度目かを見る）。 -/
def conflictOnce : Run Value := do
  if (← get).pauses.isEmpty then throw (Fault.lib { kind := .transient, message := .str "conflict" })
  else pure (.int 7)

/-- 既定の設定（やり直し、上限 3）では、一度の衝突のあと二回目の試みが値を返す。 -/
theorem conflictOnce_retried :
    (transaction conflictOnce {}).exec default =
        (outermost conflictOnce false).exec (retryStart conflictOnce false 200 default 1) ∧
      ((transaction conflictOnce {}).exec default).1 = .ok (.int 7) := by
  have hfail : ∀ k < 1, ∃ s', (outermost conflictOnce false).exec (retryStart conflictOnce false 200 default k) =
      (.error (Fault.lib { kind := .transient, message := .str "conflict" }), s') ∧
      s'.dialect.isTransientConflict (Fault.lib { kind := .transient, message := .str "conflict" }) = .ok true := by
    intro k hk
    obtain rfl : k = 0 := by omega
    exact ⟨_, rfl, rfl⟩
  have hlaw := ((transaction_retry_law default conflictOnce {}).1 rfl 3 200 rfl rfl).2 1 _ _ (.int 7) rfl hfail
    ⟨_, rfl⟩
  exact hlaw

end Session

end DataAccess
