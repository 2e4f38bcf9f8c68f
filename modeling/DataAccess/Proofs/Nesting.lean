import DataAccess.Proofs.Retry
/-!
# 入れ子のトランザクションが書き手に出す文の並び

トランザクションに渡す呼び出しの中身を、文を走らせる、深さを読む、失敗を投げる、順に並べる、
入れ子の `transaction`、`withWriter`、失敗を受け止める、を組み合わせた手順 `Program` で表す。

* 深さ `k` の束縛の中で手順を走らせると、書き手の接続には `Program.trace` の並びの文が出る。
  並びは文法 `Body k` に従い、保存点 `sp_(k+1)` を開いたら、呼び出しが値を返し巻き戻す指定も
  なければ `RELEASE SAVEPOINT` で、ほかは `ROLLBACK TO SAVEPOINT` と `RELEASE SAVEPOINT` で閉じる。
* どの溜まりからも新しく接続を借りず、深さを読めば `k`、呼び出しのあとの束縛は成否にかかわらず元のまま。
* 一番外の試みはそれを `BEGIN` と、値を返し巻き戻す指定もなければ `COMMIT`、ほかは `ROLLBACK` で囲み
  （文法 `Attempt`）、書き手から接続を一つだけ借りる。やり直すたびに同じ並びを繰り返す。
* 制御の文が失敗した場合: 失敗した `COMMIT` のあとには `ROLLBACK` が、失敗した `RELEASE SAVEPOINT` の
  あとには `ROLLBACK TO SAVEPOINT` と `RELEASE SAVEPOINT` が続き、最初の失敗が出る。
-/

namespace DataAccess

namespace Session

open Run

/-! ## 手順と文の並び -/

/-- トランザクションに渡す呼び出しの中身。 -/
inductive Program where
  /-- 組み立てた文を一つ走らせる（`write` なら書き込み）。 -/
  | statement (sql : String) (write : Bool)
  /-- 今のトランザクションの深さを読む。 -/
  | depth
  /-- 失敗を投げる。 -/
  | raise (f : Fault)
  /-- 二つを順に走らせる。 -/
  | seq (p q : Program)
  /-- 入れ子の `transaction`（`rollbackOnly` は巻き戻すだけの指定）。 -/
  | transaction (rollbackOnly : Bool) (body : Program)
  /-- `withWriter` の中で走らせる。 -/
  | withWriter (body : Program)
  /-- 走らせて、出てきた失敗を受け止める。 -/
  | catching (body : Program)
  deriving Inhabited

/-- 手順を走らせ、読んだ深さを順に返す。 -/
def Program.run : Program → Run (List Nat)
  | .statement sql write => do
    let _ ← Session.run ⟨sql, []⟩ write "execute" none false
    return []
  | .depth => return [(← get).transactionDepth]
  | .raise f => throw f
  | .seq p q => do
    let a ← p.run
    let b ← q.run
    return a ++ b
  | .transaction rollbackOnly body => Session.transaction body.run { rollbackOnly := .bool rollbackOnly }
  | .withWriter body => Session.withWriter body.run
  | .catching body => tryCatch body.run fun _ => pure []

/-- 書き手の接続に出る文: 制御の文、保存点の文と、手順の文。 -/
inductive Token where
  | begin
  | commit
  | rollback
  /-- 深さ `k` の保存点 `sp_k` を開く。 -/
  | savepoint (k : Nat)
  /-- 保存点 `sp_k` を解放する。 -/
  | release (k : Nat)
  /-- 保存点 `sp_k` まで戻す。 -/
  | rollbackTo (k : Nat)
  | statement (sql : String)
  deriving DecidableEq

/-- 深さ `k` の保存点の名前。 -/
def savepointName (k : Nat) : String := "sp_" ++ toString k

/-- 方言 `d`、書き手の名札 `label` で記録に出る一行。 -/
def Token.entry (d : Dialect) (label : String) : Token → Entry
  | .begin => ⟨label, "BEGIN", []⟩
  | .commit => ⟨label, "COMMIT", []⟩
  | .rollback => ⟨label, "ROLLBACK", []⟩
  | .savepoint k => ⟨label, d.savepoint (savepointName k), []⟩
  | .release k => ⟨label, d.releaseSavepoint (savepointName k), []⟩
  | .rollbackTo k => ⟨label, d.rollbackToSavepoint (savepointName k), []⟩
  | .statement sql => ⟨label, d.convertPlaceholders sql, []⟩

/-- 状態 `s` の方言と書き手の名札で、文の並びが記録に出る行。 -/
def render (s : Session) (ts : List Token) : List Entry :=
  ts.map (Token.entry s.dialect (s.pool .writer).label)

/-- 保存点 `sp_k` の閉じ方: 残すなら解放だけ、ほかは戻してから解放する。 -/
def savepointEnd (k : Nat) (keep : Bool) : List Token :=
  if keep then [.release k] else [.rollbackTo k, .release k]

/-- 一番外の試みの閉じ方: 残すなら確定、ほかは巻き戻し。 -/
def attemptEnd (keep : Bool) : Token :=
  if keep then .commit else .rollback

/-- 深さ `k`（`ro` なら読み取り専用）の束縛の中で手順を走らせたときに、書き手に出る文の並びと結果。
読み取り専用の中では書き込みも入れ子の `transaction` も拒まれる。入れ子の `transaction` は保存点
`sp_(k+1)` を開き、中身を深さ `k + 1` で走らせ、値を返して巻き戻す指定もなければ残す。 -/
def Program.trace (k : Nat) (ro : Bool) : Program → List Token × Except Fault (List Nat)
  | .statement sql write =>
    if write && ro then ([], .error (Fault.policy .readOnly .none (.str "execute") (Fault.textValue none)))
    else ([.statement sql], .ok [])
  | .depth => ([], .ok [k])
  | .raise f => ([], .error f)
  | .seq p q =>
    match p.trace k ro with
    | (t, .error e) => (t, .error e)
    | (t, .ok a) => (t ++ (q.trace k ro).1, (a ++ ·) <$> (q.trace k ro).2)
  | .transaction rollbackOnly body =>
    if ro then ([], .error (Fault.policy .readOnly .none (.str "transaction") .none))
    else
      (.savepoint (k + 1) :: (body.trace (k + 1) false).1 ++
          savepointEnd (k + 1) ((body.trace (k + 1) false).2.isOk && !rollbackOnly),
        (body.trace (k + 1) false).2)
  | .withWriter body => body.trace k true
  | .catching body => ((body.trace k ro).1, .ok ((body.trace k ro).2.toOption.getD []))

/-- 一番外の試みが書き手に出す文の並び: 深さ 1 の中身を `BEGIN` と閉じ方で囲む。 -/
def Program.attempt (rollbackOnly : Bool) (p : Program) : List Token :=
  .begin :: (p.trace 1 false).1 ++ [attemptEnd ((p.trace 1 false).2.isOk && !rollbackOnly)]

/-! ## 文法 -/

/-- 保存点 `sp_k` の閉じ方の文法 `End_k`。 -/
inductive SavepointEnd (k : Nat) : List Token → Prop
  | release : SavepointEnd k [.release k]
  | rollback : SavepointEnd k [.rollbackTo k, .release k]

/-- 深さ `k` の本体の文法 `Body_k`: 手順の文と、保存点 `sp_(k+1)` で囲んだ深さ `k + 1` の本体の並び。 -/
inductive Body : Nat → List Token → Prop
  | nil {k : Nat} : Body k []
  | statement {k : Nat} {rest : List Token} (sql : String) : Body k rest → Body k (.statement sql :: rest)
  | savepoint {k : Nat} {inner ends rest : List Token} :
      Body (k + 1) inner → SavepointEnd (k + 1) ends → Body k rest →
      Body k (.savepoint (k + 1) :: inner ++ ends ++ rest)

/-- 一番外の試みの文法 `Attempt`: `BEGIN`、深さ 1 の本体、`COMMIT` か `ROLLBACK`。 -/
inductive Attempt : List Token → Prop
  | commit {body : List Token} : Body 1 body → Attempt (.begin :: body ++ [.commit])
  | rollback {body : List Token} : Body 1 body → Attempt (.begin :: body ++ [.rollback])

theorem savepointEnd_grammar (k : Nat) (keep : Bool) : SavepointEnd k (savepointEnd k keep) := by
  cases keep
  · exact .rollback
  · exact .release

theorem Body.append {k : Nat} {a b : List Token} (ha : Body k a) (hb : Body k b) : Body k (a ++ b) := by
  induction ha with
  | nil => exact hb
  | statement sql _ ih =>
    rw [List.cons_append]
    exact .statement sql (ih hb)
  | savepoint hi he _ _ ih =>
    have h := Body.savepoint hi he (ih hb)
    simpa only [List.append_assoc, List.cons_append] using h

/-- どの手順も、どの深さでも、本体の文法に従う文を出す。 -/
theorem trace_body (p : Program) : ∀ (k : Nat) (ro : Bool), Body k (p.trace k ro).1 := by
  induction p with
  | statement sql write =>
    intro k ro
    unfold Program.trace
    split
    · exact .nil
    · exact .statement sql .nil
  | depth => intro k ro; exact .nil
  | raise f => intro k ro; exact .nil
  | seq p q ihp ihq =>
    intro k ro
    have hp := ihp k ro
    unfold Program.trace
    rcases htp : p.trace k ro with ⟨t, r⟩
    rw [htp] at hp
    cases r with
    | error e => exact hp
    | ok a => exact hp.append (ihq k ro)
  | transaction rollbackOnly body ih =>
    intro k ro
    unfold Program.trace
    split
    · exact .nil
    · rw [← List.append_nil (_ ++ savepointEnd _ _)]
      exact .savepoint (ih (k + 1) false) (savepointEnd_grammar _ _) .nil
  | withWriter body ih => intro k ro; exact ih k true
  | catching body ih => intro k ro; exact ih k ro

/-- 一番外の試みの並びは文法 `Attempt` に従う。 -/
theorem attempt_grammar (p : Program) (rollbackOnly : Bool) : Attempt (p.attempt rollbackOnly) := by
  unfold Program.attempt attemptEnd
  split
  · exact .commit (trace_body p 1 false)
  · exact .rollback (trace_body p 1 false)

/-! ## 束縛の中の一歩 -/

variable {s s' t s₀ s₁ s₂ s₃ : Session} {es es' : List Entry}

/-- 束縛の中の計算の効果: 記録が `es` だけ伸び（束縛、方言、書き手の名札と予約された失敗はそのまま）、
どの溜まりからも新しく接続を借りず、書き手の接続は失敗しないまま。 -/
structure Stays (s s' : Session) (es : List Entry) : Prop where
  grows : s.Grows s' es
  checkouts : ∀ r, (s'.pool r).checkouts = (s.pool r).checkouts
  driverOk : s'.DriverOk

theorem Stays.refl (h : s.DriverOk) : s.Stays s [] := ⟨.refl s, fun _ => rfl, h⟩

theorem Stays.trans (h₁ : s₁.Stays s₂ es) (h₂ : s₂.Stays s₃ es') : s₁.Stays s₃ (es ++ es') :=
  ⟨h₁.grows.trans h₂.grows, fun r => (h₂.checkouts r).trans (h₁.checkouts r), h₂.driverOk⟩

theorem Stays.rebind {b : Option Binding} (h : ({ s with binding := b } : Session).Stays t es) :
    s.Stays { t with binding := s.binding } es :=
  ⟨h.grows.rebind, h.checkouts, h.driverOk⟩

theorem Stays.of_eq (h : s.Stays s' es) (he : es = es') : s.Stays s' es' := he ▸ h

theorem Grows.of_eq (h : s.Grows s' es) (he : es = es') : s.Grows s' es' := he ▸ h

/-- 記録の伸びは方言と書き手の名札を変えないので、文の並びが記録に出る行も変えない。 -/
theorem Grows.render (h : s.Grows s' es) (ts : List Token) : render s' ts = render s ts := by
  simp only [Session.render, h.dialect, h.label]

/-- 書き手の接続が失敗しなければ、書き手で走らせた文は束縛の中の一歩として記録に一行足す。 -/
theorem execute_stays (hok : s.DriverOk) (sql : String) (params : List Value) :
    ∃ v s', (execute .writer sql params).exec s = (.ok v, s') ∧
      s.Stays s' [⟨(s.pool .writer).label, sql, params⟩] := by
  obtain ⟨v, s', hx, hg, hok', -⟩ := execute_writer hok sql params
  refine ⟨v, s', hx, ⟨hg, fun r => ?_, hok'⟩⟩
  have h := execute_checkouts .writer r sql params s
  rwa [hx] at h

theorem control_stays {verb : String} (hok : s.DriverOk) (hverb : ∀ e ∈ (s.pool .writer).failures, e.1 ≠ verb) :
    ∃ s', (control .writer verb).exec s = (.ok ⟨⟩, s') ∧ s.Stays s' [⟨(s.pool .writer).label, verb.toUpper, []⟩] :=
  ⟨_, control_writer_ok hverb, ⟨⟨rfl, rfl, rfl, rfl, rfl⟩, fun _ => rfl, hok⟩⟩

/-- 束縛の中の `withWriter` は、同じ深さの読み取り専用の束縛で走らせ、元の束縛に戻す。 -/
theorem exec_withWriter_bound {α : Type} {k : Nat} {ro : Bool} (hb : s.binding = some ⟨k, ro⟩) (fn : Run α) :
    (withWriter fn).exec s =
      Prod.map id (fun s' => { s' with binding := s.binding }) (fn.exec { s with binding := some ⟨k, true⟩ }) := by
  unfold withWriter
  rw [exec_bind_ok (exec_get _)]
  have h := exec_withBinding (some ⟨k, true⟩) fn s
  simp only [hb] at h ⊢
  exact h

/-! ## 保存点 -/

/-- 保存点の一歩: 深さ `outer.depth + 1` の束縛の中で、呼び出しがどの状態からでも結果 `r` を返して
並び `ts` の文を出すなら、保存点はそれを `SAVEPOINT` と閉じ方で囲む。閉じ方は、呼び出しが値を返し
巻き戻す指定もなければ解放だけ、ほかは戻してから解放する。結果は呼び出しのもの。 -/
theorem savepoint_stays {α : Type} {fn : Run α} {r : Except Fault α} {ts : List Token} (outer : Binding)
    (rollbackOnly : Bool) (hok : s.DriverOk)
    (hfn : ∀ σ : Session, σ.binding = some ⟨outer.depth + 1, false⟩ → σ.DriverOk →
      ∃ σ', fn.exec σ = (r, σ') ∧ σ.Stays σ' (render σ ts)) :
    ∃ s', (savepoint outer fn rollbackOnly).exec s = (r, s') ∧
      s.Stays s' (render s (.savepoint (outer.depth + 1) :: ts ++
        savepointEnd (outer.depth + 1) (r.isOk && !rollbackOnly))) := by
  unfold savepoint
  rw [exec_bind_ok (exec_get _)]
  dsimp only
  obtain ⟨u, s₀, hsp, hs₀⟩ := execute_stays hok (s.dialect.savepoint ("sp_" ++ toString (outer.depth + 1))) []
  rw [exec_bind_ok hsp, exec_withBinding, exec_bind, exec_tryCatch, exec_bind]
  obtain ⟨s₁, hfn₁, hs₁⟩ := hfn { s₀ with binding := some ⟨outer.depth + 1, false⟩ } rfl (hs₀.driverOk.rebind _)
  rw [hfn₁]
  have hl₁ : (s₁.pool .writer).label = (s.pool .writer).label := hs₁.grows.label.trans hs₀.grows.label
  have hrender : render { s₀ with binding := some ⟨outer.depth + 1, false⟩ } ts = render s ts :=
    hs₀.grows.render ts
  cases r with
  | ok v =>
    cases rollbackOnly with
    | false =>
      obtain ⟨u₂, s₂, hrl, hs₂⟩ :=
        execute_stays hs₁.driverOk (s.dialect.releaseSavepoint ("sp_" ++ toString (outer.depth + 1))) []
      refine ⟨{ s₂ with binding := s₀.binding }, ?_, ?_⟩
      · simp only [Bool.false_eq_true, if_false, exec_bind_ok hrl, exec_earlyReturn, EarlyReturn.runK, exec_pure,
          Prod.map, id]
      · have h := hs₀.trans (hs₁.trans hs₂).rebind
        rw [hrender, hl₁] at h
        refine h.of_eq ?_
        simp [render, Token.entry, savepointEnd, savepointName, Except.isOk, Except.toBool]
    | true =>
      obtain ⟨u₂, s₂, hrt, hs₂⟩ :=
        execute_stays hs₁.driverOk (s.dialect.rollbackToSavepoint ("sp_" ++ toString (outer.depth + 1))) []
      obtain ⟨u₃, s₃, hrl, hs₃⟩ :=
        execute_stays hs₂.driverOk (s.dialect.releaseSavepoint ("sp_" ++ toString (outer.depth + 1))) []
      refine ⟨{ s₃ with binding := s₀.binding }, ?_, ?_⟩
      · simp only [if_true, exec_bind_ok hrt, exec_bind_ok hrl, exec_earlyReturn, EarlyReturn.runK, exec_pure,
          Prod.map, id]
      · have hl₂ : (s₂.pool .writer).label = (s.pool .writer).label := hs₂.grows.label.trans hl₁
        have h := hs₀.trans ((hs₁.trans hs₂).trans hs₃).rebind
        rw [hrender, hl₁, hl₂] at h
        refine h.of_eq ?_
        simp [render, Token.entry, savepointEnd, savepointName, Except.isOk, Except.toBool]
  | error e =>
    -- 呼び出しが失敗すれば、受け止めた側で保存点まで戻して解放し、同じ失敗を投げ直す
    obtain ⟨u₂, s₂, hrt, hs₂⟩ :=
      execute_stays hs₁.driverOk (s.dialect.rollbackToSavepoint ("sp_" ++ toString (outer.depth + 1))) []
    obtain ⟨u₃, s₃, hrl, hs₃⟩ :=
      execute_stays hs₂.driverOk (s.dialect.releaseSavepoint ("sp_" ++ toString (outer.depth + 1))) []
    refine ⟨{ s₃ with binding := s₀.binding }, ?_, ?_⟩
    · simp only [exec_bind, exec_quietly, exec_bind_ok hrt, exec_bind_ok hrl, exec_pure, exec_throw, Prod.map, id]
    · have hl₂ : (s₂.pool .writer).label = (s.pool .writer).label := hs₂.grows.label.trans hl₁
      have h := hs₀.trans ((hs₁.trans hs₂).trans hs₃).rebind
      rw [hrender, hl₁, hl₂] at h
      refine h.of_eq ?_
      simp [render, Token.entry, savepointEnd, savepointName, Except.isOk, Except.toBool]

/-- 解放の失敗: 呼び出しが値を返したあと `RELEASE SAVEPOINT` に失敗の応答が返れば、受け止めた側で
`ROLLBACK TO SAVEPOINT` と `RELEASE SAVEPOINT` を続け（残りの応答は結果）、解放の失敗を投げる。
束縛は元に戻る。 -/
theorem release_failure_rolls_back {α : Type} {fn : Run α} {outer : Binding} {u : Value} {v : α} {f : Fault}
    {rest : List (Except Fault Value)}
    (hsp : (execute .writer (s.dialect.savepoint (savepointName (outer.depth + 1))) []).exec s = (.ok u, s₀))
    (hfn : fn.exec { s₀ with binding := some ⟨outer.depth + 1, false⟩ } = (.ok v, s₁))
    (hq : (s₁.pool .writer).queue = .error f :: rest) (hrest : ∀ x ∈ rest, x.isOk = true)
    (hfail : ∀ e ∈ (s₁.pool .writer).failures, e.1 ≠ "begin" ∧ e.1 ≠ "rollback") :
    ∃ s', (savepoint outer fn false).exec s = (.error f, s') ∧ s'.binding = s.binding ∧
      s'.log = ([Token.release (outer.depth + 1), .rollbackTo (outer.depth + 1), .release (outer.depth + 1)].map
        (Token.entry s.dialect (s₁.pool .writer).label)).reverse ++ s₁.log := by
  have hb₀ : s₀.binding = s.binding := by
    have h := keeps_execute .writer (s.dialect.savepoint (savepointName (outer.depth + 1))) [] s
    rwa [hsp] at h
  unfold savepointName at hsp
  unfold savepoint
  rw [exec_bind_ok (exec_get _)]
  dsimp only
  rw [exec_bind_ok hsp, exec_withBinding, exec_bind, exec_tryCatch, exec_bind, hfn]
  have hrl := exec_execute_head hq (s.dialect.releaseSavepoint ("sp_" ++ toString (outer.depth + 1))) []
  obtain ⟨s₂, hs₂⟩ : ∃ s₂ : Session, s₂ = ({ s₁ with log := ⟨(s₁.pool .writer).label,
      s.dialect.releaseSavepoint ("sp_" ++ toString (outer.depth + 1)), []⟩ :: s₁.log } : Session).modifyPool .writer
        fun p => { p with queue := rest } := ⟨_, rfl⟩
  rw [← hs₂] at hrl
  -- 失敗の応答を使ったあとの書き手は失敗しないので、受け止めた側の二つの文はどちらも成功する
  have hok₂ : s₂.DriverOk := by
    refine ⟨?_, ?_⟩
    · simpa [hs₂] using hrest
    · simpa [hs₂] using hfail
  obtain ⟨u₃, s₃, hrt, hs₃⟩ :=
    execute_stays hok₂ (s.dialect.rollbackToSavepoint ("sp_" ++ toString (outer.depth + 1))) []
  obtain ⟨u₄, s₄, hrl', hs₄⟩ :=
    execute_stays hs₃.driverOk (s.dialect.releaseSavepoint ("sp_" ++ toString (outer.depth + 1))) []
  refine ⟨{ s₄ with binding := s₀.binding }, ?_, hb₀, ?_⟩
  · simp only [Bool.false_eq_true, if_false, exec_bind, hrl, exec_quietly, hrt, hrl', exec_pure, exec_throw,
      Prod.map, id]
  · have hl₂ : (s₂.pool .writer).label = (s₁.pool .writer).label := by simp [hs₂]
    have hl₃ : (s₃.pool .writer).label = (s₁.pool .writer).label := hs₃.grows.label.trans hl₂
    show s₄.log = _
    rw [hs₄.grows.log, hs₃.grows.log, hl₂, hl₃]
    simp [hs₂, Token.entry, savepointName]

/-! ## 手順を走らせる -/

/-- 手順の走り: 深さ `k` の束縛の中で、書き手の接続が失敗しなければ、手順は `Program.trace` の結果を返し
（深さを読めば `k`）、その並びの文だけを束縛の中の一歩として出す。手順の形についての帰納法で、
入れ子の `transaction` は保存点の一歩 `savepoint_stays` に、中身についての帰納法の仮定を渡す。 -/
theorem run_trace (p : Program) : ∀ (k : Nat) (ro : Bool) (s : Session), s.binding = some ⟨k, ro⟩ → s.DriverOk →
    ∃ s', p.run.exec s = ((p.trace k ro).2, s') ∧ s.Stays s' (render s (p.trace k ro).1) := by
  induction p with
  | statement sql write =>
    intro k ro s hb hok
    unfold Program.run Program.trace
    by_cases hw : (write && ro) = true
    · -- 読み取り専用の束縛の中の書き込みは、状態に触れずに拒まれる
      obtain ⟨rfl, rfl⟩ : write = true ∧ ro = true := by simpa using hw
      have h := (run_routes s ⟨sql, []⟩ true "execute" none false).readOnly ⟨k, true⟩ hb rfl rfl
      refine ⟨s, ?_, Stays.refl hok⟩
      rw [exec_bind_error h]
      rfl
    · -- ほかの文は束縛した書き手の接続で走る
      have hpass : s.refuses write false = false := by simpa [refuses, hb] using hw
      have h := (run_routes s ⟨sql, []⟩ write "execute" none false).runs hpass
      rw [show s.destination write = .writer by simp [destination, hb],
        show s.prepared write = s by simp [prepared, hb]] at h
      obtain ⟨v, s', hx, hs'⟩ := execute_stays hok (s.dialect.convertPlaceholders sql) []
      refine ⟨s', ?_, ?_⟩
      · rw [exec_bind_ok (h.trans hx)]
        simp [hw]
      · simpa [hw, render, Token.entry] using hs'
  | depth =>
    intro k ro s hb hok
    have hdepth : s.transactionDepth = k := by simp [transactionDepth, hb]
    refine ⟨s, ?_, Stays.refl hok⟩
    unfold Program.run Program.trace
    rw [← hdepth]
    rfl
  | raise f => exact fun k ro s _ hok => ⟨s, rfl, Stays.refl hok⟩
  | seq p q ihp ihq =>
    intro k ro s hb hok
    obtain ⟨s₁, hp, hs₁⟩ := ihp k ro s hb hok
    unfold Program.run Program.trace
    rw [exec_bind, hp]
    rcases htp : p.trace k ro with ⟨t, r⟩
    rw [htp] at hs₁
    cases r with
    | error e => exact ⟨s₁, rfl, hs₁⟩
    | ok a =>
      -- 前半のあとも束縛と書き手は同じなので、後半にも帰納法の仮定が使える
      obtain ⟨s₂, hq, hs₂⟩ := ihq k ro s₁ (hs₁.grows.binding.trans hb) hs₁.driverOk
      rw [hs₁.grows.render] at hs₂
      refine ⟨s₂, ?_, ?_⟩
      · dsimp only
        rw [exec_bind, hq]
        rcases (q.trace k ro).2 with e | b <;> rfl
      · simpa [render] using hs₁.trans hs₂
  | transaction rollbackOnly body ih =>
    intro k ro s hb hok
    cases ro with
    | true =>
      refine ⟨s, ?_, Stays.refl hok⟩
      unfold Program.run Program.trace
      rw [exec_transaction_readOnly hb rfl]
      rfl
    | false =>
      obtain ⟨s', hx, hs'⟩ := savepoint_stays ⟨k, false⟩ rollbackOnly hok (ih (k + 1) false)
      refine ⟨s', ?_, ?_⟩
      · unfold Program.run
        rw [exec_transaction_nested hb rfl]
        exact hx
      · simpa [Program.trace] using hs'
  | withWriter body ih =>
    intro k ro s hb hok
    obtain ⟨s', hx, hs'⟩ := ih k true { s with binding := some ⟨k, true⟩ } rfl (hok.rebind _)
    refine ⟨{ s' with binding := s.binding }, ?_, ?_⟩
    · unfold Program.run
      rw [exec_withWriter_bound hb, hx]
      rfl
    · unfold Program.trace
      exact hs'.rebind
  | catching body ih =>
    intro k ro s hb hok
    obtain ⟨s', hx, hs'⟩ := ih k ro s hb hok
    refine ⟨s', ?_, ?_⟩
    · unfold Program.run Program.trace
      rw [exec_tryCatch, hx]
      rcases (body.trace k ro).2 with e | a <;> rfl
    · unfold Program.trace
      exact hs'

/-! ## 一番外の試み -/

@[simp] theorem begun_pool (s : Session) (r : Role) : (begun s).pool r = (s.checkout .writer).pool r := rfl

@[simp] theorem begun_dialect (s : Session) : (begun s).dialect = s.dialect := by
  simp [begun, checkout]

theorem DriverOk.begun (h : s.DriverOk) : (Session.begun s).DriverOk := by
  obtain ⟨hq, hf⟩ := h
  refine ⟨fun x hx => hq x ?_, fun e he => hf e ?_⟩
  · rwa [begun_pool, checkout_queue] at hx
  · rwa [begun_pool, checkout_failures] at he

/-- 試みの始めから束縛の中で進んだ効果を、束縛を戻して外から見る: `BEGIN` の一行が前に付き、
書き手から接続を一つ借りている。 -/
theorem begun_close (h : (begun s).Stays s₂ es) :
    s.Grows { s₂ with binding := s.binding } (⟨(s.pool .writer).label, "BEGIN", []⟩ :: es) ∧
      ({ s₂ with binding := s.binding } : Session).DriverOk ∧
      (s₂.pool .writer).checkouts = (s.pool .writer).checkouts + 1 := by
  refine ⟨⟨?_, rfl, ?_, ?_, ?_⟩, h.driverOk, ?_⟩
  · simp [h.grows.log, begun]
  · simp [h.grows.dialect, begun, checkout]
  · simp [h.grows.label]
  · simp [h.grows.failures, checkout_failures]
  · rw [h.checkouts, begun_pool, checkout_checkouts]

/-- 一番外の試みの一歩: 書き手の接続も確定も失敗しなければ、深さ 1 の束縛の中でどの状態からでも
結果 `r` を返して並び `ts` の文を出す呼び出しを、試みは `BEGIN` と、値を返し巻き戻す指定もなければ
`COMMIT`、ほかは `ROLLBACK` で囲む。結果は呼び出しのもの、束縛は元に戻り、書き手から接続を一つ借りる。 -/
theorem outermost_stays {α : Type} {fn : Run α} {r : Except Fault α} {ts : List Token} (rollbackOnly : Bool)
    (hok : s.DriverOk) (hcommit : ∀ e ∈ (s.pool .writer).failures, e.1 ≠ "commit")
    (hfn : ∀ σ : Session, σ.binding = some ⟨1, false⟩ → σ.DriverOk →
      ∃ σ', fn.exec σ = (r, σ') ∧ σ.Stays σ' (render σ ts)) :
    ∃ s', (outermost fn rollbackOnly).exec s = (r, s') ∧
      s.Grows s' (render s (.begin :: ts ++ [attemptEnd (r.isOk && !rollbackOnly)])) ∧ s'.DriverOk ∧
      (s'.pool .writer).checkouts = (s.pool .writer).checkouts + 1 := by
  have hbegin : ∀ e ∈ ((s.checkout .writer).pool .writer).failures, e.1 ≠ "begin" := by
    rw [checkout_failures]
    exact fun e he => (hok.2 e he).1
  have hacq : (acquire .writer).exec s = (.ok ⟨⟩, s.checkout .writer) := exec_acquire _ _
  have hstart : ({ ({ (s.checkout .writer) with
      log := ⟨((s.checkout .writer).pool .writer).label, "begin".toUpper, []⟩ :: (s.checkout .writer).log } :
        Session) with binding := some ⟨1, false⟩ } : Session) = begun s := by
    rw [upper_begin, checkout_label, checkout_log]
    rfl
  unfold outermost
  rw [exec_bind_ok hacq, exec_bind_ok (control_writer_ok hbegin), exec_bind, exec_withBinding, exec_bind,
    exec_tryCatch, exec_bind, hstart]
  obtain ⟨s₁, hfn₁, hs₁⟩ := hfn (begun s) rfl hok.begun
  rw [hfn₁]
  -- 呼び出しのあとも、確定と巻き戻しに予約された失敗はない
  have hf₁ : (s₁.pool .writer).failures = (s.pool .writer).failures := by
    rw [hs₁.grows.failures, begun_pool, checkout_failures]
  have hrb : ∀ e ∈ (s₁.pool .writer).failures, e.1 ≠ "rollback" := by
    rw [hf₁]
    exact fun e he => (hok.2 e he).2
  have hcm : ∀ e ∈ (s₁.pool .writer).failures, e.1 ≠ "commit" := by
    rw [hf₁]
    exact hcommit
  have hl₁ : (s₁.pool .writer).label = (s.pool .writer).label := by
    rw [hs₁.grows.label, begun_pool, checkout_label]
  have hrender : render (begun s) ts = render s ts := by
    unfold render
    rw [begun_pool, checkout_label, begun_dialect]
  cases r with
  | error e =>
    obtain ⟨s₂, hc, hs₂⟩ := control_stays hs₁.driverOk hrb
    obtain ⟨hg, hd, hk⟩ := begun_close (hs₁.trans hs₂)
    refine ⟨{ s₂ with binding := s.binding }, ?_, ?_, hd, hk⟩
    · simp only [exec_bind, exec_quietly, hc, exec_throw, Prod.map, id, checkout, modifyPool_binding]
    · rw [hrender, hl₁, upper_rollback] at hg
      refine hg.of_eq ?_
      simp [render, Token.entry, attemptEnd, Except.isOk, Except.toBool]
  | ok v =>
    cases rollbackOnly with
    | true =>
      obtain ⟨s₂, hc, hs₂⟩ := control_stays hs₁.driverOk hrb
      obtain ⟨hg, hd, hk⟩ := begun_close (hs₁.trans hs₂)
      refine ⟨{ s₂ with binding := s.binding }, ?_, ?_, hd, hk⟩
      · simp only [exec_bind, hc, exec_earlyReturn, if_true, EarlyReturn.runK, exec_pure, Prod.map, id, exec_get,
          Bool.false_and, Bool.false_eq_true, if_false, checkout, modifyPool_binding]
      · rw [hrender, hl₁, upper_rollback] at hg
        refine hg.of_eq ?_
        simp [render, Token.entry, attemptEnd, Except.isOk, Except.toBool]
    | false =>
      obtain ⟨s₂, hc, hs₂⟩ := control_stays hs₁.driverOk hcm
      obtain ⟨hg, hd, hk⟩ := begun_close (hs₁.trans hs₂)
      rw [hrender, hl₁, upper_commit] at hg
      replace hg : s.Grows { s₂ with binding := s.binding }
          (render s (.begin :: ts ++ [attemptEnd ((Except.ok v : Except Fault α).isOk && !false)])) :=
        hg.of_eq (by simp [render, Token.entry, attemptEnd, Except.isOk, Except.toBool])
      -- 確定のあと、設定によっては書き手に寄せる期間に入る（記録と束縛には触れない）
      by_cases hsticky :
          (s₂.settings.useWriterAfterTransaction && decide (s₂.settings.writerStickyDurationMs > 0)) = true
      · refine ⟨{ s₂ with binding := s.binding, request := { s₂.request with sticky := true } }, ?_,
          ⟨hg.log, hg.binding, hg.dialect, hg.label, hg.failures⟩, hd, hk⟩
        simp only [Bool.false_eq_true, if_false, exec_bind, hc, exec_earlyReturn, EarlyReturn.runK, exec_pure,
          Prod.map, id, exec_get, Bool.true_and, hsticky, if_true, exec_set, checkout, modifyPool_binding]
      · refine ⟨{ s₂ with binding := s.binding }, ?_, hg, hd, hk⟩
        simp only [Bool.false_eq_true, if_false, exec_bind, hc, exec_earlyReturn, EarlyReturn.runK, exec_pure,
          Prod.map, id, exec_get, Bool.true_and, hsticky, checkout, modifyPool_binding]

/-- 確定の失敗: 呼び出しが値を返したあと `COMMIT` に予約された失敗があれば、受け止めた側で `ROLLBACK` を
続け（その失敗は握りつぶす）、確定の失敗を投げる。束縛は元に戻る。 -/
theorem commit_failure_rolls_back {α : Type} {fn : Run α} {v : α} {c : String} {f : Fault}
    (hbegin : ∀ e ∈ (s.pool .writer).failures, e.1 ≠ "begin") (hfn : fn.exec (begun s) = (.ok v, s₁))
    (hc : (s₁.pool .writer).failures.find? (·.1 == "commit") = some (c, f)) :
    ∃ s', (outermost fn false).exec s = (.error f, s') ∧ s'.binding = s.binding ∧
      s'.log = ⟨(s₁.pool .writer).label, "ROLLBACK", []⟩ :: ⟨(s₁.pool .writer).label, "COMMIT", []⟩ :: s₁.log := by
  have hbegin' : ∀ e ∈ ((s.checkout .writer).pool .writer).failures, e.1 ≠ "begin" := by
    rw [checkout_failures]
    exact hbegin
  have hacq : (acquire .writer).exec s = (.ok ⟨⟩, s.checkout .writer) := exec_acquire _ _
  have hstart : ({ ({ (s.checkout .writer) with
      log := ⟨((s.checkout .writer).pool .writer).label, "begin".toUpper, []⟩ :: (s.checkout .writer).log } :
        Session) with binding := some ⟨1, false⟩ } : Session) = begun s := by
    rw [upper_begin, checkout_label, checkout_log]
    rfl
  unfold outermost
  rw [exec_bind_ok hacq, exec_bind_ok (control_writer_ok hbegin'), exec_bind, exec_withBinding, exec_bind,
    exec_tryCatch, exec_bind, hstart, hfn]
  rcases hcm : (control .writer "commit").exec s₁ with ⟨c', s₂⟩
  have hc' : c' = .error f := by
    have h := congrArg Prod.fst hcm
    rw [exec_control_writer] at h
    simp only [hc] at h
    exact h.symm
  subst hc'
  have hlog₂ : s₂.log = ⟨(s₁.pool .writer).label, "COMMIT", []⟩ :: s₁.log := by
    rw [← upper_commit, ← control_log, hcm]
  have hlabel₂ : (s₂.pool .writer).label = (s₁.pool .writer).label := by
    rw [← control_label "commit" s₁, hcm]
  rcases hrb : (control .writer "rollback").exec s₂ with ⟨c'', s₃⟩
  have hlog₃ : s₃.log = ⟨(s₁.pool .writer).label, "ROLLBACK", []⟩ :: s₂.log := by
    rw [← hlabel₂, ← upper_rollback, ← control_log, hrb]
  refine ⟨{ s₃ with binding := s.binding }, ?_, rfl, ?_⟩
  · simp only [Bool.false_eq_true, if_false, exec_bind, hcm, exec_quietly, hrb, exec_throw, Prod.map, id, checkout,
      modifyPool_binding]
  · rw [← hlog₂, ← hlog₃]

/-- 一番外のトランザクションを始められる状態: 束縛がなく、書き手の接続も確定も失敗しない。 -/
structure Idle (s : Session) : Prop where
  unbound : s.binding = none
  driverOk : s.DriverOk
  commits : ∀ e ∈ (s.pool .writer).failures, e.1 ≠ "commit"

/-- 手順の一番外の試み: 並び `Program.attempt` の文を出し、始められる状態で終わる。 -/
theorem attempt_trace (p : Program) (rollbackOnly : Bool) (hs : s.Idle) :
    ∃ s', (outermost p.run rollbackOnly).exec s = ((p.trace 1 false).2, s') ∧
      s.Grows s' (render s (p.attempt rollbackOnly)) ∧ s'.Idle ∧
      (s'.pool .writer).checkouts = (s.pool .writer).checkouts + 1 := by
  obtain ⟨s', hx, hg, hok, hk⟩ := outermost_stays rollbackOnly hs.driverOk hs.commits (run_trace p 1 false)
  refine ⟨s', hx, hg, ⟨hg.binding.trans hs.unbound, hok, ?_⟩, hk⟩
  rw [hg.failures]
  exact hs.commits

/-! ## やり直し -/

theorem Grows.pauses (h : s.Grows s' es) (ps : List Value) : s.Grows { s' with pauses := ps } es :=
  ⟨h.log, h.binding, h.dialect, h.label, h.failures⟩

/-- やり直しの決まりに従う試みの列は、どの試みも始められる状態から同じ結果と同じ並び `ts` を出すなら、
その並びを一回以上繰り返す。やり直しの決まりの導出についての帰納法。 -/
theorem Retries.repeats {α : Type} {fn : Run α} {rollbackOnly retry : Bool} {limit delay : Int} {n : Nat}
    {r : Except Fault α × Session} {ts : List Token} {res : Except Fault α}
    (h : Retries fn rollbackOnly retry limit delay n s r)
    (hstep : ∀ σ : Session, σ.Idle → ∃ σ', (outermost fn rollbackOnly).exec σ = (res, σ') ∧
      σ.Grows σ' (render σ ts) ∧ σ'.Idle) :
    s.Idle → ∃ m, 0 < m ∧ s.Grows r.2 (List.replicate m (render s ts)).flatten ∧ r.2.Idle := by
  -- 最後の試みの効果は、試みの結果によらず `hstep` のもの
  have once : ∀ {σ σ' : Session} {e : Except Fault α}, (outermost fn rollbackOnly).exec σ = (e, σ') → σ.Idle →
      ∃ m, 0 < m ∧ σ.Grows σ' (List.replicate m (render σ ts)).flatten ∧ σ'.Idle := by
    intro σ σ' e hx hσ
    obtain ⟨σ'', hx', hg, hi⟩ := hstep σ hσ
    rw [hx] at hx'
    cases hx'
    exact ⟨1, Nat.one_pos, by simpa using hg, hi⟩
  induction h with
  | done hx => exact once hx
  | stop hx _ => exact once hx
  | unclassified hx _ _ _ => exact once hx
  | unprintable hx _ _ _ _ => exact once hx
  | again hx _ _ _ _ _ ih =>
    intro hs
    obtain ⟨σ', hx', hg, hi⟩ := hstep _ hs
    rw [hx] at hx'
    cases hx'
    -- 待ちの記録は記録にも束縛にも溜まりにも触れない
    obtain ⟨m, hm, hg', hi'⟩ := ih ⟨hi.unbound, hi.driverOk, hi.commits⟩
    refine ⟨m + 1, Nat.succ_pos m, ((hg.pauses _).trans hg').of_eq ?_, hi'⟩
    rw [List.replicate_succ, List.flatten_cons]
    congr 3
    exact hg.render ts

/-- 束縛のない `transaction` は、上限と待ち時間が整数なら、一番外の試みの並びを一回以上繰り返す。 -/
theorem transaction_repeats (p : Program) (opts : TransactionOptions) {limit delay : Int} (hs : s.Idle)
    (hlimit : opts.limitWith s.settings = .int limit) (hdelay : opts.delayWith s.settings = .int delay) :
    ∃ m, 0 < m ∧ s.Grows ((transaction p.run opts).exec s).2
      (List.replicate m (render s (p.attempt opts.rollbackOnly.truthy))).flatten := by
  have hstep : ∀ σ : Session, σ.Idle → ∃ σ', (outermost p.run opts.rollbackOnly.truthy).exec σ =
      ((p.trace 1 false).2, σ') ∧ σ.Grows σ' (render σ (p.attempt opts.rollbackOnly.truthy)) ∧ σ'.Idle := by
    intro σ hσ
    obtain ⟨σ', hx, hg, hi, -⟩ := attempt_trace p opts.rollbackOnly.truthy hσ
    exact ⟨σ', hx, hg, hi⟩
  obtain ⟨m, hm, hg, -⟩ := (transaction_retries hs.unbound p.run opts hlimit hdelay).repeats hstep hs
  exact ⟨m, hm, hg⟩

/-! ## 入れ子のトランザクションの法則 -/

/-- 入れ子のトランザクションの文の並びの法則。
どの手順も、どの深さ `k` の束縛の中でも、文法 `Body k` に従う文を出し、一番外の試みの並びは文法 `Attempt`
に従う。書き手の接続が失敗しなければ、深さ `k` の束縛の中の手順は `Program.trace` の結果を返し（深さを
読めば `k`）、その並びの文だけを束縛した書き手の接続に出して、新しく接続を借りず、束縛を元のまま残す。
確定も失敗しなければ、一番外の試みは書き手から接続を一つ借りて `Program.attempt` の並びを出し、
`transaction` はそれを一回以上繰り返す。一歩ごとには、どの呼び出しについても、保存点は呼び出しが失敗したか
巻き戻す指定があるときに限り `ROLLBACK TO SAVEPOINT` を出し、一番外の試みは呼び出しが値を返し巻き戻す指定も
ないときに限り `COMMIT` を出す。失敗した `COMMIT` のあとには `ROLLBACK` が、失敗した `RELEASE SAVEPOINT` の
あとには `ROLLBACK TO SAVEPOINT` と `RELEASE SAVEPOINT` が続き、最初の失敗が出る。 -/
theorem nested_transaction_grammar :
    (∀ (p : Program) (k : Nat) (ro : Bool), Body k (p.trace k ro).1) ∧
    (∀ (p : Program) (rollbackOnly : Bool), Attempt (p.attempt rollbackOnly)) ∧
    (∀ (p : Program) (k : Nat) (ro : Bool) (s : Session), s.binding = some ⟨k, ro⟩ → s.DriverOk →
      ∃ s', p.run.exec s = ((p.trace k ro).2, s') ∧ s.Stays s' (render s (p.trace k ro).1)) ∧
    (∀ (p : Program) (rollbackOnly : Bool) (s : Session), s.Idle →
      ∃ s', (outermost p.run rollbackOnly).exec s = ((p.trace 1 false).2, s') ∧
        s.Grows s' (render s (p.attempt rollbackOnly)) ∧ s'.Idle ∧
        (s'.pool .writer).checkouts = (s.pool .writer).checkouts + 1) ∧
    (∀ (p : Program) (opts : TransactionOptions) (limit delay : Int) (s : Session), s.Idle →
      opts.limitWith s.settings = .int limit → opts.delayWith s.settings = .int delay →
      ∃ m, 0 < m ∧ s.Grows ((transaction p.run opts).exec s).2
        (List.replicate m (render s (p.attempt opts.rollbackOnly.truthy))).flatten) ∧
    (∀ {α : Type} (fn : Run α) (r : Except Fault α) (ts : List Token) (outer : Binding) (rollbackOnly : Bool)
      (s : Session), s.DriverOk →
      (∀ σ : Session, σ.binding = some ⟨outer.depth + 1, false⟩ → σ.DriverOk →
        ∃ σ', fn.exec σ = (r, σ') ∧ σ.Stays σ' (render σ ts)) →
      ∃ s', (savepoint outer fn rollbackOnly).exec s = (r, s') ∧
        s.Stays s' (render s (.savepoint (outer.depth + 1) :: ts ++
          savepointEnd (outer.depth + 1) (r.isOk && !rollbackOnly)))) ∧
    (∀ {α : Type} (fn : Run α) (r : Except Fault α) (ts : List Token) (rollbackOnly : Bool) (s : Session),
      s.DriverOk → (∀ e ∈ (s.pool .writer).failures, e.1 ≠ "commit") →
      (∀ σ : Session, σ.binding = some ⟨1, false⟩ → σ.DriverOk →
        ∃ σ', fn.exec σ = (r, σ') ∧ σ.Stays σ' (render σ ts)) →
      ∃ s', (outermost fn rollbackOnly).exec s = (r, s') ∧
        s.Grows s' (render s (.begin :: ts ++ [attemptEnd (r.isOk && !rollbackOnly)])) ∧ s'.DriverOk ∧
        (s'.pool .writer).checkouts = (s.pool .writer).checkouts + 1) ∧
    (∀ {α : Type} (fn : Run α) (v : α) (c : String) (f : Fault) (s s₁ : Session),
      (∀ e ∈ (s.pool .writer).failures, e.1 ≠ "begin") → fn.exec (begun s) = (.ok v, s₁) →
      (s₁.pool .writer).failures.find? (·.1 == "commit") = some (c, f) →
      ∃ s', (outermost fn false).exec s = (.error f, s') ∧ s'.binding = s.binding ∧
        s'.log = ⟨(s₁.pool .writer).label, "ROLLBACK", []⟩ :: ⟨(s₁.pool .writer).label, "COMMIT", []⟩ :: s₁.log) ∧
    (∀ {α : Type} (fn : Run α) (outer : Binding) (u : Value) (v : α) (f : Fault)
      (rest : List (Except Fault Value)) (s s₀ s₁ : Session),
      (execute .writer (s.dialect.savepoint (savepointName (outer.depth + 1))) []).exec s = (.ok u, s₀) →
      fn.exec { s₀ with binding := some ⟨outer.depth + 1, false⟩ } = (.ok v, s₁) →
      (s₁.pool .writer).queue = .error f :: rest → (∀ x ∈ rest, x.isOk = true) →
      (∀ e ∈ (s₁.pool .writer).failures, e.1 ≠ "begin" ∧ e.1 ≠ "rollback") →
      ∃ s', (savepoint outer fn false).exec s = (.error f, s') ∧ s'.binding = s.binding ∧
        s'.log = ([Token.release (outer.depth + 1), .rollbackTo (outer.depth + 1), .release (outer.depth + 1)].map
          (Token.entry s.dialect (s₁.pool .writer).label)).reverse ++ s₁.log) :=
  ⟨trace_body, attempt_grammar, run_trace, fun p rollbackOnly _ hs => attempt_trace p rollbackOnly hs,
    fun p opts _ _ _ hs hlimit hdelay => transaction_repeats p opts hs hlimit hdelay,
    fun _ _ _ outer rollbackOnly _ hok hfn => savepoint_stays outer rollbackOnly hok hfn,
    fun _ _ _ rollbackOnly _ hok hcommit hfn => outermost_stays rollbackOnly hok hcommit hfn,
    fun _ _ _ _ _ _ hbegin hfn hc => commit_failure_rolls_back hbegin hfn hc,
    fun _ _ _ _ _ _ _ _ _ hsp hfn hq hrest hfail => release_failure_rolls_back hsp hfn hq hrest hfail⟩

/-- 利用者を一人足す文。 -/
def insertUser : String := "INSERT INTO users (name) VALUES (?)"

/-- 外で一人足し、入れ子の `transaction` の中でもう一人足してから失敗し、その失敗を受け止めて深さを読む。 -/
def innerFailure : Program :=
  .seq (.statement insertUser true)
    (.seq
      (.catching (.transaction false (.seq (.statement insertUser true) (.raise (Fault.other "ValueError" "inner")))))
      .depth)

/-- 中の失敗は保存点まで戻すだけで、外の試みは確定し、深さは 1 と読める。 -/
theorem inner_failure_rolled_back_to_savepoint :
    (default : Session).Idle ∧
      ∃ s', (outermost innerFailure.run false).exec default = (.ok [1], s') ∧
        (default : Session).Grows s' (render default
          [.begin, .statement insertUser, .savepoint 2, .statement insertUser, .rollbackTo 2, .release 2, .commit]) ∧
        s'.Idle ∧ (s'.pool .writer).checkouts = 1 := by
  have hidle : (default : Session).Idle :=
    ⟨rfl, ⟨fun _ h => (List.not_mem_nil h).elim, fun _ h => (List.not_mem_nil h).elim⟩,
      fun _ h => (List.not_mem_nil h).elim⟩
  exact ⟨hidle, nested_transaction_grammar.2.2.2.1 innerFailure false default hidle⟩

end Session

end DataAccess
