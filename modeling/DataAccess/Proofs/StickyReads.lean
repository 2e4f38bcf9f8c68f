import DataAccess.Proofs.CallFrames
/-!
# 書き手に寄せる読み取り

一つの要求の区切りの中で、束縛のない読み取りの文が書き手へ行くのは、同じ区切りでそれまでに一番外の
トランザクションが確定し、そのとき設定が書き手に寄せることを求めていたときだけ。

* 一番外の試みは、値を返し、巻き戻すだけの指定がなく、設定が求めるときだけ書き手に寄せる印を立てる
  （`sticks_outermost`）。失敗した試みは印に触れないので、やり直しの繰り返しも同じ決まりに従う。
* 束縛の中のトランザクション（保存点）と書き手での読み取りは、中身が束縛の中で印に触れなければ、
  印に触れない。
* 要求の区切りは空の要求の状態から始め、終われば成否にかかわらず元の要求の状態に戻す。
* モデルの操作とトランザクションを組み合わせた手順 `Work` について、走らせた後の印を、手順の中で
  確定した一番外のトランザクション（`Work.Commits`）で言う（`Work.sticky_run`）。
-/

namespace DataAccess

/-- 確定のあとの読み取りを書き手に寄せるか: 寄せる指定があり、寄せる期間が正。 -/
def Settings.sticksToWriter (st : Settings) : Bool :=
  st.useWriterAfterTransaction && decide (st.writerStickyDurationMs > 0)

namespace Run

variable {α β : Type}

/-- 束縛のある状態から走らせれば、設定と書き手に寄せる印を変えない。 -/
def StaysBound (x : Run α) : Prop := ∀ s, s.binding.isSome → Frame.sticky.rel s (x.exec s).2

/-- 結果と終わりの状態 `o` が、始めの状態 `s` から見た書き手に寄せる印の決まりに従う: 設定は変わらず、
印を立てるのは、値を返し、確定の指定 `c` があり、設定が求めるときだけ。 -/
def StickyEnd (c : Bool) (s : Session) (o : Except Fault α × Session) : Prop :=
  o.2.settings = s.settings ∧ o.2.request.sticky = (s.request.sticky || (o.1.isOk && c && s.settings.sticksToWriter))

/-- 計算は、どの状態から走らせても印の決まりに従う。 -/
def Sticks (c : Bool) (x : Run α) : Prop := ∀ s, StickyEnd c s (x.exec s)

theorem StaysBound.rel_of_exec {x : Run α} {s t : Session} {r : Except Fault α} (hx : x.StaysBound)
    (hs : s.binding.isSome) (h : x.exec s = (r, t)) : Frame.sticky.rel s t := by
  have h' := hx s hs
  rw [h] at h'
  exact h'

theorem StaysBound.bind {x : Run α} {f : α → Run β} (hx : x.StaysBound) (hf : ∀ a, Frame.sticky.Holds (f a)) :
    (x >>= f).StaysBound := fun s hs => by
  rw [exec_bind]
  rcases hxs : x.exec s with ⟨r, t⟩
  have h := hx.rel_of_exec hs hxs
  cases r with
  | ok a => exact Frame.sticky.trans h (hf a t)
  | error e => exact h

theorem StaysBound.tryCatch {x : Run α} {h : Fault → Run α} (hx : x.StaysBound)
    (hh : ∀ e, Frame.sticky.Holds (h e)) : (tryCatch x h).StaysBound := fun s hs => by
  rw [exec_tryCatch]
  rcases hxs : x.exec s with ⟨r, t⟩
  have h := hx.rel_of_exec hs hxs
  cases r with
  | ok a => exact h
  | error e => exact Frame.sticky.trans h (hh e t)

/-- 設定と印を変えずに終わるなら、失敗でも、確定を数えない値でも、決まりに従う。 -/
theorem stickyEnd_of_rel {c : Bool} {s t : Session} {r : Except Fault α} (h : Frame.sticky.rel s t)
    (hr : (r.isOk && c && s.settings.sticksToWriter) = false) : StickyEnd c s (r, t) :=
  ⟨h.1, by simp only [h.2, hr, Bool.or_false]⟩

theorem stickyEnd_error {c : Bool} {s t : Session} {e : Fault} (h : Frame.sticky.rel s t) :
    StickyEnd c s ((.error e : Except Fault α), t) :=
  stickyEnd_of_rel h (by simp [Except.isOk, Except.toBool])

theorem StickyEnd.of_rel {c : Bool} {s t : Session} {o : Except Fault α × Session} (h : Frame.sticky.rel s t)
    (ho : StickyEnd c t o) : StickyEnd c s o :=
  ⟨ho.1.trans h.1, by rw [ho.2, h.1, h.2]⟩

theorem Sticks.holds_bind {c : Bool} {x : Run α} {f : α → Run β} (hx : Frame.sticky.Holds x)
    (hf : ∀ a, Sticks c (f a)) : Sticks c (x >>= f) := fun s => by
  rw [exec_bind]
  rcases hxs : x.exec s with ⟨r, t⟩
  have h := hx.rel_of_exec hxs
  cases r with
  | ok a => exact (hf a t).of_rel h
  | error e => exact stickyEnd_error h

theorem Sticks.tryCatch {c : Bool} {x : Run α} {h : Fault → Run α} (hx : Sticks c x) (hh : ∀ e, Sticks c (h e)) :
    Sticks c (tryCatch x h) := fun s => by
  have hs := hx s
  rw [exec_tryCatch]
  rcases hxs : x.exec s with ⟨r, t⟩
  rw [hxs] at hs
  cases r with
  | ok a => exact hs
  | error e =>
    -- 失敗した計算は印を立てていないので、受け止めた側の決まりがそのまま残る
    have ht : Frame.sticky.rel s t := ⟨hs.1, by simpa [Except.isOk, Except.toBool] using hs.2⟩
    exact (hh e t).of_rel ht

theorem Sticks.throwIf {c : Bool} {p : Prop} [Decidable p] {e : Fault} {y : Run α} (hy : Sticks c y) :
    Sticks c (if p then (throw e : Run PUnit) >>= fun _ => y else y) := by
  split
  · exact Sticks.holds_bind (Frame.holds_throw e) fun _ => hy
  · exact hy

end Run

namespace Session

open Run DataAccess.Frame

variable {α : Type}

/-! ## トランザクション -/

/-- 一番外の試みは、値を返し、巻き戻すだけの指定がなく、設定が求めるときだけ印を立てる。呼び出しが
束縛の中で印に触れなければ、`BEGIN`、`COMMIT`、`ROLLBACK` とその失敗も印に触れない。 -/
theorem sticks_outermost {fn : Run α} (hfn : fn.StaysBound) (rb : Bool) : Sticks (!rb) (outermost fn rb) := by
  intro s
  have hctl : ∀ verb, sticky.Holds (control .writer verb) := holds_control tolerant_sticky .writer
  unfold outermost
  rw [exec_bind_ok (exec_acquire _ _), exec_bind]
  rcases hbegin : (control .writer "begin").exec
    (s.modifyPool .writer fun p => { p with connected := true, checkouts := p.checkouts + 1 }) with ⟨c, s₁⟩
  have h₁ : sticky.rel s s₁ := sticky.trans (tolerant_sticky.pool s .writer _) ((hctl "begin").rel_of_exec hbegin)
  cases c with
  | error e => exact stickyEnd_error h₁
  | ok _ =>
    dsimp only
    rw [exec_bind, exec_withBinding, exec_bind, exec_tryCatch, exec_bind]
    rcases hf : fn.exec { s₁ with binding := some ⟨1, false⟩ } with ⟨r, s₂⟩
    -- 呼び出しは束縛の中で走るので、印に触れない
    have hfn₁ : sticky.rel { s₁ with binding := some ⟨1, false⟩ } s₂ := hfn.rel_of_exec rfl hf
    have h₂ : sticky.rel s s₂ := sticky.trans h₁ hfn₁
    cases r with
    | error e =>
      -- 呼び出しが失敗すれば巻き戻して同じ失敗を投げる
      rcases hrb : (control .writer "rollback").exec s₂ with ⟨c, s₃⟩
      have h₃ := sticky.trans h₂ ((hctl "rollback").rel_of_exec hrb)
      simp only [exec_bind, exec_quietly, hrb, exec_throw, Prod.map, id]
      exact stickyEnd_error h₃
    | ok v =>
      cases rb with
      | true =>
        rcases hrb : (control .writer "rollback").exec s₂ with ⟨c, s₃⟩
        have h₃ := sticky.trans h₂ ((hctl "rollback").rel_of_exec hrb)
        cases c with
        | ok _ =>
          simp only [exec_bind, hrb, exec_earlyReturn, if_true, EarlyReturn.runK, exec_pure, Prod.map, id, exec_get,
            Bool.false_and, Bool.false_eq_true, if_false]
          exact stickyEnd_of_rel h₃ (by simp)
        | error f =>
          -- 失敗した巻き戻しのあと、受け止めた側でもう一度巻き戻す
          rcases hrb' : (control .writer "rollback").exec s₃ with ⟨c', s₄⟩
          have h₄ := sticky.trans h₃ ((hctl "rollback").rel_of_exec hrb')
          simp only [exec_bind, if_true, hrb, exec_quietly, hrb', exec_throw, Prod.map, id]
          exact stickyEnd_error h₄
      | false =>
        rcases hc : (control .writer "commit").exec s₂ with ⟨c, s₃⟩
        have h₃ := sticky.trans h₂ ((hctl "commit").rel_of_exec hc)
        cases c with
        | ok _ =>
          -- 確定したら、設定が求めるときだけ印を立てる
          have hcond : (s₃.settings.useWriterAfterTransaction && decide (s₃.settings.writerStickyDurationMs > 0)) =
              s.settings.sticksToWriter := by
            rw [h₃.1]
            rfl
          simp only [Bool.false_eq_true, if_false, exec_bind, hc, exec_earlyReturn, EarlyReturn.runK, exec_pure,
            Prod.map, id, exec_get, Bool.true_and, hcond]
          cases hst : s.settings.sticksToWriter
          · simp only [Bool.false_eq_true, if_false, exec_pure]
            exact stickyEnd_of_rel h₃ (by simp [hst])
          · simp only [if_true]
            rw [exec_bind_ok (exec_set _ _)]
            exact ⟨h₃.1, by simp [hst, Except.isOk, Except.toBool]⟩
        | error f =>
          rcases hrb : (control .writer "rollback").exec s₃ with ⟨c', s₄⟩
          have h₄ := sticky.trans h₃ ((hctl "rollback").rel_of_exec hrb)
          simp only [Bool.false_eq_true, if_false, exec_bind, hc, exec_quietly, hrb, exec_throw, Prod.map, id]
          exact stickyEnd_error h₄

theorem sticks_attempt {fn : Run α} (hfn : fn.StaysBound) (rb retry : Bool) (limit delay : Value) (fuel : Nat) :
    ∀ n, Sticks (!rb) (transaction.attempt fn rb retry limit delay n fuel) := by
  induction fuel with
  | zero => exact fun _ => sticks_outermost hfn rb
  | succ fuel ih =>
    intro n
    unfold transaction.attempt
    refine (sticks_outermost hfn rb).tryCatch fun e => Sticks.holds_bind holds_get fun s => ?_
    dsimp only
    -- やり直さない三つの場合は失敗を投げ、残りは待ってから次の試みに移る
    refine Sticks.throwIf <| Sticks.holds_bind (holds_liftExcept _) fun _ => Sticks.throwIf <|
      Sticks.holds_bind (holds_liftExcept _) fun _ => Sticks.throwIf ?_
    exact Sticks.holds_bind (holds_liftExcept _) fun _ => Sticks.holds_bind (holds_liftExcept _) fun _ =>
      Sticks.holds_bind (holds_liftExcept _) fun _ => Sticks.holds_bind (holds_modify fun _ => ⟨rfl, rfl⟩)
        fun _ => ih (n + 1)

theorem sticky_withBinding {x : Run α} (hx : x.StaysBound) (b : Binding) : sticky.Holds (withBinding (some b) x) :=
  fun s => by
    rw [exec_withBinding]
    exact hx { s with binding := some b } rfl

theorem sticky_savepoint {fn : Run α} (hfn : fn.StaysBound) (outer : Binding) (rb : Bool) :
    sticky.Holds (savepoint outer fn rb) := by
  unfold savepoint quietly
  refine holds_get.bind fun _ => (holds_execute tolerant_sticky _ _ _).bind fun _ => sticky_withBinding ?_ _
  -- 早く返す値は、受け止めの外で取り出す
  refine ((hfn.bind fun r => ?_).tryCatch fun e => ?_).bind fun e => ?_
  · dsimp only
    split
    · exact (holds_execute tolerant_sticky _ _ _).bind fun _ => (holds_execute tolerant_sticky _ _ _).bind
        fun _ => holds_of_state fun _ => rfl
    · exact (holds_execute tolerant_sticky _ _ _).bind fun _ => holds_of_state fun _ => rfl
  · exact (((holds_execute tolerant_sticky _ _ _).bind fun _ => (holds_execute tolerant_sticky _ _ _).bind
      fun _ => holds_pure _).tryCatch fun _ => holds_pure _).bind fun _ => (holds_throw e).bind
        fun _ => holds_of_state fun _ => rfl
  · unfold EarlyReturn.runK
    cases e <;> exact holds_pure _

theorem staysBound_transaction {fn : Run α} (hfn : fn.StaysBound) (opts : TransactionOptions) :
    (transaction fn opts).StaysBound := fun s hs => by
  unfold transaction
  rw [exec_bind_ok (exec_get _)]
  dsimp only
  split
  · next b hb =>
    split
    · exact sticky.refl s
    · exact sticky_savepoint hfn b _ s
  · next hb => simp [hb] at hs

/-- 束縛のないトランザクションは試みを繰り返すので、一番外の試みと同じ決まりに従う。 -/
theorem sticks_transaction {fn : Run α} (hfn : fn.StaysBound) (opts : TransactionOptions) {s : Session}
    (hb : s.binding = none) : StickyEnd (!opts.rollbackOnly.truthy) s ((transaction fn opts).exec s) := by
  rw [exec_transaction_unbound hb]
  exact sticks_attempt hfn _ _ _ _ _ _ s

theorem sticky_withWriter {fn : Run α} (hfn : fn.StaysBound) : sticky.Holds (withWriter fn) := by
  unfold withWriter
  refine holds_get.bind fun s => ?_
  split
  · exact sticky_withBinding hfn _
  · exact (holds_modify fun t => tolerant_sticky.pool t _ _).bind fun _ => sticky_withBinding hfn _

theorem keeps_inScope {β : Type} {body : Run β} (hbody : body.Keeps) : (inScope body).Keeps := fun s => by
  rw [exec_inScope]
  exact hbody { s with request := {} }

/-! ## 手順 -/

/-- モデルの操作とトランザクションを組み合わせた手順。 -/
inductive Work where
  /-- モデルの操作を一つ呼ぶ。 -/
  | call (c : ModelCall)
  /-- 二つを順に走らせる。 -/
  | seq (p q : Work)
  /-- トランザクションの中で走らせる。 -/
  | transaction (opts : TransactionOptions) (body : Work)
  /-- 書き手での読み取りの中で走らせる。 -/
  | withWriter (body : Work)
  /-- 新しい要求の区切りの中で走らせる。 -/
  | scope (body : Work)
  /-- 走らせて、出てきた失敗を受け止める。 -/
  | catching (body : Work)

namespace Work

/-- 手順を走らせる。 -/
def run : Work → Run Unit
  | call c => do
    let _ ← c.run
  | seq p q => do
    p.run
    q.run
  | transaction opts body => Session.transaction body.run opts
  | withWriter body => Session.withWriter body.run
  | scope body => inScope body.run
  | catching body => tryCatch body.run fun _ => pure ()

/-- 手順 `w` を状態 `s` から走らせる間に、同じ要求の区切りで一番外のトランザクションが確定し、そのとき
設定が書き手に寄せることを求めていたか。確定は、呼び出しが（やり直しの後でも）値を返し、巻き戻すだけの
指定がなく、`COMMIT` が通ったこと、つまりトランザクションが値を返したこと。 -/
def Commits : Work → Session → Prop
  | call _, _ => False
  | seq p q, s => p.Commits s ∨ ∃ t, p.run.exec s = (.ok (), t) ∧ q.Commits t
  | transaction opts body, s => s.binding = none ∧ ((Session.transaction body.run opts).exec s).1.isOk = true ∧
      opts.rollbackOnly.truthy = false ∧ s.settings.sticksToWriter = true
  | withWriter _, _ => False
  | scope _, _ => False
  | catching body, s => body.Commits s

theorem keeps_run : ∀ w : Work, w.run.Keeps
  | call c => (keeps_modelCall c).bind fun _ => keeps_pure _
  | seq p q => (keeps_run p).bind fun _ => keeps_run q
  | transaction opts body => keeps_transaction body.run opts
  | withWriter body => keeps_withWriter body.run
  | scope body => keeps_inScope (keeps_run body)
  | catching body => (keeps_run body).tryCatch fun _ => keeps_pure _

theorem not_commits_of_bound : ∀ (w : Work) (s : Session), s.binding.isSome → ¬ w.Commits s
  | call _, _, _ => id
  | seq p q, s, hs => by
    rintro (h | ⟨t, hp, hq⟩)
    · exact not_commits_of_bound p s hs h
    · have ht : t.binding = s.binding := by
        have h := keeps_run p s
        rwa [hp] at h
      exact not_commits_of_bound q t (ht ▸ hs) hq
  | transaction _ _, s, hs => fun h => by simp [h.1] at hs
  | withWriter _, _, _ => id
  | scope _, _, _ => id
  | catching body, s, hs => not_commits_of_bound body s hs

/-- 束縛の中では確定しないので、印の決まりを満たす手順は束縛の中で印に触れない。 -/
theorem staysBound_of_sticky {w : Work} (h : ∀ s, (w.run.exec s).2.settings = s.settings ∧
    ((w.run.exec s).2.request.sticky = true ↔ s.request.sticky = true ∨ w.Commits s)) : w.run.StaysBound :=
  fun s hs => ⟨(h s).1, Bool.eq_iff_iff.2 ((h s).2.trans (or_iff_left (not_commits_of_bound w s hs)))⟩

/-- 書き手に寄せる印の決まり: 手順の後で印が立っているのは、前から立っていたか、手順の中で一番外の
トランザクションが確定したとき。設定は変わらない。 -/
theorem sticky_run (w : Work) : ∀ s : Session, (w.run.exec s).2.settings = s.settings ∧
    ((w.run.exec s).2.request.sticky = true ↔ s.request.sticky = true ∨ w.Commits s) := by
  induction w with
  | call c =>
    intro s
    have h := ((holds_modelCall tolerant_sticky c).bind fun _ => holds_pure ()) s
    rw [run]
    exact ⟨h.1, by rw [h.2]; simp [Commits]⟩
  | seq p q ihp ihq =>
    intro s
    simp only [run, Commits]
    rw [exec_bind]
    rcases hp : p.run.exec s with ⟨r, t⟩
    have hp' := ihp s
    rw [hp] at hp'
    cases r with
    | error e => exact ⟨hp'.1, by simp [hp'.2]⟩
    | ok u =>
      have hq := ihq t
      refine ⟨hq.1.trans hp'.1, ?_⟩
      rw [hq.2, hp'.2]
      simp [or_assoc]
  | transaction opts body ih =>
    intro s
    have hb := staysBound_of_sticky ih
    simp only [run, Commits]
    cases hs : s.binding with
    | none =>
      have h := sticks_transaction hb opts hs
      refine ⟨h.1, ?_⟩
      rw [h.2]
      simp [and_assoc]
    | some b =>
      have h := staysBound_transaction hb opts s (by simp [hs])
      refine ⟨h.1, ?_⟩
      rw [h.2]
      simp
  | withWriter body ih =>
    intro s
    have h := sticky_withWriter (staysBound_of_sticky ih) s
    simp only [run]
    exact ⟨h.1, by rw [h.2]; simp [Commits]⟩
  | scope body ih =>
    intro s
    simp only [run]
    rw [exec_inScope]
    exact ⟨(ih _).1, by simp [Commits]⟩
  | catching body ih =>
    intro s
    simp only [run, Commits]
    have h := ih s
    rw [exec_tryCatch]
    rcases hx : body.run.exec s with ⟨r, t⟩
    rw [hx] at h
    -- 受け止めた失敗も値も、状態は本体の終わりのまま
    cases r <;> exact h

end Work

/-- 束縛のない読み取りの文は、書き手に寄せる印が立っているときだけ書き手へ行く。 -/
theorem route_read_writer_iff {t : Session} (hb : t.binding = none) :
    ((route false).exec t).1 = .ok .writer ↔ t.request.sticky = true := by
  rw [exec_route, destination, hb]
  cases t.request.sticky <;> simp

theorem exec_catching (w : Work) (s : Session) : ∃ t, (Work.catching w).run.exec s = (.ok (), t) := by
  simp only [Work.run]
  rw [exec_tryCatch]
  rcases w.run.exec s with ⟨r, t⟩
  cases r <;> exact ⟨t, rfl⟩

end Session

open Session Run in
/-- 書き手に寄せる読み取り: 束縛のない状態から、モデルの操作とトランザクションを組み合わせたどの手順を
走らせても、その後の束縛のない読み取りの文が書き手へ行くのは、書き手に寄せる印が前から立っていたか、
手順の中で一番外のトランザクションが確定し、そのとき設定が書き手に寄せることを求めていたときだけ。
巻き戻したか失敗したトランザクション、巻き戻すだけの指定、保存点、別の要求の区切りの中の確定は印を
立てない。新しい要求の区切りは印のない状態から始まり、区切りの中の読み取りは区切りの中の確定だけに従い、
区切りを出れば元の要求の状態に戻る。 -/
theorem reads_go_to_writer_iff_committed :
    (∀ (w : Work) (s : Session), s.binding = none →
      (((route false).exec (w.run.exec s).2).1 = .ok .writer ↔ s.request.sticky = true ∨ w.Commits s)) ∧
    (∀ (w : Work) (s : Session), s.binding = none →
      (((inScope ((Work.catching w).run >>= fun _ => route false)).exec s).1 = .ok .writer ↔
        w.Commits { s with request := {} }) ∧
      ((inScope ((Work.catching w).run >>= fun _ => route false)).exec s).2.request = s.request) := by
  refine ⟨fun w s hs => ?_, fun w s hs => ?_⟩
  · have hb : (w.run.exec s).2.binding = none := (Work.keeps_run w s).trans hs
    rw [route_read_writer_iff hb]
    exact (Work.sticky_run w s).2
  · -- 区切りの中の手順は、印のない要求の状態から走る
    obtain ⟨t, ht⟩ := exec_catching w { s with request := {} }
    have hb : t.binding = none := by
      have h := Work.keeps_run (Work.catching w) { s with request := {} }
      rw [ht] at h
      exact h.trans hs
    have hst := (Work.sticky_run (Work.catching w) { s with request := {} }).2
    rw [ht] at hst
    rw [exec_inScope, exec_bind_ok ht]
    refine ⟨?_, rfl⟩
    show ((route false).exec t).1 = .ok .writer ↔ _
    rw [route_read_writer_iff hb, hst]
    simp [Work.Commits]

open Session in
/-- 確定したトランザクションの後の読み取りは書き手へ行き、巻き戻すだけのトランザクションの後は行かない。
書き手に寄せる期間の中で開いた新しい要求の区切りの読み取りも、書き手へ行かない。 -/
theorem commit_sticks_but_rollback_and_new_scope_do_not :
    ((route false).exec ((Work.transaction {} (.call (.find "User" (.list []) {}))).run.exec
        (forumSession [])).2).1 = .ok .writer ∧
    ((route false).exec ((Work.transaction { rollbackOnly := .bool true } (.call (.find "User" (.list []) {}))).run.exec
        (forumSession [])).2).1 ≠ .ok .writer ∧
    ((inScope ((Work.catching (.call (.find "User" (.list []) {}))).run >>= fun _ => route false)).exec
        { forumSession [] with request := { sticky := true } }).1 ≠ .ok .writer := by
  refine ⟨(reads_go_to_writer_iff_committed.1 _ _ rfl).2 (Or.inr ⟨rfl, by decide +kernel, rfl, rfl⟩), fun h => ?_,
    fun h => False.elim ((reads_go_to_writer_iff_committed.2 _ _ rfl).1.1 h)⟩
  rcases (reads_go_to_writer_iff_committed.1 _ _ rfl).1 h with h | ⟨-, -, hrb, -⟩
  · cases h
  · cases hrb

end DataAccess
