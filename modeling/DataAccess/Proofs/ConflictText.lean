import DataAccess.Proofs.Retry
/-!
# 衝突の見分けは失敗の文を読む

一番外のトランザクションは、方言が一時的な衝突と見た失敗でだけやり直す（`Retries`）。方言の見分けは、
再試行の印（`retryable`）が真ならそれで真だが、偽のときも失敗の文を読む。

* ライブラリの失敗で再試行の印が偽なら、見分けは文だけで決まり、失敗することもない
  （`Dialect.conflict_iff_text`）。小文字にした文が競合の決まり文句を含むか、SQLite ならデータベースの
  鍵の文を含むか、MySQL なら文そのものがエラー番号 1213 か 1205 のとき（`LibError.ConflictText`）に限り真。
* だから契約違反や設定の誤りでも、文が呼び出し側の文字列（演算子の名前など）から決まり文句を拾えば
  衝突と見られる。文がそうでなければ、一番外のトランザクションはその失敗でやり直さずに終わる
  （`Session.transaction_stops_on_plain_text`）。
-/

namespace DataAccess

open Fault

/-! ## 語句を含む -/

theorem Fault.occursIn_iff (p : List Char) : ∀ t : List Char, occursIn p t = true ↔ p <:+: t
  | [] => by simp [occursIn, List.isEmpty_iff]
  | c :: cs => by
    simp only [occursIn, Bool.or_eq_true, List.isPrefixOf_iff_prefix, occursIn_iff p cs]
    exact List.infix_cons_iff.symm

theorem Fault.mentions_iff (t p : String) : mentions t p = true ↔ p.toList <:+: t.toList :=
  occursIn_iff p.toList t.toList

/-- 失敗の文が方言 `d` で衝突を表す: 小文字にした文が競合の決まり文句を含むか、SQLite ならデータベースの
鍵の文を含むか、MySQL なら文そのものがエラー番号 1213 か 1205。 -/
def LibError.ConflictText (d : Dialect) (e : LibError) : Prop :=
  (∃ p ∈ conflictPhrases, p.toList <:+: (lowerText e.text).toList) ∨
    (d = .sqlite ∧ ∃ p ∈ ["database is locked", "database table is locked"],
      p.toList <:+: (lowerText e.text).toList) ∨
    (d = .mysql ∧ (e.message = .int 1213 ∨ e.message = .int 1205))

theorem Fault.signalsConflict_lib (e : LibError) :
    (Fault.lib e).signalsConflict = .ok (conflictPhrases.any fun p => mentions (lowerText e.text) p) := rfl

theorem Fault.signalsConflict_lib_iff (e : LibError) (b : Bool) :
    (Fault.lib e).signalsConflict = .ok b ↔
      (b = true ↔ ∃ p ∈ conflictPhrases, p.toList <:+: (lowerText e.text).toList) := by
  have hany : (conflictPhrases.any fun p => mentions (lowerText e.text) p) = true ↔
      ∃ p ∈ conflictPhrases, p.toList <:+: (lowerText e.text).toList := by
    simp only [List.any_eq_true, mentions_iff]
  rw [signalsConflict_lib, Except.ok.injEq, Bool.eq_iff_iff, hany]
  exact Iff.comm

/-! ## 方言ごとの見分け -/

namespace Dialect

section Unmarked

variable {e : LibError}

/-- PostgreSQL は SQLSTATE を持たないライブラリの失敗を、決まり文句だけで見分ける。 -/
theorem postgresql_conflict_lib (hr : e.retryable.truthy = false) :
    Dialect.postgresql.isTransientConflict (.lib e) = (Fault.lib e).signalsConflict := by
  have hnot : (Fault.lib e).isRetryable = false := hr
  simp only [isTransientConflict, sqlstateConflict]
  simp [hnot]
  rfl

/-- MySQL は文がエラー番号 1213 か 1205 なら衝突と見て、ほかは決まり文句で見分ける。 -/
theorem mysql_conflict_lib (hr : e.retryable.truthy = false) :
    (e.message = .int 1213 ∨ e.message = .int 1205) ∧ Dialect.mysql.isTransientConflict (.lib e) = .ok true ∨
      ¬ (e.message = .int 1213 ∨ e.message = .int 1205) ∧
        Dialect.mysql.isTransientConflict (.lib e) = (Fault.lib e).signalsConflict := by
  have hnot : (Fault.lib e).isRetryable = false := hr
  by_cases hm : e.message = .int 1213 ∨ e.message = .int 1205
  · -- 最初の引数（文）がそのエラー番号
    have harg : firstArgument (.lib e) = .int 1213 ∨ firstArgument (.lib e) = .int 1205 := hm
    refine .inl ⟨hm, ?_⟩
    simp only [isTransientConflict]
    rcases harg with h | h <;> rw [h] <;> rfl
  · have hown : ∀ n, firstArgument (.lib e) = .int n → (n == 1213 || n == 1205) = false := by
      intro n hn
      have he : e.message = .int n := hn
      simp only [he, Value.int.injEq] at hm
      simpa using hm
    refine .inr ⟨hm, ?_⟩
    simp only [isTransientConflict]
    split
    · next n hn => simp [hown n hn, hnot]
    · simp [hnot]

/-- SQLite は小文字にした文がデータベースの鍵の文を含めば衝突と見て、ほかは決まり文句で見分ける。 -/
theorem sqlite_conflict_lib (hr : e.retryable.truthy = false) :
    Dialect.sqlite.isTransientConflict (.lib e) =
      if mentions (lowerText e.text) "database is locked" || mentions (lowerText e.text) "database table is locked"
      then .ok true else (Fault.lib e).signalsConflict := by
  have hnot : (Fault.lib e).isRetryable = false := hr
  have hstr : (Fault.lib e).str = .ok e.text := rfl
  have hbind : ∀ f : String → Except Fault Bool, (Except.ok e.text >>= f) = f e.text := fun _ => rfl
  simp only [isTransientConflict, hstr, hbind, pure_bind, hnot, Bool.or_false]
  rfl

end Unmarked

/-- 再試行の印が偽のライブラリの失敗の見分けは、文だけで決まる。衝突と見るのは文が `ConflictText` の
ときに限り、見分けが失敗することはない。 -/
theorem conflict_iff_text (d : Dialect) (e : LibError) (hr : e.retryable.truthy = false) :
    ∃ b, d.isTransientConflict (.lib e) = .ok b ∧ (b = true ↔ e.ConflictText d) := by
  -- 方言ごとに、決まり文句の見分け `signals` に方言が読むものを足す
  obtain ⟨signals, hsignals⟩ : ∃ b, (Fault.lib e).signalsConflict = .ok b := ⟨_, signalsConflict_lib e⟩
  have hiff := (signalsConflict_lib_iff e signals).1 hsignals
  cases d with
  | postgresql =>
    refine ⟨signals, (postgresql_conflict_lib hr).trans hsignals, ?_⟩
    simp [LibError.ConflictText, hiff]
  | mysql =>
    rcases mysql_conflict_lib hr with ⟨hm, hx⟩ | ⟨hm, hx⟩
    · exact ⟨true, hx, by simp [LibError.ConflictText, hm]⟩
    · refine ⟨signals, hx.trans hsignals, ?_⟩
      simp [LibError.ConflictText, hiff, hm]
  | sqlite =>
    rw [sqlite_conflict_lib hr]
    have hlock : (mentions (lowerText e.text) "database is locked" ||
        mentions (lowerText e.text) "database table is locked") = true ↔
        ∃ p ∈ ["database is locked", "database table is locked"], p.toList <:+: (lowerText e.text).toList := by
      simp [mentions_iff]
    split
    · next h => exact ⟨true, rfl, fun _ => .inr (.inl ⟨rfl, hlock.1 h⟩), fun _ => rfl⟩
    · next h =>
      refine ⟨signals, hsignals, ?_⟩
      simp only [LibError.ConflictText, hiff, true_and, reduceCtorEq, false_and, or_false]
      exact (or_iff_left (mt hlock.2 h)).symm

/-- 文が `ConflictText` でなければ、どの方言も衝突と見ない。 -/
theorem not_conflict_of_text {d : Dialect} {e : LibError} (hr : e.retryable.truthy = false)
    (htext : ¬ e.ConflictText d) : d.isTransientConflict (.lib e) = .ok false := by
  obtain ⟨b, hb, hiff⟩ := conflict_iff_text d e hr
  cases b with
  | false => exact hb
  | true => exact absurd (hiff.1 rfl) htext

end Dialect

/-! ## やり直さない失敗 -/

namespace Session

variable {α : Type}

/-- 束縛のない `transaction` の最初の試みが、再試行の印が偽で文が `ConflictText` でないライブラリの
失敗で終われば、やり直さずにその失敗と状態で終わる。 -/
theorem transaction_stops_on_plain_text {s s' : Session} (hb : s.binding = none) (fn : Run α)
    (opts : TransactionOptions) {limit delay : Int} (hlimit : opts.limitWith s.settings = .int limit)
    (hdelay : opts.delayWith s.settings = .int delay) {e : LibError} (hr : e.retryable.truthy = false)
    (hx : (outermost fn opts.rollbackOnly.truthy).exec s = (.error (.lib e), s'))
    (htext : ¬ e.ConflictText s'.dialect) :
    (transaction fn opts).exec s = (.error (.lib e), s') :=
  (transaction_retries hb fn opts hlimit hdelay).unique
    (.stop hx (.inr (.inr (Dialect.not_conflict_of_text hr htext))))

end Session

/-- 再試行の印が偽のライブラリの失敗（契約違反、所有やキーの幅の違反、方針違反、上限超過、設定の誤り）を
方言が一時的な衝突と見るのは、文が `ConflictText` のときに限る。見分けは失敗しない。そうでない文の失敗では、
束縛のない `transaction` は最初の試みの失敗でそのまま終わり、呼び出しをやり直さない。 -/
theorem Dialect.nonretryable_conflict_by_text (e : LibError) (hr : e.retryable.truthy = false) :
    (∀ d : Dialect, d.isTransientConflict (.lib e) = .ok true ↔ e.ConflictText d) ∧
    (∀ d : Dialect, ¬ e.ConflictText d → d.isTransientConflict (.lib e) = .ok false) ∧
    (∀ {α : Type} (s s' : Session) (fn : Run α) (opts : TransactionOptions) (limit delay : Int),
      s.binding = none → opts.limitWith s.settings = .int limit → opts.delayWith s.settings = .int delay →
      ¬ e.ConflictText s'.dialect →
      (Session.outermost fn opts.rollbackOnly.truthy).exec s = (.error (.lib e), s') →
      (Session.transaction fn opts).exec s = (.error (.lib e), s')) := by
  refine ⟨fun d => ?_, fun d => Dialect.not_conflict_of_text hr, ?_⟩
  · obtain ⟨b, hb, hiff⟩ := Dialect.conflict_iff_text d e hr
    rw [hb, Except.ok.injEq]
    exact hiff
  · intro α s s' fn opts limit delay hb hlimit hdelay htext hx
    exact Session.transaction_stops_on_plain_text hb fn opts hlimit hdelay hr hx htext

/-- 演算子の名前に `deadlock detected` を含む比較を拒む契約違反は、どの方言でも一時的な衝突と見られる。
文が決まり文句を含まない契約違反で最初の試みが終われば、`transaction` はその試みそのもの。 -/
theorem Dialect.operator_error_verdicts :
    Dialect.postgresql.isTransientConflict
        (.lib { kind := .contract, message := .str "unsupported operator 'deadlock detected'" }) = .ok true ∧
      Dialect.mysql.isTransientConflict
        (.lib { kind := .contract, message := .str "unsupported operator 'deadlock detected'" }) = .ok true ∧
      Dialect.sqlite.isTransientConflict
        (.lib { kind := .contract, message := .str "unsupported operator 'deadlock detected'" }) = .ok true ∧
      (Session.transaction (throw (.lib { kind := .contract, message := .str "unsupported operator 'foo'" }) :
          Run Unit) {}).exec default =
        (Session.outermost (throw (.lib { kind := .contract, message := .str "unsupported operator 'foo'" }) :
          Run Unit) false).exec default := by
  -- 決まり文句 `deadlock detected` は小文字にした文に現れる
  have hdeadlock : ∃ p ∈ conflictPhrases,
      p.toList <:+: (lowerText "unsupported operator 'deadlock detected'").toList :=
    ⟨"deadlock detected", by simp [conflictPhrases], (mentions_iff _ _).1 (by decide)⟩
  -- `foo` の文はどの方言の衝突の文でもない
  have hfoo : ∀ d, ¬ LibError.ConflictText d { kind := .contract, message := .str "unsupported operator 'foo'" } := by
    rintro d (⟨p, hp, hin⟩ | ⟨-, p, hp, hin⟩ | ⟨-, hm | hm⟩)
    · exact absurd (List.any_eq_true.2 ⟨p, hp, (mentions_iff _ _).2 hin⟩) (by decide)
    · exact absurd (List.any_eq_true.2 ⟨p, hp, (mentions_iff _ _).2 hin⟩) (by decide)
    · cases hm
    · cases hm
  refine ⟨((Dialect.nonretryable_conflict_by_text _ rfl).1 _).2 (.inl hdeadlock),
    ((Dialect.nonretryable_conflict_by_text _ rfl).1 _).2 (.inl hdeadlock),
    ((Dialect.nonretryable_conflict_by_text _ rfl).1 _).2 (.inl hdeadlock), ?_⟩
  obtain ⟨s', hx⟩ : ∃ s',
      (Session.outermost (throw (.lib { kind := .contract, message := .str "unsupported operator 'foo'" }) :
        Run Unit) false).exec default =
      (.error (.lib { kind := .contract, message := .str "unsupported operator 'foo'" }), s') := ⟨_, rfl⟩
  rw [hx]
  exact (Dialect.nonretryable_conflict_by_text _ rfl).2.2 default s' _ {} 3 200 rfl rfl rfl (hfoo _) hx

end DataAccess
