import DataAccess.Proofs.WriteKeys
import DataAccess.Proofs.Subqueries
/-!
# 拒む失敗

契約違反（所有の違反とキーの幅の違反を含む）と方針違反を拒む失敗と呼ぶ。ライブラリは呼び出しの形と
書き込みの方針を確かめてこれを投げるので、確かめは文を送る前に済んでいるはず。それを計算の形ごとの
規則で組み立てる。

* `NoRefusal x`: 失敗しうる結果 `x` の失敗は拒む失敗ではない。値の演算、目録のメタデータ、行からの
  レコード作り、行のキーの失敗は、どれも外の種類の失敗（`TypeError`、`KeyError` など）。
* `Session.Ready`: 登録された中継ぎはそのまま渡すだけで、ドライバに予約された失敗の応答に拒む失敗はない。
* `RefusesUpfront P x`: 条件 `P` を満たし準備のできた状態から走らせて拒む失敗で終わるなら、文を一つも
  送っておらず、関連の覚えも変えていない。`NeverRefuses P x`: 拒む失敗では終わらない。どちらも中継ぎの
  登録、束縛、設定、ドライバの正直さを保つ（`Frame.guard`）。

文を走らせる一歩（`run`）は、方針が拒むなら状態に触れずに拒み、拒まないなら正直なドライバの応答を返す。
だから前もって拒み、方針が書き込みを認める状態（`Admits`）からは拒まない。方針の確かめは束縛と設定だけで
決まるので、一度通れば同じ操作の後の文でも通る。
-/

namespace DataAccess

/-- 拒む失敗: 呼び出しの形の誤り（契約違反とその仲間）か方針の誤り（方針違反とその仲間）。 -/
def Fault.refusal : Fault → Bool
  | .lib e => e.kind.isContract || e.kind.isPolicy
  | _ => false

/-- 失敗しうる結果の失敗は拒む失敗でない。 -/
def NoRefusal {α : Type} (x : Except Fault α) : Prop := ∀ e, x = .error e → e.refusal = false

/-- 結果が拒む失敗か。 -/
def refused {α : Type} : Except Fault α → Bool
  | .error e => e.refusal
  | .ok _ => false

theorem refused_eq_true {α : Type} {x : Except Fault α} : refused x = true ↔ ∃ e, x = .error e ∧ e.refusal = true := by
  constructor
  · intro h
    cases x with
    | error e => exact ⟨e, rfl, h⟩
    | ok a => cases h
  · intro h
    obtain ⟨e, rfl, hr⟩ := h
    exact hr

theorem noRefusal_ok {α : Type} (a : α) : NoRefusal (.ok a : Except Fault α) := fun _ h => by cases h

theorem NoRefusal.bind {α β : Type} {x : Except Fault α} {f : α → Except Fault β} (hx : NoRefusal x)
    (hf : ∀ a, NoRefusal (f a)) : NoRefusal (x >>= f) := by
  intro e h
  cases hxs : x with
  | error e' =>
    rw [hxs] at h
    cases h
    exact hx _ hxs
  | ok a =>
    rw [hxs] at h
    exact hf a e h

theorem noRefusal_mapM {α β : Type} {f : α → Except Fault β} (hf : ∀ a, NoRefusal (f a)) :
    ∀ l : List α, NoRefusal (l.mapM f) := by
  intro l
  induction l with
  | nil => exact noRefusal_ok _
  | cons a l ih =>
    rw [List.mapM_cons]
    exact (hf a).bind fun _ => ih.bind fun _ => noRefusal_ok _

theorem Value.iterate_noRefusal (v : Value) : NoRefusal v.iterate := by
  intro e h
  unfold Value.iterate at h
  -- 並びとして読める値は成功し、残るのは `TypeError` だけ
  split at h
  all_goals cases h
  rfl

theorem noRefusal_foldlM {α β : Type} {f : β → α → Except Fault β} (hf : ∀ b a, NoRefusal (f b a)) :
    ∀ (l : List α) (b : β), NoRefusal (l.foldlM f b) := by
  intro l
  induction l with
  | nil => exact fun b => noRefusal_ok b
  | cons a l ih =>
    intro b
    rw [List.foldlM_cons]
    exact (hf b a).bind fun b' => ih b'

theorem Value.greater_noRefusal (a b : Value) : NoRefusal (a.greater b) := by
  intro e h
  unfold Value.greater at h
  split at h
  · cases h
  · split at h
    · split at h
      · cases h
        rfl
      · cases h
    · cases h
      rfl

theorem Value.add_noRefusal (a b : Value) : NoRefusal (a.add b) := by
  intro e h
  unfold Value.add Value.decimalSum Value.cannotConcatenate Value.unsupported at h
  repeat' split at h
  all_goals (cases h <;> rfl)

theorem Value.toInteger_noRefusal (v : Value) : NoRefusal v.toInteger := by
  intro e h
  unfold Value.toInteger Value.truncateFloat at h
  repeat' split at h
  all_goals (cases h <;> rfl)

-- 入れ子の値は相互再帰で辿る。どの枝の失敗も TypeError だけ。
theorem Value.requireHashable_noRefusal (v : Value) : NoRefusal v.requireHashable := by
  apply Value.requireHashable.induct (fun v => NoRefusal v.requireHashable)
    (fun xs => NoRefusal (Value.requireHashableList xs))
  all_goals intros
  all_goals simp only [Value.requireHashable, Value.requireHashableList]
  all_goals first
    | exact noRefusal_ok _
    | assumption
    | exact NoRefusal.bind (by assumption) fun _ => by assumption
    | exact NoRefusal.bind (by assumption) fun _ => NoRefusal.bind (by assumption) fun _ => by assumption
    | (intro e h; unfold Value.unhashable at h; cases h; rfl)
    | (intro e h; split at h <;> cases h <;> rfl)

theorem noRefusal_elim {α β : Type} (o : Option α) {f : Fault} (hf : f.refusal = false) {g : α → Except Fault β}
    (hg : ∀ a, NoRefusal (g a)) : NoRefusal (o.elim (.error f) g) := by
  cases o with
  | none =>
    intro e h
    cases h
    exact hf
  | some a => exact hg a

theorem Value.getItem_noRefusal (v key : Value) : NoRefusal (v.getItem key) := by
  unfold Value.getItem
  -- 辞書はキーを確かめてから引き、並びの仲間は番号で引く
  split
  · refine key.requireHashable_noRefusal.bind fun _ => ?_
    intro e h
    split at h <;> cases h
    rfl
  all_goals
    try split
    all_goals first
      | exact noRefusal_elim _ rfl fun _ => noRefusal_ok _
      | (intro e h; cases h; rfl)

theorem Value.first_noRefusal (v : Value) : NoRefusal v.first := v.getItem_noRefusal _

theorem Catalog.metaOf_noRefusal (cat : Catalog) (cls : String) : NoRefusal (cat.metaOf cls) := by
  intro e h
  unfold Catalog.metaOf at h
  repeat' split at h
  all_goals (cases h <;> rfl)

theorem Converter.apply_noRefusal (c : Converter) (v : Value) : NoRefusal (c.apply v) := by
  unfold Converter.apply
  split
  · exact noRefusal_ok _
  · exact v.toInteger_noRefusal.bind fun _ => noRefusal_ok _
  · exact noRefusal_ok _

theorem Catalog.recordOfRow_noRefusal (cat : Catalog) (cls : String) (id : Nat) (row : List (Value × Value)) :
    NoRefusal (cat.recordOfRow cls id row) := by
  unfold Catalog.recordOfRow
  refine (cat.metaOf_noRefusal cls).bind fun m => (noRefusal_foldlM (fun acc kv => ?_) _ _).bind fun p => ?_
  · -- 列なら変換を掛け、知らない列はそのまま持つ
    obtain ⟨k, v⟩ := kv
    obtain ⟨values, extra⟩ := acc
    dsimp only
    split
    · exact noRefusal_ok _
    · split
      · exact (noRefusal_ok _).bind fun _ => noRefusal_ok _
      · exact (Converter.apply_noRefusal _ _).bind fun _ => noRefusal_ok _
      · exact (noRefusal_ok _).bind fun _ => noRefusal_ok _
  · obtain ⟨values, extra⟩ := p
    exact noRefusal_ok _

theorem Session.rowKey_noRefusal (pk : List Column) (row : Value) : NoRefusal (Session.rowKey pk row) := by
  unfold Session.rowKey
  refine (noRefusal_mapM (fun c => ?_) pk).bind fun _ => noRefusal_ok _
  intro e h
  split at h <;> cases h
  rfl

namespace Build

/-- 持ち上げた変換を並びに当てて成功したなら、変換そのものも並びに当てて同じ結果で成功する。 -/
theorem mapM_lift_run {γ α : Type} {f : γ → Except Fault α} {xs : List γ} :
    ∀ {c c' : Compiler} {as : List α}, (xs.mapM fun x => Build.lift (f x)).run c = .ok (as, c') → xs.mapM f = .ok as := by
  induction xs with
  | nil =>
    intro c c' as h
    cases h
    rfl
  | cons x xs ih =>
    intro c c' as h
    rw [List.mapM_cons] at h
    obtain ⟨a, c₁, h₁, h₂⟩ := run_bind_ok h
    obtain ⟨as', c₂, h₃, h₄⟩ := run_bind_ok h₂
    cases h₄
    cases hfx : f x with
    | error e =>
      rw [hfx] at h₁
      cases h₁
    | ok a' =>
      rw [hfx] at h₁
      cases h₁
      rw [List.mapM_cons, hfx, ih h₃]
      rfl

end Build

theorem Statement.insert_normalizes {d : Dialect} {cat : Catalog} {m : Meta} {rows : List Value}
    {opts : InsertOptions} {st : Statement} (h : Statement.insert d cat m rows opts = .ok st) :
    ∃ ns, rows.mapM (m.normalizeRow · false) = .ok ns := by
  obtain ⟨c, hrun⟩ := Build.toStatement_run h
  obtain ⟨_, c₁, _, h₁⟩ := Build.run_bind_ok hrun
  -- 行が空なら失敗するので、組み立てが進んだなら正規化も成功している
  dsimp only at h₁
  split at h₁
  · obtain ⟨_, _, hfail, _⟩ := Build.run_bind_ok h₁
    cases hfail
  · obtain ⟨ns, _, hns, _⟩ := Build.run_bind_ok h₁
    exact ⟨ns, Build.mapM_lift_run hns⟩

/-! ## 正直なドライバと準備のできた状態 -/

namespace Session

/-- ドライバが正直: どの溜まりに予約された失敗の応答も、拒む失敗ではない。契約と方針の失敗は
ライブラリ自身が投げるもので、ドライバから届くものではない。 -/
def Honest (s : Session) : Prop := ∀ r e, Except.error e ∈ (s.pool r).queue → e.refusal = false

/-- 準備のできた状態: 登録された中継ぎはそのまま渡すだけで、ドライバは正直。 -/
structure Ready (s : Session) : Prop where
  pass : s.PassThrough
  honest : s.Honest

/-- `t` は `s` と中継ぎの登録、束縛、設定が同じで、`s` のドライバが正直なら `t` のドライバも正直。 -/
structure Guards (s t : Session) : Prop where
  registry : t.registry = s.registry
  binding : t.binding = s.binding
  settings : t.settings = s.settings
  honest : s.Honest → t.Honest

theorem Ready.guards {s t : Session} (hs : s.Ready) (h : s.Guards t) : t.Ready where
  pass := by
    unfold PassThrough
    rw [h.registry]
    exact hs.pass
  honest := h.honest hs.honest

/-- 溜まりを一つ書き換えた後の役目の溜まりは、元のままか、書き換えた溜まりの書き換え。 -/
theorem pool_modifyPool (s : Session) (r r' : Role) (f : Pool → Pool) :
    (s.modifyPool r f).pool r' = s.pool r' ∨ (s.modifyPool r f).pool r' = f (s.pool r) := by
  unfold modifyPool pool
  cases r <;> cases r' <;> cases s.writer <;> simp

theorem Honest.modifyPool {s : Session} (hs : s.Honest) {r : Role} {f : Pool → Pool}
    (hf : ∀ p, (f p).queue = p.queue) : (s.modifyPool r f).Honest := by
  intro r' e he
  rcases pool_modifyPool s r r' f with h | h <;> rw [h] at he
  · exact hs r' e he
  · rw [hf] at he
    exact hs r e he

end Session

namespace Frame

/-- 中継ぎの登録、束縛、設定を変えず、ドライバの正直さを保つ。 -/
def guard : Frame where
  rel s t := s.Guards t
  refl _ := ⟨rfl, rfl, rfl, id⟩
  trans h h' := ⟨h'.registry.trans h.registry, h'.binding.trans h.binding, h'.settings.trans h.settings,
    fun hs => h'.honest (h.honest hs)⟩

/-- 文を送らず、関連の覚えを変えず、`guard` を保つ。 -/
def idle : Frame := guard.both (log.both cache)

theorem Holds.idle_guard {α : Type} {x : Run α} (h : idle.Holds x) : guard.Holds x :=
  fun s => (h s).1

theorem Holds.same_idle {α : Type} {x : Run α} (h : same.Holds x) : idle.Holds x := h.of_same

end Frame

/-! ## 拒むのは文を送る前 -/

namespace Run

open DataAccess.Frame

variable {α β γ : Type} {P : Session → Prop}

/-- 始めの状態の条件 `P` が、中継ぎの登録、束縛、設定、正直さを保つ計算の後も成り立つ。 -/
def Persists (P : Session → Prop) : Prop := ∀ s t, s.Guards t → P s → P t

/-- 条件 `P` を満たし準備のできた状態から走らせて拒む失敗で終わるなら、文を一つも送っておらず、
関連の覚えも変えていない。 -/
structure RefusesUpfront (P : Session → Prop) (x : Run α) : Prop where
  guard : guard.Holds x
  upfront : ∀ s, P s → s.Ready → ∀ e, (x.exec s).1 = .error e → e.refusal = true →
    (x.exec s).2.log = s.log ∧ (x.exec s).2.cache = s.cache

/-- 条件 `P` を満たし準備のできた状態から走らせて、拒む失敗では終わらない。 -/
structure NeverRefuses (P : Session → Prop) (x : Run α) : Prop where
  guard : guard.Holds x
  never : ∀ s, P s → s.Ready → NoRefusal (x.exec s).1

theorem RefusesUpfront.of_idle {x : Run α} (h : idle.Holds x) : RefusesUpfront P x where
  guard := h.idle_guard
  upfront s _ _ _ _ _ := (h s).2

theorem NeverRefuses.upfront {x : Run α} (h : NeverRefuses P x) : RefusesUpfront P x where
  guard := h.guard
  upfront s hP hs e he hr := by
    rw [h.never s hP hs e he] at hr
    cases hr

theorem neverRefuses_pure (a : α) : NeverRefuses P (pure a : Run α) :=
  ⟨holds_pure a, fun _ _ _ => noRefusal_ok a⟩

theorem neverRefuses_lift {x : Except Fault α} (hx : NoRefusal x) : NeverRefuses P (Session.lift x) where
  guard := holds_lift x
  never s _ _ := by
    cases x <;> exact hx

section Bind

variable {x : Run α} {f : α → Run β}

theorem RefusesUpfront.idle_bind (hP : Persists P) (hx : idle.Holds x) (hf : ∀ a, RefusesUpfront P (f a)) :
    RefusesUpfront P (x >>= f) where
  guard := hx.idle_guard.bind fun a => (hf a).guard
  upfront s hPs hs e he hr := by
    rw [exec_bind] at he ⊢
    have hxs := hx s
    rcases hrun : x.exec s with ⟨r, t⟩
    rw [hrun] at he hxs
    cases r with
    | error e' => exact hxs.2
    | ok a =>
      -- 前の計算は文を送らないので、続きの計算が拒んだときの記録と覚えは始めのまま
      obtain ⟨hlog, hcache⟩ := (hf a).upfront t (hP s t hxs.1 hPs) (hs.guards hxs.1) e he hr
      exact ⟨hlog.trans hxs.2.1, hcache.trans hxs.2.2⟩

theorem RefusesUpfront.bind_never (hP : Persists P) (hx : RefusesUpfront P x) (hf : ∀ a, NeverRefuses P (f a)) :
    RefusesUpfront P (x >>= f) where
  guard := hx.guard.bind fun a => (hf a).guard
  upfront s hPs hs e he hr := by
    rw [exec_bind] at he ⊢
    have hxs := hx.guard s
    rcases hrun : x.exec s with ⟨r, t⟩
    rw [hrun] at he hxs
    cases r with
    | error e' =>
      have h := hx.upfront s hPs hs e' (by rw [hrun]) (by cases he; exact hr)
      rw [hrun] at h
      exact h
    | ok a =>
      rw [(hf a).never t (hP s t hxs hPs) (hs.guards hxs) e he] at hr
      cases hr

theorem NeverRefuses.bind (hP : Persists P) (hx : NeverRefuses P x) (hf : ∀ a, NeverRefuses P (f a)) :
    NeverRefuses P (x >>= f) where
  guard := hx.guard.bind fun a => (hf a).guard
  never s hPs hs e he := by
    rw [exec_bind] at he
    have hxs := hx.guard s
    rcases hrun : x.exec s with ⟨r, t⟩
    rw [hrun] at he hxs
    cases r with
    | error e' =>
      cases he
      exact hx.never s hPs hs e (by rw [hrun])
    | ok a => exact (hf a).never t (hP s t hxs hPs) (hs.guards hxs) e he

end Bind

/-! ### 中継ぎの鎖、繰り返し、方針の確かめ -/

theorem guards_request (s : Session) (req : RequestState) : s.Guards { s with request := req } :=
  ⟨rfl, rfl, rfl, id⟩

theorem guards_trace (s : Session) (tr : List String) : s.Guards { s with trace := tr } :=
  ⟨rfl, rfl, rfl, id⟩

section Dispatch

variable (hP : Persists P) (hook model : String) (first : Value) {terminal : Value → Run Value}
include hP

/-- そのまま渡すだけの中継ぎの下では、鎖は終端を一度呼ぶだけなので、終端が前もって拒めば鎖もそう。 -/
theorem RefusesUpfront.dispatch (h : ∀ v, RefusesUpfront P (terminal v)) :
    RefusesUpfront P (Session.dispatch hook model first terminal) where
  guard := Session.holds_dispatch guards_request guards_trace hook model first fun v => (h v).guard
  upfront s hPs hs e he hr := by
    obtain ⟨req, hx⟩ := Session.exec_dispatch_pass hs.pass hook model first terminal
    rw [hx] at he ⊢
    exact (h first).upfront _ (hP s _ (guards_request s req) hPs) (hs.guards (guards_request s req)) e he hr

theorem NeverRefuses.dispatch (h : ∀ v, NeverRefuses P (terminal v)) :
    NeverRefuses P (Session.dispatch hook model first terminal) where
  guard := Session.holds_dispatch guards_request guards_trace hook model first fun v => (h v).guard
  never s hPs hs := by
    obtain ⟨req, hx⟩ := Session.exec_dispatch_pass hs.pass hook model first terminal
    rw [hx]
    exact (h first).never _ (hP s _ (guards_request s req) hPs) (hs.guards (guards_request s req))

end Dispatch

theorem NeverRefuses.forIn (hP : Persists P) {g : γ → β → Run (ForInStep β)} (hg : ∀ x b, NeverRefuses P (g x b))
    (xs : List γ) : ∀ b : β, NeverRefuses P (forIn xs b g) := by
  induction xs with
  | nil =>
    intro b
    rw [List.forIn_nil]
    exact neverRefuses_pure b
  | cons x xs ih =>
    intro b
    rw [List.forIn_cons]
    refine (hg x b).bind hP fun r => ?_
    cases r with
    | done b' => exact neverRefuses_pure b'
    | yield b' => exact ih b'

theorem NeverRefuses.mapM (hP : Persists P) {g : γ → Run β} (hg : ∀ x, NeverRefuses P (g x)) (xs : List γ) :
    NeverRefuses P (xs.mapM g) := by
  induction xs with
  | nil => exact neverRefuses_pure []
  | cons x xs ih =>
    rw [List.mapM_cons]
    exact (hg x).bind hP fun _ => ih.bind hP fun _ => neverRefuses_pure _

theorem NeverRefuses.foldlM (hP : Persists P) {g : β → γ → Run β} (hg : ∀ b x, NeverRefuses P (g b x))
    (xs : List γ) : ∀ b : β, NeverRefuses P (xs.foldlM g b) := by
  induction xs with
  | nil => exact fun b => neverRefuses_pure b
  | cons x xs ih =>
    intro b
    rw [List.foldlM_cons]
    exact (hg b x).bind hP fun b' => ih b'

/-- 失敗しうる変換の結果で続けるとき、続きの計算は変換が成功した値についてだけ見ればよい。 -/
theorem RefusesUpfront.lift_bind {x : Except Fault α} {f : α → Run β}
    (hf : ∀ a, x = .ok a → RefusesUpfront P (f a)) : RefusesUpfront P (Session.lift x >>= f) := by
  cases x with
  | error e => exact RefusesUpfront.of_idle (holds_of_state fun _ => rfl)
  | ok a =>
    show RefusesUpfront P (pure a >>= f)
    rw [pure_bind]
    exact hf a rfl

theorem NeverRefuses.of_same {x : Run α} (h : Frame.same.Holds x) (hx : ∀ s, NoRefusal (x.exec s).1) :
    NeverRefuses P x :=
  ⟨h.of_same, fun s _ _ => hx s⟩

theorem NeverRefuses.of_ok {x : Run α} (h : Frame.guard.Holds x) (hx : ∀ s, ∃ a, (x.exec s).1 = .ok a) :
    NeverRefuses P x where
  guard := h
  never s _ _ e he := by
    obtain ⟨a, ha⟩ := hx s
    rw [ha] at he
    cases he

theorem neverRefuses_throw {e : Fault} (he : e.refusal = false) : NeverRefuses P (throw e : Run α) :=
  .of_same (Frame.holds_throw e) fun _ e' h => by
    cases h
    exact he

/-- 一歩ずつ前もって拒む繰り返しが拒むなら、拒んだ一歩の前までの繰り返しが成功した所から、文を送らず
関連の覚えも変えずに拒んでいる。 -/
theorem RefusesUpfront.forIn_prefix {β γ : Type} (hP : Persists P) {g : γ → β → Run (ForInStep β)}
    (hg : ∀ x b, RefusesUpfront P (g x b)) :
    ∀ (xs : List γ) (b : β) (s : Session), P s → s.Ready → ∀ e t, (forIn xs b g).exec s = (.error e, t) →
      e.refusal = true → ∃ done x rest b' u, xs = done ++ x :: rest ∧ (forIn done b g).exec s = (.ok b', u) ∧
        t.log = u.log ∧ t.cache = u.cache := by
  intro xs
  induction xs with
  | nil =>
    intro b s _ _ e t h _
    cases h
  | cons x xs ih =>
    intro b s hPs hs e t h hr
    rw [List.forIn_cons, exec_bind] at h
    have hxs := (hg x b).guard s
    rcases hrun : (g x b).exec s with ⟨r, s₁⟩
    rw [hrun] at h hxs
    cases r with
    | error e' =>
      -- 拒んだのはこの一歩
      simp only [Prod.mk.injEq, Except.error.injEq] at h
      obtain ⟨rfl, rfl⟩ := h
      have hup := (hg x b).upfront s hPs hs e' (by rw [hrun]) hr
      rw [hrun] at hup
      exact ⟨[], x, xs, b, s, rfl, rfl, hup.1, hup.2⟩
    | ok step =>
      cases step with
      | done b' => cases h
      | yield b' =>
        obtain ⟨done, y, rest, b'', u, hsplit, hdone, hlog, hcache⟩ :=
          ih b' s₁ (hP s s₁ hxs hPs) (hs.guards hxs) e t h hr
        refine ⟨x :: done, y, rest, b'', u, by rw [hsplit]; rfl, ?_, hlog, hcache⟩
        rw [List.forIn_cons, exec_bind, hrun]
        exact hdone

end Run

namespace Session

open Run

/-- 書き込みの方針が文を拒まない状態。 -/
def Admits (write autocommit : Bool) (s : Session) : Prop := s.refuses write autocommit = false

theorem persists_admits (write autocommit : Bool) : Persists (Admits write autocommit) := by
  intro s t h hs
  unfold Admits refuses at *
  rw [h.binding, h.settings]
  exact hs

theorem admits_of_checkWrite {s t : Session} {operation : String} {modelName : Option String} {autocommit : Bool}
    {u : Unit} (h : (checkWrite operation modelName autocommit).exec s = (.ok u, t)) : s.Admits true autocommit := by
  unfold Admits
  cases hr : s.refuses true autocommit with
  | false => rfl
  | true =>
    exfalso
    unfold refuses at hr
    cases hb : s.binding with
    | some b =>
      simp only [hb, Bool.true_and] at hr
      rw [exec_checkWrite_readOnly hb hr] at h
      cases h
    | none =>
      simp only [hb, Bool.true_and, Bool.and_eq_true, Bool.not_eq_true'] at hr
      obtain ⟨ha, hreq⟩ := hr
      subst ha
      rw [exec_checkWrite_outside hb _ _ hreq] at h
      cases h

/-- 方針の確かめで始まる計算は、確かめを通った後の続きが前もって拒むなら、前もって拒む。 -/
theorem RefusesUpfront.checkWrite_bind {P : Session → Prop} {β : Type} (operation : String)
    (modelName : Option String) (autocommit : Bool) {f : Unit → Run β}
    (hf : ∀ u, RefusesUpfront (Admits true autocommit) (f u)) :
    RefusesUpfront P (checkWrite operation modelName autocommit >>= f) where
  guard := (same_checkWrite operation modelName autocommit).of_same.bind fun u => (hf u).guard
  upfront s _ hs e he hr := by
    rw [exec_bind] at he ⊢
    -- 方針の確かめは状態に触れない
    have hsame : ((checkWrite operation modelName autocommit).exec s).2 = s :=
      same_checkWrite operation modelName autocommit s
    rcases hrun : (checkWrite operation modelName autocommit).exec s with ⟨r, t⟩
    rw [hrun] at he hsame
    obtain rfl : t = s := hsame
    cases r with
    | error e' => exact ⟨rfl, rfl⟩
    | ok u => exact (hf u).upfront t (admits_of_checkWrite hrun) hs e he hr

/-! ### 文を走らせる -/

theorem exec_execute_nil {s : Session} {r : Role} (hq : (s.pool r).queue = []) (sql : String) (params : List Value) :
    (execute r sql params).exec s =
      (.ok (.result [] (.int 0) .none), { s with log := ⟨(s.pool r).label, sql, params⟩ :: s.log }) := by
  unfold execute
  rw [Run.exec_bind_ok (exec_append _ _ _ _), Run.exec_bind_ok (Run.exec_get _)]
  simp only [pool_relog, hq]
  rfl

theorem guard_execute (r : Role) (sql : String) (params : List Value) : Frame.guard.Holds (execute r sql params) := by
  intro s
  cases hq : (s.pool r).queue with
  | nil =>
    rw [exec_execute_nil hq]
    exact ⟨rfl, rfl, rfl, id⟩
  | cons a rest =>
    rw [exec_execute_head hq]
    refine ⟨by simp, by simp, by simp, fun hs r' e he => ?_⟩
    rcases pool_modifyPool _ r r' _ with h | h <;> rw [h] at he
    · exact hs r' e he
    · have hmem : Except.error e ∈ (s.pool r).queue := by
        rw [hq]
        exact List.mem_cons_of_mem a he
      exact hs r e hmem

theorem neverRefuses_execute {P : Session → Prop} (r : Role) (sql : String) (params : List Value) :
    NeverRefuses P (execute r sql params) where
  guard := guard_execute r sql params
  never s _ hs := by
    cases hq : (s.pool r).queue with
    | nil =>
      rw [exec_execute_nil hq]
      exact noRefusal_ok _
    | cons a rest =>
      rw [exec_execute_head hq]
      intro e he
      subst he
      exact hs.honest r e (by rw [hq]; exact List.mem_cons_self)

theorem guards_prepared (s : Session) (write : Bool) : s.Guards (s.prepared write) := by
  unfold prepared
  split
  · exact Frame.guard.refl s
  · exact ⟨by simp [checkout], by simp [checkout], by simp [checkout], fun hs => hs.modifyPool fun _ => rfl⟩

theorem guard_run (st : Statement) (write : Bool) (operation : String) (modelName : Option String)
    (autocommit : Bool) : Frame.guard.Holds (run st write operation modelName autocommit) := by
  intro s
  have h := run_routes s st write operation modelName autocommit
  cases hr : s.refuses write autocommit with
  | true =>
    obtain ⟨e, he⟩ := h.refused hr
    rw [he]
    exact Frame.guard.refl s
  | false =>
    rw [h.runs hr]
    exact Frame.guard.trans (guards_prepared s write) (guard_execute _ _ _ _)

/-- 文を走らせる一歩は、方針が拒むなら状態に触れずに拒み、拒まないなら正直なドライバの応答を返す。 -/
theorem refusesUpfront_run {P : Session → Prop} (st : Statement) (write : Bool) (operation : String)
    (modelName : Option String) (autocommit : Bool) : RefusesUpfront P (run st write operation modelName autocommit) where
  guard := guard_run st write operation modelName autocommit
  upfront s _ hs e he hr := by
    have h := run_routes s st write operation modelName autocommit
    cases hrf : s.refuses write autocommit with
    | true =>
      obtain ⟨e', he'⟩ := h.refused hrf
      rw [he']
      exact ⟨rfl, rfl⟩
    | false =>
      rw [h.runs hrf] at he
      rw [(neverRefuses_execute (P := fun _ => True) _ _ _).never _ trivial (hs.guards (guards_prepared s write)) e he]
        at hr
      cases hr

theorem neverRefuses_run (st : Statement) (write : Bool) (operation : String) (modelName : Option String)
    (autocommit : Bool) : NeverRefuses (Admits write autocommit) (run st write operation modelName autocommit) where
  guard := guard_run st write operation modelName autocommit
  never s hP hs := by
    rw [(run_routes s st write operation modelName autocommit).runs hP]
    exact (neverRefuses_execute (P := fun _ => True) _ _ _).never _ trivial (hs.guards (guards_prepared s write))

theorem neverRefuses_requireBound {P : Session → Prop} (cls : String) : NeverRefuses P (requireBound cls) where
  guard := (same_requireBound cls).of_same
  never s _ _ := by
    intro e he
    unfold requireBound at he
    rw [exec_bind_ok (exec_get s)] at he
    split at he <;> cases he
    rfl

theorem neverRefuses_metaOf {P : Session → Prop} (cls : String) : NeverRefuses P (metaOf cls) where
  guard := (same_metaOf cls).of_same
  never s _ _ := by
    unfold metaOf
    rw [exec_bind_ok (exec_get s)]
    have h := s.catalog.metaOf_noRefusal cls
    revert h
    cases s.catalog.metaOf cls <;> exact id

theorem refusesUpfront_runStatement {P : Session → Prop} (hP : Persists P) (cls : String) (st : Statement)
    (write : Bool) (operation : String) (autocommit : Bool) :
    RefusesUpfront P (runStatement cls st write operation autocommit) := by
  unfold runStatement
  exact .idle_bind hP (same_requireBound cls).same_idle fun _ => .idle_bind hP (same_metaOf cls).same_idle fun _ =>
    .dispatch hP _ _ _ fun _ => refusesUpfront_run _ _ _ _ _

theorem neverRefuses_runStatement (cls : String) (st : Statement) (write : Bool) (operation : String)
    (autocommit : Bool) : NeverRefuses (Admits write autocommit) (runStatement cls st write operation autocommit) := by
  have hP := persists_admits write autocommit
  unfold runStatement
  exact (neverRefuses_requireBound cls).bind hP fun _ => (neverRefuses_metaOf cls).bind hP fun _ =>
    .dispatch hP _ _ _ fun _ => neverRefuses_run _ _ _ _ _

end Session

end DataAccess
