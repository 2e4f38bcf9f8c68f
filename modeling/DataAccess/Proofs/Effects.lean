import DataAccess.Session.Relations
import DataAccess.Proofs.Retry
/-!
# 計算の枠と記録の行数

状態の一部についての性質を、計算の形ごとの規則で組み立てる。

* `Frame` は始めと終わりの状態を結ぶ前順序（反射的で推移的な関係）。`Frame.Holds` は、計算を
  どの状態から走らせても、成否を問わずその関係で結ばれる状態で終わること。目録や中継ぎの登録を
  変えない、関連の覚えのうち決まった所しか変えない、など。
* `Writes n` は記録に足す行が成否を問わず高々 `n` 行、`Emits n` は成功すればちょうど `n` 行。
  どちらも、登録された中継ぎがそのまま次へ渡すだけ（`PassThrough`）の状態から走らせたときの話。

中継ぎがそのまま渡すだけなら、鎖は終端を一度だけ呼ぶので、終端と同じ行数を書く。組み立てた文を
走らせる操作（`run`、`runStatement`、`fetchSql`）は、文を走らせる所まで進めば記録にちょうど一行足し、
その前に失敗すれば何も足さない。
-/

namespace DataAccess

/-- 中継ぎの振る舞いが、そのまま次へ渡すだけか。 -/
def Behaviour.isPass : Behaviour → Bool
  | .pass => true
  | _ => false

/-- 中継ぎの型が、どのフックでもそのまま次へ渡すだけか（数える型と基底はいつもそう）。 -/
def Middleware.passThrough : Middleware → Bool
  | .custom _ hooks _ => hooks.all fun h => h.2.isPass
  | _ => true

/-- 登録された中継ぎがどれも、そのまま次へ渡すだけ。 -/
def Session.PassThrough (s : Session) : Prop := ∀ m ∈ s.registry, m.passThrough = true

/-- レコード `id` の属する組のレコード。 -/
def Session.batchAt (s : Session) (id : Nat) : Option (List Value) :=
  (assocGet? s.batchOf id).bind (assocGet? s.batches)

/-- `t` は `s` と、目録、中継ぎの登録、関連の覚え、レコードとその組が同じ。 -/
structure Session.Steady (s t : Session) : Prop where
  catalog : t.catalog = s.catalog
  registry : t.registry = s.registry
  cache : t.cache = s.cache
  nextRecord : t.nextRecord = s.nextRecord
  batchOf : t.batchOf = s.batchOf
  batches : t.batches = s.batches

/-- `t` は `s` と目録と中継ぎの登録が同じで、`s` までに作ったレコードの組をそのまま持つ。 -/
structure Session.Extends (s t : Session) : Prop where
  catalog : t.catalog = s.catalog
  registry : t.registry = s.registry
  nextRecord : s.nextRecord ≤ t.nextRecord
  batchAt : ∀ id < s.nextRecord, ∀ b, s.batchAt id = some b → t.batchAt id = some b

/-- 計算の始めと終わりの状態を結ぶ前順序。 -/
structure Frame where
  rel : Session → Session → Prop
  refl : ∀ s, rel s s
  trans : ∀ {s t u}, rel s t → rel t u → rel s u

namespace Frame

variable {α β γ : Type} (F : Frame)

/-- 計算は、どの状態から走らせても成否を問わず、始めの状態と `F` で結ばれる状態で終わる。 -/
def Holds (x : Run α) : Prop := ∀ s, F.rel s (x.exec s).2

variable {F}

theorem holds_pure (a : α) : F.Holds (pure a : Run α) := fun s => F.refl s

theorem holds_throw (e : Fault) : F.Holds (throw e : Run α) := fun s => F.refl s

theorem holds_get : F.Holds (get : Run Session) := fun s => F.refl s

theorem holds_of_state {x : Run α} (h : ∀ s, (x.exec s).2 = s) : F.Holds x := fun s => by
  rw [h s]
  exact F.refl s

theorem holds_liftExcept (x : Except Fault α) : F.Holds (liftExcept x : Run α) := by
  intro s
  rw [Run.exec_liftExcept]
  exact F.refl s

theorem holds_lift (x : Except Fault α) : F.Holds (Session.lift x) := by
  intro s
  cases x <;> exact F.refl s

theorem holds_modify {f : Session → Session} (hf : ∀ s, F.rel s (f s)) : F.Holds (modify f : Run PUnit) := hf

theorem Holds.bind {x : Run α} {f : α → Run β} (hx : F.Holds x) (hf : ∀ a, F.Holds (f a)) :
    F.Holds (x >>= f) := by
  intro s
  rw [Run.exec_bind]
  have hs := hx s
  rcases hxs : x.exec s with ⟨r, s'⟩
  rw [hxs] at hs
  cases r with
  | ok a => exact F.trans hs (hf a s')
  | error e => exact hs

theorem Holds.tryCatch {x : Run α} {h : Fault → Run α} (hx : F.Holds x) (hh : ∀ e, F.Holds (h e)) :
    F.Holds (tryCatch x h) := by
  intro s
  rw [Run.exec_tryCatch]
  have hs := hx s
  rcases hxs : x.exec s with ⟨r, s'⟩
  rw [hxs] at hs
  cases r with
  | ok a => exact hs
  | error e => exact F.trans hs (hh e s')

/-- 状態を読んでから走らせる計算は、読んだ状態から走らせたときに結ばれればよい。 -/
theorem holds_get_bind {f : Session → Run β} (hf : ∀ s, F.rel s ((f s).exec s).2) : F.Holds (get >>= f) :=
  fun s => by
    rw [Run.exec_bind_ok (Run.exec_get s)]
    exact hf s

theorem holds_forIn {g : γ → β → Run (ForInStep β)} (hg : ∀ x b, F.Holds (g x b)) :
    ∀ (xs : List γ) (b : β), F.Holds (forIn xs b g)
  | [], b => by
    simp only [List.forIn_nil]
    exact holds_pure b
  | x :: xs, b => by
    simp only [List.forIn_cons]
    refine (hg x b).bind fun r => ?_
    cases r with
    | done b' => exact holds_pure b'
    | yield b' => exact holds_forIn hg xs b'

theorem holds_mapM {g : γ → Run β} (hg : ∀ x, F.Holds (g x)) : ∀ xs : List γ, F.Holds (xs.mapM g)
  | [] => holds_pure []
  | x :: xs => by
    simp only [List.mapM_cons]
    exact (hg x).bind fun _ => (holds_mapM hg xs).bind fun _ => holds_pure _

theorem holds_foldlM {g : β → γ → Run β} (hg : ∀ b x, F.Holds (g b x)) :
    ∀ (xs : List γ) (b : β), F.Holds (xs.foldlM g b)
  | [], b => holds_pure b
  | x :: xs, b => by
    simp only [List.foldlM_cons]
    exact (hg b x).bind fun b' => holds_foldlM hg xs b'

/-- 二つの枠を同時に保つ。 -/
def both (F G : Frame) : Frame where
  rel s t := F.rel s t ∧ G.rel s t
  refl s := ⟨F.refl s, G.refl s⟩
  trans h h' := ⟨F.trans h.1 h'.1, G.trans h.2 h'.2⟩

theorem Holds.both {G : Frame} {x : Run α} (hF : F.Holds x) (hG : G.Holds x) : (F.both G).Holds x :=
  fun s => ⟨hF s, hG s⟩

/-! ## 状態の欄の枠 -/

/-- 目録を変えない。 -/
def catalog : Frame where
  rel s t := t.catalog = s.catalog
  refl _ := rfl
  trans h h' := h'.trans h

/-- 中継ぎの登録を変えない。 -/
def registry : Frame where
  rel s t := t.registry = s.registry
  refl _ := rfl
  trans h h' := h'.trans h

/-- 記録を変えない。 -/
def log : Frame where
  rel s t := t.log = s.log
  refl _ := rfl
  trans h h' := h'.trans h

/-- 関連の覚えを変えない。 -/
def cache : Frame where
  rel s t := t.cache = s.cache
  refl _ := rfl
  trans h h' := h'.trans h

/-- 状態を変えない。 -/
def same : Frame where
  rel s t := t = s
  refl _ := rfl
  trans h h' := h'.trans h

/-- 目録、中継ぎの登録、関連の覚え、レコードとその組を変えない。 -/
def stable : Frame where
  rel s t := s.Steady t
  refl _ := ⟨rfl, rfl, rfl, rfl, rfl, rfl⟩
  trans h h' := ⟨h'.catalog.trans h.catalog, h'.registry.trans h.registry, h'.cache.trans h.cache,
    h'.nextRecord.trans h.nextRecord, h'.batchOf.trans h.batchOf, h'.batches.trans h.batches⟩

/-- 目録と中継ぎの登録を変えず、それまでのレコードの組を崩さない。 -/
def kept : Frame where
  rel s t := s.Extends t
  refl _ := ⟨rfl, rfl, Nat.le_refl _, fun _ _ _ h => h⟩
  trans h h' := ⟨h'.catalog.trans h.catalog, h'.registry.trans h.registry,
    Nat.le_trans h.nextRecord h'.nextRecord,
    fun id hid b hb => h'.batchAt id (Nat.lt_of_lt_of_le hid h.nextRecord) b (h.batchAt id hid b hb)⟩

theorem Holds.mono {G : Frame} {x : Run α} (hFG : ∀ s t, F.rel s t → G.rel s t) (h : F.Holds x) : G.Holds x :=
  fun s => hFG s _ (h s)

theorem Holds.of_same {x : Run α} (h : same.Holds x) : F.Holds x := holds_of_state h

theorem Holds.stable_kept {x : Run α} (h : stable.Holds x) : kept.Holds x :=
  h.mono fun s t (hst : s.Steady t) => ⟨hst.catalog, hst.registry, Nat.le_of_eq hst.nextRecord.symm, fun id _ b hb => by
    rw [Session.batchAt, hst.batchOf, hst.batches]
    exact hb⟩

theorem Holds.kept_registry {x : Run α} (h : kept.Holds x) : registry.Holds x :=
  h.mono fun s t (hst : s.Extends t) => hst.registry

theorem Holds.stable_cache {x : Run α} (h : stable.Holds x) : cache.Holds x :=
  h.mono fun s t (hst : s.Steady t) => hst.cache

end Frame

/-! ## 記録の行数 -/

namespace Run

variable {α β γ : Type}

/-- 中継ぎがそのまま渡すだけの状態から走らせると、記録に足す行は成否を問わず高々 `n` 行。 -/
def Writes (n : Nat) (x : Run α) : Prop :=
  ∀ s, s.PassThrough → ∃ es, (x.exec s).2.log = es ++ s.log ∧ es.length ≤ n

/-- 中継ぎがそのまま渡すだけの状態から走らせて成功すれば、記録に足した行はちょうど `n` 行。 -/
def Emits (n : Nat) (x : Run α) : Prop :=
  ∀ s a s', s.PassThrough → x.exec s = (.ok a, s') → ∃ es, s'.log = es ++ s.log ∧ es.length = n

theorem Writes.of_log {x : Run α} (h : Frame.log.Holds x) : x.Writes 0 :=
  fun s _ => ⟨[], by rw [List.nil_append]; exact h s, Nat.le_refl 0⟩

theorem Emits.of_log {x : Run α} (h : Frame.log.Holds x) : x.Emits 0 := by
  intro s a s' _ hx
  have hs := h s
  rw [hx] at hs
  exact ⟨[], by rw [List.nil_append]; exact hs, rfl⟩

theorem Writes.mono {x : Run α} {m n : Nat} (h : x.Writes m) (hmn : m ≤ n) : x.Writes n := by
  intro s hs
  obtain ⟨es, hlog, hlen⟩ := h s hs
  exact ⟨es, hlog, Nat.le_trans hlen hmn⟩

theorem Writes.bind {x : Run α} {f : α → Run β} {m n : Nat} (hx : x.Writes m) (hreg : Frame.registry.Holds x)
    (hf : ∀ a, (f a).Writes n) : (x >>= f).Writes (m + n) := by
  intro s hs
  rw [exec_bind]
  obtain ⟨es, hlog, hlen⟩ := hx s hs
  have hreg' := hreg s
  rcases hxs : x.exec s with ⟨r, s'⟩
  rw [hxs] at hlog hreg'
  cases r with
  | ok a =>
    have hs' : s'.PassThrough := fun m' hm' => hs m' (by rw [← show s'.registry = s.registry from hreg']; exact hm')
    obtain ⟨es', hlog', hlen'⟩ := hf a s' hs'
    exact ⟨es' ++ es, by rw [hlog', hlog, List.append_assoc], by rw [List.length_append]; omega⟩
  | error e => exact ⟨es, hlog, by omega⟩

theorem Emits.bind {x : Run α} {f : α → Run β} {m n : Nat} (hx : x.Emits m) (hreg : Frame.registry.Holds x)
    (hf : ∀ a, (f a).Emits n) : (x >>= f).Emits (m + n) := by
  intro s b s'' hs hrun
  rw [exec_bind] at hrun
  have hreg' := hreg s
  rcases hxs : x.exec s with ⟨r, s'⟩
  rw [hxs] at hrun hreg'
  cases r with
  | ok a =>
    have hs' : s'.PassThrough := fun m' hm' => hs m' (by rw [← show s'.registry = s.registry from hreg']; exact hm')
    obtain ⟨es, hlog, hlen⟩ := hx s a s' hs hxs
    obtain ⟨es', hlog', hlen'⟩ := hf a s' b s'' hs' hrun
    exact ⟨es' ++ es, by rw [hlog', hlog, List.append_assoc], by rw [List.length_append]; omega⟩
  | error e => cases hrun

theorem Writes.same_bind {x : Run α} {f : α → Run β} {n : Nat} (hx : Frame.same.Holds x)
    (hf : ∀ a, (f a).Writes n) : (x >>= f).Writes n := by
  have h := (Writes.of_log (Frame.Holds.of_same hx)).bind (Frame.Holds.of_same hx) hf
  rwa [Nat.zero_add] at h

theorem Emits.same_bind {x : Run α} {f : α → Run β} {n : Nat} (hx : Frame.same.Holds x)
    (hf : ∀ a, (f a).Emits n) : (x >>= f).Emits n := by
  have h := (Emits.of_log (Frame.Holds.of_same hx)).bind (Frame.Holds.of_same hx) hf
  rwa [Nat.zero_add] at h

/-- 計算は必ず成功し、変えるのは要求の状態（中継ぎの実体と書き手に寄せる期間）だけ。 -/
def RequestOnly (x : Run α) : Prop := ∀ s, ∃ a req, x.exec s = (.ok a, { s with request := req })

theorem requestOnly_pure (a : α) : (pure a : Run α).RequestOnly := fun s => ⟨a, s.request, rfl⟩

theorem RequestOnly.bind {x : Run α} {f : α → Run β} (hx : x.RequestOnly) (hf : ∀ a, (f a).RequestOnly) :
    (x >>= f).RequestOnly := by
  intro s
  obtain ⟨a, req, h⟩ := hx s
  obtain ⟨b, req', h'⟩ := hf a { s with request := req }
  exact ⟨b, req', by rw [exec_bind_ok h, h']⟩

theorem requestOnly_forIn {g : γ → β → Run (ForInStep β)} (hg : ∀ x b, (g x b).RequestOnly) :
    ∀ (xs : List γ) (b : β), (forIn xs b g).RequestOnly
  | [], b => by
    simp only [List.forIn_nil]
    exact requestOnly_pure b
  | x :: xs, b => by
    simp only [List.forIn_cons]
    refine (hg x b).bind fun r => ?_
    cases r with
    | done b' => exact requestOnly_pure b'
    | yield b' => exact requestOnly_forIn hg xs b'

/-- 要求の状態だけを変える計算に続けた計算は、要求の状態を変えた状態から続きを走らせたもの。 -/
theorem exists_exec_bind {x : Run α} {k : α → Run β} {t : Run β} {s : Session} (hx : x.RequestOnly)
    (hk : ∀ a (s' : Session), ∃ req, (k a).exec s' = t.exec { s' with request := req }) :
    ∃ req, (x >>= k).exec s = t.exec { s with request := req } := by
  obtain ⟨a, req, h⟩ := hx s
  obtain ⟨req', h'⟩ := hk a { s with request := req }
  exact ⟨req', by rw [exec_bind_ok h, h']⟩

end Run

namespace Session

open Run

variable {α : Type}

theorem requestOnly_instanceOf (m : Middleware) : (instanceOf m).RequestOnly := by
  intro s
  unfold instanceOf
  rw [exec_bind_ok (exec_get s)]
  split
  · exact ⟨_, s.request, rfl⟩
  · exact ⟨_, _, rfl⟩

theorem requestOnly_modifyInstance (m : Middleware) (f : Instance → Instance) :
    (modifyInstance m f).RequestOnly := by
  unfold modifyInstance
  exact (requestOnly_instanceOf m).bind fun _ s => ⟨_, _, rfl⟩

theorem mem_of_assocGet? {hooks : List (String × Behaviour)} {hook : String} {b : Behaviour}
    (h : assocGet? hooks hook = some b) : ∃ k, (k, b) ∈ hooks := by
  unfold assocGet? at h
  obtain ⟨e, he, rfl⟩ := Option.map_eq_some_iff.1 h
  exact ⟨e.1, List.mem_of_find?_eq_some he⟩

/-- そのまま渡すだけの中継ぎのフックは、要求の状態を変えてから次を同じ引数で呼ぶ。 -/
theorem exec_hookOf_pass {m : Middleware} (hm : m.passThrough = true) (hook model : String) (first : Value)
    (next : Value → Run Value) (s : Session) :
    ∃ req, (hookOf m hook model first next).exec s = (next first).exec { s with request := req } := by
  unfold hookOf
  cases m with
  | statistics => exact exists_exec_bind (requestOnly_modifyInstance _ _) fun _ s' => ⟨s'.request, rfl⟩
  | base => exact ⟨s.request, rfl⟩
  | custom name hooks _ =>
    refine exists_exec_bind (requestOnly_modifyInstance _ _) fun _ s' => ⟨s'.request, ?_⟩
    split
    · next b hb =>
      -- 登録されたフックの振る舞いはどれもそのまま渡すだけ
      obtain ⟨k, hk⟩ := mem_of_assocGet? hb
      have hpass : b.isPass = true := List.all_eq_true.1 hm (k, b) hk
      cases b <;> first | rfl | cases hpass
    · rfl

/-! ### 鎖を組む -/

/-- 中継ぎ `ms` を外側から順に重ねて `terminal` を包んだ関数。各層は内側の残りを次として受け取る。 -/
def layers (hook model : String) (ms : List Middleware) (terminal : Value → Run Value) : Value → Run Value :=
  ms.foldr (fun m next => wrap m hook model next) terminal

theorem layers_append (hook model : String) (xs ys : List Middleware) (terminal : Value → Run Value) :
    layers hook model (xs ++ ys) terminal = layers hook model xs (layers hook model ys terminal) :=
  List.foldr_append

/-- 鎖を組む一段は要求の状態だけを変え、型が `hook` を上書きしていればその層で包む。 -/
theorem exec_wrapStep (hook model : String) (handler : Value → Run Value) (m : Middleware) (s : Session) :
    ∃ req, (wrapStep hook model handler m).exec s =
      (.ok (layers hook model ([m].filter (·.overrides hook)) handler), { s with request := req }) := by
  unfold wrapStep
  by_cases hov : m.overrides hook
  · obtain ⟨i, req, hi⟩ := requestOnly_instanceOf m s
    refine ⟨req, ?_⟩
    rw [if_pos hov, exec_bind_ok hi]
    simp only [List.filter_cons, hov, if_true, List.filter_nil]
    rfl
  · refine ⟨s.request, ?_⟩
    rw [if_neg hov]
    simp only [List.filter_cons, hov, List.filter_nil]
    rfl

/-- 鎖を組む畳み込みは要求の状態だけを変え、後に見た型ほど外側の層にした関数を返す。 -/
theorem exec_foldlM_wrapStep (hook model : String) :
    ∀ (ms : List Middleware) (handler : Value → Run Value) (s : Session), ∃ req,
      (ms.foldlM (wrapStep hook model) handler).exec s =
        (.ok (layers hook model (ms.reverse.filter (·.overrides hook)) handler), { s with request := req })
  | [], handler, s => ⟨s.request, rfl⟩
  | m :: ms, handler, s => by
    obtain ⟨req, h⟩ := exec_wrapStep hook model handler m s
    obtain ⟨req', h'⟩ := exec_foldlM_wrapStep hook model ms _ { s with request := req }
    refine ⟨req', ?_⟩
    rw [List.foldlM_cons, exec_bind_ok h, h', List.reverse_cons, List.filter_append, layers_append]

/-- 鎖を組むと、要求の状態だけが変わり、登録のうち `hook` を上書きした型を登録の順に外側から重ねた
関数ができる。 -/
theorem exec_buildChain (hook model : String) (terminal : Value → Run Value) (s : Session) :
    ∃ req, (buildChain hook model terminal).exec s =
      (.ok (layers hook model (s.registry.filter (·.overrides hook)) terminal), { s with request := req }) := by
  unfold buildChain
  rw [exec_bind_ok (exec_get s)]
  obtain ⟨req, h⟩ := exec_foldlM_wrapStep hook model s.registry.reverse terminal s
  rw [List.reverse_reverse] at h
  exact ⟨req, h⟩

theorem exec_layers_pass (hook model : String) :
    ∀ {ms : List Middleware}, (∀ m ∈ ms, m.passThrough = true) →
      ∀ (first : Value) (terminal : Value → Run Value) (s : Session),
        ∃ req, (layers hook model ms terminal first).exec s = (terminal first).exec { s with request := req }
  | [], _, first, terminal, s => ⟨s.request, rfl⟩
  | m :: ms, hms, first, terminal, s => by
    obtain ⟨req, h⟩ := exec_hookOf_pass (hms m List.mem_cons_self) hook model first (layers hook model ms terminal) s
    obtain ⟨req', h'⟩ := exec_layers_pass hook model (fun m' hm' => hms m' (List.mem_cons_of_mem m hm')) first
      terminal { s with request := req }
    exact ⟨req', h.trans h'⟩

/-- そのまま渡すだけの中継ぎしか登録されていなければ、鎖は要求の状態を変えてから終端を一度呼ぶ。 -/
theorem exec_dispatch_pass {s : Session} (hs : s.PassThrough) (hook model : String) (first : Value)
    (terminal : Value → Run Value) :
    ∃ req, (dispatch hook model first terminal).exec s = (terminal first).exec { s with request := req } := by
  obtain ⟨req, hb⟩ := exec_buildChain hook model terminal s
  unfold dispatch
  rw [exec_bind_ok hb]
  exact exec_layers_pass hook model (fun m hm => hs m (List.mem_filter.1 hm).1) first terminal _

theorem Writes.dispatch {n : Nat} (hook model : String) (first : Value) {terminal : Value → Run Value}
    (h : ∀ v, (terminal v).Writes n) : (dispatch hook model first terminal).Writes n := by
  intro s hs
  obtain ⟨req, hx⟩ := exec_dispatch_pass hs hook model first terminal
  rw [hx]
  exact h first { s with request := req } hs

theorem Emits.dispatch {n : Nat} (hook model : String) (first : Value) {terminal : Value → Run Value}
    (h : ∀ v, (terminal v).Emits n) : (dispatch hook model first terminal).Emits n := by
  intro s a s' hs hx
  obtain ⟨req, hreq⟩ := exec_dispatch_pass hs hook model first terminal
  rw [hreq] at hx
  exact h first { s with request := req } a s' hs hx

/-! ## 中継ぎの鎖の枠

どの振る舞いの中継ぎでも、鎖が自分で変えるのは要求の状態と足跡だけ。それを気にしない枠は、
終端が保てば鎖も保つ。 -/

section Chain

open DataAccess.Frame

variable {F : Frame} (hreq : ∀ s req, F.rel s { s with request := req })
  (htr : ∀ s t, F.rel s { s with trace := t })
include hreq

theorem RequestOnly.holds {β : Type} {x : Run β} (hx : x.RequestOnly) : F.Holds x := by
  intro s
  obtain ⟨a, req, h⟩ := hx s
  rw [h]
  exact hreq s req

include htr

omit hreq in
theorem holds_behave (name hook : String) (b : Behaviour) (first : Value) {next : Value → Run Value}
    (hnext : ∀ v, F.Holds (next v)) : F.Holds (behave name hook b first next) := by
  have htrace : ∀ t, F.Holds (addTrace t) := fun t => holds_modify fun s => htr s _
  cases b <;> simp only [behave]
  case pass => exact hnext first
  case trace => exact (htrace _).bind fun _ => (hnext first).bind fun _ => (htrace _).bind fun _ => holds_pure _
  case twice => exact (hnext first).bind fun _ => hnext first
  case swallow =>
    -- 失敗を受け止めた値は、`do` の途中の `return` として外へ運ばれる
    refine (((hnext first).bind fun _ => holds_of_state fun _ => rfl).tryCatch
      fun _ => holds_of_state fun _ => rfl).bind fun e => ?_
    unfold EarlyReturn.runK
    cases e <;> exact holds_pure _
  case short v => exact holds_pure v
  case raise f => exact holds_throw f
  case addCondition entry =>
    split
    · split
      · exact (holds_pure _).bind fun _ => hnext _
      · exact (holds_throw _).bind fun _ => hnext _
    · exact (holds_pure _).bind fun _ => hnext _
  case rewriteSql old new =>
    -- 置き換える前と後を読む所は、値を返すか投げるだけ
    split
    · refine Holds.bind ?_ fun o => Holds.bind ?_ fun n => ?_
      · split
        · exact holds_pure _
        · exact holds_throw _
      · split
        · exact holds_pure _
        · exact holds_throw _
      · split
        · exact hnext _
        · exact holds_throw _
        · exact holds_throw _
    · refine Holds.bind ?_ fun o => Holds.bind ?_ fun n => ?_
      · split
        · exact holds_pure _
        · exact holds_throw _
      · split
        · exact holds_pure _
        · exact holds_throw _
      · split
        · exact hnext _
        · exact holds_throw _
        · exact holds_throw _
    · exact holds_throw _
  case unknown key =>
    split
    · exact holds_throw _
    · exact holds_throw _

omit hreq in
theorem holds_hookOf_of (hmod : ∀ m f, F.Holds (modifyInstance m f)) (m : Middleware) (hook model : String)
    (first : Value) {next : Value → Run Value} (hnext : ∀ v, F.Holds (next v)) :
    F.Holds (hookOf m hook model first next) := by
  unfold hookOf
  cases m with
  | statistics => exact (hmod _ _).bind fun _ => hnext first
  | base => exact hnext first
  | custom name hooks _ =>
    refine (hmod _ _).bind fun _ => ?_
    split
    · exact holds_behave htr _ _ _ _ hnext
    · exact hnext first

omit hreq in
theorem holds_layers_of (hmod : ∀ m f, F.Holds (modifyInstance m f)) (hook model : String)
    {terminal : Value → Run Value} (hterm : ∀ v, F.Holds (terminal v)) :
    ∀ (ms : List Middleware) (first : Value), F.Holds (layers hook model ms terminal first)
  | [], first => hterm first
  | m :: ms, first => holds_hookOf_of htr hmod m hook model first fun v => holds_layers_of hmod hook model hterm ms v

omit hreq htr in
theorem holds_buildChain (hinst : ∀ m, F.Holds (instanceOf m)) (hook model : String) (terminal : Value → Run Value) :
    F.Holds (buildChain hook model terminal) := by
  unfold buildChain
  refine holds_get.bind fun s => holds_foldlM (fun handler m => ?_) _ _
  unfold wrapStep
  split
  · exact (hinst m).bind fun _ => holds_pure _
  · exact holds_pure _

omit hreq in
/-- 実体を引くことと変えることが保つ枠は、終端が保てば鎖も保つ（中継ぎの振る舞いによらない）。 -/
theorem holds_dispatch_of (hinst : ∀ m, F.Holds (instanceOf m)) (hmod : ∀ m f, F.Holds (modifyInstance m f))
    (hook model : String) (first : Value) {terminal : Value → Run Value} (hterm : ∀ v, F.Holds (terminal v)) :
    F.Holds (dispatch hook model first terminal) := by
  intro s
  obtain ⟨req, hb⟩ := exec_buildChain hook model terminal s
  -- 組んだ鎖は、上書きした型を重ねた関数
  have hbuild : F.rel s { s with request := req } := by
    have h := holds_buildChain hinst hook model terminal s
    rwa [hb] at h
  unfold dispatch
  rw [exec_bind_ok hb]
  exact F.trans hbuild (holds_layers_of htr hmod hook model hterm _ first _)

theorem holds_dispatch (hook model : String) (first : Value) {terminal : Value → Run Value}
    (hterm : ∀ v, F.Holds (terminal v)) : F.Holds (dispatch hook model first terminal) :=
  holds_dispatch_of htr (fun m => RequestOnly.holds hreq (requestOnly_instanceOf m))
    (fun m f => RequestOnly.holds hreq (requestOnly_modifyInstance m f)) hook model first hterm

end Chain

end Session

end DataAccess
