import DataAccess.Proofs.MiddlewareChain
import DataAccess.Proofs.RefusalOrder
import DataAccess.Proofs.RelationCache
import DataAccess.Proofs.InsertKeys
import DataAccess.Proofs.WriteKeys
/-!
# 操作が呼ぶ鎖

中継ぎがどれもそのまま次へ渡すだけなら、鎖の一回の呼び出しが状態に残すのは、上書きした型の実体の
足跡（数える型なら区分の回数、作った型ならフックの足跡）だけ（`noteCall`）。

モデルの操作は、それぞれ決まったフックの並びの鎖を順に呼び、失敗すればそこで止まる（`Calls`）。
文を送るのは `execute` の鎖の終端だけで、送る文はその鎖が受け取った SQL を方言の印に直したものと、
その鎖が運ぶ値。
-/

namespace DataAccess

namespace Session

open Run

/-- 鎖の一回の呼び出し: フック、モデルの名前、第一引数、SQL と一緒に運ぶ値（`execute` の鎖なら文の値、
ほかのフックでは空）。 -/
structure HookCall where
  hook : String
  model : String
  first : Value
  params : List Value

/-- 作った型が呼び出しに残す足跡 `フック:モデル`（SQL を受け取るフックなら `:SQL` も）。 -/
def HookCall.mark (c : HookCall) : String :=
  c.hook ++ ":" ++ c.model ++ (if c.hook == "query" || c.hook == "execute" then ":" ++ c.first.text else "")

/-- 呼び出し `c` で中継ぎ `m` が自分の実体に残すもの: 数える型は区分の回数を一つ増やし、作った型は足跡を足す。 -/
def noteOf (c : HookCall) : Middleware → Instance → Instance
  | .statistics, .counts cs => .counts (cs.map fun (k, n) => if k == bucketOf c.hook then (k, n + 1) else (k, n))
  | .custom _ _ _, .log es => .log (es ++ [c.mark])
  | _, i => i

/-- 中継ぎ `m` の層が、呼び出し `c` で実体の表に残すもの。 -/
def noteStep (c : HookCall) (insts : List (MiddlewareKey × Instance)) (m : Middleware) :
    List (MiddlewareKey × Instance) :=
  assocSet insts m.key (noteOf c m ((assocGet? insts m.key).getD m.fresh))

/-- そのまま渡すだけの登録 `reg` の下で、呼び出し `c` の鎖が実体の表に残すもの: 上書きした型の実体を
（鎖を組む順、つまり登録の逆の順に）揃え、外側から順に各層が自分の実体に残す。 -/
def noteCall (reg : List Middleware) (insts : List (MiddlewareKey × Instance)) (c : HookCall) :
    List (MiddlewareKey × Instance) :=
  (reg.filter (·.overrides c.hook)).foldl (noteStep c) (withInstances (reg.filter (·.overrides c.hook)).reverse insts)

/-- 呼び出しを順に重ねたもの。 -/
def noteCalls (reg : List Middleware) (cs : List HookCall) (insts : List (MiddlewareKey × Instance)) :
    List (MiddlewareKey × Instance) :=
  cs.foldl (noteCall reg) insts

/-! ## そのまま渡す鎖を走らせる -/

/-- 実体を変えると、表のその型の値が、今の実体（なければ新しい実体）に関数を当てたものになる。 -/
theorem exec_modifyInstance (m : Middleware) (f : Instance → Instance) (s : Session) :
    (modifyInstance m f).exec s = (.ok ⟨⟩, { s with request := { s.request with
      instances := assocSet s.request.instances m.key (f ((assocGet? s.request.instances m.key).getD m.fresh)) } }) := by
  unfold modifyInstance
  rw [exec_bind_ok (exec_instanceOf m s), exec_modify]
  unfold withInstance
  split
  · rfl
  · next hnone =>
    -- 足したばかりの実体を置き換えるのは、はじめから値を足すのと同じ
    have hnot : m.key ∉ s.request.instances.map (·.1) := fun h => hnone ((isSome_assocGet? _ _).2 h)
    simp only [Bool.not_eq_true, Option.isSome_eq_false_iff, Option.isNone_iff_eq_none] at hnone
    rw [assocSet_append_self hnot, hnone]

/-- そのまま渡すだけで `hook` を上書きした層は、自分の実体に残してから次を同じ引数で呼ぶ。 -/
theorem exec_hookOf_noted {m : Middleware} {hook : String} (hm : m.passThrough = true)
    (hov : m.overrides hook = true) (model : String) (first : Value) (params : List Value) (next : Value → Run Value)
    (s : Session) :
    (hookOf m hook model first next).exec s = (next first).exec
      { s with request := { s.request with instances := noteStep ⟨hook, model, first, params⟩ s.request.instances m } } := by
  unfold hookOf
  cases m with
  | statistics =>
    rw [exec_bind_ok (exec_modifyInstance _ _ s)]
    unfold noteStep
    generalize (assocGet? s.request.instances _).getD _ = i
    cases i <;> rfl
  | base => cases hov
  | custom name hooks _ =>
    rw [exec_bind_ok (exec_modifyInstance _ _ s)]
    unfold noteStep
    generalize (assocGet? s.request.instances _).getD _ = i
    split
    · next b hb =>
      -- 登録されたフックの振る舞いはどれもそのまま渡すだけ
      obtain ⟨k, hk⟩ := mem_of_assocGet? hb
      have hpass : b.isPass = true := List.all_eq_true.1 hm (k, b) hk
      cases b <;> first | cases i <;> rfl | cases hpass
    · cases i <;> rfl

/-- そのまま渡すだけで `hook` を上書きした層を重ねた鎖は、外側から順に実体に残してから終端を呼ぶ。 -/
theorem exec_layers_noted (hook model : String) (params : List Value) :
    ∀ {ms : List Middleware}, (∀ m ∈ ms, m.passThrough = true ∧ m.overrides hook = true) →
      ∀ (first : Value) (terminal : Value → Run Value) (s : Session),
        (layers hook model ms terminal first).exec s = (terminal first).exec
          { s with request := { s.request with
            instances := ms.foldl (noteStep ⟨hook, model, first, params⟩) s.request.instances } }
  | [], _, first, terminal, s => rfl
  | m :: ms, hms, first, terminal, s => by
    have hm := hms m List.mem_cons_self
    rw [show layers hook model (m :: ms) terminal first = hookOf m hook model first (layers hook model ms terminal) from rfl,
      exec_hookOf_noted hm.1 hm.2 model first params,
      exec_layers_noted hook model params (fun m' hm' => hms m' (List.mem_cons_of_mem m hm'))]
    rfl

/-- そのまま渡すだけの中継ぎの下で、鎖は実体の表に `noteCall` を残してから終端を一度呼ぶ。 -/
theorem exec_dispatch_noted {s : Session} (hs : s.PassThrough) (hook model : String) (first : Value)
    (params : List Value) (terminal : Value → Run Value) :
    (dispatch hook model first terminal).exec s = (terminal first).exec
      { s with request := { s.request with
        instances := noteCall s.registry s.request.instances ⟨hook, model, first, params⟩ } } := by
  rw [exec_dispatch, exec_layers_noted hook model params]
  · rfl
  · intro m hm
    obtain ⟨hreg, hov⟩ := List.mem_filter.1 hm
    exact ⟨hs m hreg, hov⟩

/-! ## 状態の変わり方 -/

/-- `t` は `s` と、中継ぎの登録、目録、方言、要求の状態が同じ。 -/
structure Fixed (s t : Session) : Prop where
  registry : t.registry = s.registry
  catalog : t.catalog = s.catalog
  dialect : t.dialect = s.dialect
  request : t.request = s.request

theorem fixed_modifyPool (s : Session) (r : Role) (f : Pool → Pool) : s.Fixed (s.modifyPool r f) :=
  ⟨modifyPool_registry, modifyPool_catalog, modifyPool_dialect, modifyPool_request⟩

/-- `t` は、`s` から呼び出し `cs` の鎖を通り、記録に `es`（新しいものが先頭）を足した状態。
中継ぎの登録、目録、方言は変わらず、要求の状態は鎖が実体に残すものだけ変わる。 -/
structure Called (s t : Session) (cs : List HookCall) (es : List Entry) : Prop where
  registry : t.registry = s.registry
  catalog : t.catalog = s.catalog
  dialect : t.dialect = s.dialect
  request : t.request = { s.request with instances := noteCalls s.registry cs s.request.instances }
  log : t.log = es ++ s.log

theorem Called.refl (s : Session) : s.Called s [] [] := ⟨rfl, rfl, rfl, rfl, rfl⟩

theorem Called.of_fixed {s t : Session} {es : List Entry} (h : s.Fixed t) (hlog : t.log = es ++ s.log) :
    s.Called t [] es :=
  ⟨h.registry, h.catalog, h.dialect, h.request, hlog⟩

theorem Called.trans {s t u : Session} {cs cs' : List HookCall} {es es' : List Entry} (h : s.Called t cs es)
    (h' : t.Called u cs' es') : s.Called u (cs ++ cs') (es' ++ es) where
  registry := h'.registry.trans h.registry
  catalog := h'.catalog.trans h.catalog
  dialect := h'.dialect.trans h.dialect
  request := by rw [h'.request, h.request, h.registry, noteCalls, noteCalls, noteCalls, List.foldl_append]
  log := by rw [h'.log, h.log, List.append_assoc]

theorem Called.noted (s : Session) (c : HookCall) :
    s.Called { s with request := { s.request with instances := noteCall s.registry s.request.instances c } } [c] [] :=
  ⟨rfl, rfl, rfl, rfl, rfl⟩

end Session

namespace Frame

/-- 中継ぎの登録、目録、方言、要求の状態を変えない。 -/
def fixed : Frame where
  rel s t := s.Fixed t
  refl _ := ⟨rfl, rfl, rfl, rfl⟩
  trans h h' := ⟨h'.registry.trans h.registry, h'.catalog.trans h.catalog, h'.dialect.trans h.dialect,
    h'.request.trans h.request⟩

/-- 鎖も文も通さない: `fixed` に加えて記録も変えない。 -/
def calm : Frame := fixed.both log

end Frame

namespace Session

open Run DataAccess.Frame

theorem fixed_execute (r : Role) (sql : String) (params : List Value) : Frame.fixed.Holds (execute r sql params) := by
  have happend : Frame.fixed.Holds (append r sql params) := holds_modify fun _ => ⟨rfl, rfl, rfl, rfl⟩
  unfold execute
  refine happend.bind fun _ => holds_get_bind fun s => ?_
  split
  · exact Frame.fixed.refl s
  · rw [exec_bind_ok (exec_set _ _)]
    split <;> exact fixed_modifyPool _ _ _

theorem fixed_prepared (s : Session) (write : Bool) : s.Fixed (s.prepared write) := by
  unfold prepared
  split
  · exact Frame.fixed.refl s
  · exact fixed_modifyPool _ _ _

/-! ## 呼び出しの並び -/

/-- 呼び出しのうち `execute` の鎖が送る文: 受け取った SQL を方言 `d` の印に直したものと、運ぶ値。 -/
def sent (d : Dialect) (cs : List HookCall) : List (String × List Value) :=
  (cs.filter (·.hook == "execute")).map fun c => (d.convertPlaceholders c.first.text, c.params)

/-- 記録の項目の SQL と値。 -/
def Entry.statement (e : Entry) : String × List Value := (e.sql, e.params)

/-- 条件 `P` を満たしそのまま渡すだけの中継ぎの状態から走らせると、計算はフック `hs` の鎖を順に呼び、
失敗すればその前の部分で止まる。記録に足す文は、`execute` の鎖が送る文（SQL と値）を順に並べたもの
（失敗すればその前の部分）。 -/
def Calls {α : Type} (P : Session → Prop) (hs : List String) (x : Run α) : Prop :=
  ∀ s, P s → s.PassThrough → ∃ cs es, s.Called (x.exec s).2 cs es ∧
    cs.map (·.hook) <+: hs ∧ es.reverse.map Entry.statement <+: sent s.dialect cs ∧
    ∀ a, (x.exec s).1 = .ok a → cs.map (·.hook) = hs ∧ es.reverse.map Entry.statement = sent s.dialect cs

/-- 条件が目録と方言だけで決まる。 -/
def SchemaOnly (P : Session → Prop) : Prop := ∀ s t, t.catalog = s.catalog → t.dialect = s.dialect → P s → P t

variable {α β : Type} {P : Session → Prop}

theorem schemaOnly_true : SchemaOnly fun _ => True := fun _ _ _ _ _ => trivial

theorem Calls.of_calm {x : Run α} (h : Frame.calm.Holds x) : Calls P [] x := by
  intro s _ _
  refine ⟨[], [], Called.of_fixed (h s).1 (h s).2, List.nil_prefix, List.nil_prefix, fun _ _ => ⟨rfl, rfl⟩⟩

theorem Calls.bind {x : Run α} {f : α → Run β} {hs hs' : List String} (hP : SchemaOnly P) (hx : Calls P hs x)
    (hf : ∀ a, Calls P hs' (f a)) : Calls P (hs ++ hs') (x >>= f) := by
  intro s hs₀ hpass
  obtain ⟨cs, es, hc, hpre, hsql, hok⟩ := hx s hs₀ hpass
  rw [exec_bind]
  rcases hxs : x.exec s with ⟨r, t⟩
  rw [hxs] at hc hok
  cases r with
  | error e => exact ⟨cs, es, hc, hpre.trans (List.prefix_append _ _), hsql, fun _ h => nomatch h⟩
  | ok a =>
    obtain ⟨hhooks, hsent⟩ := hok a rfl
    have hpass' : t.PassThrough := fun m hm => hpass m (hc.registry ▸ hm)
    obtain ⟨cs', es', hc', hpre', hsql', hok'⟩ := hf a t (hP s t hc.catalog hc.dialect hs₀) hpass'
    -- 後の呼び出しの並びと文は、前のものに続く
    have hsent_app : sent s.dialect (cs ++ cs') = sent s.dialect cs ++ sent t.dialect cs' := by
      rw [hc.dialect, sent, sent, sent, List.filter_append, List.map_append]
    refine ⟨cs ++ cs', es' ++ es, hc.trans hc', ?_, ?_, fun b hb => ?_⟩
    · rw [List.map_append, hhooks]
      exact List.prefix_append_right_inj _ |>.2 hpre'
    · rw [List.reverse_append, List.map_append, hsent_app, hsent]
      exact List.prefix_append_right_inj _ |>.2 hsql'
    · obtain ⟨h₁, h₂⟩ := hok' b hb
      refine ⟨by rw [List.map_append, hhooks, h₁], ?_⟩
      rw [List.reverse_append, List.map_append, hsent_app, hsent, h₂]

theorem Calls.calm_bind {x : Run α} {f : α → Run β} {hs : List String} (hP : SchemaOnly P) (hx : Frame.calm.Holds x)
    (hf : ∀ a, Calls P hs (f a)) : Calls P hs (x >>= f) :=
  List.nil_append hs ▸ Calls.bind hP (Calls.of_calm hx) hf

theorem Calls.bind_calm {x : Run α} {f : α → Run β} {hs : List String} (hP : SchemaOnly P) (hx : Calls P hs x)
    (hf : ∀ a, Frame.calm.Holds (f a)) : Calls P hs (x >>= f) :=
  List.append_nil hs ▸ Calls.bind hP hx fun a => Calls.of_calm (hf a)

theorem Calls.of_exec {x y : Run α} {hs : List String} (h : ∀ s, P s → x.exec s = y.exec s) (hy : Calls P hs y) :
    Calls P hs x := by
  intro s hs₀ hpass
  rw [h s hs₀]
  exact hy s hs₀ hpass

theorem Calls.dispatch {hook model : String} {first : Value} {terminal : Value → Run Value} {hs : List String}
    (hP : SchemaOnly P) (hh : hook ≠ "execute") (h : ∀ v, Calls P hs (terminal v)) :
    Calls P (hook :: hs) (Session.dispatch hook model first terminal) := by
  intro s hs₀ hpass
  rw [exec_dispatch_noted hpass hook model first []]
  have hn := Called.noted s ⟨hook, model, first, []⟩
  obtain ⟨cs, es, hc, hpre, hsql, hok⟩ := h first
    { s with request := { s.request with instances := noteCall s.registry s.request.instances ⟨hook, model, first, []⟩ } }
    (hP s _ rfl rfl hs₀) hpass
  have hsent : sent s.dialect (⟨hook, model, first, []⟩ :: cs) = sent s.dialect cs := by
    simp [sent, hh]
  refine ⟨⟨hook, model, first, []⟩ :: cs, es, ?_, List.cons_prefix_cons.2 ⟨rfl, hpre⟩, ?_, fun a ha => ?_⟩
  · have := hn.trans hc
    rwa [List.singleton_append, List.append_nil] at this
  · rw [hsent]
    exact hsql
  · obtain ⟨h₁, h₂⟩ := hok a ha
    exact ⟨by rw [List.map_cons, h₁], by rw [hsent]; exact h₂⟩

/-- 文を走らせる `execute` の鎖の終端は、鎖が受け取った SQL の文を高々一度送り、成功すればちょうど一度送る。 -/
theorem calls_run_terminal (cls : String) (st : Statement) (write : Bool) (operation : String)
    (modelName : Option String) (autocommit : Bool) :
    Calls P ["execute"] (Session.dispatch "execute" cls (.str st.sql) fun sql =>
      run ⟨sql.text, st.params⟩ write operation modelName autocommit) := by
  intro s _ hpass
  rw [exec_dispatch_noted hpass "execute" cls (.str st.sql) st.params,
    show (⟨(Value.str st.sql).text, st.params⟩ : Statement) = st from rfl]
  have hn := Called.noted s ⟨"execute", cls, .str st.sql, st.params⟩
  generalize ({ s with request := { s.request with
    instances := noteCall s.registry s.request.instances ⟨"execute", cls, .str st.sql, st.params⟩ } } : Session) = s₁
    at hn ⊢
  have h := run_routes s₁ st write operation modelName autocommit
  have hd : s₁.dialect = s.dialect := hn.dialect
  cases hr : s₁.refuses write autocommit with
  | true =>
    -- 方針に拒まれた文は送らない
    obtain ⟨e, he⟩ := h.refused hr
    rw [he]
    exact ⟨[⟨"execute", cls, .str st.sql, st.params⟩], [], hn, List.prefix_refl _, List.nil_prefix, fun _ ha => nomatch ha⟩
  | false =>
    -- 拒まれない文は一度だけ送る
    have hfix : s₁.Fixed ((run st write operation modelName autocommit).exec s₁).2 := by
      rw [h.runs hr]
      exact Frame.fixed.trans (fixed_prepared s₁ write) (fixed_execute _ _ _ _)
    have hc := hn.trans (@Called.of_fixed _ _ [_] hfix (h.once hr))
    rw [List.append_nil, List.append_nil] at hc
    have hsql : ([⟨(s₁.pool (s₁.destination write)).label, s₁.dialect.convertPlaceholders st.sql, st.params⟩] :
        List Entry).reverse.map Entry.statement = sent s.dialect [⟨"execute", cls, .str st.sql, st.params⟩] := by
      rw [← hd]
      rfl
    exact ⟨_, _, hc, List.prefix_refl _, hsql ▸ List.prefix_refl _, fun _ _ => ⟨rfl, hsql⟩⟩

/-- 条件を満たす状態で、状態を変えずに決まった値を返す計算に続けたものは、続きの呼び出しの並び。 -/
theorem Calls.bind_of_returns {x : Run α} {f : α → Run β} {a : α} {hs : List String}
    (hx : ∀ s, P s → x.exec s = (.ok a, s)) (hf : Calls P hs (f a)) : Calls P hs (x >>= f) :=
  Calls.of_exec (fun s h => by rw [exec_bind_ok (hx s h)]) hf

/-! ## 鎖も文も通さない所 -/

theorem same_firstOf (v : Value) : Frame.same.Holds (firstOf v) := by
  unfold firstOf
  split
  · exact holds_pure _
  · exact holds_lift _

theorem same_keysFromRows (pk : List Column) (rows : List Value) : Frame.same.Holds (keysFromRows pk rows) := by
  unfold keysFromRows
  exact (holds_lift _).bind fun _ => holds_pure _

theorem same_writeKeys (m : Meta) (opts : WriteOptions) (result : Value) (preselected : Option Value) :
    Frame.same.Holds (writeKeys m opts result preselected) := by
  unfold writeKeys
  split
  · exact holds_pure _
  · refine holds_get.bind fun _ => ?_
    split
    · exact holds_pure _
    · exact (same_rowsOf result).bind fun rows => same_keysFromRows _ rows

theorem calm_fromRows (cls : String) (rows : List Value) : Frame.calm.Holds (fromRows cls rows) := by
  intro s
  obtain ⟨n, bo, bs, nb, h, -⟩ := fromRows_footprint cls rows s
  rw [h]
  exact ⟨⟨rfl, rfl, rfl, rfl⟩, rfl⟩

/-! ## 操作の呼び出しの並び -/

section Operations

variable (hP : SchemaOnly P)
include hP

theorem calls_runStatement (cls : String) (st : Statement) (write : Bool) (operation : String) (autocommit : Bool) :
    Calls P ["execute"] (runStatement cls st write operation autocommit) := by
  unfold runStatement
  exact .calm_bind hP (same_requireBound cls).of_same fun _ => .calm_bind hP (same_metaOf cls).of_same fun m =>
    calls_run_terminal cls st write operation (some m.name) autocommit

/-- 検索の SQL は、`query` の鎖の終端で `execute` の鎖を一度呼ぶ。 -/
theorem calls_fetchSql (cls : String) (sql : Value) (params : List Value) :
    Calls P ["query", "execute"] (fetchSql cls sql params) := by
  unfold fetchSql
  exact .dispatch hP (by decide) fun _ => .calm_bind hP (holds_lift _) fun _ =>
    .bind_calm hP (calls_runStatement hP _ _ _ _ _) fun result => (same_rowsOf result).of_same.bind fun rows =>
      (calm_fromRows cls rows).bind fun _ => holds_pure _

theorem calls_selectRows (cls : String) (m : Meta) (conds : Value) (opts : FindOptions) :
    Calls P ["query", "execute"] (selectRows cls m conds opts) := by
  unfold selectRows
  refine .calm_bind hP (same_requireBound cls).of_same fun _ => .calm_bind hP same_context.of_same fun p => ?_
  obtain ⟨d, cat⟩ := p
  exact .calm_bind hP (holds_lift _) fun _ => calls_fetchSql hP _ _ _

theorem calls_find (cls : String) (conds : Value) (opts : FindOptions) :
    Calls P ["find", "query", "execute"] (find cls conds opts) := by
  unfold find findRows
  refine .dispatch hP (by decide) fun conds => .calm_bind hP (same_metaOf cls).of_same fun m =>
    .calm_bind hP (same_findLimitOf cls m).of_same fun limit => ?_
  dsimp only
  -- 上限を確かめるなら、検索の件数を上限より一つ多くし、読んだ後で確かめる
  split
  all_goals try refine .calm_bind hP (holds_lift _) fun _ => ?_
  all_goals
    refine .calm_bind hP (holds_pure _) fun _ => .bind_calm hP (calls_selectRows hP _ _ _ _) fun records => ?_
    first
      | exact (same_checkHardLimit _ _ _ (holds_pure _) _).of_same.bind fun _ => holds_pure _
      | exact holds_pure _

theorem calls_findOne (cls : String) (conds : Value) (opts : FindOptions) :
    Calls P ["find_one", "query", "execute"] (findOne cls conds opts) := by
  unfold findOne findFirst
  exact .dispatch hP (by decide) fun _ => .calm_bind hP (same_requireBound cls).of_same fun _ =>
    .calm_bind hP (same_metaOf cls).of_same fun _ =>
      .bind_calm hP (calls_selectRows hP _ _ _ _) fun records => (same_firstOf records).of_same

theorem calls_findById (cls : String) (keys : Value) (opts : FindOptions) :
    Calls P ["find_by_id", "query", "execute"] (findById cls keys opts) := by
  unfold findById findKeys
  refine .dispatch hP (by decide) fun _ => .calm_bind hP (same_requireBound cls).of_same fun _ =>
    .calm_bind hP (same_metaOf cls).of_same fun _ => .calm_bind hP same_context.of_same fun p => ?_
  obtain ⟨d, cat⟩ := p
  exact .calm_bind hP (holds_lift _) fun _ => .calm_bind hP (holds_lift _) fun _ => calls_fetchSql hP _ _ _

theorem calls_count (cls : String) (conds : Value) (opts : FindOptions) :
    Calls P ["count", "execute"] (count cls conds opts) := by
  unfold count countRows
  refine .dispatch hP (by decide) fun _ => .calm_bind hP (same_requireBound cls).of_same fun _ =>
    .calm_bind hP (same_metaOf cls).of_same fun _ => .calm_bind hP same_context.of_same fun p => ?_
  obtain ⟨d, cat⟩ := p
  refine .calm_bind hP (holds_lift _) fun _ => .bind_calm hP (calls_runStatement hP _ _ _ _ _)
    fun result => (same_rowsOf result).of_same.bind fun rows => ?_
  split
  · exact holds_pure _
  · exact (holds_lift _).bind fun _ => (holds_lift _).bind fun _ => holds_pure _

theorem calls_insert (cls : String) (rows : List Value) (opts : InsertOptions) (operation : String) :
    Calls P ["execute"] (insert cls rows opts operation) := by
  unfold insert
  refine .calm_bind hP (same_metaOf cls).of_same fun m => .calm_bind hP (same_requireBound cls).of_same fun _ =>
    .calm_bind hP (same_checkWrite _ _ _).of_same fun _ => .calm_bind hP same_context.of_same fun p => ?_
  obtain ⟨d, cat⟩ := p
  refine .calm_bind hP (holds_lift _) fun st => .bind_calm hP (calls_runStatement hP _ _ _ _ _) fun result => ?_
  -- キーを答える所は結果の行を読むだけ
  split
  · exact holds_pure _
  · split
    · exact (same_rowsOf result).of_same.bind fun rows => (same_keysFromRows _ rows).of_same
    · exact (same_reportedKeys m rows result).of_same

theorem calls_create (cls : String) (values : Value) (opts : InsertOptions) :
    Calls P ["create", "execute"] (create cls values opts) := by
  unfold create
  exact .dispatch hP (by decide) fun _ => calls_insert hP _ _ _ _

theorem calls_createMany (cls : String) (rows : Value) (opts : InsertOptions) :
    Calls P ["create_many", "execute"] (createMany cls rows opts) := by
  unfold createMany
  exact .dispatch hP (by decide) fun _ => .calm_bind hP (holds_lift _) fun _ => calls_insert hP _ _ _ _

theorem calls_executeSql (cls : String) (sql : Value) (params : List Value) (autocommit : Bool) :
    Calls P ["execute"] (executeSql cls sql params autocommit) := by
  unfold executeSql
  exact .calm_bind hP (same_requireBound cls).of_same fun _ => .calm_bind hP (same_adaptAll params).of_same
    fun _ => .calm_bind hP (holds_lift _) fun _ => calls_runStatement hP _ _ _ _ _

theorem calls_query (cls : String) (sql : Value) (params : List Value) :
    Calls P ["query", "execute"] (query cls sql params) := by
  unfold query
  exact .calm_bind hP (same_requireBound cls).of_same fun _ => .calm_bind hP (same_adaptAll params).of_same
    fun _ => calls_fetchSql hP _ _ _

/-- 関連の組の検索は、`query` の鎖の終端で `execute` の鎖を一度呼ぶ。 -/
theorem calls_queryGroups (owner : String) (rel : Relation) (keys : List Value) :
    Calls P ["query", "execute"] (queryGroups owner rel keys) := by
  unfold queryGroups
  refine .calm_bind hP (same_metaOf _).of_same fun target => .calm_bind hP (same_hardLimitOf rel).of_same
    fun limit => ?_
  dsimp only
  split
  · exact .calm_bind hP (holds_pure _) fun _ => .bind_calm hP (calls_selectRows hP _ _ _ _)
      fun found => (same_groupRows rel found).of_same
  · refine .calm_bind hP (holds_lift _) fun _ => .bind_calm hP (calls_selectRows hP _ _ _ _) fun found => ?_
    split
    · exact (same_groupRows rel found).of_same
    · exact (same_checkHardLimit _ _ _ ((same_metaOf owner).bind fun _ => holds_pure _) _).of_same.bind
        fun _ => (same_groupRows rel found).of_same

/-! ### 書き込みの前にキーを読む操作

方言が `RETURNING` を持たず、キーを答えるよう求められ、モデルに主キーがあれば、書き込みの前にキーを読む
`execute` の鎖をもう一度呼ぶ。 -/

section Preselect

variable {m : Meta} {d : Dialect} (hd : ∀ s, P s → s.dialect = d)
include hd

theorem calls_preselect (cls : String) (conds : Value) (opts : WriteOptions) (operation : String) {b : Bool}
    (hb : (opts.returning.truthy && !m.primaryKey.isEmpty && !d.supportsReturning) = b) :
    Calls P (if b then ["execute"] else []) (preselect cls m conds opts operation) := by
  unfold preselect
  refine .bind_of_returns (fun s h => by rw [exec_needsPreselect, hd s h, hb]) ?_
  cases b
  · exact .of_calm (holds_pure _)
  · refine .calm_bind hP same_context.of_same fun p => ?_
    obtain ⟨d', cat⟩ := p
    exact .calm_bind hP (holds_lift _) fun st => .bind_calm hP (calls_runStatement hP _ _ _ _ _) fun result =>
      (same_rowsOf result).of_same.bind fun rows => (same_keysFromRows _ rows).of_same.bind fun _ => holds_pure _

variable (hm : ∀ s, P s → s.catalog.metaOf cls = .ok m)
include hm

/-- 更新と削除の終端: キーを読むなら `execute` の鎖を二度、読まなければ一度呼ぶ。 -/
theorem calls_writeRows (opts : WriteOptions) (operation : String)
    (build : Dialect → Catalog → Meta → Except Fault Statement) (conds : Value) :
    Calls P ((if opts.returning.truthy && !m.primaryKey.isEmpty && !d.supportsReturning then ["execute"] else []) ++
        ["execute"])
      (metaOf cls >>= fun m => requireBound cls >>= fun _ =>
        checkWrite operation (some m.name) opts.autocommit.truthy >>= fun _ => context >>= fun dc =>
        lift (build dc.1 dc.2 m) >>= fun st => preselect cls m conds opts operation >>= fun keys =>
        runStatement cls st true operation opts.autocommit.truthy >>= fun result => writeKeys m opts result keys) := by
  refine .bind_of_returns (fun s h => exec_metaOf (hm s h)) ?_
  exact .calm_bind hP (same_requireBound cls).of_same fun _ => .calm_bind hP (same_checkWrite _ _ _).of_same
    fun _ => .calm_bind hP same_context.of_same fun _ => .calm_bind hP (holds_lift _) fun st =>
      .bind hP (calls_preselect hP hd cls conds opts operation rfl) fun keys =>
        .bind_calm hP (calls_runStatement hP _ _ _ _ _) fun result => (same_writeKeys m opts result keys).of_same

theorem calls_update (conds values : Value) (opts : WriteOptions) :
    Calls P ("update" :: ((if opts.returning.truthy && !m.primaryKey.isEmpty && !d.supportsReturning then
        ["execute"] else []) ++ ["execute"])) (update cls conds values opts) := by
  unfold update updateRows
  exact .dispatch hP (by decide) fun conds =>
    calls_writeRows hP hd hm opts "update" (fun d cat m => Statement.update d cat m conds values opts) conds

theorem calls_delete (conds : Value) (opts : WriteOptions) :
    Calls P ("delete" :: ((if opts.returning.truthy && !m.primaryKey.isEmpty && !d.supportsReturning then
        ["execute"] else []) ++ ["execute"])) (delete cls conds opts) := by
  unfold delete deleteRows
  exact .dispatch hP (by decide) fun conds =>
    calls_writeRows hP hd hm opts "delete" (fun d cat m => Statement.delete d cat m conds opts) conds

theorem calls_updateMany (rows : Value) (keyColumns : List Value) (opts : WriteOptions) :
    Calls P ("update_many" :: ((if opts.returning.truthy && !m.primaryKey.isEmpty && !d.supportsReturning then
        ["execute"] else []) ++ ["execute"])) (updateMany cls rows keyColumns opts) := by
  unfold updateMany updateManyRows
  refine .dispatch hP (by decide) fun rows => .bind_of_returns (fun s h => exec_metaOf (hm s h)) ?_
  refine .calm_bind hP (same_requireBound cls).of_same fun _ => .calm_bind hP (same_checkWrite _ _ _).of_same
    fun _ => .calm_bind hP (holds_lift _) fun rowList => .calm_bind hP holds_get fun _ =>
      .calm_bind hP (holds_lift _) fun st => .bind_of_returns (fun s h => by rw [exec_needsPreselect, hd s h]) ?_
  -- 書き込みの文を走らせてキーを答える所は、キーを読むかによらない
  have tail : ∀ keys, Calls P ["execute"] (do
      let result ← runStatement cls st true "update_many" opts.autocommit.truthy
      writeKeys m opts result keys) := fun keys =>
    .bind_calm hP (calls_runStatement hP _ _ _ _ _) fun result => (same_writeKeys m opts result keys).of_same
  dsimp only
  -- 一括更新はキーを読む前に行の列を解き、行を正規化するが、どちらも鎖を通さない
  cases hb : opts.returning.truthy && !m.primaryKey.isEmpty && !d.supportsReturning
  · exact .calm_bind hP (holds_pure _) tail
  · exact .calm_bind hP (holds_lift _) fun _ => .calm_bind hP (holds_mapM (fun _ => holds_lift _) _) fun _ =>
      .bind hP (calls_preselect hP hd cls _ opts "update_many" hb) tail

end Preselect

end Operations

/-! ## 実体に残るもの

登録された型ごとに実体は一つなので、型 `m` の実体には、`m` が上書きしたフックの呼び出しだけが順に残る。 -/

/-- 呼び出しの並び `cs` のうち型 `m` が上書きしたフックのものを、実体 `i` に順に残したもの。 -/
def replayOn (m : Middleware) (cs : List HookCall) (i : Instance) : Instance :=
  (cs.filter (m.overrides ·.hook)).foldl (fun i c => noteOf c m i) i

theorem assocGet?_foldl_noteStep_of_not_mem (c : HookCall) {k : MiddlewareKey} :
    ∀ {ms : List Middleware}, (∀ m ∈ ms, m.key ≠ k) → ∀ acc, assocGet? (ms.foldl (noteStep c) acc) k = assocGet? acc k
  | [], _, _ => rfl
  | m :: ms, hk, acc => by
    rw [List.foldl_cons, assocGet?_foldl_noteStep_of_not_mem c (fun m' hm' => hk m' (List.mem_cons_of_mem m hm')),
      noteStep, assocGet?_assocSet, if_neg (Ne.symm (hk m List.mem_cons_self))]

/-- 型の見分けが一つずつの層の並びでは、層 `m` の実体に残るのは `m` 自身が残すものだけ。 -/
theorem assocGet?_foldl_noteStep_of_mem (c : HookCall) {m : Middleware} :
    ∀ {ms : List Middleware}, (ms.map (·.key)).Nodup → m ∈ ms → ∀ acc,
      assocGet? (ms.foldl (noteStep c) acc) m.key = some (noteOf c m ((assocGet? acc m.key).getD m.fresh))
  | [], _, hm, _ => nomatch hm
  | m' :: ms, hnd, hm, acc => by
    rw [List.map_cons, List.nodup_cons] at hnd
    rw [List.foldl_cons]
    rcases List.mem_cons.1 hm with rfl | hm
    · -- 残りの層は見分けが違うので、この層が残したものはそのまま
      have hrest : ∀ x ∈ ms, x.key ≠ m.key := fun x hx h => hnd.1 (h ▸ List.mem_map_of_mem hx)
      rw [assocGet?_foldl_noteStep_of_not_mem c hrest, noteStep, assocGet?_assocSet, if_pos rfl]
    · have hne : m'.key ≠ m.key := fun h => hnd.1 (h ▸ List.mem_map_of_mem hm)
      rw [assocGet?_foldl_noteStep_of_mem c hnd.2 hm, noteStep, assocGet?_assocSet, if_neg (Ne.symm hne)]

/-- 型の見分けが一つずつの登録では、鎖の一回の呼び出しで、登録された型 `m` の実体には、`m` がフックを
上書きしていれば `m` の残すものが残り、していなければ何も残らない。 -/
theorem assocGet?_noteCall {reg : List Middleware} (hnd : (reg.map (·.key)).Nodup) {m : Middleware}
    (hm : m ∈ reg) (insts : List (MiddlewareKey × Instance)) (c : HookCall) :
    assocGet? (noteCall reg insts c) m.key =
      if m.overrides c.hook then some (noteOf c m ((assocGet? insts m.key).getD m.fresh))
      else assocGet? insts m.key := by
  have hnd' : ((reg.filter (·.overrides c.hook)).map (·.key)).Nodup :=
    hnd.sublist (List.filter_sublist.map _)
  -- 見分けが同じ登録は `m` だけ
  have hsame : ∀ x ∈ reg, x.key = m.key → x = m := fun x hx h => List.inj_on_of_nodup_map hnd hx hm h
  unfold noteCall
  split
  · next hov =>
    have hmf : m ∈ reg.filter (·.overrides c.hook) := List.mem_filter.2 ⟨hm, hov⟩
    have hfind : (reg.filter (·.overrides c.hook)).reverse.find? (·.key == m.key) = some m := by
      obtain ⟨x, hx⟩ := Option.isSome_iff_exists.1
        ((List.find?_isSome (p := fun x => x.key == m.key)).2 ⟨m, List.mem_reverse.2 hmf, beq_self_eq_true m.key⟩)
      have hxk : x.key = m.key := by simpa using List.find?_some hx
      rw [hx, hsame x (List.mem_filter.1 (List.mem_reverse.1 (List.mem_of_find?_eq_some hx))).1 hxk]
    rw [assocGet?_foldl_noteStep_of_mem c hnd' hmf, assocGet?_withInstances, hfind]
    cases assocGet? insts m.key <;> rfl
  · next hov =>
    have hnot : ∀ x ∈ reg.filter (·.overrides c.hook), x.key ≠ m.key := fun x hx h => by
      obtain ⟨hxr, hxo⟩ := List.mem_filter.1 hx
      exact hov (hsame x hxr h ▸ hxo)
    rw [assocGet?_foldl_noteStep_of_not_mem c hnot,
      assocGet?_withInstances_of_not_mem fun x hx => hnot x (List.mem_reverse.1 hx)]

/-- 型の見分けが一つずつの登録では、登録された型 `m` の実体には、呼び出しの並びのうち `m` が上書きした
フックのものだけが順に残る。 -/
theorem assocGet?_noteCalls {reg : List Middleware} (hnd : (reg.map (·.key)).Nodup) {m : Middleware}
    (hm : m ∈ reg) :
    ∀ (cs : List HookCall) (insts : List (MiddlewareKey × Instance)),
      assocGet? (noteCalls reg cs insts) m.key =
        if (cs.filter (m.overrides ·.hook)).isEmpty then assocGet? insts m.key
        else some (replayOn m cs ((assocGet? insts m.key).getD m.fresh))
  | [], _ => rfl
  | c :: cs, insts => by
    rw [noteCalls, List.foldl_cons, ← noteCalls, assocGet?_noteCalls hnd hm cs, assocGet?_noteCall hnd hm]
    unfold replayOn
    by_cases hov : m.overrides c.hook
    · rw [List.filter_cons_of_pos (p := fun x : HookCall => m.overrides x.hook) hov, if_pos hov]
      cases hrest : (cs.filter (m.overrides ·.hook)).isEmpty
      · simp
      · rw [List.isEmpty_iff.1 hrest]
        simp
    · rw [List.filter_cons_of_neg (p := fun x : HookCall => m.overrides x.hook) hov, if_neg hov]

/-! ### 数える型の回数 -/

/-- 数える実体の区分 `k` の回数（数える実体でなければ 0）。 -/
def statCount (i : Instance) (k : String) : Nat :=
  match i with
  | .counts c => (assocGet? c k).getD 0
  | _ => 0

theorem noteOf_statistics_keys (c : HookCall) (l : List (String × Nat)) :
    ∃ l', noteOf c .statistics (.counts l) = .counts l' ∧ l'.map (·.1) = l.map (·.1) := by
  refine ⟨_, rfl, ?_⟩
  rw [List.map_map]
  refine List.map_congr_left fun kn _ => ?_
  obtain ⟨k, n⟩ := kn
  by_cases h : k = bucketOf c.hook <;> simp [h]

theorem statCount_noteOf (c : HookCall) {l : List (String × Nat)} {k : String} (hk : k ∈ l.map (·.1)) :
    statCount (noteOf c .statistics (.counts l)) k = statCount (.counts l) k + if bucketOf c.hook = k then 1 else 0 := by
  obtain ⟨kn, hkn, hfind⟩ : ∃ kn, l.find? (·.1 == k) = some kn ∧ kn.1 = k := by
    obtain ⟨x, hx, rfl⟩ := List.mem_map.1 hk
    obtain ⟨y, hy⟩ := Option.isSome_iff_exists.1
      ((List.find?_isSome (p := fun kn : String × Nat => kn.1 == x.1)).2 ⟨x, hx, beq_self_eq_true _⟩)
    exact ⟨y, hy, by simpa using List.find?_some hy⟩
  -- 増やしても区分の名前は変わらないので、同じ組が見つかる
  have hpred : ((fun kn : String × Nat => kn.1 == k) ∘
      fun kn : String × Nat => if kn.1 == bucketOf c.hook then (kn.1, kn.2 + 1) else (kn.1, kn.2)) =
      (·.1 == k) := by
    funext kn
    by_cases h : kn.1 = bucketOf c.hook <;> simp [h]
  simp only [statCount, noteOf, assocGet?, List.find?_map, hpred, hkn, Option.map_some, Option.getD_some]
  subst hfind
  by_cases h : kn.1 = bucketOf c.hook
  · simp [h]
  · simp [h, Ne.symm h]

/-- 数える型はどのフックも上書きするので、どの呼び出しでも区分の回数を一つ足す。 -/
theorem statCount_replayOn (k : String) :
    ∀ (cs : List HookCall) {l : List (String × Nat)}, k ∈ l.map (·.1) →
      statCount (replayOn .statistics cs (.counts l)) k =
        statCount (.counts l) k + (cs.filter (bucketOf ·.hook == k)).length
  | [], _, _ => rfl
  | c :: cs, l, hk => by
    obtain ⟨l', hl', hkeys⟩ := noteOf_statistics_keys c l
    have hstep : replayOn .statistics (c :: cs) (.counts l) = replayOn .statistics cs (.counts l') := by
      rw [← hl']
      rfl
    rw [hstep, statCount_replayOn k cs (hkeys ▸ hk), ← hl', statCount_noteOf c hk, List.filter_cons]
    by_cases h : bucketOf c.hook = k
    · simp only [h, beq_self_eq_true, if_true, List.length_cons]
      omega
    · simp [h]

theorem replayOn_custom (name : String) (hooks : List (String × Behaviour)) (state : List String)
    (cs : List HookCall) (es : List String) :
    replayOn (.custom name hooks state) cs (.log es) =
      .log (es ++ (cs.filter ((Middleware.custom name hooks state).overrides ·.hook)).map (·.mark)) := by
  unfold replayOn
  generalize cs.filter ((Middleware.custom name hooks state).overrides ·.hook) = calls
  induction calls generalizing es with
  | nil => rw [List.foldl_nil, List.map_nil, List.append_nil]
  | cons c calls ih =>
    rw [List.foldl_cons, List.map_cons, ← List.singleton_append, ← List.append_assoc]
    exact ih (es ++ [c.mark])

theorem Calls.of_fails {α : Type} {P : Session → Prop} {x : Run α} {hs : List String}
    (h : ∀ s, P s → ∃ e, x.exec s = (.error e, s)) : Calls P hs x := by
  intro s hs₀ _
  obtain ⟨e, he⟩ := h s hs₀
  rw [he]
  exact ⟨[], [], Called.refl s, List.nil_prefix, List.nil_prefix, fun _ ha => nomatch ha⟩

theorem calls_metaOf_bind_unknown {α : Type} {cls : String} {f : Meta → Run α} {hs : List String} :
    Calls (fun s => ∃ e, s.catalog.metaOf cls = .error e) hs (metaOf cls >>= f) := by
  refine .of_fails fun s ⟨e, he⟩ => ⟨e, exec_bind_error ?_ f⟩
  unfold metaOf
  rw [exec_bind_ok (exec_get s), exec_lift, he]

/-- 型の見分けが一つずつの登録に数える型があれば、その区分 `k` の回数には、呼び出しのうちフックの区分が `k` の
ものの数が足される。 -/
theorem statCount_noteCalls {reg : List Middleware} (hnd : (reg.map (·.key)).Nodup) (hs : Middleware.statistics ∈ reg)
    (cs : List HookCall) (insts : List (MiddlewareKey × Instance)) {l : List (String × Nat)} {k : String}
    (hl : (assocGet? insts .statistics).getD Middleware.statistics.fresh = .counts l) (hk : k ∈ l.map (·.1)) :
    statCount ((assocGet? (noteCalls reg cs insts) .statistics).getD Middleware.statistics.fresh) k =
      statCount (.counts l) k + (cs.filter (bucketOf ·.hook == k)).length := by
  have hall : cs.filter (Middleware.statistics.overrides ·.hook) = cs := List.filter_eq_self.2 fun _ _ => rfl
  rw [show MiddlewareKey.statistics = Middleware.statistics.key from rfl, assocGet?_noteCalls hnd hs, hall,
    show Middleware.statistics.key = MiddlewareKey.statistics from rfl]
  split
  · next hempty =>
    rw [List.isEmpty_iff.1 hempty, hl]
    rfl
  · rw [Option.getD_some, hl, statCount_replayOn k cs hk]

/-- 型の見分けが一つずつの登録にある作った型の足跡には、その型が上書きしたフックの呼び出しの足跡が順に足される。 -/
theorem log_noteCalls {reg : List Middleware} (hnd : (reg.map (·.key)).Nodup) {name : String}
    {hooks : List (String × Behaviour)} {state : List String} (hm : .custom name hooks state ∈ reg)
    (cs : List HookCall) (insts : List (MiddlewareKey × Instance)) {es : List String}
    (hl : (assocGet? insts (.custom name)).getD (.log state) = .log es) :
    (assocGet? (noteCalls reg cs insts) (.custom name)).getD (.log state) =
      .log (es ++ (cs.filter ((Middleware.custom name hooks state).overrides ·.hook)).map (·.mark)) := by
  rw [show MiddlewareKey.custom name = (Middleware.custom name hooks state).key from rfl, assocGet?_noteCalls hnd hm,
    show (Middleware.custom name hooks state).key = MiddlewareKey.custom name from rfl]
  split
  · next hempty =>
    rw [List.isEmpty_iff.1 hempty, hl, List.map_nil, List.append_nil]
  · rw [Option.getD_some, show (Middleware.custom name hooks state).fresh = .log state from rfl, hl, replayOn_custom]

theorem schemaOnly_metaOf_error (cls : String) : SchemaOnly fun s => ∃ e, s.catalog.metaOf cls = .error e := by
  intro s t hc _ h
  show ∃ e, t.catalog.metaOf cls = .error e
  rw [hc]
  exact h

theorem schemaOnly_metaOf_dialect (cls : String) (m : Meta) (d : Dialect) :
    SchemaOnly fun s => s.catalog.metaOf cls = .ok m ∧ s.dialect = d := by
  intro s t hc hd h
  show t.catalog.metaOf cls = .ok m ∧ t.dialect = d
  rw [hc, hd]
  exact h

/-! ### モデルが目録にない書き込み -/

theorem calls_update_unknown (cls : String) (conds values : Value) (opts : WriteOptions) :
    Calls (fun s => ∃ e, s.catalog.metaOf cls = .error e) ["update"] (update cls conds values opts) := by
  unfold update updateRows
  exact .dispatch (schemaOnly_metaOf_error cls) (by decide) fun _ => calls_metaOf_bind_unknown

theorem calls_delete_unknown (cls : String) (conds : Value) (opts : WriteOptions) :
    Calls (fun s => ∃ e, s.catalog.metaOf cls = .error e) ["delete"] (delete cls conds opts) := by
  unfold delete deleteRows
  exact .dispatch (schemaOnly_metaOf_error cls) (by decide) fun _ => calls_metaOf_bind_unknown

theorem calls_updateMany_unknown (cls : String) (rows : Value) (keyColumns : List Value) (opts : WriteOptions) :
    Calls (fun s => ∃ e, s.catalog.metaOf cls = .error e) ["update_many"] (updateMany cls rows keyColumns opts) := by
  unfold updateMany updateManyRows
  exact .dispatch (schemaOnly_metaOf_error cls) (by decide) fun _ => calls_metaOf_bind_unknown

end Session

/-! ## 操作ごとのフックの並び -/

open Session

/-- 中継ぎがどれもそのまま次へ渡すだけなら、モデルの操作はそれぞれ決まったフックの鎖を順に呼び、失敗すれば
その前の部分で止まる。文を送るのは `execute` の鎖の終端だけで、送る文はその鎖が受け取った SQL を方言の印に
直したものと、その鎖が運ぶ文の値。更新、削除、一括更新は、方言が `RETURNING` を持たず、キーを答えるよう求められ、モデルに主キーが
あるときだけ、書き込みの前にキーを読む `execute` の鎖をもう一度呼ぶ（モデルが目録になければ自分のフックだけ）。
型の見分けが一つずつの登録では、数える型の区分 `k` の回数には呼び出しのうち区分が `k` のものの数が足され、
作った型の足跡には、その型が上書きしたフックの呼び出しの足跡が順に足される。 -/
theorem operations_dispatch_hook_sequences :
    (∀ cls conds opts, Calls (fun _ => True) ["find", "query", "execute"] (find cls conds opts)) ∧
    (∀ cls conds opts, Calls (fun _ => True) ["find_one", "query", "execute"] (findOne cls conds opts)) ∧
    (∀ cls keys opts, Calls (fun _ => True) ["find_by_id", "query", "execute"] (findById cls keys opts)) ∧
    (∀ cls conds opts, Calls (fun _ => True) ["count", "execute"] (count cls conds opts)) ∧
    (∀ cls values opts, Calls (fun _ => True) ["create", "execute"] (create cls values opts)) ∧
    (∀ cls rows opts, Calls (fun _ => True) ["create_many", "execute"] (createMany cls rows opts)) ∧
    (∀ cls sql params autocommit, Calls (fun _ => True) ["execute"] (executeSql cls sql params autocommit)) ∧
    (∀ cls sql params, Calls (fun _ => True) ["query", "execute"] (query cls sql params)) ∧
    (∀ owner rel keys, Calls (fun _ => True) ["query", "execute"] (queryGroups owner rel keys)) ∧
    (∀ cls (m : Meta) (d : Dialect) conds values (opts : WriteOptions),
      Calls (fun s => s.catalog.metaOf cls = .ok m ∧ s.dialect = d)
        ("update" :: ((if opts.returning.truthy && !m.primaryKey.isEmpty && !d.supportsReturning then ["execute"]
          else []) ++ ["execute"])) (update cls conds values opts) ∧
      Calls (fun s => s.catalog.metaOf cls = .ok m ∧ s.dialect = d)
        ("delete" :: ((if opts.returning.truthy && !m.primaryKey.isEmpty && !d.supportsReturning then ["execute"]
          else []) ++ ["execute"])) (delete cls conds opts)) ∧
    (∀ cls (m : Meta) (d : Dialect) rows keyColumns (opts : WriteOptions),
      Calls (fun s => s.catalog.metaOf cls = .ok m ∧ s.dialect = d)
        ("update_many" :: ((if opts.returning.truthy && !m.primaryKey.isEmpty && !d.supportsReturning then ["execute"]
          else []) ++ ["execute"])) (updateMany cls rows keyColumns opts)) ∧
    (∀ cls conds values rows keyColumns (opts : WriteOptions),
      Calls (fun s => ∃ e, s.catalog.metaOf cls = .error e) ["update"] (update cls conds values opts) ∧
      Calls (fun s => ∃ e, s.catalog.metaOf cls = .error e) ["delete"] (delete cls conds opts) ∧
      Calls (fun s => ∃ e, s.catalog.metaOf cls = .error e) ["update_many"] (updateMany cls rows keyColumns opts)) ∧
    (∀ (reg : List Middleware) cs insts (l : List (String × Nat)) k, (reg.map (·.key)).Nodup →
      Middleware.statistics ∈ reg → (assocGet? insts .statistics).getD Middleware.statistics.fresh = .counts l →
      k ∈ l.map (·.1) →
      statCount ((assocGet? (noteCalls reg cs insts) .statistics).getD Middleware.statistics.fresh) k =
        statCount (.counts l) k + (cs.filter (bucketOf ·.hook == k)).length) ∧
    (∀ (reg : List Middleware) cs insts name hooks state es, (reg.map (·.key)).Nodup →
      .custom name hooks state ∈ reg → (assocGet? insts (.custom name)).getD (.log state) = .log es →
      (assocGet? (noteCalls reg cs insts) (.custom name)).getD (.log state) =
        .log (es ++ (cs.filter ((Middleware.custom name hooks state).overrides ·.hook)).map (·.mark))) :=
  have hT := schemaOnly_true
  ⟨calls_find hT, calls_findOne hT, calls_findById hT, calls_count hT, calls_create hT, calls_createMany hT,
    calls_executeSql hT, calls_query hT, calls_queryGroups hT,
    fun cls m d conds values opts =>
      have hP := schemaOnly_metaOf_dialect cls m d
      ⟨calls_update hP (fun _ h => h.2) (fun _ h => h.1) conds values opts,
        calls_delete hP (fun _ h => h.2) (fun _ h => h.1) conds opts⟩,
    fun cls m d rows keyColumns opts =>
      calls_updateMany (schemaOnly_metaOf_dialect cls m d) (fun _ h => h.2) (fun _ h => h.1) rows keyColumns opts,
    fun cls conds values rows keyColumns opts =>
      ⟨calls_update_unknown cls conds values opts, calls_delete_unknown cls conds opts,
        calls_updateMany_unknown cls rows keyColumns opts⟩,
    fun _ cs insts _ _ hnd hs hl hk => statCount_noteCalls hnd hs cs insts hl hk,
    fun _ cs insts _ _ _ _ hnd hm hl => log_noteCalls hnd hm cs insts hl⟩

/-- 主キーでの検索を数える型は、区分 `find_one` に数える。 -/
theorem statistics_counts_find_by_id_as_find_one :
    statCount ((assocGet? (noteCalls [.statistics] [⟨"find_by_id", "User", .int 1, []⟩, ⟨"query", "User", .str "q", []⟩,
      ⟨"execute", "User", .str "q", [.int 1]⟩] []) .statistics).getD Middleware.statistics.fresh) "find_one" = 1 := by
  rw [operations_dispatch_hook_sequences.2.2.2.2.2.2.2.2.2.2.2.2.1 [.statistics] _ [] (statBuckets.map (·, 0))
    "find_one" (by decide) List.mem_cons_self rfl (by decide)]
  decide

example : statCount ((assocGet? ((findById "User" (.int 1) {}).exec (forumSession [.statistics])).2.request.instances
    .statistics).getD Middleware.statistics.fresh) "find_one" = 1 := by
  decide +kernel

end DataAccess
