import Mathlib.Data.List.Nodup
import DataAccess.Session.Script
import DataAccess.Proofs.Footprint
/-!
# 中継ぎの鎖の形

鎖を組む `buildChain` は登録を最後のものから順に見て、`hook` を上書きした型の層で終端を包んでいく。
できる鎖は、登録された中継ぎのうち `hook` を上書きした型を登録の順に外側から重ね、終端を包んだもの
（`layers`）。各層は内側の残りを次として受け取るので、次を呼ばなくても、何度呼んでも、引数を変えて
呼んでもよい。

* 鎖を組みながら、上書きした型の実体が今の要求になければ新しく作る（登録の逆の順、`withInstances`）。
  上書きしない型の実体には触れず、既にある実体は作り直さずに使う。作った型の新しい実体は型の状態を
  写したもので、鎖は型そのもの（登録）を変えない。
* 要求の実体の表は型ごとに高々一つ（`UniqueKeys`）で、鎖はこれを保つ。
* 新しい要求の区切りは実体も書き手に寄せる期間もない状態から始まり、抜けると前の要求に戻る。
* 登録は型ごとに高々一つで、外すとその型だけが消える。
-/

namespace DataAccess

/-- 型の見分けの比べ方は等しさと同じ。 -/
instance : LawfulBEq MiddlewareKey where
  rfl {a} := by
    cases a with
    | custom n => exact beq_self_eq_true n
    | _ => rfl
  eq_of_beq {a b} h := by
    cases a <;> cases b <;> first | rfl | exact Bool.noConfusion h | skip
    exact congrArg MiddlewareKey.custom (eq_of_beq h)

/-! ## 連想の並びのキー -/

section Keys

variable {α β : Type} [BEq α] [LawfulBEq α] [DecidableEq α]

/-- キーが一つずつしかない連想の並び。 -/
def UniqueKeys (xs : List (α × β)) : Prop := (xs.map (·.1)).Nodup

omit [DecidableEq α] in
theorem isSome_assocGet? (xs : List (α × β)) (k : α) :
    (assocGet? xs k).isSome ↔ k ∈ xs.map (·.1) := by
  unfold assocGet?
  rw [Option.isSome_map, List.find?_isSome]
  simp

omit [LawfulBEq α] [DecidableEq α] in
theorem assocGet?_append (xs ys : List (α × β)) (k : α) :
    assocGet? (xs ++ ys) k = (assocGet? xs k).or (assocGet? ys k) := by
  unfold assocGet?
  rw [List.find?_append]
  cases xs.find? (·.1 == k) <;> rfl

theorem keys_assocSet (xs : List (α × β)) (k : α) (v : β) :
    (assocSet xs k v).map (·.1) = if k ∈ xs.map (·.1) then xs.map (·.1) else xs.map (·.1) ++ [k] := by
  unfold assocSet
  have hany : xs.any (·.1 == k) = true ↔ k ∈ xs.map (·.1) := by simp
  by_cases hk : k ∈ xs.map (·.1)
  · rw [if_pos (hany.2 hk), if_pos hk, List.map_map]
    refine List.map_congr_left fun kv _ => ?_
    by_cases h : kv.1 = k <;> simp [h]
  · rw [if_neg (mt hany.1 hk), if_neg hk, List.map_append]
    rfl

/-- 並びにないキーを足してすぐ置き換えるのは、はじめから置き換えた値を足すのと同じ。 -/
theorem assocSet_append_self {xs : List (α × β)} {k : α} (hk : k ∉ xs.map (·.1)) (v v' : β) :
    assocSet (xs ++ [(k, v)]) k v' = assocSet xs k v' := by
  have hxs : ∀ kv ∈ xs, kv.1 ≠ k := fun kv hkv h => hk (List.mem_map.2 ⟨kv, hkv, h⟩)
  have hany : xs.any (·.1 == k) = false := List.any_eq_false.2 fun kv hkv => by simpa using hxs kv hkv
  have hid : xs.map (fun kv => if kv.1 == k then (k, v') else kv) = xs :=
    (List.map_congr_left (g := id) fun kv hkv => by simp [hxs kv hkv]).trans (List.map_id xs)
  unfold assocSet
  rw [if_pos (show (xs ++ [(k, v)]).any (·.1 == k) = true by simp),
    if_neg (show ¬xs.any (·.1 == k) = true by simp [hany]), List.map_append, hid]
  simp

theorem UniqueKeys.assocSet {xs : List (α × β)} (h : UniqueKeys xs) (k : α) (v : β) :
    UniqueKeys (DataAccess.assocSet xs k v) := by
  unfold UniqueKeys at h ⊢
  rw [keys_assocSet]
  split
  · exact h
  · next hk =>
    rw [← List.concat_eq_append]
    exact h.concat hk

end Keys

namespace Session

open Run

/-! ## 要求ごとの実体 -/

/-- 型 `m` の実体がなければ、新しい実体を表の末尾に足す。 -/
def withInstance (insts : List (MiddlewareKey × Instance)) (m : Middleware) : List (MiddlewareKey × Instance) :=
  if (assocGet? insts m.key).isSome then insts else insts ++ [(m.key, m.fresh)]

/-- 型 `ms` の実体を順に、なければ作って足す。 -/
def withInstances (ms : List Middleware) (insts : List (MiddlewareKey × Instance)) :
    List (MiddlewareKey × Instance) :=
  ms.foldl withInstance insts

/-- 実体を引くと、表にあればそれを、なければ新しい実体を返し、表は `withInstance` になる。 -/
theorem exec_instanceOf (m : Middleware) (s : Session) :
    (instanceOf m).exec s = (.ok ((assocGet? s.request.instances m.key).getD m.fresh),
      { s with request := { s.request with instances := withInstance s.request.instances m } }) := by
  unfold instanceOf withInstance
  rw [exec_bind_ok (exec_get s)]
  split
  · next i h =>
    rw [h]
    rfl
  · next h =>
    rw [h]
    rfl

theorem assocGet?_withInstance (insts : List (MiddlewareKey × Instance)) (m : Middleware) (k : MiddlewareKey) :
    assocGet? (withInstance insts m) k =
      (assocGet? insts k).or (if m.key = k then some m.fresh else none) := by
  unfold withInstance
  split
  · next hsome =>
    by_cases hk : m.key = k
    · subst hk
      obtain ⟨i, hi⟩ := Option.isSome_iff_exists.1 hsome
      rw [hi]
      rfl
    · rw [if_neg hk, Option.or_none]
  · rw [assocGet?_append]
    by_cases hk : m.key = k <;> simp [assocGet?, hk]

/-- 実体を足し終えた表の値は、前の値か、なければ `ms` の中でその型の最初のものの新しい実体。 -/
theorem assocGet?_withInstances (k : MiddlewareKey) :
    ∀ (ms : List Middleware) (insts : List (MiddlewareKey × Instance)),
      assocGet? (withInstances ms insts) k = (assocGet? insts k).or ((ms.find? (·.key == k)).map (·.fresh))
  | [], insts => by rw [List.find?_nil, Option.map_none, Option.or_none]; rfl
  | m :: ms, insts => by
    rw [withInstances, List.foldl_cons, ← withInstances, assocGet?_withInstances k ms, assocGet?_withInstance,
      List.find?_cons]
    by_cases hk : m.key = k
    · cases assocGet? insts k <;> simp [hk]
    · simp [beq_eq_false_iff_ne.2 hk, hk]

theorem UniqueKeys.withInstance {insts : List (MiddlewareKey × Instance)} (h : UniqueKeys insts) (m : Middleware) :
    UniqueKeys (Session.withInstance insts m) := by
  unfold Session.withInstance
  split
  · exact h
  · next hk =>
    have hnot : m.key ∉ insts.map (·.1) := fun hm => hk ((isSome_assocGet? insts m.key).2 hm)
    unfold UniqueKeys at h ⊢
    rw [List.map_append, List.map_singleton, ← List.concat_eq_append]
    exact h.concat hnot

theorem UniqueKeys.withInstances :
    ∀ (ms : List Middleware) {insts : List (MiddlewareKey × Instance)}, UniqueKeys insts →
      UniqueKeys (Session.withInstances ms insts)
  | [], _, h => h
  | m :: ms, _, h => UniqueKeys.withInstances ms (UniqueKeys.withInstance h m)

/-- 鎖を組む一段は、型が `hook` を上書きしていれば、その実体を（なければ作って）表に足す。 -/
theorem exec_wrapStep_instances (hook model : String) (handler : Value → Run Value) (m : Middleware) (s : Session) :
    (wrapStep hook model handler m).exec s =
      (.ok (layers hook model ([m].filter (·.overrides hook)) handler), { s with request := { s.request with
        instances := withInstances ([m].filter (·.overrides hook)) s.request.instances } }) := by
  unfold wrapStep
  by_cases hov : m.overrides hook
  · rw [if_pos hov, exec_bind_ok (exec_instanceOf m s)]
    simp only [List.filter_cons, hov, if_true, List.filter_nil]
    rfl
  · rw [if_neg hov]
    simp only [List.filter_cons, hov, List.filter_nil]
    rfl

/-- 鎖を組む畳み込みは、上書きした型の実体を見た順に足し、後に見た型ほど外側の層にした関数を返す。 -/
theorem exec_foldlM_wrapStep_instances (hook model : String) :
    ∀ (ms : List Middleware) (handler : Value → Run Value) (s : Session),
      (ms.foldlM (wrapStep hook model) handler).exec s =
        (.ok (layers hook model (ms.reverse.filter (·.overrides hook)) handler), { s with request := { s.request with
          instances := withInstances (ms.filter (·.overrides hook)) s.request.instances } })
  | [], handler, s => rfl
  | m :: ms, handler, s => by
    rw [List.foldlM_cons, exec_bind_ok (exec_wrapStep_instances hook model handler m s),
      exec_foldlM_wrapStep_instances hook model ms, List.reverse_cons, List.filter_append, layers_append,
      List.filter_cons]
    by_cases hov : m.overrides hook <;> simp [hov, withInstances]

/-- 鎖を組むと、登録のうち `hook` を上書きした型を登録の順に外側から重ねた関数ができ、それらの型の
実体が登録の逆の順に（なければ作って）足される。 -/
theorem exec_buildChain_instances (hook model : String) (terminal : Value → Run Value) (s : Session) :
    (buildChain hook model terminal).exec s =
      (.ok (layers hook model (s.registry.filter (·.overrides hook)) terminal), { s with request := { s.request with
        instances := withInstances (s.registry.filter (·.overrides hook)).reverse s.request.instances } }) := by
  unfold buildChain
  rw [exec_bind_ok (exec_get s), exec_foldlM_wrapStep_instances, List.reverse_reverse, List.filter_reverse]

/-- 鎖は、上書きした型の層を登録の順に外側から重ね、実体を足した要求で終端までを呼ぶ。 -/
theorem exec_dispatch (hook model : String) (first : Value) (terminal : Value → Run Value) (s : Session) :
    (dispatch hook model first terminal).exec s =
      (layers hook model (s.registry.filter (·.overrides hook)) terminal first).exec
        { s with request := { s.request with
          instances := withInstances (s.registry.filter (·.overrides hook)).reverse s.request.instances } } := by
  unfold dispatch
  rw [exec_bind_ok (exec_buildChain_instances hook model terminal s)]

theorem assocGet?_withInstances_of_not_mem {ms : List Middleware} {k : MiddlewareKey} (hk : ∀ m ∈ ms, m.key ≠ k)
    (insts : List (MiddlewareKey × Instance)) : assocGet? (withInstances ms insts) k = assocGet? insts k := by
  have hnone : ms.find? (·.key == k) = none := List.find?_eq_none.2 fun m hm h => hk m hm (eq_of_beq h)
  rw [assocGet?_withInstances, hnone, Option.map_none, Option.or_none]

/-- 要求に実体のない作った型の実体は、型の状態を写したものとして作られて表の末尾に足される。 -/
theorem exec_instanceOf_custom {name : String} {hooks : List (String × Behaviour)} {state : List String}
    {s : Session} (h : assocGet? s.request.instances (.custom name) = none) :
    (instanceOf (.custom name hooks state)).exec s =
      (.ok (.log state), { s with request := { s.request with
        instances := s.request.instances ++ [(.custom name, .log state)] } }) := by
  rw [exec_instanceOf]
  simp only [Middleware.key, h, Option.getD_none, Middleware.fresh, withInstance, Option.isSome_none]
  rfl

/-- 鎖は型そのもの（登録）を変えないので、要求の中で実体を変えても、次の要求の実体は型の状態から作られる。 -/
theorem registry_dispatch (hook model : String) (first : Value) {terminal : Value → Run Value}
    (hterm : ∀ v, Frame.registry.Holds (terminal v)) : Frame.registry.Holds (dispatch hook model first terminal) :=
  holds_dispatch (fun _ _ => rfl) (fun _ _ => rfl) hook model first hterm

/-! ## 実体の表は型ごとに一つ -/

/-- 要求の実体の表が型ごとに高々一つであることを保つ。 -/
def uniqueInstances : Frame where
  rel s t := UniqueKeys s.request.instances → UniqueKeys t.request.instances
  refl _ h := h
  trans h₁ h₂ h := h₂ (h₁ h)

theorem uniqueInstances_instanceOf (m : Middleware) : uniqueInstances.Holds (instanceOf m) := by
  intro s h
  rw [exec_instanceOf]
  exact UniqueKeys.withInstance h m

theorem uniqueInstances_modifyInstance (m : Middleware) (f : Instance → Instance) :
    uniqueInstances.Holds (modifyInstance m f) := by
  intro s h
  unfold modifyInstance
  rw [exec_bind_ok (exec_instanceOf m s), exec_modify]
  exact UniqueKeys.assocSet (UniqueKeys.withInstance h m) _ _

/-- 終端が実体の表を型ごとに一つに保てば、鎖も保つ。 -/
theorem uniqueInstances_dispatch (hook model : String) (first : Value) {terminal : Value → Run Value}
    (hterm : ∀ v, uniqueInstances.Holds (terminal v)) : uniqueInstances.Holds (dispatch hook model first terminal) :=
  holds_dispatch_of (fun _ _ h => h) uniqueInstances_instanceOf uniqueInstances_modifyInstance hook model first hterm

/-! ## 要求の区切り -/

/-- 新しい区切りの本体は実体も書き手に寄せる期間もない要求から始まり、成否にかかわらず抜けると前の要求に戻る。 -/
theorem exec_inScope {α : Type} (body : Run α) (s : Session) :
    (inScope body).exec s =
      Prod.map id (fun t => { t with request := s.request }) (body.exec { s with request := {} }) := by
  unfold inScope
  rw [exec_bind_ok (exec_get s), exec_bind_ok (exec_modify _ s), exec_bind, exec_tryCatch, exec_bind]
  rcases body.exec { s with request := {} } with ⟨r, t⟩
  cases r <;> rfl

/-! ## 登録 -/

/-- 登録は型ごとに一つのまま増え、登録した型は必ず登録されている。 -/
theorem registry_use {s : Session} (h : (s.registry.map (·.key)).Nodup) (m : Middleware) :
    ((((use m).exec s).2.registry.map (·.key)).Nodup ∧ m.key ∈ ((use m).exec s).2.registry.map (·.key)) := by
  unfold use
  rw [exec_modify]
  split
  · next hany =>
    obtain ⟨m', hm', hk⟩ := List.any_eq_true.1 hany
    exact ⟨h, List.mem_map.2 ⟨m', hm', eq_of_beq hk⟩⟩
  · next hany =>
    have hnot : m.key ∉ s.registry.map (·.key) := fun hm => by
      obtain ⟨m', hm', hk⟩ := List.mem_map.1 hm
      exact hany (List.any_eq_true.2 ⟨m', hm', beq_iff_eq.2 hk⟩)
    rw [List.map_append, List.map_singleton, ← List.concat_eq_append]
    exact ⟨h.concat hnot, by simp⟩

/-- 登録を外すと、その型だけが消え、ほかの登録は順を保って残る。 -/
theorem registry_removeMiddleware (m : Middleware) (s : Session) :
    ((removeMiddleware m).exec s).2.registry.Sublist s.registry ∧
      ∀ m', m' ∈ ((removeMiddleware m).exec s).2.registry ↔ m' ∈ s.registry ∧ m'.key ≠ m.key := by
  unfold removeMiddleware
  rw [exec_modify]
  refine ⟨List.filter_sublist, fun m' => ?_⟩
  simp

/-- 登録されていない型を登録してすぐ外すと、登録は元に戻る。 -/
theorem registry_use_remove {s : Session} {m : Middleware} (hm : m.key ∉ s.registry.map (·.key)) :
    ((use m >>= fun _ => removeMiddleware m).exec s).2.registry = s.registry := by
  have hany : s.registry.any (·.key == m.key) = false := by
    simpa using fun m' hm' hk => hm (List.mem_map.2 ⟨m', hm', hk⟩)
  unfold use removeMiddleware
  rw [exec_bind_ok (exec_modify _ s), exec_modify]
  simp only [hany, Bool.false_eq_true, if_false, List.filter_append]
  rw [List.filter_eq_self.2, List.filter_singleton]
  · simp
  · intro m' hm'
    simpa using fun hk => hm (List.mem_map.2 ⟨m', hm', hk⟩)

end Session

/-! ## 鎖の形 -/

open Session

/-- フック `hook` の鎖を組むと、登録された型のうち `hook` を上書きしたものを登録の順に外側から重ねて終端を
包んだ関数ができる（組むときは登録を最後のものから見て包んでいく）。組みながら、それらの型の実体で今の
要求にないものだけを新しく作り、上書きしない型の実体は作らない。実体の表は型ごとに一つのまま鎖を通り、
新しい要求の区切りは実体のない要求から始まって抜けると前の要求に戻る。作った型の新しい実体は型の状態を
写したもので、鎖は型の登録を変えないから、どの要求でも型の状態から始まる。登録は型ごとに一つのまま増え、
外すとその型だけが消える。 -/
theorem dispatch_composes_registered_overrides :
    (∀ (hook model : String) (first : Value) (terminal : Value → Run Value) (s : Session),
      (buildChain hook model terminal).exec s =
          (.ok (layers hook model (s.registry.filter (·.overrides hook)) terminal), { s with request := { s.request with
            instances := withInstances (s.registry.filter (·.overrides hook)).reverse s.request.instances } }) ∧
        (dispatch hook model first terminal).exec s =
          (layers hook model (s.registry.filter (·.overrides hook)) terminal first).exec
            { s with request := { s.request with
              instances := withInstances (s.registry.filter (·.overrides hook)).reverse s.request.instances } } ∧
        ∀ k, assocGet? (withInstances (s.registry.filter (·.overrides hook)).reverse s.request.instances) k =
          (assocGet? s.request.instances k).or
            (((s.registry.filter (·.overrides hook)).reverse.find? (·.key == k)).map (·.fresh))) ∧
    (∀ (hook model : String) (first : Value) (terminal : Value → Run Value),
      (∀ v, uniqueInstances.Holds (terminal v)) → uniqueInstances.Holds (dispatch hook model first terminal)) ∧
    (∀ (body : Run Value) (s : Session),
      (inScope body).exec s = Prod.map id (fun t => { t with request := s.request }) (body.exec { s with request := {} })) ∧
    (∀ (name : String) (hooks : List (String × Behaviour)) (state : List String) (s : Session),
      assocGet? s.request.instances (.custom name) = none →
        (instanceOf (.custom name hooks state)).exec s =
          (.ok (.log state), { s with request := { s.request with
            instances := s.request.instances ++ [(.custom name, .log state)] } })) ∧
    (∀ (hook model : String) (first : Value) (terminal : Value → Run Value),
      (∀ v, Frame.registry.Holds (terminal v)) → Frame.registry.Holds (dispatch hook model first terminal)) ∧
    (∀ (m : Middleware) (s : Session), (s.registry.map (·.key)).Nodup →
      (((use m).exec s).2.registry.map (·.key)).Nodup ∧ m.key ∈ ((use m).exec s).2.registry.map (·.key)) ∧
    (∀ (m : Middleware) (s : Session),
      ((removeMiddleware m).exec s).2.registry.Sublist s.registry ∧
        (∀ m', m' ∈ ((removeMiddleware m).exec s).2.registry ↔ m' ∈ s.registry ∧ m'.key ≠ m.key) ∧
        (m.key ∉ s.registry.map (·.key) → ((use m >>= fun _ => removeMiddleware m).exec s).2.registry = s.registry)) :=
  ⟨fun hook model first terminal s =>
      ⟨exec_buildChain_instances hook model terminal s, exec_dispatch hook model first terminal s,
        fun k => assocGet?_withInstances k _ _⟩,
    fun hook model first _ hterm => uniqueInstances_dispatch hook model first hterm,
    exec_inScope,
    fun _ _ _ _ h => exec_instanceOf_custom h,
    fun hook model first _ hterm => registry_dispatch hook model first hterm,
    fun m _ h => registry_use h m,
    fun m s => ⟨(registry_removeMiddleware m s).1, (registry_removeMiddleware m s).2, registry_use_remove⟩⟩

/-- 「外」と「内」の順に登録した足跡を残す二つの型。 -/
def tracerSession : Session :=
  { (default : Session) with
    registry := [.custom "Outer" [("find", .trace)] [], .custom "Inner" [("find", .trace)] []] }

/-- 先に登録した型が外側で、前後の足跡は内側の足跡を挟む。終端が実体の表を崩さなければ鎖も崩さない。
実体のない要求で引いた「外」の実体は、型の状態（空の足跡）の写し。 -/
theorem tracers_nest_in_registration_order :
    ((dispatch "find" "User" (.list []) fun v => pure v).exec tracerSession).2.trace =
        ["Outer:find:after", "Inner:find:after", "Inner:find:before", "Outer:find:before"] ∧
      uniqueInstances.Holds (dispatch "find" "User" (.list []) fun v => pure v) ∧
      ((instanceOf (.custom "Outer" [("find", .trace)] [])).exec tracerSession).1 = .ok (.log []) ∧
      (((use .statistics).exec tracerSession).2.registry.map (·.key)).Nodup := by
  obtain ⟨hlayers, hunique, -, hfresh, -, huse, -⟩ := dispatch_composes_registered_overrides
  refine ⟨?_, hunique "find" "User" _ _ fun v => Frame.holds_pure v, ?_, (huse .statistics tracerSession ?_).1⟩
  · rw [(hlayers "find" "User" (.list []) _ tracerSession).2.1]
    rfl
  · rw [hfresh "Outer" [("find", .trace)] [] tracerSession rfl]
  · decide +kernel

end DataAccess
