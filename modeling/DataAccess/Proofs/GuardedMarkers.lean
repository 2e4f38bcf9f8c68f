import DataAccess.Proofs.UnnestTypes
import DataAccess.Proofs.UpdateMany
/-!
# 束縛される印

組み立ての印の値（落とす・NULL・NOT NULL・現在時刻の印、そのまま埋め込む SQL、自前の値を持つ断片、
外側の列、述語）が文の値に入るかを調べる。

キーと値の組と比較の値では、印は文に書かれるか拒まれる。`BETWEEN` の両端、値の並びの `IN`、組の `IN` の行、
印を含む断片の値、`ILIKE` の値、断片の自前の値は、何も確かめずに束縛される。`entriesGuarded` はこの
確かめのない場所に印がないことを言う。組み立ての状態の不変条件（束縛した値に印がない）を部品ごとに示し、
入れ子の条件は燃料についての帰納法で示す。そうした条件の並びと、同じく印のないモデル・共通表式・結合・
書き込む断片の値からは、検索・件数・削除・更新・挿入・キーを読む文の値に印が入らない。

一括更新は組み立ての状態を通らない。書く列の値は確かめるが、照合の列の値は確かめずに渡すので、そこに
印がなければ、行の値として渡るもの（PostgreSQL では列ごとの配列の要素）に印が入らない。
-/

namespace DataAccess

namespace Value

/-- 組み立ての印の値。 -/
def sentinel : Value → Bool
  | .marker _ | .raw _ | .dynamic _ _ | .parentRef _ => true
  | v => v.isPredicate

/-- 並べた要素（`iterate`）に印の値がない。並べられない値は失敗するので問わない。 -/
def itemsUnmarked (v : Value) : Bool :=
  match v.iterate with
  | .ok xs => xs.all fun x => !x.sentinel
  | .error _ => true

/-- 束縛される値: それ自身も、並びならその要素も、印の値でない。 -/
def boundUnmarked (v : Value) : Bool :=
  !v.sentinel && ((v.items?).getD []).all fun x => !x.sentinel

/-- キーと値の組の値: 値の並びは `IN` の要素として、断片は自前の値を束縛する。ほかの値は書かれるか、
拒まれるか、印でない値として束縛される。 -/
def pairGuarded : Value → Bool
  | .list xs | .tuple xs => xs.all fun x => !x.sentinel
  | .dynamic _ ps => ps.all fun x => !x.sentinel
  | _ => true

/-- 書き込む値: 断片は自前の値を束縛する。ほかの値は書かれるか、拒まれるか、印でない値として束縛される。 -/
def writeGuarded : Value → Bool
  | .dynamic _ ps => ps.all fun x => !x.sentinel
  | _ => true

/-- 演算子が `ILIKE`（大文字にして比べる）。 -/
def ilikeOperator : Value → Bool
  | .str s => Sql.upperWord s == "ILIKE"
  | _ => false

/-- `ILIKE` 以外の比較の値: そのまま埋め込む SQL、外側の列、現在時刻は書かれ、断片は自前の値を束縛する。
ほかは値そのものが束縛される。 -/
def renderedGuarded : Value → Bool
  | .raw _ | .parentRef _ | .marker .now => true
  | .dynamic _ ps => ps.all fun x => !x.sentinel
  | v => !v.sentinel

/-- 比較の値: 落とす印と NULL は束縛されない。`IN` ではその要素が、`ILIKE` では値そのものが束縛される。 -/
def comparisonGuarded (op v : Value) : Bool :=
  match v with
  | .marker .skip | .none | .marker .null => true
  | _ => ((v.items?).getD []).all (fun x => !x.sentinel) &&
      if op.ilikeOperator then !v.sentinel else v.renderedGuarded

mutual
/-- 条件の並びの要素の、確かめずに束縛される場所に印の値がない。 -/
def entryGuarded : Value → Bool
  | .tuple [k, v] =>
    match v with
    | .marker .skip => true
    | _ =>
      match k with
      | .str s => if Sql.countMarkers s > 0 then v.boundUnmarked else v.pairGuarded
      | _ => v.pairGuarded
  | .comparison _ op v => comparisonGuarded op v
  | .between _ lo hi => !lo.sentinel && !hi.sentinel
  | .tupleIn _ rows => rows.all fun r => ((r.tupleItems?).getD []).all fun x => !x.sentinel
  | .orGroup groups => groupsGuarded groups
  | .rawCondition _ ps => ps.all fun x => !x.sentinel
  | .inSubquery _ conds _ => entriesGuarded conds
  | .existsIn _ conds _ => entriesGuarded conds
  | _ => true

/-- 条件の並びのどの要素も印を守る。 -/
def entriesGuarded : List Value → Bool
  | [] => true
  | e :: es => entryGuarded e && entriesGuarded es

/-- OR の群のどの群も印を守る。 -/
def groupsGuarded : List Value → Bool
  | [] => true
  | .tuple es :: gs => entriesGuarded es && groupsGuarded gs
  | _ :: gs => groupsGuarded gs
end

end Value

/-- モデルの既定の絞り込みが印を守り、問い合わせの値に印の値がない。 -/
def Meta.guarded (m : Meta) : Bool :=
  Value.entriesGuarded m.defaultFilter && m.queryParams.all fun x => !x.sentinel

/-- 表の集まりのどのモデルも印を守る。 -/
def Catalog.guarded (cat : Catalog) : Bool := cat.metas.all Meta.guarded

theorem Catalog.mem_of_modelMeta {cat : Catalog} {tag : String} {m : Meta} (h : cat.modelMeta tag = .ok m) :
    m ∈ cat.metas := by
  unfold Catalog.modelMeta Catalog.metaByTag? at h
  split at h
  · next m' hfind =>
    cases h
    exact List.mem_reverse.1 (List.mem_of_find?_eq_some hfind)
  · cases h

theorem Value.sentinel_adaptParam {d : Dialect} {v p : Value} (hv : v.sentinel = false)
    (h : d.adaptParam v = .ok p) : p.sentinel = false := by
  unfold Dialect.adaptParam at h
  split at h
  · obtain ⟨s, -, hp⟩ := Except.bind_eq_ok.1 h
    cases hp
    rfl
  · cases h
    exact hv
  · obtain ⟨s, -, hp⟩ := Except.bind_eq_ok.1 h
    cases hp
    rfl
  · cases h
    exact hv

theorem Value.sentinel_of_plain {v : Value} (hm : ∀ m, v ≠ .marker m) (hraw : ∀ s, v ≠ .raw s)
    (hdyn : ∀ s ps, v ≠ .dynamic s ps) (hpar : ∀ c, v ≠ .parentRef c) (hpred : v.isPredicate = false) :
    v.sentinel = false := by
  cases v <;> simp_all [Value.sentinel]

theorem Value.comparisonGuarded_items {op v : Value} {xs : List Value} (hv : Value.comparisonGuarded op v = true)
    (hxs : v.items? = some xs) : xs.all (fun x => !x.sentinel) = true := by
  cases v <;> simp_all [Value.items?, Value.comparisonGuarded]

/-- 落とす印と NULL のほかの比較の値では、値の並びの要素と、`ILIKE` なら値そのもの、ほかの演算子なら
書かれない値を確かめる。 -/
theorem Value.comparisonGuarded_eq {op v : Value} (hskip : v ≠ .marker .skip) (hnone : v ≠ .none)
    (hnull : v ≠ .marker .null) :
    Value.comparisonGuarded op v = (((v.items?).getD []).all (fun x => !x.sentinel) &&
      if op.ilikeOperator then !v.sentinel else v.renderedGuarded) := by
  unfold Value.comparisonGuarded
  split
  · exact absurd rfl hskip
  · exact absurd rfl hnone
  · exact absurd rfl hnull
  · rfl

theorem Value.comparisonGuarded_ilike {op v : Value} (hv : Value.comparisonGuarded op v = true)
    (hop : op.ilikeOperator = true) (hskip : v ≠ .marker .skip) (hnone : v ≠ .none)
    (hnull : v ≠ .marker .null) : v.sentinel = false := by
  rw [Value.comparisonGuarded_eq hskip hnone hnull, hop, if_pos rfl, Bool.and_eq_true] at hv
  simpa using hv.2

theorem Value.comparisonGuarded_rendered {op v : Value} (hv : Value.comparisonGuarded op v = true)
    (hop : op.ilikeOperator = false) (hskip : v ≠ .marker .skip) (hnone : v ≠ .none)
    (hnull : v ≠ .marker .null) : v.renderedGuarded = true := by
  simp only [Value.comparisonGuarded_eq hskip hnone hnull, hop, Bool.false_eq_true, if_false,
    Bool.and_eq_true] at hv
  exact hv.2

theorem Value.entriesGuarded_iff {es : List Value} :
    Value.entriesGuarded es = true ↔ ∀ e ∈ es, e.entryGuarded = true := by
  induction es with
  | nil => simp [Value.entriesGuarded]
  | cons e es ih => simp [Value.entriesGuarded, ih]

theorem Value.groupsGuarded_mem {gs : List Value} (h : Value.groupsGuarded gs = true) :
    ∀ g ∈ gs, Value.entriesGuarded ((g.tupleItems?).getD []) = true := by
  induction gs with
  | nil => simp
  | cons g gs ih =>
    have hhead : Value.entriesGuarded ((g.tupleItems?).getD []) = true := by
      cases g <;> simp_all [Value.groupsGuarded, Value.tupleItems?, Value.entriesGuarded]
    have htail : Value.groupsGuarded gs = true := by
      cases g <;> simp_all [Value.groupsGuarded]
    intro x hx
    rcases List.mem_cons.1 hx with rfl | hx
    · exact hhead
    · exact ih htail x hx

theorem Meta.entriesGuarded_filter {m : Meta} (hm : m.guarded = true) {conds : List Value}
    (hconds : Value.entriesGuarded conds = true) : Value.entriesGuarded (m.defaultFilter ++ conds) = true := by
  simp only [Meta.guarded, Bool.and_eq_true] at hm
  rw [Value.entriesGuarded_iff] at hconds ⊢
  intro e he
  rcases List.mem_append.1 he with he | he
  · exact Value.entriesGuarded_iff.1 hm.1 e he
  · exact hconds e he

theorem Value.entryGuarded_fragment {s : String} {v : Value} (he : Value.entryGuarded (.tuple [.str s, v]) = true)
    (hskip : v ≠ .marker .skip) (hcount : Sql.countMarkers s > 0) : v.boundUnmarked = true := by
  simp only [Value.entryGuarded] at he
  split at he <;> simp_all

theorem Value.entryGuarded_pair {k v : Value} (he : Value.entryGuarded (.tuple [k, v]) = true)
    (hskip : v ≠ .marker .skip) (hk : ∀ s, k = .str s → Sql.countMarkers s = 0) : v.pairGuarded = true := by
  simp only [Value.entryGuarded] at he
  split at he
  · next s =>
    simpa [hk s rfl] using he
  · exact he

namespace Build

/-! ## 印のない束縛 -/

/-- 組み立ての状態の不変条件: 表の集まりが印を守り、束縛した値に印の値がない。 -/
def Unmarked (c : Compiler) : Prop := c.catalog.guarded = true ∧ ∀ v ∈ c.bound, v.sentinel = false

/-- 不変条件を保つ計算。 -/
def StaysUnmarked {α : Type} (x : Build α) : Prop := Triple Unmarked x fun _ => Unmarked

section Stays

variable {α β γ : Type}

theorem stays_pure (a : α) : StaysUnmarked (pure a : Build α) := Triple.pure fun _ h => h

theorem stays_fail (e : Fault) : StaysUnmarked (fail e : Build α) := Triple.fail e

theorem stays_fail_bind (e : Fault) (g : α → Build β) : StaysUnmarked (fail e >>= g) :=
  Triple.bind (Q := fun _ _ => False) (Triple.fail e) fun _ _ _ _ h _ => h.elim

theorem StaysUnmarked.bind {x : Build α} {g : α → Build β} (hx : StaysUnmarked x)
    (hg : ∀ a, StaysUnmarked (g a)) : StaysUnmarked (x >>= g) :=
  Triple.bind hx hg

theorem Reads.stays {x : Build α} (h : Reads x) : StaysUnmarked x := by
  intro c a c' hc hrun
  rw [h c a c' hrun]
  exact hc

theorem stays_mapM {g : γ → Build α} :
    ∀ {xs : List γ}, (∀ x ∈ xs, StaysUnmarked (g x)) → StaysUnmarked (xs.mapM g)
  | [], _ => by
    rw [List.mapM_nil]
    exact stays_pure []
  | x :: xs, h => by
    rw [List.mapM_cons]
    exact (h x List.mem_cons_self).bind fun a =>
      (stays_mapM fun y hy => h y (List.mem_cons_of_mem x hy)).bind fun as => stays_pure (a :: as)

theorem stays_forIn {σ : Type} {g : γ → σ → Build (ForInStep σ)} :
    ∀ {xs : List γ}, (∀ x ∈ xs, ∀ b, StaysUnmarked (g x b)) → ∀ b, StaysUnmarked (forIn xs b g)
  | [], _, b => by
    rw [List.forIn_nil]
    exact stays_pure b
  | x :: xs, h, b => by
    rw [List.forIn_cons]
    refine (h x List.mem_cons_self b).bind fun r => ?_
    cases r with
    | done b' => exact stays_pure b'
    | yield b' => exact stays_forIn (fun y hy => h y (List.mem_cons_of_mem x hy)) b'

theorem stays_bind {v : Value} (hv : v.sentinel = false) : StaysUnmarked (Build.bind v) := by
  intro c a c' hc hrun
  rw [run_bind] at hrun
  cases hp : c.dialect.adaptParam v with
  | error e => rw [hp] at hrun; cases hrun
  | ok p =>
    rw [hp] at hrun
    cases hrun
    refine ⟨hc.1, ?_⟩
    intro w hw
    rcases List.mem_cons.1 hw with rfl | hw
    · exact Value.sentinel_adaptParam hv hp
    · exact hc.2 w hw

theorem stays_bindAll {ps : List Value} (hps : ps.all (fun x => !x.sentinel) = true) :
    StaysUnmarked (forIn ps PUnit.unit fun p _ => do
      let _ ← Build.bind p
      Pure.pure (ForInStep.yield PUnit.unit)) :=
  stays_forIn (fun p hp _ => (stays_bind (by simpa using List.all_eq_true.1 hps p hp)).bind
    fun _ => stays_pure _) _

theorem reads_marked (s : String) : Reads (Build.marked s) := by
  intro c a c' hrun
  cases hrun
  rfl

theorem stays_bindFragment (sql : Value) {ps : List Value} (hps : ps.all (fun x => !x.sentinel) = true)
    (label : String) : StaysUnmarked (Build.bindFragment sql ps label) := by
  simp only [Build.bindFragment]
  refine (Reads.stays (reads_lift _)).bind fun expected => ?_
  split
  · exact stays_fail_bind _ _
  · split
    · rw [map_eq_pure_bind]
      exact (Reads.stays ((reads_marked _).bind fun _ => reads_pure _)).bind fun _ =>
        (stays_bindAll hps).bind fun _ => stays_pure _
    · exact (stays_pure _).bind fun _ => (stays_bindAll hps).bind fun _ => stays_pure _

theorem reads_dialect : Reads Build.dialect := by
  intro c a c' hrun
  cases hrun
  rfl

end Stays

/-! ## 条件の部品 -/

theorem stays_inList (col : String) {xs : List Value} (hxs : xs.all (fun x => !x.sentinel) = true)
    (negate : Bool) : StaysUnmarked (Build.inList col xs negate) := by
  unfold Build.inList
  by_cases he : xs.isEmpty = true
  · rw [if_pos he]
    exact stays_pure _
  · rw [if_neg he]
    exact (stays_mapM fun x hx => stays_bind (by simpa using List.all_eq_true.1 hxs x hx)).bind
      fun _ => stays_pure _

theorem stays_parentColumn (col : Value) (scope : Scope) : StaysUnmarked (Build.parentColumn col scope) := by
  unfold Build.parentColumn
  split
  · exact stays_fail _
  · split
    · simp only
      split
      · exact stays_fail_bind _ _
      · exact (Reads.stays (reads_name _)).bind fun _ => stays_pure _
    · exact stays_fail _

theorem stays_columnCondition (col : String) {v : Value} (hv : v.pairGuarded = true) (scope : Scope) :
    StaysUnmarked (Build.columnCondition col v scope) := by
  unfold Build.columnCondition
  refine (Reads.stays reads_dialect).bind fun d => ?_
  split
  · exact stays_pure _
  · exact stays_pure _
  · exact stays_pure _
  · exact stays_pure _
  · exact stays_fail _
  · exact stays_pure _
  · exact stays_pure _
  · exact (stays_bindFragment _ (by simpa [Value.pairGuarded] using hv) _).bind fun _ => stays_pure _
  · exact (stays_parentColumn _ _).bind fun _ => stays_pure _
  · exact stays_inList _ (by simpa [Value.pairGuarded] using hv) _
  · exact stays_inList _ (by simpa [Value.pairGuarded] using hv) _
  · next hnone hnull hnn hnow hm hbool hraw hdyn hpar hlist htuple =>
    split
    · exact stays_fail _
    · next hpred =>
      refine (stays_bind (Value.sentinel_of_plain ?_ hraw hdyn hpar (by simpa using hpred))).bind
        fun _ => stays_pure _
      intro m hvm
      cases m <;> simp_all

theorem stays_fragment (sql : String) {v : Value} (hv : v.boundUnmarked = true) :
    StaysUnmarked (Build.fragment sql v) := by
  simp only [Value.boundUnmarked, Bool.and_eq_true, Bool.not_eq_true'] at hv
  obtain ⟨hself, hitems⟩ := hv
  unfold Build.fragment
  by_cases hone : (Sql.countMarkers sql == 1) = true
  · rw [if_pos hone]
    exact (Reads.stays (reads_marked _)).bind fun _ => (stays_bind hself).bind fun _ => stays_pure _
  · rw [if_neg hone]
    split
    · next xs hxs =>
      rw [hxs, Option.getD_some] at hitems
      split
      · exact (Reads.stays (reads_marked _)).bind fun _ => (stays_bindAll hitems).bind fun _ => stays_pure _
      · exact stays_fail _
    · exact stays_fail _

theorem stays_comparison (col op : Value) {v : Value} (hv : Value.comparisonGuarded op v = true)
    (scope : Scope) : StaysUnmarked (Build.comparison col op v scope) := by
  unfold Build.comparison
  refine (Reads.stays reads_dialect).bind fun d => ?_
  simp only
  split
  · next s =>
    simp only [pure_bind]
    by_cases hop : (!comparisonOperators.contains (Sql.upperWord s)) = true
    · rw [if_pos hop]
      exact stays_fail_bind _ _
    · rw [if_neg hop]
      refine (Reads.stays (reads_name _)).bind fun n => ?_
      split
      · exact stays_pure _
      · next hskip =>
        by_cases hin : (Sql.upperWord s == "IN" || Sql.upperWord s == "NOT IN") = true
        · rw [if_pos hin]
          split
          · next xs hxs =>
            exact (stays_inList _ (Value.comparisonGuarded_items hv hxs) _).bind fun _ => stays_pure _
          · exact stays_fail_bind _ _
        · rw [if_neg hin]
          split
          · split
            · exact stays_pure _
            · split
              · exact stays_pure _
              · exact stays_fail _
          · split
            · exact stays_pure _
            · split
              · exact stays_pure _
              · exact stays_fail _
          · next hnone hnull =>
            by_cases hil : (Sql.upperWord s == "ILIKE") = true
            · rw [if_pos hil]
              have hself := Value.comparisonGuarded_ilike hv hil hskip hnone hnull
              exact (Reads.stays (reads_marked _)).bind fun _ => (stays_bind hself).bind fun _ => stays_pure _
            · rw [if_neg hil]
              have hrendered := Value.comparisonGuarded_rendered hv
                (by simpa [Value.ilikeOperator] using hil : (Value.str s).ilikeOperator = false) hskip hnone hnull
              split
              · exact stays_pure _
              · exact (stays_parentColumn _ _).bind fun _ => stays_pure _
              · exact (stays_bindFragment _ (by simpa [Value.renderedGuarded] using hrendered) _).bind
                  fun _ => stays_pure _
              · exact stays_pure _
              · next hraw hpar hdyn hnow =>
                refine (stays_bind ?_).bind fun _ => stays_pure _
                cases v <;> simp_all [Value.renderedGuarded, Value.sentinel]
  · exact stays_fail_bind _ _
  · exact stays_fail_bind _ _

theorem stays_tupleIn (cols : List Value) {rows : List Value}
    (hrows : rows.all (fun r => ((r.tupleItems?).getD []).all fun x => !x.sentinel) = true) :
    StaysUnmarked (Build.tupleIn cols rows) := by
  have hitems : ∀ r ∈ rows.map (fun r => (r.tupleItems?).getD []), r.all (fun x => !x.sentinel) = true := by
    intro r hr
    obtain ⟨r', hr', rfl⟩ := List.mem_map.1 hr
    exact List.all_eq_true.1 hrows r' hr'
  unfold Build.tupleIn
  simp only
  split
  · exact stays_fail_bind _ _
  · refine (stays_forIn (fun r _ _ => ?_) _).bind fun _ => ?_
    · split
      · exact stays_fail_bind _ _
      · exact stays_pure _
    · split
      · exact stays_pure _
      · refine (Reads.stays (reads_mapM reads_name _)).bind fun names => ?_
        split
        · refine stays_inList _ ?_ false
          rw [List.all_eq_true]
          intro x hx
          obtain ⟨r, hr, rfl⟩ := List.mem_map.1 hx
          cases r with
          | nil => rfl
          | cons y ys => simpa using List.all_eq_true.1 (hitems _ hr) y List.mem_cons_self
        · exact (stays_mapM fun r hr => (stays_mapM fun x hx =>
            stays_bind (by simpa using List.all_eq_true.1 (hitems r hr) x hx)).bind fun _ => stays_pure _).bind
            fun _ => stays_pure _

/-! ## 入れ子の条件 -/

theorem reads_get : Reads (MonadState.get : Build Compiler) := by
  intro c a c' hrun
  cases hrun
  rfl

theorem stays_countSubquery :
    StaysUnmarked (modify fun c : Compiler => { c with subqueries := c.subqueries + 1 }) := by
  intro c a c' hc hrun
  cases hrun
  exact hc

theorem stays_pairParts (p : Value) : StaysUnmarked (Build.pairParts p) := by
  unfold Build.pairParts
  split
  · exact stays_pure _
  · split
    · exact stays_fail _
    · exact stays_fail _
  · exact stays_fail _

theorem stays_source {m : Meta} (hm : m.guarded = true) : StaysUnmarked (Build.source m) := by
  simp only [Meta.guarded, Bool.and_eq_true] at hm
  unfold Build.source
  refine (Reads.stays reads_dialect).bind fun d => ?_
  split
  · exact stays_pure _
  · exact (stays_bindFragment _ hm.2 _).bind fun _ => stays_pure _

theorem StaysUnmarked.lookup {β : Type} (tag : String) {g : Meta → Build β}
    (hg : ∀ m, m.guarded = true → StaysUnmarked (g m)) :
    StaysUnmarked (MonadState.get >>= fun c => Build.lift (c.catalog.modelMeta tag) >>= g) := by
  intro c b c' hc hrun
  obtain ⟨c₀, c₁, hget, hrest⟩ := run_bind_ok hrun
  cases hget
  cases hm : c.catalog.modelMeta tag with
  | error e =>
    rw [hm] at hrest
    cases hrest
  | ok m =>
    rw [hm] at hrest
    have hguarded : m.guarded = true := List.all_eq_true.1 hc.1 m (Catalog.mem_of_modelMeta hm)
    exact hg m hguarded c b c' hc hrest

/-- 燃料 `n` の `whereClause` は、印を守る条件の並びについて不変条件を保つ。 -/
def WhereStays (n : Nat) : Prop :=
  ∀ entries scope, Value.entriesGuarded entries = true → StaysUnmarked (whereClause n entries scope)

/-- 燃料 `n` の `entry`。 -/
def EntryStays (n : Nat) : Prop :=
  ∀ e scope, Value.entryGuarded e = true → StaysUnmarked (entry n e scope)

/-- 燃料 `n` の `predicate`。 -/
def PredicateStays (n : Nat) : Prop :=
  ∀ p scope, Value.entryGuarded p = true → StaysUnmarked (predicate n p scope)

/-- 燃料 `n` の `subquery`。 -/
def SubqueryStays (n : Nat) : Prop :=
  ∀ m conds scope, m.guarded = true → Value.entriesGuarded conds = true →
    StaysUnmarked (subquery n m conds scope)

theorem whereStays_succ {n : Nat} (h : EntryStays n) : WhereStays (n + 1) := by
  intro entries scope hes
  simp only [Build.whereClause]
  refine (stays_mapM fun e he => h e scope (Value.entriesGuarded_iff.1 hes e he)).bind fun parts => ?_
  split
  · exact stays_pure _
  · exact stays_pure _

theorem subqueryStays_succ {n : Nat} (h : WhereStays n) : SubqueryStays (n + 1) := by
  intro m conds scope hm hconds
  simp only [Build.subquery]
  refine stays_countSubquery.bind fun _ => (Reads.stays reads_get).bind fun c => ?_
  refine (stays_source hm).bind fun src => (h conds _ hconds).bind fun w => ?_
  split
  · exact stays_pure _
  · exact stays_pure _

theorem entryStays_succ {n : Nat} (h : PredicateStays n) : EntryStays (n + 1) := by
  intro e scope he
  simp only [Build.entry]
  split
  · exact h e scope he
  · split
    · next key v _ =>
      -- 列のキーも印のない文字列のキーも、名前として書いて値の形で条件を選ぶ
      have hcondition : v.pairGuarded = true →
          StaysUnmarked (do let c ← columnCondition (← name key) v scope; Pure.pure (some c)) := fun hv =>
        (Reads.stays (reads_name _)).bind fun n => (stays_columnCondition n hv scope).bind fun _ => stays_pure _
      split
      · exact stays_pure _
      · next hskip =>
        split
        · exact hcondition (Value.entryGuarded_pair he hskip (by simp))
        · split
          · next hcount =>
            exact (stays_fragment _ (Value.entryGuarded_fragment he hskip hcount)).bind fun _ => stays_pure _
          · next hzero =>
            exact hcondition (Value.entryGuarded_pair he hskip fun s' hs' => by cases hs'; omega)
        · exact stays_fail _
    · exact stays_fail _

theorem predicateStays_succ {n : Nat} (hwhere : WhereStays n) (hsub : SubqueryStays n) :
    PredicateStays (n + 1) := by
  intro p scope hp
  simp only [Build.predicate]
  split
  · next col op v =>
    simp only [Value.entryGuarded] at hp
    exact stays_comparison col op hp scope
  · next col lo hi =>
    simp only [Value.entryGuarded, Bool.and_eq_true, Bool.not_eq_true'] at hp
    exact (Reads.stays (reads_name _)).bind fun _ => (stays_bind hp.1).bind fun _ =>
      (stays_bind hp.2).bind fun _ => stays_pure _
  · next cols rows =>
    simp only [Value.entryGuarded] at hp
    exact (stays_tupleIn cols hp).bind fun _ => stays_pure _
  · next groups =>
    simp only [Value.entryGuarded] at hp
    refine (stays_mapM fun g hg => hwhere _ scope (Value.groupsGuarded_mem hp g hg)).bind fun parts => ?_
    split
    · exact stays_pure _
    · exact stays_pure _
    · exact stays_pure _
  · next sql ps =>
    simp only [Value.entryGuarded] at hp
    exact (stays_bindFragment sql hp _).bind fun _ => stays_pure _
  · next pairs conds negate =>
    simp only [Value.entryGuarded] at hp
    split
    · exact stays_fail_bind _ _
    refine (stays_mapM fun q _ => stays_pairParts q).bind fun split => ?_
    refine (stays_mapM fun t _ => ?_).bind fun tags => ?_
    · split
      · exact stays_pure _
      · exact stays_fail _
    split
    · exact stays_fail_bind _ _
    refine StaysUnmarked.lookup _ fun m hm => ?_
    refine (Reads.stays (reads_mapM (fun _ => reads_name _) _)).bind fun left => ?_
    refine (Reads.stays (reads_mapM (fun _ => reads_name _) _)).bind fun sel => ?_
    exact (hsub m _ scope hm (Meta.entriesGuarded_filter hm hp)).bind fun _ => stays_pure _
  · next target conds negate =>
    simp only [Value.entryGuarded] at hp
    split
    · exact StaysUnmarked.lookup _ fun m hm =>
        (hsub m _ scope hm (Meta.entriesGuarded_filter hm hp)).bind fun _ => stays_pure _
    · exact stays_fail _
  · exact stays_fail _

/-- 燃料についての帰納法: 燃料が尽きればどれも失敗で終わり、一段の燃料で四つの性質が次の段へ移る。 -/
theorem clauses_stay : ∀ n, WhereStays n ∧ EntryStays n ∧ PredicateStays n ∧ SubqueryStays n
  | 0 => by
    refine ⟨fun _ _ _ => ?_, fun _ _ _ => ?_, fun _ _ _ => ?_, fun _ _ _ _ _ => ?_⟩ <;>
      simp only [Build.whereClause, Build.entry, Build.predicate, Build.subquery] <;> exact stays_fail _
  | n + 1 => by
    obtain ⟨hwhere, hentry, hpred, hsub⟩ := clauses_stay n
    exact ⟨whereStays_succ hentry, entryStays_succ hpred, predicateStays_succ hwhere hsub,
      subqueryStays_succ hwhere⟩

/-! ## 検索の文 -/

theorem stays_lift_bind {α β : Type} (e : Except Fault α) {g : α → Build β}
    (hg : ∀ a, e = .ok a → StaysUnmarked (g a)) : StaysUnmarked (Build.lift e >>= g) := by
  cases e with
  | error err => exact stays_fail_bind err g
  | ok a =>
    show StaysUnmarked (pure a >>= g)
    rw [pure_bind]
    exact hg a rfl

/-- 並べた要素を受け取る続き: 要素に印の値がなければ、続きが不変条件を保てばよい。 -/
theorem StaysUnmarked.items_bind {β : Type} {v : Value} (hv : v.itemsUnmarked = true)
    {g : List Value → Build β} (hg : ∀ xs, xs.all (fun x => !x.sentinel) = true → StaysUnmarked (g xs)) :
    StaysUnmarked (items v >>= g) :=
  stays_lift_bind _ fun xs hxs => hg xs (by simpa [Value.itemsUnmarked, hxs] using hv)

theorem stays_withClause {m : Meta} (hm : m.guarded = true) {opts : FindOptions}
    (hcte : opts.cteParams.itemsUnmarked = true) : StaysUnmarked (withClause m opts) := by
  simp only [Meta.guarded, Bool.and_eq_true] at hm
  unfold withClause
  refine (Reads.stays reads_dialect).bind fun d => ?_
  extract_lets jp
  have hjp : ∀ cte, StaysUnmarked (jp cte) := by
    intro cte
    simp -zeta only [jp]
    extract_lets jp₂
    have hjp₂ : ∀ own, StaysUnmarked (jp₂ own) := by
      intro own
      simp only [jp₂]
      split
      · exact stays_pure _
      · exact stays_lift_bind _ fun _ _ => stays_pure _
    split
    · exact (stays_bindFragment _ hm.2 _).bind fun _ => (stays_pure _).bind fun _ => hjp₂ _
    · exact (stays_pure _).bind fun _ => hjp₂ _
  split
  · exact StaysUnmarked.items_bind hcte fun _ hxs => (stays_bindFragment _ hxs _).bind fun _ =>
      (stays_pure _).bind fun _ => hjp _
  · exact (stays_pure _).bind fun _ => hjp _

theorem stays_joinClause {opts : FindOptions} (hjoin : opts.joinParams.itemsUnmarked = true) :
    StaysUnmarked (joinClause opts) := by
  unfold joinClause
  split
  · refine StaysUnmarked.items_bind hjoin fun _ hxs => (stays_bindFragment _ hxs _).bind fun v => ?_
    split
    · exact stays_pure _
    · exact stays_fail _
  · exact stays_pure _

theorem reads_selectList (opts : FindOptions) (table : String) : Reads (selectList opts table) := by
  unfold selectList
  split
  · exact reads_pure _
  · exact reads_pure _
  · exact (reads_lift _).bind fun _ => (reads_mapM (fun _ => reads_name _) _).bind fun _ => reads_pure _

/-- 書き込む値の印は書かれるか拒まれ、束縛されるのは印でない値か断片の自前の値。 -/
theorem stays_value {v : Value} (hv : v.writeGuarded = true) : StaysUnmarked (Build.value v) := by
  unfold Build.value
  refine (Reads.stays reads_dialect).bind fun d => ?_
  split
  · exact (stays_bind rfl).bind fun _ => stays_pure _
  · exact (stays_bind rfl).bind fun _ => stays_pure _
  · exact stays_pure _
  · exact stays_fail _
  · exact stays_pure _
  · exact stays_bindFragment _ (by simpa [Value.writeGuarded] using hv) _
  · exact stays_fail _
  · next hnone hnull hnow hm hraw hdyn hpar =>
    split
    · exact stays_fail _
    · next hpred =>
      refine (stays_bind (Value.sentinel_of_plain ?_ hraw hdyn hpar (by simpa using hpred))).bind
        fun _ => stays_pure _
      intro m hvm
      cases m <;> simp_all

theorem stays_requiredWhere (m : Meta) {conds : Value}
    (hconds : ∀ entries, conds.normalizeConditions = .ok entries → Value.entriesGuarded entries = true)
    (operation : String) : StaysUnmarked (requiredWhere m conds operation) := by
  unfold requiredWhere
  refine (Reads.stays reads_dialect).bind fun d => ?_
  refine stays_lift_bind _ fun entries hentries => ?_
  refine ((clauses_stay depthLimit).1 _ _ (hconds entries hentries)).bind fun w => ?_
  split
  · exact stays_pure _
  · exact stays_fail _

theorem reads_returningClause (m : Meta) (wanted : Value) : Reads (returningClause m wanted) := by
  unfold returningClause
  refine reads_dialect.bind fun d => ?_
  split
  · exact (reads_mapM (fun _ => reads_name _) _).bind fun _ => reads_pure _
  · exact reads_pure _

theorem reads_conflictUpdates (opts : InsertOptions) (columns : List Column) :
    Reads (Statement.conflictUpdates opts columns) := by
  unfold Statement.conflictUpdates
  split
  · exact reads_pure _
  · extract_lets jp
    have hjp : ∀ conflict, Reads (jp conflict) := fun conflict =>
      (reads_mapM (fun _ => reads_name _) _).bind fun _ => reads_pure _
    split
    · exact (reads_lift _).bind fun _ => hjp _
    · exact (reads_pure _).bind fun _ => hjp _
  · exact (reads_lift _).bind fun _ => (reads_mapM (fun _ => reads_name _) _).bind fun _ => reads_pure _

/-- 持ち上げた変換を並べる計算は状態を変えないので、続きは変換そのものが成功した結果について示せばよい。 -/
theorem stays_mapM_lift_bind {γ α β : Type} {f : γ → Except Fault α} {xs : List γ} {g : List α → Build β}
    (hg : ∀ as, xs.mapM f = .ok as → StaysUnmarked (g as)) :
    StaysUnmarked ((xs.mapM fun x => lift (f x)) >>= g) := by
  intro c b c'' hc hrun
  obtain ⟨as, c', h1, h2⟩ := run_bind_ok hrun
  have hc' : c' = c := reads_mapM (fun x => reads_lift (f x)) xs c as c' h1
  subst hc'
  exact hg as (mapM_lift_run h1) _ _ _ hc h2

theorem StaysUnmarked.params {d : Dialect} {cat : Catalog} {mark : Nat → String} {b : Build String}
    (hb : StaysUnmarked b) (hcat : cat.guarded = true) {st : Statement} (h : toStatement d cat mark b = .ok st) :
    ∀ v ∈ st.params, v.sentinel = false := by
  obtain ⟨c, hrun, hparams⟩ := toStatement_run_params h
  have hc := hb _ _ c ⟨hcat, by simp⟩ hrun
  rw [hparams]
  intro v hv
  exact hc.2 v (List.mem_reverse.1 hv)

end Build

/-! ## 一括更新の行の値

一括更新は、照合の列の値を、入力の行が与えたまま渡す（確かめるのは値がないことだけ）。書く列の値は
`unbindable` で確かめ、落とす印と NULL は NULL にする。飛ばす印は真偽。PostgreSQL は列ごとの配列を渡し、
その要素が行の値になる。 -/

namespace Dialect

/-- 一括更新で行の値として渡るもの: PostgreSQL では列ごとの配列の要素、ほかの方言では値そのもの。 -/
def rowValues : Dialect → List Value → List Value
  | .postgresql, params => params.flatMap fun a => (a.items?).getD []
  | _, params => params

theorem sentinel_sentValue {c : UpdateColumn} {v x : Value} (hv : v.sentinel = false)
    (h : sentValue c v = .ok x) : x.sentinel = false := by
  unfold sentValue arrayElement at h
  split at h
  · cases h
    exact hv
  · split at h
    · obtain ⟨s, -, hx⟩ := Except.bind_eq_ok.1 h
      cases hx
      rfl
    · obtain ⟨s, -, hx⟩ := Except.bind_eq_ok.1 h
      cases hx
      rfl
    · cases h
      exact hv

theorem params_of_bind_pure {ps : Except Fault (List Value)} {sql : String} {st : Statement}
    (h : (do let params ← ps; pure ⟨sql, params⟩ : Except Fault Statement) = .ok st) : ps = .ok st.params := by
  obtain ⟨params, hparams, hst⟩ := Except.bind_eq_ok.1 h
  cases hst
  exact hparams

/-- 一括更新の文の値: PostgreSQL では列ごとの配列、ほかの方言では行ごとの値を渡せる形にして繋いだもの。 -/
theorem updateMany_params {d : Dialect} {table : Value} {cols : List Value} {keys rows returning : Value}
    {mark : Nat → String} {st : Statement} (h : d.updateMany table cols keys rows returning mark = .ok st) :
    ∃ cs flags rowList, skipFlags cols = .ok (cs, flags) ∧ rows.iterate = .ok rowList ∧
      ((d = .postgresql ∧ ∃ arrays, columnArrays cs rowList = .ok arrays ∧ st.params = arrays.map Value.list) ∨
        d ≠ .postgresql ∧ rowList.flatMapM (fun row => do (← row.iterate).mapM d.adaptParam) = .ok st.params) := by
  unfold updateMany at h
  obtain ⟨⟨cs, flags⟩, hskip, h⟩ := Except.bind_eq_ok.1 h
  dsimp only at h
  cases d with
  | postgresql =>
    obtain ⟨rowList, hrowList, h⟩ := Except.bind_eq_ok.1 h
    obtain ⟨arrays, harrays, h⟩ := Except.bind_eq_ok.1 h
    refine ⟨cs, flags, rowList, hskip, hrowList, .inl ⟨rfl, arrays, harrays, ?_⟩⟩
    -- 型の項、代入、列の名前、結ぶ条件は文だけを決め、値は配列のまま
    obtain ⟨_, -, h⟩ := Except.bind_eq_ok.1 h
    obtain ⟨_, -, h⟩ := Except.bind_eq_ok.1 h
    obtain ⟨_, -, h⟩ := Except.bind_eq_ok.1 h
    obtain ⟨_, -, h⟩ := Except.bind_eq_ok.1 h
    split at h
    · obtain ⟨_, -, h⟩ := Except.bind_eq_ok.1 h
      cases h
      rfl
    · cases h
      rfl
  | mysql =>
    obtain ⟨rowList, hrowList, h⟩ := Except.bind_eq_ok.1 h
    refine ⟨cs, flags, rowList, hskip, hrowList, .inr ⟨nofun, ?_⟩⟩
    obtain ⟨_, -, h⟩ := Except.bind_eq_ok.1 h
    obtain ⟨_, -, h⟩ := Except.bind_eq_ok.1 h
    obtain ⟨_, -, h⟩ := Except.bind_eq_ok.1 h
    exact params_of_bind_pure h
  | sqlite =>
    obtain ⟨rowList, hrowList, h⟩ := Except.bind_eq_ok.1 h
    refine ⟨cs, flags, rowList, hskip, hrowList, .inr ⟨nofun, ?_⟩⟩
    obtain ⟨_, -, h⟩ := Except.bind_eq_ok.1 h
    obtain ⟨_, -, h⟩ := Except.bind_eq_ok.1 h
    obtain ⟨_, -, h⟩ := Except.bind_eq_ok.1 h
    -- `RETURNING` の有無は文だけを変える
    split at h
    · obtain ⟨_, -, h⟩ := Except.bind_eq_ok.1 h
      exact params_of_bind_pure h
    · exact params_of_bind_pure h

/-- 行ごとの値の並びを渡す一括更新では、どの行の値も印でなければ、行の値として渡るものも印でない:
配列に入れるときも渡せる形にするときも、辞書と並びを JSON の文にするだけ。 -/
theorem updateMany_rowValues {d : Dialect} {table : Value} {cols : List Value} {keys returning : Value}
    {rows : List (List Value)} {mark : Nat → String} {st : Statement}
    (hrows : ∀ r ∈ rows, ∀ x ∈ r, x.sentinel = false)
    (h : d.updateMany table cols keys (.list (rows.map Value.list)) returning mark = .ok st) :
    ∀ v ∈ d.rowValues st.params, v.sentinel = false := by
  obtain ⟨cs, flags, rowList, -, hrowList, hparams⟩ := updateMany_params h
  cases hrowList
  have hitem : ∀ row ∈ rows.map Value.list, ∀ xs, row.iterate = .ok xs → ∀ x ∈ xs, x.sentinel = false := by
    intro row hrow xs hxs
    obtain ⟨r, hr, rfl⟩ := List.mem_map.1 hrow
    cases hxs
    exact hrows _ hr
  rcases hparams with ⟨rfl, arrays, harrays, hst⟩ | ⟨hd, hparams⟩
  · intro v hv
    simp only [rowValues, hst, List.flatMap_map, Value.items?, Option.getD_some, List.mem_flatMap] at hv
    obtain ⟨a, ha, hv⟩ := hv
    obtain ⟨items, hitems, hcols⟩ := columnArrays_spec harrays
    obtain ⟨j, hj⟩ := List.mem_iff_getElem?.1 ha
    have hjc : j < cs.length := columnArrays_length harrays ▸ (List.getElem?_eq_some_iff.1 hj).1
    have hcol := hcols j cs[j] (List.getElem?_eq_getElem hjc)
    rw [hj, Option.getD_some] at hcol
    -- 配列の要素は、ある行の `j` 番目の値を配列に入れたもの
    obtain ⟨u, hu, hsent⟩ := mapM_ok_mem hcol v hv
    obtain ⟨xs, hxs, hxu⟩ := List.mem_filterMap.1 hu
    obtain ⟨row, hrow, hrowxs⟩ := mapM_ok_mem hitems xs hxs
    exact sentinel_sentValue (hitem row hrow xs hrowxs u (List.mem_of_getElem? hxu)) hsent
  · have hv : ∀ v ∈ st.params, v.sentinel = false := by
      intro v hv
      obtain ⟨row, hrow, ps, hps, hv⟩ := flatMapM_ok_mem hparams v hv
      obtain ⟨xs, hxs, hps⟩ := Except.bind_eq_ok.1 hps
      obtain ⟨x, hx, hxv⟩ := mapM_ok_mem hps v hv
      exact Value.sentinel_adaptParam (hitem row hrow xs hxs x hx) hxv
    cases d
    · exact absurd rfl hd
    · exact hv
    · exact hv

end Dialect

theorem Value.sentinel_of_bindable {v : Value} (hv : Statement.unbindable v = false) (hnull : v ≠ .marker .null) :
    v.sentinel = false := by
  cases v with
  | marker k => cases k <;> simp_all [Statement.unbindable]
  | _ => simp_all [Statement.unbindable, Value.sentinel]

/-- 書く列の値: 落とす印と NULL は NULL になり、ほかは確かめた値そのもの。 -/
theorem sentinel_setCell {o : Option Value}
    (ho : ∀ v, o = some v → v.isSkip = true ∨ Statement.unbindable v = false) : (setCell o).sentinel = false := by
  unfold setCell
  split
  · rfl
  · rfl
  · rfl
  · next v hskip hnull =>
    rcases ho v rfl with h | h
    · exact absurd (Value.isSkip_eq_true h) hskip
    · exact Value.sentinel_of_bindable h hnull

/-- 計画の一行の値: 照合の列の値は行が与えたまま、書く列の値は確かめた値か NULL、飛ばす印は真偽。 -/
theorem updateRow_unmarked {keys : List Column} {normalized : List Row} {row : Row}
    (hbind : ∀ p ∈ row, keys.any (·.same p.1) = false → p.2.isSkip = true ∨ Statement.unbindable p.2 = false)
    (hkeys : ∀ k ∈ keys, ∀ v, row.get? k = some v → v.sentinel = false) :
    ∀ x ∈ updateRow keys (planSets keys normalized) (planFlagged keys normalized) row, x.sentinel = false := by
  intro x hx
  simp only [updateRow, List.mem_append, List.mem_map] at hx
  rcases hx with (⟨k, hk, rfl⟩ | ⟨c, hc, rfl⟩) | ⟨f, -, rfl⟩
  · cases hget : row.get? k with
    | none => rfl
    | some v => exact hkeys k hk v hget
  · -- 書く列はどの行でも照合の列でないので、行がそこに与えた値は確かめてある
    obtain ⟨row', -, hc'⟩ := List.mem_flatMap.1 (mem_of_mem_firstNamed hc)
    have hkey : keys.any (·.same c) = false := mem_setsOf hc'
    refine sentinel_setCell fun v hv => ?_
    obtain ⟨p, hp, hpc, rfl⟩ := Row.exists_of_get? hv
    exact hbind p hp (by simpa only [Column.same_congr_right hpc] using hkey)
  · rfl

theorem forall₂_exists_left {α β : Type} {R : α → β → Prop} :
    ∀ {xs : List α} {ys : List β}, List.Forall₂ R xs ys → ∀ y ∈ ys, ∃ x ∈ xs, R x y
  | _, _, .nil, _, hy => by cases hy
  | x :: _, _ :: _, .cons hxy hrest, y', hy' => by
    rcases List.mem_cons.1 hy' with rfl | hy'
    · exact ⟨x, List.mem_cons_self, hxy⟩
    · obtain ⟨x', hx', hr⟩ := forall₂_exists_left hrest y' hy'
      exact ⟨x', List.mem_cons_of_mem _ hx', hr⟩

namespace Statement

theorem select_params_unmarked {d : Dialect} {cat : Catalog} {m : Meta} {conds : Value} {opts : FindOptions}
    {mark : Nat → String} {st : Statement} (hcat : cat.guarded = true) (hm : m.guarded = true)
    (hconds : ∀ entries, conds.normalizeConditions = .ok entries → Value.entriesGuarded entries = true)
    (hcte : opts.cteParams.itemsUnmarked = true) (hjoin : opts.joinParams.itemsUnmarked = true)
    (h : Statement.select d cat m conds opts mark = .ok st) : ∀ v ∈ st.params, v.sentinel = false := by
  unfold Statement.select at h
  refine Build.StaysUnmarked.params ?_ hcat h
  refine (Build.stays_withClause hm hcte).bind fun withSql => ?_
  extract_lets table group order lock
  refine (Build.Reads.stays (Build.reads_selectList opts table)).bind fun cols => ?_
  refine (Build.stays_joinClause hjoin).bind fun join => ?_
  refine Build.stays_lift_bind _ fun entries hentries => ?_
  refine ((Build.clauses_stay Build.depthLimit).1 _ _
    (Meta.entriesGuarded_filter hm (hconds entries hentries))).bind fun w => ?_
  extract_lets whereSql jp
  -- まとめ、整列、上限の句は名前と固定の文字列だけを書き、何も束縛しない
  have hjp : ∀ g, Build.StaysUnmarked (jp g) := by
    intro g
    dsimp -zeta only [jp]
    extract_lets jp₁
    have hjp₁ : ∀ o, Build.StaysUnmarked (jp₁ o) := by
      intro o
      simp only [jp₁]
      exact Build.stays_lift_bind _ fun _ _ => Build.stays_pure _
    split
    · exact (Build.Reads.stays (Build.reads_lift _)).bind fun _ => (Build.stays_pure _).bind fun o => hjp₁ o
    · exact (Build.stays_pure _).bind fun o => hjp₁ o
  split
  · exact (Build.Reads.stays (Build.reads_lift _)).bind fun _ =>
      (Build.Reads.stays (Build.reads_mapM (fun _ => Build.reads_name _) _)).bind fun _ =>
        (Build.stays_pure _).bind fun g => hjp g
  · exact (Build.stays_pure _).bind fun g => hjp g

theorem count_params_unmarked {d : Dialect} {cat : Catalog} {m : Meta} {conds : Value} {opts : FindOptions}
    {mark : Nat → String} {st : Statement} (hcat : cat.guarded = true) (hm : m.guarded = true)
    (hconds : ∀ entries, conds.normalizeConditions = .ok entries → Value.entriesGuarded entries = true)
    (hcte : opts.cteParams.itemsUnmarked = true) (hjoin : opts.joinParams.itemsUnmarked = true)
    (h : Statement.count d cat m conds opts mark = .ok st) : ∀ v ∈ st.params, v.sentinel = false := by
  unfold Statement.count at h
  refine Build.StaysUnmarked.params ?_ hcat h
  refine (Build.stays_withClause hm hcte).bind fun withSql => ?_
  refine (Build.stays_joinClause hjoin).bind fun join => ?_
  refine Build.stays_lift_bind _ fun entries hentries => ?_
  exact ((Build.clauses_stay Build.depthLimit).1 _ _
    (Meta.entriesGuarded_filter hm (hconds entries hentries))).bind fun _ => Build.stays_pure _

theorem delete_params_unmarked {d : Dialect} {cat : Catalog} {m : Meta} {conds : Value} {opts : WriteOptions}
    {mark : Nat → String} {st : Statement} (hcat : cat.guarded = true)
    (hconds : ∀ entries, conds.normalizeConditions = .ok entries → Value.entriesGuarded entries = true)
    (h : Statement.delete d cat m conds opts mark = .ok st) : ∀ v ∈ st.params, v.sentinel = false := by
  unfold Statement.delete at h
  refine Build.StaysUnmarked.params ?_ hcat h
  refine Build.stays_lift_bind _ fun _ _ => ?_
  exact (Build.stays_requiredWhere m hconds _).bind fun _ =>
    (Build.Reads.stays (Build.reads_returningClause m _)).bind fun _ => Build.stays_pure _

theorem update_params_unmarked {d : Dialect} {cat : Catalog} {m : Meta} {conds values : Value}
    {opts : WriteOptions} {mark : Nat → String} {st : Statement} (hcat : cat.guarded = true)
    (hconds : ∀ entries, conds.normalizeConditions = .ok entries → Value.entriesGuarded entries = true)
    (hvalues : ∀ row, m.normalizeRow values = .ok row → ∀ cv ∈ row, cv.2.writeGuarded = true)
    (h : Statement.update d cat m conds values opts mark = .ok st) : ∀ v ∈ st.params, v.sentinel = false := by
  unfold Statement.update at h
  refine Build.StaysUnmarked.params ?_ hcat h
  refine Build.stays_lift_bind _ fun _ _ => ?_
  refine Build.stays_lift_bind _ fun row hrow => ?_
  extract_lets table jp
  -- 代入は列の名前と書き込む値を書き、その後に書き込みに要る `WHERE` が続く
  have hjp : ∀ u, Build.StaysUnmarked (jp u) := by
    intro u
    simp only [jp]
    refine (Build.stays_mapM fun cv hcv => ?_).bind fun sets => ?_
    · obtain ⟨c, v⟩ := cv
      exact (Build.Reads.stays (Build.reads_name _)).bind fun _ =>
        (Build.stays_value (hvalues row hrow _ hcv)).bind fun _ => Build.stays_pure _
    · exact (Build.stays_requiredWhere m hconds _).bind fun _ =>
        (Build.Reads.stays (Build.reads_returningClause m _)).bind fun _ => Build.stays_pure _
  split
  · exact (Build.stays_fail _).bind fun u => hjp u
  · exact hjp ()

theorem selectKeys_params_unmarked {d : Dialect} {cat : Catalog} {m : Meta} {conds : Value} {operation : String}
    {forUpdate : Bool} {mark : Nat → String} {st : Statement} (hcat : cat.guarded = true)
    (hconds : ∀ entries, conds.normalizeConditions = .ok entries → Value.entriesGuarded entries = true)
    (h : Statement.selectKeys d cat m conds operation forUpdate mark = .ok st) : ∀ v ∈ st.params, v.sentinel = false := by
  unfold Statement.selectKeys at h
  refine Build.StaysUnmarked.params ?_ hcat h
  refine Build.stays_lift_bind _ fun _ _ => ?_
  exact (Build.stays_requiredWhere m hconds _).bind fun _ =>
    (Build.Reads.stays (Build.reads_mapM (fun _ => Build.reads_name _) _)).bind fun _ => Build.stays_pure _

theorem insert_params_unmarked {d : Dialect} {cat : Catalog} {m : Meta} {rows : List Value} {opts : InsertOptions}
    {mark : Nat → String} {st : Statement} (hcat : cat.guarded = true)
    (hrows : ∀ r ∈ rows, ∀ row, m.normalizeRow r = .ok row → ∀ cv ∈ row, cv.2.writeGuarded = true)
    (h : Statement.insert d cat m rows opts mark = .ok st) : ∀ v ∈ st.params, v.sentinel = false := by
  unfold Statement.insert at h
  refine Build.StaysUnmarked.params ?_ hcat h
  refine Build.stays_lift_bind _ fun _ _ => ?_
  extract_lets table ignore verb rest
  split
  · exact Build.stays_fail_bind _ _
  dsimp -zeta only [rest]
  refine Build.stays_mapM_lift_bind fun normalized hnorm => ?_
  extract_lets columns jp
  -- 本体の後: 衝突の句、上書きする列、`RETURNING` の句は名前と固定の文字列だけを書く
  have hjp : ∀ body, Build.Reads (jp body) := by
    intro body
    dsimp -zeta only [jp]
    extract_lets last next
    have hlast : ∀ clause, Build.Reads (last clause) := fun clause =>
      (Build.reads_returningClause m _).bind fun _ => Build.reads_pure _
    have hnext : ∀ conflict, Build.Reads (next conflict) := by
      intro conflict
      simp only [next]
      refine (Build.reads_conflictUpdates opts columns).bind fun updates => ?_
      split
      · exact (Build.reads_lift _).bind fun _ => hlast _
      · exact (Build.reads_pure _).bind fun _ => hlast _
    split
    · exact (Build.reads_lift _).bind fun _ => (Build.reads_mapM (fun _ => Build.reads_name _) _).bind fun _ => hnext _
    · exact (Build.reads_pure _).bind fun _ => hnext _
  split
  · split
    · exact Build.stays_fail_bind _ _
    · exact (Build.stays_pure _).bind fun body => Build.Reads.stays (hjp body)
  · refine (Build.Reads.stays (Build.reads_mapM (fun _ => Build.reads_name _) _)).bind fun _ => ?_
    refine (Build.stays_mapM fun row hrow => ?_).bind fun _ =>
      (Build.stays_pure _).bind fun body => Build.Reads.stays (hjp body)
    -- 挿入する値は、行が列に与えた値か NULL
    obtain ⟨r, hr, hrow'⟩ := mapM_ok_mem hnorm row hrow
    refine (Build.stays_mapM fun c _ => Build.stays_value ?_).bind fun _ =>
      (Build.Reads.stays (Build.reads_lift _)).bind fun _ => Build.stays_pure _
    cases hget : row.get? c with
    | none => rfl
    | some v =>
      obtain ⟨p, hp, -, rfl⟩ := Row.exists_of_get? hget
      exact hrows r hr row hrow' p hp

theorem updateMany_rowValues_unmarked {d : Dialect} {m : Meta} {rows keyColumns : List Value}
    {opts : WriteOptions} {mark : Nat → String} {st : Statement}
    (hkeys : ∀ keys, m.resolveColumns keyColumns = .ok keys → ∀ r ∈ rows, ∀ row, m.normalizeRow r true = .ok row →
      ∀ k ∈ keys, ∀ v, row.get? k = some v → v.sentinel = false)
    (h : Statement.updateMany d m rows keyColumns opts mark = .ok st) :
    ∀ v ∈ d.rowValues st.params, v.sentinel = false := by
  obtain ⟨keys, normalized, plan⟩ := Statement.updateMany_plan h
  refine Dialect.updateMany_rowValues ?_ plan.rendered
  intro r hr x hx
  obtain ⟨row, hrow, rfl⟩ := List.mem_map.1 hr
  obtain ⟨r₀, hr₀, hnorm⟩ := forall₂_exists_left plan.rows_normalized row hrow
  exact updateRow_unmarked (plan.values_bindable row hrow) (hkeys keys plan.keys_resolved r₀ hr₀ row hnorm) x hx

/-- 組み立てた文の値に組み立ての印の値が入らない: 表の集まりとモデルが印を守り、正規化した条件の並びの
確かめずに束縛される場所（`BETWEEN` の両端、値の並びの `IN`、組の `IN` の行、印を含む断片の値、`ILIKE` の値、
断片の自前の値）に印がなく、検索と件数では共通表式と結合の値に、更新と挿入では書き込む断片の値に、
一括更新では照合の列の値に印がなければよい。一括更新の値は PostgreSQL では列ごとの配列なので、その要素を
見る。キーと値の組、`ILIKE` 以外の比較の値、書き込む値、一括更新の書く列の値の印は、書かれるか拒まれるかで、
値にはならない。 -/
theorem bound_params_unmarked {d : Dialect} {cat : Catalog} {m : Meta} {conds : Value} {mark : Nat → String}
    (hcat : cat.guarded = true) (hm : m.guarded = true)
    (hconds : ∀ entries, conds.normalizeConditions = .ok entries → Value.entriesGuarded entries = true) :
    (∀ (opts : FindOptions) (st : Statement), opts.cteParams.itemsUnmarked = true →
      opts.joinParams.itemsUnmarked = true →
      (Statement.select d cat m conds opts mark = .ok st ∨ Statement.count d cat m conds opts mark = .ok st) →
      ∀ v ∈ st.params, v.sentinel = false) ∧
    (∀ (opts : WriteOptions) (st : Statement), Statement.delete d cat m conds opts mark = .ok st →
      ∀ v ∈ st.params, v.sentinel = false) ∧
    (∀ (values : Value) (opts : WriteOptions) (st : Statement),
      (∀ row, m.normalizeRow values = .ok row → ∀ cv ∈ row, cv.2.writeGuarded = true) →
      Statement.update d cat m conds values opts mark = .ok st → ∀ v ∈ st.params, v.sentinel = false) ∧
    (∀ (operation : String) (forUpdate : Bool) (st : Statement),
      Statement.selectKeys d cat m conds operation forUpdate mark = .ok st → ∀ v ∈ st.params, v.sentinel = false) ∧
    (∀ (rows : List Value) (opts : InsertOptions) (st : Statement),
      (∀ r ∈ rows, ∀ row, m.normalizeRow r = .ok row → ∀ cv ∈ row, cv.2.writeGuarded = true) →
      Statement.insert d cat m rows opts mark = .ok st → ∀ v ∈ st.params, v.sentinel = false) ∧
    (∀ (rows keyColumns : List Value) (opts : WriteOptions) (st : Statement),
      (∀ keys, m.resolveColumns keyColumns = .ok keys → ∀ r ∈ rows, ∀ row, m.normalizeRow r true = .ok row →
        ∀ k ∈ keys, ∀ v, row.get? k = some v → v.sentinel = false) →
      Statement.updateMany d m rows keyColumns opts mark = .ok st → ∀ v ∈ d.rowValues st.params, v.sentinel = false) := by
  refine ⟨fun opts st hcte hjoin h => ?_, fun opts st h => delete_params_unmarked hcat hconds h,
    fun values opts st hvalues h => update_params_unmarked hcat hconds hvalues h,
    fun operation forUpdate st h => selectKeys_params_unmarked hcat hconds h,
    fun rows opts st hrows h => insert_params_unmarked hcat hrows h,
    fun rows keyColumns opts st hkeys h => updateMany_rowValues_unmarked hkeys h⟩
  rcases h with h | h
  · exact select_params_unmarked hcat hm hconds hcte hjoin h
  · exact count_params_unmarked hcat hm hconds hcte hjoin h

/-- 問い合わせで定まるモデル `activeUsers` を、印のない両端の `BETWEEN` で引く文の値は、本体の値 1 と
両端の 1, 9 で、どれも印でない。 -/
theorem activeUsers_between_params_unmarked :
    ∃ st, Statement.select .postgresql {} activeUsers
        (.condList [.between (.column (activeUserColumn "id" true)) (.int 1) (.int 9)]) {} = .ok st ∧
      st.params = [.int 1, .int 1, .int 9] ∧ ∀ v ∈ st.params, v.sentinel = false := by
  have hparams : (Statement.select .postgresql {} activeUsers
      (.condList [.between (.column (activeUserColumn "id" true)) (.int 1) (.int 9)]) {}).toOption.map
        Statement.params = some [.int 1, .int 1, .int 9] := by
    rfl
  obtain ⟨st, hst, hp⟩ := Except.exists_of_toOption_map hparams
  have hconds : ∀ entries, Value.normalizeConditions
      (.condList [.between (.column (activeUserColumn "id" true)) (.int 1) (.int 9)]) = .ok entries →
      Value.entriesGuarded entries = true := by
    intro entries hentries
    cases hentries
    decide
  exact ⟨st, hst, hp,
    (bound_params_unmarked (by decide) (by decide) hconds).1 {} st (by decide) (by decide) (.inl hst)⟩

/-- 範囲の両端と一括更新の照合の列の値は確かめないので、そこに置いた現在時刻の印は値として渡る。 -/
theorem now_marker_bound :
    (∃ st, Statement.select .sqlite {} Session.accountMeta
        (.condList [.between (.column Session.accountId) (.int 1) (.marker .now)]) {} = .ok st ∧
      st.params = [.int 1, .marker .now]) ∧
    ∃ st, Statement.updateMany .sqlite Session.accountMeta
        [.list [.tuple [.str "id", .marker .now], .tuple [.str "name", .str "a"]]] [.str "id"] {} = .ok st ∧
      st.params = [.marker .now, .str "a"] := by
  have hbetween : (Statement.select .sqlite {} Session.accountMeta
      (.condList [.between (.column Session.accountId) (.int 1) (.marker .now)]) {}).toOption.map
        Statement.params = some [.int 1, .marker .now] := by
    rfl
  have hkey : (Statement.updateMany .sqlite Session.accountMeta
      [.list [.tuple [.str "id", .marker .now], .tuple [.str "name", .str "a"]]] [.str "id"] {}).toOption.map
        Statement.params = some [.marker .now, .str "a"] := by
    rfl
  exact ⟨Except.exists_of_toOption_map hbetween, Except.exists_of_toOption_map hkey⟩

end Statement

end DataAccess
