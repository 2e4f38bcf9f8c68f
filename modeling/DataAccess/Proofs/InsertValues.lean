import Mathlib.Data.List.Induction
import DataAccess.Proofs.KeyLookup
/-!
# 挿入の文の列と VALUES

挿入の文は、行ごとに正規化した値（`SKIP` の項は落ちる）から作る。

* 列の並びは、どの行かが `SKIP` でない値を与えた列を、最初に現れた順に一度ずつ並べたもの
  （`firstNamed`）。
* VALUES は入力の行ごとに一つの組を、入力の順に持つ。行 `i` の組の列 `c` の位置には、行 `i` が `c` に
  与えた値の書き方（`Value.valuesItem`）がある: 普通の値と `None`/`NULL` は束縛した印 `?`、`NOW` は方言の
  現在時刻、`Raw` はその文、`Dynamic` はその断片で、断片の値はその場で束縛する。`c` を与えない行は
  NULL を束縛する。
* 列のない一行は方言の `DEFAULT VALUES` の形、列のない行が二つ以上なら契約違反。
* 衝突時の上書きが `"all"` なら、上書きする列は、挿入する列のうち衝突の対象に挙げた列でないもの。

成功した組み立てについて言うために、成功すれば結果と束縛した値が関係を満たす計算（`Adds`）の規則を置く。
文の形は `InsertShape` に、衝突の句と `RETURNING` の句は `InsertTail` にまとめる。
-/

namespace DataAccess

namespace Build

/-! ## 成功したときに束縛した値 -/

/-- 計算 `x` を方言 `d` で印を `?` と書く状態から走らせて成功すれば、結果 `a` と、その間に束縛した値の
並び `qs`（束縛した順）について `R a qs` が成り立ち、束縛した値のほかは状態を変えない。 -/
def Adds {α : Type} (d : Dialect) (R : α → List Value → Prop) (x : Build α) : Prop :=
  ∀ c a c', c.dialect = d → (∀ i, c.mark i = "?") → x.run c = .ok (a, c') →
    ∃ qs, R a qs ∧ c' = { c with bound := qs.reverse ++ c.bound }

section Adds

variable {d : Dialect} {α β γ : Type}

theorem adds_pure {R : α → List Value → Prop} {a : α} (h : R a []) : Adds d R (pure a) := by
  intro c a' c' _ _ hrun
  cases hrun
  exact ⟨[], h, rfl⟩

theorem adds_fail {R : α → List Value → Prop} (e : Fault) : Adds d R (fail e) := by
  intro c a c' _ _ hrun
  cases hrun

theorem Adds.bind {R : α → List Value → Prop} {S : β → List Value → Prop} {x : Build α} {g : α → Build β}
    (hx : Adds d R x) (hg : ∀ a qs, R a qs → Adds d (fun b rs => S b (qs ++ rs)) (g a)) :
    Adds d S (x >>= g) := by
  intro c b c'' hd hmark hrun
  obtain ⟨a, c', h1, h2⟩ := run_bind_ok hrun
  obtain ⟨qs, hR, rfl⟩ := hx c a c' hd hmark h1
  obtain ⟨rs, hS, rfl⟩ := hg a qs hR { c with bound := qs.reverse ++ c.bound } b c'' hd hmark h2
  exact ⟨qs ++ rs, hS, by simp [List.reverse_append, List.append_assoc]⟩

theorem Adds.mono {R S : α → List Value → Prop} {x : Build α} (h : Adds d R x) (hRS : ∀ a qs, R a qs → S a qs) :
    Adds d S x := by
  intro c a c' hd hmark hrun
  obtain ⟨qs, hR, hc⟩ := h c a c' hd hmark hrun
  exact ⟨qs, hRS a qs hR, hc⟩

theorem Binds.adds {x : Build α} {t : α} {ps : Except Fault (List Value)} (h : Binds d x t ps) :
    Adds d (fun a qs => a = t ∧ ps = .ok qs) x := by
  intro c a c' hd hmark hrun
  rw [h c hd hmark] at hrun
  cases ps with
  | error e => cases hrun
  | ok qs =>
    cases hrun
    exact ⟨qs, ⟨rfl, rfl⟩, rfl⟩

theorem adds_lift (e : Except Fault α) : Adds d (fun a qs => e = .ok a ∧ qs = []) (lift e) := by
  cases e with
  | error err => exact adds_fail err
  | ok a => exact adds_pure ⟨rfl, rfl⟩

/-- 要素ごとの計算を並べると、要素ごとの結果と値の組が並ぶ。結果は組の一つ目、値は組の二つ目を繋いだもの。 -/
theorem Adds.mapM {g : γ → Build α} {R : γ → α → List Value → Prop} :
    ∀ {xs : List γ}, (∀ x ∈ xs, Adds d (R x) (g x)) →
      Adds d (fun as qs => ∃ pairs : List (α × List Value), List.Forall₂ (fun x p => R x p.1 p.2) xs pairs ∧
        as = pairs.map (·.1) ∧ qs = (pairs.map (·.2)).flatten) (xs.mapM g)
  | [], _ => adds_pure ⟨[], .nil, rfl, rfl⟩
  | x :: xs, h => by
    rw [List.mapM_cons]
    refine (h x List.mem_cons_self).bind fun a qs hx => ?_
    refine (Adds.mapM fun y hy => h y (List.mem_cons_of_mem x hy)).bind fun as rs hrest => ?_
    obtain ⟨pairs, hpairs, rfl, rfl⟩ := hrest
    exact adds_pure ⟨(a, qs) :: pairs, .cons hx hpairs, rfl, by simp⟩

theorem binds_bindAll : ∀ ps : List Value,
    Binds d (forIn ps PUnit.unit fun p _ => do
      let _ ← Build.bind p
      Pure.pure (ForInStep.yield PUnit.unit)) PUnit.unit ((ps.mapM d.adaptParam))
  | [] => binds_pure _
  | p :: ps => by
    have ih := binds_bindAll ps
    intro c hd hmark
    subst hd
    rw [List.forIn_cons, StateT.run_bind, StateT.run_bind, run_bind, List.mapM_cons]
    cases c.dialect.adaptParam p with
    | error e => rfl
    | ok q =>
      simp only [Except.map, except_ok_bind, StateT.run_pure, pure_bind]
      rw [ih { c with bound := q :: c.bound } rfl hmark]
      cases ps.mapM c.dialect.adaptParam with
      | error e => rfl
      | ok qs => simp [Except.map]

/-- 印を `?` と書く状態では、囲みの外の印を書き直しても文字列は変わらない。 -/
theorem binds_marked (s : String) : Binds d (marked s) s (.ok []) := by
  intro c _ hmark
  have hrun : (marked s).run c = .ok (Sql.renumber (fun i => c.mark (c.bound.length + i)) 0 s, c) := rfl
  rw [hrun]
  simp only [hmark, Sql.renumber_qmark]
  rfl

/-- 断片を束縛すると、値を順に束縛する。文字列の断片は印の数が値の数と同じときに限り、そのまま返る。 -/
theorem adds_bindFragment (sql : Value) (ps : List Value) (label : String) :
    Adds d (fun r qs => ps.mapM d.adaptParam = .ok qs ∧
      ∀ t, r = .str t → sql = .str t ∧ Sql.countMarkers t = ps.length) (bindFragment sql ps label) := by
  unfold bindFragment
  refine (adds_lift _).bind fun expected _ ⟨hexp, hq⟩ => ?_
  subst hq
  by_cases hn : (expected != ps.length) = true
  · simp only [hn, if_true]
    exact (adds_fail (R := fun _ _ => False) _).bind fun _ _ h => h.elim
  have hlen : expected = ps.length := by simpa using hn
  simp only [hn, Bool.false_eq_true, if_false]
  -- 値の束縛は、断片が文字列でもそうでなくても同じ
  have hall : ∀ (r : Value), (∀ t, r = .str t → sql = .str t ∧ Sql.countMarkers t = ps.length) →
      Adds d (fun b rs => ps.mapM d.adaptParam = .ok ([] ++ rs) ∧
        ∀ t, b = .str t → sql = .str t ∧ Sql.countMarkers t = ps.length)
        (forIn ps PUnit.unit (fun p _ => do
          let _ ← Build.bind p
          pure (ForInStep.yield PUnit.unit)) >>= fun _ => pure r) := by
    intro r hr
    refine ((binds_bindAll ps).adds.bind fun _ qs ⟨_, hqs⟩ => adds_pure ?_).mono fun _ _ h => h
    exact ⟨by simpa using hqs, hr⟩
  split
  · next _ s _ =>
    simp only [markerCount_str, Except.ok.injEq] at hexp
    refine ((binds_marked s).map_pure Value.str).adds.bind fun r qs ⟨hr, hqs⟩ => ?_
    subst hr
    cases hqs
    refine hall _ fun t ht => ?_
    obtain rfl : s = t := Value.str.inj ht
    exact ⟨rfl, hexp.trans hlen⟩
  · next _ hv =>
    simp only [pure_bind]
    exact hall sql fun t ht => absurd ht (hv t)

end Adds

end Build

/-! ## VALUES の一項 -/

/-- 挿入する値を VALUES の一項として書いたもの: 項の文と、その項が束縛する値（方言の形にする前）。
`None` と `NULL` は NULL を、普通の値はその値を印 `?` で束縛する。`NOW` は方言の現在時刻、`Raw` は
その文、`Dynamic` は印の数が値の数に等しい断片で、その値を束縛する。ほかの標識、外側の参照、述語、
文字列でない `Raw` と `Dynamic` の断片は項にならない。 -/
def Value.valuesItem (d : Dialect) : Value → Option (String × List Value)
  | .none | .marker .null => some ("?", [.none])
  | .marker .now => some (d.now, [])
  | .raw (.str s) => some (s, [])
  | .dynamic (.str s) ps => if Sql.countMarkers s = ps.length then some (s, ps) else Option.none
  | .marker _ | .raw _ | .dynamic .. | .parentRef _ => Option.none
  | v => if v.isPredicate then Option.none else some ("?", [v])

/-! ## 正規化した行 -/

/-- 書き込む値の項が `SKIP` を与えるか。 -/
def Value.skipsEntry : Value → Bool
  | .tuple [_, .marker .skip] => true
  | _ => false

/-- 一歩ごとに、残す要素なら関係 `R` の項を一つ足し、残さない要素なら何も足さない `foldlM` は、
残す要素と足した項を順に対応させる。 -/
theorem foldlM_filter_forall₂ {ε α β : Type} {g : List β → α → Except ε (List β)} {k : α → Bool}
    {R : α → β → Prop}
    (hg : ∀ acc a acc', g acc a = .ok acc' → (k a = true ∧ ∃ b, R a b ∧ acc' = acc ++ [b]) ∨
      (k a = false ∧ acc' = acc)) :
    ∀ {l : List α} {acc r : List β}, l.foldlM g acc = .ok r →
      ∃ rest, List.Forall₂ R (l.filter k) rest ∧ r = acc ++ rest
  | [], _, _, h => by
    cases h
    exact ⟨[], .nil, by simp⟩
  | a :: l, acc, _, h => by
    rw [List.foldlM_cons] at h
    obtain ⟨acc', hstep, hrest⟩ := Except.bind_eq_ok.1 h
    obtain ⟨rest, hrel, rfl⟩ := foldlM_filter_forall₂ hg hrest
    rcases hg acc a acc' hstep with ⟨hk, b, hab, rfl⟩ | ⟨hk, rfl⟩
    · exact ⟨b :: rest, by simpa [List.filter_cons, hk] using List.Forall₂.cons hab hrel, by simp⟩
    · exact ⟨rest, by simpa [List.filter_cons, hk] using hrel, rfl⟩

/-- 正規化した行は、書き込む値の項のうち残すもの（`SKIP` を残さないなら `SKIP` でない項）を順に、
キーをモデルの列にして値をそのまま並べたもの。 -/
theorem Meta.normalizeRow_entries {m : Meta} {values : Value} {keep : Bool} {row : Row}
    (h : m.normalizeRow values keep = .ok row) :
    ∃ items, values.rowItems = .ok items ∧
      List.Forall₂ (fun item (p : Column × Value) => ∃ key, item = .tuple [key, p.2] ∧ m.own key = .ok p.1)
        (items.filter fun item => keep || !item.skipsEntry) row := by
  unfold Meta.normalizeRow at h
  extract_lets fold at h
  have hitems : ∃ items, values.rowItems = .ok items ∧ fold items = .ok row := by
    split at h
    · exact ⟨_, rfl, h⟩
    · next v hv =>
      obtain ⟨items, hi, hfold⟩ := Except.bind_eq_ok.1 h
      refine ⟨items, ?_, hfold⟩
      cases v <;> simp_all [Value.rowItems]
  obtain ⟨items, hrow, hfold⟩ := hitems
  refine ⟨items, hrow, ?_⟩
  have hsteps := foldlM_filter_forall₂ (k := fun item => keep || !item.skipsEntry)
    (R := fun item (p : Column × Value) => ∃ key, item = .tuple [key, p.2] ∧ m.own key = .ok p.1) ?_ hfold
  · obtain ⟨rest, hrel, hr⟩ := hsteps
    simpa [hr] using hrel
  intro acc item acc' hstep
  split at hstep
  · next key v =>
    obtain ⟨c, hc, hrest⟩ := Except.bind_eq_ok.1 hstep
    extract_lets add at hrest
    split at hrest
    · cases hrest
    simp only [add] at hrest
    -- `SKIP` の項は残すときだけ足し、ほかの項はいつも足す
    split at hrest
    · by_cases hk : keep = true
      · rw [if_pos hk] at hrest
        cases hrest
        exact .inl ⟨by simp [hk], (c, .marker .skip), ⟨key, rfl, hc⟩, rfl⟩
      · rw [if_neg hk] at hrest
        cases hrest
        exact .inr ⟨by simp [hk, Value.skipsEntry], rfl⟩
    · next hv =>
      cases hrest
      refine .inl ⟨?_, (c, v), ⟨key, rfl, hc⟩, rfl⟩
      cases v <;> simp_all [Value.skipsEntry]
  · cases hstep

/-! ## 最初に現れた順の列 -/

/-- 列の並びのうち、前に同じ列（`Column.same`）が現れない列を順に残したもの。どの列も、最初に
現れた所で一度だけ残る。 -/
def firstNamed (cs : List Column) : List Column :=
  (cs.zipIdx.filter fun p => !(cs.take p.2).any (·.same p.1)).map (·.1)

theorem Column.same_trans {a b c : Column} (hab : a.same b = true) (hbc : b.same c = true) : a.same c = true := by
  simp only [Column.same, Bool.and_eq_true, beq_iff_eq] at *
  exact ⟨hab.1.trans hbc.1, hab.2.trans hbc.2⟩

theorem Column.same_self (a : Column) : a.same a = true := by
  simp [Column.same]

theorem firstNamed_concat (cs : List Column) (c : Column) :
    firstNamed (cs ++ [c]) = firstNamed cs ++ if cs.any (·.same c) then [] else [c] := by
  unfold firstNamed
  rw [List.zipIdx_append, List.filter_append, List.map_append]
  -- 前の部分の列は、前の部分の中だけを見る
  have hfront : (cs.zipIdx.filter fun p => !((cs ++ [c]).take p.2).any (·.same p.1)) =
      cs.zipIdx.filter fun p => !(cs.take p.2).any (·.same p.1) := by
    refine List.filter_congr fun p hp => ?_
    obtain ⟨-, hi, -⟩ := List.mem_zipIdx hp
    rw [List.take_append_of_le_length (by omega)]
  rw [hfront]
  congr 1
  simp only [Nat.zero_add, List.zipIdx_singleton]
  split <;> simp_all

theorem mem_of_mem_firstNamed {cs : List Column} {c : Column} (h : c ∈ firstNamed cs) : c ∈ cs := by
  obtain ⟨p, hp, rfl⟩ := List.mem_map.1 h
  obtain ⟨-, hi, hx⟩ := List.mem_zipIdx (List.mem_of_mem_filter hp)
  rw [hx]
  exact List.getElem_mem _

theorem any_firstNamed (cs : List Column) (c : Column) :
    (firstNamed cs).any (·.same c) = cs.any (·.same c) := by
  induction cs using List.reverseRecOn with
  | nil => rfl
  | append_singleton cs x ih =>
    rw [firstNamed_concat, List.any_append, ih, List.any_append]
    split
    · next hx =>
      -- 足した列が前の列と同じなら、その列と同じ列は前にもある
      simp only [List.any_nil, Bool.or_false, List.any_cons]
      cases hxc : x.same c
      · simp
      · obtain ⟨y, hy, hyx⟩ := List.any_eq_true.1 hx
        have hyc : cs.any (·.same c) = true := List.any_eq_true.2 ⟨y, hy, Column.same_trans hyx hxc⟩
        simp [hyc]
    · simp

/-- 足していく並びに同じ列がなければ足す `foldl` は、最初に現れた列を残す。 -/
theorem foldl_addNew (cs : List Column) :
    cs.foldl (fun acc c => if acc.any (·.same c) then acc else acc ++ [c]) [] = firstNamed cs := by
  induction cs using List.reverseRecOn with
  | nil => rfl
  | append_singleton cs x ih =>
    rw [List.foldl_append, ih, firstNamed_concat]
    simp only [List.foldl_cons, List.foldl_nil, any_firstNamed]
    split <;> simp

/-- 行を重ねずに並べた列は、行の列を行の順、行の中の順に並べて、最初に現れた列を残したもの。 -/
theorem unionColumns_eq_firstNamed (rows : List Row) :
    unionColumns rows = firstNamed (rows.flatMap fun row => row.map (·.1)) := by
  rw [← foldl_addNew, List.foldl_flatMap]
  simp only [List.foldl_map]
  rfl

theorem firstNamed_pairwise (cs : List Column) :
    (firstNamed cs).Pairwise fun a b => a.same b = false := by
  induction cs using List.reverseRecOn with
  | nil => exact .nil
  | append_singleton cs x ih =>
    rw [firstNamed_concat]
    split
    · simpa using ih
    · next hx =>
      refine List.pairwise_append.2 ⟨ih, List.pairwise_singleton _ _, fun a ha b hb => ?_⟩
      rw [List.mem_singleton] at hb
      subst hb
      simpa using fun h => hx (List.any_eq_true.2 ⟨a, mem_of_mem_firstNamed ha, h⟩)

theorem exists_same_firstNamed {cs : List Column} {c : Column} (h : c ∈ cs) :
    ∃ c' ∈ firstNamed cs, c'.same c = true := by
  have hany : cs.any (·.same c) = true := List.any_eq_true.2 ⟨c, h, Column.same_self c⟩
  rw [← any_firstNamed] at hany
  exact List.any_eq_true.1 hany

namespace Build

section Adds

variable {d : Dialect}

theorem mapM_singleton {ε α β : Type} (f : α → Except ε β) (x : α) : [x].mapM f = (f x).map ([·]) := by
  rw [List.mapM_cons, List.mapM_nil]
  cases f x <;> rfl

/-- 一つの値の項: 結果が文字列なら、それは値の項の文で、束縛したのはその項の値を方言の形にしたもの。
文字列でない結果（文字列でない `Raw` や断片）は、文を繋ぐところで失敗する。 -/
def ItemOf (d : Dialect) (v : Value) (r : Value) (qs : List Value) : Prop :=
  ∀ t, r = .str t → ∃ ps, v.valuesItem d = some (t, ps) ∧ ps.mapM d.adaptParam = .ok qs

theorem adds_bindValue (v : Value) (hv : v.valuesItem d = some ("?", [v])) :
    Adds d (ItemOf d v) (.str <$> bind v) := by
  refine ((binds_bind v).map_pure Value.str).adds.mono fun r qs ⟨hr, hqs⟩ t ht => ?_
  subst hr
  obtain rfl : t = "?" := (Value.str.inj ht).symm
  exact ⟨[v], hv, (mapM_singleton _ _).trans hqs⟩

theorem adds_value (v : Value) : Adds d (ItemOf d v) (value v) := by
  unfold value
  refine binds_dialect.adds.bind fun d' _ ⟨hd', hq⟩ => ?_
  obtain rfl : d' = d := hd'
  cases hq
  simp only [List.nil_append]
  cases v with
  | none => exact (adds_bindValue .none rfl).mono fun _ _ h => h
  | marker m =>
    cases m with
    | null =>
      refine ((binds_bind Value.none).map_pure Value.str).adds.mono fun r qs ⟨hr, hqs⟩ t ht => ?_
      subst hr
      obtain rfl : t = "?" := (Value.str.inj ht).symm
      exact ⟨[.none], rfl, (mapM_singleton _ _).trans hqs⟩
    | now => exact adds_pure fun t ht => ⟨[], by rw [← Value.str.inj ht]; rfl, rfl⟩
    | skip | notNull => exact adds_fail _
  | raw sql => exact adds_pure fun t ht => ⟨[], by subst ht; rfl, rfl⟩
  | dynamic sql ps =>
    refine (adds_bindFragment sql ps "dynamic value").mono fun r qs ⟨hqs, hr⟩ t ht => ?_
    obtain ⟨rfl, hcount⟩ := hr t ht
    exact ⟨ps, by simp [Value.valuesItem, hcount], hqs⟩
  | parentRef col => exact adds_fail _
  | comparison | between | tupleIn | orGroup | rawCondition | inSubquery | existsIn => exact adds_fail _
  | _ => exact adds_bindValue _ rfl

end Adds

end Build

/-! ## 挿入の文の形 -/

theorem Value.eq_strs_of_mapM_zipIdx {g : Value × Nat → Except Fault String}
    (hg : ∀ v i t, g (v, i) = .ok t → v = .str t) :
    ∀ (vs : List Value) (n : Nat) {ts : List String}, (vs.zipIdx n).mapM g = .ok ts → vs = ts.map Value.str
  | [], _, _, h => by
    cases h
    rfl
  | v :: vs, n, _, h => by
    simp only [List.zipIdx_cons, List.mapM_cons] at h
    obtain ⟨t, ht, h⟩ := Except.bind_eq_ok.1 h
    obtain ⟨rest, hrest, h⟩ := Except.bind_eq_ok.1 h
    cases h
    rw [hg v n t ht, Value.eq_strs_of_mapM_zipIdx hg vs (n + 1) hrest]
    rfl

theorem Value.joinItems_eq_ok {sep : String} {vs : List Value} {s : String} (h : Value.joinItems sep vs = .ok s) :
    ∃ ss, vs = ss.map Value.str ∧ s = sep.intercalate ss := by
  simp only [Value.joinItems] at h
  obtain ⟨ts, hts, h⟩ := Except.bind_eq_ok.1 h
  cases h
  refine ⟨ts, Value.eq_strs_of_mapM_zipIdx (fun v i t hv => ?_) vs 0 hts, rfl⟩
  cases v with
  | str s =>
    cases hv
    rfl
  | _ => cases hv

/-- 名前の項（列か列名の文字列）の識別子。ほかの項は名前にならない。 -/
def Value.nameText (d : Dialect) : Value → Option String
  | .column c => some (d.identifier c.name)
  | .str s => some (d.identifier s)
  | _ => Option.none

/-- 衝突の対象の項が列 `c` を挙げているか（列名の文字列は列と比べない）。 -/
def Value.targetsColumn (c : Column) : Value → Bool
  | .column kc => kc.same c
  | _ => false

/-- 衝突の対象に挙げた項（挙げていなければ空）。 -/
def InsertOptions.conflictTargets (opts : InsertOptions) : Except Fault (List Value) :=
  if opts.onConflict.truthy then opts.onConflict.iterate else .ok []

/-- `RETURNING` の句の文。 -/
def returningText (d : Dialect) (m : Meta) (wanted : Value) : String :=
  if wanted.truthy && d.supportsReturning && !m.primaryKey.isEmpty then
    " RETURNING " ++ ", ".intercalate (m.primaryKey.map fun c => d.identifier c.name)
  else ""

/-- 列 `c` の位置の VALUES の項 `cell`（文と束縛した値）は、行 `row` が `c` に与えた値（与えなければ NULL）の
書き方。 -/
def CellOf (d : Dialect) (row : Row) (c : Column) (cell : String × List Value) : Prop :=
  ∃ ps, ((row.get? c).getD .none).valuesItem d = some (cell.1, ps) ∧ ps.mapM d.adaptParam = .ok cell.2

/-- 値 `values` を正規化した行 `row` は、その項のうち `SKIP` でない項を、キーをこのモデルの列にして順に
並べたもの。 -/
def Meta.EntriesOf (m : Meta) (values : Value) (row : Row) : Prop :=
  ∃ items, values.rowItems = .ok items ∧
    List.Forall₂ (fun item (p : Column × Value) => ∃ key, item = .tuple [key, p.2] ∧ m.own key = .ok p.1)
      (items.filter fun item => !item.skipsEntry) row

/-- 行の並びが与えた列を、最初に現れた順に一度ずつ。 -/
def columnsOf (rows : List Row) : List Column := firstNamed (rows.flatMap fun row => row.map (·.1))

theorem columnsOf_pairwise (rows : List Row) : (columnsOf rows).Pairwise fun a b => a.same b = false :=
  firstNamed_pairwise _

theorem mem_columnsOf {rows : List Row} {c : Column} (h : c ∈ columnsOf rows) :
    ∃ row ∈ rows, ∃ v, (c, v) ∈ row := by
  obtain ⟨row, hrow, hc⟩ := List.mem_flatMap.1 (mem_of_mem_firstNamed h)
  obtain ⟨p, hp, rfl⟩ := List.mem_map.1 hc
  exact ⟨row, hrow, p.2, hp⟩

theorem exists_same_columnsOf {rows : List Row} {row : Row} (hrow : row ∈ rows) {p : Column × Value}
    (hp : p ∈ row) : ∃ c ∈ columnsOf rows, c.same p.1 = true :=
  exists_same_firstNamed (List.mem_flatMap.2 ⟨row, hrow, List.mem_map_of_mem hp⟩)

/-- 挿入の文の頭: 列があれば列の並びと行ごとの VALUES の組、なければ方言の `DEFAULT VALUES` の形。 -/
def insertHead (d : Dialect) (m : Meta) (ignore : Bool) (columns : List Column) (cells : List (List String)) :
    String :=
  if columns.isEmpty then d.insertVerb ignore ++ " " ++ d.identifier m.writeTable ++ " " ++ d.defaultValuesClause
  else d.insertVerb ignore ++ " " ++ d.identifier m.writeTable ++ " (" ++
    ", ".intercalate (columns.map fun c => d.identifier c.name) ++ ") VALUES " ++
    ", ".intercalate (cells.map fun rc => "(" ++ ", ".intercalate rc ++ ")")

/-- 衝突の句の前に空白を置く（句が空なら何も置かない）。 -/
def clauseSuffix (clause : String) : String := if clause.isEmpty then "" else " " ++ clause

/-- 挿入の文の頭 `head` の後に衝突の句と `RETURNING` の句を置いた文 `sql`。衝突の句は、衝突の対象の名前と
上書きする列から方言が書くもの（句が要らなければ空）。上書きが `"all"` なら、上書きする列は、挿入する列
`columns` のうち衝突の対象に挙げた列でないもの。 -/
def InsertTail (d : Dialect) (m : Meta) (opts : InsertOptions) (columns : List Column) (head sql : String) : Prop :=
  ∃ targets conflict updates clause, opts.conflictTargets = .ok targets ∧
    List.Forall₂ (fun v s => v.nameText d = some s) targets conflict ∧
    (opts.onConflictUpdate = .str "all" →
      updates = some ((columns.filter fun c => !targets.any (Value.targetsColumn c)).map fun c => d.identifier c.name)) ∧
    ((!conflict.isEmpty || opts.onConflictIgnore.truthy || !(updates.getD []).isEmpty) = true →
      d.upsertClause conflict updates opts.onConflictIgnore.truthy = .ok clause) ∧
    ((!conflict.isEmpty || opts.onConflictIgnore.truthy || !(updates.getD []).isEmpty) = false → clause = "") ∧
    sql = head ++ clauseSuffix clause ++ returningText d m opts.returning

/-- 挿入の文の形。入力の行ごとに正規化した行があり、列はそれらが与えた列を最初に現れた順に一度ずつ並べた
もの。行ごとに列の順の項があり、文は頭（列と VALUES の組、または `DEFAULT VALUES`）に衝突の句と
`RETURNING` の句が続く。束縛した値は、行の順、行の中では列の順に、項の値を繋いだもの。列のない文は一行だけ。 -/
def InsertShape (d : Dialect) (m : Meta) (rows : List Value) (opts : InsertOptions) (sql : String)
    (params : List Value) : Prop :=
  ∃ normalized : List Row, List.Forall₂ m.EntriesOf rows normalized ∧
    ∃ cells : List (List (String × List Value)),
      List.Forall₂ (fun row rc => List.Forall₂ (CellOf d row) (columnsOf normalized) rc) normalized cells ∧
      (columnsOf normalized = [] → normalized.length = 1) ∧
      params = (cells.map fun rc => (rc.map (·.2)).flatten).flatten ∧
      InsertTail d m opts (columnsOf normalized)
        (insertHead d m opts.onConflictIgnore.truthy (columnsOf normalized) (cells.map (·.map (·.1)))) sql

namespace Build

section Adds

variable {d : Dialect} {α γ : Type}

theorem Adds.mapM_quiet {g : γ → Build α} {R : γ → α → Prop} :
    ∀ {xs : List γ}, (∀ x ∈ xs, Adds d (fun a qs => R x a ∧ qs = []) (g x)) →
      Adds d (fun as qs => List.Forall₂ R xs as ∧ qs = []) (xs.mapM g)
  | [], _ => adds_pure ⟨.nil, rfl⟩
  | x :: xs, h => by
    rw [List.mapM_cons]
    refine (h x List.mem_cons_self).bind fun a qs ⟨hx, hq⟩ => ?_
    refine (Adds.mapM_quiet fun y hy => h y (List.mem_cons_of_mem x hy)).bind fun as rs ⟨hrest, hr⟩ =>
      adds_pure ?_
    subst hq hr
    exact ⟨.cons hx hrest, rfl⟩

theorem binds_columnNames : ∀ cols : List Column,
    Binds d (cols.mapM fun c => name (.column c)) (cols.map fun c => d.identifier c.name) (.ok [])
  | [] => binds_pure []
  | col :: cols => by
    rw [List.mapM_cons, List.map_cons]
    exact (binds_name_column col).bind_nil ((binds_columnNames cols).map_pure _)

theorem adds_name (v : Value) : Adds d (fun s qs => v.nameText d = some s ∧ qs = []) (name v) := by
  unfold name
  refine binds_dialect.adds.bind fun d' _ ⟨hd', hq⟩ => ?_
  obtain rfl : d' = d := hd'
  cases hq
  simp only [List.nil_append]
  cases v with
  | column c => exact adds_pure ⟨rfl, rfl⟩
  | str s => exact adds_pure ⟨rfl, rfl⟩
  | _ => exact adds_fail _

theorem adds_returningClause (m : Meta) (wanted : Value) :
    Adds d (fun s qs => s = returningText d m wanted ∧ qs = []) (returningClause m wanted) := by
  unfold returningClause
  refine binds_dialect.adds.bind fun d' _ ⟨hd', hq⟩ => ?_
  obtain rfl : d' = d := hd'
  cases hq
  simp only [List.nil_append]
  unfold returningText
  split
  · next hw =>
    refine (binds_columnNames m.primaryKey).adds.bind fun names _ ⟨hn, hq⟩ => adds_pure ?_
    cases hq
    simp [hn]
  · exact adds_pure (by simp)

theorem adds_conflictUpdates (opts : InsertOptions) (columns : List Column) :
    Adds d (fun u qs => qs = [] ∧ (opts.onConflictUpdate = .str "all" → ∃ targets, opts.conflictTargets = .ok targets ∧
        u = some ((columns.filter fun c => !targets.any (Value.targetsColumn c)).map fun c => d.identifier c.name)))
      (Statement.conflictUpdates opts columns) := by
  unfold Statement.conflictUpdates
  split
  · next hnone => exact adds_pure ⟨rfl, fun h => by rw [hnone] at h; cases h⟩
  · extract_lets keep
    -- 衝突の対象と同じ列を除いた列の名前を並べる
    have hkeep : ∀ targets, opts.conflictTargets = .ok targets →
        Adds d (fun u qs => [] ++ qs = [] ∧ (opts.onConflictUpdate = .str "all" → ∃ targets, opts.conflictTargets = .ok targets ∧
          u = some ((columns.filter fun c => !targets.any (Value.targetsColumn c)).map fun c => d.identifier c.name)))
          (keep targets) := by
      intro targets ht
      simp only [keep]
      refine (binds_columnNames _).adds.bind fun names _ ⟨hn, hq⟩ => ?_
      cases hq
      refine adds_pure ⟨rfl, fun _ => ⟨targets, ht, ?_⟩⟩
      rw [hn]
      rfl
    split
    · next ht =>
      refine (adds_lift _).bind fun targets _ ⟨hi, hq⟩ => ?_
      subst hq
      exact hkeep targets (by simp [InsertOptions.conflictTargets, ht, hi])
    · next ht =>
      simp only [pure_bind]
      exact (hkeep [] (by simp [InsertOptions.conflictTargets, ht])).mono fun _ _ h => by simpa using h
  · next hnone hall =>
    refine (adds_lift _).bind fun xs _ ⟨_, hq⟩ => ?_
    subst hq
    refine (Adds.mapM_quiet fun v _ => adds_name v).bind fun names _ ⟨_, hq⟩ => adds_pure ⟨by simp [hq], ?_⟩
    intro h
    exact absurd h hall

/-- 項を並べて繋ぐと、列ごとに値の書き方の項が並び、束縛した値はその順に項の値を繋いだもの。 -/
theorem ItemOf.cells {row : Row} {columns : List Column} {pairs : List (Value × List Value)}
    (h : List.Forall₂ (fun c p => ItemOf d ((row.get? c).getD .none) p.1 p.2) columns pairs) :
    ∀ {ss : List String}, pairs.map (·.1) = ss.map Value.str →
      ∃ cells, List.Forall₂ (CellOf d row) columns cells ∧ cells.map (·.1) = ss ∧
        cells.map (·.2) = pairs.map (·.2) := by
  induction h with
  | nil =>
    intro ss hss
    obtain rfl : ss = [] := List.map_eq_nil_iff.1 hss.symm
    exact ⟨[], .nil, rfl, rfl⟩
  | @cons c p cs ps hp _ ih =>
    intro ss hss
    cases ss with
    | nil => cases hss
    | cons s ss =>
      simp only [List.map_cons, List.cons.injEq] at hss
      obtain ⟨cells, hcells, h1, h2⟩ := ih hss.2
      exact ⟨(s, p.2) :: cells, .cons (hp s hss.1) hcells, by simp [h1], by simp [h2]⟩

theorem adds_valuesTuple (columns : List Column) (row : Row) :
    Adds d (fun s qs => ∃ cells, List.Forall₂ (CellOf d row) columns cells ∧
        s = "(" ++ ", ".intercalate (cells.map (·.1)) ++ ")" ∧ qs = (cells.map (·.2)).flatten)
      (do
        let vs ← columns.mapM fun c => value ((row.get? c).getD .none)
        let s ← lift (Value.joinItems ", " vs)
        pure ("(" ++ s ++ ")")) := by
  refine (Adds.mapM fun c _ => adds_value _).bind fun vs qs hvs => ?_
  obtain ⟨pairs, hpairs, rfl, rfl⟩ := hvs
  refine (adds_lift _).bind fun s rs ⟨hs, hrs⟩ => adds_pure ?_
  subst hrs
  obtain ⟨ss, hss, rfl⟩ := Value.joinItems_eq_ok hs
  obtain ⟨cells, hcells, h1, h2⟩ := ItemOf.cells hpairs hss
  exact ⟨cells, hcells, by rw [h1], by simp [h2]⟩

theorem forall₂_exists_map {α β δ : Type} {Q : α → δ → Prop} {f : δ → β} {as : List α} {bs : List β}
    (h : List.Forall₂ (fun a b => ∃ c, Q a c ∧ b = f c) as bs) : ∃ cs, List.Forall₂ Q as cs ∧ bs = cs.map f := by
  induction h with
  | nil => exact ⟨[], .nil, rfl⟩
  | cons hab _ ih =>
    obtain ⟨c, hc, rfl⟩ := hab
    obtain ⟨cs, hcs, rfl⟩ := ih
    exact ⟨c :: cs, .cons hc hcs, rfl⟩

theorem Adds.toStatement {R : String → List Value → Prop} {b : Build String} {cat : Catalog} {st : Statement}
    (hb : Adds d R b) (h : toStatement d cat (fun _ => "?") b = .ok st) : R st.sql st.params := by
  obtain ⟨c, hrun, hparams⟩ := toStatement_run_params h
  obtain ⟨qs, hR, rfl⟩ := hb _ _ _ rfl (fun _ => rfl) hrun
  rw [hparams]
  simpa using hR

@[simp] theorem lift_ok {α : Type} (a : α) : lift (.ok a : Except Fault α) = pure a := rfl

theorem run_mapM_lift {γ α : Type} {f : γ → Except Fault α} {g : γ → α} (c : Compiler) :
    ∀ {xs : List γ}, (∀ x ∈ xs, f x = .ok (g x)) → (xs.mapM fun x => lift (f x)).run c = .ok (xs.map g, c)
  | [], _ => rfl
  | x :: xs, h => by
    rw [List.mapM_cons, StateT.run_bind, h x List.mem_cons_self, lift_ok]
    simp only [StateT.run_pure, pure_bind]
    rw [StateT.run_bind, run_mapM_lift c fun y hy => h y (List.mem_cons_of_mem x hy)]
    rfl

end Adds

end Build

/-! ## 挿入の文 -/

theorem Statement.insert_shape {d : Dialect} {cat : Catalog} {m : Meta} {rows : List Value} {opts : InsertOptions}
    {st : Statement} (h : Statement.insert d cat m rows opts = .ok st) :
    InsertShape d m rows opts st.sql st.params := by
  unfold Statement.insert at h
  refine Build.Adds.toStatement ?_ h
  refine (Build.adds_lift _).bind fun _ _ ⟨_, hq⟩ => ?_
  subst hq
  extract_lets table ignore verb rest
  split
  · exact (Build.adds_fail (R := fun _ _ => False) _).bind fun _ _ h => h.elim
  dsimp -zeta only [rest]
  refine (Build.Adds.mapM_quiet (R := fun r row => m.normalizeRow r = .ok row) fun r _ => Build.adds_lift _).bind
    fun normalized _ ⟨hnorm, hq⟩ => ?_
  subst hq
  extract_lets columns jp
  have hentries : List.Forall₂ m.EntriesOf rows normalized := hnorm.imp fun r row hr => by
    simpa [Meta.EntriesOf] using Meta.normalizeRow_entries hr
  have hcolumns : columns = columnsOf normalized := unionColumns_eq_firstNamed normalized
  -- 頭の後: 衝突の対象の名前、上書きする列、衝突の句、`RETURNING` の句。どれも何も束縛しない
  have hjp : ∀ head, Build.Adds d (fun s rs => rs = [] ∧ InsertTail d m opts columns head s) (jp head) := by
    intro head
    dsimp -zeta only [jp]
    extract_lets last next
    have hnext : ∀ targets conflict, opts.conflictTargets = .ok targets →
        List.Forall₂ (fun v s => v.nameText d = some s) targets conflict →
        Build.Adds d (fun s rs => rs = [] ∧ InsertTail d m opts columns head s) (next conflict) := by
      intro targets conflict ht hconflict
      dsimp -zeta only [next]
      refine (Build.adds_conflictUpdates opts columns).bind fun updates _ hu => ?_
      obtain ⟨hq, hall⟩ := hu
      subst hq
      extract_lets wants
      have hlast : ∀ clause, (wants = true → d.upsertClause conflict updates ignore = .ok clause) →
          (wants = false → clause = "") →
          Build.Adds d (fun s rs => [] ++ rs = [] ∧ InsertTail d m opts columns head s) (last clause) := by
        intro clause hyes hno
        dsimp -zeta only [last]
        refine (Build.adds_returningClause m opts.returning).bind fun ret _ hr => Build.adds_pure ?_
        obtain ⟨rfl, rfl⟩ := hr
        refine ⟨rfl, targets, conflict, updates, clause, ht, hconflict, fun hu => ?_, hyes, hno, rfl⟩
        obtain ⟨targets', ht', rfl⟩ := hall hu
        rw [ht] at ht'
        cases ht'
        rfl
      cases hw : wants
      · simp only [Bool.false_eq_true, if_false, pure_bind]
        exact hlast "" (fun h => absurd (hw.symm.trans h) (by decide)) fun _ => rfl
      · simp only [if_true]
        refine (Build.adds_lift _).bind fun clause _ hc => ?_
        obtain ⟨hc, rfl⟩ := hc
        exact (hlast clause (fun _ => hc) fun h => absurd (hw.symm.trans h) (by decide)).mono
          fun _ _ h => by simpa using h
    split
    · next ht =>
      refine (Build.adds_lift _).bind fun targets _ hi => ?_
      obtain ⟨hi, rfl⟩ := hi
      refine (Build.Adds.mapM_quiet fun v _ => Build.adds_name v).bind fun conflict _ hc => ?_
      obtain ⟨hc, rfl⟩ := hc
      exact (hnext targets conflict (by simp [InsertOptions.conflictTargets, ht, hi]) hc).mono
        fun _ _ h => by simpa using h
    · next ht =>
      simp only [pure_bind]
      exact hnext [] [] (by simp [InsertOptions.conflictTargets, ht]) .nil
  have hrows : rows ≠ [] := by simpa using ‹¬rows.isEmpty = true›
  split
  · next hnil =>
    -- 列がない: 二行以上なら失敗、一行なら方言の DEFAULT VALUES の形
    have hnil' : columnsOf normalized = [] := by simpa [hcolumns] using hnil
    split
    · exact (Build.adds_fail (R := fun _ _ => False) _).bind fun _ _ h => h.elim
    · next hone =>
      simp only [pure_bind]
      refine (hjp _).mono fun s rs h => ?_
      obtain ⟨rfl, htail⟩ := h
      refine ⟨normalized, hentries, normalized.map fun _ => [], ?_, fun _ => ?_, by simp, ?_⟩
      · refine List.forall₂_map_right_iff.2 (List.forall₂_same.2 fun row _ => ?_)
        rw [hnil']
        exact .nil
      · have hlen := hentries.length_eq
        have hpos : 0 < rows.length := List.length_pos_iff.2 hrows
        omega
      · rw [← hcolumns]
        simpa [insertHead, hnil] using htail
  · next hne =>
    -- 列がある: 列の名前と、行ごとに列の順の項を括弧で囲んだ組
    refine (Build.binds_columnNames columns).adds.bind fun names _ hn => ?_
    obtain ⟨rfl, hq⟩ := hn
    cases hq
    refine (Build.Adds.mapM fun row _ => Build.adds_valuesTuple columns row).bind fun tuples qs ht => ?_
    obtain ⟨pairs, hpairs, rfl, rfl⟩ := ht
    have hpairs' : List.Forall₂ (fun row p => ∃ rc, List.Forall₂ (CellOf d row) columns rc ∧
        p = ("(" ++ ", ".intercalate (rc.map (·.1)) ++ ")", (rc.map (·.2)).flatten)) normalized pairs :=
      hpairs.imp fun row p h => by
        obtain ⟨rc, hrc, h1, h2⟩ := h
        exact ⟨rc, hrc, Prod.ext h1 h2⟩
    obtain ⟨cells, hcells, rfl⟩ := Build.forall₂_exists_map hpairs'
    simp only [pure_bind]
    refine (hjp _).mono fun s rs h => ?_
    obtain ⟨rfl, htail⟩ := h
    refine ⟨normalized, hentries, cells, by rwa [← hcolumns], fun h => absurd (hcolumns.trans h) (by simpa using hne),
      by simp [List.map_map, Function.comp_def], ?_⟩
    rw [← hcolumns]
    simpa [insertHead, hne, List.map_map, Function.comp_def] using htail

theorem Statement.insert_emptyRows_refused {d : Dialect} {cat : Catalog} {m : Meta} {rows : List Value}
    {opts : InsertOptions} (hw : m.requireWritable "create" = .ok ()) (hlen : 1 < rows.length)
    (hempty : ∀ r ∈ rows, m.normalizeRow r = .ok []) :
    Statement.insert d cat m rows opts =
      .error (Fault.contract "multi-row create needs at least one column" none none (some "values")) := by
  have hrows : rows.isEmpty = false := by
    cases rows with
    | nil => cases hlen
    | cons _ _ => rfl
  have hmap := Build.run_mapM_lift (g := fun _ => ([] : Row))
    { dialect := d, catalog := cat, mark := fun _ => "?" } hempty
  have hcols : unionColumns (rows.map fun _ => ([] : Row)) = [] := by
    unfold unionColumns
    rw [List.foldl_map]
    exact List.foldl_fixed' (fun _ => rfl) rows
  unfold Statement.insert Build.toStatement
  have hlen' : (rows.map fun _ => ([] : Row)).length > 1 := by simpa using hlen
  simp only [StateT.run_bind, hw, Build.lift_ok, pure_bind, hrows, Bool.false_eq_true, if_false, hmap,
    Build.except_ok_bind, hcols, List.isEmpty_nil, if_true, hlen']
  rfl

/-- 挿入の文の列と VALUES。成功した挿入の文は `InsertShape` の形: 列は行が `SKIP` でない値を与えた列を
最初に現れた順に一度ずつ、VALUES は入力の行ごとに列の順の項、束縛した値はその順。どの行も何も与えない
二行以上の挿入は契約違反。 -/
theorem Statement.insert_rows_layout (d : Dialect) (cat : Catalog) (m : Meta) (rows : List Value)
    (opts : InsertOptions) :
    (∀ st, Statement.insert d cat m rows opts = .ok st → InsertShape d m rows opts st.sql st.params) ∧
      (m.requireWritable "create" = .ok () → 1 < rows.length → (∀ r ∈ rows, m.normalizeRow r = .ok []) →
        Statement.insert d cat m rows opts =
          .error (Fault.contract "multi-row create needs at least one column" none none (some "values"))) :=
  ⟨fun _ h => Statement.insert_shape h, fun hw hlen hempty => Statement.insert_emptyRows_refused hw hlen hempty⟩

/-- 番号を衝突の対象にして、ほかの列を上書きする挿入。 -/
def accountUpsert : InsertOptions :=
  { onConflict := .list [.column Session.accountId], onConflictUpdate := .str "all" }

/-- 一行目は番号と現在時刻の名前、二行目は番号を `SKIP` して名前だけ。 -/
def accountRows : List Value :=
  [.list [.tuple [.str "id", .int 5], .tuple [.str "name", .marker .now]],
    .list [.tuple [.str "id", .marker .skip], .tuple [.str "name", .str "b"]]]

/-- 二行の挿入: 二行目の番号は NULL を束縛し、`NOW` は方言の現在時刻、上書きするのは番号でない名前だけ。
何も与えない二行は契約違反。 -/
theorem Statement.insert_rows_layout_accounts :
    InsertShape .postgresql Session.accountMeta accountRows accountUpsert
        ("INSERT INTO accounts (id, name) VALUES (?, NOW()), (?, ?) " ++
          "ON CONFLICT (id) DO UPDATE SET name = EXCLUDED.name RETURNING id")
        [.int 5, .none, .str "b"] ∧
      Statement.insert .postgresql {} Session.accountMeta [.list [], .list []] accountUpsert =
        .error (Fault.contract "multi-row create needs at least one column" none none (some "values")) := by
  have hparams : (Statement.insert .postgresql {} Session.accountMeta accountRows accountUpsert).toOption.map
      Statement.params = some [.int 5, .none, .str "b"] := by
    rfl
  obtain ⟨st, hst, hp⟩ := Except.exists_of_toOption_map hparams
  have hsql : (Statement.insert .postgresql {} Session.accountMeta accountRows accountUpsert).toOption.map
      Statement.sql = some ("INSERT INTO accounts (id, name) VALUES (?, NOW()), (?, ?) " ++
        "ON CONFLICT (id) DO UPDATE SET name = EXCLUDED.name RETURNING id") := by
    decide +kernel
  rw [hst] at hsql
  have hshape := (Statement.insert_rows_layout .postgresql {} Session.accountMeta accountRows accountUpsert).1 st hst
  rw [← hp, ← Option.some.inj hsql]
  refine ⟨hshape, (Statement.insert_rows_layout .postgresql {} Session.accountMeta [.list [], .list []]
    accountUpsert).2 rfl (by decide) ?_⟩
  intro r hr
  simp only [List.mem_cons, List.not_mem_nil, or_false, or_self] at hr
  subst hr
  rfl

end DataAccess
