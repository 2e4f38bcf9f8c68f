import DataAccess.Proofs.Clauses
/-!
# 文の組み立ては値と一緒に印を書く

検索・件数・キーの読み取り・挿入・更新・削除の文の組み立てについて、呼び出しの文字列と
モデルが安全なら、二通りの走らせ方が並ぶ（`Lockstep`）。そこから、組み立てた文の印の数は
値の数に等しく、`k` 番目の印は `k` 番目の値と一緒に書かれる（`Lockstep.statement`）。

呼び出しの選択肢の安全は `FindOptions.safe`、`InsertOptions.safe`、書き込む値の安全は
`Value.rowSafe`、条件の並びの安全は `Value.conditionsSafe`。
-/

namespace DataAccess

open Sql

/-! ## 呼び出しの文字列 -/

namespace Value

/-- 要素に分けた値のどの要素も名前として安全（分けられない値では組み立てが失敗する）。 -/
def namesSafe (v : Value) : Bool :=
  match v.iterate with
  | .ok items => items.all nameSafe
  | .error _ => true

/-- 要素に分けた値のどの要素も整列の一項として安全。 -/
def ordersSafe (v : Value) : Bool :=
  match v.iterate with
  | .ok items => items.all orderSafe
  | .error _ => true

/-- 選ぶ列: 文字列ならそのまま書くので `plain`、ほかは名前の並び。 -/
def selectSafe : Value → Bool
  | .none => true
  | .str s => plain s
  | v => v.namesSafe

/-- 断片として書く値: 偽か、囲みの中で終わらない文字列。 -/
def fragmentSafe (v : Value) : Bool := !v.truthy || v.settledText

/-- 呼び出しの条件の並びを正規化した要素がどれも安全。 -/
def conditionsSafe (conds : Value) : Bool :=
  match conds.normalizeConditions with
  | .ok entries => entriesSafe entries
  | .error _ => true

/-- 書き込む値の組の並び（辞書なら組にしたもの）。 -/
def rowItems : Value → Except Fault (List Value)
  | .dict kvs => .ok (kvs.map fun (k, v) => .tuple [k, v])
  | v => v.iterate

/-- 書き込む値の組: キーは名前として、値は値として安全。 -/
def rowSafe (values : Value) : Bool :=
  match values.rowItems with
  | .ok items => items.all fun item => match item with
    | .tuple [k, x] => k.nameSafe && x.valueSafe
    | _ => true
  | .error _ => true

end Value

/-- 検索の選択肢が持ち込む文字列が安全: 共通表式と結合の断片、選ぶ列、まとめ、整列。 -/
def FindOptions.safe (opts : FindOptions) : Bool :=
  opts.cte.fragmentSafe && opts.join.fragmentSafe && opts.select.selectSafe && opts.group.namesSafe &&
    opts.order.ordersSafe

/-- 挿入の選択肢の列の名前が安全。 -/
def InsertOptions.safe (opts : InsertOptions) : Bool :=
  opts.onConflict.namesSafe &&
    match opts.onConflictUpdate with
    | .str "all" => true
    | v => v.namesSafe

theorem Meta.plain_column {m : Meta} (hm : m.safe = true) {c : Column} (hc : c ∈ m.columns) :
    plain c.name = true := by
  simp only [Meta.safe, Bool.and_eq_true, List.all_eq_true] at hm
  exact hm.1.1.1.2 c hc

theorem Meta.plain_writeTable {m : Meta} (hm : m.safe = true) : plain m.writeTable = true := by
  simp only [Meta.safe, Bool.and_eq_true] at hm
  obtain ⟨⟨⟨⟨⟨⟨htable, hupdate⟩, -⟩, -⟩, -⟩, -⟩, -⟩ := hm
  unfold Meta.writeTable
  cases hu : m.updateTable with
  | none => exact htable
  | some t => simpa [hu] using hupdate

theorem Meta.mem_of_requirePrimaryKey {m : Meta} {operation : String} {pk : List Column}
    (h : m.requirePrimaryKey operation = .ok pk) : ∀ c ∈ pk, c ∈ m.columns := by
  unfold Meta.requirePrimaryKey at h
  split at h
  · cases h
  · cases h
    exact fun c hc => (List.mem_filter.1 hc).1

/-- `foldlM` の不変条件: どの段も保つ性質は、畳み込みの結果でも成り立つ。 -/
theorem foldlM_invariant {ε α β : Type} {P : β → Prop} {g : β → α → Except ε β} :
    ∀ {l : List α} {init r : β}, (∀ b a b', a ∈ l → P b → g b a = .ok b' → P b') → P init →
      l.foldlM g init = .ok r → P r
  | [], _, _, _, hinit, h => by
    cases h
    exact hinit
  | a :: l, _, _, hstep, hinit, h => by
    rw [List.foldlM_cons] at h
    obtain ⟨b, hb, hrest⟩ := Except.bind_eq_ok.1 h
    exact foldlM_invariant (fun b a b' ha => hstep b a b' (List.mem_cons_of_mem _ ha))
      (hstep _ _ _ List.mem_cons_self hinit hb) hrest

theorem Meta.mem_of_column {m : Meta} {name : String} {c : Column} (h : m.column name = .ok c) :
    c ∈ m.columns := by
  unfold Meta.column at h
  split at h
  · next hfind =>
    cases h
    exact List.mem_of_find?_eq_some hfind
  · split at h
    · next hfind =>
      cases h
      exact List.mem_of_find?_eq_some hfind
    · cases h

/-- 書き込む値のキーから引いた列の名前は `plain`: 名前のキーはモデルの列を引き、列のキーはその列。 -/
theorem Meta.plain_own {m : Meta} (hm : m.safe = true) {key : Value} (hkey : key.nameSafe = true) {c : Column}
    (h : m.own key = .ok c) : plain c.name = true := by
  unfold Meta.own at h
  split at h
  · exact Meta.plain_column hm (Meta.mem_of_column h)
  · split at h
    · cases h
      exact hkey
    · cases h
  · cases h

theorem Meta.normalizeRow_origin {m : Meta} {values : Value} {keep : Bool} {row : Row}
    (h : m.normalizeRow values keep = .ok row) :
    ∃ items, values.rowItems = .ok items ∧
      ∀ p ∈ row, ∃ key, Value.tuple [key, p.2] ∈ items ∧ m.own key = .ok p.1 := by
  unfold Meta.normalizeRow at h
  extract_lets fold at h
  have hitems : ∃ items, values.rowItems = .ok items ∧ fold items = .ok row := by
    split at h
    · exact ⟨_, rfl, h⟩
    · next v hv =>
      obtain ⟨items, hi, hfold⟩ := Except.bind_eq_ok.1 h
      refine ⟨items, ?_, hfold⟩
      cases v <;> simp_all [Value.rowItems]
  obtain ⟨items, hrow, hfold⟩ := hitems
  refine ⟨items, hrow, foldlM_invariant
    (P := fun row : Row => ∀ p ∈ row, ∃ key, Value.tuple [key, p.2] ∈ items ∧ m.own key = .ok p.1)
    ?_ (fun _ h => absurd h List.not_mem_nil) hfold⟩
  intro acc item acc' hitem hacc hstep
  split at hstep
  · next key v =>
    obtain ⟨c, hc, hrest⟩ := Except.bind_eq_ok.1 hstep
    extract_lets add at hrest
    -- 行に足すか、`SKIP` を落として行をそのままにする
    have hgrow : acc' = acc ∨ acc' = acc ++ [(c, v)] := by
      split at hrest
      · cases hrest
      · simp only [add] at hrest
        split at hrest
        · split at hrest
          · cases hrest
            exact .inr rfl
          · cases hrest
            exact .inl rfl
        · cases hrest
          exact .inr rfl
    rcases hgrow with rfl | rfl
    · exact hacc
    · intro p hp
      rcases List.mem_append.1 hp with hp | hp
      · exact hacc p hp
      · rw [List.mem_singleton] at hp
        subst hp
        exact ⟨key, hitem, hc⟩
  · cases hstep

theorem Meta.normalizeRow_safe {m : Meta} (hm : m.safe = true) {values : Value} (hv : values.rowSafe = true)
    {keep : Bool} {row : Row} (h : m.normalizeRow values keep = .ok row) :
    ∀ p ∈ row, plain p.1.name = true ∧ p.2.valueSafe = true := by
  obtain ⟨items, hitems, horigin⟩ := Meta.normalizeRow_origin h
  simp only [Value.rowSafe, hitems, List.all_eq_true] at hv
  intro p hp
  obtain ⟨key, hitem, hown⟩ := horigin p hp
  have hpair := hv _ hitem
  simp only [Bool.and_eq_true] at hpair
  exact ⟨Meta.plain_own hm hpair.1 hown, hpair.2⟩

theorem foldl_invariant {α β : Type} {P : β → Prop} {g : β → α → β} :
    ∀ {l : List α} {init : β}, (∀ b a, a ∈ l → P b → P (g b a)) → P init → P (l.foldl g init)
  | [], _, _, hinit => hinit
  | a :: _, init, hstep, hinit => by
    rw [List.foldl_cons]
    exact foldl_invariant (fun b a' ha => hstep b a' (List.mem_cons_of_mem a ha))
      (hstep init a List.mem_cons_self hinit)

theorem mem_unionColumns {rows : List Row} {Q : Column → Prop} (h : ∀ row ∈ rows, ∀ p ∈ row, Q p.1) :
    ∀ c ∈ unionColumns rows, Q c := by
  unfold unionColumns
  refine foldl_invariant (P := fun acc : List Column => ∀ c ∈ acc, Q c) (fun acc row hrow hacc => ?_)
    (fun _ h => absurd h List.not_mem_nil)
  refine foldl_invariant (P := fun acc : List Column => ∀ c ∈ acc, Q c) (fun acc' p hp hacc' => ?_) hacc
  obtain ⟨c, v⟩ := p
  dsimp only
  split
  · exact hacc'
  · intro c' hc
    rcases List.mem_append.1 hc with hc | hc
    · exact hacc' c' hc
    · rw [List.mem_singleton] at hc
      subst hc
      exact h row hrow _ hp

theorem Row.valueSafe_get {row : Row} (h : ∀ p ∈ row, p.2.valueSafe = true) (c : Column) :
    ((row.get? c).getD .none).valueSafe = true := by
  unfold Row.get?
  cases hfind : row.find? (fun p => p.1.same c) with
  | none => rfl
  | some p => exact h p (List.mem_of_find?_eq_some hfind)

theorem Value.settledText_of_truthy {v : Value} (h : v.fragmentSafe = true) (ht : v.truthy = true) :
    v.settledText = true := by
  simpa [Value.fragmentSafe, ht] using h

theorem Value.mapM_zipIdx_strs {g : Value × Nat → Except Fault String} (hg : ∀ s i, g (.str s, i) = .ok s) :
    ∀ (ss : List String) (n : Nat), ((ss.map Value.str).zipIdx n).mapM g = .ok ss
  | [], _ => rfl
  | s :: rest, n => by
    simp only [List.map_cons, List.zipIdx_cons, List.mapM_cons, hg, Value.mapM_zipIdx_strs hg rest (n + 1)]
    rfl

theorem Value.joinItems_strs (sep : String) (ss : List String) :
    Value.joinItems sep (ss.map Value.str) = .ok (sep.intercalate ss) := by
  simp only [Value.joinItems]
  rw [Value.mapM_zipIdx_strs (fun _ _ => rfl) ss 0]
  rfl

namespace Build

/-! ## 値の並びと繋ぎ -/

section Pieces

variable {d : Dialect} {cat : Catalog} {f : Nat → String}

theorem Text.value {k k' : Nat} {a b : String} (h : Text f k k' a b) : ValueText f k k' (.str a) (.str b) := by
  obtain ⟨hs, hk, rfl⟩ := h
  exact ⟨a, rfl, rfl, hs, hk⟩

theorem Chain.append {α β : Type} {R : Nat → Nat → α → β → Prop} :
    ∀ {k k₁ k₂ : Nat} {as as' : List α} {bs bs' : List β},
      Chain R k k₁ as bs → Chain R k₁ k₂ as' bs' → Chain R k k₂ (as ++ as') (bs ++ bs')
  | _, _, _, _, _, _, _, .nil _, h => h
  | _, _, _, _, _, _, _, .cons ha rest, h => .cons ha (Chain.append rest h)

/-- 文字列の値の並び: 両方とも文字列の並びで、その並びが `Text` の並び。 -/
theorem Chain.valueText : ∀ {k k' : Nat} {vs ws : List Value}, Chain (ValueText f) k k' vs ws →
    ∃ as bs, vs = as.map Value.str ∧ ws = bs.map Value.str ∧ Chain (Text f) k k' as bs
  | _, _, _, _, .nil k => ⟨[], [], rfl, rfl, .nil k⟩
  | _, _, _, _, .cons ⟨s, ha, hb, hs, hk⟩ rest => by
    obtain ⟨as, bs, rfl, rfl, hrest⟩ := Chain.valueText rest
    subst ha hb
    exact ⟨s :: as, _ :: bs, rfl, rfl, .cons ⟨hs, hk, rfl⟩ hrest⟩

theorem Lockstep.joinTexts {sep : String} (hsep : plain sep = true) {k k' : Nat} {vs ws : List Value}
    (h : Chain (ValueText f) k k' vs ws) :
    Lockstep d cat f k' (fun _ k'' => Text f k k'') (Build.lift (Value.joinItems sep vs))
      (Build.lift (Value.joinItems sep ws)) := by
  obtain ⟨as, bs, rfl, rfl, hab⟩ := Chain.valueText h
  simp only [Value.joinItems_strs, Build.lift]
  exact Lockstep.pure (hab.intercalate hsep)

theorem Lockstep.items {k : Nat} (v : Value) :
    Lockstep d cat f k (fun k k' a b => Same k k' a b ∧ v.iterate = .ok a) (Build.items v) (Build.items v) :=
  Lockstep.lift _

/-- 値の要素を名前として書いて続ける。名前は両方で同じ `plain` な文字列。 -/
theorem Lockstep.itemNames {γ δ : Type} {k : Nat} {v : Value} (hv : v.namesSafe = true)
    {S : Nat → Nat → γ → δ → Prop} {g : List String → Build γ} {g' : List String → Build δ}
    (hg : ∀ names, (∀ a ∈ names, plain a = true) → Lockstep d cat f k (fun _ k'' => S k k'') (g names) (g' names)) :
    Lockstep d cat f k S (Build.items v >>= fun xs => xs.mapM Build.name >>= g)
      (Build.items v >>= fun xs => xs.mapM Build.name >>= g') := by
  refine Lockstep.bind (Lockstep.items v) fun _ xs _ ⟨⟨hk, hxs⟩, hiter⟩ => ?_
  subst hk hxs
  simp only [Value.namesSafe, hiter] at hv
  refine Lockstep.bind (Lockstep.names hv) fun _ _ names ⟨hk, hn, hnames⟩ => ?_
  subst hk hn
  exact hg names hnames

theorem Lockstep.itemsFragment {γ δ : Type} {k : Nat} {v : Value} (hv : v.fragmentSafe = true)
    (ht : v.truthy = true) (ps : Value) (label : String) {S : Nat → Nat → γ → δ → Prop}
    {g : Value → Build γ} {g' : Value → Build δ}
    (hg : ∀ k' a b, ValueText f k k' a b → Lockstep d cat f k' (fun _ k'' => S k k'') (g a) (g' b)) :
    Lockstep d cat f k S (Build.items ps >>= fun xs => Build.bindFragment v xs label >>= g)
      (Build.items ps >>= fun xs => Build.bindFragment v xs label >>= g') := by
  obtain ⟨s, rfl, hset⟩ := Value.settledText_iff.1 (Value.settledText_of_truthy hv ht)
  refine Lockstep.bind (Lockstep.items _) fun _ xs _ ⟨⟨hk, hxs⟩, _⟩ => ?_
  subst hk hxs
  exact Lockstep.bind (Lockstep.bindFragment hset _ _) hg

/-- 条件の並びの訳から `WHERE` の句を書く（条件が残らなければ何も書かない）。 -/
theorem OptText.whereSuffix {k k' : Nat} {w w' : Option String} (hw : OptText f k k' w w') :
    Text f k k' (Statement.whereSuffix w) (Statement.whereSuffix w') := by
  cases w <;> cases w' <;> simp only [OptText] at hw <;> simp only [Statement.whereSuffix]
  · subst hw
    exact Text.of_plain (by decide) _
  · exact Text.plain_append (by decide) hw

end Pieces

/-! ## 句 -/

section Clauses

variable {d : Dialect} {cat : Catalog} {f : Nat → String} {k : Nat}

/-- `WITH` の句: 共通表式の断片とモデルの問い合わせの印が、そのまま値の印になる。 -/
theorem Lockstep.withClause {m : Meta} (hm : m.safe = true) {opts : FindOptions}
    (hcte : opts.cte.fragmentSafe = true) :
    Lockstep d cat f k (Text f) (Build.withClause m opts) (Build.withClause m opts) := by
  simp only [Meta.safe, Bool.and_eq_true] at hm
  obtain ⟨⟨⟨⟨⟨⟨htable, -⟩, hquery⟩, -⟩, -⟩, -⟩, -⟩ := hm
  unfold Build.withClause
  refine Lockstep.bind Lockstep.dialect fun k' d₁ d₂ hdialect => ?_
  obtain ⟨⟨hk, hd⟩, hd₁⟩ := hdialect
  subst hd hd₁ hk
  -- 最後に、二つの並びを繋いだものから句を書く
  have hfinal : ∀ {k₁ k₂ : Nat} {cte own cte' own' : List Value}, Chain (ValueText f) k' k₁ cte cte' →
      Chain (ValueText f) k₁ k₂ own own' →
      Lockstep d₂ cat f k₂ (fun _ k'' => Text f k' k'')
        (if (cte ++ own).isEmpty = true then Pure.pure "" else
          Build.lift (Value.joinItems ", " (cte ++ own)) >>= fun s => Pure.pure ("WITH " ++ s ++ " "))
        (if (cte' ++ own').isEmpty = true then Pure.pure "" else
          Build.lift (Value.joinItems ", " (cte' ++ own')) >>= fun s => Pure.pure ("WITH " ++ s ++ " ")) := by
    intro k₁ k₂ cte own cte' own' hcte' hown
    have hctes := Chain.append hcte' hown
    split
    · next hnil =>
      rw [List.isEmpty_iff.1 hnil] at hctes
      generalize cte' ++ own' = ys at hctes ⊢
      cases hctes
      simp only [List.isEmpty_nil, ↓reduceIte]
      exact Lockstep.pure (Text.of_plain (by decide) _)
    · next hne =>
      have hne' : ¬(cte' ++ own').isEmpty = true := by
        rw [List.isEmpty_iff_length_eq_zero, ← hctes.length_eq, ← List.isEmpty_iff_length_eq_zero]
        exact hne
      rw [if_neg hne']
      exact Lockstep.bind (Lockstep.joinTexts (by decide) hctes) fun _ _ _ h =>
        Lockstep.pure (Text.append_plain (Text.plain_append (by decide) h) (by decide))
  cases hq : m.query with
  | none =>
    simp only [pure_bind]
    split
    · next htruthy =>
      exact Lockstep.itemsFragment hcte htruthy _ _ fun _ _ _ h => hfinal (.cons h (.nil _)) (.nil _)
    · exact hfinal (.nil _) (.nil _)
  | some q =>
    simp only [pure_bind]
    have hq' : settled q = true := by simpa [hq] using hquery
    have hident := Dialect.plain_identifier d₂ htable
    -- モデルの問い合わせは `表 AS (問い合わせ)` の一項になる
    have hown : ∀ {k₁ k₂ : Nat} {body body' : Value}, ValueText f k₁ k₂ body body' →
        Chain (ValueText f) k₁ k₂ [Value.str (d₂.identifier m.table ++ " AS (" ++ body.text ++ ")")]
          [Value.str (d₂.identifier m.table ++ " AS (" ++ body'.text ++ ")")] := by
      rintro k₁ k₂ _ _ ⟨t, rfl, rfl, ht, hk⟩
      refine .cons (Text.value ?_) (.nil _)
      exact Text.append_plain (Text.plain_append (plain_append_of hident (by decide)) ⟨ht, hk, rfl⟩) (by decide)
    split
    · next htruthy =>
      exact Lockstep.itemsFragment hcte htruthy _ _ fun _ _ _ hc =>
        Lockstep.bind (Lockstep.bindFragment hq' _ _) fun _ _ _ h => hfinal (.cons hc (.nil _)) (hown h)
    · exact Lockstep.bind (Lockstep.bindFragment hq' _ _) fun _ _ _ h => hfinal (.nil _) (hown h)

theorem Lockstep.joinClause {opts : FindOptions} (hjoin : opts.join.fragmentSafe = true) :
    Lockstep d cat f k (Text f) (Build.joinClause opts) (Build.joinClause opts) := by
  unfold Build.joinClause
  split
  · next htruthy =>
    refine Lockstep.itemsFragment hjoin htruthy _ _ fun _ _ _ ⟨t, ha, hb, ht, hk⟩ => ?_
    subst ha hb
    exact Lockstep.pure (Text.plain_append (by decide) ⟨ht, hk, rfl⟩)
  · exact Lockstep.pure (Text.of_plain (by decide) _)

theorem Lockstep.selectList {opts : FindOptions} (hsel : opts.select.selectSafe = true) {table : String}
    (htable : plain table = true) :
    Lockstep d cat f k Fixed (Build.selectList opts table) (Build.selectList opts table) := by
  unfold Build.selectList
  split
  · split
    · exact Lockstep.pure ⟨⟨rfl, rfl⟩, plain_append_of htable (by decide)⟩
    · exact Lockstep.pure ⟨⟨rfl, rfl⟩, by decide⟩
  · next s hs =>
    simp only [hs, Value.selectSafe] at hsel
    exact Lockstep.pure ⟨⟨rfl, rfl⟩, hsel⟩
  · next hnone hstr =>
    have hnames : opts.select.namesSafe = true := by
      unfold Value.selectSafe at hsel
      split at hsel <;> simp_all
    exact Lockstep.itemNames hnames fun _ hnames =>
      Lockstep.pure ⟨⟨rfl, rfl⟩, plain_intercalate (by decide) hnames⟩

theorem Lockstep.requiredWhere (hcat : cat.safe = true) {m : Meta} (hm : m.safe = true) {conds : Value}
    (hconds : conds.conditionsSafe = true) (operation : String) :
    Lockstep d cat f k (Text f) (Build.requiredWhere m conds operation)
      (Build.requiredWhere m conds operation) := by
  unfold Build.requiredWhere
  refine Lockstep.bind Lockstep.dialect fun k' d₁ d₂ ⟨⟨hk, hd⟩, hd₁⟩ => ?_
  subst hd hd₁ hk
  refine Lockstep.bind (Lockstep.lift _) fun _ es _ ⟨⟨hk, hes⟩, hnorm⟩ => ?_
  subst hk hes
  simp only [Value.conditionsSafe, hnorm] at hconds
  have hscope : Scope.safe { tag := m.tag, rowName := d₂.identifier m.writeTable } = true := by
    simp only [Scope.safe, Option.all_none, Bool.and_true]
    exact Dialect.plain_identifier _ (Meta.plain_writeTable hm)
  refine Lockstep.bind (Lockstep.whereClause hcat depthLimit hconds hscope _) fun _ w w' hw => ?_
  cases w <;> cases w' <;> simp only [OptText] at hw
  · exact Lockstep.fail _ _
  · exact Lockstep.pure hw

theorem Lockstep.returningClause {m : Meta} (hm : m.safe = true) (wanted : Value) :
    Lockstep d cat f k Fixed (Build.returningClause m wanted) (Build.returningClause m wanted) := by
  unfold Build.returningClause
  refine Lockstep.bind Lockstep.dialect fun k' d₁ d₂ ⟨⟨hk, hd⟩, hd₁⟩ => ?_
  subst hd hd₁ hk
  split
  · refine Lockstep.bind (Lockstep.mapM_same fun c hc _ => Lockstep.name ?_) fun _ _ names ⟨hk, hn, hnames⟩ => ?_
    · exact Meta.plain_column hm (List.mem_filter.1 hc).1
    subst hk hn
    exact Lockstep.pure ⟨⟨rfl, rfl⟩, plain_append_of (by decide) (plain_intercalate (by decide) hnames)⟩
  · exact Lockstep.pure ⟨⟨rfl, rfl⟩, by decide⟩

theorem Lockstep.conflictUpdates {opts : InsertOptions} (hopts : opts.safe = true) {columns : List Column}
    (hcols : ∀ c ∈ columns, plain c.name = true) :
    Lockstep d cat f k (fun k k' a b => Same k k' a b ∧ ∀ c ∈ a.getD [], plain c = true)
      (Statement.conflictUpdates opts columns) (Statement.conflictUpdates opts columns) := by
  simp only [InsertOptions.safe, Bool.and_eq_true] at hopts
  obtain ⟨-, hupdates⟩ := hopts
  unfold Statement.conflictUpdates
  split
  · exact Lockstep.pure ⟨⟨rfl, rfl⟩, by simp⟩
  · -- 衝突の列を除いた列の名前: 衝突の列の値は名前を選ぶだけ
    extract_lets keep
    have hkeep : ∀ conflict, Lockstep d cat f k
        (fun k k' a b => Same k k' a b ∧ ∀ c ∈ a.getD [], plain c = true) (keep conflict) (keep conflict) := by
      intro conflict
      simp only [keep]
      refine Lockstep.bind (Lockstep.mapM_same fun c hc _ => Lockstep.name (v := .column c) ?_)
        fun _ _ ns ⟨hk, hns, hplain⟩ => ?_
      · exact hcols c (List.mem_filter.1 hc).1
      subst hk hns
      exact Lockstep.pure ⟨⟨rfl, rfl⟩, hplain⟩
    split
    · exact Lockstep.bind (Lockstep.items _) fun _ _ _ ⟨⟨hk, hx⟩, _⟩ => by
        subst hk hx
        exact hkeep _
    · simp only [pure_bind]
      exact hkeep []
  · next hnone hall =>
    have hnames : opts.onConflictUpdate.namesSafe = true := by
      split at hupdates <;> simp_all
    exact Lockstep.itemNames hnames fun names hnames => Lockstep.pure ⟨⟨rfl, rfl⟩, hnames⟩

end Clauses

/-- 値の数 0 から並べて走らせられる組み立ては、文の印の数が値の数に等しく、印を `f` で書いた文は
印 `?` の文の印に `f` で番号を振ったもの。 -/
theorem Lockstep.statement {d : Dialect} {cat : Catalog} {b : Build String}
    (hb : ∀ f, Lockstep d cat f 0 (Text f) b b) {st : Statement}
    (h : Build.toStatement d cat (fun _ => "?") b = .ok st) :
    countMarkers st.sql = st.params.length ∧
      ∀ f, Build.toStatement d cat f b = .ok ⟨renumber f 0 st.sql, st.params⟩ := by
  unfold Build.toStatement at h
  split at h
  · next sql c hrun =>
    cases h
    have hready : Ready d cat 0 { dialect := d, catalog := cat, mark := fun _ => "?" } := ⟨rfl, rfl, rfl, rfl⟩
    refine ⟨?_, fun f => ?_⟩
    · obtain ⟨_, _, _, hsql⟩ := hb (fun _ => "?") _ sql c hready hrun
      rw [List.length_reverse, hsql.2.1, Nat.zero_add]
    · obtain ⟨_, b', hb', hsql⟩ := hb f _ sql c hready hrun
      unfold Build.toStatement
      rw [show ({ dialect := d, catalog := cat, mark := f } : Compiler) =
        { ({ dialect := d, catalog := cat, mark := fun _ => "?" } : Compiler) with mark := f } from rfl, hb']
      rw [hsql.2.2]
  · cases h

section Statements

variable {d : Dialect} {cat : Catalog} {m : Meta} (hcat : cat.safe = true) (hm : m.safe = true)
include hcat hm

theorem select_marks {conds : Value} (hconds : conds.conditionsSafe = true) {opts : FindOptions}
    (hopts : opts.safe = true) {st : Statement} (h : Statement.select d cat m conds opts = .ok st) :
    countMarkers st.sql = st.params.length ∧
      ∀ f, Statement.select d cat m conds opts f = .ok ⟨renumber f 0 st.sql, st.params⟩ := by
  unfold Statement.select at h ⊢
  refine Lockstep.statement (fun f => ?_) h
  simp only [FindOptions.safe, Bool.and_eq_true] at hopts
  obtain ⟨⟨⟨⟨hcte, hjoin⟩, hsel⟩, hgroup⟩, horder⟩ := hopts
  have hm' := hm
  simp only [Meta.safe, Bool.and_eq_true] at hm'
  obtain ⟨⟨⟨⟨⟨⟨htableName, -⟩, -⟩, -⟩, -⟩, hdefaultGroup⟩, hdefaultOrder⟩ := hm'
  refine Lockstep.bind (Lockstep.withClause hm hcte) fun _ _ _ hwith => ?_
  extract_lets table group order lock
  have htable : plain table = true := Dialect.plain_identifier d htableName
  refine Lockstep.bind (Lockstep.selectList hsel htable) fun k₁ _ cols hlist => ?_
  obtain ⟨⟨hk, hcols⟩, hcolsPlain⟩ := hlist
  subst hk hcols
  refine Lockstep.bind (Lockstep.joinClause hjoin) fun _ _ _ hjoinText => ?_
  refine Lockstep.bind (Lockstep.lift _) fun k₂ _ entries hentries => ?_
  obtain ⟨⟨hk, he⟩, hnorm⟩ := hentries
  subst hk he
  simp only [Value.conditionsSafe, hnorm] at hconds
  have hscope : Scope.safe { tag := m.tag, rowName := table } = true := by
    simp only [Scope.safe, Option.all_none, Bool.and_true]
    exact htable
  refine Lockstep.bind (Lockstep.whereClause hcat depthLimit (Meta.entriesSafe_filter hm hconds) hscope _)
    fun k₃ w w' hw => ?_
  extract_lets whereSql jp whereSql' jp'
  have hwhere : Text f k₂ k₃ whereSql whereSql' := OptText.whereSuffix hw
  have hlock : plain lock = true := by
    simp only [lock]
    split
    · exact plain_append_of (by decide) (Dialect.plain_forUpdate d)
    · decide
  -- まとめの句の後の続き: 整列の句、上限、行の鍵
  have hjp : ∀ g, plain g = true → Lockstep d cat f k₃ (fun _ k'' => Text f 0 k'') (jp g) (jp' g) := by
    intro g hg
    dsimp -zeta only [jp, jp']
    extract_lets jp₁ jp₁'
    have hjp₁ : ∀ o, plain o = true →
        Lockstep d cat f k₃ (fun _ k'' => Text f 0 k'') (jp₁ o) (jp₁' o) := by
      intro o ho
      simp only [jp₁, jp₁']
      refine Lockstep.bind (Lockstep.lift _) fun _ _ limits hlim => ?_
      obtain ⟨⟨hk, hl⟩, hlimits⟩ := hlim
      subst hk hl
      have hlimit : plain (if limits.isEmpty = true then "" else " " ++ limits) = true := by
        split
        · decide
        · exact plain_append_of (by decide) (Dialect.plain_limitOffset hlimits)
      exact Lockstep.pure (((((((((hwith.append_plain (by decide)).append_plain hcolsPlain).append_plain
        (by decide)).append_plain htable).append hjoinText).append hwhere).append_plain hg).append_plain
        ho).append_plain hlimit |>.append_plain hlock)
    have horderSafe : order.ordersSafe = true := by
      simp only [order]
      split
      · simpa [Value.ordersSafe, Value.iterate] using hdefaultOrder
      · exact horder
    split
    · refine Lockstep.bind (Lockstep.items order) fun _ _ terms hterms => ?_
      obtain ⟨⟨hk, ht⟩, hiter⟩ := hterms
      subst hk ht
      simp only [Value.ordersSafe, hiter, List.all_eq_true] at horderSafe
      simp only [pure_bind]
      refine hjp₁ _ (plain_append_of (by decide) (plain_intercalate (by decide) fun o ho => ?_))
      obtain ⟨t, ht, rfl⟩ := List.mem_map.1 ho
      exact Dialect.plain_orderTerm d (horderSafe t ht) _ _
    · simp only [pure_bind]
      exact hjp₁ "" (by decide)
  have hgroupSafe : group.namesSafe = true := by
    simp only [group]
    split
    · simpa [Value.namesSafe, Value.iterate] using hdefaultGroup
    · exact hgroup
  split
  · refine Lockstep.itemNames hgroupSafe fun names hnames => ?_
    simp only [pure_bind]
    exact hjp _ (plain_append_of (by decide) (plain_intercalate (by decide) hnames))
  · simp only [pure_bind]
    exact hjp "" (by decide)

theorem count_marks {conds : Value} (hconds : conds.conditionsSafe = true) {opts : FindOptions}
    (hopts : opts.safe = true) {st : Statement} (h : Statement.count d cat m conds opts = .ok st) :
    countMarkers st.sql = st.params.length ∧
      ∀ f, Statement.count d cat m conds opts f = .ok ⟨renumber f 0 st.sql, st.params⟩ := by
  unfold Statement.count at h ⊢
  refine Lockstep.statement (fun f => ?_) h
  simp only [FindOptions.safe, Bool.and_eq_true] at hopts
  obtain ⟨⟨⟨⟨hcte, hjoin⟩, -⟩, -⟩, -⟩ := hopts
  refine Lockstep.bind (Lockstep.withClause hm hcte) fun _ _ _ hwith => ?_
  extract_lets table
  have htable : plain table = true := by
    simp only [Meta.safe, Bool.and_eq_true] at hm
    exact Dialect.plain_identifier d hm.1.1.1.1.1.1
  refine Lockstep.bind (Lockstep.joinClause hjoin) fun _ _ _ hjoinText => ?_
  refine Lockstep.bind (Lockstep.lift _) fun k₂ _ entries hentries => ?_
  obtain ⟨⟨hk, he⟩, hnorm⟩ := hentries
  subst hk he
  simp only [Value.conditionsSafe, hnorm] at hconds
  have hscope : Scope.safe { tag := m.tag, rowName := table } = true := by
    simp only [Scope.safe, Option.all_none, Bool.and_true]
    exact htable
  refine Lockstep.bind (Lockstep.whereClause hcat depthLimit (Meta.entriesSafe_filter hm hconds) hscope _)
    fun k₃ w w' hw => ?_
  extract_lets whereSql whereSql'
  have hwhere : Text f k₂ k₃ whereSql whereSql' := OptText.whereSuffix hw
  exact Lockstep.pure ((((hwith.append_plain (by decide)).append_plain htable).append hjoinText).append hwhere)

theorem selectKeys_marks {conds : Value} (hconds : conds.conditionsSafe = true) (operation : String)
    (forUpdate : Bool) {st : Statement} (h : Statement.selectKeys d cat m conds operation forUpdate = .ok st) :
    countMarkers st.sql = st.params.length ∧
      ∀ f, Statement.selectKeys d cat m conds operation forUpdate f = .ok ⟨renumber f 0 st.sql, st.params⟩ := by
  unfold Statement.selectKeys at h ⊢
  refine Lockstep.statement (fun f => ?_) h
  refine Lockstep.bind (Lockstep.lift _) fun _ _ pk ⟨⟨hk, hpk⟩, hreq⟩ => ?_
  subst hk hpk
  refine Lockstep.bind (Lockstep.requiredWhere hcat hm hconds operation) fun _ _ _ hw => ?_
  refine Lockstep.bind (Lockstep.mapM_same fun c hc _ => Lockstep.name ?_) fun _ _ cols ⟨hk, hcols, hplain⟩ => ?_
  · exact Meta.plain_column hm (Meta.mem_of_requirePrimaryKey hreq c hc)
  subst hk hcols
  extract_lets lock
  have hlock : plain lock = true := by
    simp only [lock]
    split
    · exact plain_append_of (by decide) (Dialect.plain_forUpdate d)
    · decide
  have hhead : plain ("SELECT " ++ ", ".intercalate cols ++ " FROM " ++ d.identifier m.writeTable ++ " WHERE ") =
      true :=
    plain_append_of (plain_append_of (plain_append_of (plain_append_of (by decide)
      (plain_intercalate (by decide) hplain)) (by decide))
      (Dialect.plain_identifier d (Meta.plain_writeTable hm))) (by decide)
  exact Lockstep.pure ((Text.plain_append hhead hw).append_plain hlock)

theorem delete_marks {conds : Value} (hconds : conds.conditionsSafe = true) (opts : WriteOptions)
    {st : Statement} (h : Statement.delete d cat m conds opts = .ok st) :
    countMarkers st.sql = st.params.length ∧
      ∀ f, Statement.delete d cat m conds opts f = .ok ⟨renumber f 0 st.sql, st.params⟩ := by
  unfold Statement.delete at h ⊢
  refine Lockstep.statement (fun f => ?_) h
  refine Lockstep.bind (Lockstep.lift _) fun _ _ _ ⟨⟨hk, _⟩, _⟩ => ?_
  subst hk
  refine Lockstep.bind (Lockstep.requiredWhere hcat hm hconds "delete") fun _ _ _ hw => ?_
  refine Lockstep.bind (Lockstep.returningClause hm opts.returning) fun _ _ ret ⟨⟨hk, hret⟩, hplain⟩ => ?_
  subst hk hret
  have hhead : plain ("DELETE FROM " ++ d.identifier m.writeTable ++ " WHERE ") = true :=
    plain_append_of (plain_append_of (by decide) (Dialect.plain_identifier d (Meta.plain_writeTable hm)))
      (by decide)
  exact Lockstep.pure ((Text.plain_append hhead hw).append_plain hplain)

theorem update_marks {conds values : Value} (hconds : conds.conditionsSafe = true)
    (hvalues : values.rowSafe = true) (opts : WriteOptions) {st : Statement}
    (h : Statement.update d cat m conds values opts = .ok st) :
    countMarkers st.sql = st.params.length ∧
      ∀ f, Statement.update d cat m conds values opts f = .ok ⟨renumber f 0 st.sql, st.params⟩ := by
  unfold Statement.update at h ⊢
  refine Lockstep.statement (fun f => ?_) h
  refine Lockstep.bind (Lockstep.lift _) fun _ _ _ ⟨⟨hk, _⟩, _⟩ => ?_
  subst hk
  refine Lockstep.bind (Lockstep.lift _) fun _ _ row ⟨⟨hk, hr⟩, hrow⟩ => ?_
  subst hk hr
  have hsafe := Meta.normalizeRow_safe hm hvalues hrow
  split
  · exact Lockstep.fail_bind _ _ _ _
  -- 代入の一項ごとに、名前を書いてから値を束縛する
  refine Lockstep.bind (R := Chain (Text f)) (Lockstep.mapM fun p hp k => ?_) fun _ _ _ hsets => ?_
  · obtain ⟨c, v⟩ := p
    obtain ⟨hc, hv⟩ := hsafe _ hp
    refine Lockstep.bind (Lockstep.name (v := .column c) hc) fun _ _ n ⟨⟨hk, hn⟩, hnPlain⟩ => ?_
    subst hk hn
    refine Lockstep.bind (Lockstep.value hv) fun _ _ _ ⟨t, ha, hb, ht, hk⟩ => ?_
    subst ha hb
    exact Lockstep.pure (Text.plain_append (plain_append_of hnPlain (by decide)) ⟨ht, hk, rfl⟩)
  extract_lets table
  refine Lockstep.bind (Lockstep.requiredWhere hcat hm hconds "update") fun _ _ _ hw => ?_
  refine Lockstep.bind (Lockstep.returningClause hm opts.returning) fun _ _ ret ⟨⟨hk, hret⟩, hplain⟩ => ?_
  subst hk hret
  have htable : plain table = true := Dialect.plain_identifier d (Meta.plain_writeTable hm)
  have hhead : plain ("UPDATE " ++ table ++ " SET ") = true :=
    plain_append_of (plain_append_of (by decide) htable) (by decide)
  exact Lockstep.pure ((((Text.plain_append hhead (hsets.intercalate (by decide))).append_plain
    (by decide)).append hw).append_plain hplain)

omit hcat in
theorem insert_marks {rows : List Value} (hrows : ∀ r ∈ rows, r.rowSafe = true) {opts : InsertOptions}
    (hopts : opts.safe = true) {st : Statement} (h : Statement.insert d cat m rows opts = .ok st) :
    countMarkers st.sql = st.params.length ∧
      ∀ f, Statement.insert d cat m rows opts f = .ok ⟨renumber f 0 st.sql, st.params⟩ := by
  unfold Statement.insert at h ⊢
  refine Lockstep.statement (fun f => ?_) h
  refine Lockstep.bind (Lockstep.lift _) fun _ _ _ ⟨⟨hk, _⟩, _⟩ => ?_
  subst hk
  extract_lets table ignore verb rest
  split
  · exact Lockstep.fail_bind _ _ _ _
  dsimp -zeta only [rest]
  refine Lockstep.bind (Lockstep.mapM_same
    (P := fun row : Row => ∀ p ∈ row, plain p.1.name = true ∧ p.2.valueSafe = true) fun r hr _ =>
      (Lockstep.lift _).mono fun _ _ _ ⟨hs, hn⟩ => ⟨hs, Meta.normalizeRow_safe hm (hrows r hr) hn⟩)
    fun _ _ normalized ⟨hk, hn, hsafe⟩ => ?_
  subst hk hn
  extract_lets columns jp
  have hcolumns : ∀ c ∈ columns, plain c.name = true :=
    mem_unionColumns fun row hrow p hp => (hsafe row hrow p hp).1
  have htable : plain table = true := Dialect.plain_identifier d (Meta.plain_writeTable hm)
  have hverb : plain verb = true := Dialect.plain_insertVerb d ignore
  have hconflictNames : opts.onConflict.namesSafe = true := by
    simp only [InsertOptions.safe, Bool.and_eq_true] at hopts
    exact hopts.1
  -- 挿入の本体の後: 衝突の句と `RETURNING` の句は何も束縛しない
  have hjp : ∀ {k₁ : Nat} {body body' : String}, Text f 0 k₁ body body' →
      Lockstep d cat f k₁ (fun _ k'' => Text f 0 k'') (jp body) (jp body') := by
    intro k₁ body body' hbody
    dsimp -zeta only [jp]
    extract_lets last next last' next'
    have hlast : ∀ clause : String, plain clause = true →
        Lockstep d cat f k₁ (fun _ k'' => Text f 0 k'') (last clause) (last' clause) := by
      intro clause hclause
      simp only [last, last']
      refine Lockstep.bind (Lockstep.returningClause hm opts.returning) fun _ _ ret ⟨⟨hk, hr⟩, hret⟩ => ?_
      subst hk hr
      have hclauseSql : plain (if clause.isEmpty = true then "" else " " ++ clause) = true := by
        split
        · decide
        · exact plain_append_of (by decide) hclause
      exact Lockstep.pure ((hbody.append_plain hclauseSql).append_plain hret)
    have hnext : ∀ conflict : List String, (∀ c ∈ conflict, plain c = true) →
        Lockstep d cat f k₁ (fun _ k'' => Text f 0 k'') (next conflict) (next' conflict) := by
      intro conflict hconflict
      simp only [next, next']
      refine Lockstep.bind (Lockstep.conflictUpdates hopts hcolumns) fun _ _ updates ⟨⟨hk, hu⟩, hupdates⟩ => ?_
      subst hk hu
      split
      · refine Lockstep.bind (Lockstep.lift _) fun _ _ clause ⟨⟨hk, hc⟩, hup⟩ => ?_
        subst hk hc
        exact hlast _ (Dialect.plain_upsertClause hconflict hupdates hup)
      · simp only [pure_bind]
        exact hlast "" (by decide)
    split
    · exact Lockstep.itemNames hconflictNames fun names hnames => hnext names hnames
    · simp only [pure_bind]
      exact hnext [] (by simp)
  split
  · split
    · exact Lockstep.fail_bind _ _ _ _
    · simp only [pure_bind]
      refine hjp (Text.of_plain ?_ 0)
      exact plain_append_of (plain_append_of (plain_append_of (plain_append_of hverb (by decide)) htable)
        (by decide)) (Dialect.plain_defaultValuesClause d)
  · refine Lockstep.bind (Lockstep.mapM_same fun c hc _ => Lockstep.name (v := .column c) (hcolumns c hc))
      fun _ _ names ⟨hk, hn, hnames⟩ => ?_
    subst hk hn
    -- 行ごとに、列の順に値を束縛して括弧で囲む
    refine Lockstep.bind (R := Chain (Text f)) (Lockstep.mapM fun row hrow k => ?_) fun _ _ _ htuples => ?_
    · refine Lockstep.bind (Lockstep.mapM fun c _ k => Lockstep.value
        (Row.valueSafe_get (fun p hp => (hsafe row hrow p hp).2) c)) fun _ _ _ hvs => ?_
      exact Lockstep.bind (Lockstep.joinTexts (by decide) hvs) fun _ _ _ hs =>
        Lockstep.pure (Text.append_plain (Text.plain_append (by decide) hs) (by decide))
    simp only [pure_bind]
    have hhead : plain (verb ++ " " ++ table ++ " (" ++ ", ".intercalate names ++ ") VALUES ") = true :=
      plain_append_of (plain_append_of (plain_append_of (plain_append_of (plain_append_of hverb (by decide))
        htable) (by decide)) (plain_intercalate (by decide) hnames)) (by decide)
    exact hjp (Text.plain_append hhead (htuples.intercalate (by decide)))

end Statements

end Build

end DataAccess
