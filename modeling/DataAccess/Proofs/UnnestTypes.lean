import DataAccess.Proofs.UpdatePlan
import DataAccess.Proofs.Refusals
/-!
# 一括更新の配列の要素の型（PostgreSQL）

PostgreSQL の一括更新は、列ごとに値を配列にして `UNNEST(印::型[], …)` で渡す。列の配列は、行ごとの
`i` 番目の値（`i` 番目の値のない短い行は何も足さない）を、飛ばす印の列ではそのまま、ほかの列では
辞書と並びを JSON の文にして並べたもの（`columnArrays_spec`）。

配列の要素の型（`unnestType`）は、宣言された型が真ならその文字表記、偽なら最初の NULL でない値の型。
型の表 `arrayType.typeOf` は値の型ごとに引くが、引くのは JSON の文にした後の値なので、飛ばす印の列でない
列の辞書と並びは jsonb ではなく text になる（`sentType`）。すべて NULL の列は型を決められず、列の名前を
挙げて拒む。一括更新が契約違反で終わるのはそのときだけ（`unnest_element_types`）。
-/

namespace DataAccess

namespace Dialect

/-! ## 列の値と、その型 -/

/-- `i` 番目の列の値: 行ごとの `i` 番目の値。`i` 番目の値のない短い行は何も足さない。 -/
def columnValues (items : List (List Value)) (i : Nat) : List Value := items.filterMap (·[i]?)

/-- 配列に入れる値: 飛ばす印の列ではそのまま、ほかの列では `arrayElement`。 -/
def sentValue (c : UpdateColumn) (v : Value) : Except Fault Value :=
  if c.hasRole "skip" then pure v else arrayElement v

/-- NULL でない値か。 -/
def notNull : Value → Bool
  | .none => false
  | _ => true

/-- 値を配列に入れたときの PostgreSQL の型。飛ばす印の列でなければ、辞書と並びは JSON の文にして
入れるので text。 -/
def sentType (c : UpdateColumn) (v : Value) : String :=
  match v with
  | .dict _ | .list _ => if c.hasRole "skip" then "jsonb" else "text"
  | _ => arrayType.typeOf v

/-- すべて NULL で宣言された型もない列を拒む失敗。 -/
def allNullFault (column : Value) : Fault :=
  .lib { kind := .contract,
         message := .str ("update_many column " ++ column.repr ++ " holds only NULLs; declare sql_type on it"),
         field := column, constraint := .str "sql_type" }

/-- 列の配列の要素の型: 宣言された型が真ならその文字表記、偽なら最初の NULL でない値を入れたときの型。 -/
def unnestType (c : UpdateColumn) (vs : List Value) : Except Fault String :=
  if c.sqlType.truthy then .ok c.sqlType.text
  else match vs.find? notNull with
    | some v => .ok (sentType c v)
    | none => .error (allNullFault c.name)

theorem sentValue_spec {c : UpdateColumn} {v x : Value} (h : sentValue c v = .ok x) :
    notNull x = notNull v ∧ arrayType.typeOf x = sentType c v := by
  unfold sentValue at h
  split at h
  · next hskip =>
    cases h
    cases v <;> simp [sentType, arrayType.typeOf, hskip]
  · next hskip =>
    unfold arrayElement at h
    simp only [bind, Except.bind] at h
    split at h
    rotate_right
    · cases h
      cases v <;> simp_all [sentType]
    -- 辞書と並びは JSON の文になる
    all_goals
      split at h
      · cases h
      · cases h
        simp [notNull, sentType, arrayType.typeOf, hskip]

theorem find?_sentValue {c : UpdateColumn} :
    ∀ {vs xs : List Value}, vs.mapM (sentValue c) = .ok xs →
      (xs.find? notNull).map arrayType.typeOf = (vs.find? notNull).map (sentType c)
  | [], _, h => by
    cases h
    rfl
  | v :: vs, _, h => by
    rw [List.mapM_cons] at h
    obtain ⟨x, hx, h⟩ := Except.bind_eq_ok.1 h
    obtain ⟨xs, hxs, h⟩ := Except.bind_eq_ok.1 h
    cases h
    obtain ⟨hnull, htype⟩ := sentValue_spec hx
    by_cases hv : notNull v = true
    · simp [hv, hnull, htype]
    · simp [hv, hnull, find?_sentValue hxs]

theorem arrayType_list (sqlType column : Value) (xs : List Value) :
    arrayType sqlType (.list xs) column =
      if sqlType.truthy then .ok sqlType
      else match xs.find? notNull with
        | some v => .ok (.str (arrayType.typeOf v))
        | none => .error (allNullFault column) := by
  rfl

/-- 配列から決める要素の型は、入れる前の値から決める `unnestType`。 -/
theorem arrayType_sent {c : UpdateColumn} {vs xs : List Value} (h : vs.mapM (sentValue c) = .ok xs) :
    Value.text <$> arrayType c.sqlType (.list xs) c.name = unnestType c vs := by
  have hfind := find?_sentValue h
  rw [arrayType_list, unnestType]
  split
  · rfl
  · cases hx : xs.find? notNull with
    | some x =>
      cases hv : vs.find? notNull with
      | some v =>
        rw [hx, hv] at hfind
        simp only [Option.map_some, Option.some.injEq] at hfind
        simp only [← hfind]
        rfl
      | none => simp [hx, hv] at hfind
    | none =>
      cases hv : vs.find? notNull with
      | some v => simp [hx, hv] at hfind
      | none => rfl

/-! ## 列ごとの配列 -/

section Arrays

variable {cols : List UpdateColumn}

/-- 一行の値を番号 `k` から列の配列に足す畳み込み: `j` 番目の配列には、行の `j - k` 番目の値を
入れたものが足される（`j < k` や行が短いときは何も足さない）。一歩 `g` は番号 `i` の値を入れて
`i` 番目の配列に足す。 -/
theorem foldRow_spec {g : List (List Value) → Value × Nat → Except Fault (List (List Value))}
    (hg : ∀ acc v i acc', g acc (v, i) = .ok acc' →
      ∃ c x, cols[i]? = some c ∧ sentValue c v = .ok x ∧ acc' = acc.modify i (· ++ [x])) :
    ∀ (xs : List Value) (k : Nat) (acc acc' : List (List Value)), acc.length = cols.length →
      (xs.zipIdx k).foldlM g acc = .ok acc' →
      acc'.length = acc.length ∧ ∀ j c, cols[j]? = some c → ∃ ys,
        ((if k ≤ j then xs[j - k]? else none).toList).mapM (sentValue c) = .ok ys ∧
          acc'[j]?.getD [] = acc[j]?.getD [] ++ ys
  | [], k, acc, acc', _, h => by
    cases h
    refine ⟨rfl, fun j c _ => ⟨[], ?_, by simp⟩⟩
    split <;> rfl
  | v :: xs, k, acc, acc', hlen, h => by
    rw [List.zipIdx_cons, List.foldlM_cons] at h
    obtain ⟨acc₁, h₁, h⟩ := Except.bind_eq_ok.1 h
    obtain ⟨c₀, x, hc₀, hx, rfl⟩ := hg acc v k acc₁ h₁
    have hlen₁ : (acc.modify k (· ++ [x])).length = cols.length := by rw [List.length_modify, hlen]
    obtain ⟨hlen', hrest⟩ := foldRow_spec hg xs (k + 1) _ acc' hlen₁ h
    refine ⟨by rw [hlen', List.length_modify], fun j c hj => ?_⟩
    obtain ⟨ys, hys, hacc⟩ := hrest j c hj
    rcases Nat.lt_trichotomy j k with hjk | rfl | hjk
    · -- 番号 `k` より前の配列は、この行からは何も受け取らない
      have hnone : (if k + 1 ≤ j then xs[j - (k + 1)]? else none) = none := if_neg (by omega)
      rw [hnone] at hys
      cases hys
      refine ⟨[], by rw [if_neg (by omega)]; rfl, ?_⟩
      rw [hacc, List.getElem?_modify_ne _ _ (by omega)]
      rfl
    · -- 番号 `j` の配列は、行の最初の値を入れたものを受け取る
      have hnone : (if j + 1 ≤ j then xs[j - (j + 1)]? else none) = none := if_neg (by omega)
      rw [hnone] at hys
      cases hys
      rw [hc₀] at hj
      cases hj
      refine ⟨[x], ?_, ?_⟩
      · simp [hx]
      · have hj : j < acc.length := by
          rw [hlen]
          exact (List.getElem?_eq_some_iff.1 hc₀).1
        rw [hacc, List.getElem?_modify, List.getElem?_eq_getElem hj]
        simp
    · -- 番号 `k` より後ろの配列は、行の残りから受け取る
      refine ⟨ys, ?_, ?_⟩
      · rw [if_pos (by omega)]
        rw [if_pos (by omega)] at hys
        have hidx : j - k = (j - (k + 1)) + 1 := by omega
        rw [hidx, List.getElem?_cons_succ]
        exact hys
      · rw [hacc, List.getElem?_modify_ne _ _ (by omega)]

/-- 行ごとの畳み込み: 行を並びにし、`j` 番目の配列には行ごとの `j` 番目の値を入れたものが足される。 -/
theorem foldRows_spec {F : List (List Value) → Value → Except Fault (List (List Value))}
    (hF : ∀ (acc : List (List Value)) (row : Value) (acc' : List (List Value)), acc.length = cols.length →
      F acc row = .ok acc' → ∃ xs : List Value, row.iterate = .ok xs ∧
      acc'.length = acc.length ∧ ∀ (j : Nat) c, cols[j]? = some c → ∃ ys, (xs[j]?.toList).mapM (sentValue c) = .ok ys ∧
        acc'[j]?.getD [] = acc[j]?.getD [] ++ ys) :
    ∀ (rowList : List Value) (acc arrays : List (List Value)), acc.length = cols.length →
      rowList.foldlM F acc = .ok arrays → ∃ items, rowList.mapM Value.iterate = .ok items ∧
        ∀ (j : Nat) c, cols[j]? = some c → ∃ ys, (columnValues items j).mapM (sentValue c) = .ok ys ∧
          arrays[j]?.getD [] = acc[j]?.getD [] ++ ys
  | [], acc, arrays, _, h => by
    cases h
    exact ⟨[], rfl, fun j c _ => ⟨[], rfl, by simp⟩⟩
  | row :: rest, acc, arrays, hlen, h => by
    rw [List.foldlM_cons] at h
    obtain ⟨acc₁, h₁, h⟩ := Except.bind_eq_ok.1 h
    obtain ⟨xs, hxs, hlen₁, hrow⟩ := hF acc row acc₁ hlen h₁
    obtain ⟨items, hitems, hrest⟩ := foldRows_spec hF rest acc₁ arrays (by rw [hlen₁, hlen]) h
    refine ⟨xs :: items, by simp [List.mapM_cons, hxs, hitems, bind, Except.bind, pure, Except.pure], fun j c hj => ?_⟩
    obtain ⟨ys₁, hys₁, hacc₁⟩ := hrow j c hj
    obtain ⟨ys₂, hys₂, hacc₂⟩ := hrest j c hj
    have hcol : columnValues (xs :: items) j = xs[j]?.toList ++ columnValues items j := by
      cases hx : xs[j]? <;> simp [columnValues, hx]
    refine ⟨ys₁ ++ ys₂, ?_, by rw [hacc₂, hacc₁, List.append_assoc]⟩
    rw [hcol, List.mapM_append, hys₁, hys₂]
    rfl

/-- 列ごとの配列は、行を並びにしたときの列の値を、それぞれ配列に入れたもの。 -/
theorem columnArrays_spec {rowList : List Value} {arrays : List (List Value)}
    (h : columnArrays cols rowList = .ok arrays) :
    ∃ items, rowList.mapM Value.iterate = .ok items ∧
      ∀ j c, cols[j]? = some c → (columnValues items j).mapM (sentValue c) = .ok (arrays[j]?.getD []) := by
  unfold columnArrays at h
  have hrows := @foldRows_spec cols _ ?_ rowList _ arrays (by simp) h
  · obtain ⟨items, hitems, hcols⟩ := hrows
    refine ⟨items, hitems, fun j c hj => ?_⟩
    obtain ⟨ys, hys, harr⟩ := hcols j c hj
    have hj' : j < cols.length := (List.getElem?_eq_some_iff.1 hj).1
    rw [harr, List.getElem?_map, List.getElem?_eq_getElem hj']
    simpa using hys
  · intro acc row acc' hlen hrow
    obtain ⟨xs, hxs, hfold⟩ := Except.bind_eq_ok.1 hrow
    refine ⟨xs, hxs, ?_⟩
    have hrowSpec := @foldRow_spec cols _ ?_ xs 0 acc acc' hlen hfold
    · obtain ⟨hlen', hcols⟩ := hrowSpec
      exact ⟨hlen', fun j c hj => by simpa using hcols j c hj⟩
    · intro acc v i acc' hstep
      simp only at hstep
      split at hstep
      · cases hstep
      · next c hc =>
        -- 印の列の値はそのまま、ほかの列の値は `arrayElement` を通して入れる
        split at hstep
        · next hskip =>
          simp only [pure_bind] at hstep
          cases hstep
          exact ⟨c, v, hc, by rw [sentValue, if_pos hskip]; rfl, rfl⟩
        · next hskip =>
          obtain ⟨x, hx, hstep⟩ := Except.bind_eq_ok.1 hstep
          cases hstep
          exact ⟨c, x, hc, by rw [sentValue, if_neg hskip]; exact hx, rfl⟩

end Arrays

/-! ## 要素の型の決まり方 -/

theorem unnestType_error {c : UpdateColumn} {vs : List Value} {e : Fault} (h : unnestType c vs = .error e) :
    e = allNullFault c.name ∧ c.sqlType.truthy = false ∧ ∀ v ∈ vs, v = .none := by
  unfold unnestType at h
  split at h
  · cases h
  · next htyped =>
    split at h
    · cases h
    · next hfind =>
      cases h
      refine ⟨rfl, by simpa using htyped, fun v hv => ?_⟩
      have hnull := List.find?_eq_none.1 hfind v hv
      cases v <;> simp_all [notNull]

theorem unnestType_all_null {c : UpdateColumn} {vs : List Value} (htyped : c.sqlType.truthy = false)
    (hnull : ∀ v ∈ vs, v = .none) : unnestType c vs = .error (allNullFault c.name) := by
  have hfind : vs.find? notNull = none := List.find?_eq_none.2 fun v hv => by simp [hnull v hv, notNull]
  simp [unnestType, htyped, hfind]

/-! ## 番号付きの並びの `mapM` -/

section ZipIdx

variable {α β : Type} {g : α × Nat → Except Fault β}

theorem mapM_zipIdx_ok : ∀ {l : List α} {k : Nat} {ys : List β}, (l.zipIdx k).mapM g = .ok ys →
    ys.length = l.length ∧ ∀ i a, l[i]? = some a → ∃ y, g (a, k + i) = .ok y ∧ ys[i]? = some y
  | [], _, _, h => by
    cases h
    exact ⟨rfl, fun i a ha => by simp at ha⟩
  | a :: l, k, _, h => by
    rw [List.zipIdx_cons, List.mapM_cons] at h
    obtain ⟨y, hy, h⟩ := Except.bind_eq_ok.1 h
    obtain ⟨ys, hys, h⟩ := Except.bind_eq_ok.1 h
    cases h
    obtain ⟨hlen, hrest⟩ := mapM_zipIdx_ok hys
    refine ⟨by simp [hlen], fun i b hb => ?_⟩
    cases i with
    | zero =>
      cases hb
      exact ⟨y, hy, rfl⟩
    | succ i =>
      obtain ⟨y', hy', hys'⟩ := hrest i b hb
      refine ⟨y', ?_, hys'⟩
      rw [show k + (i + 1) = k + 1 + i by omega]
      exact hy'

theorem mapM_zipIdx_error : ∀ {l : List α} {k : Nat} {e : Fault}, (l.zipIdx k).mapM g = .error e →
    ∃ i a, l[i]? = some a ∧ g (a, k + i) = .error e
  | [], _, _, h => by cases h
  | a :: l, k, e, h => by
    rw [List.zipIdx_cons, List.mapM_cons] at h
    cases hy : g (a, k) with
    | error e' =>
      rw [hy] at h
      cases h
      exact ⟨0, a, rfl, hy⟩
    | ok y =>
      rw [hy] at h
      cases hys : (l.zipIdx (k + 1)).mapM g with
      | error e' =>
        rw [hys] at h
        cases h
        obtain ⟨i, b, hb, hgb⟩ := mapM_zipIdx_error hys
        refine ⟨i + 1, b, hb, ?_⟩
        rw [show k + (i + 1) = k + 1 + i by omega]
        exact hgb
      | ok ys =>
        rw [hys] at h
        cases h

theorem mapM_zipIdx_fails : ∀ {l : List α} {k i : Nat} {a : α} {e : Fault}, l[i]? = some a →
    g (a, k + i) = .error e → ∃ e', (l.zipIdx k).mapM g = .error e'
  | [], _, _, _, _, ha, _ => by simp at ha
  | b :: l, k, i, a, e, ha, hg => by
    rw [List.zipIdx_cons, List.mapM_cons]
    cases hy : g (b, k) with
    | error e' => exact ⟨e', rfl⟩
    | ok y =>
      cases i with
      | zero =>
        cases ha
        rw [Nat.add_zero, hy] at hg
        cases hg
      | succ i =>
        rw [show k + (i + 1) = k + 1 + i by omega] at hg
        obtain ⟨e', he'⟩ := mapM_zipIdx_fails (l := l) ha hg
        exact ⟨e', by simp [he', bind, Except.bind]⟩

end ZipIdx

/-! ## 一括更新の文 -/

theorem Except.bind_error_cases {α β : Type} {x : Except Fault α} {f : α → Except Fault β} {e : Fault}
    (h : (x >>= f) = .error e) : x = .error e ∨ ∃ a, x = .ok a ∧ f a = .error e := by
  cases x with
  | error e' =>
    cases h
    exact .inl rfl
  | ok a => exact .inr ⟨a, rfl, h⟩

theorem flagOf_noRefusal (flags : List (Value × Value)) (name : Value) : NoRefusal (flagOf flags name) := by
  unfold flagOf
  exact (Value.requireHashable_noRefusal name).bind fun _ => noRefusal_ok _

theorem setList_noRefusal {cols : List UpdateColumn} {term : UpdateColumn → Except Fault String}
    (hterm : ∀ c, NoRefusal (term c)) : NoRefusal (setList cols term) := by
  unfold setList
  exact (noRefusal_mapM hterm _).bind fun _ => noRefusal_ok _

theorem joinItems_noRefusal (sep : String) (items : List Value) : NoRefusal (Value.joinItems sep items) := by
  unfold Value.joinItems
  refine (noRefusal_mapM (fun p => ?_) _).bind fun _ => noRefusal_ok _
  intro e h
  obtain ⟨v, i⟩ := p
  dsimp only at h
  split at h
  · cases h
  · cases h
    rfl

theorem joinOnKeys_noRefusal (table keys : Value) : NoRefusal (joinOnKeys table keys) := by
  unfold joinOnKeys
  exact (Value.iterate_noRefusal keys).bind fun _ => noRefusal_ok _

/-- 配列の要素の型を決めた後の組み立て（代入、列の名前、照合、`RETURNING`）は、契約違反では失敗しない。 -/
theorem refusal_after_casts {table keys returning : Value} {cs : List UpdateColumn}
    {flags : List (Value × Value)} {arrays : List (List Value)} {casts : List String} {e : Fault}
    (h : (do
      let sets ← setList cs fun c => do
        pure (c.name.text ++ " = " ++ assignment table c (← flagOf flags c.name))
      let names ← Value.joinItems ", " (cs.map (·.name))
      let join ← joinOnKeys table keys
      let sql := "UPDATE " ++ table.text ++ " SET " ++ sets ++ " FROM UNNEST(" ++ ", ".intercalate casts ++
        ") AS v(" ++ names ++ ") WHERE " ++ join
      let sql ← if returning.truthy then do
          pure (sql ++ " RETURNING " ++ ", ".intercalate ((← returning.iterate).map fun r => table.text ++ "." ++ r.text))
        else pure sql
      pure (⟨sql, arrays.map Value.list⟩ : Statement) : Except Fault Statement) = .error e) :
    e.refusal = false := by
  rcases Except.bind_error_cases h with hs | ⟨sets, -, h⟩
  · exact setList_noRefusal (fun c => (flagOf_noRefusal flags c.name).bind fun _ => noRefusal_ok _) e hs
  rcases Except.bind_error_cases h with hn | ⟨names, -, h⟩
  · exact joinItems_noRefusal _ _ e hn
  rcases Except.bind_error_cases h with hj | ⟨join, -, h⟩
  · exact joinOnKeys_noRefusal _ _ e hj
  dsimp only at h
  split at h
  · rcases Except.bind_error_cases h with hr | ⟨_, -, h⟩
    · exact Value.iterate_noRefusal _ e hr
    · cases h
  · cases h

theorem castItem_eq {c : UpdateColumn} {vs xs : List Value} (hxs : vs.mapM (sentValue c) = .ok xs)
    (m : String) :
    (arrayType c.sqlType (.list xs) c.name >>= fun t => pure (m ++ "::" ++ t.text ++ "[]")) =
      (fun s => m ++ "::" ++ s ++ "[]") <$> unnestType c vs := by
  rw [← arrayType_sent hxs]
  cases arrayType c.sqlType (.list xs) c.name <;> rfl

theorem Except.ok_bind_eq {α β : Type} {a : α} {f : α → Except Fault β} : ((Except.ok a : Except Fault α) >>= f) = f a :=
  rfl

theorem Except.map_eq_ok {α β : Type} {f : α → β} {x : Except Fault α} {b : β} (h : f <$> x = .ok b) :
    ∃ a, x = .ok a ∧ b = f a := by
  cases x with
  | error e => cases h
  | ok a =>
    cases h
    exact ⟨a, rfl, rfl⟩

theorem Except.map_eq_error {α β : Type} {f : α → β} {x : Except Fault α} {e : Fault} (h : f <$> x = .error e) :
    x = .error e := by
  cases x with
  | error e' =>
    cases h
    rfl
  | ok a => cases h

/-- 列の項を書けないのは、要素の型を決められない列（宣言された型がなく、値がすべて NULL）のときだけ。 -/
theorem castItem_error {c : UpdateColumn} {vs xs : List Value} {m : String} {e : Fault}
    (hxs : vs.mapM (sentValue c) = .ok xs)
    (h : (arrayType c.sqlType (.list xs) c.name >>= fun t => pure (m ++ "::" ++ t.text ++ "[]")) = .error e) :
    e = allNullFault c.name ∧ c.sqlType.truthy = false ∧ ∀ v ∈ vs, v = .none := by
  rw [castItem_eq hxs] at h
  exact unnestType_error (Except.map_eq_error h)

/-- 成功した一括更新の文の `UNNEST` の `i` 番目の項は、印と `i` 番目の列の要素の型を書いた
`印::型[]`。型を決められない列はない。 -/
theorem updateMany_casts {table : Value} {cols : List Value} {keys rows returning : Value} {mark : Nat → String}
    {stmt : Statement} (h : updateMany .postgresql table cols keys rows returning mark = .ok stmt) :
    ∃ cs flags rowList items casts, skipFlags cols = .ok (cs, flags) ∧ rows.iterate = .ok rowList ∧
      rowList.mapM Value.iterate = .ok items ∧ casts.length = cs.length ∧
      (∀ i c, cs[i]? = some c →
        ∃ t, unnestType c (columnValues items i) = .ok t ∧ casts[i]? = some (mark i ++ "::" ++ t ++ "[]")) ∧
      ∃ sets rest, stmt.sql = "UPDATE " ++ table.text ++ " SET " ++ sets ++ " FROM UNNEST(" ++
        ", ".intercalate casts ++ ") AS v(" ++ rest := by
  unfold updateMany at h
  obtain ⟨⟨cs, flags⟩, hskip, h⟩ := Except.bind_eq_ok.1 h
  dsimp only at h
  obtain ⟨rowList, hrowList, h⟩ := Except.bind_eq_ok.1 h
  obtain ⟨arrays, harrays, h⟩ := Except.bind_eq_ok.1 h
  obtain ⟨casts, hcasts, h⟩ := Except.bind_eq_ok.1 h
  obtain ⟨sets, -, h⟩ := Except.bind_eq_ok.1 h
  obtain ⟨names, -, h⟩ := Except.bind_eq_ok.1 h
  obtain ⟨join, -, h⟩ := Except.bind_eq_ok.1 h
  obtain ⟨items, hitems, hcols⟩ := columnArrays_spec harrays
  obtain ⟨hlen, hcast⟩ := mapM_zipIdx_ok hcasts
  -- `i` 番目の項は、`i` 番目の配列から決めた型
  have htypes : ∀ i c, cs[i]? = some c →
      ∃ t, unnestType c (columnValues items i) = .ok t ∧ casts[i]? = some (mark i ++ "::" ++ t ++ "[]") := by
    intro i c hc
    obtain ⟨y, hy, hyi⟩ := hcast i c hc
    dsimp only at hy
    rw [Nat.zero_add, castItem_eq (hcols i c hc)] at hy
    obtain ⟨t, ht, rfl⟩ := Except.map_eq_ok hy
    exact ⟨t, ht, hyi⟩
  refine ⟨cs, flags, rowList, items, casts, hskip, hrowList, hitems, hlen, htypes, sets,
    ?_⟩
  split at h
  · obtain ⟨rs, -, h⟩ := Except.bind_eq_ok.1 h
    cases h
    exact ⟨names ++ ") WHERE " ++ join ++ " RETURNING " ++
      ", ".intercalate (rs.map fun r => table.text ++ "." ++ r.text), by simp only [String.append_assoc]⟩
  · cases h
    exact ⟨names ++ ") WHERE " ++ join, by simp only [String.append_assoc]⟩

theorem allNullFault_refusal (column : Value) : (allNullFault column).refusal = true := rfl

/-- 列の値を配列にできた一括更新が契約違反で終わるのは、宣言された型がなくすべて NULL の列が
あるときだけで、そのときはそうなる。 -/
theorem updateMany_refusal_iff {table : Value} {cols : List Value} {keys rows returning : Value}
    {mark : Nat → String} {cs : List UpdateColumn} {flags : List (Value × Value)} {rowList : List Value}
    {items : List (List Value)} {arrays : List (List Value)} (hskip : skipFlags cols = .ok (cs, flags))
    (hrowList : rows.iterate = .ok rowList) (hitems : rowList.mapM Value.iterate = .ok items)
    (harrays : columnArrays cs rowList = .ok arrays) :
    (∃ e, updateMany .postgresql table cols keys rows returning mark = .error e ∧ e.refusal = true) ↔
      ∃ i c, cs[i]? = some c ∧ c.sqlType.truthy = false ∧ ∀ v ∈ columnValues items i, v = .none := by
  obtain ⟨items', hitems', hcols⟩ := columnArrays_spec harrays
  rw [hitems] at hitems'
  cases hitems'
  constructor
  · rintro ⟨e, h, he⟩
    unfold updateMany at h
    rcases Except.bind_error_cases h with h₁ | ⟨_, h₁, h⟩ <;> rw [hskip] at h₁ <;> cases h₁
    dsimp only at h
    rcases Except.bind_error_cases h with h₂ | ⟨_, h₂, h⟩ <;> rw [hrowList] at h₂ <;> cases h₂
    rcases Except.bind_error_cases h with h₃ | ⟨_, h₃, h⟩ <;> rw [harrays] at h₃ <;> cases h₃
    rcases Except.bind_error_cases h with h₄ | ⟨casts, -, h⟩
    · -- 要素の型を決められなかった列がある
      obtain ⟨i, c, hc, hg⟩ := mapM_zipIdx_error h₄
      dsimp only at hg
      rw [Nat.zero_add] at hg
      obtain ⟨-, htyped, hnull⟩ := castItem_error (hcols i c hc) hg
      exact ⟨i, c, hc, htyped, hnull⟩
    · rw [refusal_after_casts h] at he
      cases he
  · rintro ⟨i, c, hc, htyped, hnull⟩
    unfold updateMany
    rw [hskip, Except.ok_bind_eq]
    dsimp only
    rw [hrowList, Except.ok_bind_eq, harrays, Except.ok_bind_eq]
    generalize hm : (List.mapM _ cs.zipIdx : Except Fault (List String)) = m
    cases m with
    | error e =>
      -- 最初に失敗した列も、宣言された型がなくすべて NULL の列
      refine ⟨e, rfl, ?_⟩
      obtain ⟨j, c', hc', hg⟩ := mapM_zipIdx_error hm
      dsimp only at hg
      rw [Nat.zero_add] at hg
      rw [(castItem_error (hcols j c' hc') hg).1]
      exact allNullFault_refusal _
    | ok casts =>
      obtain ⟨-, hcast⟩ := mapM_zipIdx_ok hm
      obtain ⟨y, hy, -⟩ := hcast i c hc
      dsimp only at hy
      rw [Nat.zero_add, castItem_eq (hcols i c hc), unnestType_all_null htyped hnull] at hy
      cases hy


/-! ## 飛ばす印の列 -/

/-- 一段ごとに、見え方 `view` の後ろに読んだ要素の像を一つ足す畳み込み。 -/
theorem foldlM_view {ε α β γ : Type} {g : β → α → Except ε β} {view : β → List γ} {emit : α → γ}
    (hstep : ∀ b a b', g b a = .ok b' → view b' = view b ++ [emit a]) :
    ∀ {l : List α} {init r : β}, l.foldlM g init = .ok r → view r = view init ++ l.map emit
  | [], _, _, h => by
    cases h
    simp
  | a :: l, init, r, h => by
    rw [List.foldlM_cons] at h
    obtain ⟨b, hb, h⟩ := Except.bind_eq_ok.1 h
    rw [foldlM_view hstep h, hstep init a b hb, List.map_cons, List.append_assoc, List.singleton_append]

theorem skipFlags_values {cols : List Value} {cs : List UpdateColumn} {flags : List (Value × Value)}
    (h : skipFlags cols = .ok (cs, flags)) : cs.map UpdateColumn.value = cols := by
  unfold skipFlags at h
  have hview := @foldlM_view _ _ _ _ _ (fun b : List UpdateColumn × List (Value × Value) => b.1.map UpdateColumn.value)
    id ?_ _ _ _ h
  · simpa using hview
  · intro b v b' hb
    obtain ⟨acc, fl⟩ := b
    dsimp only at hb
    split at hb
    · next name role sqlType target =>
      -- 印の列でも、ほかの列でも、読んだ指定を一つ足す
      split at hb
      · obtain ⟨_, _, hpure⟩ := Except.bind_eq_ok.1 hb
        cases hpure
        simp [UpdateColumn.value]
      · cases hb
        simp [UpdateColumn.value]
    · cases hb

/-- PostgreSQL の組み立ての一括更新では、飛ばす印の列は型 boolean を宣言して渡すので、
その `UNNEST` の項はどれも `印::boolean[]`。 -/
theorem updateMany_flags_boolean {m : Meta} {rows keyColumns : List Value} {opts : WriteOptions}
    {mark : Nat → String} {st : Statement} (h : Statement.updateMany .postgresql m rows keyColumns opts mark = .ok st) :
    ∃ keys normalized casts, UpdatePlan .postgresql m rows keyColumns opts mark st keys normalized ∧
      (∃ sets rest, st.sql = "UPDATE " ++ Dialect.postgresql.identifier m.writeTable ++ " SET " ++ sets ++
        " FROM UNNEST(" ++ ", ".intercalate casts ++ ") AS v(" ++ rest) ∧
      ∀ p < (planFlagged keys normalized).length,
        casts[keys.length + (planSets keys normalized).length + p]? =
          some (mark (keys.length + (planSets keys normalized).length + p) ++ "::boolean[]") := by
  obtain ⟨keys, normalized, plan⟩ := Statement.updateMany_plan h
  obtain ⟨cs, flags, _, _, casts, hskip, -, -, -, htypes, sets, rest, hsql⟩ := updateMany_casts plan.rendered
  refine ⟨keys, normalized, casts, plan, ⟨sets, rest, by simpa [Value.text] using hsql⟩, fun p hp => ?_⟩
  -- 指定の `keys.length + sets.length + p` 番目は `p` 番目の飛ばす印の列
  have hvals := skipFlags_values hskip
  have hspec : (updateSpec .postgresql keys (planSets keys normalized) (planFlagged keys normalized))[keys.length +
      (planSets keys normalized).length + p]? = some (.updateColumn (.str ("_skip_" ++ (planFlagged keys normalized)[p].name))
        (.str "skip") (.str "boolean") (.str (Dialect.postgresql.identifier (planFlagged keys normalized)[p].name))) := by
    simp only [updateSpec, List.append_assoc]
    rw [List.getElem?_append_right (by simp; omega), List.getElem?_append_right (by simp; omega)]
    simp [Nat.add_assoc, hp]
  rw [← hvals, List.getElem?_map] at hspec
  obtain ⟨c, hc, hcv⟩ := Option.map_eq_some_iff.1 hspec
  have htype : c.sqlType = .str "boolean" := by
    simp only [UpdateColumn.value, Value.updateColumn.injEq] at hcv
    exact hcv.2.2.1
  obtain ⟨t, ht, hcast⟩ := htypes _ c hc
  have ht' : t = "boolean" := by
    simp only [unnestType, htype, Value.truthy, Value.text] at ht
    simp at ht
    exact ht.symm
  rw [hcast, ht']
  simp only [String.append_assoc]
  rfl

/-! ## 要素の型 -/

/-- PostgreSQL の一括更新の `UNNEST` の項。成功した文の `i` 番目の項は `印::型[]` で、型は `unnestType`:
宣言された型が真ならそれ、偽なら `i` 番目の列の最初の NULL でない値を配列に入れたときの型で、
辞書と並びは JSON の文として入れるので text。値を配列にできた一括更新が契約違反で終わるのは、宣言された
型がなくすべて NULL の列があるときだけ。組み立ての一括更新では、飛ばす印の列は boolean[]。 -/
theorem unnest_element_types (table : Value) (cols : List Value) (keys rows returning : Value)
    (mark : Nat → String) :
    (∀ stmt, updateMany .postgresql table cols keys rows returning mark = .ok stmt →
      ∃ cs flags rowList items casts, skipFlags cols = .ok (cs, flags) ∧ rows.iterate = .ok rowList ∧
        rowList.mapM Value.iterate = .ok items ∧ casts.length = cs.length ∧
        (∀ i c, cs[i]? = some c →
          ∃ t, unnestType c (columnValues items i) = .ok t ∧ casts[i]? = some (mark i ++ "::" ++ t ++ "[]")) ∧
        ∃ sets rest, stmt.sql = "UPDATE " ++ table.text ++ " SET " ++ sets ++ " FROM UNNEST(" ++
          ", ".intercalate casts ++ ") AS v(" ++ rest) ∧
    (∀ cs flags rowList items arrays, skipFlags cols = .ok (cs, flags) → rows.iterate = .ok rowList →
      rowList.mapM Value.iterate = .ok items → columnArrays cs rowList = .ok arrays →
      ((∃ e, updateMany .postgresql table cols keys rows returning mark = .error e ∧ e.refusal = true) ↔
        ∃ i c, cs[i]? = some c ∧ c.sqlType.truthy = false ∧ ∀ v ∈ columnValues items i, v = .none)) ∧
    (∀ (m : Meta) (rowValues keyColumns : List Value) (opts : WriteOptions) (st : Statement),
      Statement.updateMany .postgresql m rowValues keyColumns opts mark = .ok st →
      ∃ keyCols normalized casts, UpdatePlan .postgresql m rowValues keyColumns opts mark st keyCols normalized ∧
        (∃ sets rest, st.sql = "UPDATE " ++ Dialect.postgresql.identifier m.writeTable ++ " SET " ++ sets ++
          " FROM UNNEST(" ++ ", ".intercalate casts ++ ") AS v(" ++ rest) ∧
        ∀ p < (planFlagged keyCols normalized).length,
          casts[keyCols.length + (planSets keyCols normalized).length + p]? =
            some (mark (keyCols.length + (planSets keyCols normalized).length + p) ++ "::boolean[]")) :=
  ⟨fun _ h => updateMany_casts h, fun _ _ _ _ _ hskip hrowList hitems harrays =>
    updateMany_refusal_iff hskip hrowList hitems harrays, fun _ _ _ _ _ h => updateMany_flags_boolean h⟩

/-- 辞書を書く列の `UNNEST` の項は `?::text[]`: 辞書は JSON の文として配列に入る。 -/
theorem dict_column_cast_text :
    ∃ stmt, updateMany .postgresql (.str "users")
        [.updateColumn (.str "id") (.str "key") .none .none, .updateColumn (.str "name") (.str "set") .none .none]
        (.list [.str "id"]) (.list [.list [.int 1, .dict [(.str "a", .int 1)]]]) .none (fun _ => "?") = .ok stmt ∧
      stmt.sql = "UPDATE users SET name = v.name FROM UNNEST(?::bigint[], ?::text[]) AS v(id, name) " ++
        "WHERE users.id = v.id" ∧
      ∃ cs flags rowList items casts, skipFlags
          [.updateColumn (.str "id") (.str "key") .none .none, .updateColumn (.str "name") (.str "set") .none .none] =
          .ok (cs, flags) ∧ (Value.list [.list [.int 1, .dict [(.str "a", .int 1)]]]).iterate = .ok rowList ∧
        rowList.mapM Value.iterate = .ok items ∧ casts.length = cs.length ∧
        (∀ i c, cs[i]? = some c → ∃ t, unnestType c (columnValues items i) = .ok t ∧
          casts[i]? = some ("?" ++ "::" ++ t ++ "[]")) ∧
        ∃ sets rest, stmt.sql = "UPDATE " ++ (Value.str "users").text ++ " SET " ++ sets ++ " FROM UNNEST(" ++
          ", ".intercalate casts ++ ") AS v(" ++ rest := by
  have hsql : (updateMany .postgresql (.str "users")
      [.updateColumn (.str "id") (.str "key") .none .none, .updateColumn (.str "name") (.str "set") .none .none]
      (.list [.str "id"]) (.list [.list [.int 1, .dict [(.str "a", .int 1)]]]) .none (fun _ => "?")).toOption.map
        Statement.sql = some ("UPDATE users SET name = v.name FROM UNNEST(?::bigint[], ?::text[]) AS v(id, name) " ++
          "WHERE users.id = v.id") := by
    decide +kernel
  obtain ⟨stmt, hst, hs⟩ := Except.exists_of_toOption_map hsql
  exact ⟨stmt, hst, hs, (unnest_element_types _ _ _ _ _ _).1 stmt hst⟩

end Dialect

end DataAccess
