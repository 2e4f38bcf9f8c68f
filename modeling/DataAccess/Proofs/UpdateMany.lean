import DataAccess.Proofs.Statements
/-!
# 一括更新の文の印

一括更新の文は組み立ての状態を通らず、最後に印の書き方 `mark` を受け取って文を書く。
印を `?` で書いた文と `f` で書いた文を並べる関係は `Agree`: 一つ目が成功すれば二つ目も成功し、
結果が関係で結ばれる。

PostgreSQL は列ごとの値の配列を一つの値として渡し、`i` 番目の配列の印を `UNNEST` の
`i` 番目の項に書く。MySQL と SQLite は行ごとに値を並べて渡し、`r` 番目の行の `j` 番目の値の印を
`r * 幅 + j` 番目に書く。どちらも、列の名前、表の名前、宣言された型が `plain` なら、文の印は
値と同じ数で、`k` 番目の印が `k` 番目の値の印になる。
-/

namespace DataAccess

open Sql Build

/-! ## 並べた計算 -/

/-- 印の書き方だけが違う二つの計算の関係。 -/
def Agree {α β : Type} (R : α → β → Prop) (x : Except Fault α) (y : Except Fault β) : Prop :=
  ∀ a, x = .ok a → ∃ b, y = .ok b ∧ R a b

section Agree

variable {α β γ δ : Type}

theorem Agree.pure {R : α → β → Prop} {a : α} {b : β} (h : R a b) :
    Agree R (Pure.pure a : Except Fault α) (Pure.pure b) := by
  intro a' ha
  cases ha
  exact ⟨b, rfl, h⟩

theorem Agree.bind {R : α → β → Prop} {S : γ → δ → Prop} {x : Except Fault α} {y : Except Fault β}
    {g : α → Except Fault γ} {g' : β → Except Fault δ} (hx : Agree R x y)
    (hg : ∀ a b, R a b → Agree S (g a) (g' b)) : Agree S (x >>= g) (y >>= g') := by
  intro c hc
  obtain ⟨a, ha, hga⟩ := Except.bind_eq_ok.1 hc
  obtain ⟨b, hb, hab⟩ := hx a ha
  obtain ⟨d, hd, hcd⟩ := hg a b hab c hga
  refine ⟨d, ?_, hcd⟩
  rw [hb]
  exact hd

theorem Agree.bind_same {S : γ → δ → Prop} (x : Except Fault α) {g : α → Except Fault γ}
    {g' : α → Except Fault δ} (hg : ∀ a, x = .ok a → Agree S (g a) (g' a)) : Agree S (x >>= g) (x >>= g') :=
  Agree.bind (R := fun a b => b = a ∧ x = .ok a) (fun a ha => ⟨a, ha, rfl, ha⟩) fun a _ ⟨hb, ha⟩ => by
    subst hb
    exact hg _ ha

theorem Agree.throw {R : α → β → Prop} (e e' : Fault) : Agree R (throw e) (throw e') := by
  intro a ha
  cases ha

theorem Agree.throw_bind {R : α → β → Prop} (e e' : Fault) (g : γ → Except Fault α) (g' : δ → Except Fault β) :
    Agree R ((MonadExcept.throw e : Except Fault γ) >>= g) ((MonadExcept.throw e' : Except Fault δ) >>= g') := by
  intro a ha
  cases ha

end Agree

/-! ## 一括更新に渡す値 -/

namespace Value

/-- `None` か `plain` な文字列。 -/
def optPlain : Value → Bool
  | .none => true
  | .str s => plain s
  | _ => false

/-- 要素に分けた値のどの要素も `plain` な文字列（分けられない値では組み立てが失敗する）。 -/
def textsPlain (v : Value) : Bool :=
  match v.iterate with
  | .ok items => items.all plainText
  | .error _ => true

/-- 一括更新の列の指定: 名前は `plain` な文字列、宣言された型は `None` か `plain` な文字列。 -/
def specSafe : Value → Bool
  | .updateColumn name _ sqlType _ => name.plainText && sqlType.optPlain
  | _ => true

end Value

theorem Value.strs_of_plainText : ∀ {vs : List Value}, (∀ v ∈ vs, v.plainText = true) →
    ∃ ss : List String, vs = ss.map Value.str ∧ ∀ s ∈ ss, plain s = true
  | [], _ => ⟨[], rfl, by simp⟩
  | v :: vs, h => by
    obtain ⟨s, rfl, hs⟩ := Value.plainText_iff.1 (h v List.mem_cons_self)
    obtain ⟨ss, rfl, hss⟩ := Value.strs_of_plainText fun w hw => h w (List.mem_cons_of_mem _ hw)
    exact ⟨s :: ss, rfl, by simpa [hs] using hss⟩

/-- `plain` な文字列の値を `plain` な区切りで繋いだ文字列は `plain`。 -/
theorem Value.plain_joinItems {sep : String} (hsep : plain sep = true) {vs : List Value}
    (hvs : ∀ v ∈ vs, v.plainText = true) {s : String} (h : Value.joinItems sep vs = .ok s) : plain s = true := by
  obtain ⟨ss, rfl, hss⟩ := Value.strs_of_plainText hvs
  rw [Value.joinItems_strs] at h
  cases h
  exact plain_intercalate hsep hss

theorem Value.lookup_mem {k : Value} : ∀ {entries : List (Value × Value)} {v : Value},
    Value.lookup k entries = some v → ∃ k', (k', v) ∈ entries
  | [], _, h => by cases h
  | (k', v') :: rest, v, h => by
    simp only [Value.lookup] at h
    split at h
    · cases h
      exact ⟨k', List.mem_cons_self⟩
    · obtain ⟨k'', hk⟩ := Value.lookup_mem h
      exact ⟨k'', List.mem_cons_of_mem _ hk⟩

theorem Value.mem_dictSet {entries : List (Value × Value)} {k v : Value} {e : Value × Value}
    (h : e ∈ Value.dictSet entries k v) : e ∈ entries ∨ e.2 = v := by
  unfold Value.dictSet at h
  split at h
  · obtain ⟨e', he', rfl⟩ := List.mem_map.1 h
    split
    · exact .inr rfl
    · exact .inl he'
  · rcases List.mem_append.1 h with h | h
    · exact .inl h
    · rw [List.mem_singleton] at h
      exact .inr (by rw [h])

theorem foldlM_invariant_count {ε α β : Type} {P : β → Prop} {μ : β → Nat} {g : β → α → Except ε β} :
    ∀ {l : List α} {init r : β}, (∀ b a b', a ∈ l → P b → g b a = .ok b' → P b' ∧ μ b' = μ b + 1) →
      P init → l.foldlM g init = .ok r → P r ∧ μ r = μ init + l.length
  | [], _, _, _, hinit, h => by
    cases h
    exact ⟨hinit, rfl⟩
  | a :: l, _, _, hstep, hinit, h => by
    rw [List.foldlM_cons] at h
    obtain ⟨b, hb, hrest⟩ := Except.bind_eq_ok.1 h
    obtain ⟨hPb, hsize⟩ := hstep _ _ _ List.mem_cons_self hinit hb
    obtain ⟨hP, hr⟩ := foldlM_invariant_count (fun b a b' ha => hstep b a b' (List.mem_cons_of_mem _ ha)) hPb hrest
    refine ⟨hP, ?_⟩
    rw [hr, hsize, List.length_cons]
    omega

theorem mapM_ok_mem {ε α β : Type} {g : α → Except ε β} :
    ∀ {l : List α} {ys : List β}, l.mapM g = .ok ys → ∀ y ∈ ys, ∃ x ∈ l, g x = .ok y
  | [], _, h, _, hy => by
    cases h
    cases hy
  | x :: l, _, h, y, hy => by
    rw [List.mapM_cons] at h
    obtain ⟨z, hz, h⟩ := Except.bind_eq_ok.1 h
    obtain ⟨zs, hzs, h⟩ := Except.bind_eq_ok.1 h
    cases h
    rcases List.mem_cons.1 hy with rfl | hy
    · exact ⟨x, List.mem_cons_self, hz⟩
    · obtain ⟨x', hx', hgx⟩ := mapM_ok_mem hzs y hy
      exact ⟨x', List.mem_cons_of_mem _ hx', hgx⟩

theorem mapM_ok_length {ε α β : Type} {g : α → Except ε β} :
    ∀ {l : List α} {ys : List β}, l.mapM g = .ok ys → ys.length = l.length
  | [], _, h => by
    cases h
    rfl
  | _ :: _, _, h => by
    rw [List.mapM_cons] at h
    obtain ⟨_, _, h⟩ := Except.bind_eq_ok.1 h
    obtain ⟨_, hzs, h⟩ := Except.bind_eq_ok.1 h
    cases h
    simp [mapM_ok_length hzs]

theorem flatMapM_ok_mem {ε α β : Type} {g : α → Except ε (List β)} :
    ∀ {l : List α} {zs : List β}, l.flatMapM g = .ok zs → ∀ z ∈ zs, ∃ x ∈ l, ∃ ys, g x = .ok ys ∧ z ∈ ys
  | [], _, h, _, hz => by
    cases h
    cases hz
  | x :: l, _, h, z, hz => by
    rw [List.flatMapM_cons] at h
    obtain ⟨ys, hys, h⟩ := Except.bind_eq_ok.1 h
    obtain ⟨zs, hzs, h⟩ := Except.bind_eq_ok.1 h
    cases h
    rcases List.mem_append.1 hz with hz | hz
    · exact ⟨x, List.mem_cons_self, ys, hys, hz⟩
    · obtain ⟨x', hx', ys', hys', hz'⟩ := flatMapM_ok_mem hzs z hz
      exact ⟨x', List.mem_cons_of_mem _ hx', ys', hys', hz'⟩

namespace Dialect

/-- 列の指定を読むと、指定ごとに列が一つでき、印の表の値はどれも読んだ列の名前。 -/
theorem skipFlags_spec {cols : List Value} {cs : List UpdateColumn} {flags : List (Value × Value)}
    (h : skipFlags cols = .ok (cs, flags)) :
    cs.length = cols.length ∧ (∀ c ∈ cs, c.value ∈ cols) ∧ ∀ e ∈ flags, ∃ c ∈ cs, e.2 = c.name := by
  unfold skipFlags at h
  -- 一段で列を一つ足し、印の列なら印の表にその名前を置く
  have hstep : ∀ (acc : List UpdateColumn) (fl : List (Value × Value)) (v : Value)
      (b' : List UpdateColumn × List (Value × Value)), v ∈ cols →
      (∀ c ∈ acc, c.value ∈ cols) → (∀ e ∈ fl, ∃ c ∈ acc, e.2 = c.name) →
      (∃ c : UpdateColumn, c.value = v ∧ b'.1 = acc ++ [c] ∧ ∀ e ∈ b'.2, e ∈ fl ∨ e.2 = c.name) →
      ((∀ c ∈ b'.1, c.value ∈ cols) ∧ ∀ e ∈ b'.2, ∃ c ∈ b'.1, e.2 = c.name) ∧ b'.1.length = acc.length + 1 := by
    rintro acc fl v ⟨cs', fl'⟩ hv hacc hfl ⟨c, rfl, hcs', hfl'⟩
    simp only at hcs' hfl' ⊢
    subst hcs'
    refine ⟨⟨fun c' hc => ?_, fun e he => ?_⟩, by simp⟩
    · rcases List.mem_append.1 hc with hc | hc
      · exact hacc c' hc
      · rw [List.mem_singleton] at hc
        subst hc
        exact hv
    · rcases hfl' e he with he | he
      · obtain ⟨c', hc, hce⟩ := hfl e he
        exact ⟨c', List.mem_append_left _ hc, hce⟩
      · exact ⟨c, List.mem_append_right _ (List.mem_singleton_self _), he⟩
  obtain ⟨⟨hcs, hflags⟩, hlen⟩ := foldlM_invariant_count
    (P := fun b : List UpdateColumn × List (Value × Value) =>
      (∀ c ∈ b.1, c.value ∈ cols) ∧ ∀ e ∈ b.2, ∃ c ∈ b.1, e.2 = c.name)
    (μ := fun b => b.1.length) (fun ⟨acc, fl⟩ v b' hv ⟨hacc, hfl⟩ hb => by
      refine hstep acc fl v b' hv hacc hfl ?_
      simp only at hb
      split at hb
      · next name role sqlType target =>
        refine ⟨{ name, role, sqlType, target }, rfl, ?_⟩
        split at hb
        · obtain ⟨_, _, hpure⟩ := Except.bind_eq_ok.1 hb
          cases hpure
          exact ⟨rfl, fun e he => Value.mem_dictSet he⟩
        · cases hb
          exact ⟨rfl, fun e he => .inl he⟩
      · cases hb) ⟨by simp, by simp⟩ h
  exact ⟨by simpa using hlen, hcs, hflags⟩

theorem plain_typeOf (v : Value) : plain (arrayType.typeOf v) = true := by
  cases v <;> simp only [arrayType.typeOf] <;> (try split) <;> decide

/-- 配列の要素の型は、宣言された型か値から決めた型で、どちらも `plain`。 -/
theorem plain_arrayType {sqlType values column t : Value} (ht : sqlType.optPlain = true)
    (h : arrayType sqlType values column = .ok t) : plain t.text = true := by
  unfold arrayType at h
  split at h
  · next htruthy =>
    cases h
    cases sqlType <;> simp_all [Value.optPlain, Value.text, Value.truthy]
  · obtain ⟨items, _, h⟩ := Except.bind_eq_ok.1 h
    split at h
    · cases h
      exact plain_typeOf _
    · cases h

theorem columnArrays_length {cols : List UpdateColumn} {rows : List Value} {arrays : List (List Value)}
    (h : columnArrays cols rows = .ok arrays) : arrays.length = cols.length := by
  unfold columnArrays at h
  refine foldlM_invariant (P := fun a : List (List Value) => a.length = cols.length) ?_ (by simp) h
  intro a row a' _ ha hstep
  obtain ⟨items, _, hstep⟩ := Except.bind_eq_ok.1 hstep
  refine foldlM_invariant (P := fun a : List (List Value) => a.length = cols.length) ?_ ha hstep
  intro b ⟨v, i⟩ b' _ hb hstep'
  simp only at hstep'
  split at hstep'
  · cases hstep'
  · -- 値を一つ、番号 `i` の配列に足す
    have hmod : ∃ x, b' = b.modify i fun xs => xs ++ [x] := by
      split at hstep'
      · exact ⟨v, by cases hstep'; rfl⟩
      · obtain ⟨x, _, hx⟩ := Except.bind_eq_ok.1 hstep'
        cases hx
        exact ⟨x, rfl⟩
    obtain ⟨x, rfl⟩ := hmod
    rw [List.length_modify, hb]

theorem plain_setList {cols : List UpdateColumn} {term : UpdateColumn → Except Fault String}
    (hterm : ∀ c ∈ cols, ∀ s, term c = .ok s → plain s = true) {s : String} (h : setList cols term = .ok s) :
    plain s = true := by
  unfold setList at h
  obtain ⟨terms, hterms, h⟩ := Except.bind_eq_ok.1 h
  cases h
  apply plain_intercalate (by decide)
  intro t ht
  obtain ⟨c, hc, hct⟩ := mapM_ok_mem hterms t ht
  exact hterm c (List.mem_filter.1 hc).1 t hct

theorem plain_joinOnKeys {table keys : Value} (htable : table.plainText = true) (hkeys : keys.textsPlain = true)
    {s : String} (h : joinOnKeys table keys = .ok s) : plain s = true := by
  obtain ⟨t, rfl, ht⟩ := Value.plainText_iff.1 htable
  unfold joinOnKeys at h
  obtain ⟨ks, hks, h⟩ := Except.bind_eq_ok.1 h
  cases h
  simp only [Value.textsPlain, hks, List.all_eq_true] at hkeys
  apply plain_intercalate (by decide)
  intro c hc
  obtain ⟨k, hk, rfl⟩ := List.mem_map.1 hc
  obtain ⟨n, rfl, hn⟩ := Value.plainText_iff.1 (hkeys k hk)
  simp only [Value.text]
  exact plain_append_of (plain_append_of (plain_append_of (plain_append_of ht (by decide)) hn) (by decide)) hn

/-! ## 印の並び -/

section Marks

variable {f : Nat → String}

theorem Chain.marks (f : Nat → String) (s : Nat) : ∀ n, Chain (Text f) s (s + n)
    ((List.range n).map fun _ => "?") ((List.range n).map fun j => f (s + j))
  | 0 => .nil s
  | n + 1 => by
    rw [List.range_succ, List.map_append, List.map_append]
    exact Chain.append (Chain.marks f s n) (.cons (Text.mark (s + n)) (.nil _))

theorem rowMarks_text (f : Nat → String) (w r : Nat) :
    Text f (r * w) (r * w + w) (rowMarks (fun _ => "?") w r) (rowMarks f w r) :=
  (Chain.marks f (r * w) w).intercalate (by decide)

/-- 行ごとの印の並び: `i` 番目からの行は、番号 `i * w` からの印を行ごとに `w` 個ずつ書く。 -/
theorem Chain.rows {α : Type} {w : Nat} {u v : α × Nat → String}
    (hg : ∀ x r, Text f (r * w) (r * w + w) (u (x, r)) (v (x, r))) :
    ∀ (l : List α) (i : Nat), Chain (Text f) (i * w) ((i + l.length) * w) ((l.zipIdx i).map u)
      ((l.zipIdx i).map v)
  | [], i => by simpa using Chain.nil (R := Text f) (i * w)
  | x :: l, i => by
    have hrest := Chain.rows hg l (i + 1)
    rw [Nat.succ_mul, show i + 1 + l.length = i + (l.length + 1) by omega] at hrest
    simpa [List.zipIdx_cons] using Chain.cons (hg x i) hrest

theorem Agree.zipIdx_mapM {α : Type} {g g' : α × Nat → Except Fault String} :
    ∀ {l : List α}, (∀ x ∈ l, ∀ i, Agree (Text f i (i + 1)) (g (x, i)) (g' (x, i))) →
      ∀ i, Agree (Chain (Text f) i (i + l.length)) ((l.zipIdx i).mapM g) ((l.zipIdx i).mapM g')
  | [], _, i => by simpa using Agree.pure (Chain.nil (R := Text f) i)
  | x :: l, hg, i => by
    simp only [List.zipIdx_cons, List.mapM_cons]
    refine Agree.bind (hg x List.mem_cons_self i) fun a b hab =>
      Agree.bind (Agree.zipIdx_mapM (fun y hy => hg y (List.mem_cons_of_mem _ hy)) (i + 1)) fun as bs has =>
        Agree.pure ?_
    rw [show i + (x :: l).length = i + 1 + l.length by simp; omega]
    exact Chain.cons hab has

end Marks

/-- 行ごとの値を繋いだ並びの長さ: どの行も `w` 個なら、行の数の `w` 倍。 -/
theorem flatMapM_ok_length {g : Value → Except Fault (List Value)} {w : Nat} :
    ∀ {l : List Value} {zs : List Value}, (∀ x ∈ l, ∀ ys, g x = .ok ys → ys.length = w) →
      l.flatMapM g = .ok zs → zs.length = l.length * w
  | [], _, _, h => by
    cases h
    simp
  | x :: l, _, hg, h => by
    rw [List.flatMapM_cons] at h
    obtain ⟨ys, hys, h⟩ := Except.bind_eq_ok.1 h
    obtain ⟨zs, hzs, h⟩ := Except.bind_eq_ok.1 h
    cases h
    rw [List.length_append, hg x List.mem_cons_self ys hys,
      flatMapM_ok_length (fun y hy => hg y (List.mem_cons_of_mem _ hy)) hzs, List.length_cons, Nat.succ_mul]
    omega

/-- 代入の右辺は、表と列の名前と印の列の名前が `plain` なら `plain`。 -/
theorem plain_assignment {table : Value} (htable : table.plainText = true) {c : UpdateColumn}
    (hc : c.name.plainText = true) {flag : Value} (hflag : flag = .none ∨ flag.plainText = true) :
    plain (assignment table c flag) = true := by
  obtain ⟨t, rfl, ht⟩ := Value.plainText_iff.1 htable
  obtain ⟨n, hn, hnp⟩ := Value.plainText_iff.1 hc
  unfold assignment
  rw [hn]
  split
  · exact plain_append_of (by decide) hnp
  · next hnone =>
    obtain ⟨g, rfl, hg⟩ := Value.plainText_iff.1 (hflag.resolve_left hnone)
    simp only [Value.text]
    exact plain_append_of (plain_append_of (plain_append_of (plain_append_of (plain_append_of (plain_append_of
      (plain_append_of (plain_append_of (by decide) hg) (by decide)) ht) (by decide)) hnp) (by decide)) hnp)
      (by decide)

theorem flagOf_cases {flags : List (Value × Value)} (hflags : ∀ e ∈ flags, e.2.plainText = true) {name flag : Value}
    (h : flagOf flags name = .ok flag) : flag = .none ∨ flag.plainText = true := by
  unfold flagOf at h
  obtain ⟨_, _, h⟩ := Except.bind_eq_ok.1 h
  cases h
  cases hl : Value.lookup name flags with
  | none => exact .inl rfl
  | some v =>
    obtain ⟨k, hk⟩ := Value.lookup_mem hl
    exact .inr (hflags _ hk)

/-- 行ごとの値の印を括弧で囲んで繋いだもの: 行ごとに `w` 個、番号は 0 から。 -/
theorem values_text {α : Type} (f : Nat → String) (w : Nat) (pre : String) (hpre : plain pre = true)
    (l : List α) :
    Text f 0 (l.length * w) (", ".intercalate (l.zipIdx.map fun x => pre ++ rowMarks (fun _ => "?") w x.2 ++ ")"))
      (", ".intercalate (l.zipIdx.map fun x => pre ++ rowMarks f w x.2 ++ ")")) := by
  have hrows := Chain.rows (w := w) (u := fun x => pre ++ rowMarks (fun _ => "?") w x.2 ++ ")")
    (v := fun x => pre ++ rowMarks f w x.2 ++ ")")
    (fun _ r => (Text.plain_append hpre (rowMarks_text f w r)).append_plain (by decide)) l 0
  rw [Nat.zero_mul, Nat.zero_add] at hrows
  exact hrows.intercalate (by decide)

theorem plain_qualified {t : String} (ht : plain t = true) {items : List Value}
    (h : ∀ r ∈ items, r.plainText = true) :
    plain (", ".intercalate (items.map fun r => t ++ "." ++ r.text)) = true := by
  apply plain_intercalate (by decide)
  intro c hc
  obtain ⟨r, hr, rfl⟩ := List.mem_map.1 hc
  obtain ⟨n, rfl, hn⟩ := Value.plainText_iff.1 (h r hr)
  exact plain_append_of (plain_append_of ht (by decide)) hn

theorem updateMany_agree (d : Dialect) {table : Value} (htable : table.plainText = true) {cols : List Value}
    (hcols : cols.all Value.specSafe = true) {keys : Value} (hkeys : keys.textsPlain = true) {rows : Value}
    (hrows : ∀ rowList, rows.iterate = .ok rowList → ∀ row ∈ rowList, ∀ xs, row.iterate = .ok xs →
      xs.length = cols.length)
    {returning : Value} (hret : returning.textsPlain = true) (f : Nat → String) :
    Agree (fun a b => Text f 0 a.params.length a.sql b.sql ∧ b.params = a.params)
      (d.updateMany table cols keys rows returning) (d.updateMany table cols keys rows returning f) := by
  obtain ⟨t, rfl, htp⟩ := Value.plainText_iff.1 htable
  unfold Dialect.updateMany
  refine Agree.bind_same _ fun ⟨cs, flags⟩ hskip => ?_
  obtain ⟨hlen, hvals, hflagNames⟩ := skipFlags_spec hskip
  have hcs : ∀ c ∈ cs, c.name.plainText = true ∧ c.sqlType.optPlain = true := by
    intro c hc
    have hspec := List.all_eq_true.1 hcols _ (hvals c hc)
    simpa [UpdateColumn.value, Value.specSafe] using hspec
  have hflags : ∀ e ∈ flags, e.2.plainText = true := by
    intro e he
    obtain ⟨c, hc, hce⟩ := hflagNames e he
    rw [hce]
    exact (hcs c hc).1
  have hnames : ∀ {s}, Value.joinItems ", " (cs.map (·.name)) = .ok s → plain s = true := fun h =>
    Value.plain_joinItems (by decide) (fun v hv => by
      obtain ⟨c, hc, rfl⟩ := List.mem_map.1 hv
      exact (hcs c hc).1) h
  -- 代入の一項 `列 = 右辺`（PostgreSQL と SQLite）
  have hassign : ∀ c ∈ cs, ∀ s, (do
      let flag ← flagOf flags c.name
      Pure.pure (c.name.text ++ " = " ++ assignment (.str t) c flag) : Except Fault String) = .ok s →
      plain s = true := by
    intro c hc s hs
    obtain ⟨flag, hflag, hs⟩ := Except.bind_eq_ok.1 hs
    cases hs
    obtain ⟨n, hn, hnp⟩ := Value.plainText_iff.1 (hcs c hc).1
    rw [hn]
    exact plain_append_of (plain_append_of hnp (by decide))
      (plain_assignment htable (hcs c hc).1 (flagOf_cases hflags hflag))
  -- 行ごとに並べた値の数（MySQL と SQLite）
  have hcount : ∀ (d' : Dialect) {rowList params : List Value}, rows.iterate = .ok rowList →
      rowList.flatMapM (fun row => do
        let xs ← row.iterate
        xs.mapM d'.adaptParam) = .ok params → params.length = rowList.length * cs.length := by
    intro d' rowList params hrowList h
    refine flatMapM_ok_length (fun row hrow ys hys => ?_) h
    obtain ⟨xs, hxs, hys⟩ := Except.bind_eq_ok.1 hys
    rw [mapM_ok_length hys, hrows rowList hrowList row hrow xs hxs, hlen]
  cases d
  · dsimp -zeta only
    refine Agree.bind_same _ fun rowList hrowList => ?_
    refine Agree.bind_same _ fun arrays harrays => ?_
    -- `i` 番目の配列の印を `UNNEST` の `i` 番目の項に書く
    refine Agree.bind (Agree.zipIdx_mapM (f := f) (fun c hc i => ?_) 0) fun casts casts' hcasts => ?_
    · dsimp only
      refine Agree.bind_same _ fun ty hty => Agree.pure ?_
      exact (((Text.mark i).append_plain (by decide)).append_plain (plain_arrayType (hcs c hc).2 hty)).append_plain
        (by decide)
    refine Agree.bind_same _ fun sets hsets => ?_
    refine Agree.bind_same _ fun names hnames' => ?_
    refine Agree.bind_same _ fun join hjoin => ?_
    extract_lets sql jp sql'
    have hsetsPlain : plain sets = true := plain_setList hassign hsets
    have hsql : Text f 0 (0 + cs.length) sql sql' := by
      simp only [sql, sql', Value.text]
      have hpre : plain ("UPDATE " ++ t ++ " SET " ++ sets ++ " FROM UNNEST(") = true :=
        plain_append_of (plain_append_of (plain_append_of (plain_append_of (by decide) htp) (by decide))
          hsetsPlain) (by decide)
      exact (((Text.plain_append hpre (hcasts.intercalate (by decide))).append_plain (by decide)).append_plain
        (hnames hnames')).append_plain (by decide) |>.append_plain (plain_joinOnKeys htable hkeys hjoin)
    have hparams : (arrays.map Value.list).length = 0 + cs.length := by
      rw [List.length_map, columnArrays_length harrays, Nat.zero_add]
    split
    · refine Agree.bind_same _ fun items hitems => ?_
      simp only [pure_bind, jp]
      refine Agree.pure ⟨?_, rfl⟩
      simp only [Value.textsPlain, hitems, List.all_eq_true] at hret
      simp only [hparams, Value.text]
      exact (hsql.append_plain (by decide)).append_plain (plain_qualified htp hret)
    · simp only [pure_bind, jp]
      exact Agree.pure ⟨by rw [hparams]; exact hsql, rfl⟩
  · dsimp -zeta only
    refine Agree.bind_same _ fun rowList hrowList => ?_
    extract_lets values values'
    have hvalues : Text f 0 (rowList.length * cs.length) values values' :=
      values_text f cs.length "ROW(" (by decide) rowList
    refine Agree.bind_same _ fun names hnames' => ?_
    refine Agree.bind_same _ fun join hjoin => ?_
    refine Agree.bind_same _ fun sets hsets => ?_
    refine Agree.bind_same _ fun params hparams => Agree.pure ⟨?_, rfl⟩
    -- 代入の一項 `表.列 = 右辺`: 印の列があれば `IF` で今の値を保つ
    have hsetsPlain : plain sets = true := by
      refine plain_setList (fun c hc s hs => ?_) hsets
      obtain ⟨_, _, hs⟩ := Except.bind_eq_ok.1 hs
      cases hs
      obtain ⟨n, hn, hnp⟩ := Value.plainText_iff.1 (hcs c hc).1
      simp only [hn, Value.text]
      refine plain_append_of (plain_append_of (plain_append_of (plain_append_of htp (by decide)) hnp)
        (by decide)) ?_
      split
      · next g hg =>
        obtain ⟨k, hk⟩ := Value.lookup_mem hg
        obtain ⟨gs, rfl, hgs⟩ := Value.plainText_iff.1 (hflags _ hk)
        simp only [Value.text]
        exact plain_append_of (plain_append_of (plain_append_of (plain_append_of (plain_append_of (plain_append_of
          (plain_append_of (plain_append_of (by decide) hgs) (by decide)) htp) (by decide)) hnp) (by decide)) hnp)
          (by decide)
      · exact plain_append_of (by decide) hnp
    simp only [Value.text]
    rw [hcount .mysql hrowList hparams]
    have hpre : plain ("UPDATE " ++ t ++ " JOIN (VALUES ") = true :=
      plain_append_of (plain_append_of (by decide) htp) (by decide)
    exact (((((Text.plain_append hpre hvalues).append_plain (by decide)).append_plain (hnames hnames')).append_plain
      (by decide)).append_plain (plain_joinOnKeys htable hkeys hjoin) |>.append_plain (by decide)).append_plain
      hsetsPlain
  · dsimp -zeta only
    refine Agree.bind_same _ fun rowList hrowList => ?_
    extract_lets values jp values'
    have hvalues : Text f 0 (rowList.length * cs.length) values values' :=
      values_text f cs.length "(" (by decide) rowList
    refine Agree.bind_same _ fun names hnames' => ?_
    refine Agree.bind_same _ fun sets hsets => ?_
    refine Agree.bind_same _ fun join hjoin => ?_
    extract_lets sql sql'
    have hsql : Text f 0 (rowList.length * cs.length) sql sql' := by
      simp only [sql, sql', Value.text]
      have hpre : plain ("WITH v(" ++ names ++ ") AS (VALUES ") = true :=
        plain_append_of (plain_append_of (by decide) (hnames hnames')) (by decide)
      exact ((((Text.plain_append hpre hvalues).append_plain (by decide)).append_plain htp).append_plain
        (by decide)).append_plain (plain_setList hassign hsets) |>.append_plain (by decide) |>.append_plain
        (plain_joinOnKeys htable hkeys hjoin)
    -- 値の並びは文の後で作る: 文がどちらでも同じ
    have hjp : ∀ {a b : String}, Text f 0 (rowList.length * cs.length) a b →
        Agree (fun a b => Text f 0 a.params.length a.sql b.sql ∧ b.params = a.params) (jp a) (jp b) := by
      intro a b hab
      simp only [jp]
      refine Agree.bind_same _ fun params hparams => Agree.pure ⟨?_, rfl⟩
      rw [hcount .sqlite hrowList hparams]
      exact hab
    split
    · refine Agree.bind_same _ fun r hr => ?_
      simp only [pure_bind]
      refine hjp ((hsql.append_plain (by decide)).append_plain ?_)
      unfold Value.join at hr
      split at hr
      · next items hitems =>
        simp only [Value.textsPlain, hitems, List.all_eq_true] at hret
        exact Value.plain_joinItems (by decide) hret hr
      · cases hr
    · simp only [pure_bind]
      exact hjp hsql

end Dialect

/-! ## 一括更新の文 -/

/-- 列の宣言された型に、囲みの外の印も開いたままの囲みもない。 -/
def Column.typeSafe (c : Column) : Bool := c.sqlType.all plain

namespace Value

/-- 列の値ならその列の型が安全。 -/
def typeSafe : Value → Bool
  | .column c => c.typeSafe
  | _ => true

/-- 書き込む値の組のキーの列の型が安全。 -/
def rowTyped (values : Value) : Bool :=
  match values.rowItems with
  | .ok items => items.all fun item => match item with
    | .tuple [k, _] => k.typeSafe
    | _ => true
  | .error _ => true

end Value

theorem Meta.typeSafe_own {m : Meta} (hm : m.columns.all Column.typeSafe = true) {key : Value}
    (hkey : key.typeSafe = true) {c : Column} (h : m.own key = .ok c) : c.typeSafe = true := by
  unfold Meta.own at h
  split at h
  · exact List.all_eq_true.1 hm c (Meta.mem_of_column h)
  · split at h
    · cases h
      exact hkey
    · cases h
  · cases h

theorem Meta.normalizeRow_columns {m : Meta} (hm : m.safe = true) (htypes : m.columns.all Column.typeSafe = true)
    {values : Value} (hv : values.rowSafe = true) (hvt : values.rowTyped = true) {keep : Bool} {row : Row}
    (h : m.normalizeRow values keep = .ok row) : ∀ p ∈ row, plain p.1.name = true ∧ p.1.typeSafe = true := by
  obtain ⟨items, hitems, horigin⟩ := Meta.normalizeRow_origin h
  simp only [Value.rowSafe, hitems, List.all_eq_true] at hv
  simp only [Value.rowTyped, hitems, List.all_eq_true] at hvt
  intro p hp
  obtain ⟨key, hitem, hown⟩ := horigin p hp
  have hpair := hv _ hitem
  simp only [Bool.and_eq_true] at hpair
  exact ⟨Meta.plain_own hm hpair.1 hown, Meta.typeSafe_own htypes (hvt _ hitem) hown⟩

theorem Column.optPlain_textValue {c : Column} (h : c.typeSafe = true) :
    (Fault.textValue c.sqlType).optPlain = true := by
  unfold Column.typeSafe at h
  cases hs : c.sqlType with
  | none => rfl
  | some t => simpa [hs, Fault.textValue, Value.optPlain] using h

/-- モデルの列から作る一括更新の列の指定は、列の名前が `plain` で型が安全なら安全。 -/
theorem Column.specSafe_updateColumn (d : Dialect) {c : Column} (hname : plain c.name = true)
    (htype : c.typeSafe = true) (role : Value) :
    (Value.updateColumn (.str (d.identifier c.name)) role (Fault.textValue c.sqlType) .none).specSafe = true := by
  simp only [Value.specSafe, Value.plainText, Dialect.plain_identifier d hname, Column.optPlain_textValue htype,
    Bool.and_self]

/-- 名前が `plain` な列の識別子の並びは、`plain` な文字列の並び。 -/
theorem Column.textsPlain_identifiers (d : Dialect) {cs : List Column} (h : ∀ c ∈ cs, plain c.name = true) :
    (Value.list (cs.map fun c => .str (d.identifier c.name))).textsPlain = true := by
  simp only [Value.textsPlain, Value.iterate, List.all_map, List.all_eq_true, Function.comp_apply, Value.plainText]
  exact fun c hc => Dialect.plain_identifier d (h c hc)

/-- 一括更新の文: モデル、書き込む値の組、鍵の列の名前と型が安全なら、印を `?` で書いた文と `f` で
書いた文は、印の番号のほかは同じ。鍵の列、書く列、飛ばす印の列の指定を作り、方言の一括更新に渡す。 -/
theorem Statement.updateMany_agree {d : Dialect} {m : Meta} (hm : m.safe = true)
    (htypes : m.columns.all Column.typeSafe = true) {rows : List Value}
    (hrows : ∀ r ∈ rows, r.rowSafe = true ∧ r.rowTyped = true) {keyColumns : List Value}
    (hkeys : ∀ k ∈ keyColumns, k.nameSafe = true ∧ k.typeSafe = true) (opts : WriteOptions) (f : Nat → String) :
    Agree (fun a b => Text f 0 a.params.length a.sql b.sql ∧ b.params = a.params)
      (Statement.updateMany d m rows keyColumns opts) (Statement.updateMany d m rows keyColumns opts f) := by
  unfold Statement.updateMany
  refine Agree.bind_same _ fun _ _ => ?_
  extract_lets name text returning jp jp'
  have hjp : Agree (fun a b => Text f 0 a.params.length a.sql b.sql ∧ b.params = a.params) (jp ()) (jp' ()) := by
    simp only [jp, jp']
    refine Agree.bind_same _ fun keys hresolve => ?_
    unfold Meta.resolveColumns at hresolve
    split
    · exact Agree.throw_bind _ _ _ _
    refine Agree.bind_same _ fun normalized hnorm => ?_
    refine Agree.bind_same _ fun ⟨sets, skips⟩ hfold => ?_
    split
    · exact Agree.throw_bind _ _ _ _
    -- 鍵の列と書く列は、名前が `plain` で型が安全
    have hkeyCols : ∀ k ∈ keys, plain k.name = true ∧ k.typeSafe = true := by
      intro k hk
      obtain ⟨key, hkey, hown⟩ := mapM_ok_mem hresolve k hk
      exact ⟨Meta.plain_own hm (hkeys key hkey).1 hown, Meta.typeSafe_own htypes (hkeys key hkey).2 hown⟩
    have hrowCols : ∀ row ∈ normalized, ∀ p ∈ row, plain p.1.name = true ∧ p.1.typeSafe = true := by
      intro row hrow
      obtain ⟨r, hr, hnr⟩ := mapM_ok_mem hnorm row hrow
      exact Meta.normalizeRow_columns hm htypes (hrows r hr).1 (hrows r hr).2 hnr
    -- 書く列は行ごと、組ごとの畳み込みで、行の列を足して作る
    have hsets : ∀ c ∈ sets, plain c.name = true ∧ c.typeSafe = true := by
      refine foldlM_invariant
        (P := fun acc : List Column × List Column => ∀ c ∈ acc.1, plain c.name = true ∧ c.typeSafe = true)
        ?_ (fun _ h => absurd h List.not_mem_nil) hfold
      intro acc row acc' hrow hacc hstep
      obtain ⟨_, -, hinner⟩ := Except.bind_eq_ok.1 hstep
      refine foldlM_invariant
        (P := fun acc : List Column × List Column => ∀ c ∈ acc.1, plain c.name = true ∧ c.typeSafe = true)
        ?_ hacc hinner
      intro b p b' hp hb hb'
      have hgrow : ∀ c ∈ b'.1, c ∈ b.1 ∨ c = p.1 := by
        split at hb'
        · cases hb'
          exact fun c hc => .inl hc
        split at hb'
        · cases hb'
          exact fun c hc => .inl hc
        split at hb'
        · cases hb'
        cases hb'
        intro c hc
        split at hc
        · exact .inl hc
        · rcases List.mem_append.1 hc with hc | hc
          · exact .inl hc
          · exact .inr (List.mem_singleton.1 hc)
      intro c hc
      rcases hgrow c hc with hc | rfl
      · exact hb c hc
      · exact hrowCols row hrow p hp
    refine Dialect.updateMany_agree d ?_ ?_ ?_ ?_ ?_ f
    · exact Value.plainText_iff.2 ⟨_, rfl, Dialect.plain_identifier d (Meta.plain_writeTable hm)⟩
    · simp only [List.all_append, List.all_map, Bool.and_eq_true, List.all_eq_true, Function.comp_apply]
      refine ⟨⟨fun k hk => Column.specSafe_updateColumn d (hkeyCols k hk).1 (hkeyCols k hk).2 _,
        fun c hc => Column.specSafe_updateColumn d (hsets c hc).1 (hsets c hc).2 _⟩, fun c hc => ?_⟩
      -- 飛ばす印の列: 名前は列の名前に `_skip_` を前置したもの、型は boolean
      show (plain ("_skip_" ++ c.name) && plain "boolean") = true
      rw [plain_append_of (by decide) (hsets c (List.mem_filter.1 hc).1).1]
      decide
    · exact Column.textsPlain_identifiers d fun k hk => (hkeyCols k hk).1
    · -- 値の行は、鍵の列、書く列、飛ばす印の列の順に一つずつ
      intro rowList hl row hrow xs hxs
      cases hl
      obtain ⟨r, hr, rfl⟩ := List.mem_map.1 hrow
      cases hxs
      obtain ⟨nr, -, rfl⟩ := List.mem_map.1 hr
      simp only [List.length_append, List.length_map]
    · simp only [returning]
      split
      · exact Column.textsPlain_identifiers d fun k hk => Meta.plain_column hm (List.mem_filter.1 hk).1
      · rfl
  split
  · exact Agree.throw_bind _ _ _ _
  · exact hjp

/-- 印を `?` で書いた文と `f` で書いた文が印の番号のほかは同じなら、`?` の文の印は値と同じ数で、
`f` の文はその印を番号順に書き直したもの。 -/
theorem Agree.statement {x : Except Fault Statement} {y : (Nat → String) → Except Fault Statement}
    (h : ∀ f, Agree (fun a b => Text f 0 a.params.length a.sql b.sql ∧ b.params = a.params) x (y f))
    {st : Statement} (hst : x = .ok st) :
    countMarkers st.sql = st.params.length ∧ ∀ f, y f = .ok ⟨renumber f 0 st.sql, st.params⟩ := by
  refine ⟨?_, fun f => ?_⟩
  · obtain ⟨_, -, ⟨-, hcount, -⟩, -⟩ := h (fun _ => "?") st hst
    omega
  · obtain ⟨b, hb, ⟨-, -, hsql⟩, hparams⟩ := h f st hst
    rw [hb, ← hsql, ← hparams]

end DataAccess
