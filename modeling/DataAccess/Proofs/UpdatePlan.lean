import DataAccess.Proofs.InsertValues
/-!
# 一括更新の計画

一括更新は、照合の列 `keys`、書く列 `planSets`、飛ばす印を持つ列 `planFlagged` の指定（`updateSpec`）と、
入力の行ごとの値の並び（`updateRow`: 照合の列の値、書く列の値、飛ばす印の順）を方言の一括更新に渡す。

* 書く列は、どれかの行が照合の列でない列に `SKIP` でない値を与えた列を、最初に現れた順に一度ずつ並べた
  もの。飛ばす印を持つのは、そのうちどれかの行が `SKIP` を与えた列。
* 計画の一行は、照合の列の値が表の行と等しい行に当たり（`planMatches`）、書く列を、印が真なら今の値の
  まま、ほかは計画の値にする（`planApply`）。
* 計画の意味は、入力の行ごとの更新（`Row.update`）と同じ: 行が値を与えた列はその値（`None` と `NULL` は
  NULL）、`SKIP` を与えた列は今の値、与えなかった列は NULL、書く列でない列はそのまま。
-/

namespace DataAccess

/-! ## 計画 -/

def Value.isSkip : Value → Bool
  | .marker .skip => true
  | _ => false

/-- 照合の列に値を与えたか: 与えないか、`None`、`SKIP`、`NULL` なら与えていない。 -/
def keyGiven : Option Value → Bool
  | none | some .none | some (.marker .skip) | some (.marker .null) => false
  | some _ => true

/-- 行の項のうち、照合の列でない列に `SKIP` でない値を与えた項の列。 -/
def setsOf (keys : List Column) (row : Row) : List Column :=
  (row.filter fun p => !keys.any (·.same p.1) && !p.2.isSkip).map (·.1)

/-- 行の項のうち、照合の列でない列に `SKIP` を与えた項の列。 -/
def skipsOf (keys : List Column) (row : Row) : List Column :=
  (row.filter fun p => !keys.any (·.same p.1) && p.2.isSkip).map (·.1)

/-- 書く列: どれかの行が照合の列でない列に `SKIP` でない値を与えた列を、最初に現れた順に一度ずつ。 -/
def planSets (keys : List Column) (normalized : List Row) : List Column :=
  firstNamed (normalized.flatMap (setsOf keys))

/-- 飛ばす印を持つ列: 書く列のうち、どれかの行が `SKIP` を与えた列。 -/
def planFlagged (keys : List Column) (normalized : List Row) : List Column :=
  (planSets keys normalized).filter fun c => (normalized.flatMap (skipsOf keys)).any (·.same c)

example : (planFlagged [Session.accountId]
    [[(Session.accountId, .int 1), (Session.accountName, .str "a")],
      [(Session.accountId, .int 2), (Session.accountName, .marker .skip)]]).map (·.name) = ["name"] := by
  rfl

/-- 書く列の値: `SKIP` と `NULL` と与えないときは NULL（`None`）、ほかは与えた値。 -/
def setCell : Option Value → Value
  | some (.marker .skip) | some (.marker .null) | none => .none
  | some v => v

/-- 飛ばす印: 行がその列に `SKIP` を与えたか。 -/
def skipFlag : Option Value → Bool
  | some (.marker .skip) => true
  | _ => false

/-- 計画の一行: 照合の列の値、書く列の値、飛ばす印の順。 -/
def updateRow (keys sets flagged : List Column) (row : Row) : List Value :=
  keys.map (fun k => (row.get? k).getD .none) ++ sets.map (fun c => setCell (row.get? c)) ++
    flagged.map fun f => .bool (skipFlag (row.get? f))

/-- 方言に渡す列の指定: 照合の列、書く列、飛ばす印の列（名前は `_skip_` を前置し、型は boolean、
印を当てる列の名前を持つ）の順。 -/
def updateSpec (d : Dialect) (keys sets flagged : List Column) : List Value :=
  keys.map (fun k => .updateColumn (.str (d.identifier k.name)) (.str "key") (Fault.textValue k.sqlType) .none) ++
    sets.map (fun c => .updateColumn (.str (d.identifier c.name)) (.str "set") (Fault.textValue c.sqlType) .none) ++
    flagged.map fun f => .updateColumn (.str ("_skip_" ++ f.name)) (.str "skip") (.str "boolean")
      (.str (d.identifier f.name))

/-- `RETURNING` で返す列の名前（方言が返せて、主キーがあり、求められたときだけ）。 -/
def returningNames (d : Dialect) (m : Meta) (wanted : Value) : Value :=
  if wanted.truthy && d.supportsReturning && !m.primaryKey.isEmpty then
    .list (m.primaryKey.map fun k => .str (d.identifier k.name))
  else .none

/-! ## 計画の意味 -/

/-- 表の行: 列の名前ごとの値。 -/
abbrev TableRow := String → Value

/-- 計画の一行 `vrow` が表の行 `t` に当たる: 照合の列ごとに、表の値と計画の値が `eq` で等しい。 -/
def planMatches (eq : Value → Value → Prop) (keys : List Column) (vrow : List Value) (t : TableRow) : Prop :=
  List.Forall₂ (fun k x => eq (t k.name) x) keys (vrow.take keys.length)

def flagTrue : Option Value → Bool
  | some (.bool true) => true
  | _ => false

/-- 書く列 `c` の飛ばす印が計画の一行で真か（印を持たない列は偽）。 -/
def flagOn (keys sets flagged : List Column) (vrow : List Value) (c : Column) : Bool :=
  match flagged.zipIdx.find? fun p => p.1.same c with
  | some p => flagTrue vrow[keys.length + sets.length + p.2]?
  | none => false

/-- 計画の一行を当てた後の表の行: 書く列は、印が真なら今の値のまま、ほかは計画の値。ほかの列はそのまま。 -/
def planApply (keys sets flagged : List Column) (vrow : List Value) (t : TableRow) : TableRow := fun n =>
  match sets.zipIdx.find? fun p => p.1.name == n with
  | some p => if flagOn keys sets flagged vrow p.1 then t n else vrow[keys.length + p.2]?.getD .none
  | none => t n

/-- 入力の行が表の行に当たる: 照合の列ごとに、表の値と行が与えた値が `eq` で等しい。 -/
def Row.keysMatch (eq : Value → Value → Prop) (keys : List Column) (row : Row) (t : TableRow) : Prop :=
  ∀ k ∈ keys, eq (t k.name) ((row.get? k).getD .none)

/-- 行が列 `c` に与えたものを書いた後の値: `SKIP` なら今の値、`NULL` と与えないときは NULL、ほかは
与えた値（`None` は NULL）。 -/
def Row.written (row : Row) (c : Column) (current : Value) : Value :=
  match row.get? c with
  | some (.marker .skip) => current
  | some (.marker .null) | none => .none
  | some v => v

/-- 入力の行で表の行を更新する: 書く列には行が与えたものを書き、ほかの列はそのまま。 -/
def Row.update (sets : List Column) (row : Row) (t : TableRow) : TableRow := fun n =>
  match sets.find? fun c => c.name == n with
  | some c => row.written c (t n)
  | none => t n

/-- 表 `T` が `T'` になる: 当たる行がない表の行はそのまま、当たる行があればその行で更新したもの。 -/
def UpdatesBy {ρ : Type} (hits : ρ → TableRow → Prop) (apply : ρ → TableRow → TableRow) (rs : List ρ)
    (T T' : List TableRow) : Prop :=
  List.Forall₂ (fun t t' => ((∀ r ∈ rs, ¬ hits r t) ∧ t' = t) ∨ ∃ r ∈ rs, hits r t ∧ t' = apply r t) T T'

/-! ## 計画の一行の意味 -/

theorem Column.same_comm (a b : Column) : a.same b = b.same a := by
  rw [Bool.eq_iff_iff]
  simp only [Column.same, Bool.and_eq_true, beq_iff_eq]
  exact ⟨fun h => ⟨h.1.symm, h.2.symm⟩, fun h => ⟨h.1.symm, h.2.symm⟩⟩

theorem Column.same_congr_right {a b : Column} (h : a.same b = true) (k : Column) : k.same a = k.same b := by
  cases hka : k.same a with
  | true => exact (Column.same_trans hka h).symm
  | false =>
    cases hkb : k.same b with
    | true => rw [← hka, Column.same_trans hkb (by rw [Column.same_comm]; exact h)]
    | false => rfl

theorem Row.get?_congr (row : Row) {a b : Column} (h : a.same b = true) : row.get? a = row.get? b := by
  simp only [Row.get?, Column.same_congr_right h]

theorem find?_zipIdx {α : Type} (P : α → Bool) :
    ∀ (l : List α) (k : Nat), ((l.zipIdx k).find? fun p => P p.1).map (·.1) = l.find? P
  | [], _ => rfl
  | a :: l, k => by
    simp only [List.zipIdx_cons, List.find?_cons]
    cases P a with
    | true => rfl
    | false => exact find?_zipIdx P l (k + 1)

theorem getElem?_of_find?_zipIdx {α : Type} {P : α × Nat → Bool} {l : List α} {p : α × Nat}
    (h : l.zipIdx.find? P = some p) : l[p.2]? = some p.1 := by
  obtain ⟨-, hi, hx⟩ := List.mem_zipIdx (List.mem_of_find?_eq_some h)
  rw [hx]
  simp [List.getElem?_eq_getElem (by omega : p.2 < l.length)]

theorem take_updateRow (keys sets flagged : List Column) (row : Row) :
    (updateRow keys sets flagged row).take keys.length = keys.map fun k => (row.get? k).getD .none := by
  simp [updateRow]

theorem getElem?_updateRow_set (keys sets flagged : List Column) (row : Row) {j : Nat} (hj : j < sets.length) :
    (updateRow keys sets flagged row)[keys.length + j]? = some (setCell (row.get? sets[j])) := by
  simp [updateRow, List.append_assoc, List.getElem?_append_right, List.getElem?_append_left, hj]

theorem getElem?_updateRow_flag (keys sets flagged : List Column) (row : Row) {p : Nat} (hp : p < flagged.length) :
    (updateRow keys sets flagged row)[keys.length + sets.length + p]? =
      some (.bool (skipFlag (row.get? flagged[p]))) := by
  rw [Nat.add_assoc]
  simp [updateRow, List.append_assoc, hp]

theorem Row.written_eq (row : Row) (c : Column) (current : Value) :
    row.written c current = if skipFlag (row.get? c) then current else setCell (row.get? c) := by
  unfold Row.written
  split <;> simp_all [skipFlag, setCell]

/-- 計画の一行の印は、行がその列に `SKIP` を与えたか。`SKIP` を与えた書く列はどれも印を持つとき。 -/
theorem flagOn_updateRow {keys sets flagged : List Column} {row : Row} {c : Column}
    (hflag : skipFlag (row.get? c) = true → ∃ f ∈ flagged, f.same c = true) :
    flagOn keys sets flagged (updateRow keys sets flagged row) c = skipFlag (row.get? c) := by
  unfold flagOn
  have hfind := find?_zipIdx (fun f => f.same c) flagged 0
  cases hq : flagged.zipIdx.find? fun p => p.1.same c with
  | some q =>
    have hq' : flagged[q.2]? = some q.1 := getElem?_of_find?_zipIdx hq
    obtain ⟨hlt, hget⟩ := List.getElem?_eq_some_iff.1 hq'
    have hsame : q.1.same c = true := by simpa using List.find?_some hq
    dsimp only
    rw [getElem?_updateRow_flag keys sets flagged row hlt, hget, Row.get?_congr row hsame]
    cases skipFlag (row.get? c) <;> rfl
  | none =>
    -- 印を持たない列には、どの行も `SKIP` を与えていない
    rw [hq, Option.map_none, eq_comm, List.find?_eq_none] at hfind
    cases hs : skipFlag (row.get? c) with
    | false => rfl
    | true =>
      obtain ⟨f, hf, hfc⟩ := hflag hs
      exact absurd hfc (hfind f hf)

theorem planApply_updateRow {keys sets flagged : List Column} {row : Row}
    (hflag : ∀ c ∈ sets, skipFlag (row.get? c) = true → ∃ f ∈ flagged, f.same c = true) (t : TableRow) :
    planApply keys sets flagged (updateRow keys sets flagged row) t = row.update sets t := by
  funext n
  unfold planApply Row.update
  have hfind := find?_zipIdx (fun c => c.name == n) sets 0
  cases hp : sets.zipIdx.find? fun p => p.1.name == n with
  | some p =>
    rw [hp, Option.map_some] at hfind
    rw [← hfind]
    have hp' : sets[p.2]? = some p.1 := getElem?_of_find?_zipIdx hp
    obtain ⟨hlt, hget⟩ := List.getElem?_eq_some_iff.1 hp'
    have hmem : p.1 ∈ sets := hget ▸ List.getElem_mem hlt
    simp only
    rw [flagOn_updateRow (hflag p.1 hmem), getElem?_updateRow_set keys sets flagged row hlt, hget,
      Row.written_eq]
    rfl
  | none =>
    rw [hp, Option.map_none] at hfind
    rw [← hfind]

theorem planMatches_updateRow (eq : Value → Value → Prop) (keys sets flagged : List Column) (row : Row)
    (t : TableRow) : planMatches eq keys (updateRow keys sets flagged row) t ↔ row.keysMatch eq keys t := by
  unfold planMatches Row.keysMatch
  rw [take_updateRow, List.forall₂_map_right_iff, List.forall₂_same]

theorem updatesBy_map {ρ σ : Type} {hits : ρ → TableRow → Prop} {apply : ρ → TableRow → TableRow}
    {hits' : σ → TableRow → Prop} {apply' : σ → TableRow → TableRow} {f : σ → ρ} {rs : List σ}
    (h : ∀ r ∈ rs, ∀ t, (hits (f r) t ↔ hits' r t) ∧ apply (f r) t = apply' r t) (T T' : List TableRow) :
    UpdatesBy hits apply (rs.map f) T T' ↔ UpdatesBy hits' apply' rs T T' := by
  unfold UpdatesBy
  constructor
  · intro hT
    refine hT.imp fun t t' ht => ?_
    rcases ht with ⟨hno, heq⟩ | ⟨_, hmem, hhit, heq⟩
    · exact .inl ⟨fun r hr hh => hno (f r) (List.mem_map_of_mem hr) ((h r hr t).1.2 hh), heq⟩
    · obtain ⟨r, hr, rfl⟩ := List.mem_map.1 hmem
      exact .inr ⟨r, hr, (h r hr t).1.1 hhit, heq.trans (h r hr t).2⟩
  · intro hT
    refine hT.imp fun t t' ht => ?_
    rcases ht with ⟨hno, heq⟩ | ⟨r, hr, hhit, heq⟩
    · refine .inl ⟨fun _ hmem hh => ?_, heq⟩
      obtain ⟨r, hr, rfl⟩ := List.mem_map.1 hmem
      exact hno r hr ((h r hr t).1.1 hh)
    · exact .inr ⟨f r, List.mem_map_of_mem hr, (h r hr t).1.2 hhit, heq.trans (h r hr t).2.symm⟩

/-! ## 一括更新の文が渡す計画 -/

theorem firstNamed_snoc (A : List Column) (c : Column) :
    (if (firstNamed A).any (·.same c) then firstNamed A else firstNamed A ++ [c]) = firstNamed (A ++ [c]) := by
  rw [firstNamed_concat, any_firstNamed]
  split <;> simp

/-- 書く列と飛ばす列の対を、最初に現れた順の列として畳み込む: 一段ごとに列 `f a`、`g a` を後ろに足すなら、
全体では要素ごとの列を並べて足したもの。 -/
theorem foldlM_firstNamed {ε α : Type} {step : List Column × List Column → α → Except ε (List Column × List Column)}
    {f g : α → List Column} {Q : α → Prop}
    (hstep : ∀ A B a r, step (firstNamed A, firstNamed B) a = .ok r →
      Q a ∧ r = (firstNamed (A ++ f a), firstNamed (B ++ g a))) :
    ∀ {l : List α} {A B : List Column} {r : List Column × List Column},
      l.foldlM step (firstNamed A, firstNamed B) = .ok r →
        (∀ a ∈ l, Q a) ∧ r = (firstNamed (A ++ l.flatMap f), firstNamed (B ++ l.flatMap g))
  | [], A, B, r, h => by
    cases h
    simp
  | a :: l, A, B, r, h => by
    rw [List.foldlM_cons] at h
    obtain ⟨r₁, h₁, h₂⟩ := Except.bind_eq_ok.1 h
    obtain ⟨hq, rfl⟩ := hstep A B a r₁ h₁
    obtain ⟨hl, rfl⟩ := foldlM_firstNamed hstep h₂
    refine ⟨?_, by simp [List.append_assoc]⟩
    intro x hx
    rcases List.mem_cons.1 hx with rfl | hx
    · exact hq
    · exact hl x hx

theorem Value.isSkip_eq_true {v : Value} (h : v.isSkip = true) : v = .marker .skip := by
  unfold Value.isSkip at h
  split at h
  · rfl
  · cases h

theorem keyGiven_eq_false {o : Option Value} (h : keyGiven o = false) :
    o = none ∨ o = some .none ∨ o = some (.marker .skip) ∨ o = some (.marker .null) := by
  unfold keyGiven at h
  split at h <;> simp_all

/-- 要素ごとの確かめの繰り返しが成功したなら、どの要素もよい（よくない要素では失敗するとき）。 -/
theorem forIn_good {γ ε : Type} (good : γ → Prop) {body : γ → Unit → Except ε (ForInStep Unit)}
    (hyield : ∀ x, good x → body x ⟨⟩ = .ok (.yield ⟨⟩)) (hfail : ∀ x, ¬ good x → ∃ e, body x ⟨⟩ = .error e)
    {xs : List γ} (h : forIn xs ⟨⟩ body = .ok ⟨⟩) : ∀ x ∈ xs, good x := by
  intro x hx
  by_contra hbad
  obtain ⟨e, he, -⟩ := (Build.forIn_checks (P := fun _ => True) good body
    (fun y => ⟨hyield y, fun hy => (hfail y hy).imp fun _ he => ⟨he, trivial⟩⟩) xs).2 ⟨x, hx, hbad⟩
  rw [he] at h
  cases h

theorem flatMap_ite_singleton {α β : Type} (P : α → Bool) (f : α → β) (l : List α) :
    (l.flatMap fun a => if P a then [f a] else []) = (l.filter P).map f := by
  induction l with
  | nil => rfl
  | cons a l ih => by_cases h : P a <;> simp [h, ih]

/-- 一括更新の文 `st` の計画: 照合の列 `keys` と正規化した行 `normalized` を確かめ、方言に渡したもの。 -/
structure UpdatePlan (d : Dialect) (m : Meta) (rows keyColumns : List Value) (opts : WriteOptions)
    (mark : Nat → String) (st : Statement) (keys : List Column) (normalized : List Row) : Prop where
  keys_resolved : m.resolveColumns keyColumns = .ok keys
  keys_ne_nil : keys ≠ []
  rows_normalized : List.Forall₂ (fun r row => m.normalizeRow r true = .ok row) rows normalized
  keys_given : ∀ row ∈ normalized, ∀ k ∈ keys, keyGiven (row.get? k) = true
  values_bindable : ∀ row ∈ normalized, ∀ p ∈ row, keys.any (·.same p.1) = false →
    p.2.isSkip = true ∨ Statement.unbindable p.2 = false
  sets_ne_nil : planSets keys normalized ≠ []
  rendered : d.updateMany (.str (d.identifier m.writeTable))
    (updateSpec d keys (planSets keys normalized) (planFlagged keys normalized))
    (.list (keys.map fun k => .str (d.identifier k.name)))
    (.list ((normalized.map (updateRow keys (planSets keys normalized) (planFlagged keys normalized))).map
      Value.list))
    (returningNames d m opts.returning) mark = .ok st

theorem Statement.updateMany_plan {d : Dialect} {m : Meta} {rows keyColumns : List Value} {opts : WriteOptions}
    {mark : Nat → String} {st : Statement} (h : Statement.updateMany d m rows keyColumns opts mark = .ok st) :
    ∃ keys normalized, UpdatePlan d m rows keyColumns opts mark st keys normalized := by
  unfold Statement.updateMany at h
  obtain ⟨_, -, h⟩ := Except.bind_eq_ok.1 h
  extract_lets name text returning jp at h
  split at h
  · obtain ⟨_, he, _⟩ := Except.bind_eq_ok.1 h
    cases he
  dsimp -zeta only [jp] at h
  obtain ⟨keys, hkeys, h⟩ := Except.bind_eq_ok.1 h
  extract_lets jp at h
  split at h
  · obtain ⟨_, he, _⟩ := Except.bind_eq_ok.1 h
    cases he
  next hne =>
  dsimp -zeta only [jp] at h
  obtain ⟨normalized, hnorm, h⟩ := Except.bind_eq_ok.1 h
  obtain ⟨⟨sets, skips⟩, hfold, h⟩ := Except.bind_eq_ok.1 h
  -- 行ごとの畳み込み: 照合の列を確かめ、項ごとに書く列と飛ばす列を足す
  have hres := foldlM_firstNamed (f := setsOf keys) (g := skipsOf keys)
    (Q := fun row => (∀ k ∈ keys, keyGiven (row.get? k) = true) ∧ ∀ p ∈ row, keys.any (·.same p.1) = false →
      p.2.isSkip = true ∨ Statement.unbindable p.2 = false) ?_ (A := []) (B := []) hfold
  · obtain ⟨hrowsOk, hpair⟩ := hres
    simp only [List.nil_append, Prod.mk.injEq] at hpair
    obtain ⟨rfl, rfl⟩ := hpair
    dsimp -zeta only at h
    extract_lets flagged spec matrix jp at h
    split at h
    · obtain ⟨_, he, _⟩ := Except.bind_eq_ok.1 h
      cases he
    next hsets =>
    -- 飛ばす印を持つ列は、書く列のうち、どれかの行が `SKIP` を与えた列
    dsimp only [jp, spec, matrix, flagged] at h
    simp only [any_firstNamed] at h
    exact ⟨keys, normalized, ⟨hkeys, by simpa using hne, Build.mapM_ok_forall₂ hnorm,
      fun row hrow => (hrowsOk row hrow).1, fun row hrow => (hrowsOk row hrow).2, by simpa [planSets] using hsets, h⟩⟩
  · intro A B row r hr
    obtain ⟨u, hcheck, hinner⟩ := Except.bind_eq_ok.1 hr
    -- 照合の列の確かめ: どの照合の列にも値を与えている
    have hgiven : ∀ k ∈ keys, keyGiven (row.get? k) = true := by
      refine forIn_good (fun k => keyGiven (row.get? k) = true) (fun k hk => ?_) (fun k hk => ?_) hcheck
      · split
        · next heq => simp [heq, keyGiven] at hk
        · next heq => simp [heq, keyGiven] at hk
        · next heq => simp [heq, keyGiven] at hk
        · next heq => simp [heq, keyGiven] at hk
        · rfl
      · split
        · exact ⟨_, rfl⟩
        · exact ⟨_, rfl⟩
        · exact ⟨_, rfl⟩
        · exact ⟨_, rfl⟩
        · next h₁ h₂ h₃ h₄ =>
          rcases keyGiven_eq_false (by simpa using hk) with h | h | h | h
          exacts [absurd h h₁, absurd h h₂, absurd h h₃, absurd h h₄]
    -- 項ごと: 照合の列でなければ、`SKIP` は飛ばす列に、ほかは書く列に足す
    have hin := foldlM_firstNamed (f := fun p => if !keys.any (·.same p.1) && !p.2.isSkip then [p.1] else [])
      (g := fun p => if !keys.any (·.same p.1) && p.2.isSkip then [p.1] else [])
      (Q := fun p : Column × Value => keys.any (·.same p.1) = false →
        p.2.isSkip = true ∨ Statement.unbindable p.2 = false) ?_ hinner
    · obtain ⟨hentries, rfl⟩ := hin
      refine ⟨⟨hgiven, hentries⟩, ?_⟩
      simp only [flatMap_ite_singleton, setsOf, skipsOf]
    · intro A' B' p r' hr'
      obtain ⟨c, v⟩ := p
      dsimp only at hr'
      split at hr'
      · next hk =>
        cases hr'
        refine ⟨fun h => absurd hk (by simp [h]), by simp [hk]⟩
      · next hk =>
        split at hr'
        · cases hr'
          refine ⟨fun _ => .inl rfl, ?_⟩
          rw [firstNamed_snoc]
          simp [hk, Value.isSkip]
        · next hv =>
          split at hr'
          · obtain ⟨_, he, _⟩ := Except.bind_eq_ok.1 hr'
            cases he
          · next hb =>
            cases hr'
            have hskip : v.isSkip = false := by
              cases hs : v.isSkip
              · rfl
              · exact absurd (Value.isSkip_eq_true hs) hv
            refine ⟨fun _ => .inr (by simpa using hb), ?_⟩
            rw [firstNamed_snoc]
            simp [hk, hskip]

/-! ## 一括更新の意味 -/

theorem Row.exists_of_get? {row : Row} {c : Column} {v : Value} (h : row.get? c = some v) :
    ∃ p ∈ row, p.1.same c = true ∧ p.2 = v := by
  obtain ⟨p, hp, rfl⟩ := Option.map_eq_some_iff.1 h
  exact ⟨p, List.mem_of_find?_eq_some hp, by simpa using List.find?_some hp, rfl⟩

theorem skipFlag_eq_true {o : Option Value} (h : skipFlag o = true) : o = some (.marker .skip) := by
  unfold skipFlag at h
  split at h <;> simp_all

theorem mem_setsOf {keys : List Column} {row : Row} {c : Column} (h : c ∈ setsOf keys row) :
    keys.any (·.same c) = false := by
  obtain ⟨p, hp, rfl⟩ := List.mem_map.1 h
  have hsel := (List.mem_filter.1 hp).2
  simp only [Bool.and_eq_true, Bool.not_eq_true'] at hsel
  exact hsel.1

theorem mem_skipsOf {keys : List Column} {row : Row} {p : Column × Value} (hp : p ∈ row)
    (hkey : keys.any (·.same p.1) = false) (hskip : p.2.isSkip = true) : p.1 ∈ skipsOf keys row :=
  List.mem_map_of_mem (List.mem_filter.2 ⟨hp, by simp [hkey, hskip]⟩)

theorem flagged_of_skip {keys : List Column} {normalized : List Row} {row : Row} (hrow : row ∈ normalized)
    {c : Column} (hc : c ∈ planSets keys normalized) (hskip : skipFlag (row.get? c) = true) :
    ∃ f ∈ planFlagged keys normalized, f.same c = true := by
  obtain ⟨row', -, hc'⟩ := List.mem_flatMap.1 (mem_of_mem_firstNamed hc)
  have hkey : keys.any (·.same c) = false := mem_setsOf hc'
  -- 行が `SKIP` を与えた項は、照合の列でない列の項
  obtain ⟨p, hp, hpc, hpv⟩ := Row.exists_of_get? (skipFlag_eq_true hskip)
  have hkey' : keys.any (·.same p.1) = false := by
    simpa only [Column.same_congr_right hpc] using hkey
  have hmem : p.1 ∈ normalized.flatMap (skipsOf keys) :=
    List.mem_flatMap.2 ⟨row, hrow, mem_skipsOf hp hkey' (by simp [hpv, Value.isSkip])⟩
  refine ⟨c, List.mem_filter.2 ⟨hc, List.any_eq_true.2 ⟨p.1, hmem, hpc⟩⟩, Column.same_self c⟩

/-- 計画を当てた表の更新は、入力の行ごとの更新と同じ。 -/
theorem planUpdates_iff (eq : Value → Value → Prop) (keys : List Column) (normalized : List Row)
    (T T' : List TableRow) :
    UpdatesBy (planMatches eq keys) (planApply keys (planSets keys normalized) (planFlagged keys normalized))
        (normalized.map (updateRow keys (planSets keys normalized) (planFlagged keys normalized))) T T' ↔
      UpdatesBy (Row.keysMatch eq keys) (Row.update (planSets keys normalized)) normalized T T' :=
  updatesBy_map (fun row hrow t => ⟨planMatches_updateRow eq keys _ _ row t,
    planApply_updateRow (fun _ hc hskip => flagged_of_skip hrow hc hskip) t⟩) T T'

theorem length_updateRow (d : Dialect) (keys sets flagged : List Column) (row : Row) :
    (updateRow keys sets flagged row).length = (updateSpec d keys sets flagged).length := by
  simp [updateRow, updateSpec]

/-- 一括更新の文は、照合の列と正規化した行の計画を方言に渡したもの。計画の行は列の指定と同じ長さで、
計画を当てた表の更新は、入力の行ごとに照合の列が等しい表の行を更新したもの。 -/
theorem Statement.updateMany_updates_rows {d : Dialect} {m : Meta} {rows keyColumns : List Value}
    {opts : WriteOptions} {mark : Nat → String} {st : Statement}
    (h : Statement.updateMany d m rows keyColumns opts mark = .ok st) :
    ∃ keys normalized, UpdatePlan d m rows keyColumns opts mark st keys normalized ∧
      (∀ row ∈ normalized, (updateRow keys (planSets keys normalized) (planFlagged keys normalized) row).length =
        (updateSpec d keys (planSets keys normalized) (planFlagged keys normalized)).length) ∧
      ∀ (eq : Value → Value → Prop) (T T' : List TableRow),
        UpdatesBy (planMatches eq keys) (planApply keys (planSets keys normalized) (planFlagged keys normalized))
            (normalized.map (updateRow keys (planSets keys normalized) (planFlagged keys normalized))) T T' ↔
          UpdatesBy (Row.keysMatch eq keys) (Row.update (planSets keys normalized)) normalized T T' := by
  obtain ⟨keys, normalized, hplan⟩ := Statement.updateMany_plan h
  exact ⟨keys, normalized, hplan, fun row _ => length_updateRow d _ _ _ row, fun eq => planUpdates_iff eq keys normalized⟩

/-- 二行の一括更新: 二行目は名前を `SKIP` する。 -/
def skippedNames : List Value :=
  [.list [.tuple [.str "id", .int 1], .tuple [.str "name", .str "a"]],
    .list [.tuple [.str "id", .int 2], .tuple [.str "name", .marker .skip]]]

theorem Statement.updateMany_updates_rows_accounts :
    ∃ st, Statement.updateMany .sqlite Session.accountMeta skippedNames [.str "id"] {} = .ok st ∧
      st.sql = "WITH v(id, name, _skip_name) AS (VALUES (?, ?, ?), (?, ?, ?)) UPDATE accounts SET name = " ++
        "CASE WHEN v._skip_name THEN accounts.name ELSE v.name END FROM v WHERE accounts.id = v.id RETURNING id" ∧
      ∃ keys normalized, UpdatePlan .sqlite Session.accountMeta skippedNames [.str "id"] {} (fun _ => "?") st keys
          normalized ∧
        (∀ row ∈ normalized, (updateRow keys (planSets keys normalized) (planFlagged keys normalized) row).length =
          (updateSpec .sqlite keys (planSets keys normalized) (planFlagged keys normalized)).length) ∧
        ∀ (eq : Value → Value → Prop) (T T' : List TableRow),
          UpdatesBy (planMatches eq keys) (planApply keys (planSets keys normalized) (planFlagged keys normalized))
              (normalized.map (updateRow keys (planSets keys normalized) (planFlagged keys normalized))) T T' ↔
            UpdatesBy (Row.keysMatch eq keys) (Row.update (planSets keys normalized)) normalized T T' := by
  have hsql : (Statement.updateMany .sqlite Session.accountMeta skippedNames [.str "id"] {}).toOption.map
      Statement.sql = some ("WITH v(id, name, _skip_name) AS (VALUES (?, ?, ?), (?, ?, ?)) UPDATE accounts SET name = " ++
        "CASE WHEN v._skip_name THEN accounts.name ELSE v.name END FROM v WHERE accounts.id = v.id RETURNING id") := by
    decide +kernel
  obtain ⟨st, hst, hs⟩ := Except.exists_of_toOption_map hsql
  exact ⟨st, hst, hs, Statement.updateMany_updates_rows hst⟩

end DataAccess
