import DataAccess.Builder.Write
import DataAccess.Proofs.Plain
/-!
# 副問い合わせの別名と外側の行

副問い合わせは作るたびに数を一つ進め、その数で `_sq1`, `_sq2`, … の別名を持つ。
条件は左から右へ訳し、文字列も左から右へ繋ぐので、訳す順と文の中の順は同じになる。
そこで、状態の数が `n` から `n'` に進んだ訳の文字列には、別名 `_sq(n+1)`, …, `_sq(n')` が
この順に現れる（`Numbered`）。別名の番号は互いに違い、文の左から右へ増える。

副問い合わせの条件は、自分の別名を行の名前にし、すぐ外側の問い合わせの行を外側として訳す。
`parent_ref(c)` はその外側の行の列 `<外側の行>.<c の列>` になり、`c` が外側のモデルの列でなければ
列の持ち主の違反、外側がなければ（最上位では）契約違反になる。

数を追う計算の規則は `Counts`（始めの数を決めて、終わりの数と結果の関係を言う）、
束縛した値のほかは何も変えない部品は `Quiet`。
-/

namespace DataAccess.Build

/-! ## 別名の並び -/

/-- 文字列に、別名 `_sqN` が番号の並びの順に現れる。別名の間の文字列は何でもよい。 -/
inductive Aliases : String → List Nat → Prop
  | text (s : String) : Aliases s []
  | alias (n : Nat) : Aliases ("_sq" ++ toString n) [n]
  | append {a b : String} {ns ms : List Nat} : Aliases a ns → Aliases b ms → Aliases (a ++ b) (ns ++ ms)

/-- 副問い合わせの数が `n` から `n'` に進み、その間に作った別名 `_sq(n+1)`, …, `_sq(n')` が
文字列 `t` にこの順に現れる。 -/
def Numbered (n n' : Nat) (t : String) : Prop := n ≤ n' ∧ Aliases t (List.range' (n + 1) (n' - n))

/-- あるかもしれない文字列の `Numbered`。文字列がなければ副問い合わせも作っていない。 -/
def OptNumbered (n n' : Nat) : Option String → Prop
  | none => n' = n
  | some t => Numbered n n' t

section Numbered

variable {n n₁ n₂ : Nat}

theorem Numbered.text (s : String) (n : Nat) : Numbered n n s :=
  ⟨Nat.le_refl n, by rw [Nat.sub_self, List.range'_zero]; exact .text s⟩

theorem Numbered.append {a b : String} (ha : Numbered n n₁ a) (hb : Numbered n₁ n₂ b) :
    Numbered n n₂ (a ++ b) := by
  obtain ⟨h₁, ha⟩ := ha
  obtain ⟨h₂, hb⟩ := hb
  refine ⟨Nat.le_trans h₁ h₂, ?_⟩
  -- 二つの番号の区間は隙間なく繋がる
  have hstart : n + 1 + (n₁ - n) = n₁ + 1 := by omega
  have hlen : n₁ - n + (n₂ - n₁) = n₂ - n := by omega
  rw [← hlen, ← List.range'_append_1, hstart]
  exact .append ha hb

theorem Numbered.text_append (s : String) {b : String} (h : Numbered n n₁ b) : Numbered n n₁ (s ++ b) :=
  (Numbered.text s n).append h

theorem Numbered.append_text {a : String} (h : Numbered n n₁ a) (s : String) : Numbered n n₁ (a ++ s) :=
  h.append (Numbered.text s n₁)

theorem Numbered.alias_append {b : String} (h : Numbered (n + 1) n₁ b) :
    Numbered n n₁ ("_sq" ++ toString (n + 1) ++ b) := by
  obtain ⟨hle, hb⟩ := h
  refine ⟨by omega, ?_⟩
  have hlen : n₁ - n = (n₁ - (n + 1)) + 1 := by omega
  rw [hlen, List.range'_succ, ← List.singleton_append]
  exact .append (.alias (n + 1)) hb

end Numbered

/-- 要素ごとの関係を、数を受け渡しながら繋いだ並びの関係。 -/
inductive Consecutive {α : Type} (R : Nat → Nat → α → Prop) : Nat → Nat → List α → Prop
  | nil (n : Nat) : Consecutive R n n []
  | cons {n n₁ n₂ : Nat} {a : α} {as : List α} : R n n₁ a → Consecutive R n₁ n₂ as → Consecutive R n n₂ (a :: as)

section Consecutive

theorem Consecutive.filterMap : ∀ {n n' : Nat} {ws : List (Option String)}, Consecutive OptNumbered n n' ws →
    Consecutive Numbered n n' (ws.filterMap id)
  | _, _, _, .nil n => .nil n
  | _, _, none :: _, .cons h rest => by
    simp only [OptNumbered] at h
    subst h
    simpa using Consecutive.filterMap rest
  | _, _, some _ :: _, .cons h rest => by
    simpa using Consecutive.cons (R := Numbered) h (Consecutive.filterMap rest)

theorem Consecutive.intercalate (sep : String) : ∀ {n n' : Nat} {ts : List String}, Consecutive Numbered n n' ts →
    Numbered n n' (sep.intercalate ts)
  | n, _, _, .nil _ => Numbered.text _ n
  | _, _, _, .cons ha (.nil _) => by simpa using ha
  | _, _, _, .cons ha (.cons hb rest) => by
    rw [String.intercalate_cons_cons, String.append_assoc]
    exact ha.append (Numbered.text_append sep (Consecutive.intercalate sep (.cons hb rest)))

theorem Consecutive.parenthesize : ∀ {n n' : Nat} {ts : List String}, Consecutive Numbered n n' ts →
    Consecutive Numbered n n' (ts.map fun g => "(" ++ g ++ ")")
  | _, _, _, .nil n => .nil n
  | _, _, _, .cons ha rest => .cons ((Numbered.text_append "(" ha).append_text ")") (Consecutive.parenthesize rest)

end Consecutive

/-! ## 数を追う計算の規則 -/

/-- 副問い合わせの数が `n` の状態から `x` を走らせて成功すれば、終わりの数 `n'` と結果 `a` について
`R n' a` が成り立つ。 -/
def Counts {α : Type} (n : Nat) (R : Nat → α → Prop) (x : Build α) : Prop :=
  ∀ c a c', c.subqueries = n → x.run c = .ok (a, c') → R c'.subqueries a

/-- 束縛した値のほかは何も変えない計算。副問い合わせの数にも方言にも、表の集まりにも印の書き方にも触れない。 -/
def Quiet {α : Type} (x : Build α) : Prop :=
  ∀ c a c', x.run c = .ok (a, c') → c' = { c with bound := c'.bound }

section Rules

variable {α β : Type} {n : Nat}

theorem Counts.pure {R : Nat → α → Prop} {a : α} (h : R n a) : Counts n R (Pure.pure a) := by
  intro c a' c' hc hrun
  simp only [Pure.pure] at hrun
  cases hrun
  rw [hc]
  exact h

theorem Counts.bind {R : Nat → α → Prop} {S : Nat → β → Prop} {x : Build α} {g : α → Build β}
    (hx : Counts n R x) (hg : ∀ n' a, R n' a → Counts n' S (g a)) : Counts n S (x >>= g) := by
  intro c b c'' hc hrun
  rw [StateT.run_bind] at hrun
  obtain ⟨⟨a, c'⟩, h1, h2⟩ := Except.bind_eq_ok.1 hrun
  exact hg _ a (hx c a c' hc h1) c' b c'' rfl h2

theorem Counts.mono {R S : Nat → α → Prop} {x : Build α} (h : Counts n R x) (hRS : ∀ n' a, R n' a → S n' a) :
    Counts n S x :=
  fun c a c' hc hrun => hRS _ a (h c a c' hc hrun)

theorem Counts.map {R : Nat → α → Prop} {S : Nat → β → Prop} {x : Build α} {g : α → β}
    (hx : Counts n R x) (hg : ∀ n' a, R n' a → S n' (g a)) : Counts n S (g <$> x) := by
  rw [map_eq_pure_bind]
  exact hx.bind fun n' a h => Counts.pure (hg n' a h)

theorem Counts.fail {R : Nat → α → Prop} (e : Fault) : Counts n R (Build.fail e) := by
  intro c a c' _ hrun
  cases hrun

theorem Counts.fail_bind {S : Nat → β → Prop} (e : Fault) (g : α → Build β) :
    Counts n S (Build.fail e >>= g) :=
  Counts.bind (R := fun _ _ => False) (Counts.fail e) fun _ _ h => h.elim

theorem Counts.run {R : Nat → α → Prop} {x : Build α} (h : Counts n R x) {c c' : Compiler} {a : α}
    (hc : c.subqueries = n) (hrun : x.run c = .ok (a, c')) : R c'.subqueries a :=
  h c a c' hc hrun

theorem Quiet.subqueries_eq {x : Build α} (h : Quiet x) {c c' : Compiler} {a : α} (hrun : x.run c = .ok (a, c')) :
    c'.subqueries = c.subqueries := by
  rw [h c a c' hrun]

theorem Quiet.dialect_eq {x : Build α} (h : Quiet x) {c c' : Compiler} {a : α} (hrun : x.run c = .ok (a, c')) :
    c'.dialect = c.dialect := by
  rw [h c a c' hrun]

theorem Quiet.counts {x : Build α} (h : Quiet x) (n : Nat) : Counts n (fun n' _ => n' = n) x :=
  fun _ _ _ hc hrun => (h.subqueries_eq hrun).trans hc

theorem Quiet.bind_counts {S : Nat → β → Prop} {x : Build α} {g : α → Build β} (hx : Quiet x)
    (hg : ∀ a, Counts n S (g a)) : Counts n S (x >>= g) :=
  (hx.counts n).bind fun _ a h => h ▸ hg a

theorem quiet_pure (a : α) : Quiet (Pure.pure a : Build α) := by
  intro c a' c' hrun
  simp only [Pure.pure] at hrun
  cases hrun
  rfl

theorem Quiet.bind {x : Build α} {g : α → Build β} (hx : Quiet x) (hg : ∀ a, Quiet (g a)) : Quiet (x >>= g) := by
  intro c b c'' hrun
  rw [StateT.run_bind] at hrun
  obtain ⟨⟨a, c'⟩, h1, h2⟩ := Except.bind_eq_ok.1 hrun
  calc c'' = { c' with bound := c''.bound } := hg a c' b c'' h2
    _ = { c with bound := c''.bound } := by rw [hx c a c' h1]

theorem Quiet.map {x : Build α} {g : α → β} (hx : Quiet x) : Quiet (g <$> x) := by
  rw [map_eq_pure_bind]
  exact hx.bind fun a => quiet_pure (g a)

theorem quiet_fail (e : Fault) : Quiet (Build.fail e : Build α) := by
  intro c a c' hrun
  cases hrun

theorem quiet_fail_bind (e : Fault) (g : α → Build β) : Quiet (Build.fail e >>= g) := by
  intro c a c' hrun
  cases hrun

theorem quiet_get : Quiet (MonadState.get : Build Compiler) := by
  intro c a c' hrun
  cases hrun
  rfl

theorem quiet_lift (e : Except Fault α) : Quiet (Build.lift e) := by
  cases e with
  | error err => exact quiet_fail err
  | ok a => exact quiet_pure a

theorem quiet_dialect : Quiet Build.dialect := quiet_get.bind fun c => quiet_pure c.dialect

theorem quiet_mapM {γ : Type} {g : γ → Build α} (hg : ∀ x, Quiet (g x)) : ∀ xs : List γ, Quiet (xs.mapM g)
  | [] => by
    rw [List.mapM_nil]
    exact quiet_pure []
  | x :: xs => by
    rw [List.mapM_cons]
    exact (hg x).bind fun a => (quiet_mapM hg xs).bind fun as => quiet_pure (a :: as)

theorem quiet_forIn {γ σ : Type} {g : γ → σ → Build (ForInStep σ)} (hg : ∀ x b, Quiet (g x b)) :
    ∀ (xs : List γ) (b : σ), Quiet (forIn xs b g)
  | [], b => by
    rw [List.forIn_nil]
    exact quiet_pure b
  | x :: xs, b => by
    rw [List.forIn_cons]
    refine (hg x b).bind fun r => ?_
    cases r with
    | done b' => exact quiet_pure b'
    | yield b' => exact quiet_forIn hg xs b'

theorem Counts.mapM {γ : Type} {R : Nat → Nat → α → Prop} {g : γ → Build α} :
    ∀ {xs : List γ} {n : Nat}, (∀ x ∈ xs, ∀ n, Counts n (R n) (g x)) →
      Counts n (fun n' as => Consecutive R n n' as) (xs.mapM g)
  | [], n, _ => by
    rw [List.mapM_nil]
    exact Counts.pure (.nil n)
  | x :: xs, n, h => by
    rw [List.mapM_cons]
    refine (h x List.mem_cons_self n).bind fun n₁ a ha => ?_
    refine (Counts.mapM fun y hy => h y (List.mem_cons_of_mem x hy)).bind fun n₂ as has => ?_
    exact Counts.pure (.cons ha has)

theorem counts_get (n : Nat) : Counts n (fun n' (c : Compiler) => n' = n ∧ c.subqueries = n) MonadState.get := by
  intro c a c' hc hrun
  cases hrun
  exact ⟨hc, hc⟩

theorem counts_countSubquery (n : Nat) :
    Counts n (fun n' (_ : PUnit) => n' = n + 1) (modify fun c : Compiler => { c with subqueries := c.subqueries + 1 }) := by
  intro c a c' hc hrun
  cases hrun
  show c.subqueries + 1 = n + 1
  rw [hc]

theorem Quiet.optNumbered {x : Build (Option String)} (h : Quiet x) (n : Nat) : Counts n (OptNumbered n) x :=
  (h.counts n).mono fun n' w hn' => by
    subst hn'
    cases w with
    | none => rfl
    | some t => exact Numbered.text t n'

end Rules

/-! ## 数に触れない部品 -/

section Parts

theorem quiet_bind (v : Value) : Quiet (Build.bind v) := by
  intro c a c' hrun
  cases hp : c.dialect.adaptParam v with
  | error e =>
    simp [Build.bind, Build.dialect, Build.lift, hp] at hrun
    cases hrun
  | ok p =>
    have hrun' : (Build.bind v).run c = .ok (c.mark c.bound.length, { c with bound := p :: c.bound }) := by
      simp [Build.bind, Build.dialect, Build.lift, hp]
      rfl
    rw [hrun'] at hrun
    cases hrun
    rfl

theorem quiet_marked (sql : String) : Quiet (Build.marked sql) := by
  intro c a c' hrun
  cases hrun
  rfl

theorem quiet_bindFragment (sql : Value) (ps : List Value) (label : String) :
    Quiet (Build.bindFragment sql ps label) := by
  simp only [Build.bindFragment]
  refine (quiet_lift _).bind fun expected => ?_
  split
  · exact quiet_fail_bind _ _
  · have hbindAll : Quiet (forIn ps PUnit.unit fun p _ => do
        let _ ← Build.bind p
        Pure.pure (ForInStep.yield PUnit.unit)) :=
      quiet_forIn (fun p _ => (quiet_bind p).bind fun _ => quiet_pure _) ps _
    split
    · exact (quiet_marked _).map.bind fun _ => hbindAll.bind fun _ => quiet_pure _
    · exact (quiet_pure _).bind fun _ => hbindAll.bind fun _ => quiet_pure _

theorem quiet_name (v : Value) : Quiet (Build.name v) := by
  unfold Build.name
  refine quiet_dialect.bind fun d => ?_
  split
  · exact quiet_pure _
  · exact quiet_pure _
  · exact quiet_fail _

theorem quiet_inList (col : String) (values : List Value) (negate : Bool) :
    Quiet (Build.inList col values negate) := by
  unfold Build.inList
  split
  · exact quiet_pure _
  · exact (quiet_mapM quiet_bind values).bind fun _ => quiet_pure _

theorem quiet_parentColumn (col : Value) (scope : Scope) : Quiet (Build.parentColumn col scope) := by
  unfold Build.parentColumn
  split
  · exact quiet_fail _
  · split
    · split
      · exact quiet_fail_bind _ _
      · exact (quiet_name _).bind fun _ => quiet_pure _
    · exact quiet_fail _

theorem quiet_columnCondition (col : String) (v : Value) (scope : Scope) :
    Quiet (Build.columnCondition col v scope) := by
  unfold Build.columnCondition
  refine quiet_dialect.bind fun d => ?_
  split
  all_goals first
    | exact quiet_pure _
    | exact quiet_fail _
    | exact (quiet_bindFragment _ _ _).bind fun _ => quiet_pure _
    | exact (quiet_parentColumn _ _).bind fun _ => quiet_pure _
    | exact quiet_inList _ _ _
    | skip
  split
  · exact quiet_fail _
  · exact (quiet_bind _).bind fun _ => quiet_pure _

theorem quiet_fragment (sql : String) (v : Value) : Quiet (Build.fragment sql v) := by
  unfold Build.fragment Build.fragment.failArity
  have hbindAll : ∀ xs : List Value, Quiet (forIn xs PUnit.unit fun x _ => do
      let _ ← Build.bind x
      Pure.pure (ForInStep.yield PUnit.unit)) :=
    fun xs => quiet_forIn (fun x _ => (quiet_bind x).bind fun _ => quiet_pure _) xs _
  dsimp only
  repeat' split
  all_goals first
    | exact (quiet_marked _).bind fun _ => (quiet_bind _).bind fun _ => quiet_pure _
    | exact (quiet_marked _).bind fun _ => (hbindAll _).bind fun _ => quiet_pure _
    | exact quiet_fail _

theorem quiet_comparison (col op v : Value) (scope : Scope) : Quiet (Build.comparison col op v scope) := by
  unfold Build.comparison
  refine quiet_dialect.bind fun d => ?_
  simp only
  split
  · next s =>
    simp only [pure_bind]
    split
    · exact quiet_fail_bind _ _
    refine (quiet_name col).bind fun n => ?_
    split
    · exact quiet_pure _
    split
    · split
      · exact (quiet_inList _ _ _).bind fun _ => quiet_pure _
      · exact quiet_fail_bind _ _
    -- NULL との比較、ILIKE、それ以外の値の形は、どれも印と値だけを書く
    have hnull : ∀ (n operator : String), Quiet (if (operator == "=") = true then Pure.pure (some (n ++ " IS NULL"))
        else if (operator == "!=" || operator == "<>") = true then Pure.pure (some (n ++ " IS NOT NULL"))
        else Build.fail (Fault.contract ("cannot compare " ++ n ++ " " ++ operator ++ " NULL") none (some v))) := by
      intro n operator
      split
      · exact quiet_pure _
      · split
        · exact quiet_pure _
        · exact quiet_fail _
    split
    · exact hnull _ _
    · exact hnull _ _
    · split
      · exact (quiet_marked _).bind fun _ => (quiet_bind v).bind fun _ => quiet_pure _
      · split
        · exact quiet_pure _
        · exact (quiet_parentColumn _ _).bind fun _ => quiet_pure _
        · exact (quiet_bindFragment _ _ _).bind fun _ => quiet_pure _
        · exact quiet_pure _
        · exact (quiet_bind v).bind fun _ => quiet_pure _
  · exact quiet_fail_bind _ _
  · exact quiet_fail_bind _ _

theorem quiet_tupleIn (cols rows : List Value) : Quiet (Build.tupleIn cols rows) := by
  unfold Build.tupleIn
  simp only
  split
  · exact quiet_fail_bind _ _
  refine (quiet_forIn (fun r _ => ?_) _ _).bind fun _ => ?_
  · split
    · exact quiet_fail_bind _ _
    · exact quiet_pure _
  split
  · exact quiet_pure _
  refine (quiet_mapM quiet_name cols).bind fun names => ?_
  split
  · exact quiet_inList _ _ _
  · exact (quiet_mapM (fun r => (quiet_mapM quiet_bind r).bind fun _ => quiet_pure _) _).bind fun _ => quiet_pure _

theorem quiet_pairParts (p : Value) : Quiet (Build.pairParts p) := by
  unfold Build.pairParts
  split
  · exact quiet_pure _
  · split
    · exact quiet_fail _
    · exact quiet_fail _
  · exact quiet_fail _

theorem quiet_source (m : Meta) : Quiet (Build.source m) := by
  unfold Build.source
  refine quiet_dialect.bind fun d => ?_
  split
  · exact quiet_pure _
  · exact (quiet_bindFragment _ _ _).bind fun _ => quiet_pure _

theorem quiet_items (v : Value) : Quiet (items v) := quiet_lift _

theorem quiet_withClause (m : Meta) (opts : FindOptions) : Quiet (withClause m opts) := by
  unfold withClause
  refine quiet_dialect.bind fun d => ?_
  extract_lets jp
  have hjp : ∀ cte, Quiet (jp cte) := by
    intro cte
    simp -zeta only [jp]
    extract_lets jp₂
    have hjp₂ : ∀ own, Quiet (jp₂ own) := by
      intro own
      simp only [jp₂]
      split
      · exact quiet_pure _
      · exact (quiet_lift _).bind fun _ => quiet_pure _
    split
    · exact (quiet_bindFragment _ _ _).bind fun _ => (quiet_pure _).bind fun _ => hjp₂ _
    · exact (quiet_pure _).bind fun _ => hjp₂ _
  split
  · exact (quiet_items _).bind fun _ => (quiet_bindFragment _ _ _).bind fun _ => (quiet_pure _).bind fun _ => hjp _
  · exact (quiet_pure _).bind fun _ => hjp _

theorem quiet_selectList (opts : FindOptions) (table : String) : Quiet (selectList opts table) := by
  unfold selectList
  split
  · exact quiet_pure _
  · exact quiet_pure _
  · exact (quiet_items _).bind fun _ => (quiet_mapM quiet_name _).bind fun _ => quiet_pure _

theorem quiet_joinClause (opts : FindOptions) : Quiet (joinClause opts) := by
  unfold joinClause
  split
  · refine (quiet_items _).bind fun _ => (quiet_bindFragment _ _ _).bind fun v => ?_
    split
    · exact quiet_pure _
    · exact quiet_fail _
  · exact quiet_pure _

theorem quiet_value (v : Value) : Quiet (value v) := by
  unfold value
  refine quiet_dialect.bind fun d => ?_
  split
  all_goals first
    | exact quiet_pure _
    | exact quiet_fail _
    | exact (quiet_bind _).bind fun _ => quiet_pure _
    | exact quiet_bindFragment _ _ _
    | skip
  split
  · exact quiet_fail _
  · exact (quiet_bind _).bind fun _ => quiet_pure _

end Parts

/-! ## 別名の番号 -/

theorem Counts.joinParts (sep : String) {n n' : Nat} {ws : List (Option String)}
    (h : Consecutive OptNumbered n n' ws) :
    Counts n' (fun n'' => OptNumbered n n'')
      (match ws.filterMap id with
        | [] => Pure.pure none
        | ps => Pure.pure (some (sep.intercalate ps))) := by
  have hparts := Consecutive.filterMap h
  generalize ws.filterMap id = ts at hparts ⊢
  cases hparts with
  | nil => exact Counts.pure rfl
  | cons ha rest => exact Counts.pure (Consecutive.intercalate sep (.cons ha rest))

/-- 残った群を OR で繋ぐ（群が一つならその群だけ、何も残らなければ `none`）。 -/
theorem Counts.joinGroups {n n' : Nat} {ws : List (Option String)} (h : Consecutive OptNumbered n n' ws) :
    Counts n' (fun n'' => OptNumbered n n'')
      (match ws.filterMap id with
        | [] => Pure.pure none
        | [g] => Pure.pure (some ("(" ++ g ++ ")"))
        | gs => Pure.pure (some ("(" ++ " OR ".intercalate (gs.map fun g => "(" ++ g ++ ")") ++ ")"))) := by
  have hparts := Consecutive.filterMap h
  generalize ws.filterMap id = ts at hparts ⊢
  cases hparts with
  | nil => exact Counts.pure rfl
  | cons ha rest =>
    cases rest with
    | nil => exact Counts.pure ((Numbered.text_append "(" ha).append_text ")")
    | cons hb rest' =>
      exact Counts.pure ((Numbered.text_append "("
        ((Consecutive.parenthesize (.cons ha (.cons hb rest'))).intercalate " OR ")).append_text ")")

/-- 燃料 `k` の `whereClause` は、どの数から走らせても、作った副問い合わせの別名をその番号の順に書く。 -/
def WhereNumbered (k : Nat) : Prop :=
  ∀ entries scope n, Counts n (OptNumbered n) (whereClause k entries scope)

/-- 燃料 `k` の `entry`。 -/
def EntryNumbered (k : Nat) : Prop :=
  ∀ e scope n, Counts n (OptNumbered n) (entry k e scope)

/-- 燃料 `k` の `predicate`。 -/
def PredicateNumbered (k : Nat) : Prop :=
  ∀ p scope n, Counts n (OptNumbered n) (predicate k p scope)

/-- 燃料 `k` の `subquery`。 -/
def SubqueryNumbered (k : Nat) : Prop :=
  ∀ m conds scope n, Counts n (Numbered n) (subquery k m conds scope)

theorem whereNumbered_succ {k : Nat} (h : EntryNumbered k) : WhereNumbered (k + 1) := by
  intro entries scope n
  simp only [Build.whereClause]
  exact (Counts.mapM fun e _ n => h e scope n).bind fun _ _ hparts => Counts.joinParts " AND " hparts

theorem entryNumbered_succ {k : Nat} (h : PredicateNumbered k) : EntryNumbered (k + 1) := by
  intro e scope n
  simp only [Build.entry]
  split
  · exact h e scope n
  -- 述語でない要素は、名前と値の形だけで書き、副問い合わせを作らない
  refine Quiet.optNumbered ?_ n
  have hcondition : ∀ key v, Quiet (do
      let c ← columnCondition (← name key) v scope
      Pure.pure (some c)) := fun key v =>
    (quiet_name key).bind fun _ => (quiet_columnCondition _ v scope).bind fun _ => quiet_pure _
  split
  · split
    · exact quiet_pure _
    · split
      · exact hcondition _ _
      · split
        · exact (quiet_fragment _ _).bind fun _ => quiet_pure _
        · exact hcondition _ _
      · exact quiet_fail _
  · exact quiet_fail _

theorem subqueryNumbered_succ {k : Nat} (h : WhereNumbered k) : SubqueryNumbered (k + 1) := by
  intro m conds scope n
  simp only [Build.subquery]
  refine (counts_countSubquery n).bind fun n₁ _ hn₁ => ?_
  subst hn₁
  refine (counts_get (n + 1)).bind fun n₂ c ⟨hn₂, hc⟩ => ?_
  subst hn₂
  refine (quiet_source m).bind_counts fun src => ?_
  refine (h conds _ (n + 1)).bind fun n₃ w hw => ?_
  rw [hc]
  -- 自分の別名 `_sq(n+1)` の後に、条件の中の副問い合わせの別名が続く
  cases w with
  | none =>
    simp only [OptNumbered] at hw
    subst hw
    refine Counts.pure (Numbered.text_append _ ?_)
    simpa using (Numbered.text "" (n + 1)).alias_append
  | some w =>
    simp only [OptNumbered] at hw
    refine Counts.pure ?_
    have htext : src ++ " AS " ++ ("_sq" ++ toString (n + 1)) ++ " WHERE " ++ w =
        src ++ " AS " ++ ("_sq" ++ toString (n + 1) ++ (" WHERE " ++ w)) := by
      simp only [String.append_assoc]
    rw [htext]
    exact Numbered.text_append _ (Numbered.text_append " WHERE " hw).alias_append

theorem predicateNumbered_succ {k : Nat} (hwhere : WhereNumbered k) (hsub : SubqueryNumbered k) :
    PredicateNumbered (k + 1) := by
  intro p scope n
  simp only [Build.predicate]
  split
  · exact (quiet_comparison _ _ _ _).optNumbered n
  · exact ((quiet_name _).bind fun _ => (quiet_bind _).bind fun _ => (quiet_bind _).bind fun _ =>
      quiet_pure _).optNumbered n
  · exact ((quiet_tupleIn _ _).bind fun _ => quiet_pure _).optNumbered n
  · -- OR の群: 群ごとの訳の番号が隙間なく続く
    exact (Counts.mapM fun g _ n => hwhere _ scope n).bind fun _ _ hparts => Counts.joinGroups hparts
  · exact ((quiet_bindFragment _ _ _).bind fun _ => quiet_pure _).optNumbered n
  · -- `IN` の副問い合わせ: 左辺と選ぶ列は名前だけで、別名は副問い合わせの中にだけ現れる
    split
    · exact Counts.fail_bind _ _
    refine (quiet_mapM quiet_pairParts _).bind_counts fun _ => ?_
    refine (quiet_mapM (fun t => ?_) _).bind_counts fun _ => ?_
    · split
      · exact quiet_pure _
      · exact quiet_fail _
    split
    · exact Counts.fail_bind _ _
    refine quiet_get.bind_counts fun _ => (quiet_lift _).bind_counts fun m => ?_
    refine (quiet_mapM (fun _ => quiet_name _) _).bind_counts fun _ => ?_
    refine (quiet_mapM quiet_name _).bind_counts fun _ => ?_
    exact (hsub m _ scope n).bind fun _ _ hfrom => Counts.pure ((Numbered.text_append _ hfrom).append_text ")")
  · -- `EXISTS` の副問い合わせ
    split
    · refine quiet_get.bind_counts fun _ => (quiet_lift _).bind_counts fun m => ?_
      exact (hsub m _ scope n).bind fun _ _ hfrom => Counts.pure ((Numbered.text_append _ hfrom).append_text ")")
    · exact Counts.fail _
  · exact Counts.fail _

/-- 燃料についての帰納法: 燃料が尽きればどれも失敗し、一段の燃料で四つの性質が次の段へ移る。 -/
theorem clauses_numbered : ∀ k, WhereNumbered k ∧ EntryNumbered k ∧ PredicateNumbered k ∧ SubqueryNumbered k
  | 0 => by
    refine ⟨fun _ _ _ => ?_, fun _ _ _ => ?_, fun _ _ _ => ?_, fun _ _ _ _ => ?_⟩ <;>
      simp only [Build.whereClause, Build.entry, Build.predicate, Build.subquery] <;> exact Counts.fail _
  | k + 1 => by
    obtain ⟨hwhere, hentry, hpred, hsub⟩ := clauses_numbered k
    exact ⟨whereNumbered_succ hentry, entryNumbered_succ hpred, predicateNumbered_succ hwhere hsub,
      subqueryNumbered_succ hwhere⟩

/-- どの燃料でも、`whereClause` は作った副問い合わせの別名をその番号の順に書く。 -/
theorem whereClause_numbered {k : Nat} {entries : List Value} {scope : Scope} {c c' : Compiler}
    {w : Option String} (h : (whereClause k entries scope).run c = .ok (w, c')) :
    OptNumbered c.subqueries c'.subqueries w :=
  (clauses_numbered k).1 entries scope c.subqueries c w c' rfl h

/-! ## 外側の行 -/

theorem run_bind_ok {α β : Type} {x : Build α} {f : α → Build β} {c c'' : Compiler} {b : β}
    (h : (x >>= f).run c = .ok (b, c'')) : ∃ a c', x.run c = .ok (a, c') ∧ (f a).run c' = .ok (b, c'') := by
  rw [StateT.run_bind] at h
  obtain ⟨⟨a, c'⟩, h1, h2⟩ := Except.bind_eq_ok.1 h
  exact ⟨a, c', h1, h2⟩

/-- 副問い合わせの条件は、数を一つ進めた別名 `_sq(n+1)` を行の名前にし、すぐ外側の行を外側として訳す。
訳は `FROM` の相手、別名、条件の `WHERE` の順に並ぶ。 -/
theorem subquery_scope {k : Nat} {m : Meta} {conds : List Value} {scope : Scope} {c c' : Compiler}
    {t : String} (h : (subquery (k + 1) m conds scope).run c = .ok (t, c')) :
    ∃ src c₁ w, c₁.subqueries = c.subqueries + 1 ∧
      (whereClause k conds
        { tag := m.tag, rowName := "_sq" ++ toString (c.subqueries + 1), parent := some (scope.tag, scope.rowName) }).run
          c₁ = .ok (w, c') ∧
      t = src ++ " AS " ++ "_sq" ++ toString (c.subqueries + 1) ++ Statement.whereSuffix w := by
  simp only [Build.subquery] at h
  obtain ⟨_, c₁, h₁, h⟩ := run_bind_ok h
  cases h₁
  obtain ⟨_, _, h₂, h⟩ := run_bind_ok h
  cases h₂
  obtain ⟨src, c₃, h₃, h⟩ := run_bind_ok h
  have hsrc := (quiet_source m).subqueries_eq h₃
  obtain ⟨w, c₄, h₄, h⟩ := run_bind_ok h
  dsimp only at h₄ hsrc
  cases w with
  | none =>
    cases h
    exact ⟨src, c₃, none, hsrc, h₄, by simp only [Statement.whereSuffix, String.append_assoc, String.append_empty]⟩
  | some w =>
    cases h
    exact ⟨src, c₃, some w, hsrc, h₄, by simp only [Statement.whereSuffix, String.append_assoc]⟩

/-- `parent_ref` の列の訳。外側がなければ契約違反、外側のモデルの列でなければ列の持ち主の違反、
外側のモデルの列なら外側の行の名前で修飾した列名。 -/
theorem parentColumn_run (col : Column) (scope : Scope) (c : Compiler) :
    (scope.parent = none → ∃ e, (parentColumn (.column col) scope).run c = .error e ∧
        e.kindName = "ContractError") ∧
      ∀ ptag prow, scope.parent = some (ptag, prow) →
        (col.model ≠ ptag → ∃ e, (parentColumn (.column col) scope).run c = .error e ∧
          e.kindName = "ColumnOwnershipError") ∧
        (col.model = ptag →
          (parentColumn (.column col) scope).run c = .ok (prow ++ "." ++ c.dialect.identifier col.name, c)) := by
  refine ⟨fun hnone => ?_, fun ptag prow hsome => ⟨fun hother => ?_, fun hsame => ?_⟩⟩
  · simp only [Build.parentColumn, hnone]
    exact ⟨_, rfl, rfl⟩
  · simp only [Build.parentColumn, hsome]
    rw [if_pos (by simpa using hother)]
    exact ⟨_, rfl, rfl⟩
  · simp only [Build.parentColumn, hsome]
    rw [if_neg (by simpa using hsame)]
    rfl

theorem run_dialect (c : Compiler) : dialect.run c = .ok (c.dialect, c) := rfl

theorem except_ok_bind {ε α β : Type} (a : α) (f : α → Except ε β) : (Except.ok a >>= f) = f a := rfl

theorem run_name_column (kc : Column) (c : Compiler) :
    (name (.column kc)).run c = .ok (c.dialect.identifier kc.name, c) := rfl

theorem run_name_str (s : String) (c : Compiler) : (name (.str s)).run c = .ok (c.dialect.identifier s, c) := rfl

/-- 値が `parent_ref` の条件は、外側の列の訳をそのまま `=` の右に置く。 -/
theorem run_columnCondition_parentRef (n : String) (col : Value) (scope : Scope) (c : Compiler) :
    (columnCondition n (.parentRef col) scope).run c =
      ((parentColumn col scope).run c).map fun r => (n ++ " = " ++ r.1, r.2) := by
  simp only [Build.columnCondition, StateT.run_bind, run_dialect, except_ok_bind]
  rcases hp : (parentColumn col scope).run c with e | ⟨r, c'⟩ <;> rfl

/-- 列か印のない列名のキーに `parent_ref` を渡した条件の要素は、キーの名前 `= 外側の列` になる。
失敗するなら外側の列の訳と同じ失敗。 -/
theorem run_entry_parentRef {k : Nat} {key : Value} {keyName : String}
    (hkey : (∃ kc, key = .column kc ∧ kc.name = keyName) ∨ (key = .str keyName ∧ Sql.countMarkers keyName = 0))
    (col : Value) (scope : Scope) (c : Compiler) :
    (entry (k + 1) (.tuple [key, .parentRef col]) scope).run c =
      ((parentColumn col scope).run c).map fun r => (some (c.dialect.identifier keyName ++ " = " ++ r.1), r.2) := by
  simp only [Build.entry, Value.isPredicate, Bool.false_eq_true, if_false]
  rcases hkey with ⟨kc, rfl, rfl⟩ | ⟨rfl, hzero⟩
  · simp only [StateT.run_bind, run_name_column, except_ok_bind, run_columnCondition_parentRef]
    cases (parentColumn col scope).run c <;> rfl
  · simp only [hzero, gt_iff_lt, Nat.lt_irrefl, if_false, StateT.run_bind, run_name_str, except_ok_bind,
      run_columnCondition_parentRef]
    cases (parentColumn col scope).run c <;> rfl

/-- `IN`、`NOT IN`、`ILIKE` でない比べる演算子で `parent_ref` と比べる述語は、`列 演算子 外側の列` になる。
失敗するなら外側の列の訳と同じ失敗。 -/
theorem run_comparison_parentRef {o : String} (hop : comparisonOperators.contains (Sql.upperWord o) = true)
    (hin : Sql.upperWord o ≠ "IN" ∧ Sql.upperWord o ≠ "NOT IN") (hilike : Sql.upperWord o ≠ "ILIKE")
    (cc : Column) (col : Value) (scope : Scope) (c : Compiler) :
    (comparison (.column cc) (.str o) (.parentRef col) scope).run c =
      ((parentColumn col scope).run c).map fun r =>
        (some (c.dialect.identifier cc.name ++ " " ++ Sql.upperWord o ++ " " ++ r.1), r.2) := by
  have hin' : (Sql.upperWord o == "IN" || Sql.upperWord o == "NOT IN") = false := by
    simp [hin.1, hin.2]
  have hilike' : (Sql.upperWord o == "ILIKE") = false := by simp [hilike]
  simp only [Build.comparison, StateT.run_bind, run_dialect, except_ok_bind, StateT.run_pure, pure_bind, hop,
    Bool.not_true,
    Bool.false_eq_true, if_false, run_name_column, hin', hilike']
  cases (parentColumn col scope).run c <;> rfl

/-! ## 最上位の場所 -/

theorem counts_any {α : Type} (n : Nat) (x : Build α) : Counts n (fun _ _ => True) x := fun _ _ _ _ _ => trivial

theorem counts_lift {α : Type} (n : Nat) (e : Except Fault α) : Counts n (fun n' a => n' = n ∧ e = .ok a) (lift e) := by
  cases e with
  | error err => exact Counts.fail err
  | ok a => exact Counts.pure ⟨rfl, rfl⟩

theorem counts_trace {α : Type} (n : Nat) (x : Build α) :
    Counts n (fun n' a => ∃ c c', c.subqueries = n ∧ x.run c = .ok (a, c') ∧ c'.subqueries = n') x :=
  fun c _ c' hc h => ⟨c, c', hc, h, rfl⟩

theorem toStatement_run {d : Dialect} {cat : Catalog} {mark : Nat → String} {b : Build String} {st : Statement}
    (h : toStatement d cat mark b = .ok st) : ∃ c, b.run { dialect := d, catalog := cat, mark } = .ok (st.sql, c) := by
  unfold toStatement at h
  split at h
  · next sql c hrun =>
    cases h
    exact ⟨c, hrun⟩
  · cases h

/-- 文の `WHERE` が、条件の並びを、モデルの標識と行の名前 `rowName` の外側のない場所で、
副問い合わせの数 0 から訳したもの。 -/
def TopWhere (entries : List Value) (tag rowName sql : String) : Prop :=
  ∃ c c' w pre post, c.subqueries = 0 ∧ (conditions entries { tag, rowName }).run c = .ok (w, c') ∧
    sql = pre ++ Statement.whereSuffix w ++ post

theorem select_topWhere {d : Dialect} {cat : Catalog} {m : Meta} {conds : Value} {opts : FindOptions}
    {mark : Nat → String} {st : Statement} (h : Statement.select d cat m conds opts mark = .ok st) :
    ∃ entries, conds.normalizeConditions = .ok entries ∧
      TopWhere (m.defaultFilter ++ entries) m.tag (d.identifier m.table) st.sql := by
  unfold Statement.select at h
  obtain ⟨c, hrun⟩ := toStatement_run h
  refine Counts.run (n := 0) (R := fun _ sql => ∃ entries, conds.normalizeConditions = .ok entries ∧
    TopWhere (m.defaultFilter ++ entries) m.tag (d.identifier m.table) sql) ?_ rfl hrun
  refine (quiet_withClause m opts).bind_counts fun withSql => ?_
  extract_lets table group order lock
  refine (quiet_selectList opts table).bind_counts fun cols => ?_
  refine (quiet_joinClause opts).bind_counts fun join => ?_
  refine (counts_lift 0 _).bind fun n₁ entries ⟨hn₁, hentries⟩ => ?_
  subst hn₁
  refine (counts_trace 0 _).bind fun n₂ w ⟨c₁, c₂, hc₁, hrun₁, _⟩ => ?_
  extract_lets whereSql jp
  -- 条件の後の句（まとめ、整列、上限、行の鍵）は `WHERE` の後ろに付くだけ
  refine Counts.mono (R := fun _ sql => ∃ post, sql = withSql ++ "SELECT " ++ cols ++ " FROM " ++ table ++ join ++
    whereSql ++ post) ?_ fun _ sql ⟨post, hsql⟩ => ⟨entries, hentries, c₁, c₂, w, _, post, hc₁, hrun₁, hsql⟩
  have hjp : ∀ n g, Counts n (fun _ sql => ∃ post, sql = withSql ++ "SELECT " ++ cols ++ " FROM " ++ table ++ join ++
      whereSql ++ post) (jp g) := by
    intro n g
    dsimp -zeta only [jp]
    extract_lets jp₁
    have hjp₁ : ∀ n o, Counts n (fun _ sql => ∃ post, sql = withSql ++ "SELECT " ++ cols ++ " FROM " ++ table ++
        join ++ whereSql ++ post) (jp₁ o) := by
      intro n o
      simp only [jp₁]
      exact (counts_any _ _).bind fun _ _ _ => Counts.pure ⟨_, by simp only [String.append_assoc]; rfl⟩
    split
    · exact (counts_any _ _).bind fun _ _ _ => (counts_any _ _).bind fun _ o _ => hjp₁ _ o
    · exact (counts_any _ _).bind fun _ o _ => hjp₁ _ o
  split
  · exact (counts_any _ _).bind fun _ _ _ => (counts_any _ _).bind fun _ _ _ =>
      (counts_any _ _).bind fun _ g _ => hjp _ g
  · exact (counts_any _ _).bind fun _ g _ => hjp _ g

theorem count_topWhere {d : Dialect} {cat : Catalog} {m : Meta} {conds : Value} {opts : FindOptions}
    {mark : Nat → String} {st : Statement} (h : Statement.count d cat m conds opts mark = .ok st) :
    ∃ entries, conds.normalizeConditions = .ok entries ∧
      TopWhere (m.defaultFilter ++ entries) m.tag (d.identifier m.table) st.sql := by
  unfold Statement.count at h
  obtain ⟨c, hrun⟩ := toStatement_run h
  refine Counts.run (n := 0) (R := fun _ sql => ∃ entries, conds.normalizeConditions = .ok entries ∧
    TopWhere (m.defaultFilter ++ entries) m.tag (d.identifier m.table) sql) ?_ rfl hrun
  refine (quiet_withClause m opts).bind_counts fun withSql => ?_
  extract_lets table
  refine (quiet_joinClause opts).bind_counts fun join => ?_
  refine (counts_lift 0 _).bind fun n₁ entries ⟨hn₁, hentries⟩ => ?_
  subst hn₁
  refine (counts_trace 0 _).bind fun n₂ w ⟨c₁, c₂, hc₁, hrun₁, _⟩ => Counts.pure ?_
  exact ⟨entries, hentries, c₁, c₂, w, withSql ++ "SELECT COUNT(*) AS count FROM " ++ table ++ join, "", hc₁, hrun₁,
    String.append_empty.symm⟩

/-! ### 書き込みの文 -/

/-- 状態についての前条件と後条件。 -/
def Triple {α : Type} (P : Compiler → Prop) (x : Build α) (Q : α → Compiler → Prop) : Prop :=
  ∀ c a c', P c → x.run c = .ok (a, c') → Q a c'

section Triple

variable {α β : Type} {P : Compiler → Prop}

theorem Triple.pure {Q : α → Compiler → Prop} {a : α} (h : ∀ c, P c → Q a c) : Triple P (Pure.pure a) Q := by
  intro c a' c' hc hrun
  simp only [Pure.pure] at hrun
  cases hrun
  exact h c hc

theorem Triple.bind {Q : α → Compiler → Prop} {R : β → Compiler → Prop} {x : Build α} {g : α → Build β}
    (hx : Triple P x Q) (hg : ∀ a, Triple (Q a) (g a) R) : Triple P (x >>= g) R := by
  intro c b c'' hc hrun
  obtain ⟨a, c', h1, h2⟩ := run_bind_ok hrun
  exact hg a c' b c'' (hx c a c' hc h1) h2

theorem Triple.fail {Q : α → Compiler → Prop} (e : Fault) : Triple P (Build.fail e) Q := by
  intro c a c' _ hrun
  cases hrun

theorem triple_any (x : Build α) : Triple P x fun _ _ => True := fun _ _ _ _ _ => trivial

theorem triple_trace (x : Build α) : Triple P x fun a c' => ∃ c, P c ∧ x.run c = .ok (a, c') :=
  fun c _ _ hc hrun => ⟨c, hc, hrun⟩

/-- 束縛した値のほかを変えない計算は、副問い合わせの数と方言についての前条件を保つ。 -/
theorem Quiet.triple {x : Build α} (h : Quiet x) (n : Nat) (d : Dialect) :
    Triple (fun c => c.subqueries = n ∧ c.dialect = d) x fun _ c' => c'.subqueries = n ∧ c'.dialect = d := by
  intro c a c' ⟨hn, hd⟩ hrun
  exact ⟨(h.subqueries_eq hrun).trans hn, (h.dialect_eq hrun).trans hd⟩

theorem Quiet.bind_triple {R : β → Compiler → Prop} {x : Build α} {g : α → Build β} (hx : Quiet x) {n : Nat}
    {d : Dialect} (hg : ∀ a, Triple (fun c => c.subqueries = n ∧ c.dialect = d) (g a) R) :
    Triple (fun c => c.subqueries = n ∧ c.dialect = d) (x >>= g) R :=
  (hx.triple n d).bind hg

theorem triple_lift {n : Nat} {d : Dialect} (e : Except Fault α) :
    Triple (fun c => c.subqueries = n ∧ c.dialect = d) (lift e)
      fun a c' => (c'.subqueries = n ∧ c'.dialect = d) ∧ e = .ok a := by
  cases e with
  | error err => exact Triple.fail err
  | ok a => exact Triple.pure fun c hc => ⟨hc, rfl⟩

theorem Triple.pre_and {Q : Prop} {R : α → Compiler → Prop} {x : Build α} (h : Q → Triple P x R) :
    Triple (fun c => P c ∧ Q) x R :=
  fun c a c' ⟨hc, hq⟩ hrun => h hq c a c' hc hrun

theorem triple_dialect {n : Nat} {d : Dialect} :
    Triple (fun c => c.subqueries = n ∧ c.dialect = d) dialect
      fun d' c' => (c'.subqueries = n ∧ c'.dialect = d) ∧ d' = d := by
  intro c a c' hc hrun
  cases hrun
  exact ⟨hc, hc.2⟩

end Triple

/-- 書き込みに要る `WHERE` は、条件の並びを、書き込む表の引用した名前を行の名前にし、外側のない場所で訳す。 -/
theorem requiredWhere_top (m : Meta) (conds : Value) (operation : String) (n : Nat) (d : Dialect) :
    Triple (fun c => c.subqueries = n ∧ c.dialect = d) (requiredWhere m conds operation)
      fun w c' => ∃ entries c, conds.normalizeConditions = .ok entries ∧ c.subqueries = n ∧
        (conditions entries { tag := m.tag, rowName := d.identifier m.writeTable }).run c = .ok (some w, c') := by
  unfold requiredWhere
  refine triple_dialect.bind fun d' => Triple.pre_and fun hd' => ?_
  subst hd'
  refine (triple_lift _).bind fun entries => Triple.pre_and fun hentries => ?_
  refine (triple_trace _).bind fun w => ?_
  cases w with
  | some w => exact Triple.pure fun c' ⟨c, hc, hrun⟩ => ⟨entries, c, hentries, hc.1, hrun⟩
  | none => exact Triple.fail _

theorem Triple.statement {d : Dialect} {cat : Catalog} {mark : Nat → String} {b : Build String}
    {R : String → Prop} (hb : Triple (fun c => c.subqueries = 0 ∧ c.dialect = d) b fun sql _ => R sql)
    {st : Statement} (h : toStatement d cat mark b = .ok st) : R st.sql := by
  obtain ⟨c, hrun⟩ := toStatement_run h
  exact hb _ _ c ⟨rfl, rfl⟩ hrun

theorem delete_topWhere {d : Dialect} {cat : Catalog} {m : Meta} {conds : Value} {opts : WriteOptions}
    {mark : Nat → String} {st : Statement} (h : Statement.delete d cat m conds opts mark = .ok st) :
    ∃ entries, conds.normalizeConditions = .ok entries ∧ TopWhere entries m.tag (d.identifier m.writeTable) st.sql := by
  unfold Statement.delete at h
  refine Triple.statement (R := fun sql => ∃ entries, conds.normalizeConditions = .ok entries ∧
    TopWhere entries m.tag (d.identifier m.writeTable) sql) ?_ h
  refine (triple_lift _).bind fun _ => Triple.pre_and fun _ => ?_
  refine (requiredWhere_top m conds "delete" 0 d).bind fun w => ?_
  intro c₁ sql c₃ ⟨entries, c, hentries, hc, hrun⟩ hrest
  obtain ⟨r, c₂, -, hpure⟩ := run_bind_ok hrest
  cases hpure
  exact ⟨entries, hentries, c, c₁, some w, "DELETE FROM " ++ d.identifier m.writeTable, r, hc, hrun,
    by simp only [Statement.whereSuffix, String.append_assoc]⟩

theorem update_topWhere {d : Dialect} {cat : Catalog} {m : Meta} {conds values : Value} {opts : WriteOptions}
    {mark : Nat → String} {st : Statement} (h : Statement.update d cat m conds values opts mark = .ok st) :
    ∃ entries, conds.normalizeConditions = .ok entries ∧ TopWhere entries m.tag (d.identifier m.writeTable) st.sql := by
  unfold Statement.update at h
  refine Triple.statement (R := fun sql => ∃ entries, conds.normalizeConditions = .ok entries ∧
    TopWhere entries m.tag (d.identifier m.writeTable) sql) ?_ h
  refine (triple_lift _).bind fun _ => Triple.pre_and fun _ => ?_
  refine (triple_lift _).bind fun row => Triple.pre_and fun _ => ?_
  extract_lets table jp
  -- 書き込む値の代入は名前と値だけを書き、その後に書き込みに要る `WHERE` が続く
  have hjp : ∀ u, Triple (fun c => c.subqueries = 0 ∧ c.dialect = d) (jp u) fun sql _ =>
      ∃ entries, conds.normalizeConditions = .ok entries ∧ TopWhere entries m.tag (d.identifier m.writeTable) sql := by
    intro u
    simp only [jp]
    refine (quiet_mapM (fun x => ?_) row).bind_triple fun sets => ?_
    · obtain ⟨c, v⟩ := x
      exact (quiet_name _).bind fun _ => (quiet_value v).bind fun _ => quiet_pure _
    refine (requiredWhere_top m conds "update" 0 d).bind fun w => ?_
    intro c₁ sql c₃ ⟨entries, c, hentries, hc, hrun⟩ hrest
    obtain ⟨r, c₂, -, hpure⟩ := run_bind_ok hrest
    cases hpure
    exact ⟨entries, hentries, c, c₁, some w, "UPDATE " ++ table ++ " SET " ++ ", ".intercalate sets,
      r, hc, hrun, by simp only [Statement.whereSuffix, String.append_assoc]⟩
  split
  · exact (Triple.fail _).bind fun u => hjp u
  · exact hjp ()

theorem selectKeys_topWhere {d : Dialect} {cat : Catalog} {m : Meta} {conds : Value} {operation : String}
    {forUpdate : Bool} {mark : Nat → String} {st : Statement}
    (h : Statement.selectKeys d cat m conds operation forUpdate mark = .ok st) :
    ∃ entries, conds.normalizeConditions = .ok entries ∧ TopWhere entries m.tag (d.identifier m.writeTable) st.sql := by
  unfold Statement.selectKeys at h
  refine Triple.statement (R := fun sql => ∃ entries, conds.normalizeConditions = .ok entries ∧
    TopWhere entries m.tag (d.identifier m.writeTable) sql) ?_ h
  refine (triple_lift _).bind fun _ => Triple.pre_and fun _ => ?_
  refine (requiredWhere_top m conds operation 0 d).bind fun w => ?_
  intro c₁ sql c₃ ⟨entries, c, hentries, hc, hrun⟩ hrest
  obtain ⟨cols, c₂, -, hpure⟩ := run_bind_ok hrest
  cases hpure
  exact ⟨entries, hentries, c, c₁, some w, "SELECT " ++ ", ".intercalate cols ++ " FROM " ++ d.identifier m.writeTable,
    _, hc, hrun, by simp only [Statement.whereSuffix, String.append_assoc]; rfl⟩

/-! ## 副問い合わせの別名と外側の行の法則 -/

/-- 副問い合わせの別名と外側の行の法則。
* どの燃料、条件の並び、場所、状態でも、`WHERE` の訳には、その間に作った副問い合わせの別名
  `_sq(n+1)`, …, `_sq(n')` がこの順に現れる（`n`, `n'` は始めと終わりの副問い合わせの数）。
* 副問い合わせは数を一つ進めた `_sq(n+1)` を別名とし、その条件をこの別名を行の名前に、
  すぐ外側の行を外側として訳す。
* 検索と件数の文は表の引用した名前を、キーを読む文、更新、削除の文は書き込む表の引用した名前を
  行の名前にし、外側のない場所で、副問い合わせの数 0 から条件を訳して `WHERE` に置く。
* `parent_ref(c)` の列は、外側がなければ契約違反、外側のモデルの列でなければ列の持ち主の違反、
  そうでなければ外側の行の名前で修飾した列名になる。列か印のない列名のキーの値、
  また `IN`、`NOT IN`、`ILIKE` でない比べる演算子の値としての `parent_ref` は、この訳をそのまま使う。 -/
theorem subquery_aliases_scoped (d : Dialect) (cat : Catalog) (mark : Nat → String) :
    (∀ (k : Nat) (entries : List Value) (scope : Scope) (c c' : Compiler) (w : Option String),
      (whereClause k entries scope).run c = .ok (w, c') → OptNumbered c.subqueries c'.subqueries w) ∧
    (∀ (k : Nat) (m : Meta) (conds : List Value) (scope : Scope) (c c' : Compiler) (t : String),
      (subquery (k + 1) m conds scope).run c = .ok (t, c') →
      ∃ src c₁ w, c₁.subqueries = c.subqueries + 1 ∧
        (whereClause k conds
          { tag := m.tag, rowName := "_sq" ++ toString (c.subqueries + 1), parent := some (scope.tag, scope.rowName) }).run
            c₁ = .ok (w, c') ∧
        t = src ++ " AS " ++ "_sq" ++ toString (c.subqueries + 1) ++ Statement.whereSuffix w) ∧
    (∀ (m : Meta) (conds : Value) (opts : FindOptions) (st : Statement),
      Statement.select d cat m conds opts mark = .ok st →
      ∃ entries, conds.normalizeConditions = .ok entries ∧
        TopWhere (m.defaultFilter ++ entries) m.tag (d.identifier m.table) st.sql) ∧
    (∀ (m : Meta) (conds : Value) (opts : FindOptions) (st : Statement),
      Statement.count d cat m conds opts mark = .ok st →
      ∃ entries, conds.normalizeConditions = .ok entries ∧
        TopWhere (m.defaultFilter ++ entries) m.tag (d.identifier m.table) st.sql) ∧
    (∀ (m : Meta) (conds : Value) (operation : String) (forUpdate : Bool) (st : Statement),
      Statement.selectKeys d cat m conds operation forUpdate mark = .ok st →
      ∃ entries, conds.normalizeConditions = .ok entries ∧ TopWhere entries m.tag (d.identifier m.writeTable) st.sql) ∧
    (∀ (m : Meta) (conds values : Value) (opts : WriteOptions) (st : Statement),
      Statement.update d cat m conds values opts mark = .ok st →
      ∃ entries, conds.normalizeConditions = .ok entries ∧ TopWhere entries m.tag (d.identifier m.writeTable) st.sql) ∧
    (∀ (m : Meta) (conds : Value) (opts : WriteOptions) (st : Statement),
      Statement.delete d cat m conds opts mark = .ok st →
      ∃ entries, conds.normalizeConditions = .ok entries ∧ TopWhere entries m.tag (d.identifier m.writeTable) st.sql) ∧
    (∀ (col : Column) (scope : Scope) (c : Compiler),
      (scope.parent = none → ∃ e, (parentColumn (.column col) scope).run c = .error e ∧
          e.kindName = "ContractError") ∧
        ∀ ptag prow, scope.parent = some (ptag, prow) →
          (col.model ≠ ptag → ∃ e, (parentColumn (.column col) scope).run c = .error e ∧
            e.kindName = "ColumnOwnershipError") ∧
          (col.model = ptag →
            (parentColumn (.column col) scope).run c = .ok (prow ++ "." ++ c.dialect.identifier col.name, c))) ∧
    (∀ (k : Nat) (key : Value) (keyName : String),
      ((∃ kc, key = .column kc ∧ kc.name = keyName) ∨ (key = .str keyName ∧ Sql.countMarkers keyName = 0)) →
      ∀ (col : Value) (scope : Scope) (c : Compiler),
        (entry (k + 1) (.tuple [key, .parentRef col]) scope).run c =
          ((parentColumn col scope).run c).map fun r => (some (c.dialect.identifier keyName ++ " = " ++ r.1), r.2)) ∧
    (∀ o : String, comparisonOperators.contains (Sql.upperWord o) = true →
      (Sql.upperWord o ≠ "IN" ∧ Sql.upperWord o ≠ "NOT IN") → Sql.upperWord o ≠ "ILIKE" →
      ∀ (cc : Column) (col : Value) (scope : Scope) (c : Compiler),
        (comparison (.column cc) (.str o) (.parentRef col) scope).run c =
          ((parentColumn col scope).run c).map fun r =>
            (some (c.dialect.identifier cc.name ++ " " ++ Sql.upperWord o ++ " " ++ r.1), r.2)) :=
  ⟨fun _ _ _ _ _ _ h => whereClause_numbered h,
    fun _ _ _ _ _ _ _ h => subquery_scope h,
    fun _ _ _ _ h => select_topWhere h,
    fun _ _ _ _ h => count_topWhere h,
    fun _ _ _ _ _ h => selectKeys_topWhere h,
    fun _ _ _ _ _ h => update_topWhere h,
    fun _ _ _ _ h => delete_topWhere h,
    parentColumn_run,
    fun _ _ _ hkey col scope c => run_entry_parentRef hkey col scope c,
    fun _ hop hin hilike cc col scope c => run_comparison_parentRef hop hin hilike cc col scope c⟩

/-! ### 利用者とその投稿 -/

/-- 投稿の表の列。 -/
def postColumn (name : String) : Column := { name, property := name, table := "posts", model := "Post" }

/-- 利用者の表の列。 -/
def userColumn (name : String) : Column := { name, property := name, table := "users", model := "User" }

/-- 利用者の行 `users` の下の、投稿の最初の副問い合わせ。 -/
def postsUnderUsers : Scope := { tag := "Post", rowName := "_sq1", parent := some ("User", "users") }

/-- 投稿の副問い合わせの中で、投稿の `user_id` を外側の利用者の `id` と比べる。 -/
theorem posts_of_user_correlated :
    ((comparison (.column (postColumn "user_id")) (.str "=") (.parentRef (.column (userColumn "id")))
      postsUnderUsers).run { dialect := .postgresql, catalog := {} }).toOption.map Prod.fst =
      some (some "user_id = users.id") := by
  obtain ⟨-, -, -, -, -, -, -, hparent, -, hcompare⟩ := subquery_aliases_scoped .postgresql {} fun _ => "?"
  rw [hcompare "=" (by decide) (by decide) (by decide)]
  rw [(hparent (userColumn "id") postsUnderUsers _).2 "User" "users" rfl |>.2 rfl]
  decide +kernel

/-- `ILIKE` の値に渡した `parent_ref` は外側の列にならず、値として束縛される。 -/
theorem ilike_parentRef_bound :
    ((comparison (.column (postColumn "title")) (.str "ilike") (.parentRef (.column (userColumn "name")))
      postsUnderUsers).run { dialect := .postgresql, catalog := {} }).toOption.map
        (fun r => (r.1, r.2.bound.length)) = some (some "title ILIKE ?", 1) := by
  decide +kernel

end DataAccess.Build
