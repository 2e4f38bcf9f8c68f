import Mathlib.Data.List.Forall2
import DataAccess.Proofs.Subqueries
import DataAccess.Proofs.HardLimits
import DataAccess.Proofs.WriteKeys
import DataAccess.Proofs.Placeholders
/-!
# 主キーでの検索

主キーの値から作る条件（`keyCondition`）と、それを条件の並びにした検索の文。

* 渡せるキーは主キーの結果、キーの行の並び、値の並び、一つの値。どれもキーの行の並び（`keyRows`）に
  読み直し、幅が主キーの列の数と違う行や、別のキーの主キーの結果は、文を作る前に拒む。
* 主キーが一列なら `pk IN (?, …)`、複数なら `(c₁, …, c_w) IN ((?, …), …)`、行がなければ `1 = 0`
  （`keyText`）。値はキーの行を左から、行の中も左から束縛する。
* この条件を SQL として読むと（`KeyMatch`）、行が満たすのは、行の主キーの値の組がキーの行のどれかと
  成分ごとに等しいときに限る。
* 検索の文は、モデルの既定の絞り込みを先に置いた条件の並びの `WHERE` を持つ。だから主キーの条件は
  既定の絞り込みの後ろに AND で繋がり、その値はそれまでに束縛した値（問い合わせのモデルの本体、共通表式、
  結合、既定の絞り込みの値）の後ろに並ぶ。既定の絞り込みを満たさない行は、キーを渡しても返らない。
-/

namespace DataAccess

namespace Build

/-! ## 値を束縛する計算 -/

/-- 計算 `x` は、方言 `d` で印を `?` と書く状態から走らせると、状態によらない結果 `t` を返し、
値の並び `ps` を順に束縛する（`ps` を作れなければ、その失敗で止まる）。ほかの欄は変えない。 -/
def Binds {α : Type} (d : Dialect) (x : Build α) (t : α) (ps : Except Fault (List Value)) : Prop :=
  ∀ c : Compiler, c.dialect = d → (∀ i, c.mark i = "?") →
    x.run c = ps.map fun ps => (t, { c with bound := ps.reverse ++ c.bound })

section Binds

variable {α β γ : Type} {d : Dialect}

theorem run_bind (v : Value) (c : Compiler) :
    (bind v).run c =
      (c.dialect.adaptParam v).map fun p => (c.mark c.bound.length, { c with bound := p :: c.bound }) := by
  cases hp : c.dialect.adaptParam v with
  | error e => simp [Build.bind, Build.dialect, Build.lift, hp]; rfl
  | ok p => simp [Build.bind, Build.dialect, Build.lift, hp]; rfl

theorem binds_bind (v : Value) : Binds d (bind v) "?" ((d.adaptParam v).map ([·])) := by
  intro c hd hmark
  rw [run_bind, hmark, hd]
  cases d.adaptParam v <;> rfl

theorem binds_pure (a : α) : Binds d (pure a : Build α) a (.ok []) := by
  intro c _ _
  rfl

theorem Binds.map_pure {x : Build α} {t : α} {ps : Except Fault (List Value)} (h : Binds d x t ps) (f : α → β) :
    Binds d (x >>= fun a => pure (f a)) (f t) ps := by
  intro c hd hmark
  rw [StateT.run_bind, h c hd hmark]
  cases ps <;> rfl

theorem Binds.mapM {g : γ → Build α} {t : γ → α} {ps : γ → Except Fault (List Value)} :
    ∀ {xs : List γ}, (∀ x ∈ xs, Binds d (g x) (t x) (ps x)) →
      Binds d (xs.mapM g) (xs.map t) ((xs.mapM ps).map List.flatten)
  | [], _ => fun _ _ _ => rfl
  | x :: xs, h => by
    intro c hd hmark
    have hx := h x List.mem_cons_self c hd hmark
    simp only [List.mapM_cons]
    rw [StateT.run_bind, hx]
    cases hpx : ps x with
    | error e => rfl
    | ok p =>
      -- 残りの要素は、`x` の値を積んだ状態から走らせる
      have hrest := Binds.mapM (fun y hy => h y (List.mem_cons_of_mem x hy))
        { c with bound := p.reverse ++ c.bound } hd hmark
      simp only [Except.map, except_ok_bind]
      rw [StateT.run_bind, hrest]
      cases xs.mapM ps with
      | error e => rfl
      | ok qs =>
        show Except.ok _ = Except.ok _
        simp

theorem Binds.bind {x : Build α} {g : α → Build β} {t : α} {u : β} {ps qs : Except Fault (List Value)}
    (hx : Binds d x t ps) (hg : Binds d (g t) u qs) :
    Binds d (x >>= g) u (ps.bind fun p => qs.map (p ++ ·)) := by
  intro c hd hmark
  rw [StateT.run_bind, hx c hd hmark]
  cases ps with
  | error e => rfl
  | ok p =>
    simp only [Except.map, except_ok_bind]
    rw [hg { c with bound := p.reverse ++ c.bound } hd hmark]
    cases qs with
    | error e => rfl
    | ok q =>
      show Except.ok _ = Except.ok _
      simp

theorem Binds.bind_nil {x : Build α} {g : α → Build β} {t : α} {u : β} {qs : Except Fault (List Value)}
    (hx : Binds d x t (.ok [])) (hg : Binds d (g t) u qs) : Binds d (x >>= g) u qs := by
  cases qs <;> exact hx.bind hg

theorem mapM_singleton_flatten {ε : Type} (f : γ → Except ε β) :
    ∀ xs : List γ, ((xs.mapM fun x => (f x).map ([·])).map List.flatten) = xs.mapM f
  | [] => rfl
  | x :: xs => by
    simp only [List.mapM_cons]
    cases f x with
    | error e => rfl
    | ok b =>
      have ih := mapM_singleton_flatten f xs
      revert ih
      cases xs.mapM f <;> cases xs.mapM fun x => (f x).map ([·]) <;> intro ih <;> cases ih <;> rfl

theorem binds_name_column (col : Column) : Binds d (name (.column col)) (d.identifier col.name) (.ok []) := by
  intro c hd _
  subst hd
  rw [run_name_column]
  rfl

theorem binds_names : ∀ cols : List Column,
    Binds d ((cols.map Value.column).mapM name) (cols.map fun col => d.identifier col.name) (.ok [])
  | [] => by
    rw [List.map_nil, List.mapM_nil]
    exact binds_pure []
  | col :: cols => by
    rw [List.map_cons, List.mapM_cons]
    exact (binds_name_column col).bind_nil ((binds_names cols).map_pure _)

theorem binds_forIn_yield {body : γ → PUnit → Build (ForInStep PUnit)} :
    ∀ xs : List γ, (∀ x ∈ xs, body x ⟨⟩ = pure (.yield ⟨⟩)) → Binds d (forIn xs ⟨⟩ body) ⟨⟩ (.ok [])
  | [], _ => by
    rw [List.forIn_nil]
    exact binds_pure _
  | x :: xs, h => by
    rw [List.forIn_cons, h x List.mem_cons_self, pure_bind]
    exact binds_forIn_yield xs fun y hy => h y (List.mem_cons_of_mem x hy)

theorem binds_inList (col : String) (vals : List Value) :
    Binds d (inList col vals) (if vals.isEmpty then "1 = 0"
      else col ++ " IN (" ++ ", ".intercalate (List.replicate vals.length "?") ++ ")") (vals.mapM d.adaptParam) := by
  unfold inList
  cases vals with
  | nil => exact binds_pure _
  | cons v vs =>
    have h := (Binds.mapM fun x (_ : x ∈ v :: vs) => binds_bind (d := d) x).map_pure
      fun marks => col ++ " IN (" ++ ", ".intercalate marks ++ ")"
    rw [mapM_singleton_flatten, List.map_const'] at h
    simpa only [List.isEmpty_cons, Bool.false_eq_true, if_false] using h

end Binds

/-! ## 主キーの条件 -/

/-- 主キーの条件の文。主キーの列が `pk`、キーの行が `n` 個。印は `?` で、値はキーの行を左から、
行の中も左から束縛する。行がなければ常に偽の `1 = 0`。 -/
def keyText (d : Dialect) (pk : List Column) (n : Nat) : String :=
  if n = 0 then "1 = 0"
  else match pk with
    | [c] => d.identifier c.name ++ " IN (" ++ ", ".intercalate (List.replicate n "?") ++ ")"
    | _ => "(" ++ ", ".intercalate (pk.map fun c => d.identifier c.name) ++ ") IN (" ++
        ", ".intercalate (List.replicate n ("(" ++ ", ".intercalate (List.replicate pk.length "?") ++ ")")) ++ ")"

/-- キーの行の値を、方言の渡せる形にして行ごとに並べる。 -/
def keyParams (d : Dialect) (rows : List (List Value)) : Except Fault (List (List Value)) :=
  rows.mapM fun r => r.mapM d.adaptParam

/-- 主キーの条件の要素。主キーが一列なら `(列, [値…])`、複数なら組の `IN`。 -/
def keyEntry (pk : List Column) (rows : List (List Value)) : Value :=
  match pk with
  | [c] => .tuple [.column c, .list (rows.map fun r => r.headD .none)]
  | _ => .tupleIn (pk.map Value.column) (rows.map Value.tuple)

section KeyEntry

variable {d : Dialect}

theorem binds_tupleIn_keys (pk : List Column) (rows : List (List Value)) (hw : 2 ≤ pk.length)
    (hrows : ∀ r ∈ rows, r.length = pk.length) :
    Binds d (tupleIn (pk.map Value.column) (rows.map Value.tuple)) (keyText d pk rows.length)
      ((keyParams d rows).map List.flatten) := by
  have hitems : (rows.map Value.tuple).map (fun r => r.tupleItems?.getD []) = rows := by
    rw [List.map_map]
    exact List.map_id'' (fun _ => rfl) rows
  unfold Build.tupleIn
  simp only [hitems, List.length_map]
  rw [if_neg (by simp only [beq_iff_eq]; omega)]
  refine Binds.bind_nil (binds_forIn_yield rows fun r hr => ?_) ?_
  · rw [if_neg (by simp [hrows r hr])]
  cases rows with
  | nil => exact binds_pure _
  | cons r rs =>
    simp only [List.isEmpty_cons, Bool.false_eq_true, if_false]
    refine Binds.bind_nil (binds_names pk) ?_
    rw [if_neg (by simp only [beq_iff_eq]; omega)]
    -- 行ごとに `(?, …)` を書き、行の値を左から束縛する
    have hgroups := (Binds.mapM fun x (_ : x ∈ r :: rs) =>
      (Binds.mapM fun v (_ : v ∈ x) => binds_bind (d := d) v).map_pure
        fun marks => "(" ++ ", ".intercalate marks ++ ")").map_pure
      fun groups => "(" ++ ", ".intercalate (pk.map fun c => d.identifier c.name) ++ ") IN (" ++
        ", ".intercalate groups ++ ")"
    simp only [mapM_singleton_flatten] at hgroups
    obtain ⟨a, b, rest, rfl⟩ : ∃ a b rest, pk = a :: b :: rest := by
      match pk, hw with
      | a :: b :: rest, _ => exact ⟨a, b, rest, rfl⟩
    have htext : (r :: rs).map (fun x => "(" ++ ", ".intercalate (x.map fun _ => "?") ++ ")") =
        List.replicate (r :: rs).length ("(" ++ ", ".intercalate (List.replicate (a :: b :: rest).length "?") ++ ")") := by
      rw [List.eq_replicate_iff]
      refine ⟨List.length_map _, fun g hg => ?_⟩
      obtain ⟨x, hx, rfl⟩ := List.mem_map.1 hg
      rw [List.map_const', hrows x hx]
    rw [htext] at hgroups
    exact hgroups

theorem binds_dialect : Binds d dialect d (.ok []) := by
  intro c hd _
  subst hd
  rfl

theorem keyParams_single : ∀ {rows : List (List Value)}, (∀ r ∈ rows, r.length = 1) →
    (rows.map fun r => r.headD .none).mapM d.adaptParam = (keyParams d rows).map List.flatten
  | [], _ => rfl
  | r :: rs, hrows => by
    obtain ⟨v, rfl⟩ := List.length_eq_one_iff.1 (hrows r List.mem_cons_self)
    have ih := keyParams_single fun r hr => hrows r (List.mem_cons_of_mem _ hr)
    simp only [keyParams, List.map_cons, List.mapM_cons, List.headD_cons, List.mapM_nil] at ih ⊢
    cases d.adaptParam v with
    | error e => rfl
    | ok p =>
      simp only [except_ok_bind]
      rw [ih]
      cases rs.mapM fun r => r.mapM d.adaptParam <;> rfl

/-- 主キーの条件の要素は、`keyText` の文になり、キーの行の値を左から束縛する。 -/
theorem binds_keyEntry (k : Nat) {pk : List Column} {rows : List (List Value)} (hpk : pk ≠ [])
    (hrows : ∀ r ∈ rows, r.length = pk.length) (scope : Scope) :
    Binds d (entry (k + 2) (keyEntry pk rows) scope) (some (keyText d pk rows.length))
      ((keyParams d rows).map List.flatten) := by
  match pk, hpk, hrows with
  | [c], _, hrows =>
    -- 一列なら `(列, [値…])` の要素: 列の名前と値の並びの `IN`
    simp only [keyEntry, Build.entry, Value.isPredicate, Bool.false_eq_true, if_false]
    refine (binds_name_column c).bind_nil ?_
    simp only [Build.columnCondition]
    rw [← keyParams_single hrows]
    have hin := ((binds_dialect (d := d)).bind_nil
      (g := fun _ => inList (d.identifier c.name) (rows.map fun r => r.headD .none)) (binds_inList _ _)).map_pure some
    cases rows with
    | nil => exact hin
    | cons r rs => simpa [keyText] using hin
  | a :: b :: rest, _, hrows =>
    -- 複数の列なら組の `IN` の述語
    simp only [keyEntry, Build.entry, Value.isPredicate, if_true, Build.predicate]
    exact (binds_tupleIn_keys (a :: b :: rest) rows (by simp) hrows).map_pure some

end KeyEntry

/-! ## 訳の枠

条件の訳が状態に残すのは、束縛した値と副問い合わせの数だけ。方言、表の集まり、印の書き方は変えない。 -/

/-- 束縛した値と副問い合わせの数のほかは何も変えない計算。 -/
def Framed {α : Type} (x : Build α) : Prop :=
  ∀ c a c', x.run c = .ok (a, c') → c' = { c with bound := c'.bound, subqueries := c'.subqueries }

section Framed

variable {α β γ : Type}

theorem Quiet.framed {x : Build α} (h : Quiet x) : Framed x := by
  intro c a c' hrun
  calc c' = { c with bound := c'.bound } := h c a c' hrun
    _ = { c with bound := c'.bound, subqueries := c'.subqueries } := by rw [h.subqueries_eq hrun]

theorem Framed.bind {x : Build α} {g : α → Build β} (hx : Framed x) (hg : ∀ a, Framed (g a)) :
    Framed (x >>= g) := by
  intro c b c'' hrun
  obtain ⟨a, c', h1, h2⟩ := run_bind_ok hrun
  calc c'' = { c' with bound := c''.bound, subqueries := c''.subqueries } := hg a c' b c'' h2
    _ = { c with bound := c''.bound, subqueries := c''.subqueries } := by rw [hx c a c' h1]

theorem framed_mapM {g : γ → Build α} (hg : ∀ x, Framed (g x)) : ∀ xs : List γ, Framed (xs.mapM g)
  | [] => by
    rw [List.mapM_nil]
    exact (quiet_pure []).framed
  | x :: xs => by
    rw [List.mapM_cons]
    exact (hg x).bind fun a => (framed_mapM hg xs).bind fun as => (quiet_pure (a :: as)).framed

theorem framed_countSubquery :
    Framed (modify fun c : Compiler => { c with subqueries := c.subqueries + 1 }) := by
  intro c a c' hrun
  cases hrun
  rfl

end Framed

/-- 燃料 `k` の四つの訳は、どれも束縛した値と副問い合わせの数のほかを変えない。 -/
def ClausesFramed (k : Nat) : Prop :=
  (∀ entries scope, Framed (whereClause k entries scope)) ∧ (∀ e scope, Framed (entry k e scope)) ∧
    (∀ p scope, Framed (predicate k p scope)) ∧ (∀ m conds scope, Framed (subquery k m conds scope))

theorem entry_framed_succ {k : Nat} (h : ∀ p scope, Framed (predicate k p scope)) (e : Value) (scope : Scope) :
    Framed (entry (k + 1) e scope) := by
  simp only [Build.entry]
  split
  · exact h e scope
  -- 述語でない要素は、束縛した値のほかを変えない
  refine Quiet.framed ?_
  have hcondition : ∀ key v, Quiet (do
      let c ← columnCondition (← name key) v scope
      Pure.pure (some c)) := fun key v =>
    (quiet_name key).bind fun _ => (quiet_columnCondition _ v scope).bind fun _ => quiet_pure _
  split
  · split
    · exact quiet_pure _
    · split
      · exact hcondition _ _
      · split
        · exact (quiet_fragment _ _).bind fun _ => quiet_pure _
        · exact hcondition _ _
      · exact quiet_fail _
  · exact quiet_fail _

theorem predicate_framed_succ {k : Nat} (hwhere : ∀ entries scope, Framed (whereClause k entries scope))
    (hsub : ∀ m conds scope, Framed (subquery k m conds scope)) (p : Value) (scope : Scope) :
    Framed (predicate (k + 1) p scope) := by
  simp only [Build.predicate]
  split
  · exact (quiet_comparison _ _ _ _).framed
  · exact ((quiet_name _).bind fun _ => (quiet_bind _).bind fun _ => (quiet_bind _).bind fun _ =>
      quiet_pure _).framed
  · exact ((quiet_tupleIn _ _).bind fun _ => quiet_pure _).framed
  · refine (framed_mapM (fun g => hwhere _ scope) _).bind fun parts => ?_
    split <;> exact (quiet_pure _).framed
  · exact ((quiet_bindFragment _ _ _).bind fun _ => quiet_pure _).framed
  · -- `IN` の副問い合わせ: 数を進めるのは副問い合わせの中だけ
    split
    · exact (quiet_fail_bind _ _).framed
    refine (quiet_mapM quiet_pairParts _).framed.bind fun _ => ?_
    refine (quiet_mapM (fun t => ?_) _).framed.bind fun _ => ?_
    · split
      · exact quiet_pure _
      · exact quiet_fail _
    split
    · exact (quiet_fail_bind _ _).framed
    refine quiet_get.framed.bind fun _ => (quiet_lift _).framed.bind fun m => ?_
    refine (quiet_mapM (fun _ => quiet_name _) _).framed.bind fun _ => ?_
    refine (quiet_mapM quiet_name _).framed.bind fun _ => ?_
    exact (hsub m _ scope).bind fun _ => (quiet_pure _).framed
  · split
    · refine quiet_get.framed.bind fun _ => (quiet_lift _).framed.bind fun m => ?_
      exact (hsub m _ scope).bind fun _ => (quiet_pure _).framed
    · exact (quiet_fail _).framed
  · exact (quiet_fail _).framed

/-- 燃料についての帰納法: 燃料が尽きればどれも失敗し、一段の燃料で枠が次の段へ移る。 -/
theorem clauses_framed : ∀ k, ClausesFramed k
  | 0 => by
    refine ⟨fun _ _ => ?_, fun _ _ => ?_, fun _ _ => ?_, fun _ _ _ => ?_⟩ <;>
      simp only [Build.whereClause, Build.entry, Build.predicate, Build.subquery] <;> exact (quiet_fail _).framed
  | k + 1 => by
    obtain ⟨hwhere, hentry, hpred, hsub⟩ := clauses_framed k
    refine ⟨fun entries scope => ?_, entry_framed_succ hpred, predicate_framed_succ hwhere hsub, fun m conds scope => ?_⟩
    · simp only [Build.whereClause]
      refine (framed_mapM (fun e => hentry e scope) _).bind fun parts => ?_
      split <;> exact (quiet_pure _).framed
    · simp only [Build.subquery]
      refine framed_countSubquery.bind fun _ => quiet_get.framed.bind fun _ => (quiet_source m).framed.bind fun _ => ?_
      refine (hwhere conds _).bind fun w => ?_
      split <;> exact (quiet_pure _).framed

theorem conditions_framed (entries : List Value) (scope : Scope) : Framed (conditions entries scope) :=
  (clauses_framed depthLimit).1 entries scope

/-! ## 状態を読むだけの計算 -/

/-- 状態を読むだけで変えない計算。 -/
def Reads {α : Type} (x : Build α) : Prop := ∀ c a c', x.run c = .ok (a, c') → c' = c

section Reads

variable {α β γ : Type}

theorem reads_pure (a : α) : Reads (pure a : Build α) := by
  intro c a' c' hrun
  cases hrun
  rfl

theorem Reads.bind {x : Build α} {g : α → Build β} (hx : Reads x) (hg : ∀ a, Reads (g a)) : Reads (x >>= g) := by
  intro c b c'' hrun
  obtain ⟨a, c', h1, h2⟩ := run_bind_ok hrun
  exact (hg a c' b c'' h2).trans (hx c a c' h1)

theorem reads_lift (e : Except Fault α) : Reads (lift e) := by
  cases e with
  | error err =>
    intro c a c' hrun
    cases hrun
  | ok a => exact reads_pure a

theorem reads_name (v : Value) : Reads (name v) := by
  intro c a c' hrun
  unfold Build.name at hrun
  rw [StateT.run_bind, run_dialect, except_ok_bind] at hrun
  split at hrun <;> cases hrun <;> rfl

theorem reads_mapM {g : γ → Build α} (hg : ∀ x, Reads (g x)) : ∀ xs : List γ, Reads (xs.mapM g)
  | [] => by
    rw [List.mapM_nil]
    exact reads_pure []
  | x :: xs => by
    rw [List.mapM_cons]
    exact (hg x).bind fun a => (reads_mapM hg xs).bind fun as => reads_pure (a :: as)

theorem Reads.bind_triple {x : Build α} {g : α → Build β} {c₀ : Compiler} {Q : β → Compiler → Prop}
    (hx : Reads x) (hg : ∀ a, Triple (· = c₀) (g a) Q) : Triple (· = c₀) (x >>= g) Q := by
  intro c b c'' hc hrun
  obtain ⟨a, c', h1, h2⟩ := run_bind_ok hrun
  exact hg a c' b c'' ((hx c a c' h1).trans hc) h2

end Reads

/-! ## 条件の並びの WHERE -/

/-- 残った条件の訳を AND で繋ぐ（何も残らなければ `none`）。 -/
def andParts (parts : List (Option String)) : Option String :=
  match parts.filterMap id with
  | [] => none
  | ps => some (" AND ".intercalate ps)

/-- 条件の訳 `w` の後ろに、もう一つの条件の訳 `t` を AND で繋ぐ。 -/
def andThen : Option String → Option String → Option String
  | w, none => w
  | none, some t => some t
  | some w, some t => some (w ++ " AND " ++ t)

theorem andParts_append_singleton (parts : List (Option String)) (t : Option String) :
    andParts (parts ++ [t]) = andThen (andParts parts) t := by
  unfold andParts
  rw [List.filterMap_append]
  cases t with
  | none =>
    rw [show List.filterMap id [none] = ([] : List String) from rfl, List.append_nil]
    rfl
  | some t =>
    rw [show List.filterMap id [some t] = [t] from rfl]
    cases parts.filterMap id with
    | nil => simp [andThen]
    | cons p ps =>
      show some (" AND ".intercalate (p :: ps ++ [t])) = some (" AND ".intercalate (p :: ps) ++ " AND " ++ t)
      rw [String.intercalate_append_of_ne_nil (List.cons_ne_nil p ps) (List.cons_ne_nil t []),
        String.intercalate_singleton]

/-- `WHERE` の訳は、要素ごとの訳を左から並べて、残ったものを AND で繋いだもの。 -/
theorem run_whereClause (k : Nat) (entries : List Value) (scope : Scope) (c : Compiler) :
    (whereClause (k + 1) entries scope).run c =
      ((entries.mapM fun e => entry k e scope).run c).map fun r => (andParts r.1, r.2) := by
  simp only [Build.whereClause, StateT.run_bind]
  rcases (entries.mapM fun e => entry k e scope).run c with e | ⟨parts, c'⟩
  · rfl
  · simp only [except_ok_bind, Except.map]
    unfold andParts
    generalize parts.filterMap id = ps
    cases ps <;> rfl

/-- 条件の並びの後ろに一つの要素を足すと、その要素の訳が前の並びの訳の後ろに AND で繋がる。 -/
theorem whereClause_snoc {k : Nat} {entries : List Value} {e : Value} {scope : Scope} {c c' : Compiler}
    {w : Option String} (h : (whereClause (k + 1) (entries ++ [e]) scope).run c = .ok (w, c')) :
    ∃ w₀ c₁ t, (whereClause (k + 1) entries scope).run c = .ok (w₀, c₁) ∧
      (entry k e scope).run c₁ = .ok (t, c') ∧ w = andThen w₀ t := by
  rw [run_whereClause] at h
  rw [run_whereClause]
  rcases hrun : (List.mapM (fun e => entry k e scope) (entries ++ [e])).run c with err | ⟨parts, c₂⟩
  · rw [hrun] at h
    cases h
  rw [hrun] at h
  cases h
  -- 要素の訳は、前の並びの訳の後に最後の要素の訳を走らせたもの
  rw [List.mapM_append] at hrun
  obtain ⟨l₁, c₁, h₁, h₂⟩ := run_bind_ok hrun
  obtain ⟨l₂, c₃, h₃, h₄⟩ := run_bind_ok h₂
  cases h₄
  simp only [List.mapM_cons, List.mapM_nil] at h₃
  obtain ⟨t, c₄, h₅, h₆⟩ := run_bind_ok h₃
  cases h₆
  refine ⟨andParts l₁, c₁, t, by rw [h₁]; rfl, h₅, andParts_append_singleton l₁ t⟩

/-! ## 一つの条件の要素での検索の文 -/

theorem toStatement_run_params {d : Dialect} {cat : Catalog} {mark : Nat → String} {b : Build String}
    {st : Statement} (h : toStatement d cat mark b = .ok st) :
    ∃ c, b.run { dialect := d, catalog := cat, mark } = .ok (st.sql, c) ∧ st.params = c.bound.reverse := by
  unfold toStatement at h
  split at h
  · next sql c hrun =>
    cases h
    exact ⟨c, hrun, rfl⟩
  · cases h

theorem Triple.run {α : Type} {P : Compiler → Prop} {x : Build α} {Q : α → Compiler → Prop} (ht : Triple P x Q)
    {c c' : Compiler} {a : α} (hc : P c) (hrun : x.run c = .ok (a, c')) : Q a c' :=
  ht c a c' hc hrun

/-- 条件の要素が一つの検索の文。`WITH`、選ぶ列、結合が束縛した値だけを持つ状態から既定の絞り込みを訳し、
その後に要素を訳す。文の `WHERE` は二つの訳を AND で繋いだもので、その後の句は値を束縛しない。 -/
theorem select_single_where {d : Dialect} {cat : Catalog} {m : Meta} {cond : Value} {opts : FindOptions}
    {st : Statement} (h : Statement.select d cat m (.list [cond]) opts = .ok st) :
    ∃ c₃ c₄ c₅ w₀ t pre post,
      c₃ = { dialect := d, catalog := cat, bound := c₃.bound } ∧
      (conditions m.defaultFilter { tag := m.tag, rowName := d.identifier m.table }).run c₃ = .ok (w₀, c₄) ∧
      (entry (depthLimit - 1) cond { tag := m.tag, rowName := d.identifier m.table }).run c₄ = .ok (t, c₅) ∧
      st.sql = pre ++ Statement.whereSuffix (andThen w₀ t) ++ post ∧ st.params = c₅.bound.reverse := by
  unfold Statement.select at h
  obtain ⟨c, hrun, hparams⟩ := toStatement_run_params h
  obtain ⟨withSql, c₁, h₁, hrun⟩ := run_bind_ok hrun
  obtain ⟨cols, c₂, h₂, hrun⟩ := run_bind_ok hrun
  obtain ⟨join, c₃, h₃, hrun⟩ := run_bind_ok hrun
  obtain ⟨entries, c₄, h₄, hrun⟩ := run_bind_ok hrun
  cases h₄
  obtain ⟨w, c₅, h₅, hrun⟩ := run_bind_ok hrun
  -- 条件の後の句（まとめ、整列、上限、行の鍵）は状態を読むだけで、`WHERE` の後ろに付く
  have htail := Triple.run (P := (· = c₅)) (Q := fun sql c' => c' = c₅ ∧ ∃ post,
    sql = withSql ++ "SELECT " ++ cols ++ " FROM " ++ d.identifier m.table ++ join ++ Statement.whereSuffix w ++ post)
    ?_ rfl hrun
  · obtain ⟨hc, post, hsql⟩ := htail
    rw [show conditions (m.defaultFilter ++ [cond]) _ = whereClause (depthLimit - 1 + 1) _ _ from rfl] at h₅
    obtain ⟨w₀, c₄, t, hw₀, ht, hw⟩ := whereClause_snoc h₅
    have e₁ := quiet_withClause m opts _ _ _ h₁
    have e₂ := quiet_selectList opts _ _ _ _ h₂
    have e₃ := quiet_joinClause opts _ _ _ h₃
    refine ⟨c₃, c₄, c₅, w₀, t, _, post, ?_, hw₀, ht, by rw [hsql, hw], by rw [hparams, hc]⟩
    rw [e₃, e₂, e₁]
  extract_lets whereSql group order lock jp
  have hjp : ∀ g, Triple (· = c₅) (jp g) fun sql c' => c' = c₅ ∧ ∃ post,
      sql = withSql ++ "SELECT " ++ cols ++ " FROM " ++ d.identifier m.table ++ join ++ whereSql ++ post := by
    intro g
    dsimp -zeta only [jp]
    extract_lets jp₂
    have hjp₂ : ∀ o, Triple (· = c₅) (jp₂ o) fun sql c' => c' = c₅ ∧ ∃ post,
        sql = withSql ++ "SELECT " ++ cols ++ " FROM " ++ d.identifier m.table ++ join ++ whereSql ++ post := by
      intro o
      simp only [jp₂]
      exact (reads_lift _).bind_triple fun _ =>
        Triple.pure fun c' hc' => ⟨hc', _, by simp only [String.append_assoc]; rfl⟩
    split
    · exact (reads_lift _).bind_triple fun _ => (reads_pure _).bind_triple fun o => hjp₂ o
    · exact (reads_pure _).bind_triple fun o => hjp₂ o
  split
  · exact (reads_lift _).bind_triple fun _ => (reads_mapM reads_name _).bind_triple fun _ =>
      (reads_pure _).bind_triple fun g => hjp g
  · exact (reads_pure _).bind_triple fun g => hjp g

/-! ## SQL としての意味 -/

/-- 主キーの条件 `keyText d pk n` を SQL として読んだ意味。行の主キーの列の値の組が `tuple`（幅 `w`）、
条件の最初の印からの値が `params` のとき、`(c₁, …, c_w) IN ((?, …), …)`（`w = 1` なら `c₁ IN (?, …)`、
`n = 0` なら `1 = 0`）が成り立つのは、ある組 `j < n` のどの成分 `i` でも、列の値が `j * w + i` 番目の印の値と
等しいとき。SQL では `x IN (a₁, …)` は `x = a₁ OR …`、組どうしの `=` は成分ごとの `=` で、
印は左から順に値を受け取る。値どうしの等しさはデータベースの比べ方 `eq` に任せる。 -/
def KeyMatch (eq : Value → Value → Prop) (tuple : List Value) (n : Nat) (params : List Value) : Prop :=
  ∃ j < n, ∀ i (h : i < tuple.length), ∃ v, params[j * tuple.length + i]? = some v ∧ eq tuple[i] v

section KeyMatch

variable {eq : Value → Value → Prop} {tuple : List Value}

theorem firstGroup_iff {r : List Value} (hr : r.length = tuple.length) (rest : List Value) :
    (∀ i (h : i < tuple.length), ∃ v, (r ++ rest)[i]? = some v ∧ eq tuple[i] v) ↔ List.Forall₂ eq tuple r := by
  rw [List.forall₂_iff_get]
  constructor
  · intro h
    refine ⟨hr.symm, fun i h₁ h₂ => ?_⟩
    obtain ⟨v, hv, he⟩ := h i h₁
    rw [List.getElem?_append_left h₂, List.getElem?_eq_getElem h₂, Option.some.injEq] at hv
    subst hv
    exact he
  · rintro ⟨-, h⟩ i hi
    have hi' : i < r.length := hr ▸ hi
    exact ⟨r[i], by rw [List.getElem?_append_left hi', List.getElem?_eq_getElem hi'], h i hi hi'⟩

theorem getElem?_group_succ {r rest : List Value} (hr : r.length = tuple.length) (j i : Nat) :
    (r ++ rest)[(j + 1) * tuple.length + i]? = rest[j * tuple.length + i]? := by
  rw [List.getElem?_append_right (by rw [hr, Nat.succ_mul]; omega), hr]
  congr 1
  rw [Nat.succ_mul]
  omega

/-- 行ごとに値を並べて束縛した条件が成り立つのは、行の主キーの組がキーの行のどれかと等しいときに限る。 -/
theorem keyMatch_iff : ∀ {rows : List (List Value)}, (∀ r ∈ rows, r.length = tuple.length) →
    (KeyMatch eq tuple rows.length rows.flatten ↔ ∃ r ∈ rows, List.Forall₂ eq tuple r)
  | [], _ => by simp [KeyMatch]
  | r :: rs, hrows => by
    have hr := hrows r List.mem_cons_self
    have ih := keyMatch_iff fun r' hr' => hrows r' (List.mem_cons_of_mem r hr')
    rw [List.flatten_cons]
    constructor
    · rintro ⟨j, hj, hm⟩
      cases j with
      | zero => exact ⟨r, List.mem_cons_self, (firstGroup_iff hr _).1 (by simpa using hm)⟩
      | succ j =>
        -- 二つめ以降の組は、残りの行についての条件
        obtain ⟨r', hr', hf⟩ := ih.1 ⟨j, by simpa using hj, fun i hi => by
          obtain ⟨v, hv, he⟩ := hm i hi
          exact ⟨v, by rwa [getElem?_group_succ hr] at hv, he⟩⟩
        exact ⟨r', List.mem_cons_of_mem r hr', hf⟩
    · rintro ⟨r', hr', hf⟩
      rcases List.mem_cons.1 hr' with rfl | hmem
      · exact ⟨0, by simp, by simpa using (firstGroup_iff hr _).2 hf⟩
      · obtain ⟨j, hj, hm⟩ := ih.2 ⟨r', hmem, hf⟩
        exact ⟨j + 1, by simpa using hj, fun i hi => by rw [getElem?_group_succ hr]; exact hm i hi⟩

end KeyMatch

/-! ## 渡したキー -/

/-- 渡したキーの行。主キーの結果はその行（組の要素）、値の並びは要素ごとに、要素が並びならその要素を、
そうでなければその一つの値を行とする（キーの行の並びも、一列のキーの値の並びも読める）。
一つの値のキーは、検索が一つの要素の並びにしてから渡す。 -/
def keyRows : Value → Option (List (List Value))
  | .pkey _ rows => some (rows.map fun r => r.tupleItems?.getD [])
  | .list rs => some (rs.map fun r => r.items?.getD [r])
  | .tuple rs => some (rs.map fun r => r.items?.getD [r])
  | _ => none

/-- 主キーの結果のキー `key` が、主キー `pk` と同じ列（モデルの標識と列名が同じ）を同じ順に並べたもの。 -/
def KeyOf (pk : List Column) (key : List Value) : Prop :=
  List.Forall₂ (fun k c => ∃ kc, k = .column kc ∧ kc.same c = true) key pk

/-- 主キーの結果を渡すなら、そのキーは主キーと同じ列の並び。 -/
def KeysOwned (pk : List Column) (keys : Value) : Prop :=
  ∀ key rows, keys = .pkey key rows → KeyOf pk key

theorem zip_all_iff {α β : Type} {R : α → β → Prop} {f : α × β → Bool} (hf : ∀ a b, f (a, b) = true ↔ R a b)
    {xs : List α} {ys : List β} : (xs.length == ys.length && (xs.zip ys).all f) = true ↔ List.Forall₂ R xs ys := by
  rw [List.forall₂_iff_zip]
  simp only [Bool.and_eq_true, beq_iff_eq, List.all_eq_true, Prod.forall, hf]

/-- 行ごとに確かめる繰り返し: どの行もよければ成功し、よくない行があれば、最初のよくない行の失敗で止まる。 -/
theorem forIn_checks {γ ε : Type} {P : ε → Prop} (good : γ → Prop) (body : γ → Unit → Except ε (ForInStep Unit))
    (hbody : ∀ x, (good x → body x ⟨⟩ = .ok (.yield ⟨⟩)) ∧ (¬ good x → ∃ e, body x ⟨⟩ = .error e ∧ P e)) :
    ∀ xs : List γ, ((∀ x ∈ xs, good x) → forIn xs ⟨⟩ body = .ok ⟨⟩) ∧
      ((∃ x ∈ xs, ¬ good x) → ∃ e, forIn xs ⟨⟩ body = .error e ∧ P e)
  | [] => ⟨fun _ => rfl, fun ⟨_, hx, _⟩ => absurd hx List.not_mem_nil⟩
  | x :: xs => by
    obtain ⟨hok, hbad⟩ := forIn_checks good body hbody xs
    rw [List.forIn_cons]
    by_cases hx : good x
    · rw [(hbody x).1 hx]
      refine ⟨fun hall => hok fun y hy => hall y (List.mem_cons_of_mem x hy), fun ⟨y, hy, hny⟩ => hbad ⟨y, ?_, hny⟩⟩
      rcases List.mem_cons.1 hy with rfl | hy
      · exact absurd hx hny
      · exact hy
    · obtain ⟨e, he, hP⟩ := (hbody x).2 hx
      rw [he]
      exact ⟨fun hall => absurd (hall x List.mem_cons_self) hx, fun _ => ⟨e, rfl, hP⟩⟩

section KeyCondition

variable {m : Meta} {keys : Value} {rows : List (List Value)}

theorem requirePrimaryKey_of_ne_nil (hpk : m.primaryKey ≠ []) (operation : String) :
    m.requirePrimaryKey operation = .ok m.primaryKey := by
  unfold Meta.requirePrimaryKey
  split
  · contradiction
  · rfl

theorem keyCondition_foreign {key rs : List Value} (hpk : m.primaryKey ≠ []) (hkey : ¬ KeyOf m.primaryKey key) :
    ∃ e, Statement.keyCondition m (.pkey key rs) = .error e ∧ e.kindName = "ContractError" := by
  unfold Statement.keyCondition
  rw [requirePrimaryKey_of_ne_nil hpk, except_ok_bind]
  dsimp only
  rw [if_pos]
  · exact ⟨_, rfl, rfl⟩
  rw [Bool.not_eq_true', Bool.eq_false_iff]
  intro hsame
  refine hkey ((zip_all_iff fun k c => ?_).1 hsame)
  cases k <;> simp

/-- キーの主キーが合えば、キーの行の幅を確かめ、どれも主キーの列の数なら `keyEntry` の要素を返し、
違う行があれば幅の違反で止まる。 -/
theorem keyCondition_rows (hpk : m.primaryKey ≠ []) (hrows : keyRows keys = some rows)
    (hown : KeysOwned m.primaryKey keys) :
    ((∀ r ∈ rows, r.length = m.primaryKey.length) →
        Statement.keyCondition m keys = .ok (keyEntry m.primaryKey rows)) ∧
      ((∃ r ∈ rows, r.length ≠ m.primaryKey.length) →
        ∃ e, Statement.keyCondition m keys = .error e ∧ e.kindName = "ArityError") := by
  obtain ⟨hok, hbad⟩ := forIn_checks (P := fun e : Fault => e.kindName = "ArityError")
    (fun r : List Value => r.length = m.primaryKey.length) (fun r _ =>
      if (r.length != m.primaryKey.length) = true then do
        throw (Fault.arity ("key row " ++ (Value.tuple r).repr ++ " has " ++ toString r.length ++ " values for " ++
          toString m.primaryKey.length ++ " primary key columns") (some (.tuple r)) (some "arity"))
        pure (ForInStep.yield PUnit.unit)
      else pure (ForInStep.yield PUnit.unit)) (fun r => ⟨fun h => by simp [h]; rfl, fun h => ⟨_, by simp [h]; rfl, rfl⟩⟩)
    rows
  unfold Statement.keyCondition
  rw [requirePrimaryKey_of_ne_nil hpk, except_ok_bind]
  extract_lets pkValues jp
  -- 行を読んだ後: 幅を確かめ、主キーの列の数で要素の形を決める
  have hjp : ((∀ r ∈ rows, r.length = m.primaryKey.length) → jp rows = .ok (keyEntry m.primaryKey rows)) ∧
      ((∃ r ∈ rows, r.length ≠ m.primaryKey.length) → ∃ e, jp rows = .error e ∧ e.kindName = "ArityError") := by
    refine ⟨fun hall => ?_, fun hsome => ?_⟩
    · simp only [jp]
      rw [hok hall, except_ok_bind]
      simp only [pkValues]
      rcases hp : m.primaryKey with _ | ⟨a, _ | ⟨b, rest⟩⟩
      · exact absurd hp hpk
      · rfl
      · rfl
    · obtain ⟨e, he, hkind⟩ := hbad hsome
      exact ⟨e, by simp only [jp]; rw [he]; rfl, hkind⟩
  -- キーの形ごとに行を読む。主キーの結果は、キーが主キーと同じなので拒まれない
  cases keys with
  | pkey key rs =>
    simp only [keyRows, Option.some.injEq] at hrows
    subst hrows
    dsimp only
    rw [if_neg]
    · exact hjp
    intro hnot
    rw [Bool.not_eq_true', Bool.eq_false_iff] at hnot
    refine hnot ((zip_all_iff fun k c => ?_).2 (hown key rs rfl))
    cases k <;> simp
  | list rs =>
    simp only [keyRows, Option.some.injEq] at hrows
    subst hrows
    exact hjp
  | tuple rs =>
    simp only [keyRows, Option.some.injEq] at hrows
    subst hrows
    exact hjp
  | _ => simp [keyRows] at hrows

end KeyCondition

/-! ## 主キーでの検索の文 -/

theorem mapM_ok_forall₂ {ε α β : Type} {f : α → Except ε β} :
    ∀ {xs : List α} {ys : List β}, xs.mapM f = .ok ys → List.Forall₂ (fun x y => f x = .ok y) xs ys
  | [], ys, h => by
    cases h
    exact .nil
  | x :: xs, ys, h => by
    simp only [List.mapM_cons] at h
    cases hx : f x with
    | error e =>
      rw [hx] at h
      cases h
    | ok y =>
      rw [hx, except_ok_bind] at h
      cases hxs : xs.mapM f with
      | error e =>
        rw [hxs] at h
        cases h
      | ok ys' =>
        rw [hxs] at h
        cases h
        exact .cons hx (mapM_ok_forall₂ hxs)

theorem keyParams_widths {d : Dialect} {rows adapted : List (List Value)} {w : Nat}
    (h : keyParams d rows = .ok adapted) (hw : ∀ r ∈ rows, r.length = w) :
    adapted.length = rows.length ∧ ∀ a ∈ adapted, a.length = w := by
  have hf := mapM_ok_forall₂ h
  refine ⟨hf.length_eq.symm, ?_⟩
  clear h
  induction hf with
  | nil => simp
  | cons hxy _ ih =>
    intro a ha
    rcases List.mem_cons.1 ha with rfl | ha
    · rw [← (mapM_ok_forall₂ hxy).length_eq]
      exact hw _ List.mem_cons_self
    · exact ih (fun r hr => hw r (List.mem_cons_of_mem _ hr)) a ha

theorem whereSuffix_andThen_some (w : Option String) (t : String) :
    Statement.whereSuffix (andThen w (some t)) = " WHERE " ++ w.elim t (· ++ " AND " ++ t) := by
  cases w <;> rfl

/-- 主キーの条件の要素一つでの検索の文。`WHERE` はモデルの既定の絞り込みの訳（最上位で副問い合わせの数 0 から）の
後ろに主キーの条件を AND で繋いだもの。値は、それまでに束縛した値（`WITH`、結合、既定の絞り込み）の後ろに、
方言の渡せる形にしたキーの行の値が行ごとに左から並ぶ。 -/
theorem select_keyEntry {d : Dialect} {cat : Catalog} {m : Meta} {rows : List (List Value)} {opts : FindOptions}
    {st : Statement} (hpk : m.primaryKey ≠ []) (hw : ∀ r ∈ rows, r.length = m.primaryKey.length)
    (h : Statement.select d cat m (.list [keyEntry m.primaryKey rows]) opts = .ok st) :
    ∃ adapted w₀ ps pre post, keyParams d rows = .ok adapted ∧
      (∃ c c', c.subqueries = 0 ∧
        (conditions m.defaultFilter { tag := m.tag, rowName := d.identifier m.table }).run c = .ok (w₀, c') ∧
        ps = c'.bound.reverse) ∧
      st.sql = pre ++ " WHERE " ++
        w₀.elim (keyText d m.primaryKey rows.length) (· ++ " AND " ++ keyText d m.primaryKey rows.length) ++ post ∧
      st.params = ps ++ adapted.flatten := by
  obtain ⟨c₃, c₄, c₅, w₀, t, pre, post, hc₃, hdf, hentry, hsql, hparams⟩ := select_single_where h
  -- 既定の絞り込みの後も、方言と印の書き方は文の始めのまま
  have hframe := conditions_framed _ _ c₃ w₀ c₄ hdf
  have hd : c₄.dialect = d := by rw [hframe, hc₃]
  have hmark : ∀ i, c₄.mark i = "?" := fun i => by rw [hframe, hc₃]
  have hbinds := binds_keyEntry (d := d) (depthLimit - 3) hpk hw { tag := m.tag, rowName := d.identifier m.table }
    c₄ hd hmark
  rw [show depthLimit - 3 + 2 = depthLimit - 1 from rfl, hentry] at hbinds
  cases hk : keyParams d rows with
  | error e =>
    rw [hk] at hbinds
    cases hbinds
  | ok adapted =>
    rw [hk] at hbinds
    cases hbinds
    refine ⟨adapted, w₀, c₄.bound.reverse, pre, post, rfl, ⟨c₃, c₄, by rw [hc₃], hdf, rfl⟩, ?_, ?_⟩
    · rw [hsql, whereSuffix_andThen_some]
      simp only [String.append_assoc]
    · rw [hparams]
      simp

end Build

namespace Session

open Run Build

/-- 拒まれたキーでの主キーの検索は、文を作る前に同じ失敗で止まり、状態を変えない。 -/
theorem findKeys_refused {s : Session} {cls : String} {m : Meta} {opts : FindOptions} {keys : Value} {e : Fault}
    (hbound : s.bound = true) (hm : s.catalog.metaOf cls = .ok m) (hkeys : keyRows keys ≠ none)
    (he : Statement.keyCondition m keys = .error e) :
    (findKeys cls opts keys).exec s = (.error e, s) := by
  unfold findKeys
  -- 主キーの結果と並びはそのまま条件に渡る
  cases keys <;> simp only [keyRows, ne_eq, not_true_eq_false] at hkeys
  all_goals
    dsimp only
    rw [exec_bind_ok (exec_requireBound_of_bound hbound cls), exec_bind_ok (exec_metaOf hm),
      exec_bind_ok (exec_context s)]
    exact exec_bind_error (by rw [exec_lift, he]) _

end Session

open Build

/-- 主キーでの検索。モデルに主キーがあり、キーが主キーの結果、キーの行の並び、値の並びのどれかなら:
別の主キーの結果と幅の違う行は拒まれ、拒まれた検索は文を作る前に止まって状態を変えない。受け付けたキーでは
条件は `keyEntry` の要素になり、検索の文の `WHERE` は既定の絞り込みの訳の後ろに AND で主キーの条件
`keyText` を繋いだもの、値はそれまでの値の後ろにキーの行の値を行ごとに左から並べたもの。主キーの条件は、
SQL として、行の主キーの組がキーの行のどれかと等しいときに限って成り立つ。 -/
theorem key_lookup_selects_given_keys {d : Dialect} {cat : Catalog} {m : Meta} {keys : Value}
    {rows : List (List Value)} (hpk : m.primaryKey ≠ []) (hrows : keyRows keys = some rows) :
    (∀ key rs, keys = .pkey key rs → ¬ KeyOf m.primaryKey key →
      ∃ e, Statement.keyCondition m keys = .error e ∧ e.kindName = "ContractError") ∧
    (KeysOwned m.primaryKey keys → (∃ r ∈ rows, r.length ≠ m.primaryKey.length) →
      ∃ e, Statement.keyCondition m keys = .error e ∧ e.kindName = "ArityError") ∧
    (∀ (s : Session) cls opts e, s.bound = true → s.catalog.metaOf cls = .ok m →
      Statement.keyCondition m keys = .error e → (Session.findKeys cls opts keys).exec s = (.error e, s)) ∧
    (KeysOwned m.primaryKey keys → (∀ r ∈ rows, r.length = m.primaryKey.length) →
      Statement.keyCondition m keys = .ok (keyEntry m.primaryKey rows) ∧
      ∀ opts st, Statement.select d cat m (.list [keyEntry m.primaryKey rows]) opts = .ok st →
        ∃ adapted w₀ ps pre post, keyParams d rows = .ok adapted ∧
          (∃ c c', c.subqueries = 0 ∧
            (conditions m.defaultFilter { tag := m.tag, rowName := d.identifier m.table }).run c = .ok (w₀, c') ∧
            ps = c'.bound.reverse) ∧
          st.sql = pre ++ " WHERE " ++
            w₀.elim (keyText d m.primaryKey rows.length) (· ++ " AND " ++ keyText d m.primaryKey rows.length) ++
            post ∧
          st.params = ps ++ adapted.flatten ∧
          ∀ eq tuple, tuple.length = m.primaryKey.length →
            (KeyMatch eq tuple rows.length adapted.flatten ↔ ∃ r ∈ adapted, List.Forall₂ eq tuple r)) := by
  refine ⟨fun key rs hkeys hforeign => hkeys ▸ keyCondition_foreign hpk hforeign,
    fun hown => (keyCondition_rows hpk hrows hown).2,
    fun s cls opts e hbound hm he => Session.findKeys_refused hbound hm (by rw [hrows]; simp) he,
    fun hown hw => ⟨(keyCondition_rows hpk hrows hown).1 hw, fun opts st hst => ?_⟩⟩
  obtain ⟨adapted, w₀, ps, pre, post, hk, hdf, hsql, hparams⟩ := select_keyEntry hpk hw hst
  refine ⟨adapted, w₀, ps, pre, post, hk, hdf, hsql, hparams, fun eq tuple htuple => ?_⟩
  -- 方言の渡せる形にしても、行の数と幅は変わらない
  obtain ⟨hlen, hwidths⟩ := keyParams_widths hk hw
  rw [← hlen]
  exact keyMatch_iff fun a ha => (hwidths a ha).trans htuple.symm

/-! ### 有効な利用者 -/

/-- 表 `active_users` の列。 -/
def activeUserColumn (name : String) (primaryKey : Bool := false) : Column :=
  { name, property := name, table := "active_users", model := "ActiveUser", primaryKey }

/-- 問い合わせ `SELECT id, name FROM users WHERE active = ?`（値は 1）を本体に持ち、`id` で整列するモデル。 -/
def activeUsers : Meta :=
  { tag := "ActiveUser", table := "active_users", columns := [activeUserColumn "id" true, activeUserColumn "name"],
    query := some "SELECT id, name FROM users WHERE active = ?", queryParams := [.int 1],
    defaultOrder := [.str "id"] }

/-- 作成が返す主キーの結果（キーは主キーそのもの）で引くと、キーは受け付けられ、一列の `IN` の条件になる。
検索の文の `WHERE` はその `id IN (?)` だけで、値の最後がキーの値 7。 -/
theorem activeUser_pkey_result_accepted :
    activeUsers.primaryKey ≠ [] ∧
      keyRows (.pkey [.column (activeUserColumn "id" true)] [.tuple [.int 7]]) = some [[.int 7]] ∧
      Statement.keyCondition activeUsers (.pkey [.column (activeUserColumn "id" true)] [.tuple [.int 7]]) =
        .ok (keyEntry activeUsers.primaryKey [[.int 7]]) ∧
      ∃ st, Statement.select .postgresql {} activeUsers (.list [keyEntry activeUsers.primaryKey [[.int 7]]]) {} = .ok st ∧
        ∃ pre post ps, st.sql = pre ++ " WHERE id IN (?)" ++ post ∧ st.params = ps ++ [.int 7] := by
  have hpk : activeUsers.primaryKey ≠ [] := List.cons_ne_nil _ _
  have hown : KeysOwned activeUsers.primaryKey (.pkey [.column (activeUserColumn "id" true)] [.tuple [.int 7]]) := by
    rintro key rs ⟨⟩
    exact .cons ⟨_, rfl, rfl⟩ .nil
  have hwidth : ∀ r ∈ [[Value.int 7]], r.length = activeUsers.primaryKey.length := by
    intro r hr
    simp only [List.mem_singleton] at hr
    subst hr
    rfl
  obtain ⟨hcond, hselect⟩ := (@key_lookup_selects_given_keys .postgresql {} _ _ _ hpk rfl).2.2.2 hown hwidth
  have hran : (Statement.select .postgresql {} activeUsers (.list [keyEntry activeUsers.primaryKey [[.int 7]]])
      {}).toOption.map Statement.params = some [.int 1, .int 7] := rfl
  obtain ⟨st, hst, -⟩ := Except.exists_of_toOption_map hran
  obtain ⟨adapted, w₀, ps, pre, post, hk, ⟨c, c', -, hdf, -⟩, hsql, hparams, -⟩ := hselect {} st hst
  -- 既定の絞り込みがないので、キーの条件だけが `WHERE` に書かれる
  have hnone : (conditions activeUsers.defaultFilter
      { tag := activeUsers.tag, rowName := Dialect.postgresql.identifier activeUsers.table }).run c = .ok (none, c) := rfl
  obtain ⟨rfl, -⟩ := Prod.mk.inj (Except.ok.inj (hnone.symm.trans hdf))
  obtain rfl := Except.ok.inj ((show keyParams .postgresql [[.int 7]] = .ok [[.int 7]] from rfl).symm.trans hk)
  have htext : " WHERE " ++ keyText .postgresql activeUsers.primaryKey 1 = " WHERE id IN (?)" := by decide +kernel
  refine ⟨hpk, rfl, hcond, st, hst, pre, post, ps, ?_, hparams⟩
  rw [hsql, List.length_singleton, Option.elim_none, @String.append_assoc pre " WHERE " _, htext]

/-- 本体の問い合わせに値があるモデルでは、主キーで引く文の値はキーの値だけではない: 本体の値 1 が先に、
キーの値 7 が後に並ぶ。 -/
theorem activeUser_key_after_query_param :
    ∃ st, Statement.select .postgresql {} activeUsers (.list [keyEntry activeUsers.primaryKey [[.int 7]]]) {} =
        .ok st ∧
      st.sql = "WITH active_users AS (SELECT id, name FROM users WHERE active = ?) " ++
        "SELECT * FROM active_users WHERE id IN (?) ORDER BY id ASC" ∧
      st.params = [.int 1, .int 7] := by
  have hparams : (Statement.select .postgresql {} activeUsers (.list [keyEntry activeUsers.primaryKey [[.int 7]]])
      {}).toOption.map Statement.params = some [.int 1, .int 7] := by
    rfl
  obtain ⟨st, hst, hp⟩ := Except.exists_of_toOption_map hparams
  have hsql : (Statement.select .postgresql {} activeUsers (.list [keyEntry activeUsers.primaryKey [[.int 7]]])
      {}).toOption.map Statement.sql = some ("WITH active_users AS (SELECT id, name FROM users WHERE active = ?) " ++
        "SELECT * FROM active_users WHERE id IN (?) ORDER BY id ASC") := by
    decide +kernel
  rw [hst] at hsql
  exact ⟨st, hst, Option.some.inj hsql, hp⟩

end DataAccess
