import DataAccess.Proofs.GuardedMarkers
import DataAccess.Proofs.Operands
/-!
# 条件の並びの AND は演算対象を並べる

条件の並びの `WHERE` は、要素ごとの訳を ` AND ` で繋いだ文字列で、木ではない。SQL の優先順位
（`Sql.skeleton`）で読んだその文が、要素の訳を演算対象とする一つの項になるのは、どの要素の訳もそれだけで
一つの演算対象として読めるとき。

訳は呼び出し側の文字列をそのまま書く場所を持つ: 断片のキー、`Raw` と `Dynamic` の値、列名と表名の識別子
（単純な名前でなければ引用しない）、生の条件、派生表の問い合わせ、外側の行の名前。`entryOperand` は、
そこに書かれる文字列がその場所で一つの演算対象として読めること（生の条件と派生表の問い合わせは括弧の中に
置けること）を言う。断片のキーは括弧で囲まずに書くので、`id = ? OR parent_id = ?` のような断片は
この前提を満たさず、隣の要素と組み直される。

前提を満たす条件の並びでは、
* どの要素の訳も一つの演算対象で、`WHERE` と副問い合わせの訳は括弧の中に置ける文
  （`EntrySingle`、`WhereNests`、`SubqueryNests`）。燃料についての帰納法で示す（`clauses_single`）。
* `WHERE` の文は、残った要素の訳を演算対象とする一つの項（`where_reads_as_conjunction`）。
* OR の群の ` OR ` の文は、群それぞれをそれだけで一つの項とする（`orGroup_reads_as_disjunction`）。
-/

namespace DataAccess

namespace Value

/-- 名前として書く値（列か列名）の識別子が一つの演算対象。名前にならない値は失敗するので問わない。 -/
def nameOperand (d : Dialect) : Value → Bool
  | .column c => Sql.operand (d.identifier c.name)
  | .str s => Sql.operand (d.identifier s)
  | _ => true

/-- 条件の値として文に書く SQL が一つの演算対象: そのまま埋め込む SQL、断片の文、外側の列の名前。 -/
def valueOperand (d : Dialect) : Value → Bool
  | .raw sql | .dynamic sql _ => Sql.operand sql.text
  | .parentRef col => col.nameOperand d
  | _ => true

mutual
/-- 条件の並びの要素の、そのまま文に書かれる部分が、それぞれの場所で一つの演算対象として読める。 -/
def entryOperand (d : Dialect) : Value → Bool
  | .tuple [k, v] =>
    match v with
    | .marker .skip => true
    | _ =>
      match k with
      | .str s => if Sql.countMarkers s > 0 then Sql.operand s else k.nameOperand d && v.valueOperand d
      | _ => k.nameOperand d && v.valueOperand d
  | .comparison col _ v => col.nameOperand d && v.valueOperand d
  | .between col _ _ => col.nameOperand d
  | .tupleIn cols _ => cols.all (nameOperand d)
  | .orGroup groups => groupsOperand d groups
  | .rawCondition sql _ => Sql.nested sql.text
  | .inSubquery pairs conds _ =>
    pairs.all (fun p => ((p.tupleItems?).getD []).all (nameOperand d)) && entriesOperand d conds
  | .existsIn _ conds _ => entriesOperand d conds
  | _ => true

/-- 条件の並びのどの要素も演算対象を守る。 -/
def entriesOperand (d : Dialect) : List Value → Bool
  | [] => true
  | e :: es => entryOperand d e && entriesOperand d es

/-- OR の群のどの群も演算対象を守る。 -/
def groupsOperand (d : Dialect) : List Value → Bool
  | [] => true
  | .tuple es :: gs => entriesOperand d es && groupsOperand d gs
  | _ :: gs => groupsOperand d gs
end

theorem entriesOperand_iff {d : Dialect} {es : List Value} :
    entriesOperand d es = true ↔ ∀ e ∈ es, entryOperand d e = true := by
  induction es with
  | nil => simp [entriesOperand]
  | cons e es ih => simp [entriesOperand, ih]

theorem groupsOperand_mem {d : Dialect} {gs : List Value} (h : groupsOperand d gs = true) :
    ∀ g ∈ gs, entriesOperand d ((g.tupleItems?).getD []) = true := by
  induction gs with
  | nil => simp
  | cons g gs ih =>
    have hhead : entriesOperand d ((g.tupleItems?).getD []) = true := by
      cases g <;> simp_all [groupsOperand, tupleItems?, entriesOperand]
    have htail : groupsOperand d gs = true := by
      cases g <;> simp_all [groupsOperand]
    intro x hx
    rcases List.mem_cons.1 hx with rfl | hx
    · exact hhead
    · exact ih htail x hx

theorem entryOperand_pair {d : Dialect} {k v : Value} (he : entryOperand d (.tuple [k, v]) = true)
    (hskip : v ≠ .marker .skip) (hk : ∀ s, k = .str s → Sql.countMarkers s = 0) :
    k.nameOperand d = true ∧ v.valueOperand d = true := by
  simp only [entryOperand] at he
  split at he
  · next _ s =>
    simpa [hk s rfl] using he
  · simpa using he

theorem entryOperand_fragment {d : Dialect} {s : String} {v : Value}
    (he : entryOperand d (.tuple [.str s, v]) = true) (hskip : v ≠ .marker .skip)
    (hcount : Sql.countMarkers s > 0) : Sql.operand s = true := by
  simp only [entryOperand] at he
  simpa [hcount] using he

end Value

/-- 副問い合わせの相手として書くモデル: 表の識別子が一つの演算対象、派生表の問い合わせは括弧の中に
置ける文、既定の絞り込みは演算対象を守る。 -/
def Meta.operands (d : Dialect) (m : Meta) : Bool :=
  Sql.operand (d.identifier m.table) && m.query.all Sql.nested && Value.entriesOperand d m.defaultFilter

/-- 表の集まりのどのモデルも演算対象を守る。 -/
def Catalog.operands (d : Dialect) (cat : Catalog) : Bool := cat.metas.all (Meta.operands d)

/-- 条件を訳す場所の行の名前と、すぐ外側の行の名前が一つの演算対象。 -/
def Scope.operands (scope : Scope) : Bool :=
  Sql.operand scope.rowName && scope.parent.all fun p => Sql.operand p.2

theorem Meta.entriesOperand_filter {d : Dialect} {m : Meta} (hm : m.operands d = true) {conds : List Value}
    (hconds : Value.entriesOperand d conds = true) :
    Value.entriesOperand d (m.defaultFilter ++ conds) = true := by
  simp only [Meta.operands, Bool.and_eq_true] at hm
  rw [Value.entriesOperand_iff] at hconds ⊢
  intro e he
  rcases List.mem_append.1 he with he | he
  · exact Value.entriesOperand_iff.1 hm.2 e he
  · exact hconds e he

namespace Sql

open Cursor

theorem operand_alias (n : Nat) : operand ("_sq" ++ toString n) = true := by
  have hdigits : ∀ c ∈ (toString n).toList, c.isDigit = true := by
    intro c hc
    rw [Nat.toString_eq_repr, Nat.toList_repr] at hc
    exact Nat.isDigit_of_mem_toDigits (b := 10) (by decide) (by decide) hc
  apply operand_word
  · intro c hc
    rw [String.toList_append] at hc
    rcases List.mem_append.1 hc with hc | hc
    · have hsq : "_sq".toList = ['_', 's', 'q'] := rfl
      rw [hsq] at hc
      simp only [List.mem_cons, List.not_mem_nil, or_false] at hc
      rcases hc with rfl | rfl | rfl <;> decide
    · simp [isWordChar, Char.isAlphanum, hdigits c hc]
  · rw [String.toList_append]
    rfl

/-- 演算対象の後に、語の切れ目で始まる続き（` IS NULL` など）を付ける。 -/
theorem operand_suffix {n L : String} (hn : operand n = true)
    (hL : operand L = true ∧ L.toList.head?.all breaks = true) : operand (n ++ L) = true :=
  spans_append hn hL.1 (seam_right hL.2)

theorem operand_now (d : Dialect) : operand d.now = true := by
  cases d <;> decide

theorem operand_boolean (d : Dialect) (b : Bool) : operand (d.boolean b) = true := by
  cases d <;> cases b <;> decide

theorem operand_ilike (d : Dialect) {n : String} (hn : operand n = true) : operand (d.ilike n) = true := by
  cases d
  · exact operand_suffix hn (by decide)
  all_goals
    exact spans_append (spans_append (by decide : spans 0 1 "LOWER(" = true) (spans_of_operand hn 1)
      (seam_left (by decide))) (by decide : spans 1 0 ") LIKE LOWER(?)" = true) (seam_right (by decide))

theorem operator_spaced : ∀ op ∈ Build.comparisonOperators,
    operand (" " ++ op ++ " ") = true ∧ (" " ++ op ++ " ").toList.head?.all breaks = true ∧
      (" " ++ op ++ " ").toList.getLast?.any breaks = true := by
  decide

theorem operand_compared {n op x : String} (hn : operand n = true) (hop : op ∈ Build.comparisonOperators)
    (hx : operand x = true) : operand (n ++ " " ++ op ++ " " ++ x) = true := by
  obtain ⟨hL, hhead, hlast⟩ := operator_spaced op hop
  rw [show n ++ " " ++ op ++ " " ++ x = n ++ (" " ++ op ++ " ") ++ x by simp only [String.append_assoc]]
  exact spans_splice hn hL hx hhead hlast

theorem operand_equals {n x : String} (hn : operand n = true) (hx : operand x = true) :
    operand (n ++ " = " ++ x) = true :=
  spans_splice hn (by decide) hx (by decide) (by decide)

theorem spans_commas {d : Nat} {ps : List String} (h : ∀ p ∈ ps, spans (d + 1) (d + 1) p = true) :
    spans (d + 1) (d + 1) (", ".intercalate ps) = true :=
  spans_intercalate (spans_of_operand (by decide) _) (by decide) (by decide) (by decide) h

theorem spans_marks {marks : List String} (h : ∀ m ∈ marks, m = "?") (d : Nat) :
    spans (d + 1) (d + 1) (", ".intercalate marks) = true :=
  spans_commas fun m hm => by
    rw [h m hm]
    exact spans_of_operand (by decide) _

theorem nested_list {ps : List String} (h : ∀ p ∈ ps, operand p = true) : nested (", ".intercalate ps) = true :=
  spans_commas fun p hp => spans_of_operand (h p hp) 1

theorem nested_conjunction {ps : List String} (h : ∀ p ∈ ps, operand p = true) :
    nested (" AND ".intercalate ps) = true :=
  spans_intercalate (by decide) (by decide) (by decide) (by decide) fun p hp => spans_of_operand (h p hp) 1

/-- 演算対象の後に ` IN (` か ` NOT IN (` と、括弧の中で読める文と、閉じ括弧を続ける。 -/
theorem operand_membership {lhs body : String} (hlhs : operand lhs = true) (negate : Bool)
    (hbody : nested body = true) :
    operand (lhs ++ (if negate then " NOT IN (" else " IN (") ++ body ++ ")") = true := by
  generalize hX : (if negate then " NOT IN (" else " IN (") = X
  have hopen : spans 0 1 X = true ∧ X.toList.head?.all breaks = true ∧ X.toList.getLast?.any breaks = true := by
    subst hX
    cases negate <;> decide
  have hclose : spans 1 0 (body ++ ")") = true := spans_append hbody (by decide) (seam_right (by decide))
  rw [show lhs ++ X ++ body ++ ")" = lhs ++ X ++ (body ++ ")") from String.append_assoc]
  exact spans_splice hlhs hopen.1 hclose hopen.2.1 hopen.2.2

/-- ` IN (` か ` NOT IN (` の副問い合わせ: `SELECT` の列と `FROM` の相手は括弧の中で読める。 -/
theorem operand_subselect {lhs sel src : String} (hlhs : operand lhs = true) (negate : Bool)
    (hsel : nested sel = true) (hsrc : nested src = true) :
    operand (lhs ++ (if negate then " NOT IN (" else " IN (") ++ "SELECT " ++ sel ++ " FROM " ++ src ++ ")") =
      true := by
  have hbody : nested ("SELECT " ++ sel ++ " FROM " ++ src) = true :=
    spans_splice (spans_append (by decide) hsel (seam_left (by decide))) (by decide) hsrc (by decide) (by decide)
  have h := operand_membership hlhs negate hbody
  simpa only [String.append_assoc] using h

theorem operand_exists (negate : Bool) {src : String} (hsrc : nested src = true) :
    operand ((if negate then "NOT EXISTS (" else "EXISTS (") ++ "SELECT 1 FROM " ++ src ++ ")") = true := by
  generalize hX : (if negate then "NOT EXISTS (" else "EXISTS (") = X
  have hopen : spans 0 1 X = true ∧ X.toList.getLast?.all breaks = true := by
    subst hX
    cases negate <;> decide
  rw [show X ++ "SELECT 1 FROM " ++ src ++ ")" = X ++ ("SELECT 1 FROM " ++ src) ++ ")" by
    simp only [String.append_assoc]]
  exact spans_enclose hopen.1 hopen.2 (spans_append (by decide) hsrc (seam_left (by decide)))

theorem operand_between {n a b : String} (hn : operand n = true) (ha : a = "?") (hb : b = "?") :
    operand (n ++ " BETWEEN " ++ a ++ " AND " ++ b) = true := by
  subst ha hb
  rw [show n ++ " BETWEEN " ++ "?" ++ " AND " ++ "?" = n ++ " BETWEEN ? AND ?" by simp only [String.append_assoc]; rfl]
  exact operand_suffix hn (by decide)

/-- 括弧の中に置ける文をそれぞれ括弧で囲み、` OR ` で繋いだ文は、括弧の中で読める。 -/
theorem nested_branches {gs : List String} (h : ∀ g ∈ gs, nested g = true) :
    nested (" OR ".intercalate (gs.map fun g => "(" ++ g ++ ")")) = true := by
  refine spans_intercalate (by decide) (by decide) (by decide) (by decide) fun b hb => ?_
  obtain ⟨g, hg, rfl⟩ := List.mem_map.1 hb
  exact spans_paren (spans_shift (h g hg) 1)

theorem all_filterMap {P : String → Bool} {parts : List (Option String)} (h : ∀ r ∈ parts, r.all P = true) :
    ∀ p ∈ parts.filterMap id, P p = true := by
  intro p hp
  obtain ⟨r, hr, hrp⟩ := List.mem_filterMap.1 hp
  have hr' : r = some p := hrp
  subst hr'
  exact h _ hr

end Sql

namespace Build

open Sql Sql.Cursor

/-- 訳の状態の前提: 方言が `d` で、表の集まりのどのモデルも演算対象を守り、印を `?` と書く。 -/
def Ground (d : Dialect) (c : Compiler) : Prop :=
  c.dialect = d ∧ c.catalog.operands d = true ∧ c.mark = fun _ => "?"

/-- 前提の状態から走らせて成功すれば、前提の状態で終わり、結果が `R` を満たす。 -/
def Yields {α : Type} (d : Dialect) (R : α → Prop) (x : Build α) : Prop :=
  Triple (Ground d) x fun a c' => Ground d c' ∧ R a

section Yields

variable {α β γ : Type} {d : Dialect}

theorem yields_pure {R : α → Prop} {a : α} (h : R a) : Yields d R (pure a) :=
  Triple.pure fun _ hc => ⟨hc, h⟩

theorem Yields.bind {R : α → Prop} {S : β → Prop} {x : Build α} {g : α → Build β} (hx : Yields d R x)
    (hg : ∀ a, R a → Yields d S (g a)) : Yields d S (x >>= g) := by
  intro c b c'' hc hrun
  obtain ⟨a, c', h1, h2⟩ := run_bind_ok hrun
  obtain ⟨hc', ha⟩ := hx c a c' hc h1
  exact hg a ha c' b c'' hc' h2

theorem yields_fail {R : α → Prop} (e : Fault) : Yields d R (Build.fail e) := Triple.fail e

theorem yields_fail_bind {S : β → Prop} (e : Fault) (g : α → Build β) : Yields d S (Build.fail e >>= g) := by
  intro c b c'' _ hrun
  obtain ⟨a, c', h1, -⟩ := run_bind_ok hrun
  cases h1

theorem Quiet.yields {R : α → Prop} {x : Build α} (hx : Quiet x)
    (h : ∀ c a c', Ground d c → x.run c = .ok (a, c') → R a) : Yields d R x := by
  intro c a c' hc hrun
  refine ⟨?_, h c a c' hc hrun⟩
  rw [hx c a c' hrun]
  exact hc

theorem Yields.map {R : α → Prop} {S : β → Prop} {x : Build α} {f : α → β} (hx : Yields d R x)
    (hf : ∀ a, R a → S (f a)) : Yields d S (f <$> x) := by
  rw [map_eq_pure_bind]
  exact hx.bind fun a ha => yields_pure (hf a ha)

theorem yields_mapM {R : α → Prop} {g : γ → Build α} :
    ∀ {xs : List γ}, (∀ x ∈ xs, Yields d R (g x)) → Yields d (fun as => ∀ a ∈ as, R a) (xs.mapM g)
  | [], _ => by
    rw [List.mapM_nil]
    exact yields_pure (by simp)
  | x :: xs, h => by
    rw [List.mapM_cons]
    refine (h x List.mem_cons_self).bind fun a ha => ?_
    refine (yields_mapM fun y hy => h y (List.mem_cons_of_mem x hy)).bind fun as has => yields_pure ?_
    intro b hb
    rcases List.mem_cons.1 hb with rfl | hb
    · exact ha
    · exact has b hb

theorem yields_dialect : Yields d (· = d) dialect :=
  quiet_dialect.yields fun _ _ _ hc hrun => by
    cases hrun
    exact hc.1

theorem yields_lift (e : Except Fault α) : Yields d (fun a => e = .ok a) (lift e) :=
  (quiet_lift e).yields fun c a c' _ hrun => by
    cases e with
    | error err => cases hrun
    | ok b =>
      cases hrun
      rfl

theorem yields_bind (v : Value) : Yields d (· = "?") (Build.bind v) :=
  (quiet_bind v).yields fun c a c' hc hrun => by
    rw [run_bind] at hrun
    cases hp : c.dialect.adaptParam v with
    | error e => simp [hp, Except.map] at hrun
    | ok p =>
      simp only [hp, Except.map, Except.ok.injEq, Prod.mk.injEq] at hrun
      rw [← hrun.1, hc.2.2]

theorem yields_marked (s : String) : Yields d (· = s) (marked s) :=
  (quiet_marked s).yields fun c a c' hc hrun => by
    cases hrun
    show Sql.renumber (fun i => c.mark (c.bound.length + i)) 0 s = s
    rw [hc.2.2]
    exact renumber_qmark 0 s

theorem yields_bindEach (ps : List Value) : Yields d (fun _ => True) (forIn ps PUnit.unit fun p _ => do
    let _ ← Build.bind p
    Pure.pure (ForInStep.yield PUnit.unit)) :=
  (quiet_forIn (fun p _ => (quiet_bind p).bind fun _ => quiet_pure _) ps _).yields fun _ _ _ _ _ => trivial

theorem yields_bindFragment (sql : Value) (ps : List Value) (label : String) :
    Yields d (· = sql) (bindFragment sql ps label) := by
  simp only [Build.bindFragment]
  refine (yields_lift _).bind fun expected _ => ?_
  split
  · exact yields_fail_bind _ _
  split
  · exact ((yields_marked _).map (S := (· = _)) fun a ha => congrArg Value.str ha).bind fun w hw =>
      (yields_bindEach ps).bind fun _ _ => yields_pure hw
  · exact (yields_pure rfl).bind fun w hw => (yields_bindEach ps).bind fun _ _ => yields_pure hw.symm

theorem yields_get : Yields d (Ground d) (MonadState.get : Build Compiler) :=
  quiet_get.yields fun _ _ _ hc hrun => by
    cases hrun
    exact hc

theorem yields_countSubquery :
    Yields d (fun _ => True) (modify fun c : Compiler => { c with subqueries := c.subqueries + 1 }) := by
  intro c a c' hc hrun
  cases hrun
  exact ⟨hc, trivial⟩

theorem Yields.lookup {S : β → Prop} (tag : String) {g : Meta → Build β}
    (hg : ∀ m, m.operands d = true → Yields d S (g m)) :
    Yields d S (MonadState.get >>= fun c => Build.lift (c.catalog.modelMeta tag) >>= g) := by
  refine yields_get.bind fun c hc => (yields_lift _).bind fun m hm => hg m ?_
  exact List.all_eq_true.1 hc.2.1 m (Catalog.mem_of_modelMeta hm)

end Yields

/-! ## 部品の訳 -/

section Parts

variable {d : Dialect}

theorem yields_name {v : Value} (h : v.nameOperand d = true) : Yields d (operand · = true) (name v) := by
  unfold Build.name
  refine yields_dialect.bind fun d' hd => ?_
  subst hd
  split
  · exact yields_pure h
  · exact yields_pure h
  · exact yields_fail _

theorem yields_inList {col : String} (hcol : operand col = true) (values : List Value) (negate : Bool) :
    Yields d (operand · = true) (inList col values negate) := by
  unfold Build.inList
  split
  · exact yields_pure (by cases negate <;> decide)
  · exact (yields_mapM fun v _ => yields_bind v).bind fun marks hmarks =>
      yields_pure (operand_membership hcol negate (spans_marks hmarks 0))

theorem yields_parentColumn {col : Value} (hcol : col.nameOperand d = true) {scope : Scope}
    (hscope : scope.operands = true) : Yields d (operand · = true) (parentColumn col scope) := by
  unfold Build.parentColumn
  split
  · exact yields_fail _
  · next ptag prow hparent =>
    have hprow : operand prow = true := by
      simp only [Scope.operands, Bool.and_eq_true] at hscope
      rw [hparent] at hscope
      exact hscope.2
    split
    · split
      · exact yields_fail_bind _ _
      · exact (yields_name hcol).bind fun n hn => yields_pure (spans_splice hprow (by decide) hn (by decide) (by decide))
    · exact yields_fail _

theorem yields_columnCondition {col : String} (hcol : operand col = true) {v : Value}
    (hv : v.valueOperand d = true) {scope : Scope} (hscope : scope.operands = true) :
    Yields d (operand · = true) (columnCondition col v scope) := by
  unfold Build.columnCondition
  refine yields_dialect.bind fun d' hd => ?_
  subst hd
  split
  · exact yields_pure (operand_suffix hcol (by decide))
  · exact yields_pure (operand_suffix hcol (by decide))
  · exact yields_pure (operand_suffix hcol (by decide))
  · exact yields_pure (operand_equals hcol (operand_now d'))
  · exact yields_fail _
  · exact yields_pure (operand_equals hcol (operand_boolean d' _))
  · exact yields_pure (operand_equals hcol hv)
  · exact (yields_bindFragment _ _ _).bind fun r hr => yields_pure (operand_equals hcol (by rw [hr]; exact hv))
  · exact (yields_parentColumn hv hscope).bind fun p hp => yields_pure (operand_equals hcol hp)
  · exact yields_inList hcol _ _
  · exact yields_inList hcol _ _
  · split
    · exact yields_fail _
    · exact (yields_bind v).bind fun m hm => yields_pure (operand_equals hcol (by rw [hm]; decide))

theorem yields_fragment {sql : String} (hsql : operand sql = true) (v : Value) :
    Yields d (operand · = true) (fragment sql v) := by
  unfold Build.fragment
  dsimp only
  split
  · exact (yields_marked _).bind fun w hw => (yields_bind v).bind fun _ _ => yields_pure (by rw [hw]; exact hsql)
  · split
    · split
      · exact (yields_marked _).bind fun w hw => (yields_bindEach _).bind fun _ _ =>
          yields_pure (by rw [hw]; exact hsql)
      · exact yields_fail _
    · exact yields_fail _

theorem yields_comparison {col : Value} (hcol : col.nameOperand d = true) (op : Value) {v : Value}
    (hv : v.valueOperand d = true) {scope : Scope} (hscope : scope.operands = true) :
    Yields d (·.all operand = true) (comparison col op v scope) := by
  unfold Build.comparison
  refine yields_dialect.bind fun d' hd => ?_
  subst hd
  simp only
  split
  · next s =>
    simp only [pure_bind]
    by_cases hop : (!comparisonOperators.contains (Sql.upperWord s)) = true
    · rw [if_pos hop]
      exact yields_fail_bind _ _
    rw [if_neg hop]
    have hmem : Sql.upperWord s ∈ comparisonOperators := by simpa using hop
    refine (yields_name hcol).bind fun n hn => ?_
    split
    · exact yields_pure rfl
    by_cases hin : (Sql.upperWord s == "IN" || Sql.upperWord s == "NOT IN") = true
    · rw [if_pos hin]
      split
      · exact (yields_inList hn _ _).bind fun t ht => yields_pure ht
      · exact yields_fail_bind _ _
    rw [if_neg hin]
    split
    · split
      · exact yields_pure (operand_suffix hn (by decide))
      · split
        · exact yields_pure (operand_suffix hn (by decide))
        · exact yields_fail _
    · split
      · exact yields_pure (operand_suffix hn (by decide))
      · split
        · exact yields_pure (operand_suffix hn (by decide))
        · exact yields_fail _
    by_cases hil : (Sql.upperWord s == "ILIKE") = true
    · rw [if_pos hil]
      exact (yields_marked _).bind fun w hw => (yields_bind v).bind fun _ _ =>
        yields_pure (by rw [hw]; exact operand_ilike d' hn)
    rw [if_neg hil]
    split
    · exact yields_pure (operand_compared hn hmem hv)
    · exact (yields_parentColumn hv hscope).bind fun p hp => yields_pure (operand_compared hn hmem hp)
    · exact (yields_bindFragment _ _ _).bind fun r hr =>
        yields_pure (operand_compared hn hmem (by rw [hr]; exact hv))
    · exact yields_pure (operand_compared hn hmem (operand_now d'))
    · exact (yields_bind v).bind fun m hm => yields_pure (operand_compared hn hmem (by rw [hm]; decide))
  · exact yields_fail_bind _ _
  · exact yields_fail_bind _ _

theorem operand_headD {names : List String} (h : ∀ n ∈ names, operand n = true) :
    operand (names.headD "") = true := by
  cases names with
  | nil => exact spans_empty 0
  | cons n _ => exact h n List.mem_cons_self

theorem yields_tupleIn {cols : List Value} (hcols : cols.all (Value.nameOperand d) = true) (rows : List Value) :
    Yields d (operand · = true) (tupleIn cols rows) := by
  unfold Build.tupleIn
  simp only
  split
  · exact yields_fail_bind _ _
  refine ((quiet_forIn (fun r _ => ?_) _ _).yields (R := fun _ => True) fun _ _ _ _ _ => trivial).bind fun _ _ => ?_
  · split
    · exact quiet_fail_bind _ _
    · exact quiet_pure _
  split
  · exact yields_pure (by decide)
  refine (yields_mapM fun c hc => yields_name (List.all_eq_true.1 hcols c hc)).bind fun names hnames => ?_
  split
  · exact yields_inList (operand_headD hnames) _ false
  -- 二列以上: 列の並びと、行ごとの印の並びを、それぞれ括弧で囲んで並べる
  refine (yields_mapM fun r _ => (yields_mapM fun x _ => yields_bind x).bind fun marks hmarks =>
    yields_pure (R := fun g => spans 1 1 g = true) (spans_paren (spans_marks hmarks 1))).bind
    fun groups hgroups => yields_pure ?_
  have hbody : nested (", ".intercalate names ++ ") IN (" ++ ", ".intercalate groups) = true :=
    spans_splice (nested_list hnames) (by decide) (spans_commas hgroups) (by decide) (by decide)
  rw [show "(" ++ ", ".intercalate names ++ ") IN (" ++ ", ".intercalate groups ++ ")" =
    "(" ++ (", ".intercalate names ++ ") IN (" ++ ", ".intercalate groups) ++ ")" by simp only [String.append_assoc]]
  exact spans_paren hbody

theorem yields_source {m : Meta} (hm : m.operands d = true) : Yields d (nested · = true) (source m) := by
  simp only [Meta.operands, Bool.and_eq_true] at hm
  obtain ⟨⟨htable, hquery⟩, -⟩ := hm
  unfold Build.source
  refine yields_dialect.bind fun d' hd => ?_
  subst hd
  split
  · exact yields_pure (spans_of_operand htable 1)
  · next q hq =>
    rw [hq] at hquery
    exact (yields_bindFragment _ _ _).bind fun r hr =>
      yields_pure (spans_paren (by rw [hr]; exact spans_shift hquery 1))

theorem yields_pairParts {p : Value} (hp : ((p.tupleItems?).getD []).all (Value.nameOperand d) = true) :
    Yields d (fun ab => ab.1.nameOperand d = true ∧ ab.2.nameOperand d = true) (pairParts p) := by
  unfold Build.pairParts
  split
  · next a b hab =>
    rw [hab] at hp
    simp only [Option.getD_some, List.all_cons, List.all_nil, Bool.and_true, Bool.and_eq_true] at hp
    exact yields_pure hp
  · split
    · exact yields_fail _
    · exact yields_fail _
  · exact yields_fail _

end Parts

/-! ## 入れ子の条件 -/

/-- 燃料 `k` の `whereClause`: 演算対象を守る条件の並びの AND は、括弧の中に置ける文。 -/
def WhereNests (d : Dialect) (k : Nat) : Prop :=
  ∀ entries scope, Value.entriesOperand d entries = true → scope.operands = true →
    Yields d (·.all nested = true) (whereClause k entries scope)

/-- 燃料 `k` の `entry`: 演算対象を守る要素の訳は、一つの演算対象。 -/
def EntrySingle (d : Dialect) (k : Nat) : Prop :=
  ∀ e scope, Value.entryOperand d e = true → scope.operands = true →
    Yields d (·.all operand = true) (entry k e scope)

/-- 燃料 `k` の `predicate`。 -/
def PredicateSingle (d : Dialect) (k : Nat) : Prop :=
  ∀ p scope, Value.entryOperand d p = true → scope.operands = true →
    Yields d (·.all operand = true) (predicate k p scope)

/-- 燃料 `k` の `subquery`: 相手と条件の `WHERE` は、括弧の中に置ける文。 -/
def SubqueryNests (d : Dialect) (k : Nat) : Prop :=
  ∀ m conds scope, m.operands d = true → Value.entriesOperand d conds = true → scope.operands = true →
    Yields d (nested · = true) (subquery k m conds scope)

section Steps

variable {d : Dialect} {k : Nat}

theorem whereNests_succ (h : EntrySingle d k) : WhereNests d (k + 1) := by
  intro entries scope hes hscope
  simp only [Build.whereClause]
  refine (yields_mapM fun e he => h e scope (Value.entriesOperand_iff.1 hes e he) hscope).bind
    fun parts hparts => ?_
  split
  · exact yields_pure rfl
  · exact yields_pure (nested_conjunction (all_filterMap hparts))

theorem subqueryNests_succ (h : WhereNests d k) : SubqueryNests d (k + 1) := by
  intro m conds scope hm hconds hscope
  simp only [Build.subquery]
  refine yields_countSubquery.bind fun _ _ => yields_get.bind fun c _ => ?_
  have halias : spans 1 1 ("_sq" ++ toString c.subqueries) = true := spans_of_operand (operand_alias _) 1
  have hinner : Scope.operands ⟨m.tag, "_sq" ++ toString c.subqueries, some (scope.tag, scope.rowName)⟩ = true := by
    simp only [Scope.operands, Bool.and_eq_true] at hscope ⊢
    exact ⟨operand_alias _, hscope.1⟩
  refine (yields_source hm).bind fun src hsrc => (h conds _ hconds hinner).bind fun w hw => ?_
  split
  · next w' =>
    exact yields_pure (spans_splice (spans_splice hsrc (by decide) halias (by decide) (by decide)) (by decide) hw
      (by decide) (by decide))
  · exact yields_pure (spans_splice hsrc (by decide) halias (by decide) (by decide))

theorem entrySingle_succ (h : PredicateSingle d k) : EntrySingle d (k + 1) := by
  intro e scope he hscope
  simp only [Build.entry]
  split
  · exact h e scope he hscope
  split
  · next key v _ =>
    -- 列のキーも印のない文字列のキーも、名前として書いて値の形で条件を選ぶ
    have hcondition : key.nameOperand d = true → v.valueOperand d = true →
        Yields d (·.all operand = true) (do let c ← columnCondition (← name key) v scope; Pure.pure (some c)) :=
      fun hk hv => (yields_name hk).bind fun n hn => (yields_columnCondition hn hv hscope).bind fun t ht =>
        yields_pure ht
    split
    · exact yields_pure rfl
    · next hskip =>
      split
      · have hpair := Value.entryOperand_pair he hskip (by simp)
        exact hcondition hpair.1 hpair.2
      · split
        · next hcount =>
          exact (yields_fragment (Value.entryOperand_fragment he hskip hcount) v).bind fun t ht => yields_pure ht
        · next hzero =>
          have hpair := Value.entryOperand_pair he hskip fun s' hs' => by cases hs'; omega
          exact hcondition hpair.1 hpair.2
      · exact yields_fail _
  · exact yields_fail _

theorem predicateSingle_succ (hwhere : WhereNests d k) (hsub : SubqueryNests d k) :
    PredicateSingle d (k + 1) := by
  intro p scope hp hscope
  cases p
  case comparison col op v =>
    simp only [Value.entryOperand, Bool.and_eq_true] at hp
    simp only [Build.predicate]
    exact yields_comparison hp.1 op hp.2 hscope
  case between col lo hi =>
    simp only [Value.entryOperand] at hp
    simp only [Build.predicate]
    exact (yields_name hp).bind fun n hn => (yields_bind lo).bind fun a ha => (yields_bind hi).bind fun b hb =>
      yields_pure (operand_between hn ha hb)
  case tupleIn cols rows =>
    simp only [Value.entryOperand] at hp
    simp only [Build.predicate]
    exact (yields_tupleIn hp rows).bind fun t ht => yields_pure ht
  case orGroup groups =>
    simp only [Value.entryOperand] at hp
    simp only [Build.predicate]
    refine (yields_mapM fun g hg => hwhere _ scope (Value.groupsOperand_mem hp g hg) hscope).bind
      fun parts hparts => ?_
    have hgs := all_filterMap hparts
    split
    · exact yields_pure rfl
    · next g hg =>
      exact yields_pure (spans_paren (hgs g (by rw [hg]; exact List.mem_singleton_self g)))
    · exact yields_pure (spans_paren (nested_branches hgs))
  case rawCondition sql ps =>
    simp only [Value.entryOperand] at hp
    simp only [Build.predicate]
    exact (yields_bindFragment _ _ _).bind fun r hr => yields_pure (spans_paren (by rw [hr]; exact hp))
  case inSubquery pairs conds negate =>
    simp only [Value.entryOperand, Bool.and_eq_true] at hp
    obtain ⟨hpairs, hconds⟩ := hp
    simp only [Build.predicate]
    split
    · exact yields_fail_bind _ _
    refine (yields_mapM fun q hq => yields_pairParts (List.all_eq_true.1 hpairs q hq)).bind fun split hsplit => ?_
    refine (yields_mapM (R := fun _ => True) fun t _ => ?_).bind fun tags _ => ?_
    · split
      · exact yields_pure trivial
      · exact yields_fail _
    split
    · exact yields_fail_bind _ _
    refine Yields.lookup _ fun m hm => ?_
    refine (yields_mapM fun lt hlt => yields_name (hsplit lt hlt).1).bind fun left hleft => ?_
    refine (yields_mapM (R := (operand · = true)) fun t ht => ?_).bind fun sel hsel => ?_
    · obtain ⟨lt, hlt, rfl⟩ := List.mem_map.1 ht
      exact yields_name (hsplit lt hlt).2
    refine (hsub m _ scope hm (Meta.entriesOperand_filter hm hconds) hscope).bind fun src hsrc =>
      yields_pure (operand_subselect ?_ negate (nested_list hsel) hsrc)
    -- 左辺は一つの列か、列の組
    split
    · exact hleft _ (List.mem_singleton_self _)
    · exact spans_paren (nested_list hleft)
  case existsIn target conds negate =>
    simp only [Value.entryOperand] at hp
    simp only [Build.predicate]
    split
    · exact Yields.lookup _ fun m hm => (hsub m _ scope hm (Meta.entriesOperand_filter hm hp) hscope).bind
        fun src hsrc => yields_pure (operand_exists negate hsrc)
    · exact yields_fail _
  all_goals
    simp only [Build.predicate]
    exact yields_fail _

/-- 燃料についての帰納法: 燃料が尽きればどれも失敗で終わり、一段の燃料で四つの性質が次の段へ移る。 -/
theorem clauses_single (d : Dialect) : ∀ k, WhereNests d k ∧ EntrySingle d k ∧ PredicateSingle d k ∧ SubqueryNests d k
  | 0 => by
    refine ⟨fun _ _ _ _ => ?_, fun _ _ _ _ => ?_, fun _ _ _ _ => ?_, fun _ _ _ _ _ _ => ?_⟩ <;>
      simp only [Build.whereClause, Build.entry, Build.predicate, Build.subquery] <;> exact yields_fail _
  | k + 1 => by
    obtain ⟨hwhere, hentry, hpred, hsub⟩ := clauses_single d k
    exact ⟨whereNests_succ hentry, entrySingle_succ hpred, predicateSingle_succ hwhere hsub,
      subqueryNests_succ hwhere⟩

end Steps

/-! ## 条件の並びの WHERE -/

/-- 演算対象を守る条件の並びの `WHERE` の文は、SQL の優先順位で読むと一つの AND の項で、その演算対象は
残った要素それぞれの訳（要素を左から訳した文）そのもの。どの要素の訳もそれだけで一つの演算対象として
読めるので、AND で繋いでも隣の要素と組み直されない。 -/
theorem where_reads_as_conjunction (d : Dialect) (k : Nat) (entries : List Value) (scope : Scope)
    (c c' : Compiler) (w : String) (hc : Ground d c) (hentries : Value.entriesOperand d entries = true)
    (hscope : scope.operands = true) (hrun : (whereClause (k + 1) entries scope).run c = .ok (some w, c')) :
    ∃ parts, (entries.mapM fun e => entry k e scope).run c = .ok (parts, c') ∧
      (∀ p ∈ parts.filterMap id, skeleton p = some [[trimBlank p.toList]]) ∧
      skeleton w = some [(parts.filterMap id).map fun p => trimBlank p.toList] := by
  rw [run_whereClause] at hrun
  cases hparts : (entries.mapM fun e => entry k e scope).run c with
  | error e =>
    rw [hparts] at hrun
    cases hrun
  | ok r =>
    obtain ⟨parts, c₁⟩ := r
    rw [hparts] at hrun
    simp only [Except.map, Except.ok.injEq, Prod.mk.injEq] at hrun
    obtain ⟨hw, rfl⟩ := hrun
    -- 要素の訳は、燃料 `k` の `entry` の性質から、どれも一つの演算対象
    have hsingle : ∀ p ∈ parts.filterMap id, operand p = true :=
      all_filterMap ((yields_mapM fun e he => (clauses_single d k).2.1 e scope
        (Value.entriesOperand_iff.1 hentries e he) hscope) c parts c₁ hc hparts).2
    refine ⟨parts, rfl, fun p hp => skeleton_of_operand (hsingle p hp), ?_⟩
    unfold andParts at hw
    split at hw
    · cases hw
    · next hne =>
      cases hw
      exact skeleton_conjunction hsingle hne

/-- OR の群の訳は、群ごとの `WHERE` の訳（括弧の中に置ける文）から作る。一つだけ残れば括弧で囲み、
二つ以上残ればそれぞれを括弧で囲んで ` OR ` で繋ぎ、全体を括弧で囲む。その ` OR ` の文を SQL の優先順位で
読むと、どの群もそれだけで一つの項。 -/
theorem orGroup_reads_as_disjunction (d : Dialect) (k : Nat) (groups : List Value) (scope : Scope)
    (c c' : Compiler) (t : String) (hc : Ground d c) (hgroups : Value.groupsOperand d groups = true)
    (hscope : scope.operands = true)
    (hrun : (predicate (k + 1) (.orGroup groups) scope).run c = .ok (some t, c')) :
    ∃ parts, (groups.mapM fun g => whereClause k ((g.tupleItems?).getD []) scope).run c = .ok (parts, c') ∧
      (∀ g ∈ parts.filterMap id, nested g = true) ∧
      ((∃ g, parts.filterMap id = [g] ∧ t = "(" ++ g ++ ")") ∨
        (2 ≤ (parts.filterMap id).length ∧
          t = "(" ++ " OR ".intercalate ((parts.filterMap id).map fun g => "(" ++ g ++ ")") ++ ")" ∧
          skeleton (" OR ".intercalate ((parts.filterMap id).map fun g => "(" ++ g ++ ")")) =
            some ((parts.filterMap id).map fun g => [trimBlank ("(" ++ g ++ ")").toList]))) := by
  simp only [Build.predicate] at hrun
  obtain ⟨parts, c₁, hparts, hrest⟩ := run_bind_ok hrun
  -- 群ごとの訳は、燃料 `k` の `whereClause` の性質から、どれも括弧の中に置ける文
  have hnested : ∀ g ∈ parts.filterMap id, nested g = true :=
    all_filterMap ((yields_mapM fun g hg => (clauses_single d k).1 _ scope (Value.groupsOperand_mem hgroups g hg)
      hscope) c parts c₁ hc hparts).2
  refine ⟨parts, ?_, hnested, ?_⟩
  · split at hrest <;> cases hrest <;> exact hparts
  split at hrest
  · cases hrest
  · next g hg =>
    cases hrest
    exact .inl ⟨g, hg, rfl⟩
  · next hnil hone =>
    cases hrest
    refine .inr ⟨?_, rfl, ?_⟩
    · rcases hgs : parts.filterMap id with _ | ⟨g, _ | ⟨g', rest⟩⟩
      · exact absurd hgs hnil
      · exact absurd hgs (hone g)
      · simp
    · -- 括弧で囲んだ群は、どれも一つの演算対象
      have hbranches : ∀ b ∈ (parts.filterMap id).map (fun g => "(" ++ g ++ ")"), operand b = true := by
        intro b hb
        obtain ⟨g, hg, rfl⟩ := List.mem_map.1 hb
        exact spans_paren (hnested g hg)
      rw [skeleton_disjunction hbranches (by simpa using hnil), List.map_map]
      rfl

/-- 表 `nodes` の列 `deleted`。 -/
def deletedNode : Column := { name := "deleted", property := "deleted", table := "nodes", model := "VisibleNode" }

/-- 既定の絞り込み `(deleted, False)` の後に、括弧で囲んだ断片のキー `(id = ? OR parent_id = ?)` を続けた並び。 -/
def visibleNodeEntries : List Value :=
  [.tuple [.column deletedNode, .bool false], .tuple [.str "(id = ? OR parent_id = ?)", .list [.int 1, .int 2]]]

/-- 括弧で囲んだ断片は既定の絞り込みから離れない: `WHERE` の文はその二つを演算対象とする一つの項。 -/
theorem visibleNode_where_conjunction :
    ∃ c', (whereClause 4 visibleNodeEntries ⟨"VisibleNode", "nodes", none⟩).run
        { dialect := .sqlite, catalog := {} } = .ok (some "deleted = 0 AND (id = ? OR parent_id = ?)", c') ∧
      Sql.skeleton "deleted = 0 AND (id = ? OR parent_id = ?)" = some [["deleted = 0", "(id = ? OR parent_id = ?)"]] := by
  have hw : ((whereClause 4 visibleNodeEntries ⟨"VisibleNode", "nodes", none⟩).run
      { dialect := .sqlite, catalog := {} }).toOption.map Prod.fst = some (some "deleted = 0 AND (id = ? OR parent_id = ?)") := by
    decide +kernel
  obtain ⟨⟨w, c'⟩, hrun, hfst⟩ := Except.exists_of_toOption_map hw
  cases hfst
  obtain ⟨parts, hparts, -, hskel⟩ := where_reads_as_conjunction .sqlite 3 visibleNodeEntries
    ⟨"VisibleNode", "nodes", none⟩ _ c' _ ⟨rfl, rfl, rfl⟩ (by decide +kernel) (by decide +kernel) hrun
  have hp : ((visibleNodeEntries.mapM fun e => entry 3 e ⟨"VisibleNode", "nodes", none⟩).run
      { dialect := .sqlite, catalog := {} }).toOption.map Prod.fst =
        some [some "deleted = 0", some "(id = ? OR parent_id = ?)"] := by
    decide +kernel
  rw [hparts] at hp
  have hparts' : parts = [some "deleted = 0", some "(id = ? OR parent_id = ?)"] := Option.some.inj hp
  subst hparts'
  refine ⟨c', hrun, ?_⟩
  rw [hskel]
  decide

/-- 既定の絞り込み `(deleted, False)` の後に、括弧で囲まない断片のキー `id = ? OR parent_id = ?` を続けた並び。 -/
def bareDisjunctionEntries : List Value :=
  [.tuple [.column deletedNode, .bool false], .tuple [.str "id = ? OR parent_id = ?", .list [.int 1, .int 2]]]

/-- 括弧で囲まない断片は前提を満たさず、既定の絞り込みと組み直される: `WHERE` の文は
`(deleted = 0 AND id = ?) OR parent_id = ?` と読め、削除した行も `parent_id` だけで選ばれる。 -/
theorem visibleNode_bare_fragment_regrouped :
    Value.entriesOperand .sqlite bareDisjunctionEntries = false ∧
      ∃ c', (whereClause 4 bareDisjunctionEntries ⟨"VisibleNode", "nodes", none⟩).run
          { dialect := .sqlite, catalog := {} } = .ok (some "deleted = 0 AND id = ? OR parent_id = ?", c') ∧
        Sql.skeleton "deleted = 0 AND id = ? OR parent_id = ?" = some [["deleted = 0", "id = ?"], ["parent_id = ?"]] := by
  have hw : ((whereClause 4 bareDisjunctionEntries ⟨"VisibleNode", "nodes", none⟩).run
      { dialect := .sqlite, catalog := {} }).toOption.map Prod.fst = some (some "deleted = 0 AND id = ? OR parent_id = ?") := by
    decide +kernel
  obtain ⟨⟨w, c'⟩, hrun, hfst⟩ := Except.exists_of_toOption_map hw
  cases hfst
  exact ⟨by decide +kernel, c', hrun, by decide⟩

end Build

end DataAccess
