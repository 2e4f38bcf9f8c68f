import DataAccess.Proofs.Lockstep
/-!
# 条件の訳は値と一緒に印を書く

条件の並びの訳（`whereClause`、`entry`、`predicate`、`subquery`）と、そこから呼ぶ関数について、
呼び出し側が持ち込む SQL の文字列が安全なら、二通りの走らせ方が並ぶ（`Lockstep`）。

呼び出し側の文字列が安全とは:
* 名前（列の名前、名前として渡す文字列）は `plain`。
* `Raw` の文字列は `plain`。`Dynamic` と生の条件の文字列、断片のキーは囲みの中で終わらない。
  これらの文字列は文字列の値で渡す。
* 副問い合わせの相手のモデル（表の集まりのモデル）も安全（`Meta.safe`）。
-/

namespace DataAccess

open Sql

/-! ## 呼び出し側の文字列 -/

namespace Value

/-- 名前として書かれる値: 列ならその名前、文字列ならその文字列が `plain`。 -/
def nameSafe : Value → Bool
  | .column c => plain c.name
  | .str s => plain s
  | _ => true

/-- そのまま書く SQL の文字列。 -/
def plainText : Value → Bool
  | .str s => plain s
  | _ => false

/-- 自前の印を持つ SQL の文字列。 -/
def settledText : Value → Bool
  | .str s => settled s
  | _ => false

/-- 条件の値や書き込む値が持ち込む SQL の文字列が安全。 -/
def valueSafe : Value → Bool
  | .raw sql => sql.plainText
  | .dynamic sql _ => sql.settledText
  | .parentRef col => col.nameSafe
  | _ => true

/-- 条件のキー。文字列のキーは、印があれば断片、なければ名前として書く。 -/
def keySafe : Value → Bool
  | .column c => plain c.name
  | .str s => settled s
  | _ => true

/-- 副問い合わせの鍵の組: 外側の名前と相手の列。 -/
def pairSafe : Value → Bool
  | .tuple [l, t] => l.nameSafe && t.nameSafe
  | _ => true

mutual
/-- 条件の並びの要素が持ち込む SQL の文字列がどれも安全。 -/
def entrySafe : Value → Bool
  | .tuple [k, v] => k.keySafe && v.valueSafe
  | .comparison col _ v => col.nameSafe && v.valueSafe
  | .between col _ _ => col.nameSafe
  | .tupleIn cols _ => cols.all nameSafe
  | .orGroup groups => groupsSafe groups
  | .rawCondition sql _ => sql.settledText
  | .inSubquery pairs conds _ => pairs.all pairSafe && entriesSafe conds
  | .existsIn _ conds _ => entriesSafe conds
  | _ => true

/-- 条件の並びのどの要素も安全。 -/
def entriesSafe : List Value → Bool
  | [] => true
  | e :: es => entrySafe e && entriesSafe es

/-- OR の群のどの群も安全。 -/
def groupsSafe : List Value → Bool
  | [] => true
  | .tuple es :: gs => entriesSafe es && groupsSafe gs
  | _ :: gs => groupsSafe gs
end

end Value

theorem Value.plainText_iff {v : Value} : v.plainText = true ↔ ∃ s, v = .str s ∧ plain s = true := by
  cases v <;> simp [Value.plainText]

theorem Value.settledText_iff {v : Value} :
    v.settledText = true ↔ ∃ s, v = .str s ∧ settled s = true := by
  cases v <;> simp [Value.settledText]

/-- 条件を訳す場所の行の別名が `plain`。 -/
def Scope.safe (scope : Scope) : Bool :=
  plain scope.rowName && scope.parent.all fun p => plain p.2

/-- 整列の一項の列の名前が `plain`。 -/
def Value.orderSafe (t : Value) : Bool := plain (Statement.select.asOrderTerm t).1.text

/-- モデルのメタデータが持ち込む SQL の文字列が安全: 表の名前、書き込み先の表の名前、列の名前は
`plain`、問い合わせは囲みの中で終わらず、既定の絞り込み・まとめ・整列も安全。 -/
def Meta.safe (m : Meta) : Bool :=
  plain m.table && m.updateTable.all plain && m.query.all settled &&
    m.columns.all (fun c => plain c.name) && Value.entriesSafe m.defaultFilter &&
    m.defaultGroup.all Value.nameSafe && m.defaultOrder.all Value.orderSafe

/-- 表の集まりのどのモデルも安全。 -/
def Catalog.safe (cat : Catalog) : Bool := cat.metas.all Meta.safe

theorem Catalog.safe_modelMeta {cat : Catalog} (hcat : cat.safe = true) {tag : String} {m : Meta}
    (hm : cat.modelMeta tag = .ok m) : m.safe = true := by
  unfold Catalog.modelMeta Catalog.metaByTag? at hm
  split at hm
  · next m' hfind =>
    cases hm
    exact List.all_eq_true.1 hcat _ (List.mem_reverse.1 (List.mem_of_find?_eq_some hfind))
  · cases hm

namespace Build

/-! ## 名前と値 -/

section Leaves

variable {d : Dialect} {cat : Catalog} {f : Nat → String} {k : Nat}

theorem Lockstep.name {v : Value} (hv : v.nameSafe = true) :
    Lockstep d cat f k Fixed (Build.name v) (Build.name v) := by
  unfold Build.name
  refine Lockstep.bind Lockstep.dialect fun k' d₁ d₂ ⟨⟨hk, hd⟩, hd₁⟩ => ?_
  subst hd hd₁ hk
  split
  · exact Lockstep.pure ⟨⟨rfl, rfl⟩, Dialect.plain_identifier _ hv⟩
  · exact Lockstep.pure ⟨⟨rfl, rfl⟩, Dialect.plain_identifier _ hv⟩
  · exact Lockstep.fail _ _

theorem Lockstep.inList {col : String} (hcol : plain col = true) (values : List Value) (negate : Bool) :
    Lockstep d cat f k (Text f) (Build.inList col values negate) (Build.inList col values negate) := by
  unfold Build.inList
  by_cases he : values.isEmpty = true
  · rw [if_pos he]
    exact Lockstep.pure (Text.of_plain (by split <;> decide) k)
  · rw [if_neg he]
    refine Lockstep.bind (Lockstep.mapM fun v _ k => Lockstep.bindValue v) fun k' marks marks' h => ?_
    refine Lockstep.pure (Text.append_plain (Text.plain_append (plain_append_of hcol ?_)
      (h.intercalate (by decide))) (by decide))
    split <;> decide

theorem Lockstep.parentColumn {col : Value} (hcol : col.nameSafe = true) {scope : Scope}
    (hscope : scope.safe = true) :
    Lockstep d cat f k Fixed (Build.parentColumn col scope) (Build.parentColumn col scope) := by
  unfold Build.parentColumn
  split
  · exact Lockstep.fail _ _
  · next ptag prow hparent =>
    have hrow : plain prow = true := by
      simp only [Scope.safe, hparent, Option.all_some, Bool.and_eq_true] at hscope
      exact hscope.2
    split
    · next hcol =>
      simp only
      split
      · exact Lockstep.fail_bind _ _ _ _
      · exact Lockstep.bind (Lockstep.name hcol) fun k' a b ⟨⟨hk, hb⟩, ha⟩ =>
          Lockstep.pure ⟨⟨hk, by rw [hb]⟩, plain_append_of (plain_append_of hrow (by decide)) ha⟩
    · exact Lockstep.fail _ _

/-- 文字列の値の断片を束縛し、その文字列を `plain` な前置きの後に書く。 -/
theorem Lockstep.fragmentText {s : String} (hs : settled s = true) (ps : List Value) (label : String)
    {pre : String} (hpre : plain pre = true) :
    Lockstep d cat f k (Text f)
      (Build.bindFragment (.str s) ps label >>= fun w => Pure.pure (pre ++ w.text))
      (Build.bindFragment (.str s) ps label >>= fun w => Pure.pure (pre ++ w.text)) :=
  Lockstep.bind (Lockstep.bindFragment hs ps label) fun _ _ _ ⟨t, ha, hb, ht, hk⟩ => by
    subst ha hb
    exact Lockstep.pure (Text.plain_append hpre ⟨ht, hk, rfl⟩)

theorem Lockstep.bindAfter (v : Value) {pre : String} (hpre : plain pre = true) :
    Lockstep d cat f k (Text f) (Build.bind v >>= fun m => Pure.pure (pre ++ m))
      (Build.bind v >>= fun m => Pure.pure (pre ++ m)) :=
  Lockstep.bind (Lockstep.bindValue v) fun _ _ _ h => Lockstep.pure (Text.plain_append hpre h)

theorem Lockstep.columnCondition {col : String} (hcol : plain col = true) {v : Value}
    (hv : v.valueSafe = true) {scope : Scope} (hscope : scope.safe = true) :
    Lockstep d cat f k (Text f) (Build.columnCondition col v scope) (Build.columnCondition col v scope) := by
  unfold Build.columnCondition
  refine Lockstep.bind Lockstep.dialect fun k' d₁ d₂ ⟨⟨hk, hd⟩, hd₁⟩ => ?_
  subst hd hd₁ hk
  split
  · exact Lockstep.pure (Text.of_plain (plain_append_of hcol (by decide)) _)
  · exact Lockstep.pure (Text.of_plain (plain_append_of hcol (by decide)) _)
  · exact Lockstep.pure (Text.of_plain (plain_append_of hcol (by decide)) _)
  · exact Lockstep.pure (Text.of_plain (plain_append_of (plain_append_of hcol (by decide))
      (Dialect.plain_now _)) _)
  · exact Lockstep.fail _ _
  · exact Lockstep.pure (Text.of_plain (plain_append_of (plain_append_of hcol (by decide))
      (Dialect.plain_boolean _ _)) _)
  · obtain ⟨t, rfl, ht⟩ := Value.plainText_iff.1 hv
    exact Lockstep.pure (Text.of_plain (plain_append_of (plain_append_of hcol (by decide)) ht) _)
  · obtain ⟨t, rfl, ht⟩ := Value.settledText_iff.1 hv
    exact Lockstep.fragmentText ht _ _ (plain_append_of hcol (by decide))
  · exact Lockstep.bind (Lockstep.parentColumn hv hscope) fun _ _ _ h =>
      Lockstep.pure (Text.plain_append (plain_append_of hcol (by decide)) h.text)
  · exact Lockstep.inList hcol _ _
  · exact Lockstep.inList hcol _ _
  · split
    · exact Lockstep.fail _ _
    · exact Lockstep.bindAfter _ (plain_append_of hcol (by decide))

theorem Lockstep.markedAll {s : String} (hs : settled s = true) {ps : List Value}
    (hlen : ps.length = countMarkers s) :
    Lockstep d cat f k (Text f)
      (Build.marked s >>= fun w => (forIn ps PUnit.unit fun p _ => do
          let _ ← Build.bind p
          Pure.pure (ForInStep.yield PUnit.unit)) >>= fun _ => Pure.pure w)
      (Build.marked s >>= fun w => (forIn ps PUnit.unit fun p _ => do
          let _ ← Build.bind p
          Pure.pure (ForInStep.yield PUnit.unit)) >>= fun _ => Pure.pure w) := by
  refine Lockstep.bind (Lockstep.marked s) fun k₁ w w' ⟨hk₁, hw, hw'⟩ => ?_
  subst hw hw'
  refine Lockstep.bind (Lockstep.bindAll ps k₁) fun k₂ _ _ hk₂ => Lockstep.pure ⟨hs, ?_, rfl⟩
  rw [hk₂, hk₁, hlen]

theorem Lockstep.fragment {sql : String} (hs : settled sql = true) (v : Value) :
    Lockstep d cat f k (Text f) (Build.fragment sql v) (Build.fragment sql v) := by
  unfold Build.fragment
  by_cases hone : (countMarkers sql == 1) = true
  · rw [if_pos hone]
    have hcount : countMarkers sql = 1 := by simpa using hone
    refine Lockstep.bind (Lockstep.marked sql) fun k₁ w w' ⟨hk₁, hw, hw'⟩ => ?_
    subst hw hw'
    refine Lockstep.bind (Lockstep.bindMark v) fun k₂ _ _ ⟨hk₂, _, _⟩ => Lockstep.pure ⟨hs, ?_, rfl⟩
    rw [hk₂, hk₁, hcount]
  · rw [if_neg hone]
    split
    · split
      · next hlen => exact Lockstep.markedAll hs (by simpa using hlen)
      · exact Lockstep.fail _ _
    · exact Lockstep.fail _ _

theorem plain_of_comparisonOperator {op : String} (h : comparisonOperators.contains op = true) :
    plain op = true := by
  have hall : ∀ o ∈ comparisonOperators, plain o = true := by decide
  exact hall op (List.elem_iff.1 h)

theorem Lockstep.comparison {col : Value} (hcol : col.nameSafe = true) (op : Value) {v : Value}
    (hv : v.valueSafe = true) {scope : Scope} (hscope : scope.safe = true) :
    Lockstep d cat f k (OptText f) (Build.comparison col op v scope) (Build.comparison col op v scope) := by
  unfold Build.comparison
  refine Lockstep.bind Lockstep.dialect fun k' d₁ d₂ ⟨⟨hk, hd⟩, hd₁⟩ => ?_
  subst hd hd₁ hk
  simp only
  split
  · next s =>
    simp only [pure_bind]
    by_cases hop : (!comparisonOperators.contains (upperWord s)) = true
    · rw [if_pos hop]
      exact Lockstep.fail_bind _ _ _ _
    · rw [if_neg hop]
      have hoperator : plain (upperWord s) = true :=
        plain_of_comparisonOperator (by simpa using hop)
      refine Lockstep.bind (Lockstep.name hcol) fun k₁ n n' ⟨⟨hk₁, hn'⟩, hn⟩ => ?_
      rw [hn']
      subst hk₁
      have hpre : plain (n ++ " " ++ upperWord s ++ " ") = true :=
        plain_append_of (plain_append_of (plain_append_of hn (by decide)) hoperator) (by decide)
      split
      · exact Lockstep.pure rfl
      · by_cases hin : (upperWord s == "IN" || upperWord s == "NOT IN") = true
        · rw [if_pos hin]
          split
          · exact Lockstep.bind (Lockstep.inList hn _ _) fun _ _ _ h => Lockstep.pure h
          · exact Lockstep.fail_bind _ _ _ _
        · rw [if_neg hin]
          have hnull : Lockstep d₂ cat f k₁ (fun _ k'' => OptText f k₁ k'')
              (if (upperWord s == "=") = true then Pure.pure (some (n ++ " IS NULL"))
                else if (upperWord s == "!=" || upperWord s == "<>") = true then
                  Pure.pure (some (n ++ " IS NOT NULL"))
                else Build.fail (Fault.contract ("cannot compare " ++ n ++ " " ++ upperWord s ++ " NULL")
                  none (some v)))
              (if (upperWord s == "=") = true then Pure.pure (some (n ++ " IS NULL"))
                else if (upperWord s == "!=" || upperWord s == "<>") = true then
                  Pure.pure (some (n ++ " IS NOT NULL"))
                else Build.fail (Fault.contract ("cannot compare " ++ n ++ " " ++ upperWord s ++ " NULL")
                  none (some v))) := by
            split
            · exact Lockstep.pure (Text.of_plain (plain_append_of hn (by decide)) _)
            · split
              · exact Lockstep.pure (Text.of_plain (plain_append_of hn (by decide)) _)
              · exact Lockstep.fail _ _
          split
          · exact hnull
          · exact hnull
          · by_cases hil : (upperWord s == "ILIKE") = true
            · rw [if_pos hil]
              obtain ⟨hsettled, hcount⟩ := Dialect.ilike_marks d₂ hn
              refine Lockstep.bind (Lockstep.marked _) fun k₂ w w' ⟨hk₂, hw, hw'⟩ => ?_
              subst hw hw'
              refine Lockstep.bind (Lockstep.bindMark v) fun k₃ _ _ ⟨hk₃, _, _⟩ =>
                Lockstep.pure ⟨hsettled, ?_, rfl⟩
              rw [hk₃, hk₂, hcount]
            · rw [if_neg hil]
              split
              · obtain ⟨t, rfl, ht⟩ := Value.plainText_iff.1 hv
                exact Lockstep.pure (Text.of_plain (plain_append_of hpre ht) _)
              · exact Lockstep.bind (Lockstep.parentColumn hv hscope) fun _ _ _ h =>
                  Lockstep.pure (Text.plain_append hpre h.text)
              · obtain ⟨t, rfl, ht⟩ := Value.settledText_iff.1 hv
                refine Lockstep.bind (Lockstep.bindFragment ht _ _) fun _ _ _ ⟨t', ha, hb, hts, hk⟩ => ?_
                subst ha hb
                exact Lockstep.pure (Text.plain_append hpre ⟨hts, hk, rfl⟩)
              · exact Lockstep.pure (Text.of_plain (plain_append_of hpre (Dialect.plain_now _)) _)
              · exact Lockstep.bind (Lockstep.bindValue v) fun _ _ _ h =>
                  Lockstep.pure (Text.plain_append hpre h)
  · exact Lockstep.fail_bind _ _ _ _
  · exact Lockstep.fail_bind _ _ _ _

theorem Lockstep.names {cols : List Value} (hcols : cols.all Value.nameSafe = true) :
    Lockstep d cat f k (fun k k' (as bs : List String) => k' = k ∧ bs = as ∧ ∀ a ∈ as, plain a = true)
      (cols.mapM Build.name) (cols.mapM Build.name) :=
  Lockstep.mapM_same fun c hc _ => Lockstep.name (List.all_eq_true.1 hcols c hc)

theorem Lockstep.tupleIn {cols : List Value} (hcols : cols.all Value.nameSafe = true) (rows : List Value) :
    Lockstep d cat f k (Text f) (Build.tupleIn cols rows) (Build.tupleIn cols rows) := by
  unfold Build.tupleIn
  simp only
  split
  · exact Lockstep.fail_bind _ _ _ _
  · refine Lockstep.bind (Lockstep.forIn_same fun r _ k => ?_) fun k₁ _ _ hk₁ => ?_
    · split
      · exact Lockstep.fail_bind _ _ _ _
      · exact Lockstep.pure ⟨rfl, rfl⟩
    · subst hk₁
      split
      · exact Lockstep.pure (Text.of_plain (by decide) _)
      · refine Lockstep.bind (Lockstep.names hcols) fun k₂ names names' ⟨hk₂, hn', hn⟩ => ?_
        rw [hn']
        subst hk₂
        split
        · have hhead : plain (names.headD "") = true := by
            cases names with
            | nil => decide
            | cons a _ => exact hn a List.mem_cons_self
          exact Lockstep.inList hhead _ false
        · have hnames : plain (", ".intercalate names) = true := plain_intercalate (by decide) hn
          have hgroup : ∀ r ∈ (rows.map fun r => (r.tupleItems?).getD []), ∀ k,
              Lockstep d cat f k (Text f)
                (r.mapM Build.bind >>= fun marks => Pure.pure ("(" ++ ", ".intercalate marks ++ ")"))
                (r.mapM Build.bind >>= fun marks => Pure.pure ("(" ++ ", ".intercalate marks ++ ")")) :=
            fun r _ k => Lockstep.bind (Lockstep.mapM fun v _ k => Lockstep.bindValue v) fun _ _ _ h =>
              Lockstep.pure (Text.append_plain (Text.plain_append (by decide) (h.intercalate (by decide)))
                (by decide))
          refine Lockstep.bind (Lockstep.mapM hgroup) fun _ _ _ h => Lockstep.pure ?_
          exact Text.append_plain (Text.plain_append
            (plain_append_of (plain_append_of (by decide) hnames) (by decide)) (h.intercalate (by decide)))
            (by decide)

theorem Lockstep.value {v : Value} (hv : v.valueSafe = true) :
    Lockstep d cat f k (ValueText f) (Build.value v) (Build.value v) := by
  have hbound : ∀ w : Value, Lockstep d cat f k (ValueText f)
      (Build.bind w >>= fun m => Pure.pure (Value.str m)) (Build.bind w >>= fun m => Pure.pure (Value.str m)) :=
    fun w => Lockstep.bind (Lockstep.bindValue w) fun _ _ _ ⟨hs, hk, hb⟩ => by
      subst hb
      exact Lockstep.pure ⟨_, rfl, rfl, hs, hk⟩
  unfold Build.value
  refine Lockstep.bind Lockstep.dialect fun k' d₁ d₂ ⟨⟨hk, hd⟩, hd₁⟩ => ?_
  subst hd hd₁ hk
  split
  · exact hbound .none
  · exact hbound .none
  · exact Lockstep.pure ⟨_, rfl, by rw [renumber_of_count_zero f _ (countMarkers_of_plain
      (Dialect.plain_now _))], settled_of_plain (Dialect.plain_now _), by
      rw [countMarkers_of_plain (Dialect.plain_now _), Nat.add_zero]⟩
  · exact Lockstep.fail _ _
  · obtain ⟨t, rfl, ht⟩ := Value.plainText_iff.1 hv
    exact Lockstep.pure ⟨t, rfl, by rw [renumber_of_count_zero f _ (countMarkers_of_plain ht)],
      settled_of_plain ht, by rw [countMarkers_of_plain ht, Nat.add_zero]⟩
  · obtain ⟨t, rfl, ht⟩ := Value.settledText_iff.1 hv
    exact Lockstep.bindFragment ht _ _
  · exact Lockstep.fail _ _
  · split
    · exact Lockstep.fail _ _
    · exact hbound v

theorem Lockstep.source {m : Meta} (hm : m.safe = true) :
    Lockstep d cat f k (Text f) (Build.source m) (Build.source m) := by
  simp only [Meta.safe, Bool.and_eq_true] at hm
  obtain ⟨⟨⟨⟨⟨⟨htable, -⟩, hquery⟩, -⟩, -⟩, -⟩, -⟩ := hm
  unfold Build.source
  refine Lockstep.bind Lockstep.dialect fun k' d₁ d₂ ⟨⟨hk, hd⟩, hd₁⟩ => ?_
  subst hd hd₁ hk
  split
  · exact Lockstep.pure (Text.of_plain (Dialect.plain_identifier _ htable) _)
  · next q hq =>
    have hs : settled q = true := by simpa [hq] using hquery
    refine Lockstep.bind (Lockstep.bindFragment hs _ _) fun _ _ _ ⟨t, ha, hb, hts, hk⟩ => ?_
    subst ha hb
    exact Lockstep.pure (Text.append_plain (Text.plain_append (by decide) ⟨hts, hk, rfl⟩) (by decide))

end Leaves

end Build

end DataAccess
