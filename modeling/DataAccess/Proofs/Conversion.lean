import DataAccess.Proofs.Markers
import DataAccess.Dialect

/-!
# 方言の印への書き換えと印の数

組み立ての断片は、引用の外の `?` を数えて値の数と比べる（単引用符・二重引用符・逆引用符の囲みを
数えない）。実行のときには方言が `?` を自分の印に書き換える。ここでは、書き換えた文字列を、
数えた印の位置で切った切れ端で言う。

どの文字列 `s` も、最初の切れ端 `p` と、数えた印の数だけの切れ端 `ps` に切れて、
`s = p ++ ?q₁ ++ ?q₂ ++ …` と書ける。そして

* SQLite は書き換えない。
* MySQL は `i` 番目の印を `%s` に、ほかの `%` をどれも `%%` にする。左から `%%` を `%`、
  `%s` を `?` と読み戻すと元の文字列になる。
* PostgreSQL は `i` 番目の印を `$(i+1)` にする。ただし PostgreSQL の書き換えは逆引用符を囲みと
  みなさないので、これが言えるのは逆引用符がどれも単引用符か二重引用符の囲みの中にあるときだけ。
  `` `?` `` は印を数えないのに `` `$1` `` に書き換わる。
-/

namespace DataAccess.Sql

/-! ## 切れ端と印 -/

/-- 切れ端の並び `qs` の各切れ端の前に、左から順に印 `f k, f (k+1), …` を置いて繋いだ文字列。 -/
def marked (f : Nat → String) (k : Nat) : List String → String
  | [] => ""
  | q :: qs => f k ++ q ++ marked f (k + 1) qs

/-- `%` を二重にするなら `%` を `%%` と書き、ほかの字はそのまま書く。 -/
def escapeChar (e : Bool) (c : Char) : String := if e && c == '%' then "%%" else c.toString

/-- 字の並びを、`%` を二重にするかどうか `e` に従って書いた文字列。 -/
def escaped (e : Bool) (cs : List Char) : String := String.join (cs.map (escapeChar e))

/-- `%` をどれも `%%` にした文字列。 -/
def doublePercent (s : String) : String := escaped true s.toList

/-- MySQL の書き換えを戻す: 左から読み、`%%` を `%` に、`%s` を `?` に戻す。 -/
def restoreMarkers : List Char → List Char
  | '%' :: '%' :: rest => '%' :: restoreMarkers rest
  | '%' :: 's' :: rest => '?' :: restoreMarkers rest
  | c :: rest => c :: restoreMarkers rest
  | [] => []

/-- 数える走査が、囲みの中でない所で逆引用符を読むか。 -/
def bareBacktickFrom : ScanState → List Char → Bool
  | _, [] => false
  | t, c :: rest => (!t.quoted && c == backtick) || bareBacktickFrom (t.step countingStyle 0 c).2.1 rest

/-- 単引用符か二重引用符の囲みの中にない逆引用符がある文字列。 -/
def bareBackticks (s : String) : Bool := bareBacktickFrom .outside s.toList

@[simp] theorem escaped_nil (e : Bool) : escaped e [] = "" := rfl

@[simp] theorem escaped_cons (e : Bool) (c : Char) (cs : List Char) :
    escaped e (c :: cs) = escapeChar e c ++ escaped e cs := by
  simp [escaped]

theorem escaped_false (cs : List Char) : escaped false cs = String.ofList cs := by
  induction cs with
  | nil => rfl
  | cons c cs ih =>
    rw [escaped_cons, ih, escapeChar, Bool.false_and, if_neg Bool.false_ne_true]
    simp only [String.ofList_cons, Char.toString_eq_singleton]

/-! ## 一文字の読み方

数える走査と同じ三つの囲みの文字を使う書き方なら、状態の移り方と印の番号の進み方は数える走査と
同じで、書き出すのは、印なら番号の印、ほかは `%` の二重化に従った字。 -/

/-- 数える走査と同じ囲みで、印を `f` で書き、`%` を二重にするかどうかが `e` の書き方。 -/
abbrev threeQuotes (f : Nat → String) (e : Bool) : MarkerStyle := ⟨f, e, countingStyle.quotes⟩

theorem step_threeQuotes (f : Nat → String) (e : Bool) {t : ScanState} (ht : t.QuoteIn countingStyle.quotes)
    (i : Nat) (c : Char) :
    t.step (threeQuotes f e) i c =
      if (t.step countingStyle 0 c).2.2 = 1 then (f i, (t.step countingStyle 0 c).2.1, i + 1)
      else (escapeChar e c, (t.step countingStyle 0 c).2.1, i) := by
  -- 囲みの文字はどれも `%` でない
  have hpct : ∀ q ∈ countingStyle.quotes, q ≠ '%' := by
    simp only [countingStyle, List.mem_cons, List.not_mem_nil, or_false, forall_eq_or_imp, forall_eq]
    exact ⟨by decide, by decide, by decide⟩
  cases t with
  | outside =>
    simp only [ScanState.step, stepOutside, countingStyle, escapeChar]
    split_ifs <;> simp_all [backtick]
  | inside q | closing q =>
    have hq : q ≠ '%' ∧ '%' ≠ q := ⟨hpct q ht, fun h => hpct q ht h.symm⟩
    simp only [ScanState.step, stepOutside, countingStyle, escapeChar]
    split_ifs <;> simp_all [backtick]

theorem step_counting_index {t : ScanState} (ht : t.QuoteIn countingStyle.quotes) (c : Char) :
    (t.step countingStyle 0 c).2.2 = 1 ∨ (t.step countingStyle 0 c).2.2 = 0 := by
  have h := step_threeQuotes (fun _ => "?") false ht 0 c
  split at h
  · exact Or.inl ‹_›
  · exact Or.inr (by rw [show countingStyle = threeQuotes (fun _ => "?") false from rfl] at h ⊢; rw [h])

/-! ## 数えた印で切る -/

/-- 走査する字の並びは、最初の切れ端と、数えた印の数だけの切れ端に切れて、三つの囲みの文字を使う
どの書き方でも、書き出すのは切れ端を `%` の二重化に従って書き、その間に番号の印を挟んだもの。 -/
theorem scan_pieces {t : ScanState} (ht : t.QuoteIn countingStyle.quotes) (cs : List Char) :
    ∃ (p : List Char) (ps : List (List Char)), ps.length = (scan countingStyle t 0 cs).2 ∧
      ∀ (f : Nat → String) (e : Bool) (k : Nat),
        String.join (scan (threeQuotes f e) t k cs).1 = escaped e p ++ marked f k (ps.map (escaped e)) := by
  induction cs generalizing t with
  | nil => exact ⟨[], [], rfl, fun _ _ _ => rfl⟩
  | cons c rest ih =>
    obtain ⟨p, ps, hlen, hout⟩ := ih (step_quoteIn ht 0 (c := c))
    have hcount : (scan countingStyle t 0 (c :: rest)).2 =
        (t.step countingStyle 0 c).2.2 + (scan countingStyle (t.step countingStyle 0 c).2.1 0 rest).2 := by
      rw [scan_cons, scan_index]
    -- 一文字目が印なら新しい切れ端が始まり、印でなければ最初の切れ端が一字伸びる
    rcases step_counting_index ht c with hmark | hplain
    · refine ⟨[], p :: ps, by rw [hcount, hmark, ← hlen, List.length_cons, Nat.add_comm], fun f e k => ?_⟩
      rw [scan_cons, step_threeQuotes f e ht, if_pos hmark, String.join_cons, hout]
      simp [marked, String.append_assoc]
    · refine ⟨c :: p, ps, by rw [hcount, hplain, hlen, Nat.zero_add], fun f e k => ?_⟩
      rw [scan_cons, step_threeQuotes f e ht, if_neg (by omega), String.join_cons, hout, escaped_cons,
        String.append_assoc]

/-- どの文字列も、最初の切れ端 `p` と、引用の外の印の数だけの切れ端 `ps` に切れて、印を番号順に `f` で
書き直した文字列は、切れ端の間に `f 0, f 1, …` を挟んだもの（`f` を `?` にすれば元の文字列）。 -/
theorem renumber_pieces (s : String) :
    ∃ (p : List Char) (ps : List (List Char)), ps.length = countMarkers s ∧
      ∀ (f : Nat → String) (e : Bool),
        String.join (scan (threeQuotes f e) .outside 0 s.toList).1 =
          escaped e p ++ marked f 0 (ps.map (escaped e)) :=
  let ⟨p, ps, hlen, hout⟩ := scan_pieces (t := .outside) trivial s.toList
  ⟨p, ps, hlen, fun f e => hout f e 0⟩

/-! ## PostgreSQL の囲み -/

/-- 単引用符と二重引用符だけの囲み。 -/
abbrev twoQuotes (f : Nat → String) : MarkerStyle := { render := f }

/-- 囲みの外で逆引用符を読まなければ、二つの囲みの文字の一歩は三つの囲みの文字の一歩と同じ。 -/
theorem step_twoQuotes (f : Nat → String) {t : ScanState} {c : Char} (ht : t.QuoteIn ['\'', '"'])
    (hc : t.quoted = true ∨ c ≠ backtick) (i : Nat) :
    t.step (twoQuotes f) i c = t.step (threeQuotes f false) i c ∧
      (t.step (threeQuotes f false) i c).2.1.QuoteIn ['\'', '"'] := by
  cases t <;> simp only [ScanState.step, stepOutside, countingStyle] <;> split_ifs <;>
    simp_all [ScanState.QuoteIn, ScanState.quoted, backtick]

/-- 囲みの外で逆引用符を読まない走査は、二つの囲みの文字でも三つの囲みの文字でも同じ。 -/
theorem scan_twoQuotes (f : Nat → String) :
    ∀ {t : ScanState} {cs : List Char}, t.QuoteIn ['\'', '"'] → bareBacktickFrom t cs = false → ∀ k,
      scan (twoQuotes f) t k cs = scan (threeQuotes f false) t k cs
  | _, [], _, _, _ => rfl
  | t, c :: rest, ht, hbare, k => by
    simp only [bareBacktickFrom, Bool.or_eq_false_iff, Bool.and_eq_false_iff, Bool.not_eq_false',
      beq_eq_false_iff_ne] at hbare
    obtain ⟨hstep, hnext⟩ := step_twoQuotes f ht hbare.1 k
    -- 次の状態は、数える走査の次の状態
    have ht3 : t.QuoteIn countingStyle.quotes := by
      cases t with
      | outside => trivial
      | inside q | closing q =>
        simp only [ScanState.QuoteIn, countingStyle, List.mem_cons, List.not_mem_nil, or_false] at ht ⊢
        exact ht.elim Or.inl fun h => Or.inr (Or.inl h)
    have hstate : (t.step (threeQuotes f false) k c).2.1 = (t.step countingStyle 0 c).2.1 := by
      rw [step_threeQuotes f false ht3]
      split <;> rfl
    rw [scan_cons, scan_cons, hstep, scan_twoQuotes f hnext (hstate ▸ hbare.2)]

/-! ## 方言ごとの書き換え -/

theorem restoreMarkers_cons_of_ne {c : Char} (hc : c ≠ '%') (xs : List Char) :
    restoreMarkers (c :: xs) = c :: restoreMarkers xs :=
  restoreMarkers.eq_3 c xs (fun _ h => absurd h hc) (fun _ h => absurd h hc)

/-- MySQL の書き換えを戻すと、`%` を二重にした切れ端は元の切れ端に戻る。 -/
theorem restoreMarkers_escaped (rest : List Char) :
    ∀ p : List Char, restoreMarkers ((escaped true p).toList ++ rest) = p ++ restoreMarkers rest
  | [] => rfl
  | c :: p => by
    rw [escaped_cons, String.toList_append, List.append_assoc, escapeChar]
    by_cases hc : c = '%'
    · subst hc
      simp only [Bool.true_and, beq_self_eq_true, if_true]
      rw [show "%%".toList = ['%', '%'] from rfl, List.cons_append, List.cons_append, List.nil_append,
        restoreMarkers, restoreMarkers_escaped rest p, List.cons_append]
    · simp only [Bool.true_and, beq_eq_false_iff_ne.2 hc, Bool.false_eq_true, if_false,
        Char.toString_eq_singleton, String.toList_singleton, List.cons_append, List.nil_append]
      rw [restoreMarkers_cons_of_ne hc, restoreMarkers_escaped rest p]

/-- 戻すと、`%s` の印は `?` に、`%` を二重にした切れ端は元の切れ端に戻る。 -/
theorem restoreMarkers_marked :
    ∀ (k : Nat) (ps : List (List Char)),
      restoreMarkers (marked (fun _ => "%s") k (ps.map (escaped true))).toList =
        (marked (fun _ => "?") k (ps.map String.ofList)).toList
  | _, [] => rfl
  | k, q :: qs => by
    simp only [List.map_cons, marked, String.toList_append, List.append_assoc]
    rw [show "%s".toList = ['%', 's'] from rfl, List.cons_append, List.cons_append, List.nil_append,
      restoreMarkers, restoreMarkers_escaped, restoreMarkers_marked (k + 1) qs]
    simp

/-- 方言の書き換えと印の数: どの文字列も、最初の切れ端 `p` と、引用の外の `?` の数だけの切れ端 `ps` に
切れて、`s = p ++ ?q₁ ++ … ++ ?qₙ`。印を番号順に書き直すのは切れ端の間の `?` を書き直すことで、
SQLite は書き換えず、MySQL は印を `%s` に、ほかの `%` を `%%` にし（左から読み戻すと元の文字列）、
PostgreSQL は、逆引用符がどれも単引用符か二重引用符の囲みの中にあれば、印を `$1, …, $n` にする。 -/
theorem placeholder_conversion (s : String) :
    ∃ (p : String) (ps : List String), ps.length = countMarkers s ∧
      s = p ++ marked (fun _ => "?") 0 ps ∧
      (∀ f : Nat → String, renumber f 0 s = p ++ marked f 0 ps) ∧
      Dialect.sqlite.convertPlaceholders s = p ++ marked Dialect.sqlite.placeholder 0 ps ∧
      Dialect.mysql.convertPlaceholders s =
        doublePercent p ++ marked Dialect.mysql.placeholder 0 (ps.map doublePercent) ∧
      (bareBackticks s = false →
        Dialect.postgresql.convertPlaceholders s = p ++ marked Dialect.postgresql.placeholder 0 ps) ∧
      restoreMarkers (Dialect.mysql.convertPlaceholders s).toList = s.toList := by
  obtain ⟨p, ps, hlen, hout⟩ := renumber_pieces s
  -- `%` を二重にしない切れ端は字の並びそのもの
  have hplain : ∀ f, renumber f 0 s = String.ofList p ++ marked f 0 (ps.map String.ofList) := by
    intro f
    rw [renumber, show markStyle f = threeQuotes f false from rfl, hout, escaped_false,
      show escaped false = String.ofList from funext escaped_false]
  have hs : s = String.ofList p ++ marked (fun _ => "?") 0 (ps.map String.ofList) := by
    rw [← hplain, renumber_qmark]
  have hmysql : Dialect.mysql.convertPlaceholders s =
      doublePercent (String.ofList p) ++ marked Dialect.mysql.placeholder 0 (ps.map String.ofList |>.map doublePercent) := by
    simp only [Dialect.convertPlaceholders, Dialect.markerStyle?, rewriteMarkers, doublePercent,
      String.toList_ofList, List.map_map, Function.comp_def]
    exact hout _ true
  refine ⟨String.ofList p, ps.map String.ofList, by rw [List.length_map, hlen], hs, hplain, ?_, hmysql, ?_, ?_⟩
  · -- SQLite の印は `?` のまま
    rw [show Dialect.sqlite.placeholder = fun _ => "?" from rfl, ← hs]
    rfl
  · intro hbare
    simp only [Dialect.convertPlaceholders, Dialect.markerStyle?, rewriteMarkers]
    rw [show ({ render := Dialect.postgresql.placeholder } : MarkerStyle) = twoQuotes Dialect.postgresql.placeholder
      from rfl, scan_twoQuotes _ (t := .outside) trivial hbare]
    exact hplain _
  · -- 切れ端と印を順に読み戻す
    have hpieces : (ps.map String.ofList).map doublePercent = ps.map (escaped true) := by
      simp [doublePercent, Function.comp_def]
    rw [hmysql, show Dialect.mysql.placeholder = fun _ => "%s" from rfl, hpieces, doublePercent,
      String.toList_ofList, String.toList_append, restoreMarkers_escaped, restoreMarkers_marked, hs,
      String.toList_append, String.toList_ofList]

/-- 引用符の中の `%` は印でない: PostgreSQL は二つの印を `$1`、`$2` に、MySQL は `%s` にし `%` を二重にする。 -/
theorem like_percent_converted :
    bareBackticks "a = ? AND b LIKE '5%' AND c = ?" = false ∧
      (∃ p ps, ps.length = 2 ∧ Dialect.postgresql.convertPlaceholders "a = ? AND b LIKE '5%' AND c = ?" =
        p ++ marked Dialect.postgresql.placeholder 0 ps) ∧
      Dialect.postgresql.convertPlaceholders "a = ? AND b LIKE '5%' AND c = ?" = "a = $1 AND b LIKE '5%' AND c = $2" ∧
      Dialect.mysql.convertPlaceholders "a = ? AND b LIKE '5%' AND c = ?" = "a = %s AND b LIKE '5%%' AND c = %s" := by
  have hbare : bareBackticks "a = ? AND b LIKE '5%' AND c = ?" = false := by decide +kernel
  obtain ⟨p, ps, hlen, -, -, -, -, hpg, -⟩ := placeholder_conversion "a = ? AND b LIKE '5%' AND c = ?"
  exact ⟨hbare, ⟨p, ps, hlen.trans (by decide +kernel), hpg hbare⟩, by decide +kernel, by decide +kernel⟩

/-- PostgreSQL の書き換えは逆引用符を囲みとみなさない: `` `?` `` の印は数えないのに `$1` に書き換わる。 -/
theorem postgresql_backtick_marker :
    countMarkers (String.ofList [backtick, '?', backtick]) = 0 ∧
      Dialect.postgresql.convertPlaceholders (String.ofList [backtick, '?', backtick]) =
        String.ofList [backtick, '$', '1', backtick] := by
  constructor <;> decide +kernel

end DataAccess.Sql
