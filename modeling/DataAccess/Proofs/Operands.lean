import DataAccess.Sql.Precedence
import Mathlib.Tactic.SplitIfs
/-!
# 一つの演算対象として読める文字列

条件の文の読み（`Sql.skeleton`）について、文字列を繋いでも読みが崩れないための法則。

* 一文字の読み（`Cursor.step`）は、その文字だけの印か、文字でない印で始まる印を挟む（`step_marks`）。
  そこで「文字だけの印で読める」ことは一文字ずつ確かめられる（`scan_cons_chars`、`scan_append_chars`）。
* 休んでいる状態（`Rest`）からは、語の切れ目の文字（`breaks`）を深さだけの状態と同じに読む（`step_rest`）。
  そこで語の切れ目で繋いだ二つの文字列は続けて読める（`spans_append`）。
* 括弧の中では語の働きがないので、読める文字列は深くしても読める（`spans_shift`）。
* 一つの演算対象として読める文字列を ` AND ` で繋いだ文の骨組みは、それらを演算対象とする一つの項
  （`skeleton_conjunction`）。` OR ` で繋げば、それぞれが一つの項（`skeleton_disjunction`）。
-/

namespace DataAccess.Sql

namespace Cursor

def Rest (d : Nat) (σ : Cursor) : Prop :=
  σ.quote = none ∧ σ.depth = d ∧ σ.between = false ∧ Keyword.ofWord σ.word = .other

theorem ofWord_nil : Keyword.ofWord [] = .other := rfl

theorem spans_iff {d d' : Nat} {t : String} :
    spans d d' t = true ↔
      ((level d).scan t.toList).2 = t.toList.map .char ∧ Rest d' ((level d).scan t.toList).1 := by
  simp [spans, Rest, and_assoc]

theorem endWord_marks (σ : Cursor) :
    σ.endWord.2 = [] ∨ ∃ m, σ.endWord.2 = [m] ∧ ∀ x, m ≠ .char x := by
  unfold endWord
  split <;> (try split) <;> simp

theorem outside_marks (σ : Cursor) (c : Char) :
    (σ.outside c).2 = [.char c] ∨ (σ.outside c).2 = [.fail] := by
  unfold outside
  split_ifs <;> simp

theorem step_marks (σ : Cursor) (c : Char) :
    (σ.step c).2 = [.char c] ∨ ∃ m ms, (σ.step c).2 = m :: ms ∧ ∀ x, m ≠ .char x := by
  unfold step
  split
  · split
    · exact .inr ⟨.fail, [], rfl, by simp⟩
    · exact .inl rfl
  · split
    · exact .inl rfl
    · rcases endWord_marks σ with he | ⟨m, he, hm⟩
      · rcases outside_marks σ.endWord.1 c with ho | ho
        · exact .inl (by simp [he, ho])
        · exact .inr ⟨.fail, [], by simp [he, ho], by simp⟩
      · exact .inr ⟨m, (σ.endWord.1.outside c).2, by simp [he], hm⟩


theorem scan_cons_chars {σ : Cursor} {c : Char} {cs : List Char} :
    (σ.scan (c :: cs)).2 = (c :: cs).map .char ↔
      (σ.step c).2 = [.char c] ∧ ((σ.step c).1.scan cs).2 = cs.map .char := by
  rw [scan_cons]
  constructor
  · intro h
    rcases step_marks σ c with hs | ⟨m, ms, hs, hm⟩
    · rw [hs] at h
      simp only [List.singleton_append, List.map_cons, List.cons.injEq, true_and] at h
      exact ⟨hs, h⟩
    · rw [hs] at h
      simp only [List.cons_append, List.map_cons, List.cons.injEq] at h
      exact absurd h.1 (hm c)
  · rintro ⟨hs, hr⟩
    rw [hs, hr]
    rfl

theorem scan_append_chars {σ : Cursor} {a b : List Char} :
    (σ.scan (a ++ b)).2 = (a ++ b).map .char ↔
      (σ.scan a).2 = a.map .char ∧ ((σ.scan a).1.scan b).2 = b.map .char := by
  induction a generalizing σ with
  | nil => simp [scan_nil]
  | cons c a ih =>
    rw [List.cons_append, scan_cons_chars, scan_cons_chars, ih]
    simp only [scan_cons, and_assoc]

/-- 語を作らず、注釈の始まりにもならない文字。 -/
def breaks (c : Char) : Bool := !isWordChar c && c != '-' && c != '/' && c != '*'

theorem endWord_other {σ : Cursor} (h : Keyword.ofWord σ.word = .other) :
    σ.endWord = ({ σ with word := [] }, []) := by
  simp [endWord, h]

theorem endWord_word (σ : Cursor) : σ.endWord.1.word = [] := by
  unfold endWord
  split <;> (try split) <;> rfl

theorem endWord_quote (σ : Cursor) : σ.endWord.1.quote = σ.quote := by
  unfold endWord
  split <;> (try split) <;> rfl

theorem endWord_depth (σ : Cursor) : σ.endWord.1.depth = σ.depth := by
  unfold endWord
  split <;> (try split) <;> rfl

theorem endWord_opener (σ : Cursor) : σ.endWord.1.opener = σ.opener := by
  unfold endWord
  split <;> (try split) <;> rfl

theorem outside_word (σ : Cursor) (c : Char) : (σ.outside c).1.word = σ.word := by
  unfold outside
  split_ifs <;> rfl

theorem outside_opener (σ : Cursor) (c : Char) :
    (σ.outside c).1.opener = if c = '-' ∨ c = '/' then some c else none := by
  unfold outside
  split_ifs <;> rfl

theorem outside_congr {σ τ : Cursor} (hq : σ.quote = τ.quote) (hd : σ.depth = τ.depth)
    (hb : σ.between = τ.between) (hw : σ.word = τ.word) {c : Char} (hc : c ≠ '-' ∧ c ≠ '*') :
    σ.outside c = τ.outside c := by
  obtain ⟨q, d, b, w, o⟩ := σ
  obtain ⟨q', d', b', w', o'⟩ := τ
  simp only at hq hd hb hw
  subst hq hd hb hw
  simp [outside, hc.1, hc.2]

theorem isWordChar_of_breaks {c : Char} (h : breaks c = true) : isWordChar c = false ∧ c ≠ '-' ∧ c ≠ '/' ∧ c ≠ '*' := by
  simp only [breaks, Bool.and_eq_true, Bool.not_eq_true', bne_iff_ne, ne_eq] at h
  exact ⟨h.1.1.1, h.1.1.2, h.1.2, h.2⟩

theorem endWord_level (d : Nat) : (level d).endWord = (level d, []) := rfl

theorem step_of_outside {σ : Cursor} {c : Char} (hq : σ.quote = none)
    (hw : ¬(σ.depth = 0 ∧ isWordChar c = true)) :
    σ.step c = ((σ.endWord.1.outside c).1, σ.endWord.2 ++ (σ.endWord.1.outside c).2) := by
  simp only [step, hq, hw, ↓reduceIte]

/-- 語の切れ目の文字は、休んでいる状態からも深さだけの状態からも同じように読む。 -/
theorem step_rest {d : Nat} {σ : Cursor} (hσ : Rest d σ) {c : Char} (hc : breaks c = true) :
    σ.step c = (level d).step c := by
  obtain ⟨hq, hd, hb, hw⟩ := hσ
  obtain ⟨hword, hm, -, hs⟩ := isWordChar_of_breaks hc
  have hout : ({ σ with word := [] } : Cursor).outside c = (level d).outside c := by
    apply outside_congr <;> simp [hq, hd, hb, level, hm, hs]
  rw [step_of_outside hq (by simp [hword]), step_of_outside rfl (by simp [hword]), endWord_other hw,
    endWord_level, hout]

/-- 語の切れ目の文字を文字だけの印で読んだ後は、読みかけの語も注釈の始まりもない。 -/
theorem step_clean {σ : Cursor} {c : Char} (hc : breaks c = true) (h : (σ.step c).2 = [.char c]) :
    (σ.step c).1.word = [] ∧ (σ.step c).1.opener = none := by
  obtain ⟨hword, hm, hsl, -⟩ := isWordChar_of_breaks hc
  unfold step at h ⊢
  split
  · next q hq =>
    rw [hq] at h
    split
    · next hbs =>
      simp only [hbs, if_true] at h
      cases h
    · exact ⟨rfl, rfl⟩
  · next hq =>
    simp only [hword, Bool.false_eq_true, and_false, ↓reduceIte]
    refine ⟨by rw [outside_word, endWord_word], ?_⟩
    rw [outside_opener]
    simp [hm, hsl]

theorem eq_level {d : Nat} {σ : Cursor} (h : Rest d σ) (hw : σ.word = []) (ho : σ.opener = none) :
    σ = level d := by
  obtain ⟨hq, hd, hb, -⟩ := h
  obtain ⟨q, d', b, w, o⟩ := σ
  simp only at hq hd hb hw ho
  subst hq hd hb hw ho
  rfl

/-- 語の切れ目で繋ぐ: 前の最後の文字か後ろの最初の文字が語の切れ目（どちらかが空でもよい）。 -/
def seam (a b : String) : Bool := a.toList.getLast?.all breaks || b.toList.head?.all breaks

theorem scan_singleton (σ : Cursor) (c : Char) : σ.scan [c] = ((σ.step c).1, (σ.step c).2 ++ []) := rfl

/-- 一つの演算対象を読み終えた状態は、語の切れ目の後では深さだけの状態と同じに読み進む。 -/
theorem scan_after {d d' : Nat} {a b : String} (ha : spans d d' a = true) (hs : seam a b = true)
    (hb : b.toList ≠ []) : ((level d).scan a.toList).1.scan b.toList = (level d').scan b.toList := by
  obtain ⟨hm, hr⟩ := spans_iff.1 ha
  simp only [seam, Bool.or_eq_true] at hs
  rcases hs with hlast | hhead
  · cases hA : a.toList.getLast? with
    | none =>
      rw [List.getLast?_eq_none_iff.1 hA] at hr ⊢
      rw [show d' = d from hr.2.1.symm]
      rfl
    | some c =>
      rw [hA, Option.all_some] at hlast
      obtain ⟨a', ha'⟩ := List.getLast?_eq_some_iff.1 hA
      rw [ha'] at hm hr ⊢
      have hstep : (((level d).scan a').1.step c).2 = [.char c] := by
        simpa [scan_singleton] using (scan_append_chars.1 hm).2
      rw [scan_append, scan_singleton] at hr ⊢
      obtain ⟨hw, ho⟩ := step_clean hlast hstep
      rw [eq_level hr hw ho]
  · obtain ⟨c, b', hb'⟩ := List.exists_cons_of_ne_nil hb
    rw [hb', List.head?_cons, Option.all_some] at hhead
    rw [hb', scan_cons, scan_cons, step_rest hr hhead]

theorem spans_empty (d : Nat) : spans d d "" = true := by
  simp [spans, level, scan_nil, ofWord_nil]

theorem spans_append {d d' d'' : Nat} {a b : String} (ha : spans d d' a = true)
    (hb : spans d' d'' b = true) (hs : seam a b = true) : spans d d'' (a ++ b) = true := by
  by_cases hnil : b.toList = []
  · have hbe : b = "" := String.toList_eq_nil_iff.1 hnil
    subst hbe
    obtain ⟨-, hr⟩ := spans_iff.1 hb
    have hd : d'' = d' := hr.2.1.symm
    subst hd
    simpa using ha
  · obtain ⟨hma, hra⟩ := spans_iff.1 ha
    obtain ⟨hmb, hrb⟩ := spans_iff.1 hb
    rw [spans_iff, String.toList_append, scan_append, scan_after ha hs hnil, hma, hmb, List.map_append]
    exact ⟨rfl, hrb⟩

/-! ## 深くして読む -/

theorem endWord_of_nil {σ : Cursor} (h : σ.word = []) : σ.endWord = (σ, []) := by
  obtain ⟨q, d, b, w, o⟩ := σ
  simp only at h
  subst h
  rfl

theorem isWordChar_plain {c : Char} (h : isWordChar c = true) :
    c ∉ refusedChars ∧ c ∉ quoteChars ∧ c ≠ '(' ∧ c ≠ ')' ∧ c ≠ '-' ∧ c ≠ '/' ∧ c ≠ '*' := by
  refine ⟨fun hc => ?_, fun hc => ?_, ?_, ?_, ?_, ?_, ?_⟩
  · simp only [refusedChars, List.mem_cons, List.not_mem_nil, or_false] at hc
    rcases hc with rfl | rfl | rfl | rfl | rfl <;> exact absurd h (by decide)
  · simp only [quoteChars, backtick, List.mem_cons, List.not_mem_nil, or_false] at hc
    rcases hc with rfl | rfl | rfl <;> exact absurd h (by decide)
  all_goals rintro rfl; exact absurd h (by decide)

/-- `τ` は `σ` を `j + 1` だけ深くした読み: 囲みと注釈の始まりが同じで、最上位にない `τ` は語も
`BETWEEN` も持たない。 -/
def Deeper (j : Nat) (σ τ : Cursor) : Prop :=
  τ.quote = σ.quote ∧ τ.depth = σ.depth + j + 1 ∧ τ.opener = σ.opener ∧ τ.between = false ∧ τ.word = []

theorem outside_deeper {j : Nat} {σ τ : Cursor} (hq : τ.quote = σ.quote) (hd : τ.depth = σ.depth + j + 1)
    (ho : τ.opener = σ.opener) {c : Char} (h : (σ.outside c).2 = [.char c]) :
    (τ.outside c).2 = [.char c] ∧ (τ.outside c).1.quote = (σ.outside c).1.quote ∧
      (τ.outside c).1.depth = (σ.outside c).1.depth + j + 1 ∧
      (τ.outside c).1.opener = (σ.outside c).1.opener ∧ (τ.outside c).1.between = τ.between ∧
      (τ.outside c).1.word = τ.word := by
  unfold outside at h ⊢
  rw [ho, hd]
  split_ifs at h ⊢ <;> simp_all <;> omega

theorem step_deeper {j : Nat} {σ τ : Cursor} (h : Deeper j σ τ) {c : Char} (hs : (σ.step c).2 = [.char c]) :
    (τ.step c).2 = [.char c] ∧ Deeper j (σ.step c).1 (τ.step c).1 := by
  obtain ⟨hq, hd, ho, hb, hw⟩ := h
  cases hσq : σ.quote with
  | some q =>
    have hτq : τ.quote = some q := hq.trans hσq
    simp only [step, hσq, hτq] at hs ⊢
    split at hs
    · cases hs
    · next hbs =>
      simp only [hbs, ↓reduceIte]
      exact ⟨trivial, rfl, hd, rfl, hb, rfl⟩
  | none =>
    have hτq : τ.quote = none := hq.trans hσq
    rw [step_of_outside hτq (by omega), endWord_of_nil hw]
    by_cases hwc : σ.depth = 0 ∧ isWordChar c = true
    · -- 最上位の語の文字: 深くした読みでは括弧の中のただの文字
      obtain ⟨hr, hq', -, -, hm, hsl, -⟩ := isWordChar_plain hwc.2
      have hσs : σ.step c = ({ σ with word := σ.word ++ [c], opener := none }, [.char c]) := by
        simp only [step, hσq, hwc, and_self, ↓reduceIte]
      have hτo : τ.outside c = ({ τ with opener := none }, [.char c]) := by
        simp [outside, hr, hq', hm, hsl, isWordChar_plain hwc.2]
      rw [hσs, hτo]
      exact ⟨rfl, hτq.trans hσq.symm, hd, rfl, hb, hw⟩
    · rw [step_of_outside hσq hwc] at hs ⊢
      have ho' : (σ.endWord.1.outside c).2 = [.char c] := by
        rcases endWord_marks σ with he | ⟨m, he, -⟩
        · simpa [he] using hs
        · rcases outside_marks σ.endWord.1 c with ho' | ho' <;> simp [he, ho'] at hs
      have he : σ.endWord.2 = [] := by
        simpa [ho'] using hs
      obtain ⟨hc', hq', hd', ho'', hb', hw'⟩ := outside_deeper (σ := σ.endWord.1) (τ := τ)
        (by rw [endWord_quote, hτq, hσq]) (by rw [endWord_depth, hd]) (by rw [endWord_opener, ho]) ho'
      exact ⟨by rw [hc']; rfl, hq', hd', ho'', by rw [hb', hb], by rw [hw', hw]⟩

theorem scan_deeper {j : Nat} : ∀ {cs : List Char} {σ τ : Cursor}, Deeper j σ τ →
    (σ.scan cs).2 = cs.map .char → (τ.scan cs).2 = cs.map .char ∧ Deeper j (σ.scan cs).1 (τ.scan cs).1
  | [], _, _, h, _ => ⟨rfl, h⟩
  | _ :: _, _, _, h, hs => by
    obtain ⟨hc, hrest⟩ := scan_cons_chars.1 hs
    obtain ⟨hτc, h'⟩ := step_deeper h hc
    obtain ⟨hτrest, h''⟩ := scan_deeper h' hrest
    exact ⟨scan_cons_chars.2 ⟨hτc, hτrest⟩, h''⟩

/-- 括弧の中に置けば、同じ文字列は同じように読める（最上位の語の働きは消える）。 -/
theorem spans_deeper {d d' : Nat} {t : String} (h : spans d d' t = true) (j : Nat) :
    spans (d + j + 1) (d' + j + 1) t = true := by
  obtain ⟨hm, hr⟩ := spans_iff.1 h
  obtain ⟨hm', hq, hd, -, hb, hw⟩ := scan_deeper (j := j) (σ := level d) (τ := level (d + j + 1))
    ⟨rfl, rfl, rfl, rfl, rfl⟩ hm
  obtain ⟨hq', hd', -, -⟩ := hr
  exact spans_iff.2 ⟨hm', hq.trans hq', by rw [hd, hd'], hb, by rw [hw]; rfl⟩

theorem spans_shift {d d' : Nat} {t : String} (h : spans d d' t = true) (j : Nat) :
    spans (d + j) (d' + j) t = true := by
  cases j with
  | zero => exact h
  | succ j => simpa only [Nat.add_assoc] using spans_deeper h j

/-! ## 区切りで繋いだ並び -/

theorem seam_left {a b : String} (h : a.toList.getLast?.all breaks = true) : seam a b = true := by
  simp [seam, h]

theorem seam_right {a b : String} (h : b.toList.head?.all breaks = true) : seam a b = true := by
  simp [seam, h]

theorem head?_append_of_ne {a : String} (ha : a ≠ "") (b : String) :
    (a ++ b).toList.head? = a.toList.head? := by
  rw [String.toList_append, List.head?_append]
  cases h : a.toList with
  | nil => exact absurd (String.toList_eq_nil_iff.1 h) ha
  | cons c cs => rfl

/-- 区切りの両端が語の切れ目なら、区切りで繋いだ並びは、並びの要素と同じ深さで読める。 -/
theorem spans_intercalate {d : Nat} {sep : String} (hsep : spans d d sep = true) (hne : sep ≠ "")
    (hhead : sep.toList.head?.all breaks = true) (hlast : sep.toList.getLast?.all breaks = true) :
    ∀ {ps : List String}, (∀ p ∈ ps, spans d d p = true) → spans d d (sep.intercalate ps) = true
  | [], _ => spans_empty d
  | [p], h => by simpa using h p (by simp)
  | p :: q :: rest, h => by
    have hrest : spans d d (sep.intercalate (q :: rest)) = true :=
      spans_intercalate hsep hne hhead hlast fun r hr => h r (List.mem_cons_of_mem p hr)
    rw [String.intercalate_cons_cons, String.append_assoc]
    refine spans_append (h p (by simp)) (spans_append hsep hrest (seam_left hlast)) (seam_right ?_)
    rw [head?_append_of_ne hne]
    exact hhead

/-! ## 決まった文字列を挟む -/

/-- 語の切れ目で終わる `L` を後ろに付ければ、その後ろとは語の切れ目で繋がる。 -/
theorem seam_after (a : String) {L : String} (h : L.toList.getLast?.any breaks = true) (b : String) :
    seam (a ++ L) b = true := by
  apply seam_left
  rw [String.toList_append, List.getLast?_append]
  cases hL : L.toList.getLast? with
  | none => simp [hL] at h
  | some c => simpa [hL] using h

theorem spans_splice {d₀ d₁ d₂ d₃ : Nat} {a L b : String} (ha : spans d₀ d₁ a = true)
    (hL : spans d₁ d₂ L = true) (hb : spans d₂ d₃ b = true) (hhead : L.toList.head?.all breaks = true)
    (hlast : L.toList.getLast?.any breaks = true) : spans d₀ d₃ (a ++ L ++ b) = true :=
  spans_append (spans_append ha hL (seam_right hhead)) hb (seam_after a hlast b)

/-- 一つの演算対象として読める文字列は、どの深さの括弧の中でも同じ深さで読める。 -/
theorem spans_of_operand {t : String} (h : spans 0 0 t = true) (d : Nat) : spans d d t = true := by
  simpa using spans_shift h d

/-- 開き括弧で終わる `X` の後に、括弧の中で読める文字列と閉じ括弧を続ける。 -/
theorem spans_enclose {d : Nat} {X body : String} (hX : spans d (d + 1) X = true)
    (hlast : X.toList.getLast?.all breaks = true) (hbody : spans (d + 1) (d + 1) body = true) :
    spans d d (X ++ body ++ ")") = true := by
  have hclose : spans (d + 1) d ")" = true := by
    simpa [Nat.add_comm] using spans_shift (show spans 1 0 ")" = true by decide) d
  exact spans_append (spans_append hX hbody (seam_left hlast)) hclose (seam_right (by decide))

theorem spans_paren {d : Nat} {t : String} (h : spans (d + 1) (d + 1) t = true) :
    spans d d ("(" ++ t ++ ")") = true := by
  have hopen : spans d (d + 1) "(" = true := by
    simpa [Nat.add_comm] using spans_shift (show spans 0 1 "(" = true by decide) d
  exact spans_enclose hopen (by decide) h

theorem scan_word : ∀ {cs : List Char} {σ : Cursor}, σ.quote = none → σ.depth = 0 →
    (∀ c ∈ cs, isWordChar c = true) →
    (σ.scan cs).2 = cs.map .char ∧ (σ.scan cs).1.quote = none ∧ (σ.scan cs).1.depth = 0 ∧
      (σ.scan cs).1.between = σ.between ∧ (σ.scan cs).1.word = σ.word ++ cs
  | [], _, hq, hd, _ => by simp [scan_nil, hq, hd]
  | c :: cs, σ, hq, hd, hw => by
    have hstep : σ.step c = ({ σ with word := σ.word ++ [c], opener := none }, [.char c]) := by
      simp [step, hq, hd, hw c List.mem_cons_self]
    obtain ⟨hm, hq', hd', hb', hw'⟩ := scan_word (σ := { σ with word := σ.word ++ [c], opener := none })
      hq hd fun x hx => hw x (List.mem_cons_of_mem c hx)
    rw [scan_cons, hstep]
    exact ⟨by simp [hm], hq', hd', hb', by simp [hw']⟩

end Cursor

open Cursor in
theorem operand_word {t : String} (hw : ∀ c ∈ t.toList, isWordChar c = true)
    (hk : Keyword.ofWord t.toList = .other) : operand t = true := by
  obtain ⟨hm, hq, hd, hb, hword⟩ := scan_word (σ := level 0) rfl rfl hw
  exact spans_iff.2 ⟨hm, hq, hd, hb, by rw [hword]; exact hk⟩

/-! ## 骨組み -/

open Cursor

theorem finish_rest {σ : Cursor} (h : Rest 0 σ) : σ.finish = [] := by
  obtain ⟨hq, hd, hb, hw⟩ := h
  simp [finish, endWord_other hw, hq, hd, hb]

theorem marks_of_operand {t : String} (h : operand t = true) : marks t = t.toList.map .char := by
  obtain ⟨hm, hr⟩ := spans_iff.1 h
  simp only [marks, hm, finish_rest hr, List.append_nil]

theorem assemble_chars (cs : List Char) (ms : List Mark) (buf : List Char) (ops : List String)
    (alts : List (List String)) :
    assemble (cs.map .char ++ ms) buf ops alts = assemble ms (buf ++ cs) ops alts := by
  induction cs generalizing buf with
  | nil => simp
  | cons c cs ih => simp [assemble, ih]

theorem trimBlank_cons {c : Char} (hc : c.isWhitespace = true) (l : List Char) :
    trimBlank (c :: l) = trimBlank l := by
  simp [trimBlank, hc]

theorem trimBlank_append {c : Char} (hc : c.isWhitespace = true) (l : List Char) :
    trimBlank (l ++ [c]) = trimBlank l := by
  unfold trimBlank
  rw [List.dropWhile_append]
  split
  · next hnil =>
    rw [List.isEmpty_iff.1 hnil]
    simp [hc]
  · simp [hc]

/-- それだけで一つの演算対象として読める文字列の骨組みは、その文字列ただ一つ。 -/
theorem skeleton_of_operand {t : String} (h : operand t = true) :
    skeleton t = some [[trimBlank t.toList]] := by
  rw [skeleton, marks_of_operand h, ← List.append_nil (t.toList.map _), assemble_chars]
  rfl

theorem take_before_word (buf w : List Char) {n : Nat} (hn : w.length = n) :
    (buf ++ w).take ((buf ++ w).length - n) = buf :=
  List.take_left' (by simp [← hn])

/-- 区切り ` AND ` を読んだ印。 -/
def conjMarks : List Mark := [.char ' ', .char 'A', .char 'N', .char 'D', .conj, .char ' ']

/-- 一つの演算対象を読み終えた状態から ` AND ` を読むと、区切りの印を挟んで最上位に戻る。 -/
theorem scan_conj {σ : Cursor} (h : Rest 0 σ) : σ.scan " AND ".toList = (level 0, conjMarks) := by
  rw [show " AND ".toList = [' ', 'A', 'N', 'D', ' '] from rfl, scan_cons, step_rest h (by decide)]
  rfl

/-- 区切り ` OR ` を読んだ印。 -/
def disjMarks : List Mark := [.char ' ', .char 'O', .char 'R', .disj, .char ' ']

theorem scan_disj {σ : Cursor} (h : Rest 0 σ) : σ.scan " OR ".toList = (level 0, disjMarks) := by
  rw [show " OR ".toList = [' ', 'O', 'R', ' '] from rfl, scan_cons, step_rest h (by decide)]
  rfl

/-- 一つの演算対象として読める文字列を、区切り `sep`（演算対象の後で読むと印 `sepMarks` を挟んで最上位に
戻る）で繋いだ並びの読み。 -/
theorem scan_joined {sep : String} {sepMarks : List Mark}
    (hsep : ∀ σ, Rest 0 σ → σ.scan sep.toList = (level 0, sepMarks)) (p : String) :
    ∀ (ps : List String), (∀ q ∈ p :: ps, operand q = true) →
      ∃ σ, Rest 0 σ ∧ (level 0).scan (sep.intercalate (p :: ps)).toList =
        (σ, p.toList.map .char ++ ps.flatMap fun q => sepMarks ++ q.toList.map .char)
  | [], h => by
    obtain ⟨hm, hr⟩ := spans_iff.1 (h p List.mem_cons_self)
    exact ⟨_, hr, by rw [String.intercalate_singleton, List.flatMap_nil, List.append_nil, ← hm]⟩
  | q :: rest, h => by
    obtain ⟨σ, hσ, hscan⟩ := scan_joined hsep q rest fun r hr => h r (List.mem_cons_of_mem p hr)
    obtain ⟨hm, hr⟩ := spans_iff.1 (h p List.mem_cons_self)
    refine ⟨σ, hσ, ?_⟩
    rw [String.intercalate_cons_cons, String.toList_append, String.toList_append, scan_append, scan_append,
      hsep _ hr, hscan, hm]
    simp [List.flatMap_cons, List.append_assoc]

theorem assemble_conj (q : List Char) (ms : List Mark) (buf : List Char) (ops : List String)
    (alts : List (List String)) :
    assemble (conjMarks ++ (q.map .char ++ ms)) buf ops alts = assemble ms (' ' :: q) (trimBlank buf :: ops) alts := by
  have htake : (buf ++ [' '] ++ ['A'] ++ ['N'] ++ ['D']).take
      ((buf ++ [' '] ++ ['A'] ++ ['N'] ++ ['D']).length - 3) = buf ++ [' '] := by
    simpa only [List.append_assoc, List.cons_append, List.nil_append] using
      take_before_word (buf ++ [' ']) ['A', 'N', 'D'] (n := 3) rfl
  simp only [conjMarks, List.cons_append, List.nil_append, assemble, htake, trimBlank_append (c := ' ') rfl]
  rw [assemble_chars]
  rfl

theorem assemble_conjunction : ∀ (ps : List String) (buf : List Char) (ops : List String),
    assemble (ps.flatMap fun q => conjMarks ++ q.toList.map .char) buf ops [] =
      some [(trimBlank buf :: ops).reverse ++ ps.map fun q => trimBlank q.toList]
  | [], buf, ops => by simp [assemble]
  | q :: rest, buf, ops => by
    rw [List.flatMap_cons, List.append_assoc, assemble_conj, assemble_conjunction rest,
      trimBlank_cons (c := ' ') rfl]
    simp

/-- 一つの演算対象として読める文字列を ` AND ` で繋ぐと、その骨組みは、それらを演算対象とする一つの項。 -/
theorem skeleton_conjunction {ps : List String} (hps : ∀ p ∈ ps, operand p = true) (hne : ps ≠ []) :
    skeleton (" AND ".intercalate ps) = some [ps.map fun p => trimBlank p.toList] := by
  obtain ⟨p, rest, rfl⟩ := List.exists_cons_of_ne_nil hne
  obtain ⟨σ, hσ, hscan⟩ := scan_joined (fun _ h => scan_conj h) p rest hps
  simp only [skeleton, marks, hscan, finish_rest hσ, List.append_nil]
  rw [assemble_chars, List.nil_append, assemble_conjunction]
  simp

theorem assemble_disj (q : List Char) (ms : List Mark) (buf : List Char) (ops : List String)
    (alts : List (List String)) :
    assemble (disjMarks ++ (q.map .char ++ ms)) buf ops alts =
      assemble ms (' ' :: q) [] ((trimBlank buf :: ops).reverse :: alts) := by
  have htake : (buf ++ [' '] ++ ['O'] ++ ['R']).take ((buf ++ [' '] ++ ['O'] ++ ['R']).length - 2) =
      buf ++ [' '] := by
    simpa only [List.append_assoc, List.cons_append, List.nil_append] using
      take_before_word (buf ++ [' ']) ['O', 'R'] (n := 2) rfl
  simp only [disjMarks, List.cons_append, List.nil_append, assemble, htake, trimBlank_append (c := ' ') rfl]
  rw [assemble_chars]
  rfl

theorem assemble_disjunction : ∀ (ps : List String) (buf : List Char) (ops : List String)
    (alts : List (List String)),
    assemble (ps.flatMap fun q => disjMarks ++ q.toList.map .char) buf ops alts =
      some (alts.reverse ++ [(trimBlank buf :: ops).reverse] ++ ps.map fun q => [trimBlank q.toList])
  | [], buf, ops, alts => by simp [assemble]
  | q :: rest, buf, ops, alts => by
    rw [List.flatMap_cons, List.append_assoc, assemble_disj, assemble_disjunction rest,
      trimBlank_cons (c := ' ') rfl]
    simp

/-- 一つの演算対象として読める文字列を ` OR ` で繋ぐと、その骨組みは、それぞれを一つの演算対象とする項の並び。 -/
theorem skeleton_disjunction {ps : List String} (hps : ∀ p ∈ ps, operand p = true) (hne : ps ≠ []) :
    skeleton (" OR ".intercalate ps) = some (ps.map fun p => [trimBlank p.toList]) := by
  obtain ⟨p, rest, rfl⟩ := List.exists_cons_of_ne_nil hne
  obtain ⟨σ, hσ, hscan⟩ := scan_joined (fun _ h => scan_disj h) p rest hps
  simp only [skeleton, marks, hscan, finish_rest hσ, List.append_nil]
  rw [assemble_chars, List.nil_append, assemble_disjunction]
  simp

end DataAccess.Sql
