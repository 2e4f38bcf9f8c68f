import DataAccess.Sql.Fragment
import Mathlib.Tactic.SplitIfs

/-!
# 囲みの外の印を数え、番号を振る

`scan` を文字列の継ぎ目で分ける。前の文字列の走査が囲みの中で終わらなければ（囲みの外か、
囲みを閉じた直後）、後ろの文字列は最初から読むのと同じに読まれる。したがって、
そのような文字列を繋ぐと印の数は足し算になり、印に番号を振る書き換えは、
後ろの番号を前の印の数だけずらして繋いだものになる。

組み立ての出力は型紙 `Piece` の並びとして扱う: 文字のまま書く部分、束縛した値の印、
自前の印を持つ断片。型紙の穴を `?` で埋めた文字列の印の数は穴の数で、その印に番号を振ると、
穴を番号で埋めた文字列になる。
-/

namespace DataAccess.Sql

/-! ## 走査の状態 -/

/-- 走査を終えたときの状態。状態の移り方は印の番号によらない。 -/
def scanEnd (st : MarkerStyle) : ScanState → List Char → ScanState
  | s, [] => s
  | s, c :: rest => scanEnd st (s.step st 0 c).2.1 rest

/-- 囲みの中にいる状態か。 -/
def ScanState.quoted : ScanState → Bool
  | .inside _ => true
  | _ => false

/-- 状態が持つ囲みの文字が `quotes` のどれか。 -/
def ScanState.QuoteIn (quotes : List Char) : ScanState → Prop
  | .outside => True
  | .inside q => q ∈ quotes
  | .closing q => q ∈ quotes

/-- 番号 `k` から数えて印を書く書き方: `i` 番目の印を `render (k + i)` と書く。 -/
def MarkerStyle.shift (st : MarkerStyle) (k : Nat) : MarkerStyle :=
  { st with render := fun i => st.render (k + i) }

/-- 囲みの外で読めば囲みを開く文字か（`%` を二重にするなら `%` は囲みを開かない）。 -/
def MarkerStyle.opens (st : MarkerStyle) (q : Char) : Bool :=
  !(st.escapePercent && q = '%') && st.quotes.contains q

/-- 状態が持つ囲みの文字は、囲みの外で読めば囲みを開く文字。囲みの外から読み始めた走査の
どの状態でも成り立つ。 -/
def ScanState.Opened (st : MarkerStyle) : ScanState → Prop
  | .outside => True
  | .inside q => st.opens q = true
  | .closing q => st.opens q = true

@[simp] theorem MarkerStyle.shift_render (st : MarkerStyle) (k i : Nat) :
    (st.shift k).render i = st.render (k + i) := rfl

@[simp] theorem MarkerStyle.shift_escapePercent (st : MarkerStyle) (k : Nat) :
    (st.shift k).escapePercent = st.escapePercent := rfl

@[simp] theorem MarkerStyle.shift_quotes (st : MarkerStyle) (k : Nat) : (st.shift k).quotes = st.quotes := rfl

theorem MarkerStyle.shift_shift (st : MarkerStyle) (i j : Nat) :
    (st.shift i).shift j = st.shift (i + j) := by
  simp only [MarkerStyle.shift, Nat.add_assoc]

/-- 走査が囲みの中で終わらない文字列。 -/
def settled (s : String) : Bool := !(scanEnd countingStyle .outside s.toList).quoted

/-- 囲みの中で終わらず、囲みの外に `?` を持たない文字列。名前や生の SQL に求める形。 -/
def plain (s : String) : Bool := settled s && countMarkers s == 0

/-- 囲みの外の印を `k` 番から順に `f` で書いた文字列。 -/
def renumber (f : Nat → String) (k : Nat) (s : String) : String :=
  String.join (scan (markStyle f) .outside k s.toList).1

theorem countMarkers_eq (s : String) :
    countMarkers s = (scan (markStyle fun _ => "?") .outside 0 s.toList).2 := rfl

section Step

variable {st : MarkerStyle} {s : ScanState} {c : Char}

theorem stepOutside_state (i j : Nat) :
    (stepOutside st i c).2.1 = (stepOutside st j c).2.1 := by
  unfold stepOutside
  repeat' split
  all_goals rfl

theorem stepOutside_index (i : Nat) :
    (stepOutside st i c).2.2 = i + (stepOutside st 0 c).2.2 := by
  unfold stepOutside
  repeat' split
  all_goals simp

theorem step_state (i j : Nat) : (s.step st i c).2.1 = (s.step st j c).2.1 := by
  cases s with
  | outside => exact stepOutside_state i j
  | inside q =>
    simp only [ScanState.step]
    repeat' split
    all_goals rfl
  | closing q =>
    simp only [ScanState.step]
    split
    · rfl
    · exact stepOutside_state i j

theorem step_index (i : Nat) : (s.step st i c).2.2 = i + (s.step st 0 c).2.2 := by
  cases s with
  | outside => exact stepOutside_index i
  | inside q =>
    simp only [ScanState.step]
    repeat' split
    all_goals simp
  | closing q =>
    simp only [ScanState.step]
    split
    · simp
    · exact stepOutside_index i

theorem stepOutside_out_shift (i : Nat) :
    (stepOutside st i c).1 = (stepOutside (st.shift i) 0 c).1 := by
  unfold stepOutside
  repeat' split
  all_goals simp_all

theorem step_out_shift (i : Nat) :
    (s.step st i c).1 = (s.step (st.shift i) 0 c).1 := by
  cases s with
  | outside => exact stepOutside_out_shift i
  | inside q =>
    simp only [ScanState.step]
    repeat' split
    all_goals simp_all
  | closing q =>
    simp only [ScanState.step]
    split
    · rfl
    · exact stepOutside_out_shift i

theorem stepOutside_render_snd (g : Nat → String) (i : Nat) :
    (stepOutside { st with render := g } i c).2 = (stepOutside st i c).2 := by
  simp only [stepOutside]
  split_ifs <;> rfl

theorem step_render_snd (g : Nat → String) (i : Nat) :
    (s.step { st with render := g } i c).2 = (s.step st i c).2 := by
  cases s with
  | outside => exact stepOutside_render_snd g i
  | inside q => simp only [ScanState.step]
  | closing q =>
    simp only [ScanState.step]
    split
    · rfl
    · exact stepOutside_render_snd g i

theorem step_markStyle_snd (f g : Nat → String) (i : Nat) :
    (s.step (markStyle f) i c).2 = (s.step (markStyle g) i c).2 :=
  @step_render_snd (markStyle g) s c f i

theorem step_state_markStyle (f g : Nat → String) (i : Nat) :
    (s.step (markStyle f) i c).2.1 = (s.step (markStyle g) i c).2.1 := by
  rw [step_markStyle_snd f g]

theorem step_index_markStyle (f g : Nat → String) (i : Nat) :
    (s.step (markStyle f) i c).2.2 = (s.step (markStyle g) i c).2.2 := by
  rw [step_markStyle_snd f g]

theorem step_qmark (i : Nat) : (s.step (markStyle fun _ => "?") i c).1 = c.toString := by
  have hout : (stepOutside (markStyle fun _ => "?") i c).1 = c.toString := by
    unfold stepOutside markStyle
    split_ifs <;> simp_all
  cases s with
  | outside => exact hout
  | inside q => by_cases h : c = q <;> simp [ScanState.step, markStyle, h]
  | closing q => by_cases h : c = q <;> simp [ScanState.step, h, hout]

theorem stepOutside_opens {q : Char} (hq : st.opens q = true) (i : Nat) :
    stepOutside st i q = (q.toString, .inside q, i) := by
  simp only [MarkerStyle.opens, Bool.and_eq_true, Bool.not_eq_true'] at hq
  simp only [stepOutside, hq.1, hq.2, Bool.false_eq_true, if_false, if_true]

/-- 囲みを閉じた直後の状態は、閉じた文字が囲みを開く文字なら、囲みの外と同じに一文字を読む。
同じ文字がもう一度来れば、続けて読めば二つ重ねた引用符の後ろ半分、囲みの外から読めば新しい
囲みの始まりだが、どちらも同じ字を書いて同じ文字の囲みの中に入る。 -/
theorem step_closing {q : Char} (hq : st.opens q = true) (i : Nat) :
    (ScanState.closing q).step st i c = ScanState.outside.step st i c := by
  by_cases hc : c = q
  · subst hc
    simp only [ScanState.step, if_pos, stepOutside_opens hq]
  · simp only [ScanState.step, hc, if_false]

theorem step_opened (h : s.Opened st) (i : Nat) : (s.step st i c).2.1.Opened st := by
  have hout : (stepOutside st i c).2.1.Opened st := by
    simp only [stepOutside]
    split_ifs with hp hq
    · trivial
    · show st.opens c = true
      rw [MarkerStyle.opens, hq, Bool.and_true, Bool.not_eq_true', ← Bool.not_eq_true]
      exact hp
    · trivial
    · trivial
  cases s with
  | outside => exact hout
  | inside q =>
    simp only [ScanState.step]
    split_ifs <;> exact h
  | closing q =>
    simp only [ScanState.step]
    split_ifs
    · exact h
    · exact hout

theorem step_quoteIn (h : s.QuoteIn st.quotes) (i : Nat) : (s.step st i c).2.1.QuoteIn st.quotes := by
  cases s <;> simp only [ScanState.step, stepOutside] <;> repeat' split
  all_goals simp_all [ScanState.QuoteIn]

end Step

/-! ## 走査 -/

section Scan

variable {st : MarkerStyle}

theorem scan_cons (s : ScanState) (i : Nat) (c : Char) (rest : List Char) :
    scan st s i (c :: rest) =
      ((s.step st i c).1 :: (scan st (s.step st i c).2.1 (s.step st i c).2.2 rest).1,
        (scan st (s.step st i c).2.1 (s.step st i c).2.2 rest).2) := rfl

theorem scan_index (s : ScanState) (i : Nat) (cs : List Char) :
    (scan st s i cs).2 = i + (scan st s 0 cs).2 := by
  induction cs generalizing s i with
  | nil => simp [scan]
  | cons c rest ih =>
    rw [scan_cons, scan_cons, ih, ih _ (s.step st 0 c).2.2, step_state i 0, step_index i]
    omega

theorem scan_out_shift (s : ScanState) (i : Nat) (cs : List Char) :
    (scan st s i cs).1 = (scan (st.shift i) s 0 cs).1 := by
  -- 後ろの走査は番号 `i + d` から、ずらした書き方では `d` から読むので、書き方ごと一般化する
  induction cs generalizing st s i with
  | nil => rfl
  | cons c rest ih =>
    have hsnd : (s.step (st.shift i) 0 c).2 = (s.step st 0 c).2 := step_render_snd _ 0
    rw [scan_cons, scan_cons, hsnd, step_state i 0, step_index i]
    simp only [List.cons.injEq]
    refine ⟨step_out_shift i, ?_⟩
    rw [ih, @ih (st.shift i), MarkerStyle.shift_shift]

theorem scan_count_markStyle (f g : Nat → String) (s : ScanState) (i : Nat) (cs : List Char) :
    (scan (markStyle f) s i cs).2 = (scan (markStyle g) s i cs).2 := by
  induction cs generalizing s i with
  | nil => rfl
  | cons c rest ih =>
    rw [scan_cons, scan_cons, ih, step_state_markStyle f g, step_index_markStyle f g]

theorem scanEnd_markStyle (f g : Nat → String) (s : ScanState) (cs : List Char) :
    scanEnd (markStyle f) s cs = scanEnd (markStyle g) s cs := by
  induction cs generalizing s with
  | nil => rfl
  | cons c rest ih =>
    simp only [scanEnd]
    rw [ih, step_state_markStyle f g]

theorem scan_append (s : ScanState) (i : Nat) (a b : List Char) :
    scan st s i (a ++ b) =
      ((scan st s i a).1 ++ (scan st (scanEnd st s a) (scan st s i a).2 b).1,
        (scan st (scanEnd st s a) (scan st s i a).2 b).2) := by
  induction a generalizing s i with
  | nil => simp [scan, scanEnd]
  | cons c rest ih =>
    simp only [List.cons_append, scan, scanEnd, ih, List.cons_append]
    rw [step_state i 0]

theorem scanEnd_append (s : ScanState) (a b : List Char) :
    scanEnd st s (a ++ b) = scanEnd st (scanEnd st s a) b := by
  induction a generalizing s with
  | nil => rfl
  | cons c rest ih => simp only [List.cons_append, scanEnd, ih]

theorem scanEnd_opened {s : ScanState} (h : s.Opened st) (cs : List Char) :
    (scanEnd st s cs).Opened st := by
  induction cs generalizing s with
  | nil => exact h
  | cons c rest ih => exact ih (step_opened h 0)

theorem scan_closing {q : Char} (hq : st.opens q = true) (i : Nat) (cs : List Char) :
    scan st (.closing q) i cs = scan st .outside i cs := by
  cases cs with
  | nil => rfl
  | cons c rest => simp only [scan, step_closing hq]

theorem scanEnd_closing {q : Char} (hq : st.opens q = true) (cs : List Char) :
    (scanEnd st (.closing q) cs).quoted = (scanEnd st .outside cs).quoted := by
  cases cs with
  | nil => rfl
  | cons c rest => simp only [scanEnd, step_closing hq]

theorem scan_of_not_quoted {s : ScanState} (h : s.Opened st) (hs : s.quoted = false) (i : Nat)
    (cs : List Char) :
    scan st s i cs = scan st .outside i cs ∧
      (scanEnd st s cs).quoted = (scanEnd st .outside cs).quoted := by
  cases s with
  | outside => exact ⟨rfl, rfl⟩
  | inside q => simp [ScanState.quoted] at hs
  | closing q => exact ⟨scan_closing h i cs, scanEnd_closing h cs⟩

end Scan

/-! ## 継ぎ目での印の数と書き換え -/

section Join

theorem settled_iff (s : String) :
    settled s = !(scanEnd (markStyle fun _ => "?") .outside s.toList).quoted := rfl

theorem scan_after_settled {a : String} (ha : settled a = true) (f : Nat → String) (i : Nat)
    (cs : List Char) :
    scan (markStyle f) (scanEnd (markStyle f) .outside a.toList) i cs = scan (markStyle f) .outside i cs ∧
      (scanEnd (markStyle f) (scanEnd (markStyle f) .outside a.toList) cs).quoted =
        (scanEnd (markStyle f) .outside cs).quoted := by
  have hq : (scanEnd (markStyle f) .outside a.toList).quoted = false := by
    rw [settled_iff, scanEnd_markStyle (fun _ => "?") f] at ha
    simpa using ha
  exact scan_of_not_quoted (scanEnd_opened (s := .outside) trivial a.toList) hq i cs

/-! ## どの囲みの文字でも、`%` をどう扱っても -/

/-- 囲みの外から読み、置き換えた印の数。 -/
def rewrittenCount (st : MarkerStyle) (s : String) : Nat := (scan st .outside 0 s.toList).2

section Seam

variable {st : MarkerStyle}

theorem scan_after_outside {a : List Char} (ha : (scanEnd st .outside a).quoted = false) (i : Nat)
    (cs : List Char) : scan st (scanEnd st .outside a) i cs = scan st .outside i cs :=
  (scan_of_not_quoted (scanEnd_opened (s := .outside) trivial a) ha i cs).1

theorem rewrittenCount_append {a : String} (ha : (scanEnd st .outside a.toList).quoted = false)
    (b : String) : rewrittenCount st (a ++ b) = rewrittenCount st a + rewrittenCount st b := by
  rw [rewrittenCount, String.toList_append, scan_append, scan_after_outside ha, scan_index]
  rfl

theorem rewriteMarkers_seam {a : String} (ha : (scanEnd st .outside a.toList).quoted = false)
    (b : String) :
    rewriteMarkers st (a ++ b) = rewriteMarkers st a ++ rewriteMarkers (st.shift (rewrittenCount st a)) b := by
  rw [rewriteMarkers, String.toList_append, scan_append, scan_after_outside ha, String.join_append,
    scan_out_shift .outside (scan st .outside 0 a.toList).2 b.toList]
  rfl

end Seam

/-- 前の文字列の走査が囲みの中で終わらなければ、繋いだ文字列の書き換えは、前の書き換えに、
後ろの印の番号を前の印の数だけずらした書き換えを繋いだもので、印の数は足し算になる。
前の閉じる引用符と後ろの開く引用符が継ぎ目で重なれば、繋いだ文字列では二つ重ねた引用符に
読まれるが、書き出す字と次の状態は同じ。数える `countMarkers` は `countingStyle` の場合。 -/
theorem rewriteMarkers_append (st : MarkerStyle) (a b : String)
    (ha : (scanEnd st .outside a.toList).quoted = false) :
    rewriteMarkers st (a ++ b) = rewriteMarkers st a ++ rewriteMarkers (st.shift (rewrittenCount st a)) b ∧
      rewrittenCount st (a ++ b) = rewrittenCount st a + rewrittenCount st b :=
  ⟨rewriteMarkers_seam ha b, rewrittenCount_append ha b⟩

/-- `%` を二重にし、印を `%s` と書き、逆引用符も囲みとする書き方。 -/
def percentStyle : MarkerStyle := ⟨fun _ => "%s", true, ['\'', '"', backtick]⟩

/-- `'5%'` の閉じる引用符と `'s'` の開く引用符が重なる継ぎ目。 -/
theorem rewriteMarkers_append_percent_quote :
    (scanEnd percentStyle .outside "note LIKE '5%'".toList).quoted = false ∧
      rewriteMarkers percentStyle ("note LIKE '5%'" ++ "'s' OR id = ?") =
          rewriteMarkers percentStyle "note LIKE '5%'" ++
            rewriteMarkers (percentStyle.shift (rewrittenCount percentStyle "note LIKE '5%'")) "'s' OR id = ?" ∧
        rewrittenCount percentStyle ("note LIKE '5%'" ++ "'s' OR id = ?") =
          rewrittenCount percentStyle "note LIKE '5%'" + rewrittenCount percentStyle "'s' OR id = ?" :=
  ⟨by decide, rewriteMarkers_append _ _ _ (by decide)⟩

theorem countMarkers_markStyle (f : Nat → String) (i : Nat) (s : String) :
    (scan (markStyle f) .outside i s.toList).2 = i + countMarkers s := by
  rw [scan_index, scan_count_markStyle f (fun _ => "?"), countMarkers_eq]

theorem countMarkers_append {a : String} (ha : settled a = true) (b : String) :
    countMarkers (a ++ b) = countMarkers a + countMarkers b :=
  -- 数えることは、三つの囲みの文字で `?` を `?` に書き換えること
  @rewrittenCount_append countingStyle a (by simpa [settled] using ha) b

theorem settled_append {a : String} (ha : settled a = true) (b : String) :
    settled (a ++ b) = settled b := by
  rw [settled_iff, settled_iff, String.toList_append, scanEnd_append,
    (scan_after_settled ha _ 0 b.toList).2]

theorem renumber_append (f : Nat → String) (k : Nat) {a : String} (ha : settled a = true) (b : String) :
    renumber f k (a ++ b) = renumber f k a ++ renumber f (k + countMarkers a) b := by
  simp only [renumber]
  rw [String.toList_append, scan_append, (scan_after_settled ha _ _ _).1, String.join_append,
    countMarkers_markStyle]

theorem plain_append {a : String} (ha : plain a = true) (b : String) :
    plain (a ++ b) = plain b := by
  simp only [plain, Bool.and_eq_true, beq_iff_eq] at ha
  simp only [plain, settled_append ha.1, countMarkers_append ha.1, ha.2, Nat.zero_add]

/-- 囲みの文字でも `?` でもない文字。 -/
def inert (c : Char) : Bool := !(['\'', '"', backtick].contains c) && c != '?'

theorem step_outside_inert {c : Char} (h : inert c = true) (f : Nat → String) (i : Nat) :
    ScanState.outside.step (markStyle f) i c = (c.toString, .outside, i) := by
  simp only [inert, Bool.and_eq_true, Bool.not_eq_true', bne_iff_ne, ne_eq] at h
  have hq : ¬(c = '\'' ∨ c = '"' ∨ c = backtick) := by simpa using h.1
  simp [ScanState.step, stepOutside, markStyle, hq, h.2]

theorem scan_inert (f : Nat → String) (i : Nat) {cs : List Char} (h : ∀ c ∈ cs, inert c = true) :
    (scan (markStyle f) .outside i cs).2 = i ∧ scanEnd (markStyle f) .outside cs = .outside := by
  induction cs with
  | nil => exact ⟨rfl, rfl⟩
  | cons c rest ih =>
    have hc := step_outside_inert (h c (by simp)) f
    have hrest := ih fun c hc => h c (by simp [hc])
    rw [scan_cons, hc]
    simp only [scanEnd, hc]
    exact hrest

theorem plain_of_inert {s : String} (h : ∀ c ∈ s.toList, inert c = true) : plain s = true := by
  have hs := scan_inert (fun _ => "?") 0 h
  simp [plain, settled_iff, countMarkers_eq, hs.1, hs.2, ScanState.quoted]

theorem plain_intercalate {sep : String} (hsep : plain sep = true) :
    ∀ {ps : List String}, (∀ p ∈ ps, plain p = true) → plain (sep.intercalate ps) = true
  | [], _ => by rw [String.intercalate_nil]; decide
  | [p], h => by simpa using h p (by simp)
  | p :: q :: rest, h => by
    have hp := h p (by simp)
    rw [String.intercalate_cons_cons, String.append_assoc, plain_append hp, plain_append hsep]
    exact plain_intercalate hsep fun r hr => h r (List.mem_cons_of_mem p hr)

theorem renumber_qmark (k : Nat) (s : String) : renumber (fun _ => "?") k s = s := by
  have h : ∀ (t : ScanState) (i : Nat) (cs : List Char),
      String.join (scan (markStyle fun _ => "?") t i cs).1 = String.ofList cs := by
    intro t i cs
    induction cs generalizing t i with
    | nil => simp [scan]
    | cons c rest ih =>
      simp only [scan, String.join_cons, ih]
      rw [step_qmark, Char.toString_eq_singleton, String.ofList_cons]
  simp only [renumber, h, String.ofList_toList]

theorem step_out_of_index_eq {s : ScanState} {c : Char} (f g : Nat → String) {i : Nat}
    (h : (s.step (markStyle f) i c).2.2 = i) :
    (s.step (markStyle f) i c).1 = (s.step (markStyle g) i c).1 := by
  have hout : (stepOutside (markStyle f) i c).2.2 = i →
      (stepOutside (markStyle f) i c).1 = (stepOutside (markStyle g) i c).1 := by
    unfold stepOutside markStyle
    split_ifs <;> simp
  cases s with
  | outside => exact hout h
  | inside q => rfl
  | closing q =>
    simp only [ScanState.step] at h ⊢
    split
    · rfl
    · next hc => exact hout (by simpa [hc] using h)

theorem scan_index_le (s : ScanState) (i : Nat) (cs : List Char) (st : MarkerStyle) :
    i ≤ (scan st s i cs).2 := by
  rw [scan_index]
  omega

theorem scan_out_of_count_eq (f g : Nat → String) (s : ScanState) (i : Nat) (cs : List Char)
    (h : (scan (markStyle f) s i cs).2 = i) :
    (scan (markStyle f) s i cs).1 = (scan (markStyle g) s i cs).1 := by
  induction cs generalizing s i with
  | nil => rfl
  | cons c rest ih =>
    rw [scan_cons] at h
    rw [scan_cons, scan_cons]
    have hle := scan_index_le (s.step (markStyle f) i c).2.1 (s.step (markStyle f) i c).2.2 rest
      (markStyle f)
    have hstep : (s.step (markStyle f) i c).2.2 = i := by
      rw [step_index i] at hle h ⊢
      omega
    have hrest : (scan (markStyle f) (s.step (markStyle f) i c).2.1 i rest).2 = i := by
      simp only at h
      rwa [hstep] at h
    simp only [List.cons.injEq]
    refine ⟨step_out_of_index_eq f g hstep, ?_⟩
    rw [← step_state_markStyle f g, ← step_index_markStyle f g, hstep]
    exact ih _ _ hrest

theorem renumber_of_count_zero (f : Nat → String) (k : Nat) {s : String} (h : countMarkers s = 0) :
    renumber f k s = s := by
  have hcount : (scan (markStyle f) .outside k s.toList).2 = k := by
    rw [countMarkers_markStyle, h, Nat.add_zero]
  have := scan_out_of_count_eq f (fun _ => "?") .outside k s.toList hcount
  rw [renumber, this, ← renumber, renumber_qmark]

end Join

end DataAccess.Sql
