import DataAccess.Sql.Statement
import Mathlib
/-!
# 先頭の語による書き込みの判定

`Sql.isWriteStatement` は先頭の雑音（空白、開き括弧、行の注釈、区間の注釈）を読み飛ばし、次の空白までを
最初の語として大文字にする。雑音を文法 `Noise` で書き、どんな雑音のあとでも読み飛ばしがちょうど
そこで止まることを示す。そのうえで、最初の語が ASCII の英字の綴り `V` のときの判定を、`V` の直後の
文字で分けて決める。

* 直後が空白か文の終わりなら、読まれる語は `V` の大文字で、判定はその語で決まる。
* 直後が空白でない ASCII の英字以外の文字（`(`、`/`、`-`、`;` など）なら、その文字も語に入るので、
  語は動詞にも `WITH` にもならず、判定は常に偽。
-/

namespace DataAccess.Sql

/-! ## 先頭の雑音 -/

/-- 先頭で読み飛ばされる並び: 空白の文字、開き括弧、改行で閉じる行の注釈、中に `*/` を含まない
区間の注釈。 -/
inductive Noise : List Char → Prop
  | nil : Noise []
  | space {c : Char} {p : List Char} : Unicode.isSpace c = true → Noise p → Noise (c :: p)
  | paren {p : List Char} : Noise p → Noise ('(' :: p)
  | line {body p : List Char} : '\n' ∉ body → Noise p → Noise ('-' :: '-' :: (body ++ '\n' :: p))
  | block {body p : List Char} : ¬ ['*', '/'] <:+: body → Noise p →
      Noise ('/' :: '*' :: (body ++ '*' :: '/' :: p))

theorem skipFrom_line {body : List Char} (h : '\n' ∉ body) (s : List Char) :
    skipFrom .line (body ++ '\n' :: s) = skipFrom .noise s := by
  induction body with
  | nil => simp [skipFrom]
  | cons c body ih =>
    have hc : c ≠ '\n' := fun hc => h (hc ▸ List.mem_cons_self)
    simp only [List.cons_append, skipFrom, hc, if_false]
    exact ih (fun hb => h (List.mem_cons_of_mem c hb))

/-- 区間の注釈の中身を読む二つの状態（`*` の直後とそれ以外）は、どちらも閉じの `*/` の直後で雑音の
読み飛ばしに戻る。`*` の直後の状態では、中身が `/` で始まらないことが要る。 -/
theorem skipFrom_block {body : List Char} (h : ¬ ['*', '/'] <:+: body) (start s : List Char) :
    skipFrom (.block start) (body ++ '*' :: '/' :: s) = skipFrom .noise s ∧
      (body.head? ≠ some '/' → skipFrom (.star start) (body ++ '*' :: '/' :: s) = skipFrom .noise s) := by
  induction body with
  | nil => simp [skipFrom]
  | cons c body ih =>
    have hbody : ¬ ['*', '/'] <:+: body := fun hi => h (hi.trans (List.suffix_cons c body).isInfix)
    -- 中身に `*/` はないので、中身の `*` の次は `/` ではない
    have hnext : c = '*' → body.head? ≠ some '/' := by
      rintro rfl hhead
      obtain ⟨t, rfl⟩ : ∃ t, body = '/' :: t := by
        cases body with
        | nil => cases hhead
        | cons d t => cases hhead; exact ⟨t, rfl⟩
      exact h (List.infix_cons_iff.2 (.inl ⟨t, rfl⟩))
    obtain ⟨hblock, hstar⟩ := ih hbody
    constructor
    · by_cases hc : c = '*'
      · simp only [List.cons_append, skipFrom, hc, if_true]
        exact hstar (hnext hc)
      · simp only [List.cons_append, skipFrom, hc, if_false]
        exact hblock
    · intro hhead
      have hslash : c ≠ '/' := fun hc => hhead (by simp [hc])
      by_cases hc : c = '*'
      · simp only [List.cons_append, skipFrom, hc, if_true]
        exact hstar (hnext hc)
      · simp only [List.cons_append, skipFrom, hslash, hc, if_false]
        exact hblock

/-- 雑音の並びは丸ごと読み飛ばされ、その後ろの読み飛ばしはそこから始めたときと同じ。 -/
theorem Noise.skip {p : List Char} (hp : Noise p) (s : List Char) : skipNoise (p ++ s) = skipNoise s := by
  induction hp with
  | nil => rfl
  | space hc _ ih => simpa [skipNoise, skipFrom, hc] using ih
  | paren _ ih => simpa [skipNoise, skipFrom] using ih
  | line hbody _ ih =>
    have hdash : Unicode.isSpace '-' = false := by decide
    simpa [skipNoise, skipFrom, hdash, skipFrom_line hbody] using ih
  | block hbody _ ih =>
    have hslash : Unicode.isSpace '/' = false := by decide
    simpa [skipNoise, skipFrom, hslash, (skipFrom_block hbody _ _).1] using ih

/-! ## 英字 -/

theorem letter_bounds {c : Char} (h : c.isAlpha = true) :
    (65 ≤ c.toNat ∧ c.toNat ≤ 90) ∨ (97 ≤ c.toNat ∧ c.toNat ≤ 122) := by
  simpa [Char.isAlpha, Char.isUpper, Char.isLower, UInt32.le_iff_toNat_le] using h

theorem ascii_of_letter {c : Char} (h : c.isAlpha = true) : c.toNat < 128 := by
  have := letter_bounds h
  omega

theorem isSpace_letter {c : Char} (h : c.isAlpha = true) : Unicode.isSpace c = false := by
  have := letter_bounds h
  simp only [Unicode.isSpace]
  simp
  omega

theorem skipNoise_letter {c : Char} (h : c.isAlpha = true) (s : List Char) : skipNoise (c :: s) = c :: s := by
  have hb := letter_bounds h
  have hparen : c ≠ '(' := fun hc => by subst hc; simp at hb
  have hdash : c ≠ '-' := fun hc => by subst hc; simp at hb
  have hslash : c ≠ '/' := fun hc => by subst hc; simp at hb
  cases s with
  | nil => simp [skipNoise, skipFrom, isSpace_letter h, hparen]
  | cons d t => simp [skipNoise, skipFrom, isSpace_letter h, hparen, hdash, hslash]

theorem skipNoise_word {p V r : List Char} (hp : Noise p) (hV : ∀ c ∈ V, c.isAlpha = true) (hne : V ≠ []) :
    skipNoise (p ++ V ++ r) = V ++ r := by
  obtain ⟨c, V, rfl⟩ := List.exists_cons_of_ne_nil hne
  rw [List.append_assoc, hp.skip, List.cons_append, skipNoise_letter (hV c List.mem_cons_self)]

theorem word_of_spelling {V : List Char} {w : String} (h : V.map Char.toUpper = w.toList)
    (hw : w.toList ≠ [] ∧ ∀ y ∈ w.toList, y.isUpper = true) : V ≠ [] ∧ ∀ c ∈ V, c.isAlpha = true := by
  refine ⟨fun hV => hw.1 (by rw [← h, hV, List.map_nil]), fun c hc => ?_⟩
  rw [← Char.isUpper_toUpper_eq_isAlpha]
  exact hw.2 _ (h ▸ List.mem_map_of_mem hc)

/-! ## 最初の語 -/

theorem find_asciiUppercase {c : Char} (h : c.toNat < 128) : asciiUppercase.find? (·.1 == c) = none := by
  have hkeys : ∀ k ∈ asciiUppercase, 223 ≤ k.1.toNat := by decide
  rw [List.find?_eq_none]
  intro k hk heq
  have hge := hkeys k hk
  obtain rfl : k.1 = c := by simpa using heq
  omega

theorem upperWord_append (a b : List Char) :
    upperWord (String.ofList (a ++ b)) = upperWord (String.ofList a) ++ upperWord (String.ofList b) := by
  simp only [upperWord, String.toList_ofList, List.map_append, String.join_append]

theorem upperWord_ascii {c : Char} (h : c.toNat < 128) : upperWord (String.ofList [c]) = String.singleton c.toUpper := by
  simp [upperWord, find_asciiUppercase h]

theorem upperWord_of_ascii {V : List Char} (h : ∀ c ∈ V, c.toNat < 128) :
    upperWord (String.ofList V) = String.ofList (V.map Char.toUpper) := by
  induction V with
  | nil => rfl
  | cons c V ih =>
    rw [← List.singleton_append, upperWord_append, upperWord_ascii (h c List.mem_cons_self),
      ih (fun d hd => h d (List.mem_cons_of_mem c hd))]
    simp

theorem leading_word {V r : List Char} (hV : ∀ c ∈ V, c.isAlpha = true)
    (hr : ∀ x ∈ r.head?, Unicode.isSpace x = true) :
    upperWord (String.ofList ((V ++ r).takeWhile (fun c => !Unicode.isSpace c))) =
      String.ofList (V.map Char.toUpper) := by
  have htail : r.takeWhile (fun c => !Unicode.isSpace c) = [] := by
    cases r with
    | nil => rfl
    | cons x t => simp [hr x rfl]
  rw [List.takeWhile_append_of_pos (fun c hc => by simp [isSpace_letter (hV c hc)]), htail,
    List.append_nil, upperWord_of_ascii (fun c hc => ascii_of_letter (hV c hc))]

/-- 英字の語に空白でない ASCII の英字以外の文字 `x` が続くと、`x` はそのまま読まれる語に入る。 -/
theorem leading_word_glued {V t : List Char} {x : Char} (hV : ∀ c ∈ V, c.isAlpha = true)
    (hx : x.toNat < 128) (hxa : x.isAlpha = false) (hxs : Unicode.isSpace x = false) :
    x ∈ (upperWord (String.ofList ((V ++ x :: t).takeWhile (fun c => !Unicode.isSpace c)))).toList := by
  rw [List.takeWhile_append_of_pos (fun c hc => by simp [isSpace_letter (hV c hc)]),
    List.takeWhile_cons_of_pos (by simp [hxs]), ← List.singleton_append, ← List.append_assoc,
    upperWord_append, upperWord_append, upperWord_ascii hx,
    Char.toUpper_eq_of_not_isLower (by simp_all [Char.isAlpha])]
  simp

theorem verbs_spelled : ∀ v ∈ "WITH" :: writeVerbs, v.toList ≠ [] ∧ ∀ y ∈ v.toList, y.isUpper = true := by
  simp [writeVerbs]

/-! ## 判定 -/

/-- 雑音、英字の語 `V`、空白か終わりと並ぶ文の判定は、`V` の大文字で決まる。 -/
theorem isWriteStatement_spaced {sql : String} {p V r : List Char} (hs : sql.toList = p ++ V ++ r)
    (hp : Noise p) (hV : ∀ c ∈ V, c.isAlpha = true) (hne : V ≠ [])
    (hr : ∀ x ∈ r.head?, Unicode.isSpace x = true) :
    isWriteStatement sql = if String.ofList (V.map Char.toUpper) = "WITH" then mentionsDml (V ++ r)
      else writeVerbs.contains (String.ofList (V.map Char.toUpper)) := by
  simp only [isWriteStatement, hs, skipNoise_word hp hV hne, leading_word hV hr]

/-- 雑音、英字の語、空白でない ASCII の英字以外の文字と並ぶ文は書き込みと見られない。 -/
theorem isWriteStatement_glued {sql : String} {p V t : List Char} {x : Char}
    (hs : sql.toList = p ++ V ++ x :: t) (hp : Noise p) (hV : ∀ c ∈ V, c.isAlpha = true) (hne : V ≠ [])
    (hx : x.toNat < 128) (hxa : x.isAlpha = false) (hxs : Unicode.isSpace x = false) :
    isWriteStatement sql = false := by
  have hmem := leading_word_glued (t := t) hV hx hxa hxs
  -- 語に入った `x` は英字でないので、読まれた語は `WITH` でも書き込みの動詞でもない
  have hnot : ∀ v ∈ "WITH" :: writeVerbs,
      upperWord (String.ofList ((V ++ x :: t).takeWhile (fun c => !Unicode.isSpace c))) ≠ v := by
    rintro v hv rfl
    have hupper := (verbs_spelled _ hv).2 x hmem
    simp_all [Char.isAlpha]
  simp only [isWriteStatement, hs, skipNoise_word hp hV hne]
  rw [if_neg (hnot _ List.mem_cons_self), Bool.eq_false_iff]
  intro h
  exact hnot _ (List.mem_cons_of_mem _ (List.contains_iff_mem.1 h)) rfl

theorem isWriteStatement_select (rest : String) : isWriteStatement ("SELECT " ++ rest) = false := by
  have hs : ("SELECT " ++ rest).toList = [] ++ "SELECT".toList ++ ' ' :: rest.toList := by
    rw [String.toList_append]
    rfl
  have hupper : "SELECT".toList.map Char.toUpper = "SELECT".toList := by decide
  rw [isWriteStatement_spaced hs .nil (by simp) (by simp) (fun x hx => by cases hx; decide), hupper,
    String.ofList_toList]
  simp [writeVerbs]

/-- `WITH ` で始まる文は、DML の動詞を一語として含むときに限り書き込みと見られる。 -/
theorem isWriteStatement_with (rest : String) :
    isWriteStatement ("WITH " ++ rest) = mentionsDml ("WITH " ++ rest).toList := by
  have hs : ("WITH " ++ rest).toList = [] ++ "WITH".toList ++ ' ' :: rest.toList := by
    rw [String.toList_append]
    rfl
  have hupper : "WITH".toList.map Char.toUpper = "WITH".toList := by decide
  rw [isWriteStatement_spaced hs .nil (by simp) (by simp) (fun x hx => by cases hx; decide), hupper,
    String.ofList_toList, if_pos rfl, hs]
  rfl

/-! ## `WITH` の本文の動詞 -/

/-- `r` のどこかに `INSERT`, `UPDATE`, `DELETE`, `MERGE` のどれかが ASCII の大文字小文字を問わずに一語として
現れる。前が空か語の文字でなく、後ろが空か語の文字でない。 -/
def DmlWord (r : List Char) : Prop :=
  ∃ a W b, r = a ++ W ++ b ∧ (∃ u ∈ ["INSERT", "UPDATE", "DELETE", "MERGE"], W.map Char.toUpper = u.toList) ∧
    (∀ x ∈ a.getLast?, Unicode.isWordChar x = false) ∧ (∀ x ∈ b.head?, Unicode.isWordChar x = false)

theorem dmlVerbs_spelled :
    ∀ u ∈ ["INSERT", "UPDATE", "DELETE", "MERGE"], u.toList ≠ [] ∧ ∀ y ∈ u.toList, y.isUpper = true := by
  simp

theorem startsWord_spelling {W b u : List Char} (hW : W.map Char.toUpper = u)
    (hb : ∀ x ∈ b.head?, Unicode.isWordChar x = false) : startsWord u (W ++ b) = true := by
  subst hW
  have hzip : (W.map Char.toUpper).zip W = W.map fun c => (c.toUpper, c) := by
    rw [List.zip_map_left, List.zip_eq_zipWith, List.zipWith_self, List.map_map]
    rfl
  cases b with
  | nil => simp [startsWord, hzip, letterMatches]
  | cons x t => simp [startsWord, hzip, letterMatches, hb x rfl]

/-- 前に語の並び `xs` があっても、その最後の文字での状態から後ろを読めば見つかるものは見つかる。 -/
theorem mentionsDml_go_append (verbs : List (List Char)) (pw : Bool) (xs ys : List Char)
    (h : mentionsDml.go verbs (xs.getLast?.elim pw Unicode.isWordChar) ys = true) :
    mentionsDml.go verbs pw (xs ++ ys) = true := by
  induction xs generalizing pw with
  | nil => exact h
  | cons x xs ih =>
    rw [List.cons_append, mentionsDml.go.eq_2, ih (Unicode.isWordChar x) ?_, Bool.or_true]
    rw [List.getLast?_cons] at h
    cases hl : xs.getLast? <;> simp_all

theorem mentionsDml_append_word {xs W b : List Char} {u : String}
    (hu : u ∈ ["INSERT", "UPDATE", "DELETE", "MERGE"]) (hW : W.map Char.toUpper = u.toList)
    (hxs : ∀ x ∈ xs.getLast?, Unicode.isWordChar x = false) (hb : ∀ x ∈ b.head?, Unicode.isWordChar x = false) :
    mentionsDml (xs ++ (W ++ b)) = true := by
  obtain ⟨c, W, rfl⟩ := List.exists_cons_of_ne_nil (word_of_spelling hW (dmlVerbs_spelled u hu)).1
  have hstate : xs.getLast?.elim false Unicode.isWordChar = false := by
    cases hl : xs.getLast? with
    | none => rfl
    | some x => exact hxs x hl
  have hstart : startsWord u.toList (c :: (W ++ b)) = true := startsWord_spelling hW hb
  apply mentionsDml_go_append
  rw [hstate, List.cons_append, mentionsDml.go.eq_2,
    List.any_eq_true.2 ⟨u.toList, List.mem_map_of_mem hu, hstart⟩]
  rfl

/-! ## 先頭の動詞 -/

/-- 雑音のあとに動詞か `WITH` の綴り `V` があり、その直後が空白、終わり、または ASCII の英字でない文字なら、
文が書き込みと見られるのは、直後が空白か終わりで、`WITH` なら本体が DML の動詞を含むときに限る。 -/
theorem isWriteStatement_spelled_iff {p V r : List Char} {w : String} (hp : Noise p)
    (hw : w ∈ "WITH" :: writeVerbs) (hV : V.map Char.toUpper = w.toList)
    (hr : ∀ x ∈ r.head?, Unicode.isSpace x = true ∨ (x.toNat < 128 ∧ x.isAlpha = false)) :
    isWriteStatement (String.ofList (p ++ V ++ r)) = true ↔
      (∀ x ∈ r.head?, Unicode.isSpace x = true) ∧ (w = "WITH" → mentionsDml (V ++ r) = true) := by
  obtain ⟨hne, hletters⟩ := word_of_spelling hV (verbs_spelled w hw)
  have hstr : (String.ofList (p ++ V ++ r)).toList = p ++ V ++ r := String.toList_ofList
  by_cases hsp : ∀ x ∈ r.head?, Unicode.isSpace x = true
  · rw [isWriteStatement_spaced hstr hp hletters hne hsp, hV, String.ofList_toList]
    by_cases hwith : w = "WITH"
    · rw [if_pos hwith]
      exact ⟨fun h => ⟨hsp, fun _ => h⟩, fun h => h.2 hwith⟩
    · have hcontains : writeVerbs.contains w = true := List.contains_iff_mem.2 (by simpa [hwith] using hw)
      rw [if_neg hwith, hcontains]
      exact ⟨fun _ => ⟨hsp, fun h => absurd h hwith⟩, fun _ => rfl⟩
  · -- 直後は空白でない文字で、仮定から ASCII の英字以外
    obtain ⟨x, t, rfl, hxs⟩ : ∃ x t, r = x :: t ∧ Unicode.isSpace x = false := by
      cases r with
      | nil => exact absurd (by simp) hsp
      | cons x t => exact ⟨x, t, rfl, by simpa using hsp⟩
    obtain ⟨hascii, halpha⟩ := (hr x rfl).resolve_left (by simp [hxs])
    rw [isWriteStatement_glued hstr hp hletters hne hascii halpha hxs]
    simp [hxs]

/-- 雑音 `p` のあとに書き込みの動詞の綴り `V`（ASCII の大文字小文字を問わない）があり、その直後 `r` が
空か、空白か ASCII の英字でない文字（`(`、`/`、`-`、`;` など）で始まるとき、文が書き込みと見られるのは
`r` が空か空白で始まるときに限る。`WITH` の綴りで本体 `r` が DML の動詞を一語として含むときも同じ。
動詞の直後の `(`、`/`、`-`、`;` は動詞を隠す。 -/
theorem leading_keyword_classified {p V r : List Char} (hp : Noise p)
    (hr : ∀ x ∈ r.head?, Unicode.isSpace x = true ∨ (x.toNat < 128 ∧ x.isAlpha = false)) :
    (∀ w ∈ writeVerbs, V.map Char.toUpper = w.toList →
      (isWriteStatement (String.ofList (p ++ V ++ r)) = true ↔ ∀ x ∈ r.head?, Unicode.isSpace x = true)) ∧
    (V.map Char.toUpper = "WITH".toList → DmlWord r →
      (isWriteStatement (String.ofList (p ++ V ++ r)) = true ↔ ∀ x ∈ r.head?, Unicode.isSpace x = true)) := by
  refine ⟨fun w hw hV => ?_, fun hV hdml => ?_⟩
  · have hwith : w ≠ "WITH" := by
      rintro rfl
      simp [writeVerbs] at hw
    rw [isWriteStatement_spelled_iff hp (List.mem_cons_of_mem _ hw) hV hr]
    exact ⟨And.left, fun hsp => ⟨hsp, fun h => absurd h hwith⟩⟩
  · rw [isWriteStatement_spelled_iff hp List.mem_cons_self hV hr]
    refine ⟨And.left, fun hsp => ⟨hsp, fun _ => ?_⟩⟩
    obtain ⟨a, W, b, rfl, ⟨u, hu, hW⟩, ha, hb⟩ := hdml
    -- 本体は空白で始まり、動詞は英字で始まるので、動詞の前の `a` は空でない
    have hlast : ∀ x ∈ (V ++ a).getLast?, Unicode.isWordChar x = false := by
      cases a with
      | nil =>
        obtain ⟨hWne, hletters⟩ := word_of_spelling hW (dmlVerbs_spelled u hu)
        obtain ⟨c, W, rfl⟩ := List.exists_cons_of_ne_nil hWne
        have hspace := hsp c (by simp)
        rw [isSpace_letter (hletters c List.mem_cons_self)] at hspace
        cases hspace
      | cons y a =>
        intro x hx
        rw [List.getLast?_append, Option.or_of_isSome (by simp)] at hx
        exact ha x hx
    rw [List.append_assoc a, ← List.append_assoc V]
    exact mentionsDml_append_word hu hW hlast hb

/-- 注釈と開き括弧のあとの `Delete` は、直後が空白なら書き込みと見られ、直後が `/**/` なら見られない。 -/
theorem glued_delete_after_comment :
    isWriteStatement (String.ofList ("-- note\n(".toList ++ "Delete".toList ++ " FROM t".toList)) = true ∧
      isWriteStatement (String.ofList ("-- note\n(".toList ++ "Delete".toList ++ "/**/FROM t".toList)) = false := by
  have hp : Noise "-- note\n(".toList :=
    show Noise ('-' :: '-' :: (" note".toList ++ '\n' :: ['('])) from .line (by decide) (.paren .nil)
  have hspelled : "Delete".toList.map Char.toUpper = "DELETE".toList := by decide
  have hverb : "DELETE" ∈ writeVerbs := by simp [writeVerbs]
  constructor
  · refine ((leading_keyword_classified hp ?_).1 "DELETE" hverb hspelled).2 ?_
    · intro x hx
      exact .inl (by simp at hx; subst hx; decide)
    · intro x hx
      simp at hx; subst hx; decide
  · rw [Bool.eq_false_iff]
    intro h
    have hsp := ((leading_keyword_classified hp ?_).1 "DELETE" hverb hspelled).1 h
    · exact absurd (hsp '/' (by simp)) (by decide)
    · intro x hx
      exact .inr (by simp at hx; subst hx; decide)

end DataAccess.Sql
