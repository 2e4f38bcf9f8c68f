import DataAccess.Proofs.Markers
import DataAccess.Dialect
/-!
# 組み立てが自分で書く文字列には印がない

識別子の引用、方言の決まり文句、整数の表記は囲みの中で終わらず、囲みの外に `?` を持たない
（`plain`）。名前が `plain` なら、その識別子も `plain`:

* 単純な名前は英数字と `_` と `.`（と末尾の改行一つ）だけで書かれ、どれも囲みの文字でも `?` でもない。
* 予約語の部分を囲む引用は、中の引用符を二重にするので、閉じた直後の状態で終わる。
* 単純でない名前はそのまま書く。
-/

namespace DataAccess

theorem Except.bind_eq_ok {ε α β : Type} {x : Except ε α} {f : α → Except ε β} {b : β} :
    (x >>= f) = .ok b ↔ ∃ a, x = .ok a ∧ f a = .ok b := by
  cases x with
  | error e => simp [bind, Except.bind]
  | ok a => simp [bind, Except.bind]

theorem Except.exists_ok {ε α : Type} {x : Except ε α} (h : x.isOk = true) : ∃ a, x = .ok a := by
  cases x with
  | error e => cases h
  | ok a => exact ⟨a, rfl⟩

theorem Except.exists_of_toOption_map {ε α β : Type} {x : Except ε α} {g : α → β} {b : β}
    (h : x.toOption.map g = some b) : ∃ a, x = .ok a ∧ g a = b := by
  cases x with
  | error e => cases h
  | ok a => exact ⟨a, rfl, Option.some.inj h⟩

end DataAccess

namespace DataAccess.Sql

theorem plain_append_of {a b : String} (ha : plain a = true) (hb : plain b = true) :
    plain (a ++ b) = true := by
  rw [plain_append ha]
  exact hb

theorem settled_of_plain {a : String} (ha : plain a = true) : settled a = true := by
  simp only [plain, Bool.and_eq_true] at ha
  exact ha.1

theorem countMarkers_of_plain {a : String} (ha : plain a = true) : countMarkers a = 0 := by
  simp only [plain, Bool.and_eq_true, beq_iff_eq] at ha
  exact ha.2

theorem marks_plain_append {a : String} (ha : plain a = true) (b : String) :
    settled (a ++ b) = settled b ∧ countMarkers (a ++ b) = countMarkers b := by
  have hs := settled_of_plain ha
  refine ⟨settled_append hs b, ?_⟩
  rw [countMarkers_append hs, countMarkers_of_plain ha, Nat.zero_add]

theorem plain_intercalate_map {sep : String} (hsep : plain sep = true) {g : String → String}
    (hg : ∀ c, plain c = true → plain (g c) = true) {l : List String} (hl : ∀ c ∈ l, plain c = true) :
    plain (sep.intercalate (l.map g)) = true := by
  apply plain_intercalate hsep
  intro p hp
  obtain ⟨c, hc, rfl⟩ := List.mem_map.1 hp
  exact hg c (hl c hc)

/-! ## 名前の文字 -/

theorem inert_of_isNameChar {c : Char} (h : isNameChar c = true) : inert c = true := by
  have hc : c ≠ '\'' ∧ c ≠ '"' ∧ c ≠ backtick ∧ c ≠ '?' := by
    refine ⟨?_, ?_, ?_, ?_⟩ <;> (rintro rfl; revert h; decide)
  simp [inert, backtick, hc.1, hc.2.1, hc.2.2.2]
  exact hc.2.2.1

theorem isNameChar_of_isNameStart {c : Char} (h : isNameStart c = true) : isNameChar c = true := by
  simp only [isNameStart, isNameChar, Char.isAlphanum, Bool.or_eq_true, Bool.and_eq_true] at h ⊢
  rcases h with ⟨ha, hn⟩ | hu
  · exact .inl ⟨.inl ha, hn⟩
  · exact .inr hu

theorem inert_of_isWord {cs : List Char} (h : isWord cs = true) : ∀ c ∈ cs, inert c = true := by
  cases cs with
  | nil => simp [isWord] at h
  | cons c rest =>
    simp only [isWord, Bool.and_eq_true, List.all_eq_true] at h
    intro x hx
    rcases List.mem_cons.1 hx with rfl | hx
    · exact inert_of_isNameChar (isNameChar_of_isNameStart h.1)
    · exact inert_of_isNameChar (h.2 x hx)

theorem mem_intercalate_of_mem {α : Type} {ys l : List α} {ls : List (List α)} (hl : l ∈ ls)
    {c : α} (hc : c ∈ l) : c ∈ ys.intercalate ls := by
  induction ls with
  | nil => simp at hl
  | cons l' rest ih =>
    cases rest with
    | nil =>
      rw [List.mem_singleton.1 hl] at hc
      simpa using hc
    | cons l'' rest' =>
      rw [List.intercalate_cons_cons]
      rcases List.mem_cons.1 hl with rfl | hl
      · simp [hc]
      · simp [ih hl]

theorem mem_of_mem_splitOn {xs l : List Char} {x c : Char} (hl : l ∈ xs.splitOn x) (hc : c ∈ l) :
    c ∈ xs := by
  have hxs : [x].intercalate (xs.splitOn x) = xs := List.intercalate_splitOn x
  exact hxs ▸ mem_intercalate_of_mem hl hc

theorem inert_of_dotted {cs : List Char}
    (h : (match cs.splitOn '.' with
      | [a] => isWord a
      | [a, b] => isWord a && isWord b
      | _ => false) = true) :
    ∀ c ∈ cs, inert c = true := by
  intro c hc
  have hcs : ['.'].intercalate (cs.splitOn '.') = cs := List.intercalate_splitOn '.'
  split at h
  · next a ha =>
    rw [ha, List.intercalate_singleton] at hcs
    exact inert_of_isWord h c (hcs ▸ hc)
  · next a b hab =>
    rw [hab] at hcs
    simp only [Bool.and_eq_true] at h
    simp only [List.intercalate_cons_cons, List.intercalate_singleton] at hcs
    rw [← hcs] at hc
    simp only [List.append_assoc, List.mem_append, List.mem_singleton] at hc
    rcases hc with hc | rfl | hc
    · exact inert_of_isWord h.1 c hc
    · decide
    · exact inert_of_isWord h.2 c hc
  · simp at h

theorem inert_of_isSimpleName {name : String} (h : isSimpleName name = true) :
    ∀ c ∈ name.toList, inert c = true := by
  intro c hc
  simp only [isSimpleName] at h
  by_cases hlast : name.toList.getLast? = some '\n'
  · rw [if_pos hlast] at h
    obtain ⟨ys, hys⟩ := List.getLast?_eq_some_iff.1 hlast
    rw [hys, List.dropLast_concat] at h
    rw [hys, List.mem_append, List.mem_singleton] at hc
    rcases hc with hc | rfl
    · exact inert_of_dotted h c hc
    · decide
  · rw [if_neg hlast] at h
    exact inert_of_dotted h c hc

/-! ## 引用 -/

theorem quoteWith_toList (q : Char) (s : String) :
    (quoteWith q s).toList = q :: (s.toList.flatMap fun c => if c = q then [q, q] else [c]) ++ [q] := by
  have hpart : (fun c => (if c = q then String.ofList [q, q] else c.toString).toList) =
      fun c => if c = q then [q, q] else [c] := by
    funext c
    split <;> simp [Char.toString_eq_singleton]
  rw [quoteWith, String.toList_append, String.toList_append, String.toList_join, List.flatMap_map, hpart]
  simp [Char.toString_eq_singleton]

theorem scan_doubled (f : Nat → String) (q : Char) (i : Nat) (cs : List Char) :
    (scan (markStyle f) (.inside q) i (cs.flatMap fun c => if c = q then [q, q] else [c])).2 = i ∧
      scanEnd (markStyle f) (.inside q) (cs.flatMap fun c => if c = q then [q, q] else [c]) =
        .inside q := by
  induction cs with
  | nil => exact ⟨rfl, rfl⟩
  | cons c rest ih =>
    have hpiece : (scan (markStyle f) (.inside q) i (if c = q then [q, q] else [c])).2 = i ∧
        scanEnd (markStyle f) (.inside q) (if c = q then [q, q] else [c]) = .inside q := by
      by_cases hc : c = q
      · simp [hc, scan, scanEnd, ScanState.step, markStyle]
      · simp [hc, scan, scanEnd, ScanState.step, markStyle]
    rw [List.flatMap_cons, scan_append, scanEnd_append, hpiece.1, hpiece.2]
    exact ih

theorem plain_quoteWith {q : Char} (hq : q ∈ ['\'', '"', backtick]) (s : String) :
    plain (quoteWith q s) = true := by
  have hopen : ScanState.outside.step (markStyle fun _ => "?") 0 q = (q.toString, .inside q, 0) := by
    simp only [List.mem_cons, List.not_mem_nil, or_false] at hq
    rcases hq with rfl | rfl | rfl <;> rfl
  have hbody := scan_doubled (fun _ => "?") q 0 s.toList
  simp only [plain, settled_iff, countMarkers_eq, quoteWith_toList, Bool.and_eq_true, beq_iff_eq]
  rw [scan_append, scanEnd_append, scan_cons, hopen]
  simp only [scanEnd, hopen]
  rw [hbody.2, hbody.1]
  simp [scan, ScanState.step, ScanState.quoted, markStyle]

theorem plain_identifierWith {q : Char} (hq : q ∈ ['\'', '"', backtick]) {name : String}
    (h : plain name = true) : plain (identifierWith q name) = true := by
  unfold identifierWith
  split
  · next hs =>
    apply plain_intercalate (by decide)
    intro p hp
    obtain ⟨part, hpart, rfl⟩ := List.mem_map.1 hp
    split
    · exact plain_quoteWith hq part
    · apply plain_of_inert
      intro c hc
      obtain ⟨l, hl, rfl⟩ := List.mem_map.1 hpart
      rw [String.toList_ofList] at hc
      exact inert_of_isSimpleName hs c (mem_of_mem_splitOn hl hc)
  · exact h

/-! ## 整数 -/

theorem inert_of_isDigit {c : Char} (h : c.isDigit = true) : inert c = true := by
  have hc : c ≠ '\'' ∧ c ≠ '"' ∧ c ≠ backtick ∧ c ≠ '?' := by
    refine ⟨?_, ?_, ?_, ?_⟩ <;> (rintro rfl; revert h; decide)
  simp [inert, backtick, hc.1, hc.2.1, hc.2.2.2]
  exact hc.2.2.1

theorem plain_nat (n : Nat) : plain n.repr = true := by
  apply plain_of_inert
  intro c hc
  rw [Nat.toList_repr] at hc
  exact inert_of_isDigit (Nat.isDigit_of_mem_toDigits (by decide) (by decide) hc)

theorem plain_int (i : Int) : plain (toString i) = true := by
  show plain i.repr = true
  cases i with
  | ofNat n => exact plain_nat n
  | negSucc n => exact plain_append_of (by decide) (plain_nat (n + 1))

end DataAccess.Sql

namespace DataAccess.Dialect

open Sql

/-! ## 方言の決まり文句 -/

theorem quoteChar_mem (d : Dialect) : d.quoteChar ∈ ['\'', '"', backtick] := by
  cases d <;> decide

theorem plain_identifier (d : Dialect) {name : String} (h : plain name = true) :
    plain (d.identifier name) = true :=
  plain_identifierWith d.quoteChar_mem h

theorem plain_now (d : Dialect) : plain d.now = true := by
  cases d <;> decide

theorem plain_boolean (d : Dialect) (b : Bool) : plain (d.boolean b) = true := by
  cases d <;> cases b <;> decide

theorem plain_forUpdate (d : Dialect) : plain d.forUpdate = true := by
  cases d <;> decide

theorem plain_insertVerb (d : Dialect) (ignore : Bool) : plain (d.insertVerb ignore) = true := by
  cases d <;> cases ignore <;> decide

theorem plain_defaultValuesClause (d : Dialect) : plain d.defaultValuesClause = true := by
  cases d <;> decide

theorem plain_orderTerm (d : Dialect) {column : String} (h : plain column = true) (dir : Direction)
    (nulls : Option NullsPlacement) : plain (d.orderTerm column dir nulls) = true := by
  have hcol := d.plain_identifier h
  have hdir : plain dir.keyword = true := by cases dir <;> decide
  have hbase := plain_append_of (plain_append_of hcol (b := " ") (by decide)) hdir
  unfold orderTerm
  cases nulls with
  | none => exact hbase
  | some p =>
    have hp : plain p.keyword = true := by cases p <;> decide
    have hdirection : plain (if p == .last then "ASC" else "DESC") = true := by split <;> decide
    simp only
    split
    · exact plain_append_of (plain_append_of hbase (b := " NULLS ") (by decide)) hp
    · exact plain_append_of (plain_append_of (plain_append_of (plain_append_of hcol
        (b := " IS NULL ") (by decide)) hdirection) (b := ", ") (by decide)) hbase

/-- `LIMIT` と `OFFSET` の句は整数と決まり文句だけで書かれる。 -/
theorem plain_limitOffset {d : Dialect} {limit offset : Value} {s : String}
    (h : d.limitOffset limit offset = .ok s) : plain s = true := by
  have hpure : ∀ {t : String}, (pure t : Except Fault String) = .ok s → s = t := by
    intro t ht
    exact (Except.ok.inj ht).symm
  unfold limitOffset at h
  split at h
  · rw [hpure h]
    decide
  · obtain ⟨n, -, hn⟩ := Except.bind_eq_ok.1 h
    rw [hpure hn]
    exact plain_append_of (by decide) (plain_int n)
  · rw [hpure h]
    decide
  · obtain ⟨n, -, hn⟩ := Except.bind_eq_ok.1 h
    rw [hpure hn]
    exact plain_append_of (by decide) (plain_int n)
  · have hlimit : ∀ n : Int, plain ("LIMIT " ++ toString n) = true := fun n =>
      plain_append_of (by decide) (plain_int n)
    have hoffset : ∀ n : Int, plain ("OFFSET " ++ toString n) = true := fun n =>
      plain_append_of (by decide) (plain_int n)
    simp only at h
    split at h <;> split at h
    all_goals simp only [Except.bind_eq_ok, pure, Except.pure, Except.ok.injEq] at h
    · obtain ⟨_, rfl, _, rfl, rfl⟩ := h
      decide
    · obtain ⟨_, rfl, n, -, _, rfl, rfl⟩ := h
      simpa using hoffset n
    · obtain ⟨n, -, _, rfl, _, rfl, rfl⟩ := h
      simpa using hlimit n
    · obtain ⟨n, -, _, rfl, m, -, _, rfl, rfl⟩ := h
      simp only [List.singleton_append, String.intercalate_cons_cons, String.intercalate_singleton]
      exact plain_append_of (plain_append_of (hlimit n) (by decide)) (hoffset m)

theorem plain_upsertClause {d : Dialect} {conflict : List String} {updates : Option (List String)}
    {ignore : Bool} {s : String} (hc : ∀ c ∈ conflict, plain c = true)
    (hu : ∀ c ∈ updates.getD [], plain c = true) (h : d.upsertClause conflict updates ignore = .ok s) :
    plain s = true := by
  have hok : ∀ {t : String}, (Except.ok t : Except Fault String) = .ok s → s = t := fun ht =>
    (Except.ok.inj ht).symm
  have hvalues : plain (", ".intercalate ((updates.getD []).map fun c => c ++ " = VALUES(" ++ c ++ ")")) =
      true :=
    plain_intercalate_map (by decide) (fun c hc =>
      plain_append_of (plain_append_of (plain_append_of hc (by decide)) hc) (by decide)) hu
  have htarget : plain (if conflict.isEmpty then "" else " (" ++ ", ".intercalate conflict ++ ")") = true := by
    split
    · decide
    · exact plain_append_of (plain_append_of (by decide) (plain_intercalate (by decide) hc)) (by decide)
  have hupdate : ∀ excluded : String, plain excluded = true →
      plain (", ".intercalate ((updates.getD []).map fun c => c ++ " = " ++ excluded ++ c)) = true :=
    fun excluded hex => plain_intercalate_map (by decide) (fun c hc =>
      plain_append_of (plain_append_of (plain_append_of hc (by decide)) hex) hc) hu
  cases d with
  | mysql =>
    simp only [upsertClause] at h
    by_cases hi : ignore = true
    · rw [if_pos hi] at h
      rw [hok h]
      decide
    · rw [if_neg hi] at h
      by_cases he : (updates.getD []).isEmpty = true
      · rw [if_pos he] at h
        split at h
        · next _ first _ =>
          have hfirst := hc first List.mem_cons_self
          rw [hok h]
          exact plain_append_of (plain_append_of (plain_append_of (by decide) hfirst) (by decide)) hfirst
        · cases h
      · rw [if_neg he] at h
        rw [hok h]
        exact plain_append_of (by decide) hvalues
  | postgresql | sqlite =>
    simp only [upsertClause] at h
    by_cases hi : (ignore || (updates.getD []).isEmpty) = true
    · rw [if_pos hi] at h
      rw [hok h]
      exact plain_append_of (plain_append_of (by decide) htarget) (by decide)
    · rw [if_neg hi] at h
      by_cases he : conflict.isEmpty = true
      · rw [if_pos he] at h
        cases h
      · rw [if_neg he] at h
        rw [hok h]
        refine plain_append_of (plain_append_of (plain_append_of (by decide) htarget) (by decide)) ?_
        exact hupdate _ (by decide)

theorem ilike_marks (d : Dialect) {column : String} (h : plain column = true) :
    settled (d.ilike column) = true ∧ countMarkers (d.ilike column) = 1 := by
  cases d with
  | postgresql =>
    rw [ilike, (marks_plain_append h _).1, (marks_plain_append h _).2]
    decide
  | mysql | sqlite =>
    have hhead := plain_append_of (a := "LOWER(") (by decide) h
    show settled ("LOWER(" ++ column ++ ") LIKE LOWER(?)") = true ∧
      countMarkers ("LOWER(" ++ column ++ ") LIKE LOWER(?)") = 1
    rw [(marks_plain_append hhead _).1, (marks_plain_append hhead _).2]
    decide

end DataAccess.Dialect
