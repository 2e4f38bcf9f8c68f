import DataAccess.Sql.Placeholder
/-!
# 条件の文の優先順位

条件の文を SQL の優先順位で読み、その骨組みを取り出す。OR が最も弱く、AND がその次で、
比較や `NOT` はそれより強い。そこで骨組みは、最上位の OR で区切った項の並びで、各項は最上位の AND で
区切った演算対象の並びになる（`skeleton`）。演算対象の文字列は前後の空白を除いて持つ。

最上位とは、括弧の中でも引用符の囲みの中でもない所。読み方は一文字ずつの状態遷移
（`Cursor.step`）で書き、区切りや読めない印を文字の並びの間に挟む（`Mark`）:

* 語は ASCII の英数字、`_`、ASCII でない文字の続き。大文字小文字を区別せずに、先頭の数字を除いて
  `AND`、`OR`、`BETWEEN`、`XOR` と比べる。最上位の `AND` と `OR` は区切り。ただし `BETWEEN` の後の
  最初の `AND` はその範囲の一部。
* 囲みは単引用符・二重引用符・逆引用符で、同じ文字で閉じる（二つ続けば閉じてまた開く）。
* 次のものは読まない（`none`）: 囲みの外の注釈 `--`、`/*`、`#`、文の区切り `;`、`$`（ドル記号の囲み）、
  `|` と `&`（方言によっては論理演算子）、囲みの中の `\`（方言によっては逃がし文字）、`XOR`、
  `BETWEEN` の途中の `OR`、釣り合わない括弧、閉じない囲み、`AND` の来ない `BETWEEN`。

`spans d d' t`: 深さ `d` の囲みの外から `t` を読むと、区切りも読めない印もなく、深さ `d'` の囲みの外で、
`BETWEEN` を待たず、読みかけの語もどの働きも持たずに終わる。`operand t`（最上位でそれだけで一つの
演算対象）と `nested t`（括弧の中に置けば一つの演算対象になる）はその特別な場合。
-/

namespace DataAccess.Sql

/-- 語を作る文字: ASCII の英数字、`_`、ASCII でない文字。 -/
def isWordChar (c : Char) : Bool := c.isAlphanum || c == '_' || 128 ≤ c.toNat

/-- 最上位の語の働き。 -/
inductive Keyword where
  /-- `AND` -/
  | conj
  /-- `OR` -/
  | disj
  /-- `BETWEEN` -/
  | between
  /-- 読まない語（`XOR`） -/
  | refused
  /-- ほかの語 -/
  | other
  deriving DecidableEq, Repr

/-- 語の働き。先頭の数字は数の一部として除き、大文字にして比べる。 -/
def Keyword.ofWord (w : List Char) : Keyword :=
  match (w.dropWhile Char.isDigit).map Char.toUpper with
  | ['A', 'N', 'D'] => .conj
  | ['O', 'R'] => .disj
  | ['B', 'E', 'T', 'W', 'E', 'E', 'N'] => .between
  | ['X', 'O', 'R'] => .refused
  | _ => .other

/-- 読んだ文字の並びに挟む印。 -/
inductive Mark where
  /-- 読んだ文字 -/
  | char (c : Char)
  /-- 直前の `AND` で演算対象が終わる -/
  | conj
  /-- 直前の `OR` で項が終わる -/
  | disj
  /-- 読めない -/
  | fail
  deriving DecidableEq, Repr

/-- 読みの状態。 -/
structure Cursor where
  /-- 囲みの中なら、その囲みの文字。 -/
  quote : Option Char := none
  /-- 括弧の深さ。 -/
  depth : Nat := 0
  /-- 最上位の `BETWEEN` がその `AND` を待っている。 -/
  between : Bool := false
  /-- 最上位で読みかけの語。 -/
  word : List Char := []
  /-- 囲みの外で直前に読んだ `-` か `/`（注釈の始まりになりうる）。 -/
  opener : Option Char := none
  deriving DecidableEq, Repr

/-- 囲みの文字。 -/
def quoteChars : List Char := ['\'', '"', backtick]

/-- 囲みの外では読まない文字。 -/
def refusedChars : List Char := [';', '#', '$', '|', '&']

namespace Cursor

/-- 深さ `d` の囲みの外で、何も待たない状態。 -/
def level (d : Nat) : Cursor := { depth := d }

/-- 読みかけの語が終わる。 -/
def endWord (σ : Cursor) : Cursor × List Mark :=
  match Keyword.ofWord σ.word with
  | .conj =>
    if σ.between then ({ σ with word := [], between := false }, []) else ({ σ with word := [] }, [.conj])
  | .disj => if σ.between then ({ σ with word := [] }, [.fail]) else ({ σ with word := [] }, [.disj])
  | .between => ({ σ with word := [], between := true }, [])
  | .refused => ({ σ with word := [] }, [.fail])
  | .other => ({ σ with word := [] }, [])

/-- 囲みの外で、語を作らない文字（括弧の中では語の文字も）を読む。 -/
def outside (σ : Cursor) (c : Char) : Cursor × List Mark :=
  let σ' := { σ with opener := if c = '-' ∨ c = '/' then some c else none }
  if (σ.opener = some '-' ∧ c = '-') ∨ (σ.opener = some '/' ∧ c = '*') ∨ c ∈ refusedChars then
    (σ', [.fail])
  else if c ∈ quoteChars then ({ σ' with quote := some c }, [.char c])
  else if c = '(' then ({ σ' with depth := σ.depth + 1 }, [.char c])
  else if c = ')' then
    if σ.depth = 0 then (σ', [.fail]) else ({ σ' with depth := σ.depth - 1 }, [.char c])
  else (σ', [.char c])

/-- 一文字を読む。 -/
def step (σ : Cursor) (c : Char) : Cursor × List Mark :=
  match σ.quote with
  | some q =>
    if c = '\\' then (σ, [.fail])
    else ({ σ with quote := if c = q then none else some q, word := [], opener := none }, [.char c])
  | none =>
    if σ.depth = 0 ∧ isWordChar c then ({ σ with word := σ.word ++ [c], opener := none }, [.char c])
    else
      let e := σ.endWord
      let o := e.1.outside c
      (o.1, e.2 ++ o.2)

/-- 文字の並びを読み、終わりの状態と印の並びを返す。 -/
def scan (σ : Cursor) : List Char → Cursor × List Mark
  | [] => (σ, [])
  | c :: cs =>
    let s := σ.step c
    let r := s.1.scan cs
    (r.1, s.2 ++ r.2)

/-- 文の終わり: 読みかけの語を終え、囲みの外の最上位で何も待っていなければ読める。 -/
def finish (σ : Cursor) : List Mark :=
  let e := σ.endWord
  if e.1.quote = none ∧ e.1.depth = 0 ∧ e.1.between = false then e.2 else e.2 ++ [.fail]

theorem scan_nil (σ : Cursor) : σ.scan [] = (σ, []) := rfl

theorem scan_cons (σ : Cursor) (c : Char) (cs : List Char) :
    σ.scan (c :: cs) = (((σ.step c).1.scan cs).1, (σ.step c).2 ++ ((σ.step c).1.scan cs).2) := rfl

/-- 続けて読むことは、前を読んだ状態から後ろを読むこと。 -/
theorem scan_append (σ : Cursor) (a b : List Char) :
    σ.scan (a ++ b) = (((σ.scan a).1.scan b).1, (σ.scan a).2 ++ ((σ.scan a).1.scan b).2) := by
  induction a generalizing σ with
  | nil => rfl
  | cons c a ih => simp only [List.cons_append, scan_cons, ih, List.append_assoc]

/-- `t` を深さ `d` から読むと、文字のほかの印を挟まず、深さ `d'` の囲みの外で、`BETWEEN` を待たず、
読みかけの語もどの働きも持たずに終わる。 -/
def spans (d d' : Nat) (t : String) : Bool :=
  let r := (level d).scan t.toList
  r.2 == t.toList.map .char && r.1.quote == none && r.1.depth == d' && !r.1.between &&
    Keyword.ofWord r.1.word == .other

end Cursor

/-- 最上位で、それだけで一つの演算対象として読める文字列。 -/
def operand (t : String) : Bool := Cursor.spans 0 0 t

/-- 括弧の中に置けば一つの演算対象になる文字列: 括弧が釣り合い、囲みが閉じ、読めないものを含まない。 -/
def nested (t : String) : Bool := Cursor.spans 1 1 t

/-- 文の印の並び。 -/
def marks (s : String) : List Mark :=
  let r := (Cursor.level 0).scan s.toList
  r.2 ++ r.1.finish

/-- 前後の空白を除いた文字列。 -/
def trimBlank (cs : List Char) : String :=
  String.ofList ((cs.dropWhile Char.isWhitespace).reverse.dropWhile Char.isWhitespace).reverse

/-- 印の並びから骨組みを組み立てる。`buf` は読みかけの演算対象の文字、`ops` はこの項で読み終えた
演算対象（逆順）、`alts` は読み終えた項（逆順）。区切りの印が来た時、`buf` の末尾はその語。 -/
def assemble : List Mark → List Char → List String → List (List String) → Option (List (List String))
  | [], buf, ops, alts => some (((trimBlank buf :: ops).reverse :: alts).reverse)
  | .char c :: ms, buf, ops, alts => assemble ms (buf ++ [c]) ops alts
  | .conj :: ms, buf, ops, alts => assemble ms [] (trimBlank (buf.take (buf.length - 3)) :: ops) alts
  | .disj :: ms, buf, ops, alts =>
    assemble ms [] [] ((trimBlank (buf.take (buf.length - 2)) :: ops).reverse :: alts)
  | .fail :: _, _, _, _ => none

/-- 条件の文の骨組み: 最上位の OR で区切った項の並びで、各項は最上位の AND で区切った演算対象の並び。
読めない文なら `none`。 -/
def skeleton (s : String) : Option (List (List String)) := assemble (marks s) [] [] []

example : skeleton "a = 1 AND (b OR c) OR d" = some [["a = 1", "(b OR c)"], ["d"]] := by decide

example : skeleton "x BETWEEN ? AND ? and y = 'a OR b'" = some [["x BETWEEN ? AND ?", "y = 'a OR b'"]] := by
  decide

example : skeleton "deleted = 0 AND id = ? OR parent_id = ?" =
    some [["deleted = 0", "id = ?"], ["parent_id = ?"]] := by decide

example : skeleton "id = ? -- OR 1 = 1" = none := by decide

end DataAccess.Sql
