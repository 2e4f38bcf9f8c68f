import DataAccess.Sql.Placeholder
import DataAccess.Value.Sequence
/-!
# 断片として渡された値

生の条件や `Dynamic` の SQL、共通表式や結合の断片は文字列のはずだが、どの値でも渡せる。
その `?` を置き換え、あるいは数える規則は、文字列の走査 `scan` を要素の並びに広げたもの:

* 長さを測り、番号で要素を一つずつ引く（長さのない値、番号で引けない値は失敗）。
* `%` を二重にするなら、`%` の要素は囲みの中でも外でも `%%` になる（この判定が最初）。
* 囲みの外の要素は文字列でなければならない。囲みの文字の並びの部分文字列（空の文字列も）なら、
  その要素で囲みを始める。`?` なら印。
* 囲みの中の要素は写すだけで、囲みを始めた要素と同じ文字列なら囲みを閉じる。
  次の要素も同じなら囲みの中に戻る。
* 最後に書き出した要素を繋ぐので、どれも文字列でなければならない。

文字列の要素は一文字ずつなので、文字列では `scan` と同じ結果になる。
-/

namespace DataAccess.Sql

/-- `s` が `t` の部分文字列か。 -/
def isInfix (s t : List Char) : Bool :=
  (List.range (t.length + 1)).any fun i => s.isPrefixOf (t.drop i)

/-- 値が文字列 `q` か。 -/
def sameText (v : Value) (q : String) : Bool :=
  match v with
  | .str s => s == q
  | _ => false

/-- 要素を番号の順に読む。`item i` は `i` 番目の要素、`quote` は囲みを始めた要素、
`out` は書き出した要素（逆順）、`count` はこれまでの印の数。`%` の二重化が最初の判定。 -/
def scanItems (st : MarkerStyle) (item : Nat → Except Fault Value) (length : Nat) :
    Nat → Nat → Option String → List Value → Nat → Except Fault (List Value × Nat)
  | 0, _, _, out, count => .ok (out.reverse, count)
  | fuel + 1, i, quote, out, count =>
    if length ≤ i then .ok (out.reverse, count) else do
    let ch ← item i
    if st.escapePercent && sameText ch "%" then
      scanItems st item length fuel (i + 1) quote (.str "%%" :: out) count
    else match quote with
    | some q =>
      if sameText ch q then
        if i + 1 < length then
          let next ← item (i + 1)
          if sameText next q then scanItems st item length fuel (i + 2) quote (.str q :: ch :: out) count
          else scanItems st item length fuel (i + 1) none (ch :: out) count
        else scanItems st item length fuel (i + 1) none (ch :: out) count
      else scanItems st item length fuel (i + 1) quote (ch :: out) count
    | none =>
      match ch with
      | .str s =>
        if isInfix s.toList st.quotes then scanItems st item length fuel (i + 1) (some s) (ch :: out) count
        else if s == "?" then
          scanItems st item length fuel (i + 1) none (.str (st.render count) :: out) (count + 1)
        else scanItems st item length fuel (i + 1) none (ch :: out) count
      | _ =>
        .error (Fault.other "TypeError" ("'in <string>' requires string as left operand, not " ++
          ch.typeName))

/-- 断片として渡された値の、囲みの外の `?` を置き換えた文字列と、置き換えた印の数。 -/
def rewriteValue (st : MarkerStyle) (sql : Value) : Except Fault (String × Nat) :=
  match sql with
  | .str s =>
    let (outs, count) := scan st .outside 0 s.toList
    .ok (String.join outs, count)
  | _ => do
    let length ← sql.size
    let (out, count) ← scanItems st (fun i => sql.getItem (.int i)) length (length + 1) 0 none [] 0
    return (← Value.joinItems "" out, count)

/-- 数えるときの設定: 印はそのまま、囲みは単引用符・二重引用符・逆引用符。 -/
def countingStyle : MarkerStyle := { render := fun _ => "?", quotes := ['\'', '"', backtick] }

/-- 断片として渡された値の `?` の数。 -/
def markerCount (sql : Value) : Except Fault Nat := return (← rewriteValue countingStyle sql).2

end DataAccess.Sql
