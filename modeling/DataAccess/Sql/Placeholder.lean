/-!
# 位置の印 `?`

組み立てた SQL は値の位置を `?` で示す。引用符で囲まれた部分の外にある `?` を
ドライバの書き方（`$1`, `%s` など）に置き換え、あるいは数える。

* 囲みの中は写すだけ。囲みの中で囲みの文字が二つ続けば、囲みの文字そのもの。
* `escapePercent` なら、囲みの中でも外でも `%` を `%%` にする（この判定が最初）。

走査は一文字ずつの状態遷移 `ScanState.step` で書く。囲みの文字を見た直後は
`closing`（次も同じ文字なら囲みの中に戻り、そうでなければ囲みの外）。
-/

namespace DataAccess.Sql

/-- 印の置き換えの設定。 -/
structure MarkerStyle where
  /-- 何番目（0 から）の印をどう書くか。 -/
  render : Nat → String
  /-- `%` を二重にする。 -/
  escapePercent : Bool := false
  /-- 囲みに使う文字。 -/
  quotes : List Char := ['\'', '"']

/-- 走査の状態。 -/
inductive ScanState where
  /-- 囲みの外。 -/
  | outside
  /-- 文字 `q` の囲みの中。 -/
  | inside (q : Char)
  /-- 囲みの文字 `q` を見た直後。 -/
  | closing (q : Char)
  deriving BEq, Repr

/-- 囲みの外で一文字を読む: 書き出す字、次の状態、次の印の番号。 -/
def stepOutside (st : MarkerStyle) (index : Nat) (c : Char) : String × ScanState × Nat :=
  if st.escapePercent && c = '%' then ("%%", .outside, index)
  else if st.quotes.contains c then (c.toString, .inside c, index)
  else if c = '?' then (st.render index, .outside, index + 1)
  else (c.toString, .outside, index)

/-- 一文字を読む。 -/
def ScanState.step (st : MarkerStyle) (s : ScanState) (index : Nat) (c : Char) :
    String × ScanState × Nat :=
  match s with
  | .outside => stepOutside st index c
  | .inside q =>
    if st.escapePercent && c = '%' then ("%%", .inside q, index)
    else if c = q then (c.toString, .closing q, index)
    else (c.toString, .inside q, index)
  | .closing q =>
    if c = q then (c.toString, .inside q, index) else stepOutside st index c

/-- 文字の並びを走査し、書き出す字の並びと置き換えた印の数を返す。 -/
def scan (st : MarkerStyle) : ScanState → Nat → List Char → List String × Nat
  | _, index, [] => ([], index)
  | s, index, c :: rest =>
    let (out, s', index') := s.step st index c
    let (outs, n) := scan st s' index' rest
    (out :: outs, n)

/-- 囲みの外の `?` を置き換える。 -/
def rewriteMarkers (st : MarkerStyle) (sql : String) : String :=
  String.join (scan st .outside 0 sql.toList).1

/-- 逆引用符。 -/
def backtick : Char := Char.ofNat 96

/-- 単引用符・二重引用符・逆引用符の外にある `?` の数。 -/
def countMarkers (sql : String) : Nat :=
  (scan { render := fun _ => "?", quotes := ['\'', '"', backtick] } .outside 0 sql.toList).2

/-- 数えるときと同じ囲みで、`i` 番目の印を `render i` と書く書き方。 -/
def markStyle (render : Nat → String) : MarkerStyle :=
  { render, quotes := ['\'', '"', backtick] }

end DataAccess.Sql
