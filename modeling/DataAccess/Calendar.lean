import DataAccess.Unicode.Surrogate
/-!
# 暦と時刻

日付 `Date`、一日の中の時刻 `Clock`（マイクロ秒まで）、協定世界時からのずれ `Offset`。

* ISO 8601 の表記を読む。日付は `YYYY-MM-DD`、`YYYYMMDD`、週の表記 `YYYY-Www[-D]`、`YYYYWww[D]`。
  時刻は `HH[:MM[:SS[.f…]]]`（区切りなしも可、小数は 6 桁まで読みそれより下は捨てる）、
  後ろにずれ `Z`、`±HH[:MM[:SS[.f…]]]`。日時は日付と時刻を任意の一文字で区切る。
  読めない表記、範囲の外の値は `ReadError`。
* 書く: 日付は `YYYY-MM-DD`、時刻は `HH:MM:SS`（マイクロ秒があれば `.ffffff`）、ずれは
  `±HH:MM`（秒やマイクロ秒があれば続ける）。
* 日は西暦 1 年 1 月 1 日を 1 とする通し番号（`Date.ordinal`）で数える。
-/

namespace DataAccess

namespace Calendar

/-- 暦の日付（先発グレゴリオ暦）。 -/
structure Date where
  year : Nat
  month : Nat
  day : Nat
  deriving BEq, DecidableEq, Repr, Inhabited

/-- 一日の中の時刻。 -/
structure Clock where
  hour : Nat
  minute : Nat
  second : Nat
  micro : Nat
  deriving BEq, DecidableEq, Repr, Inhabited

/-- 協定世界時からのずれ（マイクロ秒）。 -/
structure Offset where
  micros : Int
  deriving BEq, DecidableEq, Repr, Inhabited

/-- 読めなかった理由。 -/
inductive ReadError where
  /-- 表記の形が違う。 -/
  | malformed
  /-- 欄の値が範囲の外（文は範囲の説明）。 -/
  | outOfRange (message : String)
  deriving BEq, Repr, Inhabited

/-- 閏年か。 -/
def isLeap (y : Nat) : Bool := y % 4 == 0 && (y % 100 != 0 || y % 400 == 0)

/-- 月の日数。 -/
def daysInMonth (y m : Nat) : Nat :=
  match m with
  | 2 => if isLeap y then 29 else 28
  | 4 | 6 | 9 | 11 => 30
  | _ => 31

/-- その年の、月の前までの日数。 -/
def daysBeforeMonth (y m : Nat) : Nat :=
  (List.range (m - 1)).foldl (fun acc i => acc + daysInMonth y (i + 1)) 0

/-- その年の前までの日数。 -/
def daysBeforeYear (y : Nat) : Nat :=
  let p := y - 1
  p * 365 + p / 4 - p / 100 + p / 400

/-- 日の通し番号（西暦 1 年 1 月 1 日が 1）。 -/
def Date.ordinal (d : Date) : Nat := daysBeforeYear d.year + daysBeforeMonth d.year d.month + d.day

/-- 通し番号の日付。400 年、100 年、4 年、1 年の周期で年を決め、残りの日数から月と日を決める。 -/
def Date.ofOrdinal (n : Nat) : Date :=
  let n := n - 1
  let (n400, n) := (n / 146097, n % 146097)
  let (n100, n) := (n / 36524, n % 36524)
  let (n4, n) := (n / 1461, n % 1461)
  let (n1, n) := (n / 365, n % 365)
  let year := n400 * 400 + 1 + n100 * 100 + n4 * 4 + n1
  if n1 == 4 || n100 == 4 then ⟨year - 1, 12, 31⟩
  else
    let month := ((List.range 12).map (· + 1)).filter (fun m => daysBeforeMonth year m ≤ n) |>.getLast? |>.getD 1
    ⟨year, month, n - daysBeforeMonth year month + 1⟩

/-- 曜日（月曜が 0）。 -/
def Date.weekday (d : Date) : Nat := (d.ordinal + 6) % 7

/-- ISO 週の第 1 週の月曜日の通し番号。 -/
def weekOneMonday (y : Nat) : Nat :=
  let first := (⟨y, 1, 1⟩ : Date).ordinal
  let wd := (first + 6) % 7
  if wd > 3 then first - wd + 7 else first - wd

/-- 年 `y` の第 `w` 週の曜日 `d`（月曜が 1）。第 53 週は、木曜に始まる年か水曜に始まる閏年にだけある。
年 0 の週は 1 年 1 月 1 日より前の日を指し、暦の計算では月が 1 より小さくなる。その日付は
月の範囲の失敗になるように `1 年 0 月` で表す。年 9999 の最後の週の終わりは年 10000 に入る。 -/
def ofWeekDate (y w d : Nat) : Option Date :=
  let firstWeekday := (⟨y, 1, 1⟩ : Date).weekday
  let has53 := y != 0 && (firstWeekday == 3 || (firstWeekday == 2 && isLeap y))
  if w == 0 || w > 53 || (w == 53 && !has53) then none
  else if d == 0 || d > 7 then none
  else if y == 0 then some ⟨1, 0, 1⟩
  else some (Date.ofOrdinal (weekOneMonday y + (w - 1) * 7 + d - 1))

/-! ## 読む

表記は UTF-8 のバイトの並びとして読む。並びの終わりより先は 0 として読むので、途中の NUL は
終わりと同じに扱われる。時刻の欄は 2 桁を読んだ後に続く 1 バイトを読み、それから読む範囲の終わりに
達したかを見る。そのため範囲の最後の 1 バイトは、区切りでも数字でも読み捨てられ、NUL でなければ
「後ろに残りがある」印になる。 -/

/-- 表記のバイトの並び。 -/
abbrev Bytes := List UInt8

/-- 文字の並びの UTF-8 のバイトの並び。 -/
def Bytes.ofChars (cs : List Char) : Bytes := cs.flatMap String.utf8EncodeChar

/-- 位置 `i` のバイト。終わりより先は 0。 -/
def byteAt (bs : Bytes) (i : Nat) : UInt8 := bs.getD i 0

/-- ASCII の文字のバイト。 -/
def code (c : Char) : UInt8 := c.toNat.toUInt8

/-- ASCII の数字の値。 -/
def digit? (c : Char) : Option Nat :=
  if '0' ≤ c ∧ c ≤ '9' then some (c.toNat - '0'.toNat) else none

/-- ASCII の数字のバイトの値。 -/
def byteDigit? (b : UInt8) : Option Nat :=
  if 48 ≤ b ∧ b ≤ 57 then some (b.toNat - 48) else none

/-- 位置 `p` からちょうど `n` 桁の数字を読み、値と次の位置を返す。 -/
def digitsAt (bs : Bytes) (n p : Nat) : Option (Nat × Nat) :=
  let ds := (bs.drop p).take n
  if ds.length != n then none
  else (ds.mapM byteDigit?).map fun vs => (vs.foldl (fun acc v => acc * 10 + v) 0, p + n)

/-- 日付の部分を読む。`-` を使うなら月と日の間も `-`。週の表記は、日付の部分の長さ `len` が
週までで尽きていれば曜日を省いたもの（月曜）。読んだ後に残るバイトは見ない。 -/
def readDatePart (bs : Bytes) (len : Nat) : Except ReadError Date := do
  let some (year, p) := digitsAt bs 4 0 | throw .malformed
  let dashed := byteAt bs p == code '-'
  let p := if dashed then p + 1 else p
  if byteAt bs p == code 'W' then
    let some (week, p) := digitsAt bs 2 (p + 1) | throw .malformed
    let day ← if p < len then do
        if dashed && byteAt bs p != code '-' then throw .malformed
        let some (day, _) := digitsAt bs 1 (if dashed then p + 1 else p) | throw .malformed
        pure day
      else pure 1
    match ofWeekDate year week day with
    | some d => return d
    | none => throw .malformed
  else
    let some (month, p) := digitsAt bs 2 p | throw .malformed
    if dashed && byteAt bs p != code '-' then throw .malformed
    let some (day, _) := digitsAt bs 2 (if dashed then p + 1 else p) | throw .malformed
    return ⟨year, month, day⟩

/-- 時、分、秒を読み終えたところ。 -/
inductive FieldsEnd where
  /-- 範囲の終わりに達した。`trailing` は最後に読んだバイトが NUL でなかったか。 -/
  | stopped (trailing : Bool)
  /-- 位置 `p` から小数が続く。 -/
  | fraction (p : Nat)
  deriving Repr, Inhabited

/-- 時、分、秒を読む（`left` は残りの欄の数、`acc` は読んだ欄）。各欄はちょうど 2 桁で、続く 1 バイトを
読んでから範囲の終わり `stop` に達したかを見る。区切り `:` を使うかは時の後のバイトで決まり、
使わないなら読んだバイトを戻す。`.` か `,` の後と、3 つの欄の後は小数。 -/
def readFields (bs : Bytes) (stop : Nat) : (left p : Nat) → (sep : Bool) → (acc : List Nat) →
    Except ReadError (List Nat × FieldsEnd)
  | 0, p, _, acc => .ok (acc, .fraction p)
  | left + 1, p, sep, acc => do
    let some (v, p) := digitsAt bs 2 p | throw .malformed
    let c := byteAt bs p
    let sep := if acc.isEmpty then c == code ':' else sep
    let acc := acc ++ [v]
    if p + 1 ≥ stop then return (acc, .stopped (c != 0))
    else if sep && c == code ':' then readFields bs stop left (p + 1) sep acc
    else if c == code '.' || c == code ',' then return (acc, .fraction (p + 1))
    else if !sep then readFields bs stop left p sep acc
    else throw .malformed

/-- 位置 `p` から範囲の終わり `stop` に向けて小数を読む。6 桁（範囲が短ければその長さ）を読み、
足りない桁は 0 で埋め、続く数字は捨てる。読み終えた位置のバイトが NUL でなければ `true`。 -/
def readFraction (bs : Bytes) (stop p : Nat) : Except ReadError (Nat × Bool) := do
  let width := min (stop - p) 6
  let some (v, q) := digitsAt bs width p | throw .malformed
  let q := q + ((bs.drop q).takeWhile fun b => (byteDigit? b).isSome).length
  return (v * Nat.pow 10 (6 - width), byteAt bs q != 0)

/-- 位置 `start` から `stop` までの時刻 `HH[:MM[:SS[.f…]]]` を読む。後ろに残りがあれば `true`。 -/
def readClockAt (bs : Bytes) (start stop : Nat) : Except ReadError (Clock × Bool) := do
  let (fields, last) ← readFields bs stop 3 start true []
  let (hour, minute, second) := (fields.getD 0 0, fields.getD 1 0, fields.getD 2 0)
  match last with
  | .stopped trailing => return (⟨hour, minute, second, 0⟩, trailing)
  | .fraction p =>
    let (micro, trailing) ← readFraction bs stop p
    return (⟨hour, minute, second, micro⟩, trailing)

/-- ずれの始まりの記号か。 -/
def isZoneMark (b : UInt8) : Bool := b == code 'Z' || b == code '+' || b == code '-'

/-- 位置 `start` から終わりまでの時刻の部分を読む。ずれは最初の `Z`、`+`、`-` から始まる。
ずれがなければ時刻の後ろに残りがあってはならず、ずれがあれば時刻の後ろの残りは問わない。
`Z` の後は終わりでなければならず、秒までが 0 のずれは協定世界時（小数は捨てる）。 -/
def readTimeAt (bs : Bytes) (start : Nat) : Except ReadError (Clock × Option Offset) := do
  let zoneAt := start + ((bs.drop start).takeWhile fun b => !isZoneMark b).length
  let (clock, trailing) ← readClockAt bs start zoneAt
  if zoneAt ≥ bs.length then
    if trailing then throw .malformed else return (clock, none)
  let sign := byteAt bs zoneAt
  if sign == code 'Z' then
    if byteAt bs (zoneAt + 1) != 0 then throw .malformed
    return (clock, some ⟨0⟩)
  let (z, trailing) ← readClockAt bs (zoneAt + 1) bs.length
  if trailing then throw .malformed
  let secs : Int := z.hour * 3600 + z.minute * 60 + z.second
  let s : Int := if sign == code '-' then -1 else 1
  if secs == 0 then return (clock, some ⟨0⟩)
  return (clock, some ⟨s * (secs * 1000000 + z.micro)⟩)

/-- 日付の欄の範囲を確かめる。 -/
def checkDate (d : Date) : Except ReadError Date := do
  if d.year < 1 || d.year > 9999 then throw (.outOfRange ("year " ++ toString d.year ++ " is out of range"))
  if d.month < 1 || d.month > 12 then throw (.outOfRange "month must be in 1..12")
  if d.day < 1 || d.day > daysInMonth d.year d.month then throw (.outOfRange "day is out of range for month")
  return d

/-- 時刻の欄の範囲を確かめる。 -/
def checkClock (t : Clock) : Except ReadError Clock := do
  if t.hour > 23 then throw (.outOfRange "hour must be in 0..23")
  if t.minute > 59 then throw (.outOfRange "minute must be in 0..59")
  if t.second > 59 then throw (.outOfRange "second must be in 0..59")
  return t

/-- 一日のマイクロ秒。 -/
def microsPerDay : Int := 86400000000

/-- ずれの範囲（一日より真に短い）を確かめる。 -/
def checkOffset (o : Option Offset) (shown : Offset → String) : Except ReadError (Option Offset) :=
  match o with
  | some z =>
    if z.micros ≤ -microsPerDay || z.micros ≥ microsPerDay then
      .error (.outOfRange ("offset must be a timedelta strictly between -timedelta(hours=24) and " ++
        "timedelta(hours=24), not " ++ shown z ++ "."))
    else .ok o
  | none => .ok none

/-- 区切りの位置（日付の部分の長さ）。週の表記では数字の並びから決める。 -/
def separatorAt (cs : List Char) : Nat :=
  if cs.length == 7 then 7
  else match cs[4]?, cs[5]? with
    | some '-', some 'W' =>
      if cs.length > 8 && cs[8]? == some '-' then
        if cs.length > 10 && (cs[10]?.bind digit?).isSome then 8 else 10
      else 8
    | some '-', _ => 10
    | some 'W', _ =>
      let run := ((cs.drop 7).takeWhile fun c => (digit? c).isSome).length
      let idx := 7 + run
      if idx < 9 then idx else if idx % 2 == 0 then 7 else 8
    | _, _ => 8

/-! ## 書く -/

/-- 0 で埋めた `width` 桁の数字。 -/
def pad (width n : Nat) : String :=
  let s := toString n
  String.ofList (List.replicate (width - s.length) '0') ++ s

/-- 日付の ISO 表記。 -/
def Date.iso (d : Date) : String := pad 4 d.year ++ "-" ++ pad 2 d.month ++ "-" ++ pad 2 d.day

/-- 時刻の ISO 表記。 -/
def Clock.iso (t : Clock) : String :=
  pad 2 t.hour ++ ":" ++ pad 2 t.minute ++ ":" ++ pad 2 t.second ++
    (if t.micro == 0 then "" else "." ++ pad 6 t.micro)

/-- ずれの表記 `±HH:MM`。秒やマイクロ秒があれば `:SS`、`.ffffff` を続ける。 -/
def Offset.iso (o : Offset) : String :=
  let sign := if o.micros < 0 then "-" else "+"
  let m := o.micros.natAbs
  let micro := m % 1000000
  let secs := m / 1000000
  let base := sign ++ pad 2 (secs / 3600) ++ ":" ++ pad 2 (secs / 60 % 60)
  if secs % 60 == 0 && micro == 0 then base
  else base ++ ":" ++ pad 2 (secs % 60) ++ (if micro == 0 then "" else "." ++ pad 6 micro)

/-- 時間の長さの字面（日、秒、マイクロ秒に正規化し、0 の欄は省く）。 -/
def Offset.deltaRepr (o : Offset) : String :=
  let days := Int.fdiv o.micros microsPerDay
  let rest := (o.micros - days * microsPerDay).toNat
  let fields := (if days != 0 then ["days=" ++ toString days] else []) ++
    (if rest / 1000000 != 0 then ["seconds=" ++ toString (rest / 1000000)] else []) ++
    (if rest % 1000000 != 0 then ["microseconds=" ++ toString (rest % 1000000)] else [])
  "datetime.timedelta(" ++ (if fields.isEmpty then "0" else ", ".intercalate fields) ++ ")"

/-- 時間帯の字面。ずれがなければ協定世界時。 -/
def Offset.zoneRepr (o : Offset) : String :=
  if o.micros == 0 then "datetime.timezone.utc" else "datetime.timezone(" ++ o.deltaRepr ++ ")"

/-- 時刻の欄の字面。時と分は必ず、秒とマイクロ秒は後ろから 0 を省く。 -/
def Clock.reprFields (t : Clock) : List String :=
  [toString t.hour, toString t.minute] ++
    (if t.micro != 0 then [toString t.second, toString t.micro]
     else if t.second != 0 then [toString t.second] else [])

/-- 時刻とずれの ISO 表記。 -/
def zonedIso (t : Clock) (o : Option Offset) : String :=
  t.iso ++ match o with
    | some z => z.iso
    | none => ""

/-- 日時の ISO 表記（日付と時刻の間は `sep`）。 -/
def dateTimeIso (sep : String) (d : Date) (t : Clock) (o : Option Offset) : String :=
  d.iso ++ sep ++ zonedIso t o

/-- 時間帯の引数の字面（ずれがなければ空）。 -/
def zoneArgument (o : Option Offset) : String :=
  match o with
  | some z => ", tzinfo=" ++ z.zoneRepr
  | none => ""

/-- 日付の字面。 -/
def Date.reprText (d : Date) : String :=
  "datetime.date(" ++ ", ".intercalate [toString d.year, toString d.month, toString d.day] ++ ")"

/-- 日時の字面。 -/
def dateTimeRepr (d : Date) (t : Clock) (o : Option Offset) : String :=
  "datetime.datetime(" ++
    ", ".intercalate ([toString d.year, toString d.month, toString d.day] ++ t.reprFields) ++
    zoneArgument o ++ ")"

/-- 時刻の字面。 -/
def timeRepr (t : Clock) (o : Option Offset) : String :=
  "datetime.time(" ++ ", ".intercalate t.reprFields ++ zoneArgument o ++ ")"

/-- 協定世界時に直したマイクロ秒（日付の通し番号から数える）。 -/
def instant (d : Date) (t : Clock) (o : Offset) : Int :=
  ((d.ordinal * 86400 + t.hour * 3600 + t.minute * 60 + t.second : Nat) : Int) * 1000000 + t.micro - o.micros

/-- 二つの日時が等しいか。ずれのあるものとないものは等しくない。ずれのあるもの同士は
協定世界時の時点で比べる。 -/
def sameDateTime (d₁ : Date) (t₁ : Clock) (o₁ : Option Offset) (d₂ : Date) (t₂ : Clock)
    (o₂ : Option Offset) : Bool :=
  match o₁, o₂ with
  | none, none => d₁ == d₂ && t₁ == t₂
  | some a, some b => instant d₁ t₁ a == instant d₂ t₂ b
  | _, _ => false

/-- 二つの時刻が等しいか。ずれが同じなら欄で比べ、違えば分の単位に切り下げたずれを
引いた分と、秒とマイクロ秒で比べる。ずれのあるものとないものは等しくない。 -/
def sameTime (t₁ : Clock) (o₁ : Option Offset) (t₂ : Clock) (o₂ : Option Offset) : Bool :=
  let minutes (t : Clock) (o : Offset) : Int :=
    ((t.hour * 60 + t.minute : Nat) : Int) - Int.fdiv o.micros 60000000
  match o₁, o₂ with
  | none, none => t₁ == t₂
  | some a, some b =>
    if a == b then t₁ == t₂
    else minutes t₁ a == minutes t₂ b && t₁.second == t₂.second && t₁.micro == t₂.micro
  | _, _ => false

/-! ## 表記を読む入口 -/

/-- 対にならないサロゲートを含むか（その表記は UTF-8 にできず、読めない）。 -/
def hasSurrogate (cs : List Char) : Bool := cs.any fun c => (Unicode.surrogate? c).isSome

/-- 日付の表記を読む。UTF-8 で 7、8、10 バイトのどれか（日付を読んだ後ろは見ない）。 -/
def readDate (s : String) : Except ReadError Date := do
  if hasSurrogate s.toList then throw .malformed
  let bs := Bytes.ofChars s.toList
  if bs.length != 7 && bs.length != 8 && bs.length != 10 then throw .malformed
  checkDate (← readDatePart bs bs.length)

/-- 時刻の表記を読む。先頭の `T` は読み飛ばす。 -/
def readTime (s : String) : Except ReadError (Clock × Option Offset) := do
  if hasSurrogate s.toList then throw .malformed
  let bs := Bytes.ofChars s.toList
  let (t, o) ← readTimeAt bs (if byteAt bs 0 == code 'T' then 1 else 0)
  let o ← checkOffset o Offset.deltaRepr
  return (← checkClock t, o)

/-- 日時の表記を読む。日付と時刻の区切りはどんな一文字でもよい（対にならないサロゲートも）。
時刻がなければ 0 時。範囲は、ずれ、日付、時刻の順に確かめる。 -/
def readDateTime (s : String) : Except ReadError (Date × Clock × Option Offset) := do
  let cs := s.toList
  if cs.length < 7 then throw .malformed
  let cut := separatorAt cs
  if hasSurrogate (cs.take cut) || hasSurrogate (cs.drop (cut + 1)) then throw .malformed
  let d ← readDatePart (Bytes.ofChars (cs.take cut)) cut
  let (t, o) ← if cs.length > cut then readTimeAt (Bytes.ofChars (cs.drop (cut + 1))) 0
    else pure (⟨0, 0, 0, 0⟩, none)
  let o ← checkOffset o Offset.deltaRepr
  let d ← checkDate d
  return (d, ← checkClock t, o)

end Calendar

end DataAccess
