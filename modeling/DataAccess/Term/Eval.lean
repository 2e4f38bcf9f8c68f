import DataAccess.Model.Catalog
import DataAccess.Condition
/-!
# 式の評価

式を目録に対して評価して値にする。

* 列の参照は、クラスを名前で引き、属性を継承の順に引く。列でなく関連なら関連の参照。
* `exists` の相手がモデルのクラスなら、そのメタデータに置き換える。
* 述語の条件の並びは正規化し、`TupleIn` の行や副問い合わせの鍵の組は組にする。
* 組み立て途中の条件の並びは、操作を順に当てて作る。
* 辞書のキーが重なれば、最初の位置に後の値を置く。
-/

namespace DataAccess

/-- 辞書に項目を入れる。等しいキーがあれば値だけを置き換える。 -/
def dictInsert (kvs : List (Value × Value)) (k v : Value) : List (Value × Value) :=
  if kvs.any (fun kv => Value.equal kv.1 k) then
    kvs.map fun kv => if Value.equal kv.1 k then (kv.1, v) else kv
  else kvs ++ [(k, v)]

/-- 十六進の一桁。 -/
def hexDigit? (c : Char) : Option Nat :=
  if '0' ≤ c ∧ c ≤ '9' then some (c.toNat - '0'.toNat)
  else if 'a' ≤ c ∧ c ≤ 'f' then some (c.toNat - 'a'.toNat + 10)
  else if 'A' ≤ c ∧ c ≤ 'F' then some (c.toNat - 'A'.toNat + 10)
  else none

/-- 十六進の文字列をバイト列にする（空白は読み飛ばす）。 -/
def bytesOfHex (hex : String) : Except Fault Value :=
  go 0 hex.toList []
where
  go : Nat → List Char → List UInt8 → Except Fault Value
    | _, [], acc => .ok (.bytes acc.reverse)
    | pos, c :: rest, acc =>
      if c = ' ' then go (pos + 1) rest acc
      else match rest with
        | d :: rest' =>
          match hexDigit? c, hexDigit? d with
          | some a, some b => go (pos + 2) rest' (UInt8.ofNat (16 * a + b) :: acc)
          | none, _ => .error (bad pos)
          | _, none => .error (bad (pos + 1))
        | [] => .error (bad (pos + 1))
  bad (pos : Nat) : Fault :=
    Fault.other "ValueError" ("non-hexadecimal number found in fromhex() arg at position " ++ toString pos)

/-- 十六進の文字列として渡した値をバイト列にする。文字列でなければ失敗。 -/
def bytesFrom (v : Value) : Except Fault Value :=
  match v with
  | .str h => bytesOfHex h
  | v => .error (Fault.other "TypeError" ("fromhex() argument must be str, not " ++ v.typeName))

/-- UUID の文字列を正規の形（小文字、8-4-4-4-12 のハイフン区切り）にする。 -/
def uuidOfText (text : String) : Except Fault Value :=
  let stripped := ((text.replace "urn:" "").replace "uuid:" "").toList.filter
    (fun c => c ≠ '{' ∧ c ≠ '}' ∧ c ≠ '-')
  let hex := stripped.map Char.toLower
  if hex.length = 32 ∧ hex.all (fun c => (hexDigit? c).isSome) then
    let part := fun (a n : Nat) => String.ofList ((hex.drop a).take n)
    .ok (.uuid (part 0 8 ++ "-" ++ part 8 4 ++ "-" ++ part 12 4 ++ "-" ++ part 16 4 ++ "-" ++ part 20 12))
  else .error (Fault.other "ValueError" "badly formed hexadecimal UUID string")

/-- UUID にする値。文字列でない値は `urn:` を除けず（バイト列は文字列の引数を受け取らない）、
`None` は何も渡していないことになる。 -/
def uuidFrom (v : Value) : Except Fault Value :=
  match v with
  | .str t => uuidOfText t
  | .none => .error (Fault.other "TypeError"
      "one of the hex, bytes, bytes_le, fields, or int arguments must be given")
  | v => .error (Fault.replaceOnText v)

/-- 十進数の字面を読む。読めない字面と、丸めなければ持てない値は無効な演算。 -/
def decimalOfText (text : String) : Except Fault Value :=
  match Number.DecimalNumber.read? text with
  | some d =>
    if d.fitsExactly then .ok (.decimal d)
    else .error (Fault.other "InvalidOperation" Number.DecimalNumber.invalidOperation)
  | none => .error (Fault.other "InvalidOperation" "[<class 'decimal.ConversionSyntax'>]")

/-- 符号付き 64 ビットに収まる整数か。 -/
def fitsWord (i : Int) : Bool := -9223372036854775808 ≤ i && i ≤ 9223372036854775807

/-- 符号・係数の数字・指数（または無限大 `F`、非数 `n`、信号を出す非数 `N`）の三つ組から
十進数を作る。確かめる順は符号、指数、係数の数字で、無限大の係数は確かめてから捨てる。
組は字面 `±係数E指数`（係数が空なら 0）に直して読む。 -/
def decimalOfParts (parts : List Value) : Except Fault Value :=
  let invalid := fun (m : String) => Fault.other "ValueError" m
  let tooLarge := fun (c : String) => Fault.other "OverflowError" ("Python int too large to convert to C " ++ c)
  match parts with
  | [sign, digits, exp] => do
    let negative ← match Value.intLike? sign with
      | some i =>
        if !fitsWord i then throw (tooLarge "long")
        else if i == 0 then pure false
        else if i == 1 then pure true
        else throw (invalid "sign must be an integer with the value 0 or 1")
      | none => throw (invalid "sign must be an integer with the value 0 or 1")
    let special ← match exp with
      | .str "F" => pure (some "Inf")
      | .str "n" => pure (some "NaN")
      | .str "N" => pure (some "sNaN")
      | .str _ => throw (invalid "string argument in the third position must be 'F', 'n' or 'N'")
      | v => match Value.intLike? v with
        | some e => if fitsWord e then pure none else throw (tooLarge "ssize_t")
        | none => throw (invalid "exponent must be an integer")
    let notDigits := invalid "coefficient must be a tuple of digits"
    let ds ← match digits with
      | .list xs | .tuple xs => xs.mapM fun d => match Value.intLike? d with
        | some i =>
          if !fitsWord i then throw (tooLarge "long")
          else if 0 ≤ i && i ≤ 9 then pure (Char.ofNat (0x30 + i.toNat))
          else throw notDigits
        | none => throw notDigits
      | _ => throw notDigits
    let signText := if negative then "-" else "+"
    let body := match special with
      | some "Inf" => "Inf"
      | some s => s ++ String.ofList ds
      | none => (if ds.isEmpty then "0" else String.ofList ds) ++ "E" ++ toString ((Value.intLike? exp).getD 0)
    decimalOfText (signText ++ body)
  | _ => .error (invalid "argument must be a sequence of length 3")

/-- 十進数にする値: 字面、整数（真偽は 0 と 1）、浮動小数（同じ値）、符号・係数・指数の三つ組。 -/
def decimalFrom (v : Value) : Except Fault Value :=
  match v with
  | .str t => decimalOfText t
  | .int _ | .bool _ | .float _ => .ok (.decimal ((Value.numeric? v).getD (.finite ⟨false, 0, 0⟩)))
  | .list xs | .tuple xs => decimalOfParts xs
  | v => .error (Fault.other "TypeError" ("conversion from " ++ v.typeName ++ " to Decimal is not supported"))

/-- 暦の表記が読めなかった誤り。 -/
def calendarFault (iso : String) : Calendar.ReadError → Fault
  | .malformed => Fault.other "ValueError" ("Invalid isoformat string: " ++ quoteText iso)
  | .outOfRange message => Fault.other "ValueError" message

/-- ISO 表記として渡した値の文字列。文字列でなければ失敗。 -/
def isoText (v : Value) : Except Fault String :=
  match v with
  | .str s => .ok s
  | _ => .error (Fault.other "TypeError" "fromisoformat: argument must be str")

/-- クラスを名前で引く。文字列でない名前は、辞書のキーにできればないキー、できなければその失敗。 -/
def classNamed (cat : Catalog) (name : Value) : Except Fault String :=
  match name with
  | .str s => if (cat.find? s).isSome then .ok s else .error (Fault.missingKey s)
  | v => do
    v.requireHashable
    throw (.foreign "KeyError" v.repr)

/-- 列の参照 `モデル.属性` を最初の `.` で分ける（`.` がなければ属性は空）。 -/
def splitRef (ref : String) : String × String :=
  match ref.splitOn "." with
  | [] => (ref, "")
  | [cls] => (cls, "")
  | cls :: rest => (cls, ".".intercalate rest)

/-- ISO 表記の日付を読む。 -/
def dateOfText (iso : String) : Except Fault Value :=
  match Calendar.readDate iso with
  | .ok d => .ok (.date d)
  | .error e => .error (calendarFault iso e)

/-- ISO 表記の日時を読む。 -/
def datetimeOfText (iso : String) : Except Fault Value :=
  match Calendar.readDateTime iso with
  | .ok (d, t, o) => .ok (.datetime d t o)
  | .error e => .error (calendarFault iso e)

/-- ISO 表記の時刻を読む。 -/
def timeOfText (iso : String) : Except Fault Value :=
  match Calendar.readTime iso with
  | .ok (t, o) => .ok (.time t o)
  | .error e => .error (calendarFault iso e)

/-- モデルのクラスの値なら、そのメタデータに置き換える。 -/
def metaOfTarget (cat : Catalog) (v : Value) : Value :=
  match v with
  | .model name =>
    match cat.metaOf name with
    | .ok m => .modelMeta m.tag
    | .error _ => v
  | _ => v

namespace Term

mutual
/-- 式を評価する。 -/
def eval (cat : Catalog) : Term → Except Fault Value
  | .lit v => .ok v
  | .fromHex h => bytesFrom h
  | .decimal v => decimalFrom v
  | .date iso => do dateOfText (← isoText iso)
  | .datetime iso => do datetimeOfText (← isoText iso)
  | .time iso => do timeOfText (← isoText iso)
  | .uuid v => uuidFrom v
  | .list xs => return .list (← evalList cat xs)
  | .tuple xs => return .tuple (← evalList cat xs)
  | .tupleOf x => return .tuple (← (← eval cat x).iterate)
  | .dict fs => return .dict ((← evalFields cat fs).foldl (fun acc kv => dictInsert acc kv.1 kv.2) [])
  | .map es => return .dict (← evalEntries cat [] es)
  | .dynamic sql ps => return .dynamic sql (← evalList cat ps)
  | .column ref =>
    match ref with
    | .str text => do
      let (cls, prop) := splitRef text
      let cls ← classNamed cat (.str cls)
      match cat.attr? cls prop with
      | some (.column c) => .ok (.column c)
      | some (.relation owner r) => .ok (.relationRef owner r.name r.kind.keyword)
      | _ => .error (Fault.other "AttributeError" ("type object " ++ quoteText cls ++
          " has no attribute " ++ quoteText prop))
    | v => .error (Fault.noAttribute v "partition")
  | .model name => return .model (← classNamed cat name)
  | .modelMeta name => return .modelMeta (← cat.metaOf (← classNamed cat name)).tag
  | .parentRef c => return .parentRef (← eval cat c)
  | .order c d n => return .order (← eval cat c) d n
  | .comparison c op v => return .comparison (← eval cat c) op (← eval cat v)
  | .between c lo hi => return .between (← eval cat c) (← eval cat lo) (← eval cat hi)
  | .tupleIn cs rs => do
    let cols ← eval cat cs
    tupleInOf cols (← eval cat rs)
  | .orGroups gs => do orGroupOf (← evalList cat gs)
  | .rawCondition sql ps => return .rawCondition sql (← evalList cat ps)
  | .inSubquery ps cs neg => do
    let pairsValue ← eval cat ps
    let condsValue ← eval cat cs
    let pairs ← (← pairsValue.iterate).mapM Value.toTuple
    return .inSubquery pairs (← condsValue.normalizeConditions) neg
  | .existsIn t cs neg => do
    let targetValue ← eval cat t
    let condsValue ← eval cat cs
    return .existsIn (metaOfTarget cat targetValue) (← condsValue.normalizeConditions) neg
  | .call c m args => do
    let target ← eval cat c
    let name ← match m with
      | .str s => pure s
      | v => throw (Fault.other "TypeError" ("attribute name must be string, not '" ++ v.typeName ++ "'"))
    let f ← methodOf target name
    f (← evalList cat args)
  | .condList ops => return .condList (← evalOps cat [] ops)
  | .listAdd args | .listAddIf args => return .tuple (← evalList cat args)
  | .extend c => eval cat c
  | .pkey k rs => do pkeyOf (.list (← evalList cat k)) (← evalList cat rs)
  | .updateColumn n r t g => .ok (.updateColumn n r t g)
  | .failed before f => do
    let _ ← evalList cat before
    throw f

/-- 並びの各式を評価する。 -/
def evalList (cat : Catalog) : List Term → Except Fault (List Value)
  | [] => .ok []
  | t :: ts => return (← eval cat t) :: (← evalList cat ts)

/-- 文字列のキーの欄を評価する。 -/
def evalFields (cat : Catalog) : List (String × Term) → Except Fault (List (Value × Value))
  | [] => .ok []
  | (k, t) :: rest => return (.str k, ← eval cat t) :: (← evalFields cat rest)

/-- キーも式の項目を順に評価して辞書に入れる。キーは辞書のキーにできなければならない。 -/
def evalEntries (cat : Catalog) (acc : List (Value × Value)) :
    List (Term × Term) → Except Fault (List (Value × Value))
  | [] => .ok acc
  | (k, t) :: rest => do
    let key ← eval cat k
    let v ← eval cat t
    key.requireHashable
    evalEntries cat (dictInsert acc key v) rest

/-- 条件の並びを組み立てる操作を順に当てる。 -/
def evalOps (cat : Catalog) (acc : List Value) : List Term → Except Fault (List Value)
  | [] => .ok acc
  | .listAdd args :: rest => do
    let vs ← evalList cat args
    addSignature.check vs.length
    evalOps cat (addCondition acc (vs.getD 0 .none) (vs.getD 1 .none)) rest
  | .listAddIf args :: rest => do
    let vs ← evalList cat args
    addIfSignature.check vs.length
    let acc := if (vs.getD 0 .none).truthy then addCondition acc (vs.getD 1 .none) (vs.getD 2 .none) else acc
    evalOps cat acc rest
  | .extend c :: rest => do
    let more ← (← eval cat c).normalizeConditions
    evalOps cat (acc ++ more) rest
  | t :: rest => do
    let _ ← eval cat t
    evalOps cat acc rest
end

end Term

end DataAccess
