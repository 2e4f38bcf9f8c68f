import DataAccess.Value.Arith
/-!
# 並びとしての値

値を要素の並びとして扱う操作: 要素を順に取り出す、文字列を繋ぐ、添字で引く、長さを測る、
辞書のキーにできるかを確かめる、辞書の項目を置く。

* 取り出せるのは並び・組・辞書（キー）・文字列（一文字ずつ）・バイト列（各バイトの整数）と、
  組み立て途中の条件の並び、主キーの結果（行）。
* 繋げるのは文字列の要素だけ。そうでない要素はその番号と型を言う失敗。
* 並びと辞書、それらを含む組は辞書のキーにできない。
-/

namespace DataAccess

namespace Value

/-- 要素を順に取り出す。並び・組はその要素、辞書はキー、文字列は一文字ずつ、
バイト列は各バイトの整数、組み立て途中の並びは要素、主キーの結果は行。 -/
def iterate : Value → Except Fault (List Value)
  | .list xs | .tuple xs | .condList xs => .ok xs
  | .dict kvs => .ok (kvs.map (·.1))
  | .str s => .ok (s.toList.map fun c => .str c.toString)
  | .bytes bs => .ok (bs.map fun b => .int b.toNat)
  | .pkey _ rows => .ok rows
  | v => .error (Fault.other "TypeError" ("'" ++ v.typeName ++ "' object is not iterable"))

/-- 文字列の要素を `sep` で繋ぐ。 -/
def joinItems (sep : String) (items : List Value) : Except Fault String := do
  let texts ← items.zipIdx.mapM fun (v, i) => match v with
    | .str s => pure s
    | v => throw (Fault.other "TypeError" ("sequence item " ++ toString i ++ ": expected str instance, " ++
        v.typeName ++ " found"))
  return sep.intercalate texts

/-- 値の要素を `sep` で繋ぐ。要素を取り出せない値は繋げない。 -/
def join (sep : String) (v : Value) : Except Fault String :=
  match v.iterate with
  | .ok items => joinItems sep items
  | .error _ => .error (Fault.other "TypeError" "can only join an iterable")

/-- 辞書のキーにできない型の失敗。 -/
def unhashable (typeName : String) : Except Fault Unit :=
  .error (Fault.other "TypeError" ("unhashable type: '" ++ typeName ++ "'"))

mutual
/-- 辞書のキーにできるかを確かめる。並び・辞書・条件の並び・実行結果はできない。
組と、欄を変えられないデータクラス（述語、断片、整列の指定、主キーの結果）は欄を順に確かめる。
信号を出す十進の非数もキーにできない。 -/
def requireHashable : Value → Except Fault Unit
  | .list _ => unhashable "list"
  | .dict _ => unhashable "dict"
  | .condList _ => unhashable "ConditionList"
  | .result .. => unhashable "QueryResult"
  | .decimal d =>
    if isSignalingNaN d then .error (Fault.other "TypeError" "Cannot hash a signaling NaN value") else .ok ()
  | .tuple xs | .orGroup xs => requireHashableList xs
  | .raw a | .parentRef a | .order a _ _ => requireHashable a
  | .dynamic s ps | .rawCondition s ps => do requireHashable s; requireHashableList ps
  | .comparison a o x => do requireHashable a; requireHashable o; requireHashable x
  | .between a l h => do requireHashable a; requireHashable l; requireHashable h
  | .tupleIn cols rows | .pkey cols rows => do requireHashableList cols; requireHashableList rows
  | .inSubquery pairs conds _ => do requireHashableList pairs; requireHashableList conds
  | .existsIn t conds _ => do requireHashable t; requireHashableList conds
  | _ => .ok ()

/-- 組の要素がどれも辞書のキーにできるかを確かめる。 -/
def requireHashableList : List Value → Except Fault Unit
  | [] => .ok ()
  | x :: xs => do requireHashable x; requireHashableList xs
end

/-- 辞書の項目を置く。等しいキーがあればその値を替え、なければ末尾に足す。 -/
def dictSet (entries : List (Value × Value)) (k v : Value) : List (Value × Value) :=
  if entries.any (fun e => equal e.1 k) then entries.map fun e => if equal e.1 k then (e.1, v) else e
  else entries ++ [(k, v)]

/-- 並びの `i` 番目（負の番号は後ろから）。 -/
def nth? {α : Type} (xs : List α) (i : Int) : Option α :=
  let j := if i < 0 then i + xs.length else i
  if j < 0 then Option.none else xs[j.toNat]?

/-- 添字で引く `v[key]`。辞書はキーで、並び・組・文字列・バイト列は整数の番号で引く。 -/
def getItem (v key : Value) : Except Fault Value :=
  let typeError := fun (m : String) => Except.error (Fault.other "TypeError" m)
  let outOfRange := fun (m : String) => Except.error (Fault.other "IndexError" m)
  match v with
  | .dict kvs => do
    key.requireHashable
    match lookup key kvs with
    | some x => pure x
    | Option.none => throw (.foreign "KeyError" key.repr)
  | .list xs =>
    match intLike? key with
    | some i => (nth? xs i).elim (outOfRange "list index out of range") .ok
    | Option.none => typeError ("list indices must be integers or slices, not " ++ key.typeName)
  | .tuple xs =>
    match intLike? key with
    | some i => (nth? xs i).elim (outOfRange "tuple index out of range") .ok
    | Option.none => typeError ("tuple indices must be integers or slices, not " ++ key.typeName)
  | .str s =>
    match intLike? key with
    | some i => (nth? s.toList i).elim (outOfRange "string index out of range") fun c => .ok (.str c.toString)
    | Option.none => typeError ("string indices must be integers, not '" ++ key.typeName ++ "'")
  | .bytes bs =>
    match intLike? key with
    | some i => (nth? bs i).elim (outOfRange "index out of range") fun b => .ok (.int b.toNat)
    | Option.none => typeError ("byte indices must be integers or slices, not " ++ key.typeName)
  | v => typeError ("'" ++ v.typeName ++ "' object is not subscriptable")

/-- 長さ `len(v)`。並び・組・辞書・文字列・バイト列、組み立て途中の並び、主キーの結果が持つ。 -/
def size (v : Value) : Except Fault Nat :=
  match v with
  | .list xs | .tuple xs | .condList xs => .ok xs.length
  | .dict kvs => .ok kvs.length
  | .str s => .ok s.length
  | .bytes bs => .ok bs.length
  | .pkey _ rows => .ok rows.length
  | v => .error (Fault.other "TypeError" ("object of type '" ++ v.typeName ++ "' has no len()"))

/-- 0 番目の要素 `v[0]`。 -/
def first (v : Value) : Except Fault Value := getItem v (.int 0)

end Value

end DataAccess
