import DataAccess.Wire.Spec
import DataAccess.Wire.Encode
import DataAccess.Term.Eval
import DataAccess.Builder.Options
/-!
# 要求の共通部分

JSON の要求は欄の並び。モデルを使う要求は、そのたびに宣言から目録を作り直す。
欄の値は式として読み、その目録で評価する。選択肢の欄は名前ごとに選択肢の構造へ当てる。
-/

namespace DataAccess

namespace Request

/-- 要求の欄。 -/
abbrev Fields := List (String × Doc)

/-- 要求のモデルから目録を作る。 -/
def catalogFor (defaults : List ModelSpec) (fs : Fields) : Except Fault Catalog := do
  Catalog.declareAll (← Wire.modelSpecs defaults fs)

/-- 欄を値として評価する（なければ `None`）。 -/
def value (cat : Catalog) (fs : Fields) (key : String) : Except Fault Value := do
  (Wire.termField fs key).eval cat

/-- 欄を値として評価する（なければその名前の `KeyError`）。 -/
def needValue (cat : Catalog) (fs : Fields) (key : String) : Except Fault Value := do
  (Wire.termOf (← Wire.need fs key)).eval cat

/-- 欄を条件の並びとして評価する（なければ `None`）。 -/
def conditions (cat : Catalog) (fs : Fields) (key : String) : Except Fault Value := do
  (Wire.conditionsField fs key).eval cat

/-- 欄の要素（なければ空）。文字列は一文字ずつ、オブジェクトはキー。 -/
def fieldItems (fs : Fields) (key : String) : Except Fault (List Doc) :=
  match (Doc.obj fs).field? key with
  | some d => Wire.docItems d
  | none => .ok []

/-- 欄の各要素を値として評価する。 -/
def values (cat : Catalog) (fs : Fields) (key : String) : Except Fault (List Value) := do
  (← fieldItems fs key).mapM fun d => do (Wire.termOf d).eval cat

/-- 欄の各要素を条件の並びとして評価する。 -/
def conditionLists (cat : Catalog) (fs : Fields) (key : String) : Except Fault (List Value) := do
  (← fieldItems fs key).mapM fun d => do (Wire.conditionsOf d).eval cat

/-- 選択肢の欄: 名前ごとに値を評価した並び（なければ空）。 -/
def optionFields (cat : Catalog) (fs : Fields) (key : String) : Except Fault (List (String × Value)) := do
  match (Doc.obj fs).field? key with
  | some (.obj os) => os.mapM fun (k, d) => return (k, ← (Wire.termOf d).eval cat)
  | _ => return []

/-- 検索の選択肢。 -/
def findOptions (cat : Catalog) (fs : Fields) (key : String := "options") : Except Fault FindOptions := do
  FindOptions.ofFields (← optionFields cat fs key)

/-- 挿入の選択肢。 -/
def insertOptions (cat : Catalog) (fs : Fields) (key : String := "options") : Except Fault InsertOptions := do
  InsertOptions.ofFields (← optionFields cat fs key)

/-- 書き込みの選択肢。 -/
def writeOptions (cat : Catalog) (fs : Fields) (key : String := "options") : Except Fault WriteOptions := do
  WriteOptions.ofFields (← optionFields cat fs key)

/-- 要求の方言（なければ SQLite）。名前は文字列で、ほかの値は方言の列挙の値として読もうとして
属性 `value` がない失敗になる。 -/
def dialectField (fs : Fields) : Except Fault Dialect :=
  match (Doc.obj fs).field? "dialect" with
  | none => Dialect.ofName "sqlite"
  | some (.str s) => Dialect.ofName s
  | some d => .error (Fault.noAttribute (Wire.plain d) "value")

/-- 真偽として読む欄（値の真偽、なければ `default`）。 -/
def flagOr (fs : Fields) (key : String) (default : Bool) : Bool :=
  match (Doc.obj fs).field? key with
  | some d => (Wire.plain d).truthy
  | none => default

end Request

end DataAccess
