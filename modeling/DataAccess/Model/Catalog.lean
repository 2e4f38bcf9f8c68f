import DataAccess.Model.Meta
import DataAccess.Term.Basic
import DataAccess.Unicode.Surrogate
/-!
# モデルの目録

宣言されたモデルのクラスと、標識ごとのメタデータの登録。

クラスは単一継承で、親を持たないクラスは共通の抽象基底の子。表を持たないクラスは抽象で、
その列の宣言は子のクラスに引き継がれる。表を持つクラスは宣言を列に変える。
属性の引き方は継承の順（自分、親、…）で、表を持つクラスでは列と関連、
抽象のクラスでは列の宣言が見える。
-/

namespace DataAccess

/-- 列の宣言。列名、主キーの印、型は渡されたままの値で持つ。 -/
structure ColumnDecl where
  property : String
  /-- 列名（偽なら属性名）。 -/
  column : Value := .none
  /-- 主キーか（真偽としての値）。 -/
  primaryKey : Value := .bool false
  /-- 列の型（偽なら宣言なし）。 -/
  sqlType : Value := .none
  converter : Option Converter := none
  deriving Inhabited

/-- 関連の種類。 -/
inductive RelationKind where
  /-- 相手の行のうち外部キーが一致するものすべて。 -/
  | hasMany
  /-- 同じ一致の最初の一行。 -/
  | hasOne
  /-- 自分のキーが指す相手の一行。 -/
  | belongsTo
  deriving BEq, DecidableEq, Repr, Inhabited

namespace RelationKind

/-- 宣言での綴り。 -/
def keyword : RelationKind → String
  | .hasMany => "has_many"
  | .hasOne => "has_one"
  | .belongsTo => "belongs_to"

/-- 解決した関連の型の名前。 -/
def className : RelationKind → String
  | .hasMany => "HasMany"
  | .hasOne => "HasOne"
  | .belongsTo => "BelongsTo"

/-- 綴りから種類を引く。 -/
def ofKeyword? (s : String) : Option RelationKind :=
  [RelationKind.hasMany, .hasOne, .belongsTo].find? (·.keyword == s)

end RelationKind

/-- 関連の宣言。相手・キー・整列・絞り込みは初めて使うときに評価する。 -/
structure RelationDecl where
  name : String
  kind : RelationKind
  /-- 相手のクラスの名前。 -/
  target : String
  keys : Term
  order : Term
  filter : Term
  /-- 上限の指定（なし、`False`、`True`、整数）。 -/
  hardLimit : Value
  deriving Inhabited

/-- 宣言されたクラス。 -/
structure ModelClass where
  name : String
  /-- 親のクラス（`none` なら共通の抽象基底）。 -/
  base : Option String
  /-- 自分で書いた列の宣言。 -/
  specs : List ColumnDecl
  /-- 表を持つクラスのメタデータ。 -/
  metadata : Option Meta
  /-- 自分で宣言した関連。 -/
  relations : List RelationDecl
  deriving Inhabited

/-- クラスの属性。 -/
inductive ClassAttr where
  | column (c : Column)
  /-- 抽象のクラスに残る列の宣言。 -/
  | spec (d : ColumnDecl)
  /-- 関連。`owner` は宣言したクラス。 -/
  | relation (owner : String) (r : RelationDecl)

/-- モデルの目録。 -/
structure Catalog where
  /-- 宣言の順のクラス。 -/
  classes : List ModelClass := []
  /-- 登録された標識と、その持ち主のクラスの完全な名前。 -/
  tags : List (String × String) := []
  /-- 標識ごとのメタデータ（後の登録が勝つ）。 -/
  metas : List Meta := []
  deriving Inhabited

namespace Catalog

/-- 名前でクラスを引く（同じ名前なら後の宣言）。 -/
def find? (cat : Catalog) (name : String) : Option ModelClass :=
  cat.classes.reverse.find? (·.name == name)

/-- 継承の順のクラスの並び（自分から親へ）。 -/
def lineage (cat : Catalog) (name : String) : List ModelClass :=
  go (cat.classes.length + 1) (some name)
where
  go : Nat → Option String → List ModelClass
    | 0, _ => []
    | _, none => []
    | fuel + 1, some n =>
      match cat.find? n with
      | some c => c :: go fuel c.base
      | none => []

/-- クラス `c` 自身の属性 `prop`。 -/
def ownAttr? (c : ModelClass) (prop : String) : Option ClassAttr :=
  match c.metadata with
  | some m =>
    match m.columns.find? (·.property == prop) with
    | some col => some (.column col)
    | none => (c.relations.find? (·.name == prop)).map (.relation c.name)
  | none =>
    match c.specs.reverse.find? (·.property == prop) with
    | some d => some (.spec d)
    | none => (c.relations.find? (·.name == prop)).map (.relation c.name)

/-- 継承の順に属性を引く。 -/
def attr? (cat : Catalog) (cls prop : String) : Option ClassAttr :=
  (cat.lineage cls).findSome? (ownAttr? · prop)

/-- 標識でメタデータを引く。 -/
def metaByTag? (cat : Catalog) (tag : String) : Option Meta :=
  cat.metas.reverse.find? (·.tag == tag)

/-- 標識でメタデータを引く。宣言のない標識は契約違反。 -/
def modelMeta (cat : Catalog) (tag : String) : Except Fault Meta :=
  match cat.metaByTag? tag with
  | some m => .ok m
  | none => .error (Fault.contract ("no model declared with tag " ++ quoteText tag) (some "model_tag")
      (some (.str tag)))

/-- クラスのメタデータ。抽象のクラスにはない。 -/
def metaOf (cat : Catalog) (cls : String) : Except Fault Meta :=
  match cat.find? cls with
  | some c =>
    match (cat.lineage cls).findSome? (·.metadata) with
    | some m => .ok m
    | none => .error (Fault.other "AttributeError" ("type object " ++ quoteText c.name ++
        " has no attribute '__meta__'"))
  | none => .error (Fault.missingKey cls)

/-- 登録された標識（整列済み）。 -/
def registeredTags (cat : Catalog) : List String :=
  (cat.tags.map (·.1)).mergeSort Unicode.textLE

end Catalog

end DataAccess
