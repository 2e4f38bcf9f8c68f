import DataAccess.Model.Declare
import DataAccess.Model.Record
import DataAccess.Proofs.Plain
import DataAccess.Proofs.Placeholders
/-!
# 継承した列

表を持つクラスの列は、継承の順の祖先のうち抽象のものの列の宣言を遠い祖先から並べ、自分の宣言を
最後に足した並び（`Catalog.collectedDecls`）から作る。`mergeSpecs` は名前で上書きしながら集めるので、
属性名ごとに列はちょうど一つで、その中身はいちばん後の宣言、つまりクラスにいちばん近い宣言
（`mergeSpecs_find?`）。表を持つ祖先の宣言はその祖先の列に変わっているので、ここには集まらない。

宣言したクラスの属性はその列そのもので、行から作るレコードは列の名前のキーを属性の値に入れ、
知らない列には入れない（`table_class_columns`）。
-/

namespace DataAccess

/-! ## 名前で上書きする -/

/-- 属性名 `p` のいちばん後の宣言。 -/
def lastDecl (ds : List ColumnDecl) (p : String) : Option ColumnDecl :=
  ds.reverse.find? (·.property == p)

theorem lastDecl_cons (d : ColumnDecl) (ds : List ColumnDecl) (p : String) :
    lastDecl (d :: ds) p = (lastDecl ds p).or (if d.property = p then some d else none) := by
  simp only [lastDecl, List.reverse_cons, List.find?_append, List.find?_singleton, beq_iff_eq]

theorem property_of_lastDecl {ds : List ColumnDecl} {p : String} {d : ColumnDecl}
    (h : lastDecl ds p = some d) : d.property = p := by
  simpa using List.find?_some h

theorem mergeSpecs_cons (acc : List ColumnDecl) (d : ColumnDecl) (more : List ColumnDecl) :
    mergeSpecs acc (d :: more) = mergeSpecs (mergeSpecs acc [d]) more := rfl

theorem mergeSpecs_append (acc xs ys : List ColumnDecl) :
    mergeSpecs acc (xs ++ ys) = mergeSpecs (mergeSpecs acc xs) ys := by
  simp only [mergeSpecs, List.foldl_append]

/-- 一つの宣言を足す段: 同じ名前があればその場で置き換え、なければ末尾に足す。 -/
theorem mergeSpecs_single (acc : List ColumnDecl) (d : ColumnDecl) :
    mergeSpecs acc [d] = if acc.any (·.property == d.property) then
      acc.map fun e => if e.property == d.property then d else e
    else acc ++ [d] := rfl

theorem properties_override (acc : List ColumnDecl) (d : ColumnDecl) :
    (acc.map fun e => if e.property == d.property then d else e).map (·.property) = acc.map (·.property) := by
  simp only [List.map_map]
  refine List.map_congr_left fun e _ => ?_
  by_cases he : e.property = d.property <;> simp [he]

theorem mergeSpecs_single_nodup {acc : List ColumnDecl} (h : (acc.map (·.property)).Nodup) (d : ColumnDecl) :
    ((mergeSpecs acc [d]).map (·.property)).Nodup := by
  rw [mergeSpecs_single]
  split
  · rwa [properties_override]
  · next hnew =>
    have hd : ∀ e ∈ acc, e.property ≠ d.property := fun e he hed =>
      hnew (List.any_eq_true.2 ⟨e, he, by simp [hed]⟩)
    simpa [List.nodup_append] using And.intro h hd

theorem mergeSpecs_single_find? (acc : List ColumnDecl) (d : ColumnDecl) (p : String) :
    (mergeSpecs acc [d]).find? (·.property == p) =
      if d.property = p then some d else acc.find? (·.property == p) := by
  rw [mergeSpecs_single]
  split
  · next hold =>
    -- 置き換えは属性名を変えないので、探すのは置き換える前の並びで足りる
    rw [List.find?_map]
    have hsame : ((·.property == p) ∘ fun e : ColumnDecl => if e.property == d.property then d else e) =
        (·.property == p) := by
      funext e
      by_cases he : e.property = d.property <;> simp [he]
    rw [hsame]
    split
    · next hp =>
      have hex : ∃ e ∈ acc, e.property = p := by
        obtain ⟨e, he, hed⟩ := List.any_eq_true.1 hold
        exact ⟨e, he, by simpa [hp] using hed⟩
      obtain ⟨e, he⟩ : ∃ e, acc.find? (·.property == p) = some e :=
        Option.isSome_iff_exists.1 (List.find?_isSome.2 (by simpa using hex))
      have hep : e.property = p := by simpa using List.find?_some he
      simp [he, hep, hp]
    · next hp =>
      cases hfind : acc.find? (·.property == p) with
      | none => rfl
      | some e =>
        have he : e.property = p := by simpa using List.find?_some hfind
        simp [he, Ne.symm hp]
  · next hnew =>
    rw [List.find?_append, List.find?_singleton]
    by_cases hp : d.property = p
    · have hnone : acc.find? (·.property == p) = none := by
        rw [List.find?_eq_none]
        intro e he hep
        exact hnew (List.any_eq_true.2 ⟨e, he, by simpa [hp] using hep⟩)
      simp [hnone, hp]
    · simp [hp]

/-- 上書きしながら集めた並びでは、属性名 `p` の宣言は `more` のいちばん後のもの、`more` になければ
`acc` のもの。 -/
theorem mergeSpecs_find? (p : String) :
    ∀ (acc more : List ColumnDecl),
      (mergeSpecs acc more).find? (·.property == p) = (lastDecl more p).or (acc.find? (·.property == p))
  | acc, [] => by simp [mergeSpecs, lastDecl]
  | acc, d :: more => by
    rw [mergeSpecs_cons, mergeSpecs_find? p _ more, mergeSpecs_single_find?, lastDecl_cons, Option.or_assoc]
    by_cases hp : d.property = p <;> simp [hp]

theorem mergeSpecs_nodup :
    ∀ {acc : List ColumnDecl} (more : List ColumnDecl), (acc.map (·.property)).Nodup →
      ((mergeSpecs acc more).map (·.property)).Nodup
  | _, [], h => h
  | _, d :: more, h => by
    rw [mergeSpecs_cons]
    exact mergeSpecs_nodup more (mergeSpecs_single_nodup h d)

/-! ## 抽象の祖先から集める宣言 -/

namespace Catalog

/-- 宣言するクラスが列の宣言を受け継ぐ祖先: 継承の順の祖先のうち抽象のもの（遠い祖先から）。 -/
def abstractAncestors (cat : Catalog) (spec : ModelSpec) : List ModelClass :=
  ((spec.base.map cat.lineage).getD []).reverse.filter (·.metadata.isNone)

/-- 表を持つクラスの列になる宣言の並び: 抽象の祖先の宣言を遠い祖先から、最後に自分の宣言。 -/
def collectedDecls (cat : Catalog) (spec : ModelSpec) : List ColumnDecl :=
  (cat.abstractAncestors spec).flatMap (·.specs) ++ spec.columns

theorem foldl_mergeSpecs :
    ∀ (cs : List ModelClass) (acc : List ColumnDecl),
      cs.foldl (fun acc c => mergeSpecs acc c.specs) acc = mergeSpecs acc (cs.flatMap (·.specs))
  | [], _ => rfl
  | c :: cs, acc => by
    rw [List.foldl_cons, foldl_mergeSpecs cs, List.flatMap_cons, mergeSpecs_append]

/-! ## 宣言の結果 -/

/-- 表を持つクラスの宣言が通れば、目録の最後のクラスはそのクラスで、そのメタデータの列は集めた宣言を
上書きしながら並べて表と標識に結んだもの。列名は重ならない。 -/
theorem declare_table_ok {cat cat' : Catalog} {spec : ModelSpec} {table : String}
    (ht : spec.table = some table) (h : cat.declare spec = .ok cat') :
    ∃ c m, cat'.classes = cat.classes ++ [c] ∧ c.name = spec.name ∧ c.metadata = some m ∧ m.table = table ∧
      m.columns = (mergeSpecs [] (cat.collectedDecls spec)).map (·.bind table m.tag) ∧
      checkDistinct m.tag m.columns [] = .ok () := by
  unfold Catalog.declare at h
  obtain ⟨rels, -, h⟩ := Except.bind_eq_ok.1 h
  simp -zeta only [ht] at h
  extract_lets abstractClass owner tag tags parents ancestors decls columns draft provisional jp at h
  -- 標識の確かめを抜ければ、どちらの枝も同じ続き `jp` に入る
  have hrun : jp () = .ok cat' := by
    split at h
    · split at h
      · obtain ⟨_, he, _⟩ := Except.bind_eq_ok.1 h
        cases he
      · exact h
    · exact h
  simp only [jp] at hrun
  obtain ⟨queryParams, -, hrun⟩ := Except.bind_eq_ok.1 hrun
  obtain ⟨filterValue, -, hrun⟩ := Except.bind_eq_ok.1 hrun
  obtain ⟨orderValue, -, hrun⟩ := Except.bind_eq_ok.1 hrun
  obtain ⟨groupValue, -, hrun⟩ := Except.bind_eq_ok.1 hrun
  obtain ⟨⟨⟩, hdistinct, hrun⟩ := Except.bind_eq_ok.1 hrun
  obtain ⟨filter, -, hrun⟩ := Except.bind_eq_ok.1 hrun
  obtain ⟨order, -, hrun⟩ := Except.bind_eq_ok.1 hrun
  obtain ⟨group, -, hrun⟩ := Except.bind_eq_ok.1 hrun
  cases hrun
  have hancestors : ancestors = cat.abstractAncestors spec := by
    simp only [ancestors, parents, abstractAncestors]
    cases spec.base <;> rfl
  have hdecls : decls = mergeSpecs [] (cat.collectedDecls spec) := by
    simp only [decls, hancestors, foldl_mergeSpecs, collectedDecls, mergeSpecs_append]
  exact ⟨_, _, rfl, rfl, rfl, rfl, by simp only [hdecls, columns, draft], hdistinct⟩

/-! ## 最後に宣言したクラスを引く -/

theorem find?_last {cat cat' : Catalog} {c : ModelClass} (h : cat'.classes = cat.classes ++ [c]) :
    cat'.find? c.name = some c := by
  simp [Catalog.find?, h]

theorem lineage_of_find? {cat : Catalog} {n : String} {c : ModelClass} (h : cat.find? n = some c) :
    cat.lineage n = c :: lineage.go cat cat.classes.length c.base := by
  simp only [lineage, lineage.go, h]

theorem metaOf_of_find? {cat : Catalog} {n : String} {c : ModelClass} {m : Meta} (h : cat.find? n = some c)
    (hm : c.metadata = some m) : cat.metaOf n = .ok m := by
  simp only [metaOf, h, lineage_of_find? h, List.findSome?_cons, hm]

theorem attr?_own_column {cat : Catalog} {n p : String} {c : ModelClass} {m : Meta} {col : Column}
    (h : cat.find? n = some c) (hm : c.metadata = some m) (hcol : m.columns.find? (·.property == p) = some col) :
    cat.attr? n p = some (.column col) := by
  simp only [attr?, lineage_of_find? h, List.findSome?_cons, ownAttr?, hm, hcol]

end Catalog

/-! ## 行から作るレコード -/

/-- 行のキーが名指す列: 行から作るレコードと同じく、文字列のキーを列名で引く。 -/
def Meta.rowColumn? (m : Meta) : Value → Option Column
  | .str key => m.columns.find? (·.name == key)
  | _ => none

theorem Fault.mem_keys_setEntry {entries : List (String × Value)} {k p : String} {v : Value} :
    p ∈ (Fault.setEntry entries k v).map Prod.fst ↔ p ∈ entries.map Prod.fst ∨ p = k := by
  unfold Fault.setEntry
  split
  · next hk =>
    have hkeys : (entries.map fun kv => if kv.1 == k then (k, v) else kv).map Prod.fst = entries.map Prod.fst := by
      simp only [List.map_map]
      refine List.map_congr_left fun kv _ => ?_
      by_cases h : kv.1 = k <;> simp [h]
    rw [hkeys]
    obtain ⟨kv, hkv, hk⟩ := List.any_eq_true.1 hk
    refine ⟨.inl, ?_⟩
    rintro (h | rfl)
    · exact h
    · exact List.mem_map.2 ⟨kv, hkv, by simpa using hk⟩
  · simp

theorem Value.keys_dictSet {entries : List (Value × Value)} {k v e : Value}
    (h : e ∈ (Value.dictSet entries k v).map Prod.fst) : e ∈ entries.map Prod.fst ∨ e = k := by
  unfold Value.dictSet at h
  split at h
  · left
    obtain ⟨x, hx, rfl⟩ := List.mem_map.1 h
    obtain ⟨y, hy, hxy⟩ := List.mem_map.1 hx
    refine List.mem_map.2 ⟨y, hy, ?_⟩
    rw [← hxy]
    split <;> rfl
  · simpa using h

/-- 行を読む畳み込み: どの段も属性の値の名前を残し、読んだキーが列を名指せばその属性名を値に足し、
知らない列には列を名指さないキーだけを足すなら、畳み込み全体でも同じ。 -/
theorem foldlM_rowKeys {m : Meta}
    {g : List (String × Value) × List (Value × Value) → Value × Value →
      Except Fault (List (String × Value) × List (Value × Value))}
    (hg : ∀ acc kv acc', g acc kv = .ok acc' →
      (∀ p ∈ acc.1.map Prod.fst, p ∈ acc'.1.map Prod.fst) ∧
      (∀ col, m.rowColumn? kv.1 = some col → col.property ∈ acc'.1.map Prod.fst) ∧
      (∀ k ∈ acc'.2.map Prod.fst, k ∈ acc.2.map Prod.fst ∨ m.rowColumn? k = none)) :
    ∀ {row : List (Value × Value)} {acc r}, row.foldlM g acc = .ok r →
      (∀ p ∈ acc.1.map Prod.fst, p ∈ r.1.map Prod.fst) ∧
      (∀ kv ∈ row, ∀ col, m.rowColumn? kv.1 = some col → col.property ∈ r.1.map Prod.fst) ∧
      (∀ k ∈ r.2.map Prod.fst, k ∈ acc.2.map Prod.fst ∨ m.rowColumn? k = none)
  | [], _, _, h => by
    cases h
    exact ⟨fun _ hp => hp, by simp, fun _ hk => .inl hk⟩
  | kv :: row, acc, r, h => by
    rw [List.foldlM_cons] at h
    obtain ⟨b, hb, hrest⟩ := Except.bind_eq_ok.1 h
    obtain ⟨hkeep, hcol, hextra⟩ := hg acc kv b hb
    obtain ⟨hkeep', hcol', hextra'⟩ := foldlM_rowKeys hg hrest
    refine ⟨fun p hp => hkeep' p (hkeep p hp), ?_, ?_⟩
    · intro kv' hkv' col hc
      rcases List.mem_cons.1 hkv' with rfl | hkv'
      · exact hkeep' _ (hcol col hc)
      · exact hcol' kv' hkv' col hc
    · intro k hk
      rcases hextra' k hk with hk | hk
      · exact hextra k hk
      · exact .inr hk

/-- 行から作ったレコードでは、列を名指すキーの属性名はどれも値にあり、知らない列のキーはどれも列を
名指さない。 -/
theorem recordOfRow_keys {cat : Catalog} {cls : String} {id : Nat} {row : List (Value × Value)} {r : Value}
    {m : Meta} (hm : cat.metaOf cls = .ok m) (h : cat.recordOfRow cls id row = .ok r) :
    ∃ values extra, r = .record id cls values extra ∧
      (∀ kv ∈ row, ∀ col, m.rowColumn? kv.1 = some col → col.property ∈ values.map Prod.fst) ∧
      ∀ k ∈ extra.map Prod.fst, m.rowColumn? k = none := by
  unfold Catalog.recordOfRow at h
  obtain ⟨m', hm', h⟩ := Except.bind_eq_ok.1 h
  rw [hm] at hm'
  cases hm'
  obtain ⟨⟨values, extra⟩, hfold, h⟩ := Except.bind_eq_ok.1 h
  cases h
  refine ⟨values, extra, rfl, ?_⟩
  have hrow := foldlM_rowKeys (m := m) (fun acc kv acc' hstep => ?_) hfold
  · exact ⟨hrow.2.1, fun k hk => (hrow.2.2 k hk).resolve_left (by simp)⟩
  obtain ⟨values, extra⟩ := acc
  obtain ⟨k, v⟩ := kv
  dsimp only at hstep
  -- キーが列を名指さなければ知らない列に、名指せば（変換を掛けた値で）その属性名に入る
  split at hstep
  · next hc =>
    have hnone : m.rowColumn? k = none := hc
    cases hstep
    refine ⟨fun _ hp => hp, fun col hcol => ?_, fun k' hk' => ?_⟩
    · rw [hnone] at hcol
      cases hcol
    · rcases Value.keys_dictSet hk' with hk' | rfl
      · exact .inl hk'
      · exact .inr hnone
  · next col hc =>
    have hsome : m.rowColumn? k = some col := hc
    obtain ⟨v', rfl⟩ : ∃ v', acc' = (Fault.setEntry values col.property v', extra) := by
      split at hstep
      all_goals
        obtain ⟨v', -, hv⟩ := Except.bind_eq_ok.1 hstep
        cases hv
        exact ⟨v', rfl⟩
    refine ⟨fun _ hp => Fault.mem_keys_setEntry.2 (.inl hp), fun col' hcol => ?_, fun _ hk' => .inl hk'⟩
    rw [hsome] at hcol
    cases hcol
    exact Fault.mem_keys_setEntry.2 (.inr rfl)

/-! ## 列名は重ならない -/

theorem checkDistinct_ok {tag : String} :
    ∀ {cols : List Column} {seen : List String}, checkDistinct tag cols seen = .ok () →
      (cols.map (·.name)).Nodup ∧ ∀ c ∈ cols, c.name ∉ seen
  | [], _, _ => ⟨List.nodup_nil, by simp⟩
  | c :: rest, seen, h => by
    unfold checkDistinct at h
    split at h
    · cases h
    · next hnew =>
      obtain ⟨hnodup, hfresh⟩ := checkDistinct_ok h
      refine ⟨List.nodup_cons.2 ⟨fun hmem => ?_, hnodup⟩, fun c' hc' => ?_⟩
      · obtain ⟨c', hc', hname⟩ := List.mem_map.1 hmem
        exact hfresh c' hc' (by simp [hname])
      · rcases List.mem_cons.1 hc' with rfl | hc'
        · simpa using hnew
        · exact fun hs => hfresh c' hc' (List.mem_cons_of_mem _ hs)

theorem find?_name_of_mem :
    ∀ {cols : List Column} {col : Column}, (cols.map (·.name)).Nodup → col ∈ cols →
      cols.find? (·.name == col.name) = some col
  | [], _, _, h => by cases h
  | c :: rest, col, hnodup, hmem => by
    rw [List.map_cons, List.nodup_cons] at hnodup
    rcases List.mem_cons.1 hmem with rfl | hmem
    · simp
    · have hne : c.name ≠ col.name := fun he => hnodup.1 (List.mem_map.2 ⟨col, hmem, he.symm⟩)
      rw [List.find?_cons_of_neg (by simpa using hne)]
      exact find?_name_of_mem hnodup.2 hmem

/-! ## 表を持つクラスの列 -/

/-- 表を持つクラスを宣言した目録では、そのクラスのメタデータの列は集めた宣言の属性名ごとにちょうど一つで、
中身はいちばん近い宣言をクラスの表と標識に結んだもの。クラスの属性はその列そのもので、行から作る
レコードはその列の名前のキーを属性の値に入れ、知らない列には入れない。 -/
theorem table_class_columns (cat : Catalog) (spec : ModelSpec) (table : String) (cat' : Catalog)
    (ht : spec.table = some table) (h : cat.declare spec = .ok cat') :
    ∃ m, cat'.metaOf spec.name = .ok m ∧ m.table = table ∧ (m.columns.map (·.property)).Nodup ∧
      (∀ p, m.columns.find? (·.property == p) =
        (lastDecl (cat.collectedDecls spec) p).map (·.bind table m.tag)) ∧
      ∀ p d, lastDecl (cat.collectedDecls spec) p = some d →
        cat'.attr? spec.name p = some (.column (d.bind table m.tag)) ∧
        ∀ id row r, cat'.recordOfRow spec.name id row = .ok r → .str (d.bind table m.tag).name ∈ row.map Prod.fst →
          ∃ values extra, r = .record id spec.name values extra ∧ p ∈ values.map Prod.fst ∧
            .str (d.bind table m.tag).name ∉ extra.map Prod.fst := by
  obtain ⟨c, m, hcls, hname, hmeta, htable, hcols, hdistinct⟩ := Catalog.declare_table_ok ht h
  have hfind : cat'.find? spec.name = some c := by
    rw [← hname]
    exact Catalog.find?_last hcls
  have hmetaOf := Catalog.metaOf_of_find? hfind hmeta
  -- 列に結んでも属性名は変わらないので、列を属性名で引くのは宣言を属性名で引くのと同じ
  have hcolumn : ∀ p, m.columns.find? (·.property == p) =
      (lastDecl (cat.collectedDecls spec) p).map (·.bind table m.tag) := by
    intro p
    have hq : ((·.property == p) ∘ fun d : ColumnDecl => d.bind table m.tag) = (·.property == p) := rfl
    rw [hcols, List.find?_map, hq, mergeSpecs_find?, List.find?_nil, Option.or_none]
  have hnodup : (m.columns.map (·.property)).Nodup := by
    rw [hcols, List.map_map]
    exact mergeSpecs_nodup _ List.nodup_nil
  refine ⟨m, hmetaOf, htable, hnodup, hcolumn, fun p d hd => ?_⟩
  have hown : m.columns.find? (·.property == p) = some (d.bind table m.tag) := by
    rw [hcolumn, hd]
    rfl
  refine ⟨Catalog.attr?_own_column hfind hmeta hown, fun id row r hr hkey => ?_⟩
  obtain ⟨values, extra, rfl, hvalues, hextra⟩ := recordOfRow_keys hmetaOf hr
  -- 列名は重ならないので、その列の名前のキーはその列を名指す
  have hrow : m.rowColumn? (.str (d.bind table m.tag).name) = some (d.bind table m.tag) :=
    find?_name_of_mem (checkDistinct_ok hdistinct).1 (List.mem_of_find?_eq_some hown)
  obtain ⟨kv, hkv, hk⟩ := List.mem_map.1 hkey
  refine ⟨values, extra, rfl, ?_, fun hx => ?_⟩
  · rw [← property_of_lastDecl hd]
    exact hvalues kv hkv _ (by rw [hk]; exact hrow)
  · rw [hextra _ hx] at hrow
    cases hrow

/-- 表 `parents` を持つクラス `Parent`（主キー `id` と `title`）。 -/
def parentModel : ModelSpec :=
  { name := "Parent", table := some "parents", tag := some "Parent",
    columns := [{ property := "id", primaryKey := .bool true }, { property := "title" }] }

/-- `Parent` を親に、表 `children` を持つクラス `Child`（`extra`）。 -/
def childModel : ModelSpec :=
  { name := "Child", base := some "Parent", table := some "children", tag := some "Child",
    columns := [{ property := "extra" }] }

/-- 表を持つ親の子: 親の宣言は親の列に変わっているので集まらず、子のメタデータの列は `extra` だけ。 -/
theorem child_of_table_parent :
    ∃ cat cat', Catalog.declare {} parentModel = .ok cat ∧ cat.declare childModel = .ok cat' ∧
      ((cat'.metaOf "Child").toOption.map fun m => m.columns.map (·.name)) = some ["extra"] ∧
      ∃ m, cat'.metaOf "Child" = .ok m ∧ m.table = "children" ∧
        ∀ p, m.columns.find? (·.property == p) =
          (lastDecl (cat.collectedDecls childModel) p).map (·.bind "children" m.tag) := by
  have hparent : ((Catalog.declare {} parentModel).toOption.map fun _ => ()) = some () := by
    decide +kernel
  obtain ⟨cat, hcat, -⟩ := Except.exists_of_toOption_map hparent
  have hchild : ((Catalog.declare {} parentModel >>= fun cat => cat.declare childModel).toOption.map
      fun cat' => (cat'.metaOf "Child").toOption.map fun m => m.columns.map (·.name)) = some (some ["extra"]) := by
    decide +kernel
  rw [hcat] at hchild
  obtain ⟨cat', hcat', hnames⟩ := Except.exists_of_toOption_map hchild
  obtain ⟨m, hm, htable, -, hcolumn, -⟩ := table_class_columns cat childModel "children" cat' rfl hcat'
  exact ⟨cat, cat', hcat, hcat', hnames, m, hm, htable, hcolumn⟩

end DataAccess
