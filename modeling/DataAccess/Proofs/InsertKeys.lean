import DataAccess.Proofs.HardLimits
/-!
# 挿入した行のキー

`RETURNING` のない方言では、挿入した行のキーを次のように答える（`reportedKeys`）。

* どの行も主キーのすべての列に普通の値を与えれば、与えた値。
* そうでなく、主キーが一列で、ドライバが最初の自動の番号 `first` を返せば、`first` から行の数だけ
  続けた番号。
* ほかは `None`。

データベースが、キーを与えない行に `first` から入力の順に続けて番号を振るなら、挿入した行のキーは
`assignedKeys`。どの行もキーを与えるか、どの行も与えないなら、答えはこのキーに一致する。キーを与える
行と与えない行が混ざると、答えはキーを与えた行にも番号を振る。
-/

namespace DataAccess

namespace Session

open Run

/-- 状態を読みも変えもしない計算: どの状態から走らせても同じ答えで、状態はそのまま。 -/
def Stateless {α : Type} (x : Run α) : Prop := ∃ e, ∀ s, x.exec s = (e, s)

section Stateless

variable {α β γ : Type}

theorem stateless_pure (a : α) : Stateless (pure a : Run α) := ⟨.ok a, fun _ => rfl⟩

theorem stateless_throw (e : Fault) : Stateless (throw e : Run α) := ⟨.error e, fun _ => rfl⟩

theorem stateless_lift (x : Except Fault α) : Stateless (lift x) := ⟨x, exec_lift x⟩

theorem Stateless.bind {x : Run α} {f : α → Run β} (hx : Stateless x) (hf : ∀ a, Stateless (f a)) :
    Stateless (x >>= f) := by
  obtain ⟨e, he⟩ := hx
  cases e with
  | error err => exact ⟨.error err, fun s => exec_bind_error (he s) f⟩
  | ok a =>
    obtain ⟨e', he'⟩ := hf a
    exact ⟨e', fun s => by rw [exec_bind_ok (he s), he' s]⟩

theorem stateless_mapM {g : γ → Run α} (hg : ∀ x, Stateless (g x)) : ∀ xs : List γ, Stateless (xs.mapM g)
  | [] => stateless_pure []
  | x :: xs => by
    rw [List.mapM_cons]
    exact (hg x).bind fun a => (stateless_mapM hg xs).bind fun as => stateless_pure (a :: as)

theorem Stateless.exec_eq {x : Run α} (hx : Stateless x) (s t : Session) : x.exec t = ((x.exec s).1, t) := by
  obtain ⟨e, he⟩ := hx
  rw [he s, he t]

end Stateless

/-- 行が列 `k` に与えた値（なければ NULL）。 -/
def keyValue (k : Column) (row : Row) : Value := (row.get? k).getD .none

/-- キーを与えない行に `next` から入力の順に続けて番号を振るデータベースが、一列のキー `k` の行に
与えるキー。 -/
def assignedKeys (k : Column) : Int → List Row → List Value
  | _, [] => []
  | next, row :: rows =>
    if isPlain (keyValue k row) then .tuple [keyValue k row] :: assignedKeys k next rows
    else .tuple [.int next] :: assignedKeys k (next + 1) rows

theorem assignedKeys_of_supplied {k : Column} (next : Int) :
    ∀ {rows : List Row}, (∀ row ∈ rows, isPlain (keyValue k row) = true) →
      assignedKeys k next rows = rows.map fun row => .tuple [keyValue k row]
  | [], _ => rfl
  | row :: rows, h => by
    rw [assignedKeys, if_pos (h row List.mem_cons_self),
      assignedKeys_of_supplied next fun r hr => h r (List.mem_cons_of_mem _ hr), List.map_cons]

theorem assignedKeys_of_generated {k : Column} :
    ∀ (next : Int) {rows : List Row}, (∀ row ∈ rows, isPlain (keyValue k row) = false) →
      assignedKeys k next rows = (List.range rows.length).map fun i => .tuple [.int (next + i)]
  | _, [], _ => rfl
  | next, row :: rows, h => by
    rw [assignedKeys, if_neg (by rw [h row List.mem_cons_self]; decide),
      assignedKeys_of_generated (next + 1) fun r hr => h r (List.mem_cons_of_mem _ hr),
      List.length_cons, List.range_succ_eq_map, List.map_cons, List.map_map]
    congr 2
    · simp
    · funext i
      show Value.tuple [.int (next + 1 + i)] = .tuple [.int (next + (i + 1 : Nat))]
      rw [show next + 1 + (i : Int) = next + ((i + 1 : Nat) : Int) by omega]

/-! ## 答えるキー -/

theorem exec_normalizeRows {m : Meta} {rows : List Value} {normalized : List Row} (s : Session)
    (hnorm : rows.mapM (m.normalizeRow · false) = .ok normalized) :
    (rows.mapM fun r => lift (m.normalizeRow r false)).exec s = (.ok normalized, s) := by
  rw [exec_mapM_lift (fun p => exec_lift _ s), hnorm]

theorem exec_reportedKeys_supplied {m : Meta} {rows : List Value} {normalized : List Row} (result : Value)
    (s : Session) (hnorm : rows.mapM (m.normalizeRow · false) = .ok normalized)
    (hplain : ∀ row ∈ normalized, ∀ k ∈ m.primaryKey, isPlain (keyValue k row) = true) :
    (reportedKeys m rows result).exec s =
      (.ok (.pkey (m.primaryKey.map .column) (normalized.map fun row => .tuple (m.primaryKey.map fun k => keyValue k row))),
        s) := by
  unfold reportedKeys
  rw [exec_bind_ok (exec_normalizeRows s hnorm)]
  simp only [keyValue, List.all_eq_true] at hplain ⊢
  rw [if_pos hplain]
  rfl

/-- 一列のキーを与えない行があり、ドライバが最初の番号 `first` を返せば、どの行にも `first` から
続けた番号を答える（キーを与えた行にも）。 -/
theorem exec_reportedKeys_counted {m : Meta} {k : Column} {rows : List Value} {normalized : List Row}
    {rs : List Value} {rc : Value} (first : Int) (s : Session) (hpk : m.primaryKey = [k])
    (hnorm : rows.mapM (m.normalizeRow · false) = .ok normalized)
    (hmissing : ∃ row ∈ normalized, isPlain (keyValue k row) = false) :
    (reportedKeys m rows (.result rs rc (.int first))).exec s =
      (.ok (.pkey [.column k] ((List.range normalized.length).map fun (i : Nat) => .tuple [.int (first + i)])),
        s) := by
  obtain ⟨row, hrow, hkey⟩ := hmissing
  simp only [keyValue] at hkey
  unfold reportedKeys
  rw [exec_bind_ok (exec_normalizeRows s hnorm), hpk]
  simp only [List.all_cons, List.all_nil, Bool.and_true]
  rw [if_neg fun h => by rw [List.all_eq_true.1 h row hrow] at hkey; cases hkey]
  simp only [Value.add_int, lift_ok, pure_bind, List.mapM_pure, List.map_cons, List.map_nil]
  rfl

/-- 主キーが一列で、与えない行があり、最初の番号が分からなければ、`None` を答える。 -/
theorem exec_reportedKeys_unnumbered {m : Meta} {k : Column} {rows : List Value} {normalized : List Row}
    {rs : List Value} {rc : Value} (s : Session) (hpk : m.primaryKey = [k])
    (hnorm : rows.mapM (m.normalizeRow · false) = .ok normalized)
    (hmissing : ∃ row ∈ normalized, isPlain (keyValue k row) = false) :
    (reportedKeys m rows (.result rs rc .none)).exec s = (.ok .none, s) := by
  obtain ⟨row, hrow, hkey⟩ := hmissing
  simp only [keyValue] at hkey
  unfold reportedKeys
  rw [exec_bind_ok (exec_normalizeRows s hnorm), hpk]
  simp only [List.all_cons, List.all_nil, Bool.and_true]
  rw [if_neg fun h => by rw [List.all_eq_true.1 h row hrow] at hkey; cases hkey]
  rfl

theorem exec_reportedKeys_compound {m : Meta} {rows : List Value} {normalized : List Row} (result : Value)
    (s : Session) (hpk : ∀ k, m.primaryKey ≠ [k]) (hnorm : rows.mapM (m.normalizeRow · false) = .ok normalized)
    (hmissing : ∃ row ∈ normalized, ∃ k ∈ m.primaryKey, isPlain (keyValue k row) = false) :
    (reportedKeys m rows result).exec s = (.ok .none, s) := by
  obtain ⟨row, hrow, k, hk, hkey⟩ := hmissing
  simp only [keyValue] at hkey
  unfold reportedKeys
  rw [exec_bind_ok (exec_normalizeRows s hnorm)]
  rw [if_neg fun h => by rw [List.all_eq_true.1 (List.all_eq_true.1 h row hrow) k hk] at hkey; cases hkey]
  split
  · next k' hk' => exact absurd hk' (hpk k')
  · rfl

theorem stateless_reportedKeys (m : Meta) (rows : List Value) (result : Value) :
    Stateless (reportedKeys m rows result) := by
  unfold reportedKeys
  refine (stateless_mapM (fun _ => stateless_lift _) _).bind fun normalized => ?_
  split
  · exact stateless_pure _
  · split
    · split
      · exact stateless_pure _
      · exact (stateless_mapM (fun _ => (stateless_lift _).bind fun _ => stateless_pure _) _).bind fun _ =>
          stateless_pure _
      · exact stateless_throw _
    · exact stateless_pure _

theorem same_reportedKeys (m : Meta) (rows : List Value) (result : Value) :
    Frame.same.Holds (reportedKeys m rows result) := by
  intro s
  rw [(stateless_reportedKeys m rows result).exec_eq s s]
  rfl

/-! ## データベースが与えたキーとの比べ -/

/-- 挿入した行のキーの答え方（`RETURNING` のない方言）。`answer result` は、ドライバの結果が `result`
のときの答え。 -/
structure KeyAnswers (m : Meta) (normalized : List Row) (answer : Value → Except Fault Value) : Prop where
  /-- どの行も主キーを与えれば、与えたキー。 -/
  supplied : (∀ row ∈ normalized, ∀ k ∈ m.primaryKey, isPlain (keyValue k row) = true) → ∀ result,
    answer result = .ok (.pkey (m.primaryKey.map .column) (normalized.map fun row =>
      .tuple (m.primaryKey.map fun k => keyValue k row)))
  /-- 一列のキーをどの行も与えるか、どの行も与えなければ、データベースが与えたキー。 -/
  assigned : ∀ k rs rc (first : Int), m.primaryKey = [k] →
    ((∀ row ∈ normalized, isPlain (keyValue k row) = true) ∨ (∀ row ∈ normalized, isPlain (keyValue k row) = false)) →
    answer (.result rs rc (.int first)) = .ok (.pkey [.column k] (assignedKeys k first normalized))
  /-- 一列のキーを与えない行があれば、どの行にも `first` から続けた番号。 -/
  counted : ∀ k rs rc (first : Int), m.primaryKey = [k] → (∃ row ∈ normalized, isPlain (keyValue k row) = false) →
    answer (.result rs rc (.int first)) =
      .ok (.pkey [.column k] ((List.range normalized.length).map fun (i : Nat) => .tuple [.int (first + i)]))
  /-- 最初の番号が分からなければ `None`。 -/
  unnumbered : ∀ k rs rc, m.primaryKey = [k] → (∃ row ∈ normalized, isPlain (keyValue k row) = false) →
    answer (.result rs rc .none) = .ok .none
  /-- 複数の列の主キーを与えない行があれば `None`。 -/
  compound : (∀ k, m.primaryKey ≠ [k]) → (∃ row ∈ normalized, ∃ k ∈ m.primaryKey, isPlain (keyValue k row) = false) →
    ∀ result, answer result = .ok .none

/-- 正規化できる行について、`RETURNING` のない方言で答えるキーは `KeyAnswers` のとおりで、状態に触れない。
キーをどの行も与えるか、どの行も与えなければ、答えはデータベースが与えたキーに一致する。 -/
theorem reportedKeys_answers {m : Meta} {rows : List Value} {normalized : List Row} (s : Session)
    (hnorm : rows.mapM (m.normalizeRow · false) = .ok normalized) :
    KeyAnswers m normalized (fun result => ((reportedKeys m rows result).exec s).1) ∧
      ∀ result, ((reportedKeys m rows result).exec s).2 = s := by
  have hsupplied := fun result hplain => exec_reportedKeys_supplied (m := m) result s hnorm hplain
  refine ⟨⟨fun hplain result => by rw [hsupplied result hplain], fun k rs rc first hpk huniform => ?_,
    fun k rs rc first hpk hmissing => by rw [exec_reportedKeys_counted first s hpk hnorm hmissing],
    fun k rs rc hpk hmissing => by rw [exec_reportedKeys_unnumbered s hpk hnorm hmissing],
    fun hpk hmissing result => by rw [exec_reportedKeys_compound result s hpk hnorm hmissing]⟩, fun result => ?_⟩
  · -- キーを与えない行があれば、どの行も与えない
    by_cases hmissing : ∃ row ∈ normalized, isPlain (keyValue k row) = false
    · have hnone : ∀ row ∈ normalized, isPlain (keyValue k row) = false := by
        refine huniform.resolve_left fun hall => ?_
        obtain ⟨row, hrow, hkey⟩ := hmissing
        rw [hall row hrow] at hkey
        cases hkey
      rw [exec_reportedKeys_counted first s hpk hnorm hmissing, assignedKeys_of_generated first hnone]
    · have hall : ∀ row ∈ normalized, isPlain (keyValue k row) = true := fun row hrow =>
        Bool.not_eq_false _ ▸ fun h => hmissing ⟨row, hrow, h⟩
      rw [hsupplied _ (by rw [hpk]; simpa using hall), hpk, assignedKeys_of_supplied first hall]
      rfl
  · exact same_reportedKeys m rows result s

/-! ### 口座 -/

/-- 口座の番号（主キー）。 -/
def accountId : Column := { name := "id", property := "id", table := "accounts", model := "Account", primaryKey := true }

/-- 口座の名前。 -/
def accountName : Column := { name := "name", property := "name", table := "accounts", model := "Account" }

/-- 番号を主キーとする口座。 -/
def accountMeta : Meta := { tag := "Account", table := "accounts", columns := [accountId, accountName] }

end Session

end DataAccess
