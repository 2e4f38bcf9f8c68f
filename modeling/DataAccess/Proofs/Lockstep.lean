import DataAccess.Proofs.Plain
import DataAccess.Builder.Write
/-!
# 二通りに走らせた組み立て

組み立ての計算を二通りに走らせて並べる。一つは印を `?` と書く走らせ方（文を作るときのもの）、
もう一つは `i` 番目（0 から）に束縛する値の印を `f i` と書く走らせ方。後の走らせ方の文では、
どの印がどの値と一緒に書かれたかが字面から読める。

`Lockstep d cat f k R x y`: 方言 `d`、表の集まり `cat`、束縛した値が `k` 個の状態から `x` を
印 `?` で走らせて結果 `a` を得たなら、同じ状態で印だけを `f` にして `y` を走らせると、同じ値を
束縛して結果 `b` を得て、`R k k' a b` が成り立つ（`k'` は走らせた後の値の数）。
二つの走らせ方の状態は `mark` の欄しか違わない。

文字列の結果には `Text f k k' a b`: `a` は囲みの中で終わらず、`a` の印の数はこの間に束縛した
値の数 `k' - k` で、`b` は `a` の印に `k` 番から順に `f` で番号を振ったもの。
文字列を繋いでもこれは保たれる（`Text.append`）。
-/

namespace DataAccess.Build

open Sql

/-- 印を `?` と書く組み立ての状態: 方言 `d`、表の集まり `cat`、束縛した値が `k` 個。 -/
structure Ready (d : Dialect) (cat : Catalog) (k : Nat) (c : Compiler) : Prop where
  mark : c.mark = fun _ => "?"
  dialect : c.dialect = d
  catalog : c.catalog = cat
  length : c.bound.length = k

/-- 二つの計算を並べて走らせたときの結果の関係（印 `?` の走らせ方が成功したとき）。 -/
def Lockstep (d : Dialect) (cat : Catalog) (f : Nat → String) (k : Nat) {α β : Type}
    (R : Nat → Nat → α → β → Prop) (x : Build α) (y : Build β) : Prop :=
  ∀ c a c', Ready d cat k c → x.run c = .ok (a, c') →
    Ready d cat c'.bound.length c' ∧
      ∃ b, y.run { c with mark := f } = .ok (b, { c' with mark := f }) ∧ R k c'.bound.length a b

/-- 何も書かず何も束縛しない結果の関係: 同じ結果。 -/
def Same {α : Type} (k k' : Nat) (a b : α) : Prop := k' = k ∧ b = a

/-- 何も束縛せず、両方で同じ `plain` な文字列を書く。 -/
def Fixed (k k' : Nat) (a b : String) : Prop := Same k k' a b ∧ plain a = true

/-- 文字列の結果の関係。 -/
def Text (f : Nat → String) (k k' : Nat) (a b : String) : Prop :=
  settled a = true ∧ k' = k + countMarkers a ∧ b = renumber f k a

/-- 結果の並びの関係: 要素ごとの関係を、値の数を受け渡しながら繋いだもの。 -/
inductive Chain {α β : Type} (R : Nat → Nat → α → β → Prop) : Nat → Nat → List α → List β → Prop
  | nil (k : Nat) : Chain R k k [] []
  | cons {k k₁ k₂ : Nat} {a : α} {b : β} {as : List α} {bs : List β} :
      R k k₁ a b → Chain R k₁ k₂ as bs → Chain R k k₂ (a :: as) (b :: bs)

/-- あるかもしれない文字列の結果の関係。 -/
def OptText (f : Nat → String) (k k' : Nat) : Option String → Option String → Prop
  | none, none => k' = k
  | some a, some b => Text f k k' a b
  | _, _ => False

/-- 値の結果の関係: 文字列の値で、その文字列が `Text`。 -/
def ValueText (f : Nat → String) (k k' : Nat) (a b : Value) : Prop :=
  ∃ s, a = .str s ∧ b = .str (renumber f k s) ∧ settled s = true ∧ k' = k + countMarkers s

/-! ## 文字列の関係 -/

section Text

variable {f : Nat → String}

theorem Text.of_plain {a : String} (h : plain a = true) (k : Nat) : Text f k k a a :=
  ⟨settled_of_plain h, by rw [countMarkers_of_plain h, Nat.add_zero],
    (renumber_of_count_zero f k (countMarkers_of_plain h)).symm⟩

theorem Fixed.text {k k' : Nat} {a b : String} (h : Fixed k k' a b) : Text f k k' a b := by
  obtain ⟨⟨rfl, rfl⟩, ha⟩ := h
  exact Text.of_plain ha _

theorem Text.append {k k₁ k₂ : Nat} {a a' b b' : String} (ha : Text f k k₁ a a')
    (hb : Text f k₁ k₂ b b') : Text f k k₂ (a ++ b) (a' ++ b') := by
  obtain ⟨hsa, rfl, rfl⟩ := ha
  obtain ⟨hsb, rfl, rfl⟩ := hb
  refine ⟨by rw [settled_append hsa]; exact hsb, ?_, ?_⟩
  · rw [countMarkers_append hsa]
    omega
  · rw [renumber_append f k hsa]

theorem Text.plain_append {k k' : Nat} {a b b' : String} (ha : plain a = true) (hb : Text f k k' b b') :
    Text f k k' (a ++ b) (a ++ b') :=
  (Text.of_plain ha k).append hb

theorem Text.append_plain {k k' : Nat} {a a' b : String} (ha : Text f k k' a a') (hb : plain b = true) :
    Text f k k' (a ++ b) (a' ++ b) :=
  ha.append (Text.of_plain hb k')

theorem Text.mark (k : Nat) : Text f k (k + 1) "?" (f k) := by
  refine ⟨by decide, by rw [show countMarkers "?" = 1 by decide], ?_⟩
  simp [renumber, scan, ScanState.step, stepOutside, markStyle, backtick]

theorem Chain.intercalate {sep : String} (hsep : plain sep = true) :
    ∀ {k k' : Nat} {as bs : List String}, Chain (Text f) k k' as bs →
      Text f k k' (sep.intercalate as) (sep.intercalate bs)
  | k, _, _, _, .nil _ => Text.of_plain (by rw [String.intercalate_nil]; decide) k
  | _, _, _, _, .cons ha (.nil _) => by simpa using ha
  | _, _, _, _, .cons ha (.cons hb rest) => by
    rw [String.intercalate_cons_cons, String.intercalate_cons_cons, String.append_assoc,
      String.append_assoc]
    exact ha.append (Text.plain_append hsep (Chain.intercalate hsep (.cons hb rest)))

theorem Chain.filterMap : ∀ {k k' : Nat} {as bs : List (Option String)}, Chain (OptText f) k k' as bs →
    Chain (Text f) k k' (as.filterMap id) (bs.filterMap id)
  | _, _, _, _, .nil k => .nil k
  | _, _, none :: _, none :: _, .cons h rest => by
    simp only [OptText] at h
    subst h
    simpa using Chain.filterMap rest
  | _, _, some _ :: _, some _ :: _, .cons h rest => by
    simpa using Chain.cons (R := Text f) h (Chain.filterMap rest)
  | _, _, none :: _, some _ :: _, .cons h _ => h.elim
  | _, _, some _ :: _, none :: _, .cons h _ => h.elim

theorem Chain.same {α : Type} {P : α → Prop} : ∀ {k k' : Nat} {as bs : List α},
    Chain (fun k k' a b => Same k k' a b ∧ P a) k k' as bs → k' = k ∧ bs = as ∧ ∀ a ∈ as, P a
  | _, _, _, _, .nil _ => ⟨rfl, rfl, by simp⟩
  | _, _, _, _, .cons ⟨⟨hk, hb⟩, ha⟩ rest => by
    obtain ⟨hk', hbs, has⟩ := Chain.same rest
    subst hk hb hk' hbs
    exact ⟨rfl, rfl, by simpa [ha] using has⟩

theorem Chain.length_eq {α β : Type} {R : Nat → Nat → α → β → Prop} :
    ∀ {k k' : Nat} {as : List α} {bs : List β}, Chain R k k' as bs → as.length = bs.length
  | _, _, _, _, .nil _ => rfl
  | _, _, _, _, .cons _ rest => by simp [Chain.length_eq rest]

end Text

/-! ## 並べて走らせる規則 -/

section Rules

variable {d : Dialect} {cat : Catalog} {f : Nat → String} {k : Nat} {α β γ δ : Type}

theorem Ready.withLength {c : Compiler} (hc : Ready d cat k c) : Ready d cat c.bound.length c :=
  hc.length ▸ hc

theorem Lockstep.pure {R : Nat → Nat → α → β → Prop} {a : α} {b : β} (h : R k k a b) :
    Lockstep d cat f k R (Pure.pure a) (Pure.pure b) := by
  intro c a' c' hc hrun
  simp only [Pure.pure] at hrun
  cases hrun
  exact ⟨hc.withLength, b, rfl, hc.length ▸ h⟩

theorem Lockstep.bind {R : Nat → Nat → α → β → Prop} {S : Nat → Nat → γ → δ → Prop}
    {x : Build α} {y : Build β} {g : α → Build γ} {g' : β → Build δ} (hx : Lockstep d cat f k R x y)
    (hg : ∀ k' a b, R k k' a b → Lockstep d cat f k' (fun _ k'' => S k k'') (g a) (g' b)) :
    Lockstep d cat f k S (x >>= g) (y >>= g') := by
  intro c r c'' hc hrun
  rw [StateT.run_bind] at hrun
  obtain ⟨⟨a, c'⟩, h1, h2⟩ := Except.bind_eq_ok.1 hrun
  obtain ⟨hc', b, hb, hR⟩ := hx c a c' hc h1
  obtain ⟨hc'', r', hr', hS⟩ := hg _ a b hR c' r c'' hc' h2
  refine ⟨hc'', r', ?_, hS⟩
  rw [StateT.run_bind, hb]
  exact hr'

theorem Lockstep.mono {R S : Nat → Nat → α → β → Prop} {x : Build α} {y : Build β}
    (h : Lockstep d cat f k R x y) (hRS : ∀ k' a b, R k k' a b → S k k' a b) :
    Lockstep d cat f k S x y := by
  intro c a c' hc hrun
  obtain ⟨hc', b, hb, hR⟩ := h c a c' hc hrun
  exact ⟨hc', b, hb, hRS _ a b hR⟩

theorem Lockstep.fail {R : Nat → Nat → α → β → Prop} (e e' : Fault) :
    Lockstep d cat f k R (Build.fail e) (Build.fail e') := by
  intro c a c' _ hrun
  cases hrun

theorem Lockstep.fail_bind {S : Nat → Nat → γ → δ → Prop} (e e' : Fault) (g : α → Build γ)
    (g' : β → Build δ) : Lockstep d cat f k S (Build.fail e >>= g) (Build.fail e' >>= g') :=
  Lockstep.bind (R := fun _ _ _ _ => False) (Lockstep.fail e e') fun _ _ _ h => h.elim

theorem Lockstep.lift (e : Except Fault α) :
    Lockstep d cat f k (fun k k' a b => Same k k' a b ∧ e = .ok a) (Build.lift e) (Build.lift e) := by
  cases e with
  | error err => exact Lockstep.fail err err
  | ok a => exact Lockstep.pure ⟨⟨rfl, rfl⟩, rfl⟩

theorem Lockstep.get :
    Lockstep d cat f k (fun k k' (a b : Compiler) => k' = k ∧ b = { a with mark := f } ∧ Ready d cat k a)
      MonadState.get MonadState.get := by
  intro c a c' hc hrun
  simp only [StateT.run_get, Pure.pure, Except.pure, Except.ok.injEq, Prod.mk.injEq] at hrun
  obtain ⟨rfl, rfl⟩ := hrun
  exact ⟨hc.withLength, _, rfl, hc.length, rfl, hc⟩

theorem Lockstep.dialect :
    Lockstep d cat f k (fun k k' a b => Same k k' a b ∧ a = d) Build.dialect Build.dialect := by
  refine Lockstep.bind Lockstep.get fun k' c c' ⟨hk, hc', hc⟩ => ?_
  subst hc'
  exact Lockstep.pure ⟨⟨hk, rfl⟩, hc.dialect⟩

/-- 値を束縛すると、その印を書く: 印 `?` の走らせ方では `?`、もう一方では番号 `k` の印。 -/
theorem Lockstep.bindMark (v : Value) :
    Lockstep d cat f k (fun k k' a b => k' = k + 1 ∧ a = "?" ∧ b = f k) (Build.bind v) (Build.bind v) := by
  intro c a c' hc hrun
  cases hp : c.dialect.adaptParam v with
  | error e =>
    simp [Build.bind, Build.dialect, Build.lift, hp] at hrun
    cases hrun
  | ok p =>
    have hrun' : (Build.bind v).run c = .ok (c.mark c.bound.length, { c with bound := p :: c.bound }) := by
      simp [Build.bind, Build.dialect, Build.lift, hp]
      rfl
    rw [hrun'] at hrun
    simp only [Except.ok.injEq, Prod.mk.injEq] at hrun
    obtain ⟨rfl, rfl⟩ := hrun
    refine ⟨⟨hc.mark, hc.dialect, hc.catalog, rfl⟩, f c.bound.length, ?_, ?_⟩
    · simp [Build.bind, Build.dialect, Build.lift, hp]
      rfl
    · exact ⟨by simp [hc.length], by simp [hc.mark], by simp [hc.length]⟩

theorem Lockstep.bindValue (v : Value) : Lockstep d cat f k (Text f) (Build.bind v) (Build.bind v) :=
  (Lockstep.bindMark v).mono fun _ _ _ ⟨hk, ha, hb⟩ => by
    subst hk ha hb
    exact Text.mark k

theorem Lockstep.map {R : Nat → Nat → α → β → Prop} {S : Nat → Nat → γ → δ → Prop}
    {x : Build α} {y : Build β} {g : α → γ} {g' : β → δ} (hx : Lockstep d cat f k R x y)
    (hg : ∀ k' a b, R k k' a b → S k k' (g a) (g' b)) :
    Lockstep d cat f k S (g <$> x) (g' <$> y) := by
  rw [map_eq_pure_bind, map_eq_pure_bind]
  exact Lockstep.bind hx fun k' a b h => Lockstep.pure (hg k' a b h)

/-- 要素ごとに並べて走らせられるなら、並びの `mapM` も並べて走らせられる。 -/
theorem Lockstep.mapM {R : Nat → Nat → α → β → Prop} {g : γ → Build α} {g' : γ → Build β} :
    ∀ {xs : List γ} {k : Nat}, (∀ x ∈ xs, ∀ k, Lockstep d cat f k R (g x) (g' x)) →
      Lockstep d cat f k (Chain R) (xs.mapM g) (xs.mapM g')
  | [], k, _ => by
    simp only [List.mapM_nil]
    exact Lockstep.pure (Chain.nil k)
  | x :: xs, k, h => by
    simp only [List.mapM_cons]
    refine Lockstep.bind (h x List.mem_cons_self k) fun k₁ a b hab => ?_
    refine Lockstep.bind (Lockstep.mapM fun y hy => h y (List.mem_cons_of_mem x hy)) fun k₂ as bs hs => ?_
    exact Lockstep.pure (Chain.cons hab hs)

theorem Lockstep.mapM_same {P : α → Prop} {g : γ → Build α} {xs : List γ}
    (h : ∀ x ∈ xs, ∀ k, Lockstep d cat f k (fun k k' a b => Same k k' a b ∧ P a) (g x) (g x)) :
    Lockstep d cat f k (fun k k' as bs => k' = k ∧ bs = as ∧ ∀ a ∈ as, P a) (xs.mapM g) (xs.mapM g) :=
  (Lockstep.mapM h).mono fun _ _ _ hs => Chain.same hs

theorem Lockstep.forIn_same {g : γ → PUnit → Build (ForInStep PUnit)} :
    ∀ {xs : List γ} {k : Nat},
      (∀ x ∈ xs, ∀ k, Lockstep d cat f k (fun k k' (r r' : ForInStep PUnit) => k' = k ∧ r' = r)
        (g x PUnit.unit) (g x PUnit.unit)) →
      Lockstep d cat f k (fun k k' (_ _ : PUnit) => k' = k) (forIn xs PUnit.unit g) (forIn xs PUnit.unit g)
  | [], k, _ => by
    simp only [List.forIn_nil]
    exact Lockstep.pure rfl
  | x :: xs, k, h => by
    simp only [List.forIn_cons]
    refine Lockstep.bind (h x List.mem_cons_self k) fun k₁ r r' ⟨hk₁, hr⟩ => ?_
    rw [hr]
    subst hk₁
    cases r with
    | done u => exact Lockstep.pure rfl
    | yield u =>
      exact Lockstep.forIn_same fun y hy => h y (List.mem_cons_of_mem x hy)

theorem Lockstep.bindAll : ∀ (ps : List Value) (k : Nat),
    Lockstep d cat f k (fun k k' (_ _ : PUnit) => k' = k + ps.length)
      (forIn ps PUnit.unit fun p _ => do
        let _ ← Build.bind p
        Pure.pure (ForInStep.yield PUnit.unit))
      (forIn ps PUnit.unit fun p _ => do
        let _ ← Build.bind p
        Pure.pure (ForInStep.yield PUnit.unit))
  | [], k => by
    simp only [List.forIn_nil]
    exact Lockstep.pure rfl
  | p :: ps, k => by
    simp only [List.forIn_cons]
    refine Lockstep.bind (S := fun k k' (_ _ : PUnit) => k' = k + (p :: ps).length)
      (R := fun k k' (r r' : ForInStep PUnit) => k' = k + 1 ∧ r = .yield PUnit.unit ∧ r' = .yield PUnit.unit)
      ?_ fun k₁ r r' ⟨hk₁, hr, hr'⟩ => ?_
    · exact Lockstep.bind (Lockstep.bindMark p) fun k' _ _ h => Lockstep.pure ⟨h.1, rfl, rfl⟩
    · subst hr hr'
      refine Lockstep.mono (Lockstep.bindAll ps k₁) fun k₂ _ _ h => ?_
      simp only [List.length_cons]
      omega

theorem renumber_shift (f : Nat → String) (k : Nat) (s : String) :
    renumber f k s = renumber (fun i => f (k + i)) 0 s := by
  simp only [renumber]
  rw [scan_out_shift]
  rfl

theorem markerCount_str (s : String) : markerCount (.str s) = .ok (countMarkers s) := rfl

theorem Lockstep.marked (s : String) :
    Lockstep d cat f k (fun k k' a b => k' = k ∧ a = s ∧ b = renumber f k s)
      (Build.marked s) (Build.marked s) := by
  intro c a c' hc hrun
  have hrun' : (Build.marked s).run c =
      .ok (renumber (fun i => c.mark (c.bound.length + i)) 0 s, c) := rfl
  rw [hrun'] at hrun
  simp only [Except.ok.injEq, Prod.mk.injEq] at hrun
  obtain ⟨rfl, rfl⟩ := hrun
  refine ⟨hc.withLength, renumber f k s, ?_, hc.length, ?_, rfl⟩
  · show Except.ok (renumber (fun i => f (c.bound.length + i)) 0 s, _) = _
    rw [hc.length, ← renumber_shift]
  · rw [hc.mark]
    exact renumber_qmark 0 s

/-- 断片の文字列とその値を束縛する: 文字列の印の数と値の数が等しければ、断片の印はそのまま
値の印になる。 -/
theorem Lockstep.bindFragment {s : String} (hs : settled s = true) (ps : List Value) (label : String) :
    Lockstep d cat f k (ValueText f) (Build.bindFragment (.str s) ps label)
      (Build.bindFragment (.str s) ps label) := by
  simp only [Build.bindFragment, markerCount_str, Build.lift, pure_bind]
  by_cases hn : (countMarkers s != ps.length) = true
  · rw [if_pos hn]
    exact Lockstep.fail_bind _ _ _ _
  · rw [if_neg hn]
    have hlen : ps.length = countMarkers s := by
      simp only [bne_iff_ne, ne_eq, Decidable.not_not] at hn
      exact hn.symm
    refine Lockstep.bind (Lockstep.map (Lockstep.marked s)
      (S := fun k k' a b => k' = k ∧ a = Value.str s ∧ b = .str (renumber f k s))
      fun _ _ _ ⟨hk, ha, hb⟩ => ⟨hk, by rw [ha], by rw [hb]⟩) fun k₁ w w' ⟨hk₁, hw, hw'⟩ => ?_
    subst hw hw'
    refine Lockstep.bind (Lockstep.bindAll ps k₁) fun k₂ _ _ hk₂ => Lockstep.pure ⟨s, rfl, rfl, hs, ?_⟩
    rw [hk₂, hk₁, hlen]

end Rules

end DataAccess.Build
