import Mathlib.Data.List.Forall2
import Mathlib.Data.List.Nodup
import Mathlib.Tactic.Common

/-!
# Arrays written through index lists

A program walks an array through a list of distinct indices. `scatter` writes one value at each
index; `Paired` relates the positions of two such walks, over arrays of different layouts.
-/

namespace PointcloudAd.Library

variable {α β ι : Type}

theorem prefix_cons_drop {a : α} {part whole : List α} {k : ℕ}
    (h : a :: part <+: whole.drop k) : whole[k]? = some a ∧ part <+: whole.drop (k + 1) := by
  obtain ⟨rest, h⟩ := h
  constructor
  · rw [← Nat.add_zero k, ← List.getElem?_drop, ← h]
    rfl
  · rw [← List.tail_drop, ← h]
    exact List.prefix_append part rest

theorem prefix_append_drop {first second whole : List α} {k : ℕ}
    (h : first ++ second <+: whole.drop k) :
    first <+: whole.drop k ∧ second <+: whole.drop (k + first.length) := by
  obtain ⟨rest, h⟩ := h
  constructor
  · exact ⟨second ++ rest, by rw [← List.append_assoc, h]⟩
  · rw [← List.drop_drop, ← h, List.append_assoc, List.drop_left]
    exact List.prefix_append second rest

theorem prefix_append_of_drop {first second whole : List α} {k : ℕ}
    (hfirst : first <+: whole.drop k) (hsecond : second <+: whole.drop (k + first.length)) :
    first ++ second <+: whole.drop k := by
  obtain ⟨rest, hrest⟩ := hfirst
  rw [← List.drop_drop, ← hrest, List.drop_left] at hsecond
  rw [← hrest]
  exact List.prefix_append_right_inj first |>.mpr hsecond

section

variable {R : α → β → Prop} {l : List α} {m : List β}

theorem forall₂_getD (h : List.Forall₂ R l m) {a : α} {b : β} (hab : R a b) (i : ℕ) :
    R (l.getD i a) (m.getD i b) := by
  induction h generalizing i with
  | nil => exact hab
  | cons hcd _ ih =>
    cases i with
    | zero => exact hcd
    | succ i => exact ih i

theorem forall₂_set (h : List.Forall₂ R l m) {a : α} {b : β} (hab : R a b) (i : ℕ) :
    List.Forall₂ R (l.set i a) (m.set i b) := by
  induction h generalizing i with
  | nil => exact .nil
  | cons hcd hlm ih =>
    cases i with
    | zero => exact .cons hab hlm
    | succ i => exact .cons hcd (ih i)

end

/-- Writes in order of the list. -/
def scatter (cells : List β) (writes : List (ℕ × β)) : List β :=
  writes.foldl (fun cells write => cells.set write.1 write.2) cells

@[simp] theorem length_scatter (writes : List (ℕ × β)) :
    ∀ cells : List β, (scatter cells writes).length = cells.length := by
  induction writes with
  | nil => exact fun _ => rfl
  | cons w ws ih =>
    intro cells
    change (scatter (cells.set w.1 w.2) ws).length = cells.length
    rw [ih, List.length_set]

theorem scatter_cons (cells : List β) (w : ℕ × β) (ws : List (ℕ × β)) :
    scatter cells (w :: ws) = scatter (cells.set w.1 w.2) ws := rfl

theorem scatter_append (cells : List β) (ws ws' : List (ℕ × β)) :
    scatter cells (ws ++ ws') = scatter (scatter cells ws) ws' := by
  simp [scatter]

theorem getElem?_scatter_of_not_mem {writes : List (ℕ × β)} {i : ℕ} :
    ∀ {cells : List β}, i ∉ writes.map Prod.fst → (scatter cells writes)[i]? = cells[i]? := by
  induction writes with
  | nil => exact fun _ => rfl
  | cons w ws ih =>
    intro cells hi
    simp only [List.map_cons, List.mem_cons, not_or] at hi
    rw [scatter_cons, ih hi.2, List.getElem?_set_ne (Ne.symm hi.1)]

theorem getElem?_scatter {writes : List (ℕ × β)} (hn : (writes.map Prod.fst).Nodup) {w : ℕ × β}
    (hw : w ∈ writes) : ∀ {cells : List β}, w.1 < cells.length →
      (scatter cells writes)[w.1]? = some w.2 := by
  induction writes with
  | nil => cases hw
  | cons v vs ih =>
    intro cells hlt
    rw [List.map_cons, List.nodup_cons] at hn
    rw [scatter_cons]
    rcases List.mem_cons.mp hw with rfl | hw
    · rw [getElem?_scatter_of_not_mem hn.1, List.getElem?_set_self hlt]
    · exact ih hn.2 hw (by rwa [List.length_set])

theorem scatter_range {cells : List β} (f : ℕ → β) :
    scatter cells ((List.range cells.length).map fun i => (i, f i)) =
      (List.range cells.length).map f := by
  refine List.ext_getElem? fun i => ?_
  by_cases hi : i < cells.length
  · have hkeys : ((List.range cells.length).map fun i => (i, f i)).map Prod.fst =
        List.range cells.length := by simp [Function.comp_def]
    have hw : (i, f i) ∈ (List.range cells.length).map fun i => (i, f i) := by simp [hi]
    rw [getElem?_scatter (by rw [hkeys]; exact List.nodup_range) hw hi]
    simp [hi]
  · rw [List.getElem?_eq_none (by simpa using Nat.le_of_not_lt hi),
      List.getElem?_eq_none (by simpa using Nat.le_of_not_lt hi)]

theorem foldl_range_getD (l : List α) (d : α) (f : β → α → β) (b : β) :
    (List.range l.length).foldl (fun b i => f b (l.getD i d)) b = l.foldl f b := by
  rw [← List.foldl_map (f := fun i => l.getD i d)]
  congr 1
  refine List.ext_getElem (by simp) fun i hi hi' => ?_
  simp [hi']

theorem map_range_getD (l : List α) (d : α) (f : α → β) :
    (List.range l.length).map (fun i => f (l.getD i d)) = l.map f := by
  refine List.ext_getElem (by simp) fun i hi hi' => ?_
  rw [List.length_map] at hi'
  rw [List.getElem_map, List.getElem_range, List.getElem_map, List.getD_eq_getElem?_getD,
    List.getElem?_eq_getElem hi', Option.getD_some]

/-- The writes of the values that are present, each at its index. -/
def writesAt (indices : List ℕ) (values : List (Option β)) : List (ℕ × β) :=
  (indices.zip values).filterMap fun (i, v) => v.map fun v => (i, v)

theorem writesAt_cons (i : ℕ) (indices : List ℕ) (v : Option β) (values : List (Option β)) :
    writesAt (i :: indices) (v :: values) =
      (v.map fun v => (i, v)).toList ++ writesAt indices values := by
  cases v <;> simp [writesAt]

theorem forall₂_scatter {R : α → β → Prop} (indices : List ℕ) {values : List (Option α)}
    {values' : List (Option β)} (hv : List.Forall₂ (Option.Rel R) values values') {l : List α}
    {m : List β} (h : List.Forall₂ R l m) :
    List.Forall₂ R (scatter l (writesAt indices values))
      (scatter m (writesAt indices values')) := by
  induction indices generalizing values values' l m with
  | nil => exact h
  | cons i indices ih =>
    cases hv with
    | nil => exact h
    | cons hentry hv =>
      rw [writesAt_cons, writesAt_cons, scatter_append, scatter_append]
      refine ih hv ?_
      cases hentry with
      | none => exact h
      | some hab => exact forall₂_set h hab i

theorem mem_of_mem_writesAt {indices : List ℕ} {values : List (Option β)} {i : ℕ}
    (h : i ∈ (writesAt indices values).map Prod.fst) : i ∈ indices := by
  simp only [writesAt, List.mem_map, List.mem_filterMap] at h
  obtain ⟨w, ⟨⟨j, v⟩, hz, hv⟩, rfl⟩ := h
  obtain ⟨v', -, rfl⟩ := Option.map_eq_some_iff.mp hv
  exact (List.of_mem_zip hz).1

theorem getElem?_scatter_writesAt_of_not_mem {indices : List ℕ} {values : List (Option β)}
    {cells : List β} {i : ℕ} (hi : i ∉ indices) :
    (scatter cells (writesAt indices values))[i]? = cells[i]? :=
  getElem?_scatter_of_not_mem fun h => hi (mem_of_mem_writesAt h)

/-- What the writes leave at one of their indices: its value, or what was there. -/
theorem getElem?_scatter_writesAt {indices : List ℕ} (hn : indices.Nodup) :
    ∀ {values : List (Option β)} {cells : List β} {k i : ℕ} {v : Option β} {c : β},
      indices[k]? = some i → values[k]? = some v → cells[i]? = some c →
      (scatter cells (writesAt indices values))[i]? = some (v.getD c) := by
  induction indices with
  | nil => intro values cells k i v c hi; simp at hi
  | cons j indices ih =>
    intro values cells k i v c hi hv hc
    rw [List.nodup_cons] at hn
    obtain _ | ⟨u, values⟩ := values
    · simp at hv
    rw [writesAt_cons, scatter_append]
    cases k with
    | zero =>
      obtain rfl : j = i := by simpa using hi
      obtain rfl : u = v := by simpa using hv
      rw [getElem?_scatter_writesAt_of_not_mem hn.1]
      cases u with
      | none => exact hc
      | some u => exact List.getElem?_set_self (List.getElem?_eq_some_iff.mp hc).1
    | succ k =>
      rw [List.getElem?_cons_succ] at hi hv
      refine ih hn.2 hi hv ?_
      have hne : j ≠ i := fun he => hn.1 (he ▸ List.mem_of_getElem? hi)
      cases u with
      | none => exact hc
      | some u => exact (List.getElem?_set_ne hne).trans hc

theorem mem_scatter_writesAt {indices : List ℕ} {v : β} :
    ∀ {values : List (Option β)} {cells : List β}, v ∈ scatter cells (writesAt indices values) →
      v ∈ cells ∨ some v ∈ values := by
  induction indices with
  | nil => exact fun h => .inl h
  | cons i indices ih =>
    intro values cells h
    cases values with
    | nil => exact .inl h
    | cons u values =>
      rw [writesAt_cons, scatter_append] at h
      rcases ih h with hcells | hvalues
      · cases u with
        | none => exact .inl hcells
        | some u =>
          rcases List.mem_or_eq_of_mem_set hcells with hmem | rfl
          · exact .inl hmem
          · exact .inr (by simp)
      · exact .inr (List.mem_cons_of_mem _ hvalues)

theorem foldl_set_if (f : ι → ℕ) (p : ι → Bool) (v : β) (l : List ι) :
    ∀ cells : List β, l.foldl (fun cells x => if p x then cells.set (f x) v else cells) cells =
      scatter cells (writesAt (l.map f) (l.map fun x => if p x then some v else none)) := by
  induction l with
  | nil => exact fun _ => rfl
  | cons x l ih =>
    intro cells
    rw [List.map_cons, List.map_cons, writesAt_cons, scatter_append, List.foldl_cons, ih]
    cases p x <;> rfl

theorem getElem?_foldl_cells {σ : Type} (cells : σ → List β) (f : ℕ → β → β) {step : σ → ℕ → σ}
    (hstep : ∀ s i w, (cells (step s i))[w]? =
      if w = i then ((cells s)[w]?).map (f i) else (cells s)[w]?) :
    ∀ {l : List ℕ}, l.Nodup → ∀ (s : σ) (w : ℕ), (cells (l.foldl step s))[w]? =
      if w ∈ l then ((cells s)[w]?).map (f w) else (cells s)[w]?
  | [], _, s, w => by simp
  | i :: l, hn, s, w => by
    rw [List.nodup_cons] at hn
    rw [List.foldl_cons, getElem?_foldl_cells cells f hstep hn.2, hstep]
    by_cases hw : w = i
    · subst hw
      simp [hn.1]
    · simp [hw]

theorem getElem?_set_map (cells : List β) (i w : ℕ) (v : β) :
    (cells.set i v)[w]? = if w = i then (cells[w]?).map fun _ => v else cells[w]? := by
  by_cases hw : w = i
  · subst hw
    rw [if_pos rfl, List.getElem?_set_self']
    rfl
  · rw [if_neg hw, List.getElem?_set_ne (Ne.symm hw)]

theorem countP_foldl_set (p : β → Bool) (f : ℕ → β) :
    ∀ {l : List ℕ}, l.Nodup → ∀ {cells : List β}, (∀ i ∈ l, i < cells.length) →
      (∀ i ∈ l, ∀ c, cells[i]? = some c → p c = false) →
      (l.foldl (fun cells i => cells.set i (f i)) cells).countP p =
        cells.countP p + l.countP fun i => p (f i)
  | [], _, cells, _, _ => by simp
  | i :: l, hn, cells, hlt, hp => by
    rw [List.nodup_cons] at hn
    have hi : i < cells.length := hlt i (by simp)
    have hfalse : p cells[i] = false := hp i (by simp) _ (List.getElem?_eq_getElem hi)
    rw [List.foldl_cons, countP_foldl_set p f hn.2 (fun j hj => by
      rw [List.length_set]
      exact hlt j (by simp [hj])) fun j hj c hc => ?_]
    · rw [List.countP_set hi, hfalse, List.countP_cons]
      simp only [Bool.false_eq_true, if_false, Nat.sub_zero]
      omega
    · have hne : i ≠ j := fun he => hn.1 (he ▸ hj)
      rw [List.getElem?_set_ne hne] at hc
      exact hp j (by simp [hj]) c hc

/-- Index `i` of the first walk and index `j` of the second are at the same position. -/
def Paired (a b : List ℕ) (i j : ℕ) : Prop := ∃ k : ℕ, a[k]? = some i ∧ b[k]? = some j

/-- Two walks of one length, each over distinct indices. -/
structure Matching (a b : List ℕ) : Prop where
  length : a.length = b.length
  left : a.Nodup
  right : b.Nodup

namespace Paired

variable {a b : List ℕ} {i i' j j' : ℕ}

theorem refl (h : i ∈ a) : Paired a a i i := by
  obtain ⟨k, hk, rfl⟩ := List.mem_iff_getElem.mp h
  exact ⟨k, by simp [hk], by simp [hk]⟩

theorem eq (h : Paired a a i j) : i = j := by
  obtain ⟨k, hi, hj⟩ := h
  rw [hi] at hj
  exact Option.some.inj hj

theorem symm (h : Paired a b i j) : Paired b a j i := by
  obtain ⟨k, hi, hj⟩ := h
  exact ⟨k, hj, hi⟩

theorem mem_left (h : Paired a b i j) : i ∈ a := by
  obtain ⟨k, hi, -⟩ := h
  exact List.mem_of_getElem? hi

theorem mem_right (h : Paired a b i j) : j ∈ b := h.symm.mem_left

theorem left_iff (hn : a.Nodup) (hm : b.Nodup) (h : Paired a b i j) (h' : Paired a b i' j') :
    i = i' ↔ j = j' := by
  obtain ⟨k, hi, hj⟩ := h
  obtain ⟨k', hi', hj'⟩ := h'
  constructor
  · rintro rfl
    have hk := (List.getElem?_inj (List.getElem?_eq_some_iff.mp hi).1 hn).mp (hi.trans hi'.symm)
    subst hk
    exact Option.some.inj (hj.symm.trans hj')
  · rintro rfl
    have hk := (List.getElem?_inj (List.getElem?_eq_some_iff.mp hj).1 hm).mp (hj.trans hj'.symm)
    subst hk
    exact Option.some.inj (hi.symm.trans hi')

end Paired

namespace Matching

variable {a b : List ℕ}

theorem refl (h : a.Nodup) : Matching a a := ⟨rfl, h, h⟩

theorem symm (h : Matching a b) : Matching b a := ⟨h.length.symm, h.right, h.left⟩

theorem paired_iff (h : Matching a b) {i i' j j' : ℕ} (hp : Paired a b i j)
    (hp' : Paired a b i' j') : i = i' ↔ j = j' := hp.left_iff h.left h.right hp'

theorem forall₂ (h : Matching a b) : List.Forall₂ (Paired a b) a b := by
  rw [List.forall₂_iff_get]
  refine ⟨h.length, fun k hk hk' => ⟨k, ?_, ?_⟩⟩
  · simp [hk]
  · simp [hk']

/-- What two walks collect at their selected positions. -/
theorem filter_map (h : Matching a b) {p q : ℕ → Bool} {f g : ℕ → β}
    (hp : ∀ i j, Paired a b i j → p i = q j)
    (hf : ∀ i j, Paired a b i j → p i = true → f i = g j) :
    (a.filter p).map f = (b.filter q).map g := by
  have hall : ∀ {l m : List ℕ}, List.Forall₂ (Paired a b) l m →
      (l.filter p).map f = (m.filter q).map g := by
    intro l m hlm
    induction hlm with
    | nil => rfl
    | @cons i j l m hij _ ih =>
      cases hv : p i with
      | false => simp [hv, ← hp i j hij, ih]
      | true => simp [hv, ← hp i j hij, ih, hf i j hij hv]
  exact hall h.forall₂

/-- The selected positions of a matching. -/
theorem filter (h : Matching a b) {p q : ℕ → Bool} (hp : ∀ i j, Paired a b i j → p i = q j) :
    Matching (a.filter p) (b.filter q) ∧
      ∀ i j, Paired a b i j → p i = true → Paired (a.filter p) (b.filter q) i j := by
  have hall : ∀ {l m : List ℕ}, List.Forall₂ (Paired a b) l m →
      List.Forall₂ (Paired a b) (l.filter p) (m.filter q) := by
    intro l m hlm
    induction hlm with
    | nil => exact .nil
    | @cons i j l m hij _ ih =>
      cases hv : p i with
      | false => simpa [hv, ← hp i j hij] using ih
      | true => simpa [hv, ← hp i j hij] using ⟨hij, ih⟩
  have hf := hall h.forall₂
  refine ⟨⟨hf.length_eq, h.left.filter _, h.right.filter _⟩, fun i j hij hi => ?_⟩
  obtain ⟨k, hk, hki⟩ := List.mem_iff_getElem.mp (List.mem_filter.mpr ⟨hij.mem_left, hi⟩)
  have hk' : k < (b.filter q).length := hf.length_eq ▸ hk
  have hpair : Paired a b i (b.filter q)[k] := hki ▸ (List.forall₂_iff_get.mp hf).2 k hk hk'
  have hj : (b.filter q)[k] = j := (h.paired_iff hpair hij).mp rfl
  exact ⟨k, by simp [hk, hki], by simp [hk', hj]⟩

end Matching

/-- Two arrays agree at the paired positions where the first walk's index satisfies `p`. -/
def AgreeAlong (a b : List ℕ) (p : ℕ → Prop) (l m : List β) : Prop :=
  ∀ i j, Paired a b i j → p i → l[i]? = m[j]?

namespace AgreeAlong

variable {a b : List ℕ} {p : ℕ → Prop} {l m : List β}

theorem symm_walks (h : AgreeAlong a b p l m) {q : ℕ → Prop}
    (hq : ∀ i j, Paired a b i j → q j → p i) : AgreeAlong b a q m l :=
  fun j i hp hj => (h i j hp.symm (hq i j hp.symm hj)).symm

theorem mono (h : AgreeAlong a b p l m) {q : ℕ → Prop} (hq : ∀ i, q i → p i) :
    AgreeAlong a b q l m :=
  fun i j hp hi => h i j hp (hq i hi)

theorem getD (h : AgreeAlong a b p l m) {i j : ℕ} (hp : Paired a b i j) (hi : p i) (d : β) :
    l.getD i d = m.getD j d := by
  simp only [List.getD_eq_getElem?_getD, h i j hp hi]

theorem map (h : AgreeAlong a b p l m) {γ : Type} (f : β → γ) :
    AgreeAlong a b p (l.map f) (m.map f) := by
  intro i j hp hi
  rw [List.getElem?_map, List.getElem?_map, h i j hp hi]

theorem replicate {n n' : ℕ} (c : β) (hl : ∀ i ∈ a, i < n) (hr : ∀ j ∈ b, j < n') :
    AgreeAlong a b p (List.replicate n c) (List.replicate n' c) := by
  intro i j hp _
  simp [hl i hp.mem_left, hr j hp.mem_right]

/-- Writing one value at a pair keeps the agreement. -/
theorem set (hm : Matching a b) (h : AgreeAlong a b p l m) {i j : ℕ} (hp : Paired a b i j)
    (hi : i < l.length) (hj : j < m.length) {v w : β} (hv : p i → v = w) :
    AgreeAlong a b p (l.set i v) (m.set j w) := by
  intro i' j' hp' hi'
  by_cases hii : i = i'
  · obtain rfl := (hm.paired_iff hp hp').mp hii
    subst hii
    rw [List.getElem?_set_self hi, List.getElem?_set_self hj, hv hi']
  · have hjj : j ≠ j' := fun he => hii ((hm.paired_iff hp hp').mpr he)
    rw [List.getElem?_set_ne hii, List.getElem?_set_ne hjj]
    exact h i' j' hp' hi'

/-- Writing the same values along both walks keeps the agreement. -/
theorem scatter (hm : Matching a b) (h : AgreeAlong a b p l m) {values : List (Option β)}
    (hlen : values.length = a.length) (hl : ∀ i ∈ a, i < l.length) :
    AgreeAlong a b p (Library.scatter l (writesAt a values))
      (Library.scatter m (writesAt b values)) := by
  intro i j hp hi
  have hij := h i j hp hi
  obtain ⟨k, hki, hkj⟩ := hp
  obtain ⟨hk, -⟩ := List.getElem?_eq_some_iff.mp hki
  have hv : values[k]? = some values[k] := List.getElem?_eq_getElem (by omega)
  have hlt := hl i (List.mem_of_getElem? hki)
  have hc : l[i]? = some l[i] := List.getElem?_eq_getElem hlt
  rw [getElem?_scatter_writesAt hm.left hki hv hc,
    getElem?_scatter_writesAt hm.right hkj hv (hij ▸ hc)]

/-- Writing the same values at the selected positions of both walks keeps the agreement. -/
theorem scatter_filter (hm : Matching a b) {s t : ℕ → Bool}
    (hst : ∀ i j, Paired a b i j → s i = t j) (h : AgreeAlong a b p l m)
    {values : List (Option β)} (hlen : values.length = (a.filter s).length)
    (hl : ∀ i ∈ a, i < l.length) :
    AgreeAlong a b p (Library.scatter l (writesAt (a.filter s) values))
      (Library.scatter m (writesAt (b.filter t) values)) := by
  obtain ⟨hf, hpair⟩ := hm.filter hst
  intro i j hij hi
  cases hs : s i with
  | true =>
    have hagree : AgreeAlong (a.filter s) (b.filter t)
        (fun i => ∃ j, Paired a b i j ∧ p i) l m := by
      rintro i j hfij ⟨j', hij', hi⟩
      have hsi : s i = true := (List.mem_filter.mp hfij.mem_left).2
      obtain rfl := (hf.paired_iff (hpair i j' hij' hsi) hfij).mp rfl
      exact h i j' hij' hi
    exact hagree.scatter hf hlen (fun i hi => hl i (List.mem_of_mem_filter hi)) i j
      (hpair i j hij hs) ⟨j, hij, hi⟩
  | false =>
    have ht : t j = false := (hst i j hij) ▸ hs
    rw [getElem?_scatter_writesAt_of_not_mem (by simp [hs]),
      getElem?_scatter_writesAt_of_not_mem (by simp [ht])]
    exact h i j hij hi

end AgreeAlong
end PointcloudAd.Library
