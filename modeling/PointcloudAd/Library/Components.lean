import Mathlib.Combinatorics.SimpleGraph.Connectivity.Connected
import Mathlib.Data.Set.Card
import PointcloudAd.Library.UnionFind

/-!
# Components of a graph

The classes that pairs of indices connect are the components of the graph they are the edges of.
-/

namespace PointcloudAd.Library

/-- What a relation generates is what the graph of its pairs connects. -/
theorem reachable_fromRel_iff {V : Type} {r : V → V → Prop} {v w : V} :
    (SimpleGraph.fromRel r).Reachable v w ↔ Relation.EqvGen r v w := by
  constructor
  · rintro ⟨walk⟩
    induction walk with
    | nil => exact .refl _
    | cons hadj _ ih =>
      rcases ((SimpleGraph.fromRel_adj ..).mp hadj).2 with h | h
      · exact .trans _ _ _ (.rel _ _ h) ih
      · exact .trans _ _ _ (.symm _ _ (.rel _ _ h)) ih
  · intro h
    induction h with
    | rel a b hab =>
      by_cases he : a = b
      · rw [he]
      · exact ((SimpleGraph.fromRel_adj ..).mpr ⟨he, .inl hab⟩).reachable
    | refl a => exact .refl a
    | symm a b _ ih => exact ih.symm
    | trans a b c _ _ ih ih' => exact ih.trans ih'

theorem reachable_relabel {V W : Type} (e : V ≃ W) {r : V → V → Prop} {s : W → W → Prop}
    (h : ∀ v w, r v w ↔ s (e v) (e w)) (v w : V) :
    (SimpleGraph.fromRel r).Reachable v w ↔ (SimpleGraph.fromRel s).Reachable (e v) (e w) := by
  let f : SimpleGraph.fromRel r ≃g SimpleGraph.fromRel s :=
    { toEquiv := e
      map_rel_iff' := by
        intro a b
        simp only [SimpleGraph.fromRel_adj, h, ne_eq, EmbeddingLike.apply_eq_iff_eq] }
  exact f.reachable_iff.symm

/-- Pairs of indices below a bound connect what the graph on these indices does. -/
theorem connected_iff_reachable {size : ℕ} {pairs : List (ℕ × ℕ)}
    (h : ∀ p ∈ pairs, p.1 < size ∧ p.2 < size) (v w : Fin size) :
    UnionFind.Connected pairs v w ↔
      (SimpleGraph.fromRel fun a b : Fin size => ((a : ℕ), (b : ℕ)) ∈ pairs).Reachable v w := by
  rw [reachable_fromRel_iff]
  constructor
  · intro hc
    have hrange : ∀ {a b : ℕ}, UnionFind.Connected pairs a b → (a < size ↔ b < size) ∧
        ∀ (ha : a < size) (hb : b < size),
          Relation.EqvGen (fun a b : Fin size => ((a : ℕ), (b : ℕ)) ∈ pairs) ⟨a, ha⟩ ⟨b, hb⟩ := by
      intro a b hab
      induction hab with
      | rel a b hab => exact ⟨iff_of_true (h _ hab).1 (h _ hab).2, fun _ _ => .rel _ _ hab⟩
      | refl a => exact ⟨Iff.rfl, fun _ _ => .refl _⟩
      | symm a b _ ih => exact ⟨ih.1.symm, fun ha hb => .symm _ _ (ih.2 hb ha)⟩
      | trans a b c _ _ ih ih' =>
        exact ⟨ih.1.trans ih'.1, fun ha hc =>
          .trans _ _ _ (ih.2 ha (ih.1.mp ha)) (ih'.2 (ih.1.mp ha) hc)⟩
    exact (hrange hc).2 v.2 w.2
  · intro hc
    induction hc with
    | rel a b hab => exact .rel _ _ hab
    | refl a => exact .refl _
    | symm a b _ ih => exact .symm _ _ ih
    | trans a b c _ _ ih ih' => exact .trans _ _ _ ih ih'

theorem ncard_supp {size : ℕ} (G : SimpleGraph (Fin size)) (v : Fin size) (p : Fin size → Bool)
    (hp : ∀ w, p w = true ↔ G.Reachable w v) :
    ((List.finRange size).filter p).length = (G.connectedComponentMk v).supp.ncard := by
  have hsupp : (G.connectedComponentMk v).supp = ((List.finRange size).filter p).toFinset := by
    ext w
    simp [hp]
  rw [hsupp, Set.ncard_coe_finset, List.toFinset_card_of_nodup]
  exact (List.nodup_finRange size).filter _

section Growth

variable {V W : Type} {G : SimpleGraph V} {H : SimpleGraph W}

theorem map_mem_supp (f : G →g H) {component : G.ConnectedComponent} {v : V}
    (h : v ∈ component.supp) : f v ∈ (component.map f).supp := by
  induction component using SimpleGraph.ConnectedComponent.ind with
  | h w =>
    simp only [SimpleGraph.ConnectedComponent.mem_supp_iff,
      SimpleGraph.ConnectedComponent.eq] at h
    simp only [SimpleGraph.ConnectedComponent.map_mk, SimpleGraph.ConnectedComponent.mem_supp_iff,
      SimpleGraph.ConnectedComponent.eq]
    exact h.map f

theorem ncard_supp_le_map [Finite W] (f : G →g H) (hf : Function.Injective f)
    (component : G.ConnectedComponent) :
    component.supp.ncard ≤ (component.map f).supp.ncard := by
  rw [← Set.ncard_image_of_injective component.supp hf]
  refine Set.ncard_le_ncard ?_ (Set.toFinite _)
  rintro _ ⟨v, hv, rfl⟩
  exact map_mem_supp f hv

end Growth

end PointcloudAd.Library
