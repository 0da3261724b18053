import Mathlib.Tactic.Common

/-!
# Stateful computations that may fail

A failure keeps the state that was reached. A triple says what holds after a success and what holds
after a failure; the rules follow the shape of a computation.
-/

namespace PointcloudAd.Library

abbrev Faulty (ε σ : Type) : Type → Type := ExceptT ε (StateM σ)

namespace Faulty

variable {ε σ α β : Type}

/-- The outcome of a computation and the state it leaves. -/
def outcome (m : Faulty ε σ α) (s : σ) : Except ε α × σ := m.run.run s

theorem outcome_bind (m : Faulty ε σ α) (f : α → Faulty ε σ β) (s : σ) :
    outcome (m >>= f) s = match outcome m s with
      | (.ok a, s) => outcome (f a) s
      | (.error e, s) => (.error e, s) := by
  unfold outcome
  rw [ExceptT.run_bind, StateT.run_bind]
  rcases m.run.run s with ⟨_ | _, _⟩ <;> rfl

theorem outcome_bind_ok_iff {m : Faulty ε σ α} {f : α → Faulty ε σ β} {s s'' : σ} {b : β} :
    outcome (m >>= f) s = (.ok b, s'') ↔
      ∃ a s', outcome m s = (.ok a, s') ∧ outcome (f a) s' = (.ok b, s'') := by
  rw [outcome_bind]
  rcases outcome m s with ⟨_ | a, s'⟩ <;> simp

theorem outcome_bind_error_iff {m : Faulty ε σ α} {f : α → Faulty ε σ β} {s s'' : σ} {e : ε} :
    outcome (m >>= f) s = (.error e, s'') ↔ outcome m s = (.error e, s'') ∨
      ∃ a s', outcome m s = (.ok a, s') ∧ outcome (f a) s' = (.error e, s'') := by
  rw [outcome_bind]
  rcases outcome m s with ⟨_ | a, s'⟩ <;> simp

@[simp] theorem outcome_pure (a : α) (s : σ) :
    outcome (pure a : Faulty ε σ α) s = (.ok a, s) := rfl

@[simp] theorem outcome_throw (e : ε) (s : σ) :
    outcome (throw e : Faulty ε σ α) s = (.error e, s) := rfl

@[simp] theorem outcome_get (s : σ) : outcome (get : Faulty ε σ σ) s = (.ok s, s) := rfl

@[simp] theorem outcome_modify (f : σ → σ) (s : σ) :
    outcome (modify f : Faulty ε σ PUnit) s = (.ok ⟨⟩, f s) := rfl

/-- Fails with `e` unless `p` holds. -/
def require (p : Prop) [Decidable p] (e : ε) : Faulty ε σ Unit := if p then pure () else throw e

/-- The result of a pure computation. -/
def ofExcept (x : Except ε α) : Faulty ε σ α := ExceptT.mk (pure x)

/-- From a state with `P`, a success leaves `Q` and a failure `E`. -/
def Triple (P : σ → Prop) (m : Faulty ε σ α) (Q : α → σ → Prop) (E : σ → Prop) : Prop :=
  ∀ s, P s → match outcome m s with
    | (.ok a, s) => Q a s
    | (.error _, s) => E s

variable {P P' : σ → Prop} {Q Q' : α → σ → Prop} {R : β → σ → Prop} {E E' : σ → Prop}

theorem Triple.pure {a : α} (h : ∀ s, P s → Q a s) : Triple P (pure a : Faulty ε σ α) Q E := h

theorem Triple.throw {e : ε} (h : ∀ s, P s → E s) : Triple P (throw e : Faulty ε σ α) Q E := h

theorem Triple.modify {f : σ → σ} {Q : PUnit → σ → Prop} (h : ∀ s, P s → Q ⟨⟩ (f s)) :
    Triple P (modify f : Faulty ε σ PUnit) Q E := h

theorem Triple.get {Q : σ → σ → Prop} (h : ∀ s, P s → Q s s) :
    Triple P (get : Faulty ε σ σ) Q E := h

theorem Triple.bind {m : Faulty ε σ α} {f : α → Faulty ε σ β} (hm : Triple P m Q E)
    (hf : ∀ a, Triple (Q a) (f a) R E) : Triple P (m >>= f) R E := by
  intro s hs
  have hm := hm s hs
  rw [outcome_bind]
  rcases hrun : outcome m s with ⟨_ | a, s'⟩
  · rw [hrun] at hm
    exact hm
  · rw [hrun] at hm
    exact hf a s' hm

theorem Triple.weaken {m : Faulty ε σ α} (h : Triple P m Q E) (hP : ∀ s, P' s → P s)
    (hQ : ∀ a s, Q a s → Q' a s) (hE : ∀ s, E s → E' s) : Triple P' m Q' E' := by
  intro s hs
  have h := h s (hP s hs)
  rcases hrun : outcome m s with ⟨_ | a, s'⟩
  · rw [hrun] at h
    exact hE s' h
  · rw [hrun] at h
    exact hQ a s' h

theorem Triple.require {p : Prop} [Decidable p] {e : ε} (hE : ∀ s, P s → E s) :
    Triple P (require p e : Faulty ε σ Unit) (fun _ s => P s ∧ p) E := by
  unfold Faulty.require
  split_ifs with hp
  · exact .pure fun s hs => ⟨hs, hp⟩
  · exact .throw hE

theorem Triple.require_split {p : Prop} [Decidable p] {e : ε} {f : Unit → Faulty ε σ α}
    (hE : ¬ p → ∀ s, P s → E s) (h : p → Triple P (f ()) Q E) :
    Triple P (Faulty.require p e >>= f) Q E := by
  intro s hs
  rw [outcome_bind, Faulty.require]
  split_ifs with hp
  · exact h hp s hs
  · exact hE hp s hs

theorem Triple.require_bind {p : Prop} [Decidable p] {e : ε} {f : Unit → Faulty ε σ α}
    (hE : ∀ s, P s → E s) (h : p → Triple P (f ()) Q E) :
    Triple P (Faulty.require p e >>= f) Q E := .require_split (fun _ => hE) h

theorem Triple.ite {p : Prop} [Decidable p] {m n : Faulty ε σ α}
    (hm : Triple (fun s => P s ∧ p) m Q E) (hn : Triple (fun s => P s ∧ ¬ p) n Q E) :
    Triple P (if p then m else n) Q E := by
  intro s hs
  split_ifs with hp
  · exact hm s ⟨hs, hp⟩
  · exact hn s ⟨hs, hp⟩

theorem Triple.forM {f : α → Faulty ε σ PUnit} : ∀ {l : List α},
    (∀ a ∈ l, Triple P (f a) (fun _ => P) E) → Triple P (forM l f) (fun _ => P) E
  | [], _ => .pure fun _ h => h
  | a :: l, h => by
    rw [List.forM_cons]
    exact (h a (by simp)).bind fun _ => Triple.forM fun a' ha' => h a' (by simp [ha'])

theorem Triple.ok {m : Faulty ε σ α} (h : Triple P m Q E) {s s' : σ} (hs : P s) {a : α}
    (hrun : outcome m s = (.ok a, s')) : Q a s' := by
  have h := h s hs
  rw [hrun] at h
  exact h

theorem Triple.error {m : Faulty ε σ α} (h : Triple P m Q E) {s s' : σ} (hs : P s) {e : ε}
    (hrun : outcome m s = (.error e, s')) : E s' := by
  have h := h s hs
  rw [hrun] at h
  exact h

/-- A computation that succeeds from every state, with one value. -/
def Returns (m : Faulty ε σ α) (a : α) : Prop := ∀ s, ∃ s', outcome m s = (.ok a, s')

theorem Returns.pure (a : α) : Returns (pure a : Faulty ε σ α) a := fun s => ⟨s, rfl⟩

theorem Returns.bind {m : Faulty ε σ α} {f : α → Faulty ε σ β} {a : α} {b : β}
    (hm : Returns m a) (hf : Returns (f a) b) : Returns (m >>= f) b := by
  intro s
  obtain ⟨s', hs'⟩ := hm s
  obtain ⟨s'', hs''⟩ := hf s'
  refine ⟨s'', ?_⟩
  rw [outcome_bind, hs']
  exact hs''

theorem Returns.mapM {f : α → Faulty ε σ β} {g : α → β} :
    ∀ {l : List α}, (∀ a ∈ l, Returns (f a) (g a)) → Returns (l.mapM f) (l.map g)
  | [], _ => by
    rw [List.mapM_nil]
    exact .pure []
  | a :: l, h => by
    rw [List.mapM_cons]
    exact (h a (by simp)).bind ((Returns.mapM fun a' ha' => h a' (by simp [ha'])).bind (.pure _))

end Faulty

end PointcloudAd.Library
