import PointcloudAd.Library.Action

/-!
# Invariants of reused state

A property of the state that an action keeps whether it throws or not, and the relation of two
actions that end alike from states with such properties. What the state of one side has to be is
then no concern of the other side.
-/

namespace PointcloudAd.Library.Action

variable {σ τ ω ε α β γ δ : Type}

/-- The action leaves a state with the property where it found one. -/
def Keeps (P : σ → Prop) (x : Action σ ω ε α) : Prop := ∀ s, P s → P (x s).2.1

section Keeps

variable {P : σ → Prop}

theorem Keeps.pure (a : α) : Keeps P (Pure.pure a : Action σ ω ε α) := fun _ h => h

theorem Keeps.throw (e : ε) : Keeps P (Action.throw e : Action σ ω ε α) := fun _ h => h

theorem Keeps.emit (o : ω) : Keeps P (Action.emit o : Action σ ω ε Unit) := fun _ h => h

theorem Keeps.bind {x : Action σ ω ε α} {f : α → Action σ ω ε β} (hx : Keeps P x)
    (hf : ∀ a, Keeps P (f a)) : Keeps P (x >>= f) := by
  intro s hs
  have hleft : P (x s).2.1 := hx s hs
  change P (Action.bind x f s).2.1
  unfold Action.bind
  rcases hrun : x s with ⟨e | a, s', log⟩ <;> rw [hrun] at hleft
  · exact hleft
  · exact hf a s' hleft

end Keeps

theorem outcome_lift_map (x : Except ε α) (f : α → β) (s : σ) :
    (Action.lift x >>= fun a => Pure.pure (f a) : Action σ ω ε β).outcome s = x.map f := by
  cases x <;> rfl

/-- From states with the properties the actions end alike, emit the same log, and leave states with
the properties. -/
structure RelatedFrom (P : σ → Prop) (Q : τ → Prop) (R : α → β → Prop) (x : Action σ ω ε α)
    (y : Action τ ω ε β) : Prop where
  outcome : ∀ s t, P s → Q t → Outcome R (x.outcome s) (y.outcome t)
  log : ∀ s t, P s → Q t → x.log s = y.log t
  left : ∀ s t, P s → Q t → P (x s).2.1
  right : ∀ s t, P s → Q t → Q (y t).2.1

namespace RelatedFrom

variable {P : σ → Prop} {Q : τ → Prop} {R : α → β → Prop} {S : γ → δ → Prop}
  {x : Action σ ω ε α} {y : Action τ ω ε β}

theorem pure {a : α} {b : β} (h : R a b) :
    RelatedFrom P Q R (Pure.pure a : Action σ ω ε α) (Pure.pure b : Action τ ω ε β) :=
  ⟨fun _ _ _ _ => .ok h, fun _ _ _ _ => rfl, fun _ _ h _ => h, fun _ _ _ h => h⟩

theorem throw (e : ε) :
    RelatedFrom P Q R (Action.throw e : Action σ ω ε α) (Action.throw e : Action τ ω ε β) :=
  ⟨fun _ _ _ _ => .error e, fun _ _ _ _ => rfl, fun _ _ h _ => h, fun _ _ _ h => h⟩

theorem of_outcome {y : Action τ ω ε α} (hx : Silent x) (hy : Silent y) (hleft : Keeps P x)
    (hright : Keeps Q y) (h : ∀ s t, P s → Q t → x.outcome s = y.outcome t) :
    RelatedFrom P Q Eq x y :=
  ⟨fun s t hs ht => Outcome.eq_iff.mpr (h s t hs ht), fun s t _ _ => (hx s).trans (hy t).symm,
    fun s _ hs _ => hleft s hs, fun _ t _ ht => hright t ht⟩

theorem emit (o : ω) :
    RelatedFrom P Q (fun _ _ => True) (Action.emit o : Action σ ω ε Unit)
      (Action.emit o : Action τ ω ε Unit) :=
  ⟨fun _ _ _ _ => .ok trivial, fun _ _ _ _ => rfl, fun _ _ h _ => h, fun _ _ _ h => h⟩

theorem bind {f : α → Action σ ω ε γ} {g : β → Action τ ω ε δ} (hxy : RelatedFrom P Q R x y)
    (hfg : ∀ a b, R a b → RelatedFrom P Q S (f a) (g b)) :
    RelatedFrom P Q S (x >>= f) (y >>= g) := by
  have hall : ∀ s t, P s → Q t → Outcome S (Action.bind x f s).1 (Action.bind y g t).1 ∧
      (Action.bind x f s).2.2 = (Action.bind y g t).2.2 ∧ P (Action.bind x f s).2.1 ∧
      Q (Action.bind y g t).2.1 := by
    intro s t hs ht
    have ho : Outcome R (x s).1 (y t).1 := hxy.outcome s t hs ht
    have hlog : (x s).2.2 = (y t).2.2 := hxy.log s t hs ht
    have hleft := hxy.left s t hs ht
    have hright := hxy.right s t hs ht
    unfold Action.bind
    rcases hx : x s with ⟨a | a, s', l⟩ <;> rcases hy : y t with ⟨b | b, t', l'⟩ <;>
      simp only [hx, hy] at ho hlog hleft hright ⊢
    · cases ho
      exact ⟨.error _, hlog, hleft, hright⟩
    · cases ho
    · cases ho
    · cases ho with
      | ok hab =>
        have hnext := hfg a b hab
        exact ⟨hnext.outcome s' t' hleft hright,
          congrArg₂ (· ++ ·) hlog (hnext.log s' t' hleft hright),
          hnext.left s' t' hleft hright, hnext.right s' t' hleft hright⟩
  exact ⟨fun s t hs ht => (hall s t hs ht).1, fun s t hs ht => (hall s t hs ht).2.1,
    fun s t hs ht => (hall s t hs ht).2.2.1, fun s t hs ht => (hall s t hs ht).2.2.2⟩

theorem outcome_eq {y : Action τ ω ε α} (h : RelatedFrom P Q Eq x y) {s : σ} {t : τ} (hs : P s)
    (ht : Q t) : x.outcome s = y.outcome t :=
  Outcome.eq_iff.mp (h.outcome s t hs ht)

end RelatedFrom

end PointcloudAd.Library.Action
