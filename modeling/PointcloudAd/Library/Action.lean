import PointcloudAd.Library.Outcome

/-!
# Computations over reused state

An action works on a mutable state, may throw, and emits a log of observations; an exception
keeps the state and the log written so far. Two actions are related when, started from any two
states, they throw the same exception or return related values, and emit the same log. The rules
relate composed actions from their parts, so a program that never lets its state reach its
result is shown to do so line by line.
-/

namespace PointcloudAd.Library

variable {σ τ ω ε α β γ δ : Type}

/-- A computation over a state that may throw, and what it has emitted when it ends. -/
def Action (σ ω ε α : Type) : Type := σ → Except ε α × σ × List ω

namespace Action

protected def pure (a : α) : Action σ ω ε α := fun s => (.ok a, s, [])

protected def bind (x : Action σ ω ε α) (f : α → Action σ ω ε β) : Action σ ω ε β := fun s =>
  match x s with
  | (.error e, s, log) => (.error e, s, log)
  | (.ok a, s, log) =>
    let r := f a s
    (r.1, r.2.1, log ++ r.2.2)

instance : Monad (Action σ ω ε) where
  pure := Action.pure
  bind := Action.bind

def throw (e : ε) : Action σ ω ε α := fun s => (.error e, s, [])

def emit (o : ω) : Action σ ω ε Unit := fun s => (.ok (), s, [o])

/-- A result that needs no state. -/
def lift (x : Except ε α) : Action σ ω ε α := fun s => (x, s, [])

/-- The exception or value an action ends with. -/
def outcome (x : Action σ ω ε α) (s : σ) : Except ε α := (x s).1

/-- What an action emits. -/
def log (x : Action σ ω ε α) (s : σ) : List ω := (x s).2.2

theorem bind_ok {x : Action σ ω ε α} {f : α → Action σ ω ε β} {s : σ} {a : α}
    (h : x.outcome s = .ok a) : ∃ s', (x >>= f).outcome s = (f a).outcome s' ∧
      (x >>= f).log s = x.log s ++ (f a).log s' := by
  rcases hx : x s with ⟨out, s', log⟩
  have hout : out = .ok a := by rw [← h, outcome, hx]
  refine ⟨s', ?_, ?_⟩
  · change (Action.bind x f s).1 = (f a s').1
    rw [Action.bind, hx, hout]
  · change (Action.bind x f s).2.2 = (x s).2.2 ++ (f a s').2.2
    rw [Action.bind, hx, hout]

theorem outcome_bind_ok {x : Action σ ω ε α} {f : α → Action σ ω ε β} {s : σ} {a : α}
    (h : x.outcome s = .ok a) : ∃ s', (x >>= f).outcome s = (f a).outcome s' := by
  obtain ⟨s', houtcome, -⟩ := bind_ok (f := f) h
  exact ⟨s', houtcome⟩

theorem bind_inv {x : Action σ ω ε α} {f : α → Action σ ω ε β} {s : σ} {b : β}
    (h : (x >>= f).outcome s = .ok b) : ∃ a s', x.outcome s = .ok a ∧
      (f a).outcome s' = .ok b ∧ (x >>= f).log s = x.log s ++ (f a).log s' := by
  cases hx : x.outcome s with
  | ok a =>
    obtain ⟨s', hs', hlog⟩ := bind_ok (f := f) hx
    exact ⟨a, s', rfl, hs'.symm.trans h, hlog⟩
  | error e =>
    rcases hrun : x s with ⟨out, s', log⟩
    have hout : out = .error e := by rw [← hx, outcome, hrun]
    change (Action.bind x f s).1 = .ok b at h
    rw [Action.bind, hrun, hout] at h
    cases h

theorem outcome_bind_inv {x : Action σ ω ε α} {f : α → Action σ ω ε β} {s : σ} {b : β}
    (h : (x >>= f).outcome s = .ok b) : ∃ a s', x.outcome s = .ok a ∧ (f a).outcome s' = .ok b := by
  obtain ⟨a, s', hx, hf, -⟩ := bind_inv h
  exact ⟨a, s', hx, hf⟩

/-- An action that emits nothing, whatever state it starts from. -/
def Silent (x : Action σ ω ε α) : Prop := ∀ s, x.log s = []

theorem Silent.pure (a : α) : Silent (Pure.pure a : Action σ ω ε α) := fun _ => rfl

theorem Silent.lift (x : Except ε α) : Silent (Action.lift x : Action σ ω ε α) := fun _ => rfl

theorem Silent.bind {x : Action σ ω ε α} {f : α → Action σ ω ε β} (hx : x.Silent)
    (hf : ∀ a, (f a).Silent) : (x >>= f).Silent := by
  intro s
  have hlog : (x s).2.2 = [] := hx s
  change (Action.bind x f s).2.2 = []
  unfold Action.bind
  rcases hrun : x s with ⟨_ | a, s', log⟩
  · rwa [hrun] at hlog
  · rw [hrun] at hlog
    obtain rfl : log = [] := hlog
    exact hf a s'

/-- An action that ends with a value, whatever state it starts from. -/
def Returns (x : Action σ ω ε α) : Prop := ∀ s, ∃ a, x.outcome s = .ok a

theorem Returns.pure (a : α) : Returns (Pure.pure a : Action σ ω ε α) := fun _ => ⟨a, rfl⟩

theorem Returns.emit (o : ω) : Returns (Action.emit o : Action σ ω ε Unit) := fun _ => ⟨(), rfl⟩

theorem Returns.bind {x : Action σ ω ε α} {f : α → Action σ ω ε β} (hx : x.Returns)
    (hf : ∀ a, (f a).Returns) : (x >>= f).Returns := by
  intro s
  obtain ⟨a, ha⟩ := hx s
  obtain ⟨s', hs'⟩ := outcome_bind_ok (f := f) ha
  obtain ⟨b, hb⟩ := hf a s'
  exact ⟨b, hs'.trans hb⟩

/-- The two actions end alike and emit the same log, whatever states they start from. -/
structure Related (R : α → β → Prop) (x : Action σ ω ε α) (y : Action τ ω ε β) : Prop where
  outcome : ∀ s t, Outcome R (x.outcome s) (y.outcome t)
  log : ∀ s t, x.log s = y.log t

namespace Related

variable {R : α → β → Prop} {S : γ → δ → Prop} {x : Action σ ω ε α} {y : Action τ ω ε β}

theorem pure {a : α} {b : β} (h : R a b) :
    Related R (Pure.pure a : Action σ ω ε α) (Pure.pure b : Action τ ω ε β) :=
  ⟨fun _ _ => .ok h, fun _ _ => rfl⟩

theorem throw (e : ε) :
    Related R (Action.throw e : Action σ ω ε α) (Action.throw e : Action τ ω ε β) :=
  ⟨fun _ _ => .error e, fun _ _ => rfl⟩

theorem emit (o : ω) :
    Related (fun _ _ => True) (Action.emit o : Action σ ω ε Unit)
      (Action.emit o : Action τ ω ε Unit) :=
  ⟨fun _ _ => .ok trivial, fun _ _ => rfl⟩

theorem lift {x : Except ε α} {y : Except ε β} (h : Outcome R x y) :
    Related R (Action.lift x : Action σ ω ε α) (Action.lift y : Action τ ω ε β) :=
  ⟨fun _ _ => h, fun _ _ => rfl⟩

theorem bind {f : α → Action σ ω ε γ} {g : β → Action τ ω ε δ} (hxy : Related R x y)
    (hfg : ∀ a b, R a b → Related S (f a) (g b)) : Related S (x >>= f) (y >>= g) := by
  have hboth : ∀ s t, Outcome S (Action.bind x f s).1 (Action.bind y g t).1 ∧
      (Action.bind x f s).2.2 = (Action.bind y g t).2.2 := by
    intro s t
    have ho : Outcome R (x s).1 (y t).1 := hxy.outcome s t
    have hl : (x s).2.2 = (y t).2.2 := hxy.log s t
    unfold Action.bind
    rcases hx : x s with ⟨a | a, s', l⟩ <;> rcases hy : y t with ⟨b | b, t', l'⟩ <;>
      simp only [hx, hy] at ho hl ⊢
    · cases ho
      exact ⟨.error _, hl⟩
    · cases ho
    · cases ho
    · cases ho with
      | ok hab =>
        exact ⟨(hfg a b hab).outcome s' t', congrArg₂ (· ++ ·) hl ((hfg a b hab).log s' t')⟩
  exact ⟨fun s t => (hboth s t).1, fun s t => (hboth s t).2⟩

theorem mono {R' : α → β → Prop} (hxy : Related R x y) (h : ∀ a b, R a b → R' a b) :
    Related R' x y :=
  ⟨fun s t => (hxy.outcome s t).mono h, hxy.log⟩

theorem of_eq {y : Action τ ω ε α} (h : ∀ s t, (x s).1 = (y t).1 ∧ (x s).2.2 = (y t).2.2) :
    Related Eq x y :=
  ⟨fun s t => Outcome.eq_iff.mpr (h s t).1, fun s t => (h s t).2⟩

theorem foldlM {f : γ → α → Action σ ω ε γ} {g : δ → β → Action τ ω ε δ}
    (hfg : ∀ c d a b, S c d → R a b → Related S (f c a) (g d b)) :
    ∀ {l : List α} {m : List β}, List.Forall₂ R l m → ∀ {c : γ} {d : δ}, S c d →
      Related S (l.foldlM f c) (m.foldlM g d)
  | [], [], _, c, d, h => .pure h
  | a :: l, b :: m, .cons hab hlm, c, d, h => by
    rw [List.foldlM_cons, List.foldlM_cons]
    exact (hfg c d a b h hab).bind fun c' d' h' => foldlM hfg hlm h'

theorem outcome_eq {y : Action τ ω ε α} (h : Related Eq x y) (s : σ) (t : τ) :
    x.outcome s = y.outcome t :=
  Outcome.eq_iff.mp (h.outcome s t)

end Related
end Action
end PointcloudAd.Library
