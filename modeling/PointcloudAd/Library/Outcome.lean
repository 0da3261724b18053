import Mathlib.Data.List.Forall2
import Mathlib.Tactic.Common

/-!
# Computations that may fail

Inversion of a successful composition, and the relation of two computations that fail alike or
return related values.
-/

namespace PointcloudAd.Library

variable {ε α β γ δ : Type}

theorem ok_bind {a : α} {f : α → Except ε β} : (Except.ok a >>= f) = f a := rfl

theorem bind_ok_iff {x : Except ε α} {f : α → Except ε β} {b : β} :
    x >>= f = .ok b ↔ ∃ a, x = .ok a ∧ f a = .ok b := by
  cases x with
  | error e => simp [bind, Except.bind]
  | ok a => simp [bind, Except.bind]

theorem bind_error_iff {x : Except ε α} {f : α → Except ε β} {e : ε} :
    x >>= f = .error e ↔ x = .error e ∨ ∃ a, x = .ok a ∧ f a = .error e := by
  cases x with
  | error e' => simp [bind, Except.bind]
  | ok a => simp [bind, Except.bind]

theorem exists_ok {x : Except ε α} (h : x.isOk = true) : ∃ a, x = .ok a := by
  cases x with
  | error e => cases h
  | ok a => exact ⟨a, rfl⟩

theorem exists_ok_and {x : Except ε α} {p : α → Prop} [DecidablePred p]
    (h : (x.toOption.any fun a => p a) = true) : ∃ a, x = .ok a ∧ p a := by
  cases x with
  | error e => cases h
  | ok a => exact ⟨a, rfl, of_decide_eq_true h⟩

/-- Fails with `e` unless `p` holds. -/
def check (p : Prop) [Decidable p] (e : ε) : Except ε Unit := if p then .ok () else .error e

theorem check_ok_iff {p : Prop} [Decidable p] {e : ε} {u : Unit} : check p e = .ok u ↔ p := by
  unfold check
  split_ifs with h <;> simp [h]

theorem map_ok_iff {f : α → β} {x : Except ε α} {b : β} :
    x.map f = .ok b ↔ ∃ a, x = .ok a ∧ f a = b := by
  cases x <;> simp [Except.map]

theorem mapError_ok_iff {δ : Type} {f : ε → δ} {x : Except ε α} {a : α} :
    x.mapError f = .ok a ↔ x = .ok a := by
  cases x <;> simp [Except.mapError]

theorem mapError_error_iff {δ : Type} {f : ε → δ} {x : Except ε α} {d : δ} :
    x.mapError f = .error d ↔ ∃ e, x = .error e ∧ d = f e := by
  cases x <;> simp [Except.mapError, eq_comm]

theorem forM_ok_iff {f : α → Except ε Unit} {l : List α} :
    forM l f = .ok () ↔ ∀ a ∈ l, f a = .ok () := by
  induction l with
  | nil => simp [pure, Except.pure]
  | cons a l ih =>
    simp only [List.forM_cons, bind_ok_iff, ih, List.forall_mem_cons]
    exact ⟨fun ⟨_, h⟩ => h, fun h => ⟨(), h⟩⟩

theorem forM_error {f : α → Except ε Unit} {l : List α} {e : ε} (h : forM l f = .error e) :
    ∃ a ∈ l, f a = .error e := by
  induction l with
  | nil => cases h
  | cons a l ih =>
    rw [List.forM_cons] at h
    rcases bind_error_iff.mp h with ha | ⟨_, -, hl⟩
    · exact ⟨a, by simp, ha⟩
    · obtain ⟨b, hb, he⟩ := ih hl
      exact ⟨b, by simp [hb], he⟩

theorem forM_congr {f : α → Except ε Unit} {g : β → Except ε Unit} {l : List α} {m : List β}
    (h : List.Forall₂ (fun a b => f a = g b) l m) : forM l f = forM m g := by
  induction h with
  | nil => rfl
  | cons hab _ ih => rw [List.forM_cons, List.forM_cons, hab, ih]

theorem mapM_ok_iff {f : α → Except ε β} {l : List α} {m : List β} :
    l.mapM f = .ok m ↔ List.Forall₂ (fun a b => f a = .ok b) l m := by
  induction l generalizing m with
  | nil => simp [pure, Except.pure, eq_comm]
  | cons a l ih =>
    simp only [List.mapM_cons, bind_ok_iff, ih]
    constructor
    · rintro ⟨b, hb, m, hm, h⟩
      cases h
      exact .cons hb hm
    · rintro (_ | ⟨hb, hm⟩)
      exact ⟨_, hb, _, hm, rfl⟩

theorem mapM_congr {f g : α → Except ε β} {l : List α} (h : ∀ a ∈ l, f a = g a) :
    l.mapM f = l.mapM g := by
  induction l with
  | nil => rfl
  | cons a l ih =>
    rw [List.mapM_cons, List.mapM_cons, h a (by simp), ih fun b hb => h b (by simp [hb])]

theorem map_of_mapM {f : α → Except ε β} {l : List α} {m : List β} (h : l.mapM f = .ok m)
    {g : β → γ} {k : α → γ} (hstep : ∀ a b, f a = .ok b → g b = k a) : m.map g = l.map k := by
  rw [mapM_ok_iff] at h
  induction h with
  | nil => rfl
  | cons hab _ ih => rw [List.map_cons, List.map_cons, hstep _ _ hab, ih]

theorem exists_mapM_iff {f : α → Except ε β} {l : List α} {m : List β} (h : l.mapM f = .ok m)
    (p : β → Prop) : (∃ b ∈ m, p b) ↔ ∃ a ∈ l, ∃ b, f a = .ok b ∧ p b := by
  rw [mapM_ok_iff] at h
  induction h with
  | nil => simp
  | cons hab _ ih => simp [ih, hab]

theorem exists_mapM_ok {f : α → Except ε β} {l : List α} (h : ∀ a ∈ l, ∃ b, f a = .ok b) :
    ∃ m, l.mapM f = .ok m := by
  induction l with
  | nil => exact ⟨[], rfl⟩
  | cons a l ih =>
    obtain ⟨b, hb⟩ := h a (by simp)
    obtain ⟨m, hm⟩ := ih fun a' ha' => h a' (by simp [ha'])
    exact ⟨b :: m, by rw [List.mapM_cons, hb, hm]; rfl⟩

theorem getElem?_mapM {f : α → Except ε β} {l : List α} {m : List β} (h : l.mapM f = .ok m) {k : ℕ}
    {a : α} (ha : l[k]? = some a) : ∃ b, m[k]? = some b ∧ f a = .ok b := by
  rw [mapM_ok_iff] at h
  induction h generalizing k with
  | nil => cases ha
  | cons hab _ ih =>
    cases k with
    | zero =>
      rw [List.getElem?_cons_zero, Option.some.injEq] at ha
      subst ha
      exact ⟨_, rfl, hab⟩
    | succ k => exact ih ha

theorem ok_of_mapM {f : α → Except ε β} {l : List α} {m : List β} (h : l.mapM f = .ok m) :
    ∀ a ∈ l, ∃ b, f a = .ok b := by
  rw [mapM_ok_iff] at h
  induction h with
  | nil => simp
  | cons hab _ ih => simpa [hab] using ih

theorem foldlM_ok {P : β → Prop} {f : β → α → Except ε β}
    (hf : ∀ b a b', P b → f b a = .ok b' → P b') :
    ∀ {l : List α} {b b' : β}, P b → l.foldlM f b = .ok b' → P b'
  | [], b, b', hb, h => by
    cases h
    exact hb
  | a :: l, b, b', hb, h => by
    rw [List.foldlM_cons, bind_ok_iff] at h
    obtain ⟨c, hc, h⟩ := h
    exact foldlM_ok hf (hf b a c hb hc) h

/-- The error of a failed computation. -/
def errorOf : Except ε α → Option ε
  | .error e => some e
  | .ok _ => none

def valueOf [Inhabited α] : Except ε α → α
  | .error _ => default
  | .ok a => a

@[simp] theorem errorOf_ok (a : α) : errorOf (.ok a : Except ε α) = none := rfl

@[simp] theorem valueOf_ok [Inhabited α] (a : α) : valueOf (.ok a : Except ε α) = a := rfl

theorem mapM_eq [Inhabited β] {f : α → Except ε β} (l : List α) :
    l.mapM f = match l.findSome? fun a => errorOf (f a) with
      | some e => .error e
      | none => .ok (l.map fun a => valueOf (f a)) := by
  induction l with
  | nil => rfl
  | cons a l ih =>
    rw [List.mapM_cons, List.findSome?_cons, ih]
    cases hf : f a with
    | error e => rfl
    | ok b =>
      rw [List.map_cons, hf, errorOf_ok, valueOf_ok]
      cases l.findSome? fun a => errorOf (f a) <;> rfl

/-- The same exception, or related values. -/
inductive Outcome (R : α → β → Prop) : Except ε α → Except ε β → Prop
  | error (e : ε) : Outcome R (.error e) (.error e)
  | ok {a : α} {b : β} : R a b → Outcome R (.ok a) (.ok b)

namespace Outcome

variable {R : α → β → Prop} {S : γ → δ → Prop}

theorem refl {R : α → α → Prop} (h : ∀ a, R a a) (x : Except ε α) : Outcome R x x := by
  cases x with
  | error e => exact .error e
  | ok a => exact .ok (h a)

theorem eq_iff {x y : Except ε α} : Outcome Eq x y ↔ x = y := by
  constructor
  · rintro (⟨e⟩ | ⟨rfl⟩) <;> rfl
  · rintro rfl
    exact refl (fun _ => rfl) x

theorem mono {R' : α → β → Prop} (h : ∀ a b, R a b → R' a b) {x : Except ε α} {y : Except ε β}
    (hxy : Outcome R x y) : Outcome R' x y := by
  cases hxy with
  | error e => exact .error e
  | ok hab => exact .ok (h _ _ hab)

theorem mono_of_eq {R' : α → β → Prop} {x : Except ε α} {y : Except ε β} (hxy : Outcome R x y)
    (h : ∀ a b, x = .ok a → y = .ok b → R a b → R' a b) : Outcome R' x y := by
  cases hxy with
  | error e => exact .error e
  | ok hab => exact .ok (h _ _ rfl rfl hab)

theorem bind {x : Except ε α} {y : Except ε β} {f : α → Except ε γ} {g : β → Except ε δ}
    (hxy : Outcome R x y) (hfg : ∀ a b, R a b → Outcome S (f a) (g b)) :
    Outcome S (x >>= f) (y >>= g) := by
  cases hxy with
  | error e => exact .error e
  | ok hab => exact hfg _ _ hab

theorem bind_of_eq {x : Except ε α} {y : Except ε β} {f : α → Except ε γ} {g : β → Except ε δ}
    (hxy : Outcome R x y)
    (hfg : ∀ a b, x = .ok a → y = .ok b → R a b → Outcome S (f a) (g b)) :
    Outcome S (x >>= f) (y >>= g) := by
  cases hxy with
  | error e => exact .error e
  | ok hab => exact hfg _ _ rfl rfl hab

theorem mapError {ε' : Type} (f : ε → ε') {x : Except ε α} {y : Except ε β} (hxy : Outcome R x y) :
    Outcome R (x.mapError f) (y.mapError f) := by
  cases hxy with
  | error e => exact .error _
  | ok hab => exact .ok hab

theorem foldlM {R : α → β → Prop} {S : γ → δ → Prop} {f : γ → α → Except ε γ}
    {g : δ → β → Except ε δ} (hfg : ∀ c d a b, S c d → R a b → Outcome S (f c a) (g d b)) :
    ∀ {l : List α} {m : List β}, List.Forall₂ R l m → ∀ {c : γ} {d : δ}, S c d →
      Outcome S (l.foldlM f c) (m.foldlM g d)
  | [], [], _, c, d, h => .ok h
  | a :: l, b :: m, .cons hab hlm, c, d, h => by
    rw [List.foldlM_cons, List.foldlM_cons]
    exact (hfg c d a b h hab).bind fun c' d' h' => foldlM hfg hlm h'

theorem foldlM_rest {S : List α → γ → δ → Prop} {f : γ → α → Except ε γ}
    {g : δ → α → Except ε δ}
    (hfg : ∀ a rest c d, S (a :: rest) c d → Outcome (S rest) (f c a) (g d a)) :
    ∀ {l : List α} {c : γ} {d : δ}, S l c d → Outcome (S []) (l.foldlM f c) (l.foldlM g d)
  | [], c, d, h => .ok h
  | a :: l, c, d, h => by
    rw [List.foldlM_cons, List.foldlM_cons]
    exact (hfg a l c d h).bind fun c' d' h' => foldlM_rest hfg h'

theorem mapM {f : α → Except ε γ} {g : β → Except ε δ}
    (hfg : ∀ a b, R a b → Outcome S (f a) (g b)) :
    ∀ {l : List α} {m : List β}, List.Forall₂ R l m →
      Outcome (List.Forall₂ S) (l.mapM f) (m.mapM g)
  | [], [], _ => .ok .nil
  | a :: l, b :: m, .cons hab hlm => by
    rw [List.mapM_cons, List.mapM_cons]
    refine (hfg a b hab).bind fun c d hcd => ?_
    refine (mapM hfg hlm).bind fun cs ds hcs => ?_
    exact .ok (.cons hcd hcs)

theorem map {f : α → γ} {g : β → δ} {x : Except ε α} {y : Except ε β} (hxy : Outcome R x y)
    (hfg : ∀ a b, R a b → S (f a) (g b)) : Outcome S (x.map f) (y.map g) := by
  cases hxy with
  | error e => exact .error e
  | ok hab => exact .ok (hfg _ _ hab)

theorem bind_map_eq {ζ : Type} {x : Except ε α} {y : Except ε β} {f : α → Except ε γ}
    {g : β → Except ε δ} {φ : γ → ζ} {ψ : δ → ζ} (hxy : Outcome R x y)
    (hfg : ∀ a b, x = .ok a → y = .ok b → R a b → (f a).map φ = (g b).map ψ) :
    (x >>= f).map φ = (y >>= g).map ψ := by
  cases hxy with
  | error e => rfl
  | ok hab => exact hfg _ _ rfl rfl hab

theorem exists_left {x : Except ε α} {y : Except ε β} {b : β} (h : Outcome R x y)
    (hy : y = .ok b) : ∃ a, x = .ok a ∧ R a b := by
  cases h with
  | error e => cases hy
  | ok hab =>
    obtain rfl := Except.ok.inj hy
    exact ⟨_, rfl, hab⟩

end Outcome

end PointcloudAd.Library
