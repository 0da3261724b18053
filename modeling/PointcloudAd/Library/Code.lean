import PointcloudAd.Library.Outcome

/-!
# Code of single accesses

What a worker runs, as a tree with one access to its scratch or to a cell at each node, so that
other workers may take their steps between any two of them. Code that is left alone is a function of
the scratch and of the cells. Code that keeps to some cells neither shows in the others nor sees
them.
-/

namespace PointcloudAd.Library

/-- Code over a scratch `κ` and over cells `β` with addresses `ι`. A write may leave a part of the
scratch or of the cell as it was. -/
inductive Code (ι κ β ε α : Type) where
  | pure (value : α)
  | throw (error : ε)
  | readScratch (next : κ → Code ι κ β ε α)
  | writeScratch (write : κ → κ) (next : Code ι κ β ε α)
  | readCell (cell : ι) (next : β → Code ι κ β ε α)
  | writeCell (cell : ι) (write : β → β) (next : Code ι κ β ε α)

/-- How cells are kept. -/
structure Cells (σ ι β : Type) where
  load : σ → ι → β
  store : σ → ι → (β → β) → σ

/-- A cell of its own. -/
def Cells.one (β : Type) : Cells β Unit β := ⟨fun c _ => c, fun c _ write => write c⟩

def Cells.list (β : Type) [Inhabited β] : Cells (List β) ℕ β :=
  ⟨fun cells c => cells.getD c default, fun cells c write => cells.modify c write⟩

namespace Code

variable {ι ι' κ β ε α γ σ : Type}

def bind : Code ι κ β ε α → (α → Code ι κ β ε γ) → Code ι κ β ε γ
  | .pure value, rest => rest value
  | .throw e, _ => .throw e
  | .readScratch next, rest => .readScratch fun scratch => (next scratch).bind rest
  | .writeScratch write next, rest => .writeScratch write (next.bind rest)
  | .readCell cell next, rest => .readCell cell fun value => (next value).bind rest
  | .writeCell cell write next, rest => .writeCell cell write (next.bind rest)

instance : Monad (Code ι κ β ε) where
  pure := .pure
  bind := .bind

def lift : Except ε α → Code ι κ β ε α
  | .ok value => .pure value
  | .error e => .throw e

def scratch : Code ι κ β ε κ := .readScratch .pure

def setScratch (write : κ → κ) : Code ι κ β ε Unit := .writeScratch write (.pure ())

def load (cell : ι) : Code ι κ β ε β := .readCell cell .pure

def store (cell : ι) (write : β → β) : Code ι κ β ε Unit := .writeCell cell write (.pure ())

/-- Code with a cell of its own, at the address of the cell. -/
def onCell (cell : ι') : Code ι κ β ε α → Code ι' κ β ε α
  | .pure value => .pure value
  | .throw e => .throw e
  | .readScratch next => .readScratch fun scratch => (next scratch).onCell cell
  | .writeScratch write next => .writeScratch write (next.onCell cell)
  | .readCell _ next => .readCell cell fun value => (next value).onCell cell
  | .writeCell _ write next => .writeCell cell write (next.onCell cell)

/-- The code to its end: the scratch, the cells, and how it ends. -/
def run (cells : Cells σ ι β) : Code ι κ β ε α → κ → σ → κ × σ × Except ε α
  | .pure value, k, s => (k, s, .ok value)
  | .throw e, k, s => (k, s, .error e)
  | .readScratch next, k, s => (next k).run cells k s
  | .writeScratch write next, k, s => next.run cells (write k) s
  | .readCell c next, k, s => (next (cells.load s c)).run cells k s
  | .writeCell c write next, k, s => next.run cells k (cells.store s c write)

/-- One access of the code, which is not at its end. -/
def access (cells : Cells σ ι β) : Code ι κ β ε α → κ → σ → Code ι κ β ε α × κ × σ
  | .pure value, k, s => (.pure value, k, s)
  | .throw e, k, s => (.throw e, k, s)
  | .readScratch next, k, s => (next k, k, s)
  | .writeScratch write next, k, s => (next, write k, s)
  | .readCell c next, k, s => (next (cells.load s c), k, s)
  | .writeCell c write next, k, s => (next, k, cells.store s c write)

/-- The code accesses no other cells. -/
def Within (owned : ι → Prop) : Code ι κ β ε α → Prop
  | .pure _ => True
  | .throw _ => True
  | .readScratch next => ∀ scratch, (next scratch).Within owned
  | .writeScratch _ next => next.Within owned
  | .readCell c next => owned c ∧ ∀ value, (next value).Within owned
  | .writeCell c _ next => owned c ∧ next.Within owned

section Run

variable (cells : Cells σ ι β) (k : κ) (s : σ)

@[simp] theorem run_pure (value : α) :
    (Pure.pure value : Code ι κ β ε α).run cells k s = (k, s, .ok value) := rfl

@[simp] theorem run_throw (e : ε) :
    (throw e : Code ι κ β ε α).run cells k s = (k, s, .error e) := rfl

@[simp] theorem run_lift (x : Except ε α) :
    (lift x : Code ι κ β ε α).run cells k s = (k, s, x) := by
  cases x <;> rfl

@[simp] theorem run_scratch :
    (scratch : Code ι κ β ε κ).run cells k s = (k, s, .ok k) := rfl

@[simp] theorem run_setScratch (write : κ → κ) :
    (setScratch write : Code ι κ β ε Unit).run cells k s = (write k, s, .ok ()) := rfl

@[simp] theorem run_load (c : ι) :
    (load c : Code ι κ β ε β).run cells k s = (k, s, .ok (cells.load s c)) := rfl

@[simp] theorem run_store (c : ι) (write : β → β) :
    (store c write : Code ι κ β ε Unit).run cells k s = (k, cells.store s c write, .ok ()) := rfl

theorem run_bind (x : Code ι κ β ε α) (rest : α → Code ι κ β ε γ) :
    (x >>= rest).run cells k s =
      match x.run cells k s with
      | (k', s', .ok value) => (rest value).run cells k' s'
      | (k', s', .error e) => (k', s', .error e) := by
  change (x.bind rest).run cells k s = _
  induction x generalizing k s with
  | pure value => rfl
  | throw e => rfl
  | readScratch next ih => exact ih k k s
  | writeScratch write next ih => exact ih (write k) s
  | readCell c next ih => exact ih _ k s
  | writeCell c write next ih => exact ih k _

theorem run_bind_ok {x : Code ι κ β ε α} {rest : α → Code ι κ β ε γ} {k' : κ} {s' : σ} {value : α}
    (h : x.run cells k s = (k', s', .ok value)) :
    (x >>= rest).run cells k s = (rest value).run cells k' s' := by
  rw [run_bind, h]

theorem run_bind_error {x : Code ι κ β ε α} {rest : α → Code ι κ β ε γ} {k' : κ} {s' : σ} {e : ε}
    (h : x.run cells k s = (k', s', .error e)) :
    (x >>= rest).run cells k s = (k', s', .error e) := by
  rw [run_bind, h]

theorem run_foldlM {f : γ → α → Code ι κ β ε γ} {g : γ × σ → α → γ × σ}
    (h : ∀ b a s, (f b a).run cells k s = (k, (g (b, s) a).2, .ok (g (b, s) a).1)) :
    ∀ (l : List α) (b : γ) (s : σ),
      (l.foldlM f b).run cells k s = (k, (l.foldl g (b, s)).2, .ok (l.foldl g (b, s)).1)
  | [], _, _ => rfl
  | a :: l, b, s => by
    rw [List.foldlM_cons, run_bind_ok _ _ _ (h b a s), run_foldlM h l]
    rfl

theorem run_forM {f : α → Code ι κ β ε Unit} {g : κ → α → κ}
    (h : ∀ a k, (f a).run cells k s = (g k a, s, .ok ())) :
    ∀ (l : List α) (k : κ), (forM l f).run cells k s = (l.foldl g k, s, .ok ())
  | [], _ => rfl
  | a :: l, k => by
    rw [List.forM_cons, run_bind_ok _ _ _ (h a k), run_forM h l]
    rfl

theorem run_access (code : Code ι κ β ε α) :
    (code.access cells k s).1.run cells (code.access cells k s).2.1 (code.access cells k s).2.2 =
      code.run cells k s := by
  cases code <;> rfl

end Run

theorem access_within (cells : Cells σ ι β) {owned : ι → Prop} {code : Code ι κ β ε α}
    (h : code.Within owned) (k : κ) (s : σ) : (code.access cells k s).1.Within owned := by
  cases code with
  | pure value => exact h
  | throw e => exact h
  | readScratch next => exact h k
  | writeScratch write next => exact h
  | readCell c next => exact h.2 _
  | writeCell c write next => exact h.2

theorem Within.mono {owned owned' : ι → Prop} (himp : ∀ c, owned c → owned' c)
    {code : Code ι κ β ε α} (h : code.Within owned) : code.Within owned' := by
  induction code with
  | pure value => trivial
  | throw e => trivial
  | readScratch next ih => exact fun scratch => ih scratch (h scratch)
  | writeScratch write next ih => exact ih h
  | readCell c next ih => exact ⟨himp c h.1, fun value => ih value (h.2 value)⟩
  | writeCell c write next ih => exact ⟨himp c h.1, ih h.2⟩

theorem within_onCell (cell : ι') (code : Code ι κ β ε α) :
    (code.onCell cell).Within fun c => c = cell := by
  induction code with
  | pure value => trivial
  | throw e => trivial
  | readScratch next ih => exact ih
  | writeScratch write next ih => exact ih
  | readCell c next ih => exact ⟨rfl, ih⟩
  | writeCell c write next ih => exact ⟨rfl, ih⟩

theorem Within.bind {owned : ι → Prop} {code : Code ι κ β ε α} (h : code.Within owned)
    {rest : α → Code ι κ β ε γ} (hrest : ∀ value, (rest value).Within owned) :
    (code >>= rest).Within owned := by
  change (code.bind rest).Within owned
  induction code with
  | pure value => exact hrest value
  | throw e => trivial
  | readScratch next ih => exact fun scratch => ih scratch (h scratch)
  | writeScratch write next ih => exact ih h
  | readCell c next ih => exact ⟨h.1, fun value => ih value (h.2 value)⟩
  | writeCell c write next ih => exact ⟨h.1, ih h.2⟩

theorem within_forM {owned : ι → Prop} {body : γ → Code ι κ β ε Unit} {l : List γ}
    (h : ∀ a ∈ l, (body a).Within owned) : (forM l body).Within owned := by
  induction l with
  | nil => trivial
  | cons a l ih =>
    rw [List.forM_cons]
    exact (h a (by simp)).bind fun _ => ih fun b hb => h b (by simp [hb])

section List

variable [Inhabited β]

/-- Code at one cell of a list is the code with that cell for its own. -/
theorem run_onCell {c : ℕ} (code : Code Unit κ β ε α) (k : κ) (cells : List β)
    (hc : c < cells.length) :
    (code.onCell c).run (.list β) k cells =
      ((code.run (.one β) k (cells.getD c default)).1,
        cells.set c (code.run (.one β) k (cells.getD c default)).2.1,
        (code.run (.one β) k (cells.getD c default)).2.2) := by
  induction code generalizing k cells with
  | pure value => simp [onCell, run, hc]
  | throw e => simp [onCell, run, hc]
  | readScratch next ih => exact ih k k cells hc
  | writeScratch write next ih => exact ih (write k) cells hc
  | readCell _ next ih => exact ih _ k cells hc
  | writeCell _ write next ih =>
    have hmodify : (cells.modify c write).getD c default = write (cells.getD c default) := by
      simp [List.getD_eq_getElem?_getD, hc]
    have hset : ∀ value, (cells.modify c write).set c value = cells.set c value := by
      intro value
      rw [List.modify_eq_set_getElem?]
      simp [hc]
    have hrun := ih k (cells.modify c write) (by simpa using hc)
    rw [hmodify, hset] at hrun
    exact hrun

theorem Within.run_frame {owned : ℕ → Prop} {code : Code ℕ κ β ε α} (h : code.Within owned) (k : κ)
    (cells : List β) {c : ℕ} (hc : ¬ owned c) :
    (code.run (.list β) k cells).2.1[c]? = cells[c]? := by
  induction code generalizing k cells with
  | pure value => rfl
  | throw e => rfl
  | readScratch next ih => exact ih k (h k) k cells
  | writeScratch write next ih => exact ih h (write k) cells
  | readCell c' next ih => exact ih _ (h.2 _) k cells
  | writeCell c' write next ih =>
    have hne : c' ≠ c := fun he => hc (he ▸ h.1)
    exact (ih h.2 k _).trans (by simp [Cells.list, hne])

theorem Within.access_frame {owned : ℕ → Prop} {code : Code ℕ κ β ε α} (h : code.Within owned)
    (k : κ) (cells : List β) {c : ℕ} (hc : ¬ owned c) :
    (code.access (.list β) k cells).2.2[c]? = cells[c]? := by
  cases code with
  | writeCell c' write next =>
    have hne : c' ≠ c := fun he => hc (he ▸ h.1)
    simp [access, Cells.list, hne]
  | _ => rfl

/-- Code that keeps to some cells does alike where these are alike. -/
theorem Within.run_agree {owned seen : ℕ → Prop} {code : Code ℕ κ β ε α} (h : code.Within owned)
    (hseen : ∀ c, owned c → seen c) (k : κ) {cells cells' : List β}
    (hcells : ∀ c, seen c → cells[c]? = cells'[c]?) :
    (code.run (.list β) k cells).1 = (code.run (.list β) k cells').1 ∧
      (code.run (.list β) k cells).2.2 = (code.run (.list β) k cells').2.2 ∧
      ∀ c, seen c → (code.run (.list β) k cells).2.1[c]? =
        (code.run (.list β) k cells').2.1[c]? := by
  induction code generalizing k cells cells' with
  | pure value => exact ⟨rfl, rfl, hcells⟩
  | throw e => exact ⟨rfl, rfl, hcells⟩
  | readScratch next ih => exact ih k (h k) k hcells
  | writeScratch write next ih => exact ih h (write k) hcells
  | readCell c next ih =>
    have hload : cells.getD c default = cells'.getD c default := by
      simp only [List.getD_eq_getElem?_getD, hcells c (hseen c h.1)]
    have hnext := ih (cells.getD c default) (h.2 _) k hcells
    simp only [run, Cells.list] at hnext ⊢
    rw [← hload]
    exact hnext
  | writeCell c write next ih =>
    refine ih h.2 k fun c' hc' => ?_
    simp only [Cells.list, List.getElem?_modify, hcells c' hc']

end List

end Code
end PointcloudAd.Library
