import Mathlib.Data.List.Nodup
import Mathlib.Data.List.Sort
import Mathlib.Tactic.Common
import PointcloudAd.Library.Interleaving

/-!
# Parallel loops over owned cells

A loop of `points` iterations is cut into blocks of `size` iterations; block `b` belongs to
worker `b % workers`. An iteration is code over its worker's scratch and one output cell, and may
throw, which ends its block. When no two blocks share a cell, every interleaving of the accesses of
the workers is a run of whole iterations; when moreover no result depends on the scratch that an
iteration finds, it leaves the same cells and the same recorded exceptions for every number of
workers.
-/

namespace PointcloudAd.Library

variable {κ β ε : Type}

/-- The body of a parallel loop: the cell of an iteration, and its code. -/
structure Job (κ β ε : Type) where
  cell : ℕ → ℕ
  body : ℕ → Code Unit κ β ε Unit

/-- Every worker runs its own iterations in increasing order; nothing else is fixed. -/
def Interleaves (size workers points : ℕ) (trace : List ℕ) : Prop :=
  ∀ w < workers, trace.filter (fun i => i / size % workers = w) =
    (List.range points).filter (fun i => i / size % workers = w)

theorem Interleaves.range (size workers points : ℕ) :
    Interleaves size workers points (List.range points) := fun _ _ => rfl

theorem Interleaves.block {size workers points : ℕ} {trace : List ℕ}
    (h : Interleaves size workers points trace) (hw : 0 < workers) (b : ℕ) :
    trace.filter (fun i => i / size = b) = (List.range points).filter (fun i => i / size = b) := by
  have hb : ∀ l : List ℕ, l.filter (fun i => i / size = b) =
      (l.filter (fun i => i / size % workers = b % workers)).filter (fun i => i / size = b) := by
    intro l
    rw [List.filter_filter]
    apply List.filter_congr
    intro i _
    by_cases hi : i / size = b <;> simp [hi]
  rw [hb trace, hb (List.range points), h (b % workers) (Nat.mod_lt _ hw)]

theorem Interleaves.lt {size workers points : ℕ} {trace : List ℕ}
    (h : Interleaves size workers points trace) (hw : 0 < workers) :
    ∀ i ∈ trace, i < points := by
  intro i hi
  have hm : i ∈ trace.filter (fun j => j / size = i / size) := by simp [hi]
  rw [h.block hw] at hm
  exact List.mem_range.mp (List.mem_of_mem_filter hm)

theorem flatMap_eq_of_nil {α γ : Type} {f : α → List γ} {a : α} :
    ∀ {l : List α}, l.Nodup → a ∈ l → (∀ b ∈ l, b ≠ a → f b = []) → l.flatMap f = f a
  | [], _, h, _ => by cases h
  | b :: l, hl, h, hnil => by
    obtain ⟨hb, hnodup⟩ := List.nodup_cons.mp hl
    rw [List.flatMap_cons]
    by_cases hba : b = a
    · subst hba
      have hrest : l.flatMap f = [] := List.flatMap_eq_nil_iff.mpr fun c hc =>
        hnil c (by simp [hc]) fun he => hb (he ▸ hc)
      rw [hrest, List.append_nil]
    · have hmem : a ∈ l := (List.mem_cons.mp h).resolve_left (Ne.symm hba)
      rw [hnil b (by simp) hba, List.nil_append]
      exact flatMap_eq_of_nil hnodup hmem fun c hc => hnil c (by simp [hc])

/-- The iterations of the workers, one worker after the other. -/
def inTurn (size workers points : ℕ) : List ℕ :=
  (List.range workers).flatMap fun w => (List.range points).filter fun i => i / size % workers = w

theorem Interleaves.inTurn (size workers points : ℕ) :
    Interleaves size workers points (inTurn size workers points) := by
  intro w hw
  unfold Library.inTurn
  rw [List.filter_flatMap, flatMap_eq_of_nil (a := w) List.nodup_range (List.mem_range.mpr hw)]
  · rw [List.filter_filter]
    simp
  · intro v _ hv
    rw [List.filter_filter, List.filter_eq_nil_iff]
    intro i _
    simp only [Bool.and_eq_true, decide_eq_true_eq, not_and]
    exact fun hi hi' => hv (hi'.symm.trans hi)

theorem flatMap_blocks {size points blocks : ℕ} (hblocks : points ≤ blocks * size) (workers w : ℕ) :
    ((List.range blocks).filter fun b => b % workers = w).flatMap
        (fun b => (List.range points).filter fun i => i / size = b) =
      (List.range points).filter fun i => i / size % workers = w := by
  have hsorted : ∀ {l : List ℕ} {p : ℕ → Bool}, l.Pairwise (· < ·) →
      (l.filter p).Pairwise (· < ·) :=
    fun h => h.filter _
  refine List.Pairwise.eq_of_mem_iff (r := (· < ·)) ?_ (hsorted List.pairwise_lt_range) fun i => ?_
  · rw [List.pairwise_flatMap]
    refine ⟨fun b _ => hsorted List.pairwise_lt_range, ?_⟩
    refine (hsorted List.pairwise_lt_range).imp fun {b b'} hlt i hi j hj => ?_
    simp only [List.mem_filter, decide_eq_true_eq] at hi hj
    by_contra hge
    have := Nat.div_le_div_right (c := size) (Nat.le_of_not_lt hge)
    omega
  · simp only [List.mem_flatMap, List.mem_filter, List.mem_range, decide_eq_true_eq]
    constructor
    · rintro ⟨b, ⟨-, hb⟩, hi, rfl⟩
      exact ⟨hi, hb⟩
    · rintro ⟨hi, hw⟩
      exact ⟨i / size, ⟨Nat.div_lt_of_lt_mul (by rw [Nat.mul_comm]; omega), hw⟩, hi, rfl⟩

namespace Job

variable (J : Job κ β ε)

/-- What an iteration makes of its worker's scratch and of its cell, and what it throws. -/
def step (i : ℕ) (scratch : κ) (cell : β) : κ × β × Option ε :=
  let r := (J.body i).run (.one β) scratch cell
  (r.1, r.2.1, errorOf r.2.2)

/-- The call on a block: its iterations in increasing order. -/
def block (size points b : ℕ) : Code ℕ κ β ε Unit :=
  forM ((List.range points).filter fun i => i / size = b) fun i => (J.body i).onCell (J.cell i)

/-- What an iteration leaves in its cell and throws does not depend on its worker's scratch. -/
def ScratchFree : Prop := ∀ i k k' c, (J.step i k c).2 = (J.step i k' c).2

/-- Two iterations with one cell are in one block. -/
def Disjoint (size points : ℕ) : Prop :=
  ∀ i < points, ∀ j < points, J.cell i = J.cell j → i / size = j / size

/-- Two memories agree on everything that block `b` may read or write, scratch apart. -/
structure AgreeOn (size points b : ℕ) (m m' : Memory κ β ε) : Prop where
  error : m.errors[b]? = m'.errors[b]?
  cell : ∀ c, (∀ i < points, J.cell i = c → i / size = b) → m.cells[c]? = m'.cells[c]?

section Agreement

variable {J} {size points b : ℕ} {m m' m'' : Memory κ β ε}

theorem AgreeOn.refl : J.AgreeOn size points b m m := ⟨rfl, fun _ _ => rfl⟩

theorem AgreeOn.trans (h : J.AgreeOn size points b m m') (h' : J.AgreeOn size points b m' m'') :
    J.AgreeOn size points b m m'' :=
  ⟨h.error.trans h'.error, fun c hc => (h.cell c hc).trans (h'.cell c hc)⟩

theorem eq_of_agree (hd : J.Disjoint size points)
    (h : ∀ b, J.AgreeOn size points b m m') : m.cells = m'.cells ∧ m.errors = m'.errors := by
  refine ⟨List.ext_getElem? fun c => ?_, List.ext_getElem? fun b => (h b).error⟩
  by_cases hc : ∃ i < points, J.cell i = c
  · obtain ⟨i, hi, rfl⟩ := hc
    exact (h (i / size)).cell _ fun j hj he => hd j hj i hi he
  · push Not at hc
    exact (h 0).cell c fun i hi he => absurd he (hc i hi)

end Agreement

variable [Inhabited β]

/-- One whole iteration. A block whose exception is already recorded has been left. -/
def exec (size workers : ℕ) (m : Memory κ β ε) (i : ℕ) : Memory κ β ε :=
  let block := i / size
  let worker := block % workers
  if (m.errors.getD block none).isSome then m
  else
    let r := J.step i (m.scratch worker) (m.cells.getD (J.cell i) default)
    { cells := m.cells.set (J.cell i) r.2.1
      scratch := Function.update m.scratch worker r.1
      errors := recordError m.errors block r.2.2 }

variable {J} {size points b : ℕ} {m m' : Memory κ β ε}

theorem exec_agree (hf : J.ScratchFree) (hd : J.Disjoint size points) {i : ℕ} (hi : i < points)
    (hb : i / size = b) (n n' : ℕ) (h : J.AgreeOn size points b m m') :
    J.AgreeOn size points b (J.exec size n m i) (J.exec size n' m' i) := by
  have hown : ∀ j < points, J.cell j = J.cell i → j / size = b := fun j hj he =>
    (hd j hj i hi he).trans hb
  have he : m.errors.getD b none = m'.errors.getD b none := by
    simp only [List.getD_eq_getElem?_getD, h.error]
  have hc : m.cells.getD (J.cell i) default = m'.cells.getD (J.cell i) default := by
    simp only [List.getD_eq_getElem?_getD, h.cell _ hown]
  unfold exec
  dsimp only
  rw [hb, he]
  split_ifs
  · exact h
  · have hr := hf i (m.scratch (b % n)) (m'.scratch (b % n')) (m.cells.getD (J.cell i) default)
    rw [hc] at hr ⊢
    refine ⟨?_, ?_⟩
    · simp only [hr]
      exact getElem?_recordError h.error _ _
    · intro c hc
      by_cases hci : J.cell i = c
      · subst hci
        simp only [hr, List.getElem?_set_self', h.cell _ hown]
      · simp only [List.getElem?_set_ne hci, h.cell c hc]

theorem exec_frame {i : ℕ} (hi : i < points) (hb : i / size ≠ b) (n : ℕ) :
    J.AgreeOn size points b (J.exec size n m i) m := by
  unfold exec
  dsimp only
  split_ifs
  · exact .refl
  · refine ⟨getElem?_recordError_ne _ hb _, fun c hc => ?_⟩
    have hci : J.cell i ≠ c := fun he => hb (hc i hi he)
    exact List.getElem?_set_ne hci

theorem foldl_agree (hf : J.ScratchFree) (hd : J.Disjoint size points) (n n' : ℕ) (b : ℕ) :
    ∀ (trace : List ℕ) (m m' : Memory κ β ε), (∀ i ∈ trace, i < points) →
      J.AgreeOn size points b m m' →
      J.AgreeOn size points b (trace.foldl (J.exec size n) m)
        ((trace.filter (fun i => i / size = b)).foldl (J.exec size n') m')
  | [], m, m', _, h => h
  | i :: trace, m, m', ht, h => by
    have hi : i < points := ht i (by simp)
    have hrest : ∀ j ∈ trace, j < points := fun j hj => ht j (by simp [hj])
    by_cases hb : i / size = b
    · simp only [List.foldl_cons, hb, decide_true, List.filter_cons_of_pos]
      exact foldl_agree hf hd n n' b trace _ _ hrest (exec_agree hf hd hi hb n n' h)
    · simp only [List.foldl_cons, hb, decide_false, Bool.false_eq_true, not_false_eq_true,
        List.filter_cons_of_neg]
      exact foldl_agree hf hd n n' b trace _ _ hrest ((exec_frame hi hb n).trans h)

theorem foldl_interleaves (hf : J.ScratchFree) (hd : J.Disjoint size points) {n n' : ℕ}
    (hn : 0 < n) (hn' : 0 < n') {trace trace' : List ℕ} (ht : Interleaves size n points trace)
    (ht' : Interleaves size n' points trace') (cells : List β) (s s' : ℕ → κ)
    (errors : List (Option ε)) :
    let out := trace.foldl (J.exec size n) ⟨cells, s, errors⟩
    let out' := trace'.foldl (J.exec size n') ⟨cells, s', errors⟩
    out.cells = out'.cells ∧ out.errors = out'.errors := by
  refine eq_of_agree hd fun b => ?_
  have hs : J.AgreeOn size points b (⟨cells, s, errors⟩ : Memory κ β ε) ⟨cells, s', errors⟩ :=
    ⟨rfl, fun _ _ => rfl⟩
  have h := foldl_agree hf hd n 1 b trace _ _ (ht.lt hn) hs
  have h' := foldl_agree hf hd n' 1 b trace' _ _ (ht'.lt hn') (.refl (m := ⟨cells, s', errors⟩))
  rw [ht.block hn] at h
  rw [ht'.block hn'] at h'
  exact h.trans ⟨h'.error.symm, fun c hc => (h'.cell c hc).symm⟩

theorem foldl_exec_thrown {b n : ℕ} :
    ∀ {l : List ℕ} {m : Memory κ β ε}, (∀ i ∈ l, i / size = b) →
      (m.errors.getD b none).isSome → l.foldl (J.exec size n) m = m
  | [], _, _, _ => rfl
  | i :: l, m, hl, hm => by
    have hskip : J.exec size n m i = m := by
      unfold exec
      dsimp only
      rw [hl i (by simp), if_pos hm]
    rw [List.foldl_cons, hskip]
    exact foldl_exec_thrown (fun j hj => hl j (by simp [hj])) hm

/-- Whole iterations of a block, one after the other, are a call that is left alone. -/
theorem foldl_exec_block {b n : ℕ} :
    ∀ {l : List ℕ} {m : Memory κ β ε}, (∀ i ∈ l, i / size = b) → m.errors[b]? = some none →
      (∀ i ∈ l, J.cell i < m.cells.length) →
      l.foldl (J.exec size n) m =
        m.call (b % n) b (forM l fun i => (J.body i).onCell (J.cell i))
  | [], m, _, _, _ => by
    simp [Memory.call, recordError]
  | i :: l, m, hl, hm, hrange => by
    have hi : i / size = b := hl i (by simp)
    have hnone : ¬ (m.errors.getD b none).isSome := by simp [List.getD_eq_getElem?_getD, hm]
    have hcode := Code.run_onCell (J.body i) (m.scratch (b % n)) m.cells (hrange i (by simp))
    rcases hrun : (J.body i).run (.one β) (m.scratch (b % n)) (m.cells.getD (J.cell i) default) with
      ⟨k, c, ending⟩
    rw [hrun] at hcode
    have hexec : J.exec size n m i = ⟨m.cells.set (J.cell i) c,
        Function.update m.scratch (b % n) k, recordError m.errors b (errorOf ending)⟩ := by
      unfold exec
      dsimp only
      rw [hi, if_neg hnone]
      simp only [step, hrun]
    rw [List.foldl_cons, List.forM_cons, hexec]
    cases ending with
    | ok value =>
      rw [foldl_exec_block (fun j hj => hl j (by simp [hj])) (by simpa [recordError] using hm)
        fun j hj => by simpa using hrange j (by simp [hj])]
      unfold Memory.call
      rw [Code.run_bind_ok _ _ _ hcode]
      simp [recordError]
    | error e =>
      have hlt : b < m.errors.length := (List.getElem?_eq_some_iff.mp hm).1
      rw [foldl_exec_thrown (b := b) fun j hj => hl j (by simp [hj])]
      · unfold Memory.call
        rw [Code.run_bind_error _ _ _ hcode]
      · simp [recordError, errorOf, List.getD_eq_getElem?_getD, hlt]

theorem length_exec (n : ℕ) (m : Memory κ β ε) (i : ℕ) :
    (J.exec size n m i).cells.length = m.cells.length := by
  unfold exec
  dsimp only
  split_ifs <;> simp

theorem length_foldl_exec (n : ℕ) (l : List ℕ) (m : Memory κ β ε) :
    (l.foldl (J.exec size n) m).cells.length = m.cells.length := by
  induction l generalizing m with
  | nil => rfl
  | cons i l ih => rw [List.foldl_cons, ih, length_exec]

theorem foldl_call {n : ℕ} :
    ∀ {l : List ℕ} {m : Memory κ β ε}, l.Nodup → (∀ b ∈ l, m.errors[b]? = some none) →
      (∀ i < points, J.cell i < m.cells.length) →
      l.foldl (fun m b => m.call (b % n) b (J.block size points b)) m =
        (l.flatMap fun b => (List.range points).filter fun i => i / size = b).foldl
          (J.exec size n) m
  | [], _, _, _, _ => rfl
  | b :: l, m, hl, hm, hrange => by
    obtain ⟨hb, hnodup⟩ := List.nodup_cons.mp hl
    have hcall : ((List.range points).filter fun i => i / size = b).foldl (J.exec size n) m =
        m.call (b % n) b (J.block size points b) :=
      foldl_exec_block (fun i hi => by simpa using (List.mem_filter.mp hi).2) (hm b (by simp))
        fun i hi => hrange i (List.mem_range.mp (List.mem_of_mem_filter hi))
    rw [List.foldl_cons, List.flatMap_cons, List.foldl_append, hcall]
    refine foldl_call hnodup (fun c hc => ?_) fun i hi => ?_
    · have hne : b ≠ c := fun he => hb (he ▸ hc)
      rw [← hm c (by simp [hc])]
      exact getElem?_recordError_ne _ hne _
    · rw [← hcall, length_foldl_exec]
      exact hrange i hi

/-- The workers one after the other make the calls on their blocks. -/
theorem foldl_complete_start (body : ℕ → Code ℕ κ β ε Unit) (blocks n : ℕ) :
    ∀ {l : List ℕ} {m : Machine κ β ε}, l.Nodup →
      (∀ w ∈ l, m.threads w = ⟨none, (List.range blocks).filter fun b => b % n = w⟩) →
      (l.foldl (Machine.complete body) m).memory =
        (l.flatMap fun w => (List.range blocks).filter fun b => b % n = w).foldl
          (fun memory b => memory.call (b % n) b (body b)) m.memory
  | [], _, _, _ => rfl
  | w :: l, m, hl, hm => by
    obtain ⟨hw, hnodup⟩ := List.nodup_cons.mp hl
    have hcall : ∀ (own : List ℕ) (memory : Memory κ β ε), (∀ b ∈ own, b % n = w) →
        callAll body w memory own =
          own.foldl (fun memory b => memory.call (b % n) b (body b)) memory := by
      intro own
      induction own with
      | nil => exact fun _ _ => rfl
      | cons b own ih =>
        intro memory hown
        rw [List.foldl_cons, hown b (by simp)]
        exact ih _ fun c hc => hown c (by simp [hc])
    have hown := hcall ((List.range blocks).filter fun b => b % n = w) m.memory fun b hb => by
      simpa using (List.mem_filter.mp hb).2
    rw [List.foldl_cons, Machine.complete_eq (hm w (by simp)), List.flatMap_cons, List.foldl_append,
      ← hown]
    refine foldl_complete_start body blocks n hnodup fun v hv => ?_
    have hne : v ≠ w := fun he => hw (he ▸ hv)
    rw [← hm v (by simp [hv])]
    exact Function.update_of_ne hne ..

theorem finish_start {n blocks : ℕ} (hblocks : points ≤ blocks * size) (cells : List β)
    (hrange : ∀ i < points, J.cell i < cells.length) (scratch : ℕ → κ) :
    (Machine.finish (J.block size points) n (.start (· % n) blocks cells scratch)).memory =
      (inTurn size n points).foldl (J.exec size n)
        ⟨cells, scratch, List.replicate blocks none⟩ := by
  have hnodup : ((List.range n).flatMap fun w =>
      (List.range blocks).filter fun b => b % n = w).Nodup := by
    rw [List.nodup_flatMap]
    refine ⟨fun w _ => List.nodup_range.filter _, ?_⟩
    refine List.nodup_range.imp fun {v w} hne b hv hw => ?_
    simp only [List.mem_filter, decide_eq_true_eq] at hv hw
    exact hne (hv.2.symm.trans hw.2)
  unfold Machine.finish
  rw [foldl_complete_start _ blocks n List.nodup_range fun w _ => rfl]
  rw [show (Machine.start (κ := κ) (ε := ε) (· % n) blocks cells scratch).memory =
    ⟨cells, scratch, List.replicate blocks none⟩ from rfl, foldl_call hnodup _ hrange]
  · unfold inTurn
    rw [List.flatMap_assoc]
    simp only [flatMap_blocks hblocks]
  · intro b hb
    obtain ⟨w, -, hb⟩ := List.mem_flatMap.mp hb
    simp [List.mem_range.mp (List.mem_of_mem_filter hb)]

omit [Inhabited β] in
/-- The blocks of a loop whose iterations share no cells keep to cells of their own. -/
theorem Disjoint.apart (hd : J.Disjoint size points) (blocks : ℕ) :
    Apart blocks (J.block size points) fun b c => ∃ i < points, i / size = b ∧ J.cell i = c where
  within b _ := by
    refine Code.within_forM fun i hi => (Code.within_onCell _ _).mono ?_
    rintro c rfl
    simp only [List.mem_filter, List.mem_range, decide_eq_true_eq] at hi
    exact ⟨i, hi.1, hi.2, rfl⟩
  disjoint := by
    rintro b - b' - c ⟨i, hi, rfl, hc⟩ ⟨j, hj, rfl, hc'⟩
    exact hd i hi j hj (hc.trans hc'.symm)

theorem interleave_whole (hd : J.Disjoint size points) {n blocks : ℕ} (hn : 0 < n)
    (hblocks : points ≤ blocks * size) (cells : List β)
    (hrange : ∀ i < points, J.cell i < cells.length) (scratch : ℕ → κ) (schedule : List ℕ) :
    let out := Machine.interleave (J.block size points) n schedule
      (.start (· % n) blocks cells scratch)
    let whole := (inTurn size n points).foldl (J.exec size n)
      ⟨cells, scratch, List.replicate blocks none⟩
    out.cells = whole.cells ∧ out.errors = whole.errors ∧
      ∀ w < n, out.scratch w = whole.scratch w := by
  rw [← finish_start hblocks cells hrange scratch]
  exact Machine.interleave_eq (hd.apart blocks) (fun b => Nat.mod_lt b hn) schedule
    (Machine.keeps_start cells scratch)

theorem recordError_eq_set {errors : List (Option ε)} {b : ℕ} (h : errors[b]? = some none)
    (thrown : Option ε) : recordError errors b thrown = errors.set b thrown := by
  cases thrown with
  | none =>
    refine List.ext_getElem? fun c => ?_
    by_cases hc : b = c
    · subst hc
      rw [List.getElem?_set_self', recordError, h]
      rfl
    · rw [List.getElem?_set_ne hc, recordError]
  | some e => rfl

theorem findSome_set {x : Option ε} : ∀ {l : List (Option ε)} {b : ℕ}, l[b]? = some none →
    (∀ c, b < c → l.getD c none = none) →
    (l.set b x).findSome? id = (l.findSome? id).or x
  | [], _, h, _ => by simp at h
  | a :: l, 0, h, hl => by
    obtain rfl : a = none := by simpa using h
    have hnone : l.findSome? id = none := by
      rw [List.findSome?_eq_none_iff]
      intro y hy
      obtain ⟨c, hc, rfl⟩ := List.mem_iff_getElem.mp hy
      simpa [hc] using hl (c + 1) (Nat.succ_pos c)
    cases x <;> simp [hnone]
  | a :: l, b + 1, h, hl => by
    have ih := findSome_set (x := x) (l := l) (b := b) (by simpa using h)
      fun c hc => by simpa using hl (c + 1) (Nat.succ_lt_succ hc)
    cases a <;> simp [ih]

section Ordered

variable [Inhabited κ]

/-- What iteration `i` makes of the cell it finds in `cells`. -/
def result (J : Job κ β ε) (cells : List β) (i : ℕ) : β × Option ε :=
  (J.step i default (cells.getD (J.cell i) default)).2

/-- The memory after the first `n` iterations, in increasing order. -/
def prefixRun (J : Job κ β ε) (size blocks : ℕ) (cells : List β) (n : ℕ) : Memory κ β ε :=
  (List.range n).foldl (J.exec size 1) ⟨cells, fun _ => default, List.replicate blocks none⟩

theorem prefixRun_succ (blocks : ℕ) (cells : List β) (n : ℕ) :
    J.prefixRun size blocks cells (n + 1) = J.exec size 1 (J.prefixRun size blocks cells n) n := by
  simp [prefixRun, List.range_succ]

/-- The state of a loop with one cell per iteration after `n` iterations. -/
structure Filled (J : Job κ β ε) (size blocks : ℕ) (cells : List β) (n : ℕ)
    (m : Memory κ β ε) : Prop where
  error : m.errors.findSome? id = (List.range n).findSome? fun i => (J.result cells i).2
  length : m.errors.length = blocks
  fresh : ∀ b, n ≤ b * size → m.errors.getD b none = none
  untouched : ∀ c, (∀ i < n, J.cell i ≠ c) → m.cells[c]? = cells[c]?
  written : (∀ i < n, (J.result cells i).2 = none) →
    ∀ i < n, m.cells[J.cell i]? = (cells[J.cell i]?).map fun _ => (J.result cells i).1

theorem filled_start (blocks : ℕ) (cells : List β) :
    J.Filled size blocks cells 0 (J.prefixRun size blocks cells 0) := by
  refine ⟨by simp [prefixRun], by simp [prefixRun], fun b _ => ?_, fun c _ => by simp [prefixRun],
    fun _ i hi => by omega⟩
  simp [prefixRun, List.getElem?_replicate]
  split <;> rfl

/-- An iteration of a block that has thrown is skipped. -/
theorem Filled.skip {blocks n : ℕ} {cells : List β} {m : Memory κ β ε}
    (h : J.Filled size blocks cells n m) (hb : n / size < blocks)
    (hthrown : (m.errors.getD (n / size) none).isSome) :
    J.Filled size blocks cells (n + 1) (J.exec size 1 m n) := by
  have hexec : J.exec size 1 m n = m := by
    unfold exec
    dsimp only
    rw [if_pos hthrown]
  have hsome : ((List.range n).findSome? fun i => (J.result cells i).2).isSome := by
    rw [← h.error, List.findSome?_isSome_iff]
    refine ⟨m.errors.getD (n / size) none, ?_, hthrown⟩
    rw [List.getD_eq_getElem?_getD, List.getElem?_eq_getElem (by rw [h.length]; exact hb)]
    exact List.getElem_mem _
  have hstill : ((List.range (n + 1)).findSome? fun i => (J.result cells i).2) =
      (List.range n).findSome? fun i => (J.result cells i).2 := by
    obtain ⟨e, he⟩ := Option.isSome_iff_exists.mp hsome
    simp [List.range_succ, List.findSome?_append, he]
  rw [hexec]
  refine ⟨by rw [h.error, hstill], h.length, fun b hb => h.fresh b (by omega),
    fun c hc => h.untouched c fun i hi => hc i (by omega), fun hok => ?_⟩
  have hnone : ((List.range n).findSome? fun i => (J.result cells i).2) = none := by
    rw [List.findSome?_eq_none_iff]
    exact fun i hi => hok i (by have := List.mem_range.mp hi; omega)
  rw [hnone] at hsome
  exact absurd hsome (by simp)

/-- An iteration that is reached finds its cell as it was, and writes it. -/
theorem Filled.write {blocks n : ℕ} {cells : List β} {m : Memory κ β ε} (hf : J.ScratchFree)
    (hs : 0 < size) (h : J.Filled size blocks cells n m) (hb : n / size < blocks)
    (hthrown : ¬ (m.errors.getD (n / size) none).isSome) (hne : ∀ i < n, J.cell i ≠ J.cell n) :
    J.Filled size blocks cells (n + 1) (J.exec size 1 m n) := by
  have hcell : m.cells.getD (J.cell n) default = cells.getD (J.cell n) default := by
    simp only [List.getD_eq_getElem?_getD, h.untouched _ hne]
  have hstep : (J.step n (m.scratch (n / size % 1)) (m.cells.getD (J.cell n) default)).2 =
      J.result cells n := by
    rw [hcell]
    exact hf n _ _ _
  have hcur : m.errors[n / size]? = some none := by
    have hlt : n / size < m.errors.length := by rw [h.length]; exact hb
    rw [List.getD_eq_getElem?_getD, List.getElem?_eq_getElem hlt] at hthrown
    rw [List.getElem?_eq_getElem hlt]
    simpa using hthrown
  have hexec : J.exec size 1 m n =
      ⟨m.cells.set (J.cell n) (J.result cells n).1,
        (J.exec size 1 m n).scratch, m.errors.set (n / size) (J.result cells n).2⟩ := by
    rw [← hstep, ← recordError_eq_set hcur]
    unfold exec
    dsimp only
    rw [if_neg hthrown]
  have hafter : ∀ c, n / size < c → n + 1 ≤ c * size := fun c hc =>
    Nat.lt_iff_add_one_le.mp ((Nat.div_lt_iff_lt_mul hs).mp hc)
  rw [hexec]
  refine ⟨?_, by simp [h.length], ?_, ?_, ?_⟩
  · rw [findSome_set hcur fun c hc => h.fresh c (by have := hafter c hc; omega), h.error]
    simp [List.range_succ, List.findSome?_append]
  · intro b hb
    have hne' : n / size ≠ b := by
      rintro rfl
      have := Nat.div_mul_le_self n size
      omega
    rw [List.getD_eq_getElem?_getD, List.getElem?_set_ne hne', ← List.getD_eq_getElem?_getD]
    exact h.fresh b (by omega)
  · intro c hc
    rw [List.getElem?_set_ne (hc n (by omega))]
    exact h.untouched c fun i hi => hc i (by omega)
  · intro hok i hi
    rcases Nat.lt_succ_iff_lt_or_eq.mp hi with hi | rfl
    · rw [List.getElem?_set_ne (fun he => hne i hi he.symm)]
      exact h.written (fun j hj => hok j (by omega)) i hi
    · rw [List.getElem?_set_self', h.untouched _ hne]
      rfl

theorem filled_prefixRun (hf : J.ScratchFree) (hs : 0 < size) {blocks : ℕ}
    (hblocks : points ≤ blocks * size) (cells : List β)
    (hinj : ∀ i < points, ∀ j < points, J.cell i = J.cell j → i = j) :
    ∀ n ≤ points, J.Filled size blocks cells n (J.prefixRun size blocks cells n)
  | 0, _ => filled_start blocks cells
  | n + 1, hn => by
    have ih := filled_prefixRun hf hs hblocks cells hinj n (by omega)
    have hb : n / size < blocks := Nat.div_lt_of_lt_mul (by rw [Nat.mul_comm]; omega)
    have hne : ∀ i < n, J.cell i ≠ J.cell n := fun i hi he =>
      absurd (hinj i (by omega) n (by omega) he) (by omega)
    rw [prefixRun_succ]
    by_cases hthrown : ((J.prefixRun size blocks cells n).errors.getD (n / size) none).isSome
    · exact ih.skip hb hthrown
    · exact ih.write hf hs hb hthrown hne

omit [Inhabited κ] in
theorem foldl_quiet (hquiet : ∀ i k c, (J.step i k c).2.2 = none) (workers : ℕ) :
    ∀ (l : List ℕ) (m : Memory κ β ε), (∀ e ∈ m.errors, e = none) →
      ∀ e ∈ (l.foldl (J.exec size workers) m).errors, e = none
  | [], _, h => h
  | i :: l, m, h => by
    refine foldl_quiet hquiet workers l _ fun e he => ?_
    unfold exec at he
    dsimp only at he
    split_ifs at he
    · exact h e he
    · simp only [hquiet, recordError] at he
      exact h e he

/-- A loop that never throws and gives each block one cell folds the block into that cell. -/
theorem accumulated (hf : J.ScratchFree) (hcell : ∀ i, J.cell i = i / size)
    (hquiet : ∀ i k c, (J.step i k c).2.2 = none) (blocks : ℕ) (cells : List β) (points b : ℕ) :
    (J.prefixRun size blocks cells points).cells[b]? = (cells[b]?).map fun c =>
      ((List.range points).filter (fun i => i / size = b)).foldl
        (fun c i => (J.step i default c).2.1) c := by
  have hd : J.Disjoint size points := fun i _ j _ he => by rwa [hcell, hcell] at he
  have hfold : ∀ (l : List ℕ) (m : Memory κ β ε), (∀ i ∈ l, i / size = b) →
      m.errors.getD b none = none →
      (l.foldl (J.exec size 1) m).cells[b]? =
        (m.cells[b]?).map fun c => l.foldl (fun c i => (J.step i default c).2.1) c := by
    intro l
    induction l with
    | nil => intro m _ _; simp
    | cons i l ih =>
      intro m hl he
      have hi : i / size = b := hl i (by simp)
      have hexec : (J.exec size 1 m i).cells[b]? =
          (m.cells[b]?).map fun c => (J.step i default c).2.1 := by
        simp only [exec, hi, he, hcell, Option.isSome_none, Bool.false_eq_true, if_false,
          List.getElem?_set_self', List.getD_eq_getElem?_getD]
        cases hc : m.cells[b]? with
        | none => simp
        | some c => simp [hf i _ default c]
      have herr : (J.exec size 1 m i).errors.getD b none = none := by
        simp only [exec, hi, he, Option.isSome_none, Bool.false_eq_true, if_false, hquiet,
          recordError]
      rw [List.foldl_cons, ih _ (fun j hj => hl j (by simp [hj])) herr, hexec, Option.map_map]
      rfl
  have h := (foldl_agree hf hd 1 1 b (List.range points) _ _ (fun i hi => List.mem_range.mp hi)
    (AgreeOn.refl (m := ⟨cells, fun _ => default, List.replicate blocks none⟩))).cell b
      fun i _ he => by rwa [hcell] at he
  rw [prefixRun, h, hfold _ _ (fun i hi => by simpa using (List.mem_filter.mp hi).2) ?_]
  simp [List.getElem?_replicate]
  split <;> rfl

end Ordered

end Job
end PointcloudAd.Library
