import Mathlib.Data.List.Basic
import Mathlib.Data.List.Range
import Mathlib.Logic.Function.Basic
import PointcloudAd.Library.Code

/-!
# Interleaved workers

Workers that take calls on blocks, each with a scratch of its own over shared cells. A step of a
worker is one access, or the begin or the end of a call, and the workers take their steps in any
order. When no two blocks share a cell, every order leaves what the workers leave when one after the
other runs to its end.
-/

namespace PointcloudAd.Library

variable {κ β ε : Type}

/-- What the workers share, and the scratch of every worker: the cells, and the exception of every
block. -/
structure Memory (κ β ε : Type) where
  cells : List β
  scratch : ℕ → κ
  errors : List (Option ε)

/-- A worker: the call in which it is, if any, and its blocks to come. -/
structure Thread (κ β ε : Type) where
  call : Option (ℕ × Code ℕ κ β ε Unit)
  later : List ℕ

structure Machine (κ β ε : Type) where
  memory : Memory κ β ε
  threads : ℕ → Thread κ β ε

/-- Only a block that throws writes to its place. -/
def recordError (errors : List (Option ε)) (block : ℕ) : Option ε → List (Option ε)
  | none => errors
  | some e => errors.set block (some e)

section Definitions

variable [Inhabited β]

/-- The rest of a call on a block, with no step of another worker in between. -/
def Memory.call (m : Memory κ β ε) (worker block : ℕ) (code : Code ℕ κ β ε Unit) : Memory κ β ε :=
  let r := code.run (.list β) (m.scratch worker) m.cells
  { cells := r.2.1
    scratch := Function.update m.scratch worker r.1
    errors := recordError m.errors block (errorOf r.2.2) }

/-- The calls that a worker has still to make. -/
def callAll (body : ℕ → Code ℕ κ β ε Unit) (worker : ℕ) (m : Memory κ β ε) (later : List ℕ) :
    Memory κ β ε :=
  later.foldl (fun memory block => memory.call worker block (body block)) m

namespace Machine

/-- A worker begins the call on its next block, ends one, or makes one access in it. -/
def step (body : ℕ → Code ℕ κ β ε Unit) (m : Machine κ β ε) (worker : ℕ) : Machine κ β ε :=
  let thread := m.threads worker
  let move (thread : Thread κ β ε) := Function.update m.threads worker thread
  match thread.call with
  | none =>
    match thread.later with
    | [] => m
    | block :: later => { m with threads := move ⟨some (block, body block), later⟩ }
  | some (_, .pure ()) => { m with threads := move { thread with call := none } }
  | some (block, .throw e) =>
    { memory := { m.memory with errors := recordError m.memory.errors block (some e) }
      threads := move { thread with call := none } }
  | some (block, code) =>
    let (code, scratch, cells) := code.access (.list β) (m.memory.scratch worker) m.memory.cells
    { memory :=
        { m.memory with cells, scratch := Function.update m.memory.scratch worker scratch }
      threads := move { thread with call := some (block, code) } }

/-- A worker alone, to its end. -/
def complete (body : ℕ → Code ℕ κ β ε Unit) (m : Machine κ β ε) (worker : ℕ) : Machine κ β ε :=
  let thread := m.threads worker
  let memory := match thread.call with
    | none => m.memory
    | some (block, code) => m.memory.call worker block code
  { memory := callAll body worker memory thread.later
    threads := Function.update m.threads worker ⟨none, []⟩ }

/-- The workers to their ends, one after the other. -/
def finish (body : ℕ → Code ℕ κ β ε Unit) (workers : ℕ) (m : Machine κ β ε) : Machine κ β ε :=
  (List.range workers).foldl (complete body) m

/-- The workers before their first calls; block `b` is called by worker `owner b`. -/
def start (owner : ℕ → ℕ) (blocks : ℕ) (cells : List β) (scratch : ℕ → κ) : Machine κ β ε where
  memory := ⟨cells, scratch, List.replicate blocks none⟩
  threads worker := ⟨none, (List.range blocks).filter fun block => owner block = worker⟩

/-- The workers take steps in the order of a schedule, and then run to their ends. -/
def interleave (body : ℕ → Code ℕ κ β ε Unit) (workers : ℕ) (schedule : List ℕ)
    (m : Machine κ β ε) : Memory κ β ε :=
  (finish body workers (schedule.foldl (step body) m)).memory

end Machine
end Definitions

/-- Blocks that keep to cells of their own. -/
structure Apart (blocks : ℕ) (body : ℕ → Code ℕ κ β ε Unit) (owned : ℕ → ℕ → Prop) : Prop where
  within : ∀ b < blocks, (body b).Within (owned b)
  disjoint : ∀ b < blocks, ∀ b' < blocks, ∀ c, owned b c → owned b' c → b = b'

/-- What a worker may be found doing: its calls are on its blocks. -/
structure Thread.Keeps (owner : ℕ → ℕ) (blocks : ℕ) (owned : ℕ → ℕ → Prop) (worker : ℕ)
    (thread : Thread κ β ε) : Prop where
  call : ∀ block code, thread.call = some (block, code) →
    block < blocks ∧ owner block = worker ∧ code.Within (owned block)
  later : ∀ block ∈ thread.later, block < blocks ∧ owner block = worker

theorem getElem?_recordError_ne (errors : List (Option ε)) {block b : ℕ} (h : block ≠ b)
    (thrown : Option ε) : (recordError errors block thrown)[b]? = errors[b]? := by
  cases thrown with
  | none => rfl
  | some e => exact List.getElem?_set_ne h

theorem getElem?_recordError {errors errors' : List (Option ε)} {b : ℕ}
    (h : errors[b]? = errors'[b]?) (block : ℕ) (thrown : Option ε) :
    (recordError errors block thrown)[b]? = (recordError errors' block thrown)[b]? := by
  cases thrown with
  | none => exact h
  | some e => simp only [recordError, List.getElem?_set', h]

/-- Two memories agree on a worker: on its scratch, on what its blocks own and on what no other's
block owns. -/
structure Memory.AgreeOn (owner : ℕ → ℕ) (blocks : ℕ) (owned : ℕ → ℕ → Prop) (worker : ℕ)
    (m m' : Memory κ β ε) : Prop where
  scratch : m.scratch worker = m'.scratch worker
  error : ∀ b, owner b = worker → m.errors[b]? = m'.errors[b]?
  cell : ∀ c, (∀ b < blocks, owned b c → owner b = worker) → m.cells[c]? = m'.cells[c]?

structure Machine.AgreeOn (owner : ℕ → ℕ) (blocks : ℕ) (owned : ℕ → ℕ → Prop) (worker : ℕ)
    (m m' : Machine κ β ε) : Prop where
  thread : m.threads worker = m'.threads worker
  memory : m.memory.AgreeOn owner blocks owned worker m'.memory

def Machine.Keeps (owner : ℕ → ℕ) (blocks : ℕ) (owned : ℕ → ℕ → Prop) (m : Machine κ β ε) : Prop :=
  ∀ worker, (m.threads worker).Keeps owner blocks owned worker

section Workers

variable {owner : ℕ → ℕ} {blocks : ℕ} {owned : ℕ → ℕ → Prop} {worker other : ℕ}

theorem Memory.AgreeOn.refl {m : Memory κ β ε} : m.AgreeOn owner blocks owned worker m :=
  ⟨rfl, fun _ _ => rfl, fun _ _ => rfl⟩

theorem Memory.AgreeOn.trans {m m' m'' : Memory κ β ε} (h : m.AgreeOn owner blocks owned worker m')
    (h' : m'.AgreeOn owner blocks owned worker m'') : m.AgreeOn owner blocks owned worker m'' :=
  ⟨h.scratch.trans h'.scratch, fun b hb => (h.error b hb).trans (h'.error b hb),
    fun c hc => (h.cell c hc).trans (h'.cell c hc)⟩

theorem Machine.AgreeOn.symm {m m' : Machine κ β ε} (h : m.AgreeOn owner blocks owned worker m') :
    m'.AgreeOn owner blocks owned worker m :=
  ⟨h.thread.symm, h.memory.scratch.symm, fun b hb => (h.memory.error b hb).symm,
    fun c hc => (h.memory.cell c hc).symm⟩

theorem Machine.AgreeOn.trans {m m' m'' : Machine κ β ε}
    (h : m.AgreeOn owner blocks owned worker m') (h' : m'.AgreeOn owner blocks owned worker m'') :
    m.AgreeOn owner blocks owned worker m'' :=
  ⟨h.thread.trans h'.thread, h.memory.trans h'.memory⟩

theorem Memory.eq_of_agree {workers : ℕ} (howner : ∀ b, owner b < workers) {m m' : Memory κ β ε}
    (h : ∀ worker < workers, m.AgreeOn owner blocks owned worker m')
    (hdisjoint : ∀ b < blocks, ∀ b' < blocks, ∀ c, owned b c → owned b' c → b = b') :
    m.cells = m'.cells ∧ m.errors = m'.errors := by
  refine ⟨List.ext_getElem? fun c => ?_, List.ext_getElem? fun b => (h _ (howner b)).error b rfl⟩
  by_cases hc : ∃ b < blocks, owned b c
  · obtain ⟨b, hb, hown⟩ := hc
    exact (h _ (howner b)).cell c fun b' hb' hown' => by
      rw [hdisjoint b' hb' b hb c hown' hown]
  · push Not at hc
    exact (h _ (howner 0)).cell c fun b hb hown => absurd hown (hc b hb)

theorem Machine.keeps_start (cells : List β) (scratch : ℕ → κ) :
    Machine.Keeps owner blocks owned (.start owner blocks cells scratch : Machine κ β ε) := by
  intro worker
  refine ⟨fun block code h => ?_, fun block h => ?_⟩
  · cases h
  · simpa [Machine.start] using h

/-- A worker that goes on keeps to its blocks. -/
theorem Machine.Keeps.move {m : Machine κ β ε} (h : m.Keeps owner blocks owned)
    {memory : Memory κ β ε} {thread : Thread κ β ε}
    (hthread : thread.Keeps owner blocks owned worker) :
    Machine.Keeps owner blocks owned ⟨memory, Function.update m.threads worker thread⟩ := by
  intro w
  by_cases hw : w = worker
  · subst hw
    simpa using hthread
  · simpa [hw] using h w

variable [Inhabited β] {body : ℕ → Code ℕ κ β ε Unit}

theorem Memory.call_frame (hne : other ≠ worker) {block : ℕ} (hblock : block < blocks)
    (howner : owner block = other) {code : Code ℕ κ β ε Unit} (hcode : code.Within (owned block))
    (m : Memory κ β ε) : (m.call other block code).AgreeOn owner blocks owned worker m where
  scratch := Function.update_of_ne hne.symm ..
  error b hb := getElem?_recordError_ne _ (fun he => hne (by rw [← howner, he, hb])) _
  cell c hc := hcode.run_frame _ _ fun hown => hne (by rw [← howner, hc block hblock hown])

theorem Memory.call_agree (hapart : Apart blocks body owned) {block : ℕ} (hblock : block < blocks)
    (howner : owner block = worker) {code : Code ℕ κ β ε Unit} (hcode : code.Within (owned block))
    {m m' : Memory κ β ε} (h : m.AgreeOn owner blocks owned worker m') :
    (m.call worker block code).AgreeOn owner blocks owned worker (m'.call worker block code) := by
  have hseen : ∀ c, owned block c → ∀ b < blocks, owned b c → owner b = worker := by
    intro c hown b hb hown'
    rw [hapart.disjoint b hb block hblock c hown' hown, howner]
  obtain ⟨hscratch, hend, hcells⟩ := hcode.run_agree hseen (m.scratch worker) h.cell
  unfold Memory.call
  rw [← h.scratch]
  refine ⟨?_, fun b hb => ?_, hcells⟩
  · simp only [Function.update_self, hscratch]
  · dsimp only
    rw [hend]
    exact getElem?_recordError (h.error b hb) _ _

theorem callAll_frame (hapart : Apart blocks body owned) (hne : other ≠ worker) :
    ∀ (later : List ℕ) (m : Memory κ β ε),
      (∀ block ∈ later, block < blocks ∧ owner block = other) →
      (callAll body other m later).AgreeOn owner blocks owned worker m
  | [], _, _ => .refl
  | block :: later, m, hlater => by
    obtain ⟨hblock, howner⟩ := hlater block (by simp)
    have hrest := callAll_frame hapart hne later (m.call other block (body block))
      fun b hb => hlater b (by simp [hb])
    exact hrest.trans (Memory.call_frame hne hblock howner (hapart.within block hblock) m)

theorem callAll_agree (hapart : Apart blocks body owned) :
    ∀ (later : List ℕ) (m m' : Memory κ β ε),
      (∀ block ∈ later, block < blocks ∧ owner block = worker) →
      m.AgreeOn owner blocks owned worker m' →
      (callAll body worker m later).AgreeOn owner blocks owned worker (callAll body worker m' later)
  | [], _, _, _, h => h
  | block :: later, m, m', hlater, h => by
    obtain ⟨hblock, howner⟩ := hlater block (by simp)
    exact callAll_agree hapart later _ _ (fun b hb => hlater b (by simp [hb]))
      (Memory.call_agree hapart hblock howner (hapart.within block hblock) h)

namespace Machine

variable {m m' : Machine κ β ε}

/-- A step of a worker: it stays at its end, begins a call, ends one, or makes an access. -/
theorem step_cases (body : ℕ → Code ℕ κ β ε Unit) (m : Machine κ β ε) (worker : ℕ) :
    (m.threads worker = ⟨none, []⟩ ∧ m.step body worker = m) ∨
    (∃ block later, m.threads worker = ⟨none, block :: later⟩ ∧
      m.step body worker =
        ⟨m.memory, Function.update m.threads worker ⟨some (block, body block), later⟩⟩) ∨
    (∃ block end_ later, m.threads worker = ⟨some (block, Code.lift end_), later⟩ ∧
      m.step body worker =
        ⟨{ m.memory with errors := recordError m.memory.errors block (errorOf end_) },
          Function.update m.threads worker ⟨none, later⟩⟩) ∨
    (∃ block code later, m.threads worker = ⟨some (block, code), later⟩ ∧
      let r := code.access (.list β) (m.memory.scratch worker) m.memory.cells
      m.step body worker =
        ⟨⟨r.2.2, Function.update m.memory.scratch worker r.2.1, m.memory.errors⟩,
          Function.update m.threads worker ⟨some (block, r.1), later⟩⟩) := by
  rcases hthread : m.threads worker with ⟨call, later⟩
  cases call with
  | none =>
    cases later with
    | nil => exact .inl ⟨rfl, by simp [step, hthread]⟩
    | cons block later => exact .inr (.inl ⟨block, later, rfl, by simp [step, hthread]⟩)
  | some call =>
    obtain ⟨block, code⟩ := call
    cases code with
    | pure value =>
      exact .inr (.inr (.inl ⟨block, .ok value, later, rfl, by simp [step, hthread, recordError]⟩))
    | throw e =>
      exact .inr (.inr (.inl ⟨block, .error e, later, rfl, by simp [step, hthread, errorOf]⟩))
    | _ => exact .inr (.inr (.inr ⟨block, _, later, rfl, by simp [step, hthread]⟩))

theorem step_keeps (hapart : Apart blocks body owned) (h : m.Keeps owner blocks owned)
    (worker : ℕ) : (m.step body worker).Keeps owner blocks owned := by
  have hworker := h worker
  obtain ⟨-, hstep⟩ | ⟨block, later, hthread, hstep⟩ | ⟨block, ending, later, hthread, hstep⟩ |
    ⟨block, code, later, hthread, hstep⟩ := step_cases body m worker
  · rwa [hstep]
  · rw [hthread] at hworker
    rw [hstep]
    obtain ⟨hblock, howner⟩ := hworker.later block (by simp)
    refine h.move ⟨fun b code hcall => ?_, fun b hb => hworker.later b (by simp [hb])⟩
    cases hcall
    exact ⟨hblock, howner, hapart.within block hblock⟩
  · rw [hthread] at hworker
    rw [hstep]
    exact h.move ⟨fun b code hcall => (by cases hcall), hworker.later⟩
  · rw [hthread] at hworker
    rw [hstep]
    obtain ⟨hblock, howner, hcode⟩ := hworker.call block code rfl
    refine h.move ⟨fun b rest hcall => ?_, hworker.later⟩
    cases hcall
    exact ⟨hblock, howner, Code.access_within _ hcode _ _⟩

theorem step_frame (h : m.Keeps owner blocks owned) (hne : other ≠ worker) :
    (m.step body other).AgreeOn owner blocks owned worker m := by
  have hother := h other
  obtain ⟨-, hstep⟩ | ⟨block, later, hthread, hstep⟩ | ⟨block, ending, later, hthread, hstep⟩ |
    ⟨block, code, later, hthread, hstep⟩ := step_cases body m other
  · rw [hstep]
    exact ⟨rfl, .refl⟩
  · rw [hstep]
    exact ⟨Function.update_of_ne hne.symm .., .refl⟩
  · rw [hthread] at hother
    obtain ⟨-, howner, -⟩ := hother.call block _ rfl
    rw [hstep]
    refine ⟨Function.update_of_ne hne.symm .., rfl, fun b hb => ?_, fun c hc => rfl⟩
    exact getElem?_recordError_ne _ (fun he => hne (by rw [← howner, he, hb])) _
  · rw [hthread] at hother
    obtain ⟨hblock, howner, hcode⟩ := hother.call block code rfl
    rw [hstep]
    refine ⟨Function.update_of_ne hne.symm .., Function.update_of_ne hne.symm .., fun b hb => rfl,
      fun c hc => ?_⟩
    exact hcode.access_frame _ _ fun hown => hne (by rw [← howner, hc block hblock hown])

theorem complete_eq {call : Option (ℕ × Code ℕ κ β ε Unit)} {later : List ℕ}
    (h : m.threads worker = ⟨call, later⟩) :
    m.complete body worker =
      ⟨callAll body worker (call.elim m.memory fun c => m.memory.call worker c.1 c.2) later,
        Function.update m.threads worker ⟨none, []⟩⟩ := by
  unfold complete
  rw [h]
  cases call <;> rfl

theorem finish_done (h : ∀ worker, m.threads worker = ⟨none, []⟩) (body : ℕ → Code ℕ κ β ε Unit)
    (workers : ℕ) : m.finish body workers = m := by
  have hcomplete : ∀ worker, m.complete body worker = m := by
    intro worker
    have hthreads : Function.update m.threads worker ⟨none, []⟩ = m.threads := by
      rw [← h worker, Function.update_eq_self]
    rw [complete_eq (h worker), hthreads]
    rfl
  unfold finish
  induction List.range workers with
  | nil => rfl
  | cons worker l ih => rw [List.foldl_cons, hcomplete, ih]

theorem foldl_step_done (h : ∀ worker, m.threads worker = ⟨none, []⟩)
    (body : ℕ → Code ℕ κ β ε Unit) (schedule : List ℕ) : schedule.foldl (step body) m = m := by
  induction schedule with
  | nil => rfl
  | cons worker l ih =>
    have hstep : m.step body worker = m := by
      unfold step
      rw [h worker]
    rw [List.foldl_cons, hstep, ih]

theorem complete_step (body : ℕ → Code ℕ κ β ε Unit) (m : Machine κ β ε) (worker : ℕ) :
    (m.step body worker).complete body worker = m.complete body worker := by
  obtain ⟨-, hstep⟩ | ⟨block, later, hthread, hstep⟩ | ⟨block, ending, later, hthread, hstep⟩ |
    ⟨block, code, later, hthread, hstep⟩ := step_cases body m worker
  · rw [hstep]
  · rw [hstep, complete_eq hthread, complete_eq (Function.update_self ..), Function.update_idem]
    rfl
  · have hcall : m.memory.call worker block (Code.lift ending) =
        { m.memory with errors := recordError m.memory.errors block (errorOf ending) } := by
      simp [Memory.call]
    rw [hstep, complete_eq hthread, complete_eq (Function.update_self ..), Function.update_idem]
    simp only [Option.elim, hcall]
  · have hcall := Code.run_access (.list β) (m.memory.scratch worker) m.memory.cells code
    rw [hstep, complete_eq hthread, complete_eq (Function.update_self ..), Function.update_idem]
    simp only [Option.elim, Memory.call, Function.update_self, Function.update_idem, hcall]

theorem complete_keeps (h : m.Keeps owner blocks owned) (worker : ℕ) :
    (m.complete body worker).Keeps owner blocks owned :=
  h.move ⟨fun b code hcall => (by cases hcall), fun b hb => (by cases hb)⟩

theorem complete_frame (hapart : Apart blocks body owned) (h : m.Keeps owner blocks owned)
    (hne : other ≠ worker) : (m.complete body other).AgreeOn owner blocks owned worker m := by
  have hother := h other
  rcases hthread : m.threads other with ⟨call, later⟩
  rw [hthread] at hother
  rw [complete_eq hthread]
  refine ⟨Function.update_of_ne hne.symm ..,
    (callAll_frame hapart hne later _ hother.later).trans ?_⟩
  cases call with
  | none => exact .refl
  | some call =>
    obtain ⟨hblock, howner, hcode⟩ := hother.call call.1 call.2 rfl
    exact Memory.call_frame hne hblock howner hcode _

theorem complete_agree (hapart : Apart blocks body owned) (h : m.Keeps owner blocks owned)
    (hagree : m.AgreeOn owner blocks owned worker m') :
    (m.complete body worker).AgreeOn owner blocks owned worker (m'.complete body worker) := by
  have hworker := h worker
  rcases hthread : m.threads worker with ⟨call, later⟩
  rw [hthread] at hworker
  rw [complete_eq hthread, complete_eq (hagree.thread.symm.trans hthread)]
  refine ⟨by simp only [Function.update_self], callAll_agree hapart later _ _ hworker.later ?_⟩
  cases call with
  | none => exact hagree.memory
  | some call =>
    obtain ⟨hblock, howner, hcode⟩ := hworker.call call.1 call.2 rfl
    exact Memory.call_agree hapart hblock howner hcode hagree.memory

theorem foldl_complete (hapart : Apart blocks body owned) :
    ∀ (l : List ℕ) (m : Machine κ β ε), l.Nodup → m.Keeps owner blocks owned →
      (worker ∉ l → (l.foldl (complete body) m).AgreeOn owner blocks owned worker m) ∧
      (worker ∈ l → (l.foldl (complete body) m).AgreeOn owner blocks owned worker
        (m.complete body worker))
  | [], m, _, _ => ⟨fun _ => ⟨rfl, .refl⟩, fun h => absurd h (by simp)⟩
  | other :: l, m, hl, h => by
    obtain ⟨hother, hnodup⟩ := List.nodup_cons.mp hl
    have hkeeps : (m.complete body other).Keeps owner blocks owned := complete_keeps h other
    obtain ⟨hout, hin⟩ := foldl_complete hapart l (m.complete body other) hnodup hkeeps
    rw [List.foldl_cons]
    constructor
    · intro hworker
      have hne : other ≠ worker := fun he => hworker (by simp [he])
      exact (hout fun hmem => hworker (by simp [hmem])).trans (complete_frame hapart h hne)
    · intro hworker
      rcases List.mem_cons.mp hworker with rfl | hmem
      · exact hout hother
      · have hne : other ≠ worker := fun he => hother (he ▸ hmem)
        exact (hin hmem).trans
          (complete_agree hapart hkeeps (complete_frame hapart h hne))

theorem finish_step (hapart : Apart blocks body owned) (h : m.Keeps owner blocks owned)
    {workers : ℕ} (hworker : worker < workers) (mover : ℕ) :
    ((m.step body mover).finish body workers).AgreeOn owner blocks owned worker
      (m.finish body workers) := by
  have hmem : worker ∈ List.range workers := List.mem_range.mpr hworker
  have hafter : ((m.step body mover).finish body workers).AgreeOn owner blocks owned worker _ :=
    (foldl_complete hapart _ _ List.nodup_range (step_keeps hapart h mover)).2 hmem
  have hbefore : (m.finish body workers).AgreeOn owner blocks owned worker _ :=
    (foldl_complete hapart _ _ List.nodup_range h).2 hmem
  have hsame : ((m.step body mover).complete body worker).AgreeOn owner blocks owned worker
      (m.complete body worker) := by
    by_cases hne : mover = worker
    · rw [hne, complete_step]
      exact ⟨rfl, .refl⟩
    · exact complete_agree hapart (step_keeps hapart h mover) (step_frame h hne)
  exact (hafter.trans hsame).trans hbefore.symm

theorem interleave_eq (hapart : Apart blocks body owned) {workers : ℕ}
    (howner : ∀ b, owner b < workers) (schedule : List ℕ) (h : m.Keeps owner blocks owned) :
    (interleave body workers schedule m).cells = (m.finish body workers).memory.cells ∧
      (interleave body workers schedule m).errors = (m.finish body workers).memory.errors ∧
      ∀ worker < workers, (interleave body workers schedule m).scratch worker =
        (m.finish body workers).memory.scratch worker := by
  have hagree : ∀ (schedule : List ℕ) (m : Machine κ β ε), m.Keeps owner blocks owned →
      ∀ worker < workers, ((schedule.foldl (step body) m).finish body workers).AgreeOn owner blocks
        owned worker (m.finish body workers) := by
    intro schedule
    induction schedule with
    | nil => exact fun m _ worker _ => ⟨rfl, .refl⟩
    | cons mover schedule ih =>
      intro m hm worker hworker
      exact (ih _ (step_keeps hapart hm mover) worker hworker).trans
        (finish_step hapart hm hworker mover)
  have hall := hagree schedule m h
  obtain ⟨hcells, herrors⟩ := Memory.eq_of_agree howner (fun w hw => (hall w hw).memory)
    hapart.disjoint
  exact ⟨hcells, herrors, fun w hw => (hall w hw).memory.scratch⟩

end Machine
end Workers
end PointcloudAd.Library
