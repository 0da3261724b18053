import PointcloudAd.Core.Geometry
import PointcloudAd.Library.Matching
import PointcloudAd.Library.Outcome
import PointcloudAd.Library.Parallel

/-!
# The executor, as its callers see it

A run cuts its points into blocks of 256. Its workers call the job on their blocks, access after
access and in any interleaving, and the run throws the exception of the lowest block that threw.
What a run computes does not depend on the interleaving, on the number of workers, or on what
earlier runs left behind.
-/

namespace PointcloudAd.Registration

open Library

variable {κ β : Type}

namespace CpuExecutor

def blockSize : ℕ := 256

def blocks (count : ℕ) : ℕ := count / blockSize + if count % blockSize ≠ 0 then 1 else 0

theorem le_blocks (count : ℕ) : count ≤ blocks count * blockSize := by
  have h := Nat.div_add_mod count blockSize
  have hlt := Nat.mod_lt count (y := blockSize) (by decide)
  unfold blocks
  split_ifs with hm
  · rw [Nat.add_mul, Nat.mul_comm]
    omega
  · rw [Nat.add_zero, Nat.mul_comm]
    omega

theorem block_lt {count i : ℕ} (h : i < count) : i / blockSize < blocks count :=
  Nat.div_lt_of_lt_mul (by rw [Nat.mul_comm]; exact h.trans_le (le_blocks count))

theorem blocks_eq_zero {count : ℕ} : blocks count = 0 ↔ count = 0 := by
  constructor
  · intro h
    have := le_blocks count
    rw [h] at this
    omega
  · rintro rfl
    rfl

end CpuExecutor

/-- A pool of workers; the caller of a run is one of them. -/
structure CpuExecutor where
  count : ℕ
  positive : 0 < count

/-- What runs leave behind in the executor. -/
structure ExecutorState where
  errors : List (Option Exn)
  generation : ℕ

/-- For every run, the workers that take the next step, one after the other. -/
structure Scheduler where
  order : ℕ → ℕ → ℕ → List ℕ

/-- Every worker runs to its end before the next one begins. -/
def Scheduler.sequential : Scheduler := ⟨fun _ _ _ => []⟩

/-- The workers take turns at every small step. -/
def Scheduler.alternating : Scheduler :=
  ⟨fun _ workers points => (List.range (16 * points)).map (· % workers)⟩

/-- How a run ends. -/
structure Ran (κ β : Type) where
  thrown : Option Exn
  cells : List β
  scratch : List κ
  state : ExecutorState

/-- The cells of a run, or what it threw. -/
def Ran.outcome (ran : Ran κ β) : Except Exn (List β) :=
  match ran.thrown with
  | some e => .error e
  | none => .ok ran.cells

namespace CpuExecutor

def create (budget : UInt32) (capacity : ℕ) : Except Exn CpuExecutor :=
  if h : budget = 0 then .error (.invalidArgument "thread budget must be positive")
  else .ok ⟨min (min budget.toNat 64) (max 1 (blocks capacity)), by
    have hb : 0 < budget.toNat := Nat.pos_iff_ne_zero.mpr fun he => h (UInt32.toNat_inj.mp he)
    omega⟩

def concurrency (executor : CpuExecutor) : ℕ := executor.count

def initial : ExecutorState := ⟨[], 0⟩

variable [Inhabited κ] [Inhabited β]

/-- `run(points, function)` on cells and one scratch per worker: worker `w` calls the function on
the blocks `b` with `b % count = w`. -/
def runBlocks (executor : CpuExecutor) (scheduler : Scheduler) (state : ExecutorState) (points : ℕ)
    (function : ℕ → Code ℕ κ β Exn Unit) (cells : List β) (scratch : List κ) : Ran κ β :=
  let total := blocks points
  if total = 0 then ⟨none, cells, scratch, state⟩
  else
    let memory := Machine.interleave function executor.count
      (scheduler.order state.generation executor.count points)
      (.start (· % executor.count) total cells fun worker => scratch.getD worker default)
    ⟨memory.errors.findSome? id, memory.cells, (List.range executor.count).map memory.scratch,
      ⟨memory.errors, state.generation + 1⟩⟩

/-- Runs a job over `points` iterations. -/
def run (executor : CpuExecutor) (scheduler : Scheduler) (state : ExecutorState) (points : ℕ)
    (job : Job κ β Exn) (cells : List β) (scratch : List κ) : Ran κ β :=
  executor.runBlocks scheduler state points (job.block blockSize points) cells scratch

variable {job : Job κ β Exn} {points : ℕ}

theorem run_eq_prefixRun (hf : job.ScratchFree) (hd : job.Disjoint blockSize points)
    (executor : CpuExecutor) (scheduler : Scheduler) (state : ExecutorState) {cells : List β}
    (hrange : ∀ i < points, job.cell i < cells.length) (scratch : List κ) :
    (executor.run scheduler state points job cells scratch).thrown =
        (job.prefixRun blockSize (blocks points) cells points).errors.findSome? id ∧
      (executor.run scheduler state points job cells scratch).cells =
        (job.prefixRun blockSize (blocks points) cells points).cells := by
  unfold run runBlocks
  dsimp only
  split_ifs with h
  · obtain rfl := blocks_eq_zero.mp h
    simp [Job.prefixRun, h]
  · obtain ⟨hcells, herrors, -⟩ :=
      Job.interleave_whole hd executor.positive (le_blocks points) cells
      hrange (fun worker => scratch.getD worker default)
      (scheduler.order state.generation executor.count points)
    obtain ⟨hc, he⟩ := Job.foldl_interleaves hf hd executor.positive Nat.one_pos
      (.inTurn blockSize executor.count points) (.range blockSize 1 points) cells
      (fun worker => scratch.getD worker default) (fun _ => default)
      (List.replicate (blocks points) none)
    exact ⟨congrArg (List.findSome? id) (herrors.trans he), hcells.trans hc⟩

theorem run_independent (hf : job.ScratchFree) (hd : job.Disjoint blockSize points)
    (executor executor' : CpuExecutor) (scheduler scheduler' : Scheduler)
    (state state' : ExecutorState) {cells : List β}
    (hrange : ∀ i < points, job.cell i < cells.length) (scratch scratch' : List κ) :
    (executor.run scheduler state points job cells scratch).thrown =
        (executor'.run scheduler' state' points job cells scratch').thrown ∧
      (executor.run scheduler state points job cells scratch).cells =
        (executor'.run scheduler' state' points job cells scratch').cells := by
  obtain ⟨ht, hc⟩ := run_eq_prefixRun hf hd executor scheduler state hrange scratch
  obtain ⟨ht', hc'⟩ := run_eq_prefixRun hf hd executor' scheduler' state' hrange scratch'
  exact ⟨ht.trans ht'.symm, hc.trans hc'.symm⟩

/-- A run whose iterations have cells of their own throws the first of their exceptions, or
leaves every result in its cell. -/
theorem run_filled (hf : job.ScratchFree)
    (hinj : ∀ i < points, ∀ j < points, job.cell i = job.cell j → i = j) (executor : CpuExecutor)
    (scheduler : Scheduler) (state : ExecutorState) {cells : List β}
    (hrange : ∀ i < points, job.cell i < cells.length) (scratch : List κ) :
    (executor.run scheduler state points job cells scratch).thrown =
        (List.range points).findSome? (fun i => (job.result cells i).2) ∧
      ((∀ i < points, (job.result cells i).2 = none) →
        (executor.run scheduler state points job cells scratch).cells =
          scatter cells ((List.range points).map fun i => (job.cell i,
            (job.result cells i).1))) := by
  have hd : job.Disjoint blockSize points := fun i hi j hj he => by rw [hinj i hi j hj he]
  obtain ⟨ht, hc⟩ := run_eq_prefixRun hf hd executor scheduler state hrange scratch
  have hfilled := Job.filled_prefixRun hf (show 0 < blockSize by decide) (le_blocks points) cells
    hinj points le_rfl
  refine ⟨ht.trans hfilled.error, fun hok => hc.trans (List.ext_getElem? fun c => ?_)⟩
  have hkeys : ((List.range points).map fun i => (job.cell i, (job.result cells i).1)).map
      Prod.fst = (List.range points).map job.cell := by
    simp [Function.comp_def]
  by_cases hcell : ∃ i < points, job.cell i = c
  · obtain ⟨i, hi, rfl⟩ := hcell
    have hlt := hrange i hi
    have hnodup : ((List.range points).map job.cell).Nodup :=
      List.Nodup.map_on (fun i hi j hj he => hinj i (List.mem_range.mp hi) j
        (List.mem_range.mp hj) he) List.nodup_range
    rw [hfilled.written hok i hi,
      getElem?_scatter (hkeys ▸ hnodup) (List.mem_map.mpr ⟨i, List.mem_range.mpr hi, rfl⟩) hlt]
    simp [hlt]
  · push Not at hcell
    rw [hfilled.untouched c hcell, getElem?_scatter_of_not_mem]
    rw [hkeys]
    simpa using fun i hi => hcell i hi

/-- A run that writes a value to the cell of every iteration and never throws. -/
theorem run_map (hf : job.ScratchFree) (hcell : job.cell = fun i => i) {cells : List β}
    {value : ℕ → β} (hvalue : ∀ i < cells.length, job.result cells i = (value i, none))
    (executor : CpuExecutor) (scheduler : Scheduler) (state : ExecutorState) (scratch : List κ) :
    (executor.run scheduler state cells.length job cells scratch).thrown = none ∧
      (executor.run scheduler state cells.length job cells scratch).cells =
        (List.range cells.length).map value := by
  have hinj : ∀ i < cells.length, ∀ j < cells.length, job.cell i = job.cell j → i = j := by
    intro i _ j _ he
    rw [hcell] at he
    exact he
  have hrange : ∀ i < cells.length, job.cell i < cells.length := by
    rw [hcell]
    exact fun i hi => hi
  obtain ⟨ht, hc⟩ := run_filled hf hinj executor scheduler state hrange scratch
  constructor
  · rw [ht, List.findSome?_eq_none_iff]
    intro i hi
    rw [hvalue i (List.mem_range.mp hi)]
  · have hwrites : ((List.range cells.length).map fun i => (job.cell i, (job.result cells i).1)) =
        (List.range cells.length).map fun i => (i, value i) := by
      refine List.map_congr_left fun i hi => ?_
      rw [hcell, hvalue i (List.mem_range.mp hi)]
    rw [hc fun i hi => by rw [hvalue i hi], hwrites, scatter_range]

/-- A job that writes, at most once, the cell of each iteration. -/
structure Writes (job : Job κ β Exn) (value : ℕ → Except Exn (Option β)) : Prop where
  step : ∀ i k c, (job.step i k c).2 = match value i with
    | .error e => (c, some e)
    | .ok v => (v.getD c, none)

omit [Inhabited κ] [Inhabited β] in
theorem Writes.scratchFree {value : ℕ → Except Exn (Option β)} (hw : Writes job value) :
    job.ScratchFree := fun i k k' c => (hw.step i k c).trans (hw.step i k' c).symm

/-- A run that writes at the indices of a walk is the loop over the walk in order. -/
theorem run_writes {value : ℕ → Except Exn (Option β)} {indices : List ℕ} {cells : List β}
    (hw : Writes job value) (hn : indices.Nodup) (hlt : ∀ i ∈ indices, i < cells.length)
    (hcell : ∀ k, (hk : k < indices.length) → job.cell k = indices[k]) (executor : CpuExecutor)
    (scheduler : Scheduler) (state : ExecutorState) (scratch : List κ) :
    (executor.run scheduler state indices.length job cells scratch).outcome =
      ((List.range indices.length).mapM value).map
        fun values => scatter cells (writesAt indices values) := by
  have hf := hw.scratchFree
  have hinj : ∀ k < indices.length, ∀ l < indices.length, job.cell k = job.cell l → k = l := by
    intro k hk l hl he
    rw [hcell k hk, hcell l hl] at he
    exact (List.Nodup.getElem_inj_iff hn).mp he
  have hrange : ∀ k < indices.length, job.cell k < cells.length := by
    intro k hk
    rw [hcell k hk]
    exact hlt _ (List.getElem_mem hk)
  obtain ⟨ht, hc⟩ := run_filled hf hinj executor scheduler state hrange scratch
  have herror : (fun i => (job.result cells i).2) = fun i => errorOf (value i) := by
    funext i
    rw [Job.result, hw.step]
    cases value i <;> rfl
  rw [herror] at ht
  unfold Ran.outcome
  rw [ht, mapM_eq]
  cases hfirst : (List.range indices.length).findSome? fun i => errorOf (value i) with
  | some e => rfl
  | none =>
    have hquiet : ∀ k < indices.length, (job.result cells k).2 = none := by
      intro k hk
      rw [show (job.result cells k).2 = errorOf (value k) from congrFun herror k]
      exact List.findSome?_eq_none_iff.mp hfirst k (List.mem_range.mpr hk)
    have hvalue : ∀ k < indices.length, (job.result cells k).1 =
        (valueOf (value k)).getD (cells.getD (job.cell k) default) := by
      intro k hk
      have hnone := hquiet k hk
      rw [Job.result, hw.step] at hnone ⊢
      cases hv : value k with
      | error e => simp [hv] at hnone
      | ok v => rfl
    simp only [Except.map]
    rw [hc hquiet]
    refine congrArg Except.ok (List.ext_getElem? fun c => ?_)
    have hkeys : ((List.range indices.length).map
        fun k => (job.cell k, (job.result cells k).1)).map Prod.fst = indices := by
      refine List.ext_getElem (by simp) fun k hk hk' => ?_
      simp [hcell k hk']
    have hnodup : (((List.range indices.length).map
        fun k => (job.cell k, (job.result cells k).1)).map Prod.fst).Nodup := by rwa [hkeys]
    by_cases hmem : c ∈ indices
    · obtain ⟨k, hk, rfl⟩ := List.mem_iff_getElem.mp hmem
      have hcl := hlt _ hmem
      rw [← hcell k hk] at hcl
      have hwrite : (job.cell k, (job.result cells k).1) ∈ (List.range indices.length).map
          fun k => (job.cell k, (job.result cells k).1) :=
        List.mem_map.mpr ⟨k, List.mem_range.mpr hk, rfl⟩
      rw [← hcell k hk, getElem?_scatter hnodup hwrite hcl, hvalue k hk, hcell k hk]
      rw [getElem?_scatter_writesAt hn (k := k) (v := valueOf (value k)) (by simp [hk])
        (by simp [hk]) (List.getElem?_eq_getElem (hlt _ hmem))]
      simp [hlt _ hmem]
    · rw [getElem?_scatter_of_not_mem (by rwa [hkeys]), getElem?_scatter_writesAt_of_not_mem hmem]

theorem run_quiet (hd : job.Disjoint blockSize points)
    (hquiet : ∀ i k c, (job.step i k c).2.2 = none)
    (executor : CpuExecutor) (scheduler : Scheduler) (state : ExecutorState) {cells : List β}
    (hrange : ∀ i < points, job.cell i < cells.length) (scratch : List κ) :
    (executor.run scheduler state points job cells scratch).thrown = none := by
  unfold run runBlocks
  dsimp only
  split_ifs
  · rfl
  · rw [(Job.interleave_whole hd executor.positive (le_blocks points) cells hrange _ _).2.1]
    refine List.findSome?_eq_none_iff.mpr fun e he => ?_
    exact Job.foldl_quiet hquiet _ _ _ (fun e he => List.eq_of_mem_replicate he) e he

theorem run_accumulated (hf : job.ScratchFree) (hcell : ∀ i, job.cell i = i / blockSize)
    (hquiet : ∀ i k c, (job.step i k c).2.2 = none) (executor : CpuExecutor)
    (scheduler : Scheduler) (state : ExecutorState) {cells : List β}
    (hrange : ∀ i < points, i / blockSize < cells.length) (scratch : List κ) (b : ℕ) :
    (executor.run scheduler state points job cells scratch).cells[b]? = (cells[b]?).map fun c =>
      ((List.range points).filter (fun i => i / blockSize = b)).foldl
        (fun c i => (job.step i default c).2.1) c := by
  have hd : job.Disjoint blockSize points := fun i _ j _ he => by rwa [hcell, hcell] at he
  rw [(run_eq_prefixRun hf hd executor scheduler state (by simpa only [hcell]) scratch).2]
  exact Job.accumulated hf hcell hquiet (blocks points) cells points b

/-- A loop on an executor made for it, with one scratch value for each worker. -/
def parallelFor (scheduler : Scheduler) (threads : UInt32) (points : ℕ) (job : Job κ β Exn)
    (cells : List β) : Except Exn (List β) := do
  let executor ← create threads points
  (executor.run scheduler initial points job cells
    (List.replicate executor.concurrency default)).outcome

theorem parallelFor_writes {value : ℕ → Except Exn (Option β)} {indices : List ℕ} {cells : List β}
    (hw : Writes job value) (hn : indices.Nodup) (hlt : ∀ i ∈ indices, i < cells.length)
    (hcell : ∀ k, (hk : k < indices.length) → job.cell k = indices[k]) (scheduler : Scheduler)
    (threads : UInt32) :
    parallelFor scheduler threads indices.length job cells =
      if threads = 0 then .error (.invalidArgument "thread budget must be positive")
      else ((List.range indices.length).mapM value).map
        fun values => scatter cells (writesAt indices values) := by
  unfold parallelFor create
  split_ifs with h
  · rfl
  · exact run_writes hw hn hlt hcell _ scheduler initial _

end CpuExecutor
end PointcloudAd.Registration
