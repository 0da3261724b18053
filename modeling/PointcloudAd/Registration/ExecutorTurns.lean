import PointcloudAd.Registration.ExecutorProtocol

/-!
# The turns of an executor's threads

A thread that executes has called the job on its own blocks up to the one where it is, and a step of
one thread leaves the turns of the others as they were.
-/

namespace PointcloudAd.Registration

variable {κ ε : Type}

/-- The blocks of a worker before a bound. -/
def ownBlocks (count total worker bound : ℕ) : List ℕ :=
  (List.range (min bound total)).filter fun b => b % count = worker

section Blocks

variable {count total worker block bound : ℕ}

theorem mem_ownBlocks {b : ℕ} :
    b ∈ ownBlocks count total worker bound ↔ b < bound ∧ b < total ∧ b % count = worker := by
  simp [ownBlocks, and_assoc]

theorem nodup_ownBlocks : (ownBlocks count total worker bound).Nodup :=
  List.nodup_range.filter _

theorem ownBlocks_zero : ownBlocks count total worker 0 = [] := by
  simp [ownBlocks]

theorem ownBlocks_first (h : worker < count) : ownBlocks count total worker worker = [] := by
  apply List.eq_nil_iff_forall_not_mem.mpr
  intro b hb
  obtain ⟨hbefore, -, hown⟩ := mem_ownBlocks.mp hb
  rw [Nat.mod_eq_of_lt (hbefore.trans h)] at hown
  omega

theorem ownBlocks_succ (hblock : block < total) (hown : block % count = worker) :
    ownBlocks count total worker (block + 1) = ownBlocks count total worker block ++ [block] := by
  simp [ownBlocks, Nat.min_eq_left hblock, Nat.min_eq_left hblock.le, List.range_succ, hown]

theorem ownBlocks_next (hworker : worker < count) (hblock : block < total)
    (hown : block % count = worker) :
    ownBlocks count total worker (block + count) = ownBlocks count total worker (block + 1) := by
  have hbound : min (block + count) total = block + 1 +
      (min (block + count) total - (block + 1)) := by
    omega
  have hgap : ∀ x < min (block + count) total - (block + 1), (block + 1 + x) % count ≠ worker := by
    intro x hx heq
    have hdvd := Nat.sub_mod_eq_zero_of_mod_eq (heq.trans hown.symm)
    have hdiff : block + 1 + x - block = x + 1 := by omega
    rw [hdiff, Nat.mod_eq_of_lt (by omega)] at hdvd
    omega
  have hrest : (List.map (block + 1 + ·)
      (List.range (min (block + count) total - (block + 1)))).filter (fun b => b % count = worker) =
        [] := by
    simpa using hgap
  rw [ownBlocks, ownBlocks, hbound, List.range_add, List.filter_append, hrest, List.append_nil,
    Nat.min_eq_left hblock]

theorem ownBlocks_end (h : total ≤ bound) :
    ownBlocks count total worker bound = ownBlocks count total worker total := by
  simp [ownBlocks, Nat.min_eq_right h]

end Blocks

@[simp] theorem RunRecord.total_observe (r : RunRecord κ ε) (event : ExecutorEvent κ ε) :
    (r.observe event).total = r.total := by
  cases event <;> rfl

@[simp] theorem RunRecord.job_observe (r : RunRecord κ ε) (event : ExecutorEvent κ ε) :
    (r.observe event).job = r.job := by
  cases event <;> rfl

section Observed

variable (r : RunRecord κ ε) (worker block : ℕ) (job : Option κ) (thrown : Option ε)

@[simp] theorem RunRecord.calls_called :
    (r.observe (.called worker block job)).calls = r.calls ++ [(worker, block, job)] := rfl

@[simp] theorem RunRecord.finished_called :
    (r.observe (.called worker block job)).finished = r.finished := rfl

@[simp] theorem RunRecord.thrown_called :
    (r.observe (.called worker block job)).thrown = r.thrown := rfl

@[simp] theorem RunRecord.calls_finished :
    (r.observe (.finished worker block thrown)).calls = r.calls := rfl

@[simp] theorem RunRecord.finished_finished :
    (r.observe (.finished worker block thrown)).finished = r.finished ++ [(worker, block)] := rfl

@[simp] theorem RunRecord.thrown_finished :
    (r.observe (.finished worker block thrown)).thrown =
      Function.update r.thrown block thrown := rfl

end Observed

/-- What a thread has done in a run: it called the job on its blocks before one bound, and these
calls ended for its blocks before another. -/
structure Progress (count : ℕ) (r : RunRecord κ ε) (worker started ended : ℕ) : Prop where
  calls : (r.calls.filter fun c => c.1 = worker) =
    (ownBlocks count r.total worker started).map fun b => (worker, b, some r.job)
  finished : (r.finished.filter fun c => c.1 = worker) =
    (ownBlocks count r.total worker ended).map fun b => (worker, b)
  quiet : ∀ b < r.total, b % count = worker → ended ≤ b → r.thrown b = none

section Progress

variable {count worker other block : ℕ} {r : RunRecord κ ε} {started ended : ℕ}

theorem Progress.observe_called (h : Progress count r worker started ended)
    (hother : other ≠ worker)
    (job : Option κ) : Progress count
      (r.observe (.called other block job)) worker started ended where
  calls := by simpa [hother] using h.calls
  finished := h.finished
  quiet := h.quiet

theorem Progress.observe_finished (h : Progress count r worker started ended)
    (hother : other ≠ worker) (hown : block % count = other) (thrown : Option ε) :
    Progress count (r.observe (.finished other block thrown)) worker started ended where
  calls := h.calls
  finished := by simpa [hother] using h.finished
  quiet := by
    intro b hb hmod hended
    have hne : b ≠ block := by
      rintro rfl
      exact hother (hown.symm.trans hmod)
    simpa [hne] using h.quiet b hb hmod hended

theorem Progress.first (h : Progress count r worker 0 0) (hworker : worker < count) :
    Progress count r worker worker worker where
  calls := by simpa [ownBlocks_zero, ownBlocks_first hworker] using h.calls
  finished := by simpa [ownBlocks_zero, ownBlocks_first hworker] using h.finished
  quiet b hb hmod _ := h.quiet b hb hmod (Nat.zero_le b)

theorem Progress.leave (h : Progress count r worker block block) (hblock : r.total ≤ block) :
    Progress count r worker r.total r.total where
  calls := by simpa [ownBlocks_end hblock] using h.calls
  finished := by simpa [ownBlocks_end hblock] using h.finished
  quiet b hb _ hended := absurd hended (Nat.not_le.mpr hb)

theorem Progress.call (h : Progress count r worker block block) (hblock : block < r.total)
    (hown : block % count = worker) :
    Progress count (r.observe (.called worker block (some r.job))) worker (block + 1) block where
  calls := by
    simp [List.filter_append, h.calls, ownBlocks_succ hblock hown]
  finished := h.finished
  quiet := h.quiet

theorem Progress.finish (h : Progress count r worker (block + 1) block) (hworker : worker < count)
    (hblock : block < r.total) (hown : block % count = worker) (thrown : Option ε) :
    Progress count (r.observe (.finished worker block thrown)) worker (block + count)
      (block + count) where
  calls := by
    simp [h.calls, ownBlocks_next hworker hblock hown]
  finished := by
    simp [List.filter_append, h.finished, ownBlocks_next hworker hblock hown,
      ownBlocks_succ hblock hown]
  quiet := by
    intro b hb hmod hended
    have hne : b ≠ block := by omega
    simpa [hne] using h.quiet b hb hmod (by omega)

end Progress

/-- The calls of a run: every block once, by the worker of its number. -/
def RunRecord.allCalls (count : ℕ) (r : RunRecord κ ε) : List (ℕ × ℕ × Option κ) :=
  (List.range r.total).map fun b => (b % count, b, some r.job)

def RunRecord.allFinished (count : ℕ) (r : RunRecord κ ε) : List (ℕ × ℕ) :=
  (List.range r.total).map fun b => (b % count, b)

/-- The calls are calls of threads of the executor. -/
structure OwnCalls (count : ℕ) (r : RunRecord κ ε) : Prop where
  calls : ∀ c ∈ r.calls, c.1 < count
  finished : ∀ c ∈ r.finished, c.1 < count

theorem nodup_of_filter {α : Type} {l : List α} (worker : α → ℕ)
    (h : ∀ a ∈ l, (l.filter fun b => worker b = worker a).Nodup) : l.Nodup := by
  rw [List.nodup_iff_sublist]
  intro a htwice
  have hfilter := htwice.filter fun b => worker b = worker a
  have hmem : a ∈ l := htwice.subset (List.mem_cons_self)
  simp only [decide_true, List.filter_cons_of_pos, List.filter_nil] at hfilter
  exact List.nodup_iff_sublist.mp (h a hmem) a hfilter

section All

variable {α : Type} {count total : ℕ} {l : List α} {worker : α → ℕ} (call : ℕ → ℕ → α)

theorem subperm_of_ownBlocks (howned : ∀ a ∈ l, worker a < count)
    (hcall : ∀ w, Function.Injective (call w))
    (hfilter : ∀ w < count, ∃ bound, (l.filter fun a => worker a = w) =
      (ownBlocks count total w bound).map (call w)) :
    l.Subperm ((List.range total).map fun b => call (b % count) b) := by
  apply List.subperm_of_subset
  · apply nodup_of_filter worker
    intro a ha
    obtain ⟨bound, hbound⟩ := hfilter (worker a) (howned a ha)
    rw [hbound]
    exact nodup_ownBlocks.map (hcall _)
  · intro a ha
    have hmem : a ∈ l.filter fun b => worker b = worker a := by simpa using ha
    obtain ⟨bound, hbound⟩ := hfilter (worker a) (howned a ha)
    rw [hbound] at hmem
    obtain ⟨b, hb, heq⟩ := List.mem_map.mp hmem
    obtain ⟨-, htotal, hown⟩ := mem_ownBlocks.mp hb
    rw [List.mem_map]
    exact ⟨b, List.mem_range.mpr htotal, by rw [hown, heq]⟩

/-- Threads that have taken all their blocks have taken every block. -/
theorem perm_of_ownBlocks (hcount : 0 < count) (howned : ∀ a ∈ l, worker a < count)
    (hcall : ∀ w, Function.Injective (call w)) (hworker : ∀ w b, worker (call w b) = w)
    (hfilter : ∀ w < count, (l.filter fun a => worker a = w) =
      (ownBlocks count total w total).map (call w)) :
    l.Perm ((List.range total).map fun b => call (b % count) b) := by
  have hsubperm := subperm_of_ownBlocks call howned hcall fun w hw => ⟨total, hfilter w hw⟩
  apply hsubperm.antisymm
  apply List.subperm_of_subset
  · apply List.nodup_range.map
    intro b b' heq
    have hsame := congrArg worker heq
    simp only [hworker] at hsame
    simp only [hsame] at heq
    exact hcall _ heq
  · intro a ha
    obtain ⟨b, hb, rfl⟩ := List.mem_map.mp ha
    have hmem : call (b % count) b ∈ (ownBlocks count total (b % count) total).map
        (call (b % count)) :=
      List.mem_map_of_mem (mem_ownBlocks.mpr ⟨List.mem_range.mp hb, List.mem_range.mp hb, rfl⟩)
    rw [← hfilter _ (Nat.mod_lt b hcount)] at hmem
    exact List.mem_of_mem_filter hmem

end All

def Execution.Fits (count total worker : ℕ) (job : κ) : Execution κ → Prop
  | .testing block => block % count = worker
  | .calling block => block % count = worker ∧ block < total
  | .running block called => block % count = worker ∧ block < total ∧ called = some job

def Execution.started : Execution κ → ℕ
  | .testing block => block
  | .calling block => block
  | .running block _ => block + 1

def Execution.ended : Execution κ → ℕ
  | .testing block => block
  | .calling block => block
  | .running block _ => block

/-- A thread in `execute`, or after it. -/
def Turn (count : ℕ) (r : RunRecord κ ε) (worker : ℕ) : Option (Execution κ) → Prop
  | some execution => execution.Fits count r.total worker r.job ∧
    Progress count r worker execution.started execution.ended
  | none => Progress count r worker r.total r.total

/-- The members while a run is in progress. -/
structure Published (members : ExecutorMembers κ ε) (r : RunRecord κ ε) : Prop where
  job : members.job = some r.job
  blocks : members.blocks = r.total
  errors : members.errors = (List.range r.total).map r.thrown
  stopping : members.stopping = false

def RunRecord.after (r : RunRecord κ ε) (event : Option (ExecutorEvent κ ε)) : RunRecord κ ε :=
  event.elim r r.observe

@[simp] theorem RunRecord.after_none (r : RunRecord κ ε) : r.after none = r := rfl

@[simp] theorem RunRecord.after_some (r : RunRecord κ ε) (event : ExecutorEvent κ ε) :
    r.after (some event) = r.observe event := rfl

@[simp] theorem RunRecord.total_after (r : RunRecord κ ε) (event : Option (ExecutorEvent κ ε)) :
    (r.after event).total = r.total := by
  cases event <;> simp

@[simp] theorem RunRecord.job_after (r : RunRecord κ ε) (event : Option (ExecutorEvent κ ε)) :
    (r.after event).job = r.job := by
  cases event <;> simp

theorem set_map_range {total block : ℕ} (f : ℕ → Option ε) (x : Option ε) :
    ((List.range total).map f).set block x =
      (List.range total).map (Function.update f block x) := by
  apply List.ext_getElem
  · simp
  · intro i hi hi'
    simp only [List.getElem_set, List.getElem_map, List.getElem_range, Function.update_apply,
      eq_comm]

/-- A block that has not thrown before writes its exception to its place, or nothing. -/
theorem Published.record {members : ExecutorMembers κ ε} {r : RunRecord κ ε} {worker block : ℕ}
    (h : Published members r) (hquiet : r.thrown block = none) (thrown : Option ε) :
    Published (members.record block thrown) (r.observe (.finished worker block thrown)) := by
  cases thrown with
  | none =>
    have hsame : Function.update r.thrown block none = r.thrown := by
      rw [← hquiet, Function.update_eq_self]
    constructor
    · simpa [ExecutorMembers.record] using h.job
    · simpa [ExecutorMembers.record] using h.blocks
    · simpa [ExecutorMembers.record, hsame] using h.errors
    · exact h.stopping
  | some e =>
    have herrors : members.errors.set block (some e) =
        (List.range r.total).map (Function.update r.thrown block (some e)) := by
      rw [h.errors, set_map_range]
    constructor
    · simpa [ExecutorMembers.record] using h.job
    · simpa [ExecutorMembers.record] using h.blocks
    · simpa [ExecutorMembers.record] using herrors
    · exact h.stopping

/-- What a step of `execute` does to the run: it goes on with the turn of its thread, and leaves the
turns of the others as they were. -/
structure Executed (count worker : ℕ) (members members' : ExecutorMembers κ ε)
    (r r' : RunRecord κ ε) (next : Option (Execution κ)) : Prop where
  turn : Turn count r' worker next
  published : Published members' r'
  generation : members'.generation = members.generation
  pending : members'.pending = members.pending
  others : ∀ other ≠ worker, ∀ started ended, Progress count r other started ended →
    Progress count r' other started ended
  owned : OwnCalls count r → OwnCalls count r'

theorem ExecuteStep.executed {count worker : ℕ} {members members' : ExecutorMembers κ ε}
    {r : RunRecord κ ε} {execution : Execution κ} {event : Option (ExecutorEvent κ ε)}
    {next : Option (Execution κ)}
    (h : ExecuteStep count worker members execution event members' next)
    (hworker : worker < count) (hpublished : Published members r)
    (hturn : Turn count r worker (some execution)) :
    Executed count worker members members' r (r.after event) next := by
  obtain ⟨hfits, hprogress⟩ := hturn
  cases h with
  | @enter block hblock =>
    rw [hpublished.blocks] at hblock
    exact ⟨⟨⟨hfits, hblock⟩, hprogress⟩, hpublished, rfl, rfl, fun _ _ _ _ => id, id⟩
  | @leave block hblock =>
    rw [hpublished.blocks] at hblock
    exact ⟨hprogress.leave hblock, hpublished, rfl, rfl, fun _ _ _ _ => id, id⟩
  | @call block =>
    obtain ⟨hown, hblock⟩ := hfits
    rw [hpublished.job]
    constructor
    · refine ⟨⟨hown, ?_, ?_⟩, hprogress.call hblock hown⟩
      · simpa using hblock
      · simp
    · exact ⟨by simpa using hpublished.job, by simpa using hpublished.blocks,
        by simpa using hpublished.errors, hpublished.stopping⟩
    · rfl
    · rfl
    · intro other hother started ended hother'
      exact hother'.observe_called hother.symm _
    · intro howned
      constructor
      · intro c hc
        rcases List.mem_append.mp hc with hc | hc
        · exact howned.calls c hc
        · rwa [List.mem_singleton.mp hc]
      · exact howned.finished
  | @finish block job thrown =>
    obtain ⟨hown, hblock, -⟩ := hfits
    have hquiet := hprogress.quiet block hblock hown le_rfl
    constructor
    · refine ⟨?_, hprogress.finish hworker hblock hown thrown⟩
      simpa [Execution.Fits] using hown
    · exact hpublished.record hquiet thrown
    · cases thrown <;> rfl
    · cases thrown <;> rfl
    · intro other hother started ended hother'
      exact hother'.observe_finished hother.symm hown thrown
    · intro howned
      constructor
      · exact howned.calls
      · intro c hc
        rcases List.mem_append.mp hc with hc | hc
        · exact howned.finished c hc
        · rwa [List.mem_singleton.mp hc]

end PointcloudAd.Registration
