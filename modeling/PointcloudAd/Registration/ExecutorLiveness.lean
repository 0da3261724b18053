import Mathlib.Algebra.Module.NatInt
import PointcloudAd.Library.FairSchedules
import PointcloudAd.Registration.ExecutorRenewal

/-!
# Liveness of the executor

A run that was begun ends, and so does the destructor, whatever the order of the steps: no thread
may be passed over forever, but threads that wait may wake up as often as they like. The work that
is left is that of the blocks that the threads still have to execute, and going back to sleep is no
progress.
-/

namespace PointcloudAd.Registration

open Library

variable {κ ε : Type}

/-- The owner of an executor, and its workers. -/
inductive ExecutorThread (threads : ℕ) where
  | caller
  | worker (i : Fin threads)

namespace ExecutorSystem

variable {threads : ℕ}

inductive ThreadStep (s : ExecutorSystem κ ε threads) :
    ExecutorThread threads → ExecutorSystem κ ε threads → Prop
  | caller {event : Option (ExecutorEvent κ ε)} {next : ExecutorSystem κ ε threads}
      (h : CallerStep s event next) : ThreadStep s .caller next
  | worker {event : Option (ExecutorEvent κ ε)} {next : ExecutorSystem κ ε threads}
    {i : Fin threads}
      (h : WorkerStep s i event next) : ThreadStep s (.worker i) next

/-- A thread that does not wait and can take a step. The owner need not begin a run, nor destroy the
executor. -/
def Ready (s : ExecutorSystem κ ε threads) : ExecutorThread threads → Prop
  | .caller => s.caller ≠ .idle ∧ s.caller ≠ .asleep ∧ ∃ event next, CallerStep s event next
  | .worker i => (∀ observed, s.workers i ≠ .asleep observed) ∧
      ∃ event next, WorkerStep s i event next

end ExecutorSystem

/-- The destructor has begun. -/
def CallerPosition.inStop : CallerPosition κ → Bool
  | .notifyingStop | .joining | .destroyed => true
  | _ => false

/-- Between two runs, or after the destructor. -/
def CallerPosition.atEnd (position : CallerPosition κ) : Prop :=
  position = .idle ∨ position = .destroyed

/-- The steps of `execute` from here on, at most. -/
def Execution.work (blocks : ℕ) : Execution κ → ℕ
  | .testing block => 3 * (blocks - block) + 1
  | .calling block => 3 * (blocks - (block + 1)) + 3
  | .running block _ => 3 * (blocks - (block + 1)) + 2

/-- A worker that has finished the generation has nothing to do, asleep or not. -/
def WorkerPosition.work (members : ExecutorMembers κ ε) (worker : ℕ) : WorkerPosition κ → ℕ
  | .ready observed | .asleep observed =>
    if members.stopping then 1
    else if members.generation ≠ observed then
      (.testing worker : Execution κ).work members.blocks + 2
    else 0
  | .executing _ execution => execution.work members.blocks + 1
  | .finishing _ => 1
  | .exited => 0

/-- What is left of a run of so many blocks that is about to be published: the steps of the caller,
and those of every worker if it had to execute all blocks. -/
def publishingWork (threads total : ℕ) : ℕ := 3 * total + 5 + threads * (3 * total + 3)

def CallerPosition.work (members : ExecutorMembers κ ε) (threads : ℕ) : CallerPosition κ → ℕ
  | .idle | .destroyed => 0
  | .starting _ points => publishingWork threads (CpuExecutor.blocks points) + 1
  | .publishing _ total => publishingWork threads total
  | .notifying => (.testing 0 : Execution κ).work members.blocks + 3
  | .executing execution => execution.work members.blocks + 2
  | .waiting | .asleep => 2
  | .rethrowing => 1
  | .notifyingStop => 2
  | .joining => 1

def ExecutorSystem.work {threads : ℕ} (s : ExecutorSystem κ ε threads) : ℕ :=
  s.caller.work s.members threads + ∑ i : Fin threads, (s.workers i).work s.members (i + 1)

/-- A thread whose next step lessens the work: it does not wait, and it does not go to sleep. -/
def ExecutorSystem.Helps {threads : ℕ} (s : ExecutorSystem κ ε threads) :
    ExecutorThread threads → Prop
  | .caller => match s.caller with
    | .idle | .asleep | .destroyed => False
    | .waiting => s.members.pending = 0
    | .joining => ∀ i, s.workers i = .exited
    | _ => True
  | .worker i => match s.workers i with
    | .ready observed => s.members.stopping = true ∨ s.members.generation ≠ observed
    | .executing _ _ | .finishing _ => True
    | .asleep _ | .exited => False

@[simp] theorem WorkerPosition.work_notified (members : ExecutorMembers κ ε) (worker : ℕ)
    (position : WorkerPosition κ) : position.notified.work members worker =
      position.work members worker := by
  cases position <;> rfl

@[simp] theorem CallerPosition.work_notified (members : ExecutorMembers κ ε) (threads : ℕ)
    (position : CallerPosition κ) : position.notified.work members threads =
      position.work members threads := by
  cases position <;> rfl

/-- The work depends on three members only. -/
structure SameTask (members members' : ExecutorMembers κ ε) : Prop where
  stopping : members'.stopping = members.stopping
  generation : members'.generation = members.generation
  blocks : members'.blocks = members.blocks

section Work

variable {members members' : ExecutorMembers κ ε}

theorem SameTask.worker (h : SameTask members members') (worker : ℕ) (position : WorkerPosition κ) :
    position.work members' worker = position.work members worker := by
  cases position <;> simp [WorkerPosition.work, h.stopping, h.generation, h.blocks]

theorem SameTask.caller (h : SameTask members members') (threads : ℕ)
    (position : CallerPosition κ) :
    position.work members' threads = position.work members threads := by
  cases position <;> simp [CallerPosition.work, h.blocks]

/-- Every step of `execute` is one of its steps that were left. -/
theorem ExecuteStep.work_lt {count worker : ℕ} {execution : Execution κ}
    {event : Option (ExecutorEvent κ ε)} {next : Option (Execution κ)} (hcount : 0 < count)
    (h : ExecuteStep count worker members execution event members' next) :
    SameTask members members' ∧
      next.elim 0 (Execution.work members.blocks) < execution.work members.blocks := by
  cases h with
  | enter hblock =>
    refine ⟨⟨rfl, rfl, rfl⟩, ?_⟩
    simp only [Option.elim, Execution.work]
    omega
  | leave hblock =>
    refine ⟨⟨rfl, rfl, rfl⟩, ?_⟩
    simp [Execution.work]
  | call =>
    refine ⟨⟨rfl, rfl, rfl⟩, ?_⟩
    simp [Execution.work]
  | finish thrown =>
    constructor
    · cases thrown <;> exact ⟨rfl, rfl, rfl⟩
    · simp only [Option.elim, Execution.work]
      omega

end Work

section Steps

open ExecutorSystem

variable {threads : ℕ} {s next : ExecutorSystem κ ε threads}

theorem work_update (members : ExecutorMembers κ ε) (workers : Fin threads → WorkerPosition κ)
    (i : Fin threads) (position : WorkerPosition κ) :
    ∑ j : Fin threads, (Function.update workers i position j).work members (j + 1) +
        (workers i).work members (i + 1) =
      ∑ j : Fin threads, (workers j).work members (j + 1) + position.work members (i + 1) := by
  have hothers : ∑ j ∈ Finset.univ.erase i,
        (Function.update workers i position j).work members (j + 1) =
      ∑ j ∈ Finset.univ.erase i, (workers j).work members (j + 1) := by
    apply Finset.sum_congr rfl
    intro j hj
    rw [Function.update_of_ne (Finset.ne_of_mem_erase hj)]
  rw [← Finset.add_sum_erase _ _ (Finset.mem_univ i), hothers, Function.update_self,
    ← Finset.add_sum_erase _ (fun j => (workers j).work members (j + 1)) (Finset.mem_univ i)]
  omega

variable (next) in
theorem work_move (htask : SameTask s.members next.members)
    (hcaller : next.caller.work s.members threads = s.caller.work s.members threads)
    {i : Fin threads} {position : WorkerPosition κ}
    (hworkers : next.workers = Function.update s.workers i position) :
    next.work + (s.workers i).work s.members (i + 1) =
      s.work + position.work s.members (i + 1) := by
  have hupdate := work_update s.members s.workers i position
  simp only [ExecutorSystem.work, htask.worker, htask.caller, hcaller, hworkers]
  omega

theorem await_work (members : ExecutorMembers κ ε) (worker : ℕ) (observed : UInt64) :
    (members.await worker observed).work members worker ≤
      (.ready observed : WorkerPosition κ).work members worker ∧
    (members.stopping = true ∨ members.generation ≠ observed →
      (members.await worker observed).work members worker <
        (.ready observed : WorkerPosition κ).work members worker) := by
  by_cases hstopping : members.stopping = true
  · simp [ExecutorMembers.await, WorkerPosition.work, hstopping]
  · by_cases hgeneration : members.generation = observed
    · simp [ExecutorMembers.await, WorkerPosition.work, hstopping, hgeneration]
    · simp [ExecutorMembers.await, WorkerPosition.work, hstopping, hgeneration]

/-- A worker that executes or finishes has seen the generation of a run that was not stopped. -/
theorem Phase.observed {current : Option (RunRecord κ ε)} (h : Phase s current) {i : Fin threads}
    {observed : UInt64} (hposition : s.workers i = .finishing observed) :
    observed = s.members.generation ∧ s.members.stopping = false := by
  have hcaller := h.inRun (i := i) (by rw [hposition]; exact id) fun hexited => by
    rw [hposition] at hexited
    cases hexited
  cases h with
  | running h =>
    have hturn := h.workers i
    rw [hposition] at hturn
    exact ⟨hturn.1, h.published.stopping⟩
  | idle hposition' => simp [hposition', CallerPosition.inRun] at hcaller
  | starting hposition' => simp [hposition', CallerPosition.inRun] at hcaller
  | publishing hposition' => simp [hposition', CallerPosition.inRun] at hcaller
  | rethrowing hposition' => simp [hposition', CallerPosition.inRun] at hcaller
  | stopping hposition' =>
    rcases hposition' with hposition' | hposition' | hposition' <;>
      simp [hposition', CallerPosition.inRun] at hcaller

/-- A step of a worker never adds to the work, and lessens it where the worker helps. -/
theorem ExecutorSystem.WorkerStep.work {current : Option (RunRecord κ ε)} (h : Phase s current)
    {i : Fin threads}
    {event : Option (ExecutorEvent κ ε)} (hstep : WorkerStep s i event next) :
    next.work ≤ s.work ∧ (s.Helps (.worker i) → next.work < s.work) := by
  cases hstep with
  | @await observed hposition =>
    have hmove := work_move (s := s)
      { s with workers := Function.update s.workers i (s.members.await (i + 1) observed) }
      ⟨rfl, rfl, rfl⟩ rfl rfl
    have hawait := await_work s.members (i + 1) observed
    rw [hposition] at hmove
    constructor
    · omega
    · intro hhelps
      simp only [Helps, hposition] at hhelps
      have hlt := hawait.2 hhelps
      omega
  | @wake observed hposition =>
    have hmove := work_move (s := s)
      { s with workers := Function.update s.workers i (.ready observed) }
      ⟨rfl, rfl, rfl⟩ rfl rfl
    rw [hposition] at hmove
    have hsame : (.ready observed : WorkerPosition κ).work s.members (i + 1) =
        (.asleep observed : WorkerPosition κ).work s.members (i + 1) := rfl
    constructor
    · omega
    · simp [Helps, hposition]
  | @execute observed execution event members after hposition hexecute =>
    obtain ⟨htask, hlt⟩ := hexecute.work_lt (Nat.succ_pos _)
    have hmove := work_move (s := s) { s with
      members
      workers := Function.update s.workers i
        (after.elim (.finishing observed) (.executing observed)) } htask rfl rfl
    have hafter : (after.elim (.finishing observed) (.executing observed) :
        WorkerPosition κ).work s.members (i + 1) =
          after.elim 0 (Execution.work s.members.blocks) + 1 := by
      cases after <;> rfl
    rw [hposition, hafter] at hmove
    simp only [WorkerPosition.work] at hmove
    constructor
    · omega
    · intro
      omega
  | @finish observed hposition =>
    obtain ⟨rfl, hstopping⟩ := h.observed hposition
    have hmove := work_move (s := s) (s.finishWorker i s.members.generation)
      ⟨rfl, rfl, rfl⟩ (by simp only [finishWorker]; split_ifs <;> simp) rfl
    have hasleep : ({ s.members with pending := s.members.pending - 1 } :
        ExecutorMembers κ ε).await (i + 1) s.members.generation =
          .asleep s.members.generation := by
      simp [ExecutorMembers.await, hstopping]
    rw [hposition, hasleep] at hmove
    simp only [WorkerPosition.work, hstopping, Bool.false_eq_true, ne_eq, not_true_eq_false,
      if_false] at hmove
    constructor
    · omega
    · intro
      omega

/-- A run that is published leaves every worker the blocks of its share. -/
theorem Rested.publish_work (h : Rested s) (job : κ) (total : ℕ)
    (hcaller : s.caller = .publishing job total) :
    ({ s with
      members := { s.members with
        job := some job
        blocks := total
        pending := threads
        generation := s.members.generation + 1 }
      caller := .notifying } : ExecutorSystem κ ε threads).work < s.work := by
  have hbefore : ∀ i : Fin threads, (s.workers i).work s.members (i + 1) = 0 := by
    intro i
    rcases (h.workers i).position with hposition | hposition <;>
      simp [hposition, WorkerPosition.work, h.stopping]
  have hafter : ∀ i : Fin threads, (s.workers i).work { s.members with
      job := some job
      blocks := total
      pending := threads
      generation := s.members.generation + 1 } (i + 1) ≤ 3 * total + 3 := by
    intro i
    rcases (h.workers i).position with hposition | hposition <;>
      simp only [hposition, WorkerPosition.work, h.stopping, Bool.false_eq_true, if_false,
        Execution.work] <;> split_ifs <;> omega
  have hsum := Finset.sum_le_sum fun (i : Fin threads) (_ : i ∈ Finset.univ) => hafter i
  simp only [Finset.sum_const, Finset.card_univ, Fintype.card_fin, smul_eq_mul] at hsum
  simp only [ExecutorSystem.work, hcaller, CallerPosition.work, Execution.work, hbefore,
    Finset.sum_const_zero, publishingWork]
  omega

theorem work_caller (htask : SameTask s.members next.members)
    (hworkers : ∀ i : Fin threads, (next.workers i).work s.members (i + 1) =
      (s.workers i).work s.members (i + 1))
    (hlt : next.caller.work s.members threads < s.caller.work s.members threads) :
    next.work < s.work := by
  simp only [ExecutorSystem.work, htask.worker, htask.caller, hworkers]
  omega

/-- A step of the caller in a run or in the destructor lessens the work, unless the caller goes to
sleep or wakes up. -/
theorem ExecutorSystem.CallerStep.work_lt {current : Option (RunRecord κ ε)} (h : Phase s current)
    (hcaller : ¬ s.caller.atEnd) (hhelps : s.Helps .caller) {event : Option (ExecutorEvent κ ε)}
    (hstep : CallerStep s event next) : next.work < s.work := by
  have hidle : s.caller ≠ .idle := fun h => hcaller (.inl h)
  cases hstep with
  | begin job points hposition => exact absurd hposition hidle
  | stop hposition => exact absurd hposition hidle
  | returnEmpty hposition htotal =>
    apply work_caller
    · exact ⟨rfl, rfl, rfl⟩
    · exact fun _ => rfl
    · simp [hposition, CallerPosition.work]
  | refuse errors hposition htotal =>
    apply work_caller
    · exact ⟨rfl, rfl, rfl⟩
    · exact fun _ => rfl
    · simp [hposition, CallerPosition.work]
  | assign hposition htotal =>
    apply work_caller
    · exact ⟨rfl, rfl, rfl⟩
    · exact fun _ => rfl
    · simp [hposition, CallerPosition.work]
  | @publish job total hposition =>
    have hphase := h.at_caller
    rw [hposition] at hphase
    obtain ⟨-, -, -, hrested, -⟩ := hphase
    exact hrested.publish_work job total hposition
  | notify hposition =>
    apply work_caller
    · exact ⟨rfl, rfl, rfl⟩
    · simp [notifyAll]
    · simp [hposition, CallerPosition.work]
  | @execute execution event members after hposition hexecute =>
    obtain ⟨htask, hlt⟩ := hexecute.work_lt (Nat.succ_pos _)
    apply work_caller htask
    · exact fun _ => rfl
    · cases after with
      | none => simpa [hposition, CallerPosition.work] using hlt
      | some execution => simpa [hposition, CallerPosition.work] using hlt
  | sleep hposition hpending =>
    simp only [Helps, hposition] at hhelps
    exact absurd hhelps hpending
  | leave hposition hpending =>
    apply work_caller
    · exact ⟨rfl, rfl, rfl⟩
    · exact fun _ => rfl
    · simp [hposition, CallerPosition.work]
  | wake hposition => simp [Helps, hposition] at hhelps
  | rethrow hposition =>
    apply work_caller
    · exact ⟨rfl, rfl, rfl⟩
    · exact fun _ => rfl
    · simp [hposition, CallerPosition.work]
  | notifyStop hposition =>
    apply work_caller
    · exact ⟨rfl, rfl, rfl⟩
    · simp [notifyAll]
    · simp [hposition, CallerPosition.work]
  | join hposition hexited =>
    apply work_caller
    · exact ⟨rfl, rfl, rfl⟩
    · exact fun _ => rfl
    · simp [hposition, CallerPosition.work]

theorem ExecutorSystem.CallerStep.work_le {current : Option (RunRecord κ ε)} (h : Phase s current)
    (hcaller : ¬ s.caller.atEnd) {event : Option (ExecutorEvent κ ε)}
    (hstep : CallerStep s event next) : next.work ≤ s.work := by
  by_cases hhelps : s.Helps .caller
  · exact (CallerStep.work_lt h hcaller hhelps hstep).le
  · cases hstep with
    | sleep hposition hpending => simp [ExecutorSystem.work, hposition, CallerPosition.work]
    | wake hposition => simp [ExecutorSystem.work, hposition, CallerPosition.work]
    | begin job points hposition => exact absurd (.inl hposition) hcaller
    | stop hposition => exact absurd (.inl hposition) hcaller
    | leave hposition hpending => simp [Helps, hposition, hpending] at hhelps
    | join hposition hexited => simp [Helps, hposition, hexited] at hhelps
    | returnEmpty hposition htotal => simp [Helps, hposition] at hhelps
    | refuse errors hposition htotal => simp [Helps, hposition] at hhelps
    | assign hposition htotal => simp [Helps, hposition] at hhelps
    | publish hposition => simp [Helps, hposition] at hhelps
    | notify hposition => simp [Helps, hposition] at hhelps
    | execute hposition hexecute => simp [Helps, hposition] at hhelps
    | rethrow hposition => simp [Helps, hposition] at hhelps
    | notifyStop hposition => simp [Helps, hposition] at hhelps

/-- A thread that helps does not wait, and can take a step. -/
theorem ExecutorSystem.Helps.ready {thread : ExecutorThread threads} (hcaller : ¬ s.caller.atEnd)
    (h : s.Helps thread) : s.Ready thread := by
  have hexecute : ∀ (worker : ℕ) (execution : Execution κ), ∃ event members after,
      ExecuteStep (ε := ε) (threads + 1) worker s.members execution event members after := by
    intro worker execution
    cases execution with
    | testing block =>
      by_cases hblock : block < s.members.blocks
      · exact ⟨_, _, _, .enter hblock⟩
      · exact ⟨_, _, _, .leave (Nat.le_of_not_lt hblock)⟩
    | calling block => exact ⟨_, _, _, .call⟩
    | running block job => exact ⟨_, _, _, .finish none⟩
  cases thread with
  | caller =>
    refine ⟨fun hidle => hcaller (.inl hidle), fun hasleep => by simp [Helps, hasleep] at h, ?_⟩
    cases hposition : s.caller with
    | idle => exact absurd (.inl hposition) hcaller
    | destroyed => exact absurd (.inr hposition) hcaller
    | asleep => simp [Helps, hposition] at h
    | starting job points =>
      by_cases htotal : CpuExecutor.blocks points = 0
      · exact ⟨_, _, .returnEmpty hposition htotal⟩
      · exact ⟨_, _, .assign hposition htotal⟩
    | publishing job total => exact ⟨_, _, .publish hposition⟩
    | notifying => exact ⟨_, _, .notify hposition⟩
    | executing execution =>
      obtain ⟨_, _, _, hstep⟩ := hexecute 0 execution
      exact ⟨_, _, .execute hposition hstep⟩
    | waiting => exact ⟨_, _, .leave hposition (by simpa [Helps, hposition] using h)⟩
    | rethrowing => exact ⟨_, _, .rethrow hposition⟩
    | notifyingStop => exact ⟨_, _, .notifyStop hposition⟩
    | joining => exact ⟨_, _, .join hposition (by simpa [Helps, hposition] using h)⟩
  | worker i =>
    refine ⟨fun observed hasleep => by simp [Helps, hasleep] at h, ?_⟩
    cases hposition : s.workers i with
    | ready observed => exact ⟨_, _, .await hposition⟩
    | asleep observed => simp [Helps, hposition] at h
    | executing observed execution =>
      obtain ⟨_, _, _, hstep⟩ := hexecute (i + 1) execution
      exact ⟨_, _, .execute hposition hstep⟩
    | finishing observed => exact ⟨_, _, .finish hposition⟩
    | exited => simp [Helps, hposition] at h

theorem InRun.exists_helps {r : RunRecord κ ε} (h : InRun s r) (hpending : s.members.pending ≠ 0)
    (hcaller : s.caller ≠ .notifying) : ∃ i, s.Helps (.worker i) := by
  rw [h.pending] at hpending
  obtain ⟨i, -, hi⟩ := Finset.exists_ne_zero_of_sum_ne_zero hpending
  refine ⟨i, ?_⟩
  cases hposition : s.workers i with
  | ready observed =>
    have hne : observed ≠ s.members.generation := by
      rintro rfl
      simp [hposition, WorkerPosition.unfinished] at hi
    simp [Helps, hposition, hne.symm]
  | asleep observed =>
    have hne : observed ≠ s.members.generation := by
      rintro rfl
      simp [hposition, WorkerPosition.unfinished] at hi
    exact absurd (h.unnotified i observed hposition hne) hcaller
  | executing observed execution => simp [Helps, hposition]
  | finishing observed => simp [Helps, hposition]
  | exited => simp [hposition, WorkerPosition.unfinished] at hi

/-- Some thread helps as long as a run, or the destructor, has not come to its end. -/
theorem Phase.exists_helps {current : Option (RunRecord κ ε)} (h : Phase s current)
    (hcaller : ¬ s.caller.atEnd) : ∃ thread, s.Helps thread := by
  have hphase := h.at_caller
  cases hposition : s.caller with
  | idle => exact absurd (.inl hposition) hcaller
  | destroyed => exact absurd (.inr hposition) hcaller
  | waiting =>
    by_cases hpending : s.members.pending = 0
    · exact ⟨.caller, by simpa [Helps, hposition] using hpending⟩
    · rw [hposition] at hphase
      obtain ⟨r, -, hrun⟩ := hphase
      obtain ⟨i, hi⟩ := hrun.exists_helps hpending (by simp [hposition])
      exact ⟨.worker i, hi⟩
  | asleep =>
    rw [hposition] at hphase
    obtain ⟨r, -, hrun⟩ := hphase
    obtain ⟨i, hi⟩ := hrun.exists_helps (hrun.callerAsleep hposition) (by simp [hposition])
    exact ⟨.worker i, hi⟩
  | joining =>
    rw [hposition] at hphase
    obtain ⟨-, hstopped⟩ := hphase
    by_cases hexited : ∀ i, s.workers i = .exited
    · exact ⟨.caller, by simpa [Helps, hposition] using hexited⟩
    · obtain ⟨i, hi⟩ := not_forall.mp hexited
      have hrests := (hstopped.workers i).resolve_right hi
      rcases hrests.position with hready | hasleep
      · exact ⟨.worker i, by simp [Helps, hready, hstopped.stopping]⟩
      · exact absurd hasleep (hstopped.notified (by simp [hposition]) i _)
  | starting job points => exact ⟨.caller, by simp [Helps, hposition]⟩
  | publishing job total => exact ⟨.caller, by simp [Helps, hposition]⟩
  | notifying => exact ⟨.caller, by simp [Helps, hposition]⟩
  | executing execution => exact ⟨.caller, by simp [Helps, hposition]⟩
  | rethrowing => exact ⟨.caller, by simp [Helps, hposition]⟩
  | notifyingStop => exact ⟨.caller, by simp [Helps, hposition]⟩

theorem helps_worker_of {i : Fin threads} (htask : s.members.stopping = next.members.stopping)
    (hgeneration : s.members.generation = next.members.generation)
    (hposition : s.workers i = next.workers i) (h : s.Helps (.worker i)) :
    next.Helps (.worker i) := by
  simpa only [Helps, htask, hgeneration, hposition] using h

/-- What a step of a worker leaves as it was. -/
theorem ExecutorSystem.WorkerStep.frame {i : Fin threads} {event : Option (ExecutorEvent κ ε)}
    (hstep : WorkerStep s i event next) :
    SameTask s.members next.members ∧ next.members.pending ≤ s.members.pending ∧
      (∀ j ≠ i, next.workers j = s.workers j) ∧
      (s.caller ≠ .asleep → next.caller = s.caller) ∧ s.workers i ≠ .exited := by
  cases hstep with
  | await hposition =>
    refine ⟨⟨rfl, rfl, rfl⟩, le_rfl, fun j hj => by simp [hj], fun _ => rfl, ?_⟩
    simp [hposition]
  | wake hposition =>
    refine ⟨⟨rfl, rfl, rfl⟩, le_rfl, fun j hj => by simp [hj], fun _ => rfl, ?_⟩
    simp [hposition]
  | @execute observed execution event members after hposition hexecute =>
    have hpending : members.pending = s.members.pending := by
      cases hexecute with
      | finish thrown => cases thrown <;> rfl
      | _ => rfl
    refine ⟨(hexecute.work_lt (Nat.succ_pos _)).1, hpending.le, fun j hj => by simp [hj],
      fun _ => rfl, ?_⟩
    simp [hposition]
  | finish hposition =>
    refine ⟨⟨rfl, rfl, rfl⟩, Nat.sub_le _ _, fun j hj => by simp [finishWorker, hj], ?_, ?_⟩
    · intro hasleep
      have hnotified : s.caller.notified = s.caller := by
        cases hcaller : s.caller with
        | asleep => exact absurd hcaller hasleep
        | _ => rfl
      simp [finishWorker, hnotified]
    · simp [hposition]

/-- The steps of the caller leave a worker that helps as it is. -/
theorem ExecutorSystem.CallerStep.keeps_helps {current : Option (RunRecord κ ε)}
    (h : Phase s current)
    (hcaller : ¬ s.caller.atEnd) {i : Fin threads} (hhelps : s.Helps (.worker i))
    {event : Option (ExecutorEvent κ ε)} (hstep : CallerStep s event next) :
    next.Helps (.worker i) := by
  have hnotified : (s.workers i).notified = s.workers i := by
    cases hposition : s.workers i with
    | asleep observed => simp [Helps, hposition] at hhelps
    | _ => rfl
  cases hstep with
  | begin job points hposition => exact absurd (.inl hposition) hcaller
  | stop hposition => exact absurd (.inl hposition) hcaller
  | publish hposition =>
    have hphase := h.at_caller
    rw [hposition] at hphase
    obtain ⟨-, -, -, hrested, -⟩ := hphase
    rcases (hrested.workers i).position with hready | hasleep
    · simp [Helps, hready, hrested.stopping] at hhelps
    · simp [Helps, hasleep] at hhelps
  | notify hposition => exact helps_worker_of (s := s) rfl rfl hnotified.symm hhelps
  | notifyStop hposition => exact helps_worker_of (s := s) rfl rfl hnotified.symm hhelps
  | execute hposition hexecute =>
    have htask := (hexecute.work_lt (Nat.succ_pos _)).1
    exact helps_worker_of htask.stopping.symm htask.generation.symm rfl hhelps
  | returnEmpty hposition htotal => exact helps_worker_of rfl rfl rfl hhelps
  | refuse errors hposition htotal => exact helps_worker_of rfl rfl rfl hhelps
  | assign hposition htotal => exact helps_worker_of rfl rfl rfl hhelps
  | sleep hposition hpending => exact helps_worker_of rfl rfl rfl hhelps
  | leave hposition hpending => exact helps_worker_of rfl rfl rfl hhelps
  | wake hposition => exact helps_worker_of rfl rfl rfl hhelps
  | rethrow hposition => exact helps_worker_of rfl rfl rfl hhelps
  | join hposition hexited => exact helps_worker_of rfl rfl rfl hhelps

theorem ExecutorSystem.WorkerStep.keeps_helps {i : Fin threads} (hhelps : s.Helps .caller)
    {event : Option (ExecutorEvent κ ε)} (hstep : WorkerStep s i event next) :
    next.Helps .caller := by
  obtain ⟨-, hpending, hothers, hcaller, hexited⟩ := WorkerStep.frame hstep
  have hasleep : s.caller ≠ .asleep := by
    intro hasleep
    simp [Helps, hasleep] at hhelps
  simp only [Helps, hcaller hasleep] at hhelps ⊢
  cases hposition : s.caller <;> simp only [hposition] at hhelps ⊢
  case waiting => exact Nat.le_zero.mp (hhelps ▸ hpending)
  case joining => exact absurd (hhelps i) hexited

/-- A thread that helps goes on to do so until it takes its step. -/
theorem ExecutorSystem.ThreadStep.persists {current : Option (RunRecord κ ε)} (h : Phase s current)
    (hcaller : ¬ s.caller.atEnd) {thread other : ExecutorThread threads}
    (hhelps : s.Helps thread) (hother : other ≠ thread) (hstep : ThreadStep s other next) :
    next.Helps thread := by
  cases hstep with
  | caller hstep =>
    cases thread with
    | caller => exact absurd rfl hother
    | worker i => exact CallerStep.keeps_helps h hcaller hhelps hstep
  | @worker event next i hstep =>
    cases thread with
    | caller => exact WorkerStep.keeps_helps hhelps hstep
    | worker j =>
      have hne : j ≠ i := by
        rintro rfl
        exact hother rfl
      obtain ⟨htask, -, hothers, -, -⟩ := WorkerStep.frame hstep
      exact helps_worker_of htask.stopping.symm htask.generation.symm (hothers j hne).symm hhelps

theorem ExecutorSystem.ThreadStep.step {thread : ExecutorThread threads}
    (h : ThreadStep s thread next) :
    ∃ event, Step s event next := by
  cases h with
  | caller h => exact ⟨_, .caller h⟩
  | worker h => exact ⟨_, .worker _ h⟩

@[simp] theorem CallerPosition.inStop_notified (position : CallerPosition κ) :
    position.notified.inStop = position.inStop := by
  cases position <;> rfl

theorem ExecutorSystem.ThreadStep.inStop (hcaller : ¬ s.caller.atEnd)
    {thread : ExecutorThread threads}
    (h : ThreadStep s thread next) : next.caller.inStop = s.caller.inStop := by
  cases h with
  | worker hstep =>
    cases hstep with
    | finish hposition =>
      simp only [finishWorker]
      split_ifs <;> simp
    | _ => rfl
  | caller hstep =>
    cases hstep with
    | begin job points hposition => exact absurd (.inl hposition) hcaller
    | stop hposition => exact absurd (.inl hposition) hcaller
    | @execute execution event members after hposition hexecute =>
      cases after <;> simp [hposition, CallerPosition.inStop]
    | _ => simp [*, CallerPosition.inStop]

/-- The destructor has joined every worker. -/
theorem ExecutorSystem.Steps.exited {events : List (ExecutorEvent κ ε)}
    (hsteps : Steps (initial κ ε threads) events s) (hcaller : s.caller = .destroyed) :
    ∀ i, s.workers i = .exited := by
  generalize hstart : initial κ ε threads = start at hsteps
  induction hsteps with
  | nil =>
    subst hstart
    cases hcaller
  | @concat events s next event hsteps hstep ih =>
    cases hstep with
    | caller hstep =>
      cases hstep with
      | join hposition hexited => exact hexited
      | @execute execution event members after hposition hexecute =>
        cases after <;> cases hcaller
      | _ => cases hcaller
    | worker j hstep =>
      obtain ⟨-, -, -, hsame, hexited⟩ := WorkerStep.frame hstep
      by_cases hasleep : s.caller = .asleep
      · cases hstep with
        | finish hposition =>
          simp only [finishWorker, hasleep, CallerPosition.notified] at hcaller
          split_ifs at hcaller
        | _ => exact absurd (hasleep.symm.trans hcaller) (by simp)
      · exact absurd (ih ((hsame hasleep).symm.trans hcaller) j) hexited

/-- The threads of an executor reach the end of a run, or of the destructor. -/
def helpfulThreads {start : ExecutorSystem κ ε threads} {ledger : Ledger κ ε}
    (hstart : Accounted start ledger) :
    Helpful (ThreadStep : ExecutorSystem κ ε threads → _ → _ → Prop) Ready
      (fun s => (∃ later, Steps start later s) ∧ s.caller.inStop = start.caller.inStop)
      fun s => s.caller.atEnd where
  helps := Helps
  work := ExecutorSystem.work
  keeps := by
    rintro s thread next ⟨⟨later, hsteps⟩, hstop⟩ hcaller hstep
    obtain ⟨event, h⟩ := hstep.step
    exact ⟨⟨_, hsteps.concat h⟩, (ThreadStep.inStop hcaller hstep).trans hstop⟩
  exists_helps := by
    rintro s ⟨⟨later, hsteps⟩, -⟩ hcaller
    exact (hstart.steps hsteps).phase.exists_helps hcaller
  ready := by
    rintro s thread - hcaller hhelps
    exact hhelps.ready hcaller
  work_le := by
    rintro s thread next ⟨⟨later, hsteps⟩, -⟩ hcaller hstep
    have h := (hstart.steps hsteps).phase
    cases hstep with
    | caller hstep => exact CallerStep.work_le h hcaller hstep
    | worker hstep => exact (WorkerStep.work h hstep).1
  work_lt := by
    rintro s thread next ⟨⟨later, hsteps⟩, -⟩ hcaller hhelps hstep
    have h := (hstart.steps hsteps).phase
    cases hstep with
    | caller hstep => exact CallerStep.work_lt h hcaller hhelps hstep
    | worker hstep => exact (WorkerStep.work h hstep).2 hhelps
  persists := by
    rintro s thread other next ⟨⟨later, hsteps⟩, -⟩ hcaller hhelps hstep hother
    exact ThreadStep.persists (hstart.steps hsteps).phase hcaller hhelps hother hstep

end Steps

open ExecutorSystem in
/-- In a reachable state in which a run or the destructor has not ended, some thread can take a
step. If no thread is passed over forever, the run in progress returns or is refused, and the
destructor joins every worker, however often threads that wait wake up without being notified. -/
theorem executor_live {threads : ℕ} {events : List (ExecutorEvent κ ε)}
    (schedule : Schedule (ThreadStep : ExecutorSystem κ ε threads → _ → _ → Prop))
    (hsteps : Steps (initial κ ε threads) events (schedule.state 0)) :
    (¬ (schedule.state 0).caller.atEnd → ∃ thread, (schedule.state 0).Ready thread) ∧
    (schedule.Fair Ready →
      ((schedule.state 0).caller.inStop = false → ∃ n later,
        Steps (schedule.state 0) later (schedule.state n) ∧
        (schedule.state n).caller = .idle ∧ (ledgerOf (events ++ later)).current = none) ∧
      ((schedule.state 0).caller.inStop = true → ∃ n,
        (schedule.state n).caller = .destroyed ∧ ∀ i, (schedule.state n).workers i = .exited)) := by
  have haccounted := (accounted_initial κ ε threads).steps hsteps
  constructor
  · intro hcaller
    obtain ⟨thread, hhelps⟩ := haccounted.phase.exists_helps hcaller
    exact ⟨thread, hhelps.ready hcaller⟩
  · intro hfair
    obtain ⟨n, -, ⟨⟨later, hlater⟩, hstop⟩, hend⟩ :=
      (helpfulThreads haccounted).reaches hfair (n := 0) ⟨⟨[], .nil⟩, rfl⟩
    constructor
    · intro hstart
      rw [hstart] at hstop
      have hidle : (schedule.state n).caller = .idle := by
        rcases hend with hidle | hdestroyed
        · exact hidle
        · simp [hdestroyed, CallerPosition.inStop] at hstop
      have hphase := ((accounted_initial κ ε threads).steps (hsteps.trans hlater)).phase.at_caller
      rw [hidle] at hphase
      exact ⟨n, later, hlater, hidle, hphase.1⟩
    · intro hstart
      rw [hstart] at hstop
      have hdestroyed : (schedule.state n).caller = .destroyed := by
        rcases hend with hidle | hdestroyed
        · simp [hidle, CallerPosition.inStop] at hstop
        · exact hdestroyed
      exact ⟨n, hdestroyed, Steps.exited (hsteps.trans hlater) hdestroyed⟩

open ExecutorSystem in
/-- One worker, and a run of one block. -/
theorem executor_live_one_block :
    ∃ schedule : Schedule (ThreadStep : ExecutorSystem Unit ℕ 1 → _ → _ → Prop),
      (schedule.state 0).caller = .starting () 1 ∧ ∃ n, (schedule.state n).caller = .idle := by
  have hfair : FairFrom (ThreadStep : ExecutorSystem Unit ℕ 1 → _ → _ → Prop) Ready
      { initial Unit ℕ 1 with caller := .starting () 1 } := by
    refine .before (.caller (.assign rfl (by decide))) ?_
    refine .before (.caller (.publish rfl)) ?_
    refine .before (.caller (.notify rfl)) ?_
    refine .before (.caller (.execute rfl (.enter (by decide)))) ?_
    refine .before (.caller (.execute rfl .call)) ?_
    refine .before (.caller (.execute rfl (.finish none))) ?_
    refine .before (.caller (.execute rfl (.leave (by decide)))) ?_
    refine .before (.caller (.sleep rfl (by decide))) ?_
    refine .before (.worker (i := 0) (.await rfl)) ?_
    refine .before (.worker (i := 0) (.execute rfl (.leave (by decide)))) ?_
    refine .before (.worker (i := 0) (.finish rfl)) ?_
    refine .before (.caller (.leave rfl rfl)) ?_
    refine .before (.caller (.rethrow rfl)) ?_
    apply FairFrom.rest
    rintro (_ | i)
    · exact fun h => h.1 rfl
    · obtain rfl : i = 0 := Subsingleton.elim i 0
      exact fun h => h.1 _ rfl
  obtain ⟨schedule, hstart, hfair⟩ := hfair
  have hsteps : Steps (initial Unit ℕ 1) ([] ++ [.began () 1]) (schedule.state 0) := by
    rw [hstart]
    exact Steps.nil.concat (.caller (.begin () 1 rfl))
  obtain ⟨n, later, -, hidle, -⟩ :=
    ((executor_live schedule hsteps).2 hfair).1 (by rw [hstart]; rfl)
  exact ⟨schedule, by rw [hstart], n, hidle⟩

end PointcloudAd.Registration
