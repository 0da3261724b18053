import Mathlib.Algebra.Order.BigOperators.Group.Finset
import PointcloudAd.Registration.ExecutorTurns

/-!
# Safety of the executor

In every reachable state a worker that executes is in the run in progress, and the number of pending
workers is the number of those that have not finished the generation. So the caller leaves its wait
when every block has been called and no thread uses the job any more.
-/

namespace PointcloudAd.Registration

variable {κ ε : Type}

theorem observed_ne (observed : UInt64) : observed ≠ observed + 1 := by
  grind

/-- Whether a worker still has to finish the generation. -/
def WorkerPosition.unfinished (generation : UInt64) : WorkerPosition κ → Bool
  | .ready observed => observed ≠ generation
  | .asleep observed => observed ≠ generation
  | .executing _ _ => true
  | .finishing _ => true
  | .exited => false

/-- A worker outside of `execute` has finished the generation, or has not seen it yet. -/
def Between (count : ℕ) (generation : UInt64) (r : RunRecord κ ε) (worker : ℕ)
    (observed : UInt64) : Prop :=
  (observed = generation ∧ Turn count r worker none) ∨
    (observed + 1 = generation ∧ Progress count r worker 0 0)

def WorkerTurn (count : ℕ) (generation : UInt64) (r : RunRecord κ ε) (worker : ℕ) :
    WorkerPosition κ → Prop
  | .ready observed => Between count generation r worker observed
  | .asleep observed => Between count generation r worker observed
  | .executing observed execution =>
    observed = generation ∧ Turn count r worker (some execution)
  | .finishing observed => observed = generation ∧ Turn count r worker none
  | .exited => False

def CallerTurn (count : ℕ) (r : RunRecord κ ε) : CallerPosition κ → Prop
  | .notifying => Progress count r 0 0 0
  | .executing execution => Turn count r 0 (some execution)
  | .waiting => Turn count r 0 none
  | .asleep => Turn count r 0 none
  | _ => False

/-- A state in a run that has been published. A worker that sleeps through the new generation is
still to be notified, and the caller sleeps only while workers are pending. -/
structure InRun {threads : ℕ} (s : ExecutorSystem κ ε threads) (r : RunRecord κ ε) : Prop where
  published : Published s.members r
  owned : OwnCalls (threads + 1) r
  pending : s.members.pending =
    ∑ i : Fin threads, ((s.workers i).unfinished s.members.generation).toNat
  workers : ∀ i : Fin threads, WorkerTurn (threads + 1) s.members.generation r (i + 1) (s.workers i)
  caller : CallerTurn (threads + 1) r s.caller
  callerAsleep : s.caller = .asleep → s.members.pending ≠ 0
  unnotified : ∀ i observed, s.workers i = .asleep observed → observed ≠ s.members.generation →
    s.caller = .notifying

section Run

variable {count worker : ℕ} {r r' : RunRecord κ ε} {generation : UInt64}

/-- A run that goes on keeps the turns of the threads whose calls did not change. -/
theorem Turn.mono (hothers : ∀ started ended, Progress count r worker started ended →
    Progress count r' worker started ended) (htotal : r'.total = r.total) (hjob : r'.job = r.job)
    {execution : Option (Execution κ)} (h : Turn count r worker execution) :
    Turn count r' worker execution := by
  cases execution with
  | none =>
    simp only [Turn, htotal] at h ⊢
    exact hothers _ _ h
  | some execution =>
    simp only [Turn, htotal, hjob] at h ⊢
    exact ⟨h.1, hothers _ _ h.2⟩

theorem WorkerTurn.mono (hothers : ∀ started ended, Progress count r worker started ended →
    Progress count r' worker started ended) (htotal : r'.total = r.total) (hjob : r'.job = r.job)
    {position : WorkerPosition κ} (h : WorkerTurn count generation r worker position) :
    WorkerTurn count generation r' worker position := by
  have hbetween : ∀ observed, Between count generation r worker observed →
      Between count generation r' worker observed := by
    intro observed h
    rcases h with ⟨hobserved, h⟩ | ⟨hobserved, h⟩
    · exact .inl ⟨hobserved, h.mono hothers htotal hjob⟩
    · exact .inr ⟨hobserved, hothers _ _ h⟩
  cases position with
  | ready observed => exact hbetween observed h
  | asleep observed => exact hbetween observed h
  | executing observed execution => exact ⟨h.1, h.2.mono hothers htotal hjob⟩
  | finishing observed => exact ⟨h.1, h.2.mono hothers htotal hjob⟩
  | exited => exact h

theorem CallerTurn.mono (hothers : ∀ started ended, Progress count r 0 started ended →
    Progress count r' 0 started ended) (htotal : r'.total = r.total) (hjob : r'.job = r.job)
    {position : CallerPosition κ} (h : CallerTurn count r position) :
    CallerTurn count r' position := by
  cases position with
  | notifying => exact hothers _ _ h
  | executing execution =>
    have hturn : Turn count r 0 (some execution) := h
    exact hturn.mono hothers htotal hjob
  | waiting =>
    have hturn : Turn count r 0 none := h
    exact hturn.mono hothers htotal hjob
  | asleep =>
    have hturn : Turn count r 0 none := h
    exact hturn.mono hothers htotal hjob
  | _ => exact h

theorem CallerTurn.notified {position : CallerPosition κ} (h : CallerTurn count r position) :
    CallerTurn count r position.notified := by
  cases position <;> exact h

end Run

section Steps

variable {threads : ℕ} {s next : ExecutorSystem κ ε threads} {r : RunRecord κ ε}

theorem sum_update {α : Type} (f : Fin threads → α) (i : Fin threads) (a : α) (g : α → ℕ) :
    ∑ j, g (Function.update f i a j) + g (f i) = ∑ j, g (f j) + g a := by
  have hothers : ∑ j ∈ Finset.univ.erase i, g (Function.update f i a j) =
      ∑ j ∈ Finset.univ.erase i, g (f j) := by
    apply Finset.sum_congr rfl
    intro j hj
    rw [Function.update_of_ne (Finset.ne_of_mem_erase hj)]
  rw [← Finset.add_sum_erase _ _ (Finset.mem_univ i), hothers, Function.update_self,
    ← Finset.add_sum_erase _ (fun j => g (f j)) (Finset.mem_univ i)]
  omega

/-- A worker takes another position, and what it did is seen in the members and in the run. -/
theorem InRun.move (h : InRun s r) (i : Fin threads) {position : WorkerPosition κ}
    {members : ExecutorMembers κ ε} {r' : RunRecord κ ε} {caller : CallerPosition κ}
    (hpublished : Published members r') (howned : OwnCalls (threads + 1) r')
    (hgeneration : members.generation = s.members.generation)
    (hpending : members.pending + ((s.workers i).unfinished s.members.generation).toNat =
      s.members.pending + (position.unfinished s.members.generation).toNat)
    (hturn : WorkerTurn (threads + 1) s.members.generation r' (i + 1) position)
    (hothers : ∀ other ≠ (i : ℕ) + 1, ∀ started ended,
      Progress (threads + 1) r other started ended → Progress (threads + 1) r' other started ended)
    (htotal : r'.total = r.total) (hjob : r'.job = r.job)
    (hcaller : CallerTurn (threads + 1) r' caller)
    (hasleep : caller = .asleep → members.pending ≠ 0)
    (hnotifying : s.caller = .notifying → caller = .notifying)
    (hunnotified : ∀ observed, position = .asleep observed → observed ≠ s.members.generation →
      s.caller = .notifying) :
    InRun ⟨members, Function.update s.workers i position, caller⟩ r' where
  published := hpublished
  owned := howned
  pending := by
    have hsum := sum_update s.workers i position fun p =>
      (p.unfinished s.members.generation).toNat
    rw [← h.pending] at hsum
    simp only [hgeneration]
    omega
  workers := by
    intro j
    simp only [hgeneration]
    by_cases hj : j = i
    · subst hj
      simpa using hturn
    · have hne : (j : ℕ) + 1 ≠ i + 1 := by omega
      simpa [hj] using (h.workers j).mono (hothers _ hne) htotal hjob
  caller := hcaller
  callerAsleep := hasleep
  unnotified := by
    intro j observed hposition hobserved
    simp only [hgeneration] at hobserved
    apply hnotifying
    by_cases hj : j = i
    · subst hj
      simp only [Function.update_self] at hposition
      exact hunnotified observed hposition hobserved
    · simp only [Function.update_of_ne hj] at hposition
      exact h.unnotified j observed hposition hobserved

open ExecutorSystem

/-- A worker that finds the generation changed begins to execute, and one that has finished it goes
back to sleep. -/
theorem InRun.await (h : InRun s r) {i : Fin threads} {observed : UInt64}
    (hposition : s.workers i = .ready observed) :
    WorkerTurn (threads + 1) s.members.generation r (i + 1) (s.members.await (i + 1) observed) ∧
      ((s.members.await (i + 1) observed).unfinished s.members.generation) =
        (s.workers i).unfinished s.members.generation ∧
      ∀ later, s.members.await (i + 1) observed = .asleep later → later = s.members.generation := by
  have hworker : (i : ℕ) + 1 < threads + 1 := Nat.succ_lt_succ i.isLt
  have hturn := h.workers i
  rw [hposition] at hturn ⊢
  rcases hturn with ⟨rfl, hdone⟩ | ⟨hnext, hprogress⟩
  · have hawait : s.members.await (i + 1) s.members.generation =
        .asleep s.members.generation := by
      simp [ExecutorMembers.await, h.published.stopping]
    rw [hawait]
    refine ⟨.inl ⟨rfl, hdone⟩, rfl, ?_⟩
    intro later hlater
    injection hlater with hlater
    exact hlater.symm
  · have hne : s.members.generation ≠ observed := hnext ▸ (observed_ne observed).symm
    have hawait : s.members.await (i + 1) observed =
        .executing s.members.generation (.testing (i + 1)) := by
      simp [ExecutorMembers.await, h.published.stopping, hne]
    rw [hawait]
    refine ⟨⟨rfl, Nat.mod_eq_of_lt hworker, hprogress.first hworker⟩, ?_, ?_⟩
    · simp [WorkerPosition.unfinished, hne.symm]
    · intro later hlater
      cases hlater

/-- Every step of a worker keeps a run in progress. -/
theorem InRun.worker (h : InRun s r) {i : Fin threads} {event : Option (ExecutorEvent κ ε)}
    (hstep : WorkerStep s i event next) : InRun next (r.after event) := by
  have hworker : (i : ℕ) + 1 < threads + 1 := Nat.succ_lt_succ i.isLt
  have hturn := h.workers i
  cases hstep with
  | @await observed hposition =>
    obtain ⟨hawait, hunfinished, hasleep⟩ := h.await hposition
    refine h.move i h.published h.owned rfl ?_ hawait (fun _ _ _ _ => id) rfl rfl h.caller
      h.callerAsleep id ?_
    · rw [hunfinished]
    · intro later hlater hne
      exact absurd (hasleep later hlater) hne
  | @wake observed hposition =>
    rw [hposition] at hturn
    refine h.move i h.published h.owned rfl ?_ hturn (fun _ _ _ _ => id) rfl rfl h.caller
      h.callerAsleep id ?_
    · rw [hposition]
      rfl
    · intro later hlater
      cases hlater
  | @execute observed execution event members after hposition hexecute =>
    rw [hposition] at hturn
    obtain ⟨rfl, hturn⟩ := hturn
    have hexecuted := hexecute.executed hworker h.published hturn
    have hcaller : CallerTurn (threads + 1) (r.after event) s.caller :=
      h.caller.mono (hexecuted.others 0 (Nat.succ_ne_zero _).symm) (by simp) (by simp)
    refine h.move i hexecuted.published (hexecuted.owned h.owned) hexecuted.generation ?_ ?_
      hexecuted.others (by simp) (by simp) hcaller ?_ id ?_
    · rw [hposition, hexecuted.pending]
      cases after <;> rfl
    · cases after with
      | none => exact ⟨rfl, hexecuted.turn⟩
      | some execution => exact ⟨rfl, hexecuted.turn⟩
    · rw [hexecuted.pending]
      exact h.callerAsleep
    · intro later hlater
      cases after <;> cases hlater
  | @finish observed hposition =>
    rw [hposition] at hturn
    obtain ⟨rfl, hdone⟩ := hturn
    have hfinish : s.finishWorker i s.members.generation =
        ⟨{ s.members with pending := s.members.pending - 1 },
          Function.update s.workers i (.asleep s.members.generation),
          if s.members.pending - 1 = 0 then s.caller.notified else s.caller⟩ := by
      simp [finishWorker, ExecutorMembers.await, h.published.stopping]
    have hpositive : 0 < s.members.pending := by
      have hle := Finset.single_le_sum (f := fun j => ((s.workers j).unfinished
        s.members.generation).toNat) (fun _ _ => Nat.zero_le _) (Finset.mem_univ i)
      rw [← h.pending, hposition] at hle
      exact hle
    rw [hfinish]
    refine h.move i ⟨h.published.job, h.published.blocks, h.published.errors,
      h.published.stopping⟩ h.owned rfl ?_ (.inl ⟨rfl, hdone⟩)
        (fun _ _ _ _ => id) rfl rfl ?_ ?_ ?_ ?_
    · rw [hposition]
      simp only [WorkerPosition.unfinished, ne_eq, not_true_eq_false, decide_false,
        Bool.toNat_true, Bool.toNat_false]
      omega
    · split_ifs with hzero
      · exact h.caller.notified
      · exact h.caller
    · split_ifs with hzero
      · intro hasleep
        cases hcaller : s.caller <;> simp [hcaller, CallerPosition.notified] at hasleep
      · exact fun _ => hzero
    · intro hcaller
      simp [hcaller, CallerPosition.notified]
    · intro later hlater hne
      injection hlater with hlater
      exact absurd hlater.symm hne

end Steps

/-- A worker that has finished the generation. -/
def WorkerPosition.Rests (generation : UInt64) : WorkerPosition κ → Prop
  | .ready observed => observed = generation
  | .asleep observed => observed = generation
  | _ => False

theorem WorkerPosition.Rests.position {generation : UInt64} {position : WorkerPosition κ}
    (h : position.Rests generation) :
    position = .ready generation ∨ position = .asleep generation := by
  cases position with
  | ready observed => exact .inl (congrArg _ h)
  | asleep observed => exact .inr (congrArg _ h)
  | _ => exact h.elim

structure Rested {threads : ℕ} (s : ExecutorSystem κ ε threads) : Prop where
  job : s.members.job = none
  pending : s.members.pending = 0
  stopping : s.members.stopping = false
  workers : ∀ i, (s.workers i).Rests s.members.generation

structure WorkersStopped {threads : ℕ} (s : ExecutorSystem κ ε threads) : Prop where
  stopping : s.members.stopping = true
  workers : ∀ i, (s.workers i).Rests s.members.generation ∨ s.workers i = .exited
  notified : s.caller ≠ .notifyingStop → ∀ i observed, s.workers i ≠ .asleep observed

section Steps

open ExecutorSystem

variable {threads : ℕ} {s next : ExecutorSystem κ ε threads} {r : RunRecord κ ε}

theorem update_forall {α : Type} {f : Fin threads → α} {P : α → Prop} (h : ∀ j, P (f j))
    (i : Fin threads) {a : α} (ha : P a) : ∀ j, P (Function.update f i a j) := by
  intro j
  by_cases hj : j = i
  · subst hj
    simpa using ha
  · simpa [hj] using h j

/-- Between two runs a worker only wakes up and goes back to sleep. -/
theorem Rested.worker (h : Rested s) {i : Fin threads} {event : Option (ExecutorEvent κ ε)}
    (hstep : WorkerStep s i event next) :
    event = none ∧ next.members = s.members ∧ next.caller = s.caller ∧ Rested next := by
  have hrests := h.workers i
  cases hstep with
  | @await observed hposition =>
    rw [hposition] at hrests
    have hawait : s.members.await (i + 1) observed = .asleep observed := by
      simp [ExecutorMembers.await, h.stopping, show observed = s.members.generation from hrests]
    rw [hawait]
    exact ⟨rfl, rfl, rfl, h.job, h.pending, h.stopping, update_forall h.workers i hrests⟩
  | @wake observed hposition =>
    rw [hposition] at hrests
    exact ⟨rfl, rfl, rfl, h.job, h.pending, h.stopping, update_forall h.workers i hrests⟩
  | execute hposition =>
    rw [hposition] at hrests
    exact hrests.elim
  | finish hposition =>
    rw [hposition] at hrests
    exact hrests.elim

/-- After the executor was stopped a worker only wakes up and returns. -/
theorem WorkersStopped.worker (h : WorkersStopped s) {i : Fin threads}
    {event : Option (ExecutorEvent κ ε)}
    (hstep : WorkerStep s i event next) :
    event = none ∧ next.caller = s.caller ∧ WorkersStopped next := by
  have hrests := h.workers i
  cases hstep with
  | @await observed hposition =>
    have hawait : s.members.await (i + 1) observed = .exited := by
      simp [ExecutorMembers.await, h.stopping]
    rw [hawait]
    have hworkers := update_forall (P := fun position : WorkerPosition κ =>
      position.Rests s.members.generation ∨ position = .exited) h.workers i (.inr rfl)
    refine ⟨rfl, rfl, h.stopping, hworkers, fun hcaller => ?_⟩
    apply update_forall (P := fun position : WorkerPosition κ => ∀ later, position ≠ .asleep later)
      (h.notified hcaller) i
    intro later hlater
    cases hlater
  | @wake observed hposition =>
    rw [hposition] at hrests
    have hready : (.ready observed : WorkerPosition κ).Rests s.members.generation ∨
        (.ready observed : WorkerPosition κ) = .exited :=
      .inl (hrests.resolve_right nofun)
    have hworkers := update_forall (P := fun position : WorkerPosition κ =>
      position.Rests s.members.generation ∨ position = .exited) h.workers i hready
    refine ⟨rfl, rfl, h.stopping, hworkers, fun hcaller => ?_⟩
    exact absurd hposition (h.notified hcaller i observed)
  | execute hposition =>
    rw [hposition] at hrests
    exact (hrests.resolve_right nofun).elim
  | finish hposition =>
    rw [hposition] at hrests
    exact (hrests.resolve_right nofun).elim

/-- The run in progress, phase by phase. -/
inductive Phase (s : ExecutorSystem κ ε threads) : Option (RunRecord κ ε) → Prop
  | idle (hcaller : s.caller = .idle) (h : Rested s) : Phase s none
  | starting {job : κ} {points : ℕ} (hcaller : s.caller = .starting job points) (h : Rested s) :
      Phase s (some { job, points })
  | publishing {job : κ} {points : ℕ}
      (hcaller : s.caller = .publishing job (CpuExecutor.blocks points)) (h : Rested s)
      (herrors : s.members.errors = List.replicate (CpuExecutor.blocks points) none) :
      Phase s (some { job, points })
  | running {r : RunRecord κ ε} (h : InRun s r) : Phase s (some r)
  | rethrowing {r : RunRecord κ ε} (hcaller : s.caller = .rethrowing) (h : Rested s)
      (howned : OwnCalls (threads + 1) r)
      (hdone : ∀ worker < threads + 1, Turn (threads + 1) r worker none)
      (herrors : s.members.errors = (List.range r.total).map r.thrown) : Phase s (some r)
  | stopping (hcaller : s.caller = .notifyingStop ∨ s.caller = .joining ∨ s.caller = .destroyed)
      (h : WorkersStopped s) : Phase s none

/-- A step of a worker does not end a phase, and shows in the run in progress. -/
theorem Phase.worker {current : Option (RunRecord κ ε)} (h : Phase s current) {i : Fin threads}
    {event : Option (ExecutorEvent κ ε)} (hstep : WorkerStep s i event next) :
    (event = none ∧ Phase next current) ∨
      ∃ r, current = some r ∧ InRun s r ∧ InRun next (r.after event) := by
  cases h with
  | idle hcaller h =>
    obtain ⟨hevent, hmembers, hnext, h⟩ := h.worker hstep
    exact .inl ⟨hevent, .idle (hnext.trans hcaller) h⟩
  | starting hcaller h =>
    obtain ⟨hevent, hmembers, hnext, h⟩ := h.worker hstep
    exact .inl ⟨hevent, .starting (hnext.trans hcaller) h⟩
  | publishing hcaller h herrors =>
    obtain ⟨hevent, hmembers, hnext, h⟩ := h.worker hstep
    exact .inl ⟨hevent, .publishing (hnext.trans hcaller) h (hmembers ▸ herrors)⟩
  | @running r h => exact .inr ⟨r, rfl, h, h.worker hstep⟩
  | rethrowing hcaller h howned hdone herrors =>
    obtain ⟨hevent, hmembers, hnext, h⟩ := h.worker hstep
    exact .inl ⟨hevent, .rethrowing (hnext.trans hcaller) h howned hdone (hmembers ▸ herrors)⟩
  | stopping hcaller h =>
    obtain ⟨hevent, hnext, h⟩ := h.worker hstep
    exact .inl ⟨hevent, .stopping (hnext ▸ hcaller) h⟩

/-- The phase of a run is the one of the caller's position. -/
def PhaseAt (s : ExecutorSystem κ ε threads) (current : Option (RunRecord κ ε)) :
    CallerPosition κ → Prop
  | .idle => current = none ∧ Rested s
  | .starting job points => current = some { job, points } ∧ Rested s
  | .publishing job total => ∃ points, total = CpuExecutor.blocks points ∧
      current = some { job, points } ∧ Rested s ∧ s.members.errors = List.replicate total none
  | .rethrowing => ∃ r, current = some r ∧ Rested s ∧ OwnCalls (threads + 1) r ∧
      (∀ worker < threads + 1, Turn (threads + 1) r worker none) ∧
      s.members.errors = (List.range r.total).map r.thrown
  | .notifyingStop => current = none ∧ WorkersStopped s
  | .joining => current = none ∧ WorkersStopped s
  | .destroyed => current = none ∧ WorkersStopped s
  | _ => ∃ r, current = some r ∧ InRun s r

theorem Phase.at_caller {current : Option (RunRecord κ ε)} (h : Phase s current) :
    PhaseAt s current s.caller := by
  cases h with
  | idle hcaller h => simpa [hcaller, PhaseAt] using h
  | starting hcaller h => simpa [hcaller, PhaseAt] using h
  | @publishing job points hcaller h herrors =>
    rw [hcaller]
    exact ⟨points, rfl, rfl, h, herrors⟩
  | @running r h =>
    have hturn := h.caller
    cases hcaller : s.caller <;> rw [hcaller] at hturn <;> first
      | exact ⟨r, rfl, h⟩
      | exact hturn.elim
  | @rethrowing r hcaller h howned hdone herrors =>
    rw [hcaller]
    exact ⟨r, rfl, h, howned, hdone, herrors⟩
  | stopping hcaller h =>
    rcases hcaller with hcaller | hcaller | hcaller <;> simpa [hcaller, PhaseAt] using h

theorem Rested.of_members (h : Rested s) (hmembers : next.members = s.members)
    (hworkers : next.workers = s.workers) : Rested next :=
  ⟨hmembers ▸ h.job, hmembers ▸ h.pending, hmembers ▸ h.stopping, by
    rw [hmembers, hworkers]
    exact h.workers⟩

/-- A run that was published is new to every thread. -/
theorem Rested.publish (h : Rested s) {job : κ} {points : ℕ}
    (herrors : s.members.errors = List.replicate (CpuExecutor.blocks points) none) :
    InRun { s with
      members := { s.members with
        job := some job
        blocks := CpuExecutor.blocks points
        pending := threads
        generation := s.members.generation + 1 }
      caller := .notifying } { job, points } := by
  have hnew : ∀ worker, Progress (threads + 1) ({ job, points } : RunRecord κ ε) worker 0 0 :=
    fun worker => ⟨by simp [ownBlocks_zero], by simp [ownBlocks_zero], fun _ _ _ _ => rfl⟩
  have hrests : ∀ i : Fin threads, (s.workers i).unfinished (s.members.generation + 1) = true ∧
      WorkerTurn (threads + 1) (s.members.generation + 1) ({ job, points } : RunRecord κ ε) (i + 1)
        (s.workers i) := by
    intro i
    rcases (h.workers i).position with hposition | hposition <;> rw [hposition]
    · exact ⟨by simp [WorkerPosition.unfinished], .inr ⟨rfl, hnew _⟩⟩
    · exact ⟨by simp [WorkerPosition.unfinished], .inr ⟨rfl, hnew _⟩⟩
  constructor
  · refine ⟨rfl, rfl, ?_, h.stopping⟩
    simp [herrors, RunRecord.total]
  · exact ⟨nofun, nofun⟩
  · simp [(hrests _).1]
  · exact fun i => (hrests i).2
  · exact hnew 0
  · intro hcaller
    cases hcaller
  · intro i observed hposition hobserved
    rfl

/-- The caller notifies every worker, and begins to execute. -/
theorem InRun.notify (h : InRun s r) (hcaller : s.caller = .notifying) :
    InRun { s with workers := s.notifyAll, caller := .executing (.testing 0) } r := by
  have hturn := h.caller
  rw [hcaller] at hturn
  have hnotified : ∀ i, (s.workers i).notified.unfinished s.members.generation =
      (s.workers i).unfinished s.members.generation := by
    intro i
    cases s.workers i <;> rfl
  constructor
  · exact h.published
  · exact h.owned
  · simpa [notifyAll, hnotified] using h.pending
  · intro i
    have hworker := h.workers i
    simp only [notifyAll]
    cases hposition : s.workers i <;> rw [hposition] at hworker <;> exact hworker
  · exact ⟨Nat.zero_mod _, hturn⟩
  · intro hasleep
    cases hasleep
  · intro i observed hposition
    simp only [notifyAll] at hposition
    cases hworker : s.workers i <;> simp [hworker, WorkerPosition.notified] at hposition

/-- The caller executes as the first of the threads. -/
theorem InRun.execute (h : InRun s r) {execution : Execution κ}
    {event : Option (ExecutorEvent κ ε)} {members : ExecutorMembers κ ε}
    {after : Option (Execution κ)} (hcaller : s.caller = .executing execution)
    (hexecute : ExecuteStep (threads + 1) 0 s.members execution event members after) :
    InRun { s with members, caller := after.elim .waiting .executing } (r.after event) := by
  have hturn := h.caller
  rw [hcaller] at hturn
  have hexecuted := hexecute.executed (Nat.succ_pos _) h.published hturn
  constructor
  · exact hexecuted.published
  · exact hexecuted.owned h.owned
  · simpa [hexecuted.generation, hexecuted.pending] using h.pending
  · intro i
    have hmono := (h.workers i).mono (hexecuted.others _ (Nat.succ_ne_zero _)) (by simp) (by simp)
    simpa [hexecuted.generation] using hmono
  · cases after with
    | none => exact hexecuted.turn
    | some execution => exact hexecuted.turn
  · intro hasleep
    cases after <;> cases hasleep
  · intro i observed hposition hobserved
    simp only [hexecuted.generation] at hobserved
    have hnotifying := h.unnotified i observed hposition hobserved
    rw [hcaller] at hnotifying
    cases hnotifying

/-- When no worker is pending, every thread has taken all its blocks. -/
theorem InRun.leave (h : InRun s r) (hcaller : s.caller = .waiting)
    (hpending : s.members.pending = 0) :
    Rested { s with members := { s.members with job := none }, caller := .rethrowing } ∧
      ∀ worker < threads + 1, Turn (threads + 1) r worker none := by
  have hsum := h.pending
  rw [hpending, eq_comm, Finset.sum_eq_zero_iff] at hsum
  have hworkers : ∀ i : Fin threads, (s.workers i).Rests s.members.generation ∧
      Turn (threads + 1) r (i + 1) none := by
    intro i
    have hworker := h.workers i
    have hfinished := hsum i (Finset.mem_univ i)
    cases hposition : s.workers i with
    | ready observed =>
      rw [hposition] at hworker hfinished
      obtain rfl : observed = s.members.generation := by
        simpa [WorkerPosition.unfinished] using hfinished
      rcases hworker with ⟨-, hdone⟩ | ⟨hnext, -⟩
      · exact ⟨rfl, hdone⟩
      · exact absurd hnext.symm (observed_ne _)
    | asleep observed =>
      rw [hposition] at hworker hfinished
      obtain rfl : observed = s.members.generation := by
        simpa [WorkerPosition.unfinished] using hfinished
      rcases hworker with ⟨-, hdone⟩ | ⟨hnext, -⟩
      · exact ⟨rfl, hdone⟩
      · exact absurd hnext.symm (observed_ne _)
    | executing observed execution => simp [hposition, WorkerPosition.unfinished] at hfinished
    | finishing observed => simp [hposition, WorkerPosition.unfinished] at hfinished
    | exited =>
      rw [hposition] at hworker
      exact hworker.elim
  constructor
  · exact ⟨rfl, hpending, h.published.stopping, fun i => (hworkers i).1⟩
  · intro worker hworker
    cases worker with
    | zero =>
      have hturn := h.caller
      rw [hcaller] at hturn
      exact hturn
    | succ i => exact (hworkers ⟨i, Nat.lt_of_succ_lt_succ hworker⟩).2

/-- The caller waits on, notified or not. -/
theorem InRun.wait (h : InRun s r) (hcaller : s.caller = .waiting ∨ s.caller = .asleep)
    {caller : CallerPosition κ} (hnext : caller = .waiting ∨ caller = .asleep)
    (hpending : caller = .asleep → s.members.pending ≠ 0) : InRun { s with caller } r := by
  have hturn : Turn (threads + 1) r 0 none := by
    have hturn := h.caller
    rcases hcaller with hcaller | hcaller <;> rw [hcaller] at hturn <;> exact hturn
  constructor
  · exact h.published
  · exact h.owned
  · exact h.pending
  · exact h.workers
  · rcases hnext with rfl | rfl <;> exact hturn
  · exact hpending
  · intro i observed hposition hobserved
    have hnotifying := h.unnotified i observed hposition hobserved
    rcases hcaller with hcaller | hcaller <;> rw [hcaller] at hnotifying <;> cases hnotifying

theorem Rested.stop (h : Rested s) :
    WorkersStopped { s with
      members := { s.members with stopping := true }
      caller := .notifyingStop } :=
  ⟨rfl, fun i => .inl (h.workers i), fun hne => absurd rfl hne⟩

theorem WorkersStopped.notify (h : WorkersStopped s) :
    WorkersStopped { s with workers := s.notifyAll, caller := .joining } := by
  refine ⟨h.stopping, fun i => ?_, fun _ i observed => ?_⟩
  · simp only [notifyAll]
    rcases h.workers i with hrests | hexited
    · rcases hrests.position with hposition | hposition
      · exact .inl (by rw [hposition]; rfl)
      · exact .inl (by rw [hposition]; rfl)
    · exact .inr (by rw [hexited]; rfl)
  · simp only [notifyAll]
    cases s.workers i <;> nofun

theorem WorkersStopped.join (h : WorkersStopped s) (hcaller : s.caller = .joining) :
    WorkersStopped { s with caller := .destroyed } :=
  ⟨h.stopping, h.workers, fun _ => h.notified (by simp [hcaller])⟩

/-- A run that returned: every block was called once, by the worker of its number, every call ended,
and the run threw what the lowest block that threw did. -/
structure RunRecord.Complete (count : ℕ) (r : RunRecord κ ε) (thrown : Option ε) : Prop where
  calls : r.calls.Perm (r.allCalls count)
  finished : r.finished.Perm (r.allFinished count)
  thrown : thrown = (List.range r.total).findSome? r.thrown

theorem RunRecord.complete_of_done {count : ℕ} (hcount : 0 < count) (howned : OwnCalls count r)
    (hdone : ∀ worker < count, Turn count r worker none) :
    r.Complete count ((List.range r.total).findSome? r.thrown) where
  calls := perm_of_ownBlocks (fun w b => (w, b, some r.job)) hcount howned.calls
    (fun w b b' h => by simpa using h) (fun _ _ => rfl) fun w hw => (hdone w hw).calls
  finished := perm_of_ownBlocks (fun w b => (w, b)) hcount howned.finished
    (fun w b b' h => by simpa using h) (fun _ _ => rfl) fun w hw => (hdone w hw).finished
  thrown := rfl

def Ledger.after (ledger : Ledger κ ε) (event : Option (ExecutorEvent κ ε)) : Ledger κ ε :=
  event.elim ledger ledger.record

/-- The events are those of a sequence of runs, and the runs that returned are complete. -/
structure Accounted (s : ExecutorSystem κ ε threads) (ledger : Ledger κ ε) : Prop where
  phase : Phase s ledger.current
  completed : ∀ entry ∈ ledger.completed, entry.1.Complete (threads + 1) entry.2
  stray : ledger.stray = []

theorem RunRecord.complete_empty {count points : ℕ} {job : κ}
    (htotal : CpuExecutor.blocks points = 0) :
    ({ job, points } : RunRecord κ ε).Complete count none :=
  ⟨by simp [RunRecord.allCalls, RunRecord.total, htotal],
    by simp [RunRecord.allFinished, RunRecord.total, htotal],
    by simp [RunRecord.total, htotal]⟩

section Ledgers

variable {ledger : Ledger κ ε}

theorem Accounted.silent (h : Accounted s ledger) (hphase : Phase next ledger.current) :
    Accounted next (ledger.after none) := ⟨hphase, h.completed, h.stray⟩

theorem Accounted.begins (h : Accounted s ledger) (hcurrent : ledger.current = none) {job : κ}
    {points : ℕ} (hphase : Phase next (some { job, points })) :
    Accounted next (ledger.after (some (.began job points))) := by
  have hledger : ledger.after (some (.began job points)) =
      { ledger with current := some { job, points } } := by
    simp [Ledger.after, Ledger.record, hcurrent]
  rw [hledger]
  exact ⟨hphase, h.completed, h.stray⟩

theorem Accounted.refuses (h : Accounted s ledger) (hcurrent : ledger.current = some r)
    (hphase : Phase next none) : Accounted next (ledger.after (some .refused)) := by
  have hledger : ledger.after (some .refused) = { ledger with current := none } := by
    simp [Ledger.after, Ledger.record, hcurrent]
  rw [hledger]
  exact ⟨hphase, h.completed, h.stray⟩

/-- A run that returns joins the complete ones. -/
theorem Accounted.returns (h : Accounted s ledger) (hcurrent : ledger.current = some r)
    (hphase : Phase next none) {thrown : Option ε} (hcomplete : r.Complete (threads + 1) thrown) :
    Accounted next (ledger.after (some (.returned thrown))) := by
  have hledger : ledger.after (some (.returned thrown)) =
      { ledger with current := none, completed := ledger.completed ++ [(r, thrown)] } := by
    simp [Ledger.after, Ledger.record, hcurrent]
  rw [hledger]
  refine ⟨hphase, ?_, h.stray⟩
  intro entry hentry
  rcases List.mem_append.mp hentry with hentry | hentry
  · exact h.completed entry hentry
  · rwa [List.mem_singleton.mp hentry]

end Ledgers

theorem Ledger.after_none {ledger : Ledger κ ε} (hcurrent : ledger.current = some r) :
    ledger.after none = { ledger with current := some (r.after none) } := by
  rw [RunRecord.after_none, ← hcurrent]
  rfl

/-- Steps of `execute` are seen in the run in progress. -/
theorem ExecuteStep.record {count worker : ℕ} {members members' : ExecutorMembers κ ε}
    {execution : Execution κ} {event : Option (ExecutorEvent κ ε)} {after : Option (Execution κ)}
    (h : ExecuteStep count worker members execution event members' after) {ledger : Ledger κ ε}
    (hcurrent : ledger.current = some r) :
    ledger.after event = { ledger with current := some (r.after event) } := by
  cases h with
  | enter hblock => exact Ledger.after_none hcurrent
  | leave hblock => exact Ledger.after_none hcurrent
  | call => simp [Ledger.after, Ledger.record, hcurrent]
  | finish thrown => simp [Ledger.after, Ledger.record, hcurrent]

theorem ExecutorSystem.WorkerStep.record {i : Fin threads} {event : Option (ExecutorEvent κ ε)}
    (h : WorkerStep s i event next) {ledger : Ledger κ ε} (hcurrent : ledger.current = some r) :
    ledger.after event = { ledger with current := some (r.after event) } := by
  cases h with
  | execute hposition hexecute => exact hexecute.record hcurrent
  | _ => exact Ledger.after_none hcurrent

theorem Accounted.worker {ledger : Ledger κ ε} (h : Accounted s ledger) {i : Fin threads}
    {event : Option (ExecutorEvent κ ε)} (hstep : WorkerStep s i event next) :
    Accounted next (ledger.after event) := by
  rcases h.phase.worker hstep with ⟨rfl, hphase⟩ | ⟨r, hcurrent, -, hnext⟩
  · exact ⟨hphase, h.completed, h.stray⟩
  · rw [hstep.record hcurrent]
    exact ⟨.running hnext, h.completed, h.stray⟩

theorem Accounted.caller {ledger : Ledger κ ε} (h : Accounted s ledger)
    {event : Option (ExecutorEvent κ ε)} (hstep : CallerStep s event next) :
    Accounted next (ledger.after event) := by
  have hphase := h.phase.at_caller
  cases hstep with
  | begin job points hcaller =>
    rw [hcaller] at hphase
    obtain ⟨hcurrent, hrested⟩ := hphase
    exact h.begins hcurrent (.starting rfl (hrested.of_members rfl rfl))
  | @returnEmpty job points hcaller htotal =>
    rw [hcaller] at hphase
    obtain ⟨hcurrent, hrested⟩ := hphase
    refine h.returns hcurrent (.idle rfl ?_) (RunRecord.complete_empty htotal)
    exact hrested.of_members rfl rfl
  | refuse errors hcaller htotal =>
    rw [hcaller] at hphase
    obtain ⟨hcurrent, hrested⟩ := hphase
    exact h.refuses hcurrent
      (.idle rfl ⟨hrested.job, hrested.pending, hrested.stopping, hrested.workers⟩)
  | @assign job points hcaller htotal =>
    rw [hcaller] at hphase
    obtain ⟨hcurrent, hrested⟩ := hphase
    apply h.silent
    rw [hcurrent]
    exact .publishing rfl ⟨hrested.job, hrested.pending, hrested.stopping, hrested.workers⟩ rfl
  | @publish job total hcaller =>
    rw [hcaller] at hphase
    obtain ⟨points, rfl, hcurrent, hrested, herrors⟩ := hphase
    apply h.silent
    rw [hcurrent]
    exact .running (hrested.publish herrors)
  | notify hcaller =>
    rw [hcaller] at hphase
    obtain ⟨r, hcurrent, hrun⟩ := hphase
    apply h.silent
    rw [hcurrent]
    exact .running (hrun.notify hcaller)
  | execute hcaller hexecute =>
    rw [hcaller] at hphase
    obtain ⟨r, hcurrent, hrun⟩ := hphase
    rw [hexecute.record hcurrent]
    exact ⟨.running (hrun.execute hcaller hexecute), h.completed, h.stray⟩
  | sleep hcaller hpending =>
    rw [hcaller] at hphase
    obtain ⟨r, hcurrent, hrun⟩ := hphase
    apply h.silent
    rw [hcurrent]
    exact .running (hrun.wait (.inl hcaller) (.inr rfl) fun _ => hpending)
  | leave hcaller hpending =>
    rw [hcaller] at hphase
    obtain ⟨r, hcurrent, hrun⟩ := hphase
    obtain ⟨hrested, hdone⟩ := hrun.leave hcaller hpending
    apply h.silent
    rw [hcurrent]
    exact .rethrowing rfl hrested hrun.owned hdone hrun.published.errors
  | wake hcaller =>
    rw [hcaller] at hphase
    obtain ⟨r, hcurrent, hrun⟩ := hphase
    apply h.silent
    rw [hcurrent]
    exact .running (hrun.wait (.inr hcaller) (.inl rfl) nofun)
  | rethrow hcaller =>
    rw [hcaller] at hphase
    obtain ⟨r, hcurrent, hrested, howned, hdone, herrors⟩ := hphase
    have hthrown : s.members.errors.findSome? id = (List.range r.total).findSome? r.thrown := by
      rw [herrors, List.findSome?_map]
      rfl
    rw [hthrown]
    refine h.returns hcurrent (.idle rfl ?_)
      (RunRecord.complete_of_done (Nat.succ_pos _) howned hdone)
    exact hrested.of_members rfl rfl
  | stop hcaller =>
    rw [hcaller] at hphase
    obtain ⟨hcurrent, hrested⟩ := hphase
    apply h.silent
    rw [hcurrent]
    exact .stopping (.inl rfl) hrested.stop
  | notifyStop hcaller =>
    rw [hcaller] at hphase
    obtain ⟨hcurrent, hstopped⟩ := hphase
    apply h.silent
    rw [hcurrent]
    exact .stopping (.inr (.inl rfl)) hstopped.notify
  | join hcaller hexited =>
    rw [hcaller] at hphase
    obtain ⟨hcurrent, hstopped⟩ := hphase
    apply h.silent
    rw [hcurrent]
    exact .stopping (.inr (.inr rfl)) (hstopped.join hcaller)

end Steps

/-- Whatever the order of the steps, the events are accounted for. -/
theorem Accounted.steps {threads : ℕ} {s next : ExecutorSystem κ ε threads} {ledger : Ledger κ ε}
    (h : Accounted s ledger) {events : List (ExecutorEvent κ ε)}
    (hsteps : ExecutorSystem.Steps s events next) :
    Accounted next (events.foldl Ledger.record ledger) := by
  induction hsteps with
  | nil => exact h
  | @concat events s next event hsteps hstep ih =>
    have hledger : (events ++ event.toList).foldl Ledger.record ledger =
        (events.foldl Ledger.record ledger).after event := by
      cases event <;> simp [Ledger.after]
    rw [hledger]
    cases hstep with
    | worker i hstep => exact ih.worker hstep
    | caller hstep => exact ih.caller hstep

theorem accounted_initial (κ ε : Type) (threads : ℕ) :
    Accounted (ExecutorSystem.initial κ ε threads) {} :=
  ⟨.idle rfl ⟨rfl, rfl, rfl, fun _ => rfl⟩, nofun, rfl⟩

end PointcloudAd.Registration
