import PointcloudAd.Registration.ExecutorSafety

/-!
# An executor between two runs is a fresh one

Generations are only compared with each other, and a thread that sleeps may always wake up. So an
executor between two runs shows the same events, in the same orders, as one that was just
constructed.
-/

namespace PointcloudAd.Registration

variable {κ ε : Type}

/-- A position with all generations moved by an offset. -/
def WorkerPosition.shift (offset : UInt64) : WorkerPosition κ → WorkerPosition κ
  | .ready observed => .ready (observed + offset)
  | .asleep observed => .asleep (observed + offset)
  | .executing observed execution => .executing (observed + offset) execution
  | .finishing observed => .finishing (observed + offset)
  | .exited => .exited

/-- Whether the threads read the members that a run publishes. -/
def CallerPosition.inRun : CallerPosition κ → Bool
  | .notifying => true
  | .executing _ => true
  | .waiting => true
  | .asleep => true
  | _ => false

/-- Whether the places of the exceptions are read before they are assigned again. -/
def CallerPosition.readsErrors : CallerPosition κ → Bool
  | .publishing _ _ => true
  | .rethrowing => true
  | position => position.inRun

/-- Two systems that differ in their generations, in which threads sleep, and in members that are
written before they are read. -/
structure Alike {threads : ℕ} (offset : UInt64) (s t : ExecutorSystem κ ε threads) : Prop where
  generation : t.members.generation = s.members.generation + offset
  pending : t.members.pending = s.members.pending
  job : t.members.job = s.members.job
  stopping : t.members.stopping = s.members.stopping
  workers : ∀ i, (t.workers i).notified = ((s.workers i).shift offset).notified
  caller : t.caller.notified = s.caller.notified
  blocks : s.caller.inRun = true → t.members.blocks = s.members.blocks
  errors : s.caller.readsErrors = true → t.members.errors = s.members.errors

section Positions

@[simp] theorem WorkerPosition.notified_notified (position : WorkerPosition κ) :
    position.notified.notified = position.notified := by
  cases position <;> rfl

@[simp] theorem CallerPosition.notified_notified (position : CallerPosition κ) :
    position.notified.notified = position.notified := by
  cases position <;> rfl

@[simp] theorem CallerPosition.inRun_notified (position : CallerPosition κ) :
    position.notified.inRun = position.inRun := by
  cases position <;> rfl

@[simp] theorem CallerPosition.readsErrors_notified (position : CallerPosition κ) :
    position.notified.readsErrors = position.readsErrors := by
  cases position <;> rfl

@[simp] theorem WorkerPosition.shift_notified (offset : UInt64) (position : WorkerPosition κ) :
    position.notified.shift offset = (position.shift offset).notified := by
  cases position <;> rfl

theorem WorkerPosition.shift_neg (offset : UInt64) (position : WorkerPosition κ) :
    (position.shift offset).shift (-offset) = position := by
  have hback : ∀ observed : UInt64, observed + offset + -offset = observed := by grind
  cases position <;> simp only [shift, hback]

theorem CallerPosition.readsErrors_of_inRun {position : CallerPosition κ}
    (h : position.inRun = true) : position.readsErrors = true := by
  cases position <;> first | exact h | rfl

end Positions

section Steps

open ExecutorSystem

variable {threads : ℕ} {offset : UInt64} {s s' t : ExecutorSystem κ ε threads}

theorem Alike.symm (h : Alike offset s t) : Alike (-offset) t s := by
  have hinRun : t.caller.inRun = s.caller.inRun := by
    rw [← t.caller.inRun_notified, h.caller, s.caller.inRun_notified]
  have hreads : t.caller.readsErrors = s.caller.readsErrors := by
    rw [← t.caller.readsErrors_notified, h.caller, s.caller.readsErrors_notified]
  constructor
  · rw [h.generation]
    grind
  · exact h.pending.symm
  · exact h.job.symm
  · exact h.stopping.symm
  · intro i
    rw [← WorkerPosition.shift_notified, h.workers i, WorkerPosition.shift_notified,
      WorkerPosition.shift_neg]
  · exact h.caller.symm
  · intro hcaller
    exact (h.blocks (hinRun ▸ hcaller)).symm
  · intro hcaller
    exact (h.errors (hreads ▸ hcaller)).symm

theorem ExecutorSystem.Steps.trans {events later : List (ExecutorEvent κ ε)}
    (h : Steps s events s') (h' : Steps s' later t) : Steps s (events ++ later) t := by
  induction h' with
  | nil => simpa using h
  | concat hsteps hstep ih =>
    rw [← List.append_assoc]
    exact ih.concat hstep

theorem ExecutorSystem.Step.steps {event : Option (ExecutorEvent κ ε)} (h : Step s event s') :
    Steps s event.toList s' :=
  Steps.nil.concat h

theorem rouse_worker {i : Fin threads} {observed : UInt64}
    (h : (t.workers i).notified = .ready observed) :
    Steps t [] { t with workers := Function.update t.workers i (.ready observed) } := by
  cases hposition : t.workers i with
  | ready later =>
    rw [hposition] at h
    rw [← h]
    have hsame : Function.update t.workers i (WorkerPosition.ready later) = t.workers := by
      rw [← hposition, Function.update_eq_self]
    simp only [WorkerPosition.notified, hsame]
    exact .nil
  | asleep later =>
    rw [hposition] at h
    injection h with h
    subst h
    exact (Step.worker i (.wake hposition)).steps
  | _ =>
    rw [hposition] at h
    cases h

theorem rouse_caller (h : t.caller.notified = .waiting) :
    Steps t [] { t with caller := .waiting } := by
  cases hcaller : t.caller with
  | waiting =>
    rw [← hcaller]
    exact .nil
  | asleep => exact (Step.caller (.wake hcaller)).steps
  | _ =>
    rw [hcaller] at h
    cases h

theorem await_shift {members members' : ExecutorMembers κ ε}
    (hgeneration : members'.generation = members.generation + offset)
    (hstopping : members'.stopping = members.stopping) (worker : ℕ) (observed : UInt64) :
    members'.await worker (observed + offset) = (members.await worker observed).shift offset := by
  have hcancel : members.generation + offset = observed + offset ↔
      members.generation = observed := by
    constructor
    · intro h
      grind
    · intro h
      rw [h]
  simp only [ExecutorMembers.await, hgeneration, hstopping, ne_eq, hcancel]
  split_ifs <;> rfl

/-- The same worker takes like positions. -/
theorem Alike.update (h : Alike offset s t) (i : Fin threads)
    {position position' : WorkerPosition κ}
    (hposition : position'.notified = (position.shift offset).notified) :
    Alike offset { s with workers := Function.update s.workers i position }
      { t with workers := Function.update t.workers i position' } where
  generation := h.generation
  pending := h.pending
  job := h.job
  stopping := h.stopping
  workers := by
    intro j
    by_cases hj : j = i
    · subst hj
      simpa using hposition
    · simpa [hj] using h.workers j
  caller := h.caller
  blocks := h.blocks
  errors := h.errors

/-- A step of `execute` on members that agree on what it reads. -/
theorem ExecuteStep.alike {count worker : ℕ} {members members' read : ExecutorMembers κ ε}
    {execution : Execution κ} {event : Option (ExecutorEvent κ ε)} {next : Option (Execution κ)}
    (h : ExecuteStep count worker members execution event members' next)
    (hjob : read.job = members.job) (hblocks : read.blocks = members.blocks)
    (herrors : read.errors = members.errors) :
    ExecuteStep count worker read execution event { read with errors := members'.errors } next ∧
      members' = { members with errors := members'.errors } := by
  cases h with
  | enter hblock =>
    rw [← herrors]
    exact ⟨.enter (hblocks ▸ hblock), by rw [herrors]⟩
  | leave hblock =>
    rw [← herrors]
    exact ⟨.leave (hblocks ▸ hblock), by rw [herrors]⟩
  | @call block =>
    constructor
    · rw [← herrors, ← hjob]
      exact .call
    · rfl
  | @finish block job thrown =>
    have hrecord : ({ read with errors := (members.record block thrown).errors } :
        ExecutorMembers κ ε) = read.record block thrown := by
      cases thrown <;> simp [ExecutorMembers.record, ← herrors]
    rw [hrecord]
    refine ⟨.finish thrown, ?_⟩
    cases thrown <;> rfl

theorem Alike.write (h : Alike offset s t) (errors : List (Option ε)) :
    Alike offset { s with members := { s.members with errors } }
      { t with members := { t.members with errors } } :=
  ⟨h.generation, h.pending, h.job, h.stopping, h.workers, h.caller, h.blocks, fun _ => rfl⟩

theorem CallerTurn.inRun {count : ℕ} {r : RunRecord κ ε} {position : CallerPosition κ}
    (h : CallerTurn count r position) : position.inRun = true := by
  cases position <;> first | rfl | exact h.elim

theorem Phase.inRun {current : Option (RunRecord κ ε)} (h : Phase s current) {i : Fin threads}
    (hrests : ¬ (s.workers i).Rests s.members.generation) (hexited : s.workers i ≠ .exited) :
    s.caller.inRun = true := by
  cases h with
  | idle hcaller h => exact absurd (h.workers i) hrests
  | starting hcaller h => exact absurd (h.workers i) hrests
  | publishing hcaller h herrors => exact absurd (h.workers i) hrests
  | running h => exact h.caller.inRun
  | rethrowing hcaller h howned hdone herrors => exact absurd (h.workers i) hrests
  | stopping hcaller h => exact absurd ((h.workers i).resolve_right hexited) hrests

theorem Alike.finishWorker (h : Alike offset s t) (i : Fin threads) (observed : UInt64) :
    Alike offset (s.finishWorker i observed) (t.finishWorker i (observed + offset)) := by
  have hinRun : (s.finishWorker i observed).caller.inRun = s.caller.inRun := by
    simp only [ExecutorSystem.finishWorker]
    split_ifs
    · exact s.caller.inRun_notified
    · rfl
  have hreads : (s.finishWorker i observed).caller.readsErrors = s.caller.readsErrors := by
    simp only [ExecutorSystem.finishWorker]
    split_ifs
    · exact s.caller.readsErrors_notified
    · rfl
  constructor
  · exact h.generation
  · exact congrArg (· - 1) h.pending
  · exact h.job
  · exact h.stopping
  · intro j
    simp only [ExecutorSystem.finishWorker]
    by_cases hj : j = i
    · subst hj
      simp only [Function.update_self]
      rw [await_shift]
      · exact h.generation
      · exact h.stopping
    · simpa [hj] using h.workers j
  · simp only [ExecutorSystem.finishWorker, h.pending]
    split_ifs
    · simpa using h.caller
    · exact h.caller
  · intro hcaller
    exact h.blocks (hinRun ▸ hcaller)
  · intro hcaller
    exact h.errors (hreads ▸ hcaller)

/-- A step of a worker has its like, after the worker woke up where it has to. -/
theorem Alike.worker (h : Alike offset s t) {current : Option (RunRecord κ ε)}
    (hphase : Phase s current) {i : Fin threads} {event : Option (ExecutorEvent κ ε)}
    (hstep : WorkerStep s i event s') : ∃ t', Steps t event.toList t' ∧ Alike offset s' t' := by
  have hworker := h.workers i
  cases hstep with
  | @await observed hposition =>
    rw [hposition] at hworker
    have hstep : WorkerStep _ i none _ :=
      .await (s := { t with workers := Function.update t.workers i (.ready (observed + offset)) })
        (Function.update_self ..)
    refine ⟨_, (rouse_worker hworker).concat (.worker i hstep), ?_⟩
    simp only [Function.update_idem, await_shift h.generation h.stopping]
    exact h.update i rfl
  | @wake observed hposition =>
    rw [hposition] at hworker
    have hupdate : Alike offset { s with workers := Function.update s.workers i (.ready observed) }
        { t with workers := Function.update t.workers i (t.workers i) } := h.update i hworker
    rw [Function.update_eq_self] at hupdate
    exact ⟨t, .nil, hupdate⟩
  | @execute observed execution event members after hposition hexecute =>
    have hposition' : t.workers i = .executing (observed + offset) execution := by
      rw [hposition] at hworker
      cases hother : t.workers i <;>
        simp_all [WorkerPosition.notified, WorkerPosition.shift]
    have hinRun : s.caller.inRun = true := by
      apply hphase.inRun (i := i)
      · rw [hposition]
        exact id
      · rw [hposition]
        intro hwaiting
        cases hwaiting
    obtain ⟨hlike, hmembers⟩ := hexecute.alike h.job (h.blocks hinRun)
      (h.errors (CallerPosition.readsErrors_of_inRun hinRun))
    refine ⟨_, (Step.worker i (.execute hposition' hlike)).steps, ?_⟩
    rw [hmembers]
    apply (h.write members.errors).update i
    cases after <;> rfl
  | @finish observed hposition =>
    have hposition' : t.workers i = .finishing (observed + offset) := by
      rw [hposition] at hworker
      cases hother : t.workers i <;>
        simp_all [WorkerPosition.notified, WorkerPosition.shift]
    exact ⟨_, (Step.worker i (.finish hposition')).steps, h.finishWorker i observed⟩

theorem Alike.caller_eq (h : Alike offset s t) {position : CallerPosition κ}
    (hcaller : s.caller = position) (hwaits : position.notified ≠ .waiting) :
    t.caller = position := by
  have hlike := h.caller
  rw [hcaller] at hlike
  cases position <;> cases ht : t.caller <;> simp_all [CallerPosition.notified]

theorem Alike.turn (h : Alike offset s t) {position position' : CallerPosition κ}
    (hposition : position'.notified = position.notified)
    (hblocks : position.inRun = true → t.members.blocks = s.members.blocks)
    (herrors : position.readsErrors = true → t.members.errors = s.members.errors) :
    Alike offset { s with caller := position } { t with caller := position' } :=
  ⟨h.generation, h.pending, h.job, h.stopping, h.workers, hposition, hblocks, herrors⟩

theorem Alike.notifyAll (h : Alike offset s t) :
    Alike offset { s with workers := s.notifyAll } { t with workers := t.notifyAll } := by
  refine ⟨h.generation, h.pending, h.job, h.stopping, fun i => ?_, h.caller, h.blocks, h.errors⟩
  simpa [ExecutorSystem.notifyAll] using h.workers i

theorem Alike.publish (h : Alike offset s t) (herrors : t.members.errors = s.members.errors)
    (job : κ) (total pending : ℕ) :
    Alike offset
      { s with
        members := { s.members with
          job := some job, blocks := total, pending, generation := s.members.generation + 1 }
        caller := .notifying }
      { t with
        members := { t.members with
          job := some job, blocks := total, pending, generation := t.members.generation + 1 }
        caller := .notifying } := by
  refine ⟨?_, rfl, rfl, h.stopping, h.workers, rfl, fun _ => rfl, fun _ => herrors⟩
  simp only [h.generation]
  grind

theorem Alike.stop (h : Alike offset s t) :
    Alike offset
      { s with members := { s.members with stopping := true }, caller := .notifyingStop }
      { t with members := { t.members with stopping := true }, caller := .notifyingStop } :=
  ⟨h.generation, h.pending, h.job, rfl, h.workers, rfl, (fun hin => by cases hin),
    fun hreads => by cases hreads⟩

/-- The caller leaves its wait, after it woke up where it has to. -/
theorem Alike.leave (h : Alike offset s t) (hcaller : s.caller = .waiting)
    (hpending : s.members.pending = 0) : ∃ t', Steps t [] t' ∧
      Alike offset { s with members := { s.members with job := none }, caller := .rethrowing }
        t' := by
  have hwaits := h.caller
  rw [hcaller] at hwaits
  refine ⟨_, (rouse_caller hwaits).concat (.caller (.leave rfl (h.pending.trans hpending))), ?_⟩
  refine ⟨h.generation, h.pending, rfl, h.stopping, h.workers, rfl, (fun hin => by cases hin),
    fun _ => ?_⟩
  exact h.errors (by simp [hcaller, CallerPosition.readsErrors, CallerPosition.inRun])

theorem Alike.exited (h : Alike offset s t) {i : Fin threads} (hexited : s.workers i = .exited) :
    t.workers i = .exited := by
  have hworker := h.workers i
  rw [hexited] at hworker
  cases hposition : t.workers i <;> simp_all [WorkerPosition.notified, WorkerPosition.shift]

/-- A step of the caller has its like, after the caller woke up where it has to. -/
theorem Alike.callerStep (h : Alike offset s t) {event : Option (ExecutorEvent κ ε)}
    (hstep : CallerStep s event s') : ∃ t', Steps t event.toList t' ∧ Alike offset s' t' := by
  have hblocks : s.caller.inRun = true → t.members.blocks = s.members.blocks := h.blocks
  have herrors : s.caller.readsErrors = true → t.members.errors = s.members.errors := h.errors
  cases hstep with
  | begin job points hcaller =>
    have ht := h.caller_eq hcaller nofun
    exact ⟨_, (Step.caller (.begin job points ht)).steps, h.turn rfl nofun nofun⟩
  | returnEmpty hcaller htotal =>
    have ht := h.caller_eq hcaller nofun
    exact ⟨_, (Step.caller (.returnEmpty ht htotal)).steps, h.turn rfl nofun nofun⟩
  | refuse errors hcaller htotal =>
    have ht := h.caller_eq hcaller nofun
    exact ⟨_, (Step.caller (.refuse errors ht htotal)).steps,
      (h.write errors).turn rfl nofun nofun⟩
  | assign hcaller htotal =>
    have ht := h.caller_eq hcaller nofun
    exact ⟨_, (Step.caller (.assign ht htotal)).steps,
      (h.write _).turn rfl nofun fun _ => rfl⟩
  | publish hcaller =>
    have ht := h.caller_eq hcaller nofun
    rw [hcaller] at herrors
    exact ⟨_, (Step.caller (.publish ht)).steps, h.publish (herrors rfl) _ _ _⟩
  | notify hcaller =>
    have ht := h.caller_eq hcaller nofun
    rw [hcaller] at hblocks herrors
    exact ⟨_, (Step.caller (.notify ht)).steps,
      h.notifyAll.turn rfl (fun _ => hblocks rfl) fun _ => herrors rfl⟩
  | @execute execution event members after hcaller hexecute =>
    have ht := h.caller_eq hcaller nofun
    rw [hcaller] at hblocks herrors
    obtain ⟨hlike, hmembers⟩ := hexecute.alike h.job (hblocks rfl) (herrors rfl)
    refine ⟨_, (Step.caller (.execute ht hlike)).steps, ?_⟩
    rw [hmembers]
    exact (h.write members.errors).turn rfl (fun _ => hblocks rfl) fun _ => rfl
  | sleep hcaller hpending =>
    refine ⟨t, .nil, h.turn ?_ ?_ ?_⟩
    · rw [h.caller, hcaller]
      rfl
    · exact fun _ => hblocks (by rw [hcaller]; rfl)
    · exact fun _ => herrors (by rw [hcaller]; rfl)
  | leave hcaller hpending => exact h.leave hcaller hpending
  | wake hcaller =>
    refine ⟨t, .nil, h.turn ?_ ?_ ?_⟩
    · rw [h.caller, hcaller]
      rfl
    · exact fun _ => hblocks (by rw [hcaller]; rfl)
    · exact fun _ => herrors (by rw [hcaller]; rfl)
  | rethrow hcaller =>
    have ht := h.caller_eq hcaller nofun
    rw [hcaller] at herrors
    rw [← herrors rfl]
    exact ⟨_, (Step.caller (.rethrow ht)).steps, h.turn rfl nofun nofun⟩
  | stop hcaller =>
    have ht := h.caller_eq hcaller nofun
    exact ⟨_, (Step.caller (.stop ht)).steps, h.stop⟩
  | notifyStop hcaller =>
    have ht := h.caller_eq hcaller nofun
    exact ⟨_, (Step.caller (.notifyStop ht)).steps, h.notifyAll.turn rfl nofun nofun⟩
  | join hcaller hexited =>
    have ht := h.caller_eq hcaller nofun
    exact ⟨_, (Step.caller (.join ht fun i => h.exited (hexited i))).steps,
      h.turn rfl nofun nofun⟩

/-- Alike systems show the same events. -/
theorem Alike.steps (h : Alike offset s t) {ledger : Ledger κ ε} (haccounted : Accounted s ledger)
    {events : List (ExecutorEvent κ ε)} (hsteps : Steps s events s') :
    ∃ t', Steps t events t' ∧ Alike offset s' t' := by
  induction hsteps with
  | nil => exact ⟨t, .nil, h⟩
  | @concat events s' next event hsteps hstep ih =>
    obtain ⟨t', hsteps', hlike⟩ := ih
    cases hstep with
    | worker i hstep =>
      obtain ⟨t'', hnext, hlike⟩ := hlike.worker (haccounted.steps hsteps).phase hstep
      exact ⟨t'', hsteps'.trans hnext, hlike⟩
    | caller hstep =>
      obtain ⟨t'', hnext, hlike⟩ := hlike.callerStep hstep
      exact ⟨t'', hsteps'.trans hnext, hlike⟩

/-- Between two runs the executor is like a fresh one. -/
theorem Rested.alike (h : Rested s) (hcaller : s.caller = .idle) :
    Alike (-s.members.generation) s (initial κ ε threads) := by
  have hzero : s.members.generation + -s.members.generation = 0 := by grind
  constructor
  · exact hzero.symm
  · exact h.pending.symm
  · exact h.job.symm
  · exact h.stopping.symm
  · intro i
    rcases (h.workers i).position with hposition | hposition
    · simp [hposition, initial, WorkerPosition.shift, WorkerPosition.notified, hzero]
    · simp [hposition, initial, WorkerPosition.shift, WorkerPosition.notified, hzero]
  · rw [hcaller]
    rfl
  · simp [hcaller, CallerPosition.inRun]
  · simp [hcaller, CallerPosition.readsErrors, CallerPosition.inRun]

theorem renewed {events : List (ExecutorEvent κ ε)} (hsteps : Steps (initial κ ε threads) events s)
    (hcaller : s.caller = .idle) (later : List (ExecutorEvent κ ε)) :
    (∃ next, Steps s later next) ↔ ∃ next, Steps (initial κ ε threads) later next := by
  have haccounted := (accounted_initial κ ε threads).steps hsteps
  have hphase := haccounted.phase.at_caller
  rw [hcaller] at hphase
  have halike := hphase.2.alike hcaller
  constructor
  · rintro ⟨next, hlater⟩
    obtain ⟨next', hlater', -⟩ := halike.steps haccounted hlater
    exact ⟨next', hlater'⟩
  · rintro ⟨next, hlater⟩
    obtain ⟨next', hlater', -⟩ := halike.symm.steps (accounted_initial κ ε threads) hlater
    exact ⟨next', hlater'⟩

theorem InRun.progress {r : RunRecord κ ε} (h : InRun s r) {worker : ℕ}
    (hworker : worker < threads + 1) :
    ∃ started ended, Progress (threads + 1) r worker started ended := by
  cases worker with
  | zero =>
    have hturn := h.caller
    cases hcaller : s.caller <;> rw [hcaller] at hturn <;> first
      | exact hturn.elim
      | exact ⟨_, _, hturn⟩
      | exact ⟨_, _, hturn.2⟩
  | succ i =>
    have hturn := h.workers ⟨i, Nat.lt_of_succ_lt_succ hworker⟩
    cases hposition : s.workers ⟨i, Nat.lt_of_succ_lt_succ hworker⟩ with
    | ready observed =>
      rw [hposition] at hturn
      rcases hturn with ⟨-, hturn⟩ | ⟨-, hturn⟩
      · exact ⟨_, _, hturn⟩
      · exact ⟨_, _, hturn⟩
    | asleep observed =>
      rw [hposition] at hturn
      rcases hturn with ⟨-, hturn⟩ | ⟨-, hturn⟩
      · exact ⟨_, _, hturn⟩
      · exact ⟨_, _, hturn⟩
    | executing observed execution =>
      rw [hposition] at hturn
      exact ⟨_, _, hturn.2.2⟩
    | finishing observed =>
      rw [hposition] at hturn
      exact ⟨_, _, hturn.2⟩
    | exited =>
      rw [hposition] at hturn
      exact hturn.elim

/-- In every run no block has been called twice, or by another thread than its own. -/
theorem Phase.calls {r : RunRecord κ ε} (h : Phase s (some r)) :
    r.calls.Subperm (r.allCalls (threads + 1)) := by
  have hnew : ∀ job points, (({ job, points } : RunRecord κ ε).calls).Subperm
      (({ job, points } : RunRecord κ ε).allCalls (threads + 1)) := fun _ _ => List.nil_subperm
  cases h with
  | starting hcaller h => exact hnew _ _
  | publishing hcaller h herrors => exact hnew _ _
  | running h =>
    apply subperm_of_ownBlocks (fun w b => (w, b, some r.job)) h.owned.calls
    · intro worker b b' heq
      simpa using heq
    · intro worker hworker
      obtain ⟨started, ended, hprogress⟩ := h.progress hworker
      exact ⟨started, hprogress.calls⟩
  | rethrowing hcaller h howned hdone herrors =>
    exact (RunRecord.complete_of_done (Nat.succ_pos _) howned hdone).calls.subperm

theorem InRun.awake {r : RunRecord κ ε} (h : InRun s r) (hcaller : s.caller = .asleep) :
    ∃ i, ∀ observed, s.workers i ≠ .asleep observed := by
  have hpending := h.callerAsleep hcaller
  rw [h.pending] at hpending
  obtain ⟨i, -, hi⟩ := Finset.exists_ne_zero_of_sum_ne_zero hpending
  refine ⟨i, fun observed hposition => ?_⟩
  rw [hposition] at hi
  have hne : observed ≠ s.members.generation := by
    rintro rfl
    simp [WorkerPosition.unfinished] at hi
  have hnotifying := h.unnotified i observed hposition hne
  rw [hcaller] at hnotifying
  cases hnotifying

end Steps

open ExecutorSystem in
/-- Whatever runs were made, and in whatever order the threads took their steps: the runs that
returned have called every block once, by the worker of its number, and threw what the lowest block
that threw did; no block of the run in progress was called twice; a worker that executes reads the
job and the blocks of the run in progress, and all workers have finished when the caller leaves its
wait; and an executor between two runs shows what a fresh one shows. -/
theorem executor_safe {threads : ℕ} {events : List (ExecutorEvent κ ε)}
    {s : ExecutorSystem κ ε threads} (hsteps : Steps (initial κ ε threads) events s) :
    (∀ r thrown, (r, thrown) ∈ (ledgerOf events).completed →
      r.calls.Perm ((List.range (CpuExecutor.blocks r.points)).map fun b =>
        (b % (threads + 1), b, some r.job)) ∧
      r.finished.Perm ((List.range (CpuExecutor.blocks r.points)).map fun b =>
        (b % (threads + 1), b)) ∧
      thrown = (List.range (CpuExecutor.blocks r.points)).findSome? r.thrown) ∧
    (∀ r, (ledgerOf events).current = some r →
      r.calls.Subperm ((List.range (CpuExecutor.blocks r.points)).map fun b =>
        (b % (threads + 1), b, some r.job))) ∧
    (ledgerOf events).stray = [] ∧
    (s.caller = .rethrowing → ∀ i, s.workers i = .ready s.members.generation ∨
      s.workers i = .asleep s.members.generation) ∧
    (∀ i observed execution, s.workers i = .executing observed execution →
      observed = s.members.generation ∧ ∃ r, (ledgerOf events).current = some r ∧
        s.members.job = some r.job ∧ s.members.blocks = CpuExecutor.blocks r.points ∧
        ∀ block job, execution = .running block job → job = some r.job) ∧
    ¬ ((s.caller = .waiting ∨ s.caller = .asleep) ∧ 0 < s.members.pending ∧
      ∀ i, s.workers i = .asleep s.members.generation) ∧
    (s.caller = .asleep → ∃ i, ∀ observed, s.workers i ≠ .asleep observed) ∧
    (s.caller = .idle → ∀ later, (∃ next, Steps s later next) ↔
      ∃ next, Steps (initial κ ε threads) later next) := by
  have haccounted := (accounted_initial κ ε threads).steps hsteps
  have hphase := haccounted.phase.at_caller
  have hinRun : s.caller.inRun = true → ∃ r, (ledgerOf events).current = some r ∧ InRun s r := by
    intro hcaller
    cases hposition : s.caller <;> rw [hposition] at hphase hcaller <;> first
      | exact hphase
      | exact absurd hcaller Bool.false_ne_true
  refine ⟨fun r thrown hr => ?_, fun r hr => ?_, haccounted.stray, fun hcaller i => ?_,
    fun i observed execution hposition => ?_, ?_, fun hcaller => ?_, renewed hsteps⟩
  · have hcomplete := haccounted.completed (r, thrown) hr
    exact ⟨hcomplete.calls, hcomplete.finished, hcomplete.thrown⟩
  · have hcurrent := haccounted.phase
    rw [show (events.foldl Ledger.record {}).current = some r from hr] at hcurrent
    exact hcurrent.calls
  · rw [hcaller] at hphase
    obtain ⟨r, -, hrested, -⟩ := hphase
    exact (hrested.workers i).position
  · obtain ⟨r, hcurrent, hrun⟩ :=
      hinRun (haccounted.phase.inRun (i := i) (by rw [hposition]; exact id)
      (by rw [hposition]; intro hwaiting; cases hwaiting))
    have hturn := hrun.workers i
    rw [hposition] at hturn
    refine ⟨hturn.1, r, hcurrent, hrun.published.job, hrun.published.blocks, ?_⟩
    rintro block job rfl
    exact hturn.2.1.2.2
  · rintro ⟨hcaller, hpending, hasleep⟩
    obtain ⟨r, -, hrun⟩ :=
      hinRun (by rcases hcaller with hcaller | hcaller <;> rw [hcaller] <;> rfl)
    rw [hrun.pending] at hpending
    simp [hasleep, WorkerPosition.unfinished] at hpending
  · rw [hcaller] at hphase
    obtain ⟨r, -, hrun⟩ := hphase
    exact hrun.awake hcaller

open ExecutorSystem in
/-- One worker, which is slow to begin, and two blocks, of which the first one throws. -/
theorem executor_safe_two_blocks : ∃ (events : List (ExecutorEvent Unit ℕ))
    (s : ExecutorSystem Unit ℕ 1), Steps (initial Unit ℕ 1) events s ∧
      (∃ r, (ledgerOf events).completed = [(r, some 7)] ∧
        r.calls.Perm [(0, 0, some ()), (1, 1, some ())]) ∧
      ∀ later, (∃ next, Steps s later next) ↔ ∃ next, Steps (initial Unit ℕ 1) later next := by
  have h := (Steps.nil : Steps (initial Unit ℕ 1) [] _)
  have h := h.concat (.caller (.begin () 300 rfl))
  have h := h.concat (.caller (.assign rfl (by decide)))
  have h := h.concat (.caller (.publish rfl))
  have h := h.concat (.caller (.notify rfl))
  have h := h.concat (.caller (.execute rfl (.enter (by decide))))
  have h := h.concat (.caller (.execute rfl .call))
  have h := h.concat (.caller (.execute rfl (.finish (some 7))))
  have h := h.concat (.caller (.execute rfl (.leave (by decide))))
  have h := h.concat (.caller (.sleep rfl (by decide)))
  have h := h.concat (.worker 0 (.await rfl))
  have h := h.concat (.worker 0 (.execute rfl (.enter (by decide))))
  have h := h.concat (.worker 0 (.execute rfl .call))
  have h := h.concat (.worker 0 (.execute rfl (.finish none)))
  have h := h.concat (.worker 0 (.execute rfl (.leave (by decide))))
  have h := h.concat (.worker 0 (.finish rfl))
  have h := h.concat (.caller (.leave rfl rfl))
  have h := h.concat (.caller (.rethrow rfl))
  obtain ⟨hcompleted, -, -, -, -, -, -, hrenewed⟩ := executor_safe h
  exact ⟨_, _, h, ⟨_, rfl, (hcompleted _ _ (List.mem_singleton_self _)).1⟩, hrenewed rfl⟩

end PointcloudAd.Registration
