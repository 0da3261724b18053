import PointcloudAd.Registration.CpuExecutor

/-!
# The executor's protocol

The caller of a run and the workers share the members of an executor. A critical section is one
step; what a thread does outside of the mutex takes steps of its own, and any thread may be the next
to take one. A thread that waits may also wake up without being notified.
-/

namespace PointcloudAd.Registration

variable {κ ε : Type}

/-- The members of an executor apart from its threads. -/
structure ExecutorMembers (κ ε : Type) where
  generation : UInt64 := 0
  pending : ℕ := 0
  job : Option κ := none
  blocks : ℕ := 0
  stopping : Bool := false
  errors : List (Option ε) := []

/-- Where a thread is in `execute`: about to compare a block with the number of blocks, about to
call the job, or in the call. -/
inductive Execution (κ : Type) where
  | testing (block : ℕ)
  | calling (block : ℕ)
  | running (block : ℕ) (job : Option κ)

/-- Where a worker is: about to take the mutex and test whether to wait, waiting, in `execute`, or
about to take the mutex and count itself as finished. -/
inductive WorkerPosition (κ : Type) where
  | ready (observed : UInt64)
  | asleep (observed : UInt64)
  | executing (observed : UInt64) (execution : Execution κ)
  | finishing (observed : UInt64)
  | exited

/-- Where the owner of the executor is: between two runs, in a run, or in the destructor. -/
inductive CallerPosition (κ : Type) where
  | idle
  | starting (job : κ) (points : ℕ)
  | publishing (job : κ) (total : ℕ)
  | notifying
  | executing (execution : Execution κ)
  | waiting
  | asleep
  | rethrowing
  | notifyingStop
  | joining
  | destroyed

/-- What a run shows: its begin, an allocation that failed, the calls of its job on the blocks, by
worker, with what they throw, and what the run throws itself. -/
inductive ExecutorEvent (κ ε : Type) where
  | began (job : κ) (points : ℕ)
  | refused
  | called (worker block : ℕ) (job : Option κ)
  | finished (worker block : ℕ) (thrown : Option ε)
  | returned (thrown : Option ε)

structure ExecutorSystem (κ ε : Type) (threads : ℕ) where
  members : ExecutorMembers κ ε
  workers : Fin threads → WorkerPosition κ
  caller : CallerPosition κ

/-- Only a block that throws writes to its place. -/
def ExecutorMembers.record (members : ExecutorMembers κ ε) (block : ℕ) (thrown : Option ε) :
    ExecutorMembers κ ε :=
  match thrown with
  | none => members
  | some e => { members with errors := members.errors.set block (some e) }

/-- `execute(worker)`, which reads the members without the mutex; `none` where it returns. A call of
a job that is empty throws too. -/
inductive ExecuteStep (count worker : ℕ) (members : ExecutorMembers κ ε) :
    Execution κ → Option (ExecutorEvent κ ε) → ExecutorMembers κ ε → Option (Execution κ) → Prop
  | enter {block : ℕ} (hblock : block < members.blocks) :
      ExecuteStep count worker members (.testing block) none members (some (.calling block))
  | leave {block : ℕ} (hblock : members.blocks ≤ block) :
      ExecuteStep count worker members (.testing block) none members none
  | call {block : ℕ} :
      ExecuteStep count worker members (.calling block) (some (.called worker block members.job))
        members (some (.running block members.job))
  | finish {block : ℕ} {job : Option κ} (thrown : Option ε) :
      ExecuteStep count worker members (.running block job)
        (some (.finished worker block thrown)) (members.record block thrown)
        (some (.testing (block + count)))

/-- The condition of a worker's wait, tested under the mutex, and what follows. -/
def ExecutorMembers.await (members : ExecutorMembers κ ε) (worker : ℕ) (observed : UInt64) :
    WorkerPosition κ :=
  if members.stopping then .exited
  else if members.generation ≠ observed then .executing members.generation (.testing worker)
  else .asleep observed

def WorkerPosition.notified : WorkerPosition κ → WorkerPosition κ
  | .asleep observed => .ready observed
  | position => position

def CallerPosition.notified : CallerPosition κ → CallerPosition κ
  | .asleep => .waiting
  | position => position

namespace ExecutorSystem

variable {threads : ℕ}

/-- `ready_.notify_all()` -/
def notifyAll (s : ExecutorSystem κ ε threads) : Fin threads → WorkerPosition κ := fun i =>
  (s.workers i).notified

/-- The decrement under the mutex, which wakes the caller when no worker is left. -/
def finishWorker (s : ExecutorSystem κ ε threads) (i : Fin threads) (observed : UInt64) :
    ExecutorSystem κ ε threads :=
  let members := { s.members with pending := s.members.pending - 1 }
  { members
    workers := Function.update s.workers i (members.await (i + 1) observed)
    caller := if members.pending = 0 then s.caller.notified else s.caller }

/-- A step of `worker_loop`. The caller is the first of the threads that execute blocks. -/
inductive WorkerStep (s : ExecutorSystem κ ε threads) (i : Fin threads) :
    Option (ExecutorEvent κ ε) → ExecutorSystem κ ε threads → Prop
  | await {observed : UInt64} (hposition : s.workers i = .ready observed) :
      WorkerStep s i none
        { s with workers := Function.update s.workers i (s.members.await (i + 1) observed) }
  | wake {observed : UInt64} (hposition : s.workers i = .asleep observed) :
      WorkerStep s i none { s with workers := Function.update s.workers i (.ready observed) }
  | execute {observed : UInt64} {execution : Execution κ} {event : Option (ExecutorEvent κ ε)}
      {members : ExecutorMembers κ ε} {next : Option (Execution κ)}
      (hposition : s.workers i = .executing observed execution)
      (hexecute : ExecuteStep (threads + 1) (i + 1) s.members execution event members next) :
      WorkerStep s i event
        { s with
          members
          workers := Function.update s.workers i
            (next.elim (.finishing observed) (.executing observed)) }
  | finish {observed : UInt64} (hposition : s.workers i = .finishing observed) :
      WorkerStep s i none (s.finishWorker i observed)

/-- A step of `run`, of `stop`, or of the caller between two runs. -/
inductive CallerStep (s : ExecutorSystem κ ε threads) :
    Option (ExecutorEvent κ ε) → ExecutorSystem κ ε threads → Prop
  | begin (job : κ) (points : ℕ) (hcaller : s.caller = .idle) :
      CallerStep s (some (.began job points)) { s with caller := .starting job points }
  | returnEmpty {job : κ} {points : ℕ} (hcaller : s.caller = .starting job points)
      (htotal : CpuExecutor.blocks points = 0) :
      CallerStep s (some (.returned none)) { s with caller := .idle }
  | refuse {job : κ} {points : ℕ} (errors : List (Option ε))
      (hcaller : s.caller = .starting job points) (htotal : CpuExecutor.blocks points ≠ 0) :
      CallerStep s (some .refused) { s with members := { s.members with errors }, caller := .idle }
  | assign {job : κ} {points : ℕ} (hcaller : s.caller = .starting job points)
      (htotal : CpuExecutor.blocks points ≠ 0) :
      CallerStep s none
        { s with
          members :=
            { s.members with errors := List.replicate (CpuExecutor.blocks points) none }
          caller := .publishing job (CpuExecutor.blocks points) }
  | publish {job : κ} {total : ℕ} (hcaller : s.caller = .publishing job total) :
      CallerStep s none
        { s with
          members := { s.members with
            job := some job
            blocks := total
            pending := threads
            generation := s.members.generation + 1 }
          caller := .notifying }
  | notify (hcaller : s.caller = .notifying) :
      CallerStep s none { s with workers := s.notifyAll, caller := .executing (.testing 0) }
  | execute {execution : Execution κ} {event : Option (ExecutorEvent κ ε)}
      {members : ExecutorMembers κ ε} {next : Option (Execution κ)}
      (hcaller : s.caller = .executing execution)
      (hexecute : ExecuteStep (threads + 1) 0 s.members execution event members next) :
      CallerStep s event { s with members, caller := next.elim .waiting .executing }
  | sleep (hcaller : s.caller = .waiting) (hpending : s.members.pending ≠ 0) :
      CallerStep s none { s with caller := .asleep }
  | leave (hcaller : s.caller = .waiting) (hpending : s.members.pending = 0) :
      CallerStep s none
        { s with members := { s.members with job := none }, caller := .rethrowing }
  | wake (hcaller : s.caller = .asleep) : CallerStep s none { s with caller := .waiting }
  | rethrow (hcaller : s.caller = .rethrowing) :
      CallerStep s (some (.returned (s.members.errors.findSome? id))) { s with caller := .idle }
  | stop (hcaller : s.caller = .idle) :
      CallerStep s none
        { s with members := { s.members with stopping := true }, caller := .notifyingStop }
  | notifyStop (hcaller : s.caller = .notifyingStop) :
      CallerStep s none { s with workers := s.notifyAll, caller := .joining }
  | join (hcaller : s.caller = .joining) (hexited : ∀ i, s.workers i = .exited) :
      CallerStep s none { s with caller := .destroyed }

inductive Step (s : ExecutorSystem κ ε threads) :
    Option (ExecutorEvent κ ε) → ExecutorSystem κ ε threads → Prop
  | worker {event : Option (ExecutorEvent κ ε)} {next : ExecutorSystem κ ε threads}
      (i : Fin threads) (h : WorkerStep s i event next) : Step s event next
  | caller {event : Option (ExecutorEvent κ ε)} {next : ExecutorSystem κ ε threads}
      (h : CallerStep s event next) : Step s event next

/-- Any number of steps, in any order of the threads, and the events that they show. -/
inductive Steps (start : ExecutorSystem κ ε threads) :
    List (ExecutorEvent κ ε) → ExecutorSystem κ ε threads → Prop
  | nil : Steps start [] start
  | concat {events : List (ExecutorEvent κ ε)} {s next : ExecutorSystem κ ε threads}
      {event : Option (ExecutorEvent κ ε)} (hsteps : Steps start events s)
      (hstep : Step s event next) : Steps start (events ++ event.toList) next

/-- A constructed executor: its workers have been started, and may be slow to begin. -/
def initial (κ ε : Type) (threads : ℕ) : ExecutorSystem κ ε threads :=
  ⟨{}, fun _ => .ready 0, .idle⟩

end ExecutorSystem

/-- What was seen of a run: the calls of its job, by worker, block and job, the calls that ended,
and what the blocks threw. -/
structure RunRecord (κ ε : Type) where
  job : κ
  points : ℕ
  calls : List (ℕ × ℕ × Option κ) := []
  finished : List (ℕ × ℕ) := []
  thrown : ℕ → Option ε := fun _ => none

def RunRecord.total (r : RunRecord κ ε) : ℕ := CpuExecutor.blocks r.points

def RunRecord.observe (r : RunRecord κ ε) : ExecutorEvent κ ε → RunRecord κ ε
  | .called worker block job => { r with calls := r.calls ++ [(worker, block, job)] }
  | .finished worker block thrown =>
    { r with
      finished := r.finished ++ [(worker, block)]
      thrown := Function.update r.thrown block thrown }
  | _ => r

/-- The run in progress, the runs that returned, with what they threw, and the events outside of any
run. -/
structure Ledger (κ ε : Type) where
  current : Option (RunRecord κ ε) := none
  completed : List (RunRecord κ ε × Option ε) := []
  stray : List (ExecutorEvent κ ε) := []

def Ledger.record (ledger : Ledger κ ε) (event : ExecutorEvent κ ε) : Ledger κ ε :=
  match event, ledger.current with
  | .began job points, none => { ledger with current := some { job, points } }
  | .refused, some _ => { ledger with current := none }
  | .called worker block job, some r =>
    { ledger with current := some (r.observe (.called worker block job)) }
  | .finished worker block thrown, some r =>
    { ledger with current := some (r.observe (.finished worker block thrown)) }
  | .returned thrown, some r =>
    { ledger with current := none, completed := ledger.completed ++ [(r, thrown)] }
  | event, _ => { ledger with stray := ledger.stray ++ [event] }

def ledgerOf (events : List (ExecutorEvent κ ε)) : Ledger κ ε := events.foldl Ledger.record {}

end PointcloudAd.Registration
