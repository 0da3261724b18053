import PointcloudAd.Registration.ExecutorSafety

/-!
# The executor's protocol runs code

A thread that is in a call makes the accesses of the call's code, one step each, between the steps
of the protocol. Whatever the order of all these steps, a run that returns has left in the cells, in
the scratch values and in its exception what the executor's callers see under one of its schedules.
-/

namespace PointcloudAd.Registration

open Library

variable {κ β : Type}

/-- The argument of a run: a function of a block, with the cells and the scratch values it captures.
-/
structure RunCall (κ β : Type) where
  function : ℕ → Code ℕ κ β Exn Unit
  cells : List β
  scratch : List κ

/-- An executor with the memory of its run, and what is left of the call in which a thread is. -/
structure ExecutorMachine (κ β : Type) (threads : ℕ) where
  system : ExecutorSystem (RunCall κ β) Exn threads
  cells : List β
  scratch : ℕ → κ
  codes : ℕ → Code ℕ κ β Exn Unit

/-- The code of a call. An empty function throws. -/
def callCode (job : Option (RunCall κ β)) (block : ℕ) : Code ℕ κ β Exn Unit :=
  match job with
  | some call => call.function block
  | none => .throw (.exception "bad_function_call")

/-- The code at the end of a call. -/
def endOf (thrown : Option Exn) : Code ℕ κ β Exn Unit :=
  match thrown with
  | none => .pure ()
  | some e => .throw e

namespace ExecutorMachine

variable {threads : ℕ}

section Steps

variable [Inhabited κ] [Inhabited β]

/-- A run begins with the memory that its function captures, and a call with its code. -/
def after (m : ExecutorMachine κ β threads) (event : Option (ExecutorEvent (RunCall κ β) Exn))
    (system : ExecutorSystem (RunCall κ β) Exn threads) : ExecutorMachine κ β threads :=
  match event with
  | some (.began call _) =>
    { m with
      system
      cells := call.cells
      scratch := fun worker => call.scratch.getD worker default }
  | some (.called worker block job) =>
    { m with system, codes := Function.update m.codes worker (callCode job block) }
  | some (.finished worker _ _) =>
    { m with system, codes := Function.update m.codes worker (.pure ()) }
  | _ => { m with system }

/-- A thread makes one access of its call. -/
def access (m : ExecutorMachine κ β threads) (worker : ℕ) : ExecutorMachine κ β threads :=
  let (code, scratch, cells) := (m.codes worker).access (.list β) (m.scratch worker) m.cells
  { m with
    cells
    scratch := Function.update m.scratch worker scratch
    codes := Function.update m.codes worker code }

/-- A call finishes where its code ends, and with the exception that the code threw. -/
inductive Step (m : ExecutorMachine κ β threads) :
    Option (ExecutorEvent (RunCall κ β) Exn) → ExecutorMachine κ β threads → Prop
  | protocol {event : Option (ExecutorEvent (RunCall κ β) Exn)}
      {system : ExecutorSystem (RunCall κ β) Exn threads} (hstep : m.system.Step event system)
      (hends : ∀ worker block thrown, event = some (.finished worker block thrown) →
        m.codes worker = endOf thrown) :
      Step m event (m.after event system)
  | access (worker : ℕ) : Step m none (m.access worker)

inductive Steps (start : ExecutorMachine κ β threads) :
    List (ExecutorEvent (RunCall κ β) Exn) → ExecutorMachine κ β threads → Prop
  | nil : Steps start [] start
  | concat {events : List (ExecutorEvent (RunCall κ β) Exn)} {m next : ExecutorMachine κ β threads}
      {event : Option (ExecutorEvent (RunCall κ β) Exn)} (hsteps : Steps start events m)
      (hstep : Step m event next) : Steps start (events ++ event.toList) next

variable (κ β) in
def initial (threads : ℕ) : ExecutorMachine κ β threads :=
  ⟨.initial (RunCall κ β) Exn threads, [], fun _ => default, fun _ => .pure ()⟩

end Steps

end ExecutorMachine

section Threads

variable {count worker block : ℕ} {r : RunRecord (RunCall κ β) Exn}

/-- The blocks that a thread has called, and those whose call ended. -/
def RunRecord.callsOf (r : RunRecord (RunCall κ β) Exn) (worker : ℕ) : List ℕ :=
  (r.calls.filter fun c => c.1 = worker).map fun c => c.2.1

def RunRecord.endsOf (r : RunRecord (RunCall κ β) Exn) (worker : ℕ) : List ℕ :=
  (r.finished.filter fun c => c.1 = worker).map fun c => c.2

theorem RunRecord.callsOf_called (r : RunRecord (RunCall κ β) Exn) (worker block other : ℕ)
    (job : Option (RunCall κ β)) : (r.observe (.called worker block job)).callsOf other =
      r.callsOf other ++ if worker = other then [block] else [] := by
  by_cases h : worker = other <;> simp [RunRecord.callsOf, List.filter_append, h]

theorem RunRecord.endsOf_finished (r : RunRecord (RunCall κ β) Exn) (worker block other : ℕ)
    (thrown : Option Exn) : (r.observe (.finished worker block thrown)).endsOf other =
      r.endsOf other ++ if worker = other then [block] else [] := by
  by_cases h : worker = other <;> simp [RunRecord.endsOf, List.filter_append, h]

theorem Progress.callsOf {started ended : ℕ} (h : Progress count r worker started ended) :
    r.callsOf worker = ownBlocks count r.total worker started := by
  unfold RunRecord.callsOf
  rw [h.calls, List.map_map]
  exact List.map_id' _

theorem Progress.endsOf {started ended : ℕ} (h : Progress count r worker started ended) :
    r.endsOf worker = ownBlocks count r.total worker ended := by
  unfold RunRecord.endsOf
  rw [h.finished, List.map_map]
  exact List.map_id' _

theorem ownBlocks_prefix (count total worker bound : ℕ) :
    ∃ rest, ownBlocks count total worker bound ++ rest = ownBlocks count total worker total := by
  refine ⟨((List.range (total - min bound total)).map (min bound total + ·)).filter
    fun b => b % count = worker, ?_⟩
  have hsum : total = min bound total + (total - min bound total) := by omega
  unfold ownBlocks
  rw [Nat.min_self]
  conv_rhs => rw [hsum, List.range_add, List.filter_append]

/-- A thread of the machine is where the calls of a run have left it. -/
structure ThreadFollows (count : ℕ) (r : RunRecord (RunCall κ β) Exn) (worker : ℕ)
    (code : Code ℕ κ β Exn Unit) (thread : Thread κ β Exn) : Prop where
  later : r.callsOf worker ++ thread.later = ownBlocks count r.total worker r.total
  call : (r.callsOf worker = r.endsOf worker ∧ thread.call = none ∧ code = .pure ()) ∨
    ∃ block, r.callsOf worker = r.endsOf worker ++ [block] ∧ thread.call = some (block, code)

theorem ThreadFollows.of_same {r' : RunRecord (RunCall κ β) Exn} {code : Code ℕ κ β Exn Unit}
    {thread : Thread κ β Exn} (h : ThreadFollows count r worker code thread)
    (hcalls : r'.callsOf worker = r.callsOf worker) (hends : r'.endsOf worker = r.endsOf worker)
    (htotal : r'.total = r.total) : ThreadFollows count r' worker code thread := by
  constructor
  · rw [hcalls, htotal]
    exact h.later
  · rw [hcalls, hends]
    exact h.call

/-- A thread that calls its next block is at the end of the one before. -/
theorem ThreadFollows.calling {code : Code ℕ κ β Exn Unit} {thread : Thread κ β Exn}
    (h : ThreadFollows count r worker code thread)
    (hturn : Turn count r worker (some (.calling block))) :
    ∃ rest, thread = ⟨none, block :: rest⟩ ∧ code = .pure () := by
  obtain ⟨⟨hown, hblock⟩, hprogress⟩ := hturn
  have hsame : r.callsOf worker = r.endsOf worker := hprogress.callsOf.trans hprogress.endsOf.symm
  obtain ⟨-, hcall, hcode⟩ := h.call.resolve_right fun ⟨b, hb, _⟩ => by
    rw [hsame] at hb
    exact absurd (congrArg List.length hb) (by simp)
  obtain ⟨rest, hrest⟩ := ownBlocks_prefix count r.total worker (block + 1)
  have hlater := h.later
  rw [hprogress.callsOf, ← hrest, ownBlocks_succ hblock hown, List.append_assoc] at hlater
  refine ⟨rest, ?_, hcode⟩
  rcases thread with ⟨call, later⟩
  obtain rfl : call = none := hcall
  rw [show later = [block] ++ rest from List.append_cancel_left hlater]
  rfl

/-- A thread in a call is in that of the machine. -/
theorem ThreadFollows.running {code : Code ℕ κ β Exn Unit} {thread : Thread κ β Exn}
    (h : ThreadFollows count r worker code thread) {job : Option (RunCall κ β)}
    (hturn : Turn count r worker (some (.running block job))) :
    thread.call = some (block, code) := by
  obtain ⟨⟨hown, hblock, -⟩, hprogress⟩ := hturn
  have hcalls : r.callsOf worker = r.endsOf worker ++ [block] := by
    rw [hprogress.callsOf, hprogress.endsOf]
    exact ownBlocks_succ hblock hown
  rcases h.call with ⟨hsame, -⟩ | ⟨b, hb, hcall⟩
  · rw [hsame] at hcalls
    exact absurd (congrArg List.length hcalls) (by simp)
  · rw [hb] at hcalls
    obtain rfl : b = block := by simpa using hcalls
    exact hcall

theorem ThreadFollows.done {code : Code ℕ κ β Exn Unit} {thread : Thread κ β Exn}
    (h : ThreadFollows count r worker code thread)
    (hcalls : r.callsOf worker = ownBlocks count r.total worker r.total)
    (hends : r.endsOf worker = r.callsOf worker) : thread = ⟨none, []⟩ ∧ code = .pure () := by
  obtain ⟨-, hcall, hcode⟩ := h.call.resolve_right fun ⟨b, hb, _⟩ => by
    rw [hends] at hb
    exact absurd (congrArg List.length hb) (by simp)
  have hlater := h.later
  rw [hcalls, List.append_right_eq_self] at hlater
  rcases thread with ⟨call, later⟩
  exact ⟨by rw [show call = none from hcall, show later = [] from hlater], hcode⟩

end Threads

section Follows

variable [Inhabited κ] [Inhabited β] {threads count worker block : ℕ}
  {m : ExecutorMachine κ β threads} {r : RunRecord (RunCall κ β) Exn} {schedule : List ℕ}
  {system : ExecutorSystem (RunCall κ β) Exn threads}

/-- The machine of a run after a schedule. -/
def RunRecord.machine (count : ℕ) (r : RunRecord (RunCall κ β) Exn) (schedule : List ℕ) :
    Machine κ β Exn :=
  schedule.foldl (Machine.step r.job.function)
    (.start (· % count) r.total r.job.cells fun worker => r.job.scratch.getD worker default)

/-- The memory and the calls of a run are those of its machine after a schedule. -/
structure Follows (count : ℕ) (m : ExecutorMachine κ β threads) (r : RunRecord (RunCall κ β) Exn)
    (schedule : List ℕ) : Prop where
  memory : (r.machine count schedule).memory =
    ⟨m.cells, m.scratch, (List.range r.total).map r.thrown⟩
  threads : ∀ worker, ThreadFollows count r worker (m.codes worker)
    ((r.machine count schedule).threads worker)

theorem follows_start (call : RunCall κ β) (points : ℕ) (hcells : m.cells = call.cells)
    (hscratch : m.scratch = fun worker => call.scratch.getD worker default)
    (hcodes : ∀ worker, m.codes worker = .pure ()) :
    Follows count m { job := call, points } [] := by
  refine ⟨?_, fun worker => ⟨?_, .inl ⟨rfl, rfl, hcodes worker⟩⟩⟩
  · rw [hcells, hscratch]
    simp [RunRecord.machine, Machine.start]
  · simp [RunRecord.callsOf, RunRecord.machine, Machine.start, ownBlocks]

theorem RunRecord.machine_observe (event : ExecutorEvent (RunCall κ β) Exn) (schedule : List ℕ) :
    (r.observe event).machine count schedule = r.machine count schedule := by
  simp [RunRecord.machine]

theorem RunRecord.machine_concat (worker : ℕ) :
    r.machine count (schedule ++ [worker]) =
      (r.machine count schedule).step r.job.function worker := by
  simp [RunRecord.machine]

/-- A call that begins in the protocol begins in the machine. -/
theorem Follows.called (h : Follows count m r schedule)
    (hturn : Turn count r worker (some (.calling block))) :
    Follows count (m.after (some (.called worker block (some r.job))) system)
      (r.observe (.called worker block (some r.job))) (schedule ++ [worker]) := by
  obtain ⟨rest, hthread, -⟩ := (h.threads worker).calling hturn
  have hsame : r.callsOf worker = r.endsOf worker :=
    hturn.2.callsOf.trans hturn.2.endsOf.symm
  have hstep : r.machine count (schedule ++ [worker]) =
      ⟨(r.machine count schedule).memory, Function.update (r.machine count schedule).threads worker
        ⟨some (block, r.job.function block), rest⟩⟩ := by
    rw [RunRecord.machine_concat]
    simp [Machine.step, hthread]
  refine ⟨?_, fun other => ?_⟩
  · rw [RunRecord.machine_observe, hstep]
    simpa [ExecutorMachine.after] using h.memory
  · rw [RunRecord.machine_observe, hstep]
    by_cases hother : other = worker
    · subst hother
      have hlater := (h.threads other).later
      rw [hthread] at hlater
      refine ⟨?_, .inr ⟨block, ?_, ?_⟩⟩
      · simpa [RunRecord.callsOf_called] using hlater
      · rw [RunRecord.callsOf_called, hsame, if_pos rfl]
        rfl
      · simp [ExecutorMachine.after, callCode]
    · simp only [Function.update_of_ne hother, ExecutorMachine.after]
      refine (h.threads other).of_same ?_ rfl (RunRecord.total_observe ..)
      rw [RunRecord.callsOf_called, if_neg (Ne.symm hother), List.append_nil]

/-- A call that finishes in the protocol ends in the machine, which records what it threw. -/
theorem Follows.finished (h : Follows count m r schedule) {job : Option (RunCall κ β)}
    (hturn : Turn count r worker (some (.running block job))) {thrown : Option Exn}
    (hcode : m.codes worker = endOf thrown) :
    Follows count (m.after (some (.finished worker block thrown)) system)
      (r.observe (.finished worker block thrown)) (schedule ++ [worker]) := by
  have hcall := (h.threads worker).running hturn
  obtain ⟨⟨hown, hblock, -⟩, hprogress⟩ := hturn
  have hcalls : r.callsOf worker = r.endsOf worker ++ [block] := by
    rw [hprogress.callsOf, hprogress.endsOf]
    exact ownBlocks_succ hblock hown
  have herrors : recordError ((List.range r.total).map r.thrown) block thrown =
      (List.range r.total).map (Function.update r.thrown block thrown) := by
    cases thrown with
    | none =>
      have hquiet := hprogress.quiet block hblock hown le_rfl
      rw [recordError, ← hquiet, Function.update_eq_self]
    | some e => exact set_map_range r.thrown (some e)
  have hstep : r.machine count (schedule ++ [worker]) =
      ⟨⟨m.cells, m.scratch, (List.range r.total).map (Function.update r.thrown block thrown)⟩,
        Function.update (r.machine count schedule).threads worker
          ⟨none, ((r.machine count schedule).threads worker).later⟩⟩ := by
    rw [RunRecord.machine_concat, ← herrors]
    rw [hcode] at hcall
    cases thrown <;> simp [Machine.step, hcall, endOf, h.memory, recordError]
  refine ⟨?_, fun other => ?_⟩
  · rw [RunRecord.machine_observe, hstep]
    simp [ExecutorMachine.after]
  · rw [RunRecord.machine_observe, hstep]
    by_cases hother : other = worker
    · subst hother
      refine ⟨?_, .inl ⟨?_, ?_, ?_⟩⟩
      · simpa [RunRecord.callsOf] using (h.threads other).later
      · rw [RunRecord.endsOf_finished, if_pos rfl, ← hcalls]
        rfl
      · simp
      · simp [ExecutorMachine.after]
    · simp only [Function.update_of_ne hother, ExecutorMachine.after]
      refine (h.threads other).of_same rfl ?_ (RunRecord.total_observe ..)
      rw [RunRecord.endsOf_finished, if_neg (Ne.symm hother), List.append_nil]

/-- An access of a call is a step of the machine. -/
theorem Follows.access (h : Follows count m r schedule) (worker : ℕ) :
    ∃ later, Follows count (m.access worker) r later := by
  have hstay : (m.codes worker).access (.list β) (m.scratch worker) m.cells =
      (m.codes worker, m.scratch worker, m.cells) → Follows count (m.access worker) r schedule := by
    intro hsame
    have hm : m.access worker = m := by
      unfold ExecutorMachine.access
      rw [hsame]
      simp
    rwa [hm]
  rcases (h.threads worker).call with ⟨-, -, hcode⟩ | ⟨block, hcalls, hcall⟩
  · exact ⟨schedule, hstay (by rw [hcode]; rfl)⟩
  have hmove : (∀ ending : Except Exn Unit, m.codes worker ≠ Code.lift ending) →
      Follows count (m.access worker) r (schedule ++ [worker]) := by
    intro hne
    have hstep : r.machine count (schedule ++ [worker]) =
        ⟨⟨(m.access worker).cells, (m.access worker).scratch, (List.range r.total).map r.thrown⟩,
          Function.update (r.machine count schedule).threads worker
            ⟨some (block, (m.access worker).codes worker),
              ((r.machine count schedule).threads worker).later⟩⟩ := by
      rw [RunRecord.machine_concat]
      cases hcode : m.codes worker with
      | pure value => exact absurd hcode (hne (.ok value))
      | throw e => exact absurd hcode (hne (.error e))
      | _ => simp [Machine.step, hcall, hcode, h.memory, ExecutorMachine.access]
    refine ⟨by rw [hstep], fun other => ?_⟩
    rw [hstep]
    by_cases hother : other = worker
    · subst hother
      refine ⟨?_, .inr ⟨block, hcalls, ?_⟩⟩
      · simpa using (h.threads other).later
      · simp
    · have hcodes : (m.access worker).codes other = m.codes other := by
        simp [ExecutorMachine.access, hother]
      rw [hcodes]
      simpa only [Function.update_of_ne hother] using h.threads other
  by_cases hend : ∃ ending : Except Exn Unit, m.codes worker = Code.lift ending
  · obtain ⟨ending, hending⟩ := hend
    exact ⟨schedule, hstay (by rw [hending]; cases ending <;> rfl)⟩
  · push Not at hend
    exact ⟨_, hmove hend⟩

end Follows

section Runs

open ExecutorSystem

variable {threads worker block : ℕ} {ledger : Ledger (RunCall κ β) Exn}

/-- A call is begun by a thread that is about to, in the run in progress. -/
theorem Accounted.called {s next : ExecutorSystem (RunCall κ β) Exn threads}
    (h : Accounted s ledger) {job : Option (RunCall κ β)}
    (hstep : s.Step (some (.called worker block job)) next) :
    ∃ r, ledger.current = some r ∧ job = some r.job ∧
      Turn (threads + 1) r worker (some (.calling block)) := by
  cases hstep with
  | worker i hstep =>
    obtain ⟨hnone, -⟩ | ⟨r, hcurrent, hrun, -⟩ := h.phase.worker hstep
    · cases hnone
    cases hstep with
    | execute hposition hexecute =>
      have hturn := hrun.workers i
      rw [hposition] at hturn
      cases hexecute
      exact ⟨r, hcurrent, hrun.published.job, hturn.2⟩
  | caller hstep =>
    have hphase := h.phase.at_caller
    cases hstep with
    | execute hcaller hexecute =>
      rw [hcaller] at hphase
      obtain ⟨r, hcurrent, hrun⟩ := hphase
      have hturn := hrun.caller
      rw [hcaller] at hturn
      cases hexecute
      exact ⟨r, hcurrent, hrun.published.job, hturn⟩

theorem Accounted.finished {s next : ExecutorSystem (RunCall κ β) Exn threads}
    (h : Accounted s ledger) {thrown : Option Exn}
    (hstep : s.Step (some (.finished worker block thrown)) next) :
    ∃ r job, ledger.current = some r ∧ Turn (threads + 1) r worker (some (.running block job)) := by
  cases hstep with
  | worker i hstep =>
    obtain ⟨hnone, -⟩ | ⟨r, hcurrent, hrun, -⟩ := h.phase.worker hstep
    · cases hnone
    cases hstep with
    | execute hposition hexecute =>
      have hturn := hrun.workers i
      rw [hposition] at hturn
      cases hexecute
      exact ⟨r, _, hcurrent, hturn.2⟩
  | caller hstep =>
    have hphase := h.phase.at_caller
    cases hstep with
    | execute hcaller hexecute =>
      rw [hcaller] at hphase
      obtain ⟨r, hcurrent, hrun⟩ := hphase
      have hturn := hrun.caller
      rw [hcaller] at hturn
      cases hexecute
      exact ⟨r, _, hcurrent, hturn⟩

/-- What a run that returns has been: empty, or with all its blocks taken. -/
structure RunEnded (count : ℕ) (r : RunRecord (RunCall κ β) Exn) (thrown : Option Exn) : Prop where
  calls : ∀ worker, r.callsOf worker = ownBlocks count r.total worker r.total
  ends : ∀ worker, r.endsOf worker = r.callsOf worker
  thrown : thrown = ((List.range r.total).map r.thrown).findSome? id

theorem runEnded_of_empty {count : ℕ} {job : RunCall κ β} {points : ℕ}
    (htotal : CpuExecutor.blocks points = 0) :
    RunEnded count ({ job, points } : RunRecord (RunCall κ β) Exn) none := by
  have hzero : ({ job, points } : RunRecord (RunCall κ β) Exn).total = 0 := htotal
  refine ⟨fun worker => ?_, fun worker => rfl, ?_⟩
  · rw [hzero, ownBlocks_zero]
    rfl
  · rw [hzero]
    rfl

theorem Accounted.returned {s next : ExecutorSystem (RunCall κ β) Exn threads}
    (h : Accounted s ledger) {thrown : Option Exn} (hstep : s.Step (some (.returned thrown)) next) :
    ∃ r, ledger.current = some r ∧ RunEnded (threads + 1) r thrown := by
  cases hstep with
  | worker i hstep =>
    cases hstep with
    | execute hposition hexecute => cases hexecute
  | caller hstep =>
    have hphase := h.phase.at_caller
    cases hstep with
    | returnEmpty hcaller htotal =>
      rw [hcaller] at hphase
      exact ⟨_, hphase.1, runEnded_of_empty htotal⟩
    | execute hcaller hexecute => cases hexecute
    | rethrow hcaller =>
      rw [hcaller] at hphase
      obtain ⟨r, hcurrent, -, howned, hdone, herrors⟩ := hphase
      have hnone : ∀ worker, ¬ worker < threads + 1 → r.callsOf worker = [] ∧ r.endsOf worker = [] ∧
          ownBlocks (threads + 1) r.total worker r.total = [] := by
        intro worker hworker
        refine ⟨List.map_eq_nil_iff.mpr (List.filter_eq_nil_iff.mpr fun c hc he => hworker ?_),
          List.map_eq_nil_iff.mpr (List.filter_eq_nil_iff.mpr fun c hc he => hworker ?_), ?_⟩
        · rw [← of_decide_eq_true he]
          exact howned.calls c hc
        · rw [← of_decide_eq_true he]
          exact howned.finished c hc
        · refine List.eq_nil_iff_forall_not_mem.mpr fun b hb => hworker ?_
          rw [← (mem_ownBlocks.mp hb).2.2]
          exact Nat.mod_lt b (Nat.succ_pos threads)
      refine ⟨r, hcurrent, fun worker => ?_, fun worker => ?_, by rw [herrors]⟩
      · by_cases hworker : worker < threads + 1
        · exact Progress.callsOf (hdone worker hworker)
        · rw [(hnone worker hworker).1, (hnone worker hworker).2.2]
      · by_cases hworker : worker < threads + 1
        · exact (Progress.endsOf (hdone worker hworker)).trans
            (Progress.callsOf (hdone worker hworker)).symm
        · rw [(hnone worker hworker).1, (hnone worker hworker).2.1]

theorem Accounted.step {s next : ExecutorSystem (RunCall κ β) Exn threads} (h : Accounted s ledger)
    {event : Option (ExecutorEvent (RunCall κ β) Exn)} (hstep : s.Step event next) :
    Accounted next (ledger.after event) := by
  cases hstep with
  | worker i hstep => exact h.worker hstep
  | caller hstep => exact h.caller hstep

/-- A run begins between two runs, and is refused before its first call. -/
theorem Accounted.began {s next : ExecutorSystem (RunCall κ β) Exn threads} (h : Accounted s ledger)
    {call : RunCall κ β} {points : ℕ} (hstep : s.Step (some (.began call points)) next) :
    ledger.current = none := by
  cases hstep with
  | worker i hstep =>
    cases hstep with
    | execute hposition hexecute => cases hexecute
  | caller hstep =>
    have hphase := h.phase.at_caller
    cases hstep with
    | begin job points hcaller =>
      rw [hcaller] at hphase
      exact hphase.1
    | execute hcaller hexecute => cases hexecute

theorem Accounted.refused {s next : ExecutorSystem (RunCall κ β) Exn threads}
    (h : Accounted s ledger) (hstep : s.Step (some .refused) next) :
    ∃ job points, ledger.current = some { job, points } := by
  cases hstep with
  | worker i hstep =>
    cases hstep with
    | execute hposition hexecute => cases hexecute
  | caller hstep =>
    have hphase := h.phase.at_caller
    cases hstep with
    | refuse errors hcaller htotal =>
      rw [hcaller] at hphase
      exact ⟨_, _, hphase.1⟩
    | execute hcaller hexecute => cases hexecute

variable [Inhabited κ] [Inhabited β]

/-- The protocol, and a machine that follows the run in progress. -/
structure Traced (m : ExecutorMachine κ β threads) (ledger : Ledger (RunCall κ β) Exn) : Prop where
  accounted : Accounted m.system ledger
  running : ∀ r, ledger.current = some r → ∃ schedule, Follows (threads + 1) m r schedule
  idle : ledger.current = none → ∀ worker, m.codes worker = .pure ()

variable {m next : ExecutorMachine κ β threads}

theorem Follows.silent {count : ℕ} {r : RunRecord (RunCall κ β) Exn} {schedule : List ℕ}
    (h : Follows count m r schedule) (system : ExecutorSystem (RunCall κ β) Exn threads) :
    Follows count { m with system } r schedule :=
  ⟨h.memory, h.threads⟩

theorem Follows.ended {r : RunRecord (RunCall κ β) Exn} {schedule : List ℕ} {count : ℕ}
    (h : Follows count m r schedule) {thrown : Option Exn} (hended : RunEnded count r thrown)
    (worker : ℕ) :
    (r.machine count schedule).threads worker = ⟨none, []⟩ ∧ m.codes worker = .pure () :=
  (h.threads worker).done (hended.calls worker) (hended.ends worker)

theorem Follows.idle {r : RunRecord (RunCall κ β) Exn} {schedule : List ℕ} {count : ℕ}
    (h : Follows count m r schedule) (hcalls : r.calls = []) (worker : ℕ) :
    m.codes worker = .pure () := by
  rcases (h.threads worker).call with ⟨-, -, hcode⟩ | ⟨block, hcall, -⟩
  · exact hcode
  · simp [RunRecord.callsOf, hcalls] at hcall

theorem Traced.protocol (h : Traced m ledger) {event : Option (ExecutorEvent (RunCall κ β) Exn)}
    {system : ExecutorSystem (RunCall κ β) Exn threads} (hstep : m.system.Step event system)
    (hends : ∀ worker block thrown, event = some (.finished worker block thrown) →
      m.codes worker = endOf thrown) : Traced (m.after event system) (ledger.after event) := by
  have haccounted := h.accounted.step hstep
  rcases event with _ | ⟨call, points⟩ | _ | ⟨worker, block, job⟩ | ⟨worker, block, thrown⟩ | thrown
  · refine ⟨haccounted, fun r hr => ?_, h.idle⟩
    obtain ⟨schedule, hfollows⟩ := h.running r hr
    exact ⟨schedule, hfollows.silent system⟩
  · have hcurrent := h.accounted.began hstep
    have hledger : (ledger.after (some (.began call points))).current =
        some { job := call, points } := by
      simp [Ledger.after, Ledger.record, hcurrent]
    refine ⟨haccounted, fun r hr => ?_, fun hr => by rw [hledger] at hr; cases hr⟩
    rw [hledger] at hr
    obtain rfl := Option.some.inj hr
    exact ⟨[], follows_start call points rfl rfl (h.idle hcurrent)⟩
  · obtain ⟨job, points, hcurrent⟩ := h.accounted.refused hstep
    obtain ⟨schedule, hfollows⟩ := h.running _ hcurrent
    have hledger : (ledger.after (some .refused)).current = none := by
      simp [Ledger.after, Ledger.record, hcurrent]
    exact ⟨haccounted, fun r hr => (by rw [hledger] at hr; cases hr), fun _ => hfollows.idle rfl⟩
  · obtain ⟨r, hcurrent, rfl, hturn⟩ := h.accounted.called hstep
    obtain ⟨schedule, hfollows⟩ := h.running r hcurrent
    have hledger : (ledger.after (some (.called worker block (some r.job)))).current =
        some (r.observe (.called worker block (some r.job))) := by
      simp [Ledger.after, Ledger.record, hcurrent]
    refine ⟨haccounted, fun r' hr' => ?_, fun hr' => by rw [hledger] at hr'; cases hr'⟩
    rw [hledger] at hr'
    obtain rfl := Option.some.inj hr'
    exact ⟨_, hfollows.called hturn⟩
  · obtain ⟨r, job, hcurrent, hturn⟩ := h.accounted.finished hstep
    obtain ⟨schedule, hfollows⟩ := h.running r hcurrent
    have hledger : (ledger.after (some (.finished worker block thrown))).current =
        some (r.observe (.finished worker block thrown)) := by
      simp [Ledger.after, Ledger.record, hcurrent]
    refine ⟨haccounted, fun r' hr' => ?_, fun hr' => by rw [hledger] at hr'; cases hr'⟩
    rw [hledger] at hr'
    obtain rfl := Option.some.inj hr'
    exact ⟨_, hfollows.finished hturn (hends _ _ _ rfl)⟩
  · obtain ⟨r, hcurrent, hended⟩ := h.accounted.returned hstep
    obtain ⟨schedule, hfollows⟩ := h.running r hcurrent
    have hledger : (ledger.after (some (.returned thrown))).current = none := by
      simp [Ledger.after, Ledger.record, hcurrent]
    exact ⟨haccounted, fun r hr => (by rw [hledger] at hr; cases hr),
      fun _ worker => (hfollows.ended hended worker).2⟩

/-- An access outside of a run finds no code, and one in a run is followed by the machine. -/
theorem Traced.access (h : Traced m ledger) (worker : ℕ) : Traced (m.access worker) ledger where
  accounted := h.accounted
  running r hr := by
    obtain ⟨schedule, hfollows⟩ := h.running r hr
    exact hfollows.access worker
  idle hr other := by
    by_cases hother : other = worker
    · subst hother
      simp [ExecutorMachine.access, h.idle hr other, Code.access]
    · simp [ExecutorMachine.access, hother, h.idle hr other]

theorem Traced.steps (h : Traced m ledger) {events : List (ExecutorEvent (RunCall κ β) Exn)}
    (hsteps : ExecutorMachine.Steps m events next) :
    Traced next (events.foldl Ledger.record ledger) := by
  induction hsteps with
  | nil => exact h
  | @concat events m next event hsteps hstep ih =>
    have hledger : (events ++ event.toList).foldl Ledger.record ledger =
        (events.foldl Ledger.record ledger).after event := by
      cases event <;> simp [Ledger.after]
    rw [hledger]
    cases hstep with
    | protocol hstep hends => exact ih.protocol hstep hends
    | access worker => exact ih.access worker

/-- Whatever the order of the steps of its threads, a run that returns leaves what the executor's
callers see under one of its schedules. -/
theorem runBlocks_of_steps {events : List (ExecutorEvent (RunCall κ β) Exn)}
    (hsteps : ExecutorMachine.Steps (.initial κ β threads) events m) {thrown : Option Exn}
    (hreturn : ExecutorMachine.Step m (some (.returned thrown)) next) (state : ExecutorState) :
    ∃ r schedule, (ledgerOf events).current = some r ∧
      let ran := CpuExecutor.runBlocks ⟨threads + 1, Nat.succ_pos threads⟩
        ⟨fun _ _ _ => schedule⟩ state r.points r.job.function r.job.cells r.job.scratch
      thrown = ran.thrown ∧ m.cells = ran.cells ∧
        ∀ worker < threads + 1, m.scratch worker = ran.scratch.getD worker default := by
  have htraced : Traced (ExecutorMachine.initial κ β threads) {} :=
    ⟨accounted_initial (RunCall κ β) Exn threads, fun r hr => (by cases hr), fun _ _ => rfl⟩
  have hm := htraced.steps hsteps
  cases hreturn with
  | protocol hstep hends =>
    obtain ⟨r, hcurrent, hended⟩ := hm.accounted.returned hstep
    obtain ⟨schedule, hfollows⟩ := hm.running r hcurrent
    have hdone := fun worker => (hfollows.ended hended worker).1
    refine ⟨r, schedule, hcurrent, ?_⟩
    by_cases htotal : CpuExecutor.blocks r.points = 0
    · have hzero : r.total = 0 := htotal
      have hstart : ∀ worker, (Machine.start (ε := Exn) (· % (threads + 1)) r.total r.job.cells
          fun worker => r.job.scratch.getD worker default).threads worker = ⟨none, []⟩ := by
        intro worker
        simp [Machine.start, hzero]
      have hmemory := hfollows.memory
      rw [RunRecord.machine, Machine.foldl_step_done hstart, hzero] at hmemory
      have hthrown := hended.thrown
      rw [hzero] at hthrown
      unfold CpuExecutor.runBlocks
      simp only [htotal, if_true]
      refine ⟨hthrown, (congrArg Memory.cells hmemory).symm, fun worker _ => ?_⟩
      exact (congrFun (congrArg Memory.scratch hmemory) worker).symm
    · have hmemory : Machine.interleave r.job.function (threads + 1) schedule
          (.start (· % (threads + 1)) (CpuExecutor.blocks r.points) r.job.cells
            fun worker => r.job.scratch.getD worker default) =
          ⟨m.cells, m.scratch, (List.range r.total).map r.thrown⟩ := by
        rw [← hfollows.memory]
        exact congrArg Machine.memory (Machine.finish_done hdone _ _)
      unfold CpuExecutor.runBlocks
      simp only [htotal, if_false, hmemory]
      refine ⟨hended.thrown, trivial, fun worker hworker => ?_⟩
      simp [List.getD_eq_getElem?_getD, hworker]

theorem run_of_steps {events : List (ExecutorEvent (RunCall κ β) Exn)}
    (hsteps : ExecutorMachine.Steps (.initial κ β threads) events m) {thrown : Option Exn}
    (hreturn : ExecutorMachine.Step m (some (.returned thrown)) next) :
    ∃ r, (ledgerOf events).current = some r ∧ ∀ job : Job κ β Exn,
      r.job.function = job.block CpuExecutor.blockSize r.points → job.ScratchFree →
      job.Disjoint CpuExecutor.blockSize r.points →
      (∀ i < r.points, job.cell i < r.job.cells.length) →
      ∀ (executor : CpuExecutor) (scheduler : Scheduler) (state : ExecutorState) (scratch : List κ),
        let ran := executor.run scheduler state r.points job r.job.cells scratch
        thrown = ran.thrown ∧ m.cells = ran.cells := by
  obtain ⟨r, schedule, hcurrent, hthrown, hcells, -⟩ :=
    runBlocks_of_steps hsteps hreturn CpuExecutor.initial
  refine ⟨r, hcurrent, fun job hfunction hf hd hrange executor scheduler state scratch => ?_⟩
  rw [hfunction] at hthrown hcells
  obtain ⟨ht, hc⟩ := CpuExecutor.run_independent hf hd ⟨threads + 1, Nat.succ_pos threads⟩ executor
    ⟨fun _ _ _ => schedule⟩ scheduler CpuExecutor.initial state hrange r.job.scratch scratch
  exact ⟨hthrown.trans ht, hcells.trans hc⟩

end Runs

end PointcloudAd.Registration
