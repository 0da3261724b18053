import Mathlib.Data.Nat.Find
import Mathlib.Order.Basic
import Mathlib.Tactic.ByContra

/-!
# Weakly fair schedules

Processes take turns on a shared state, and a tick may pass without any step. A system whose work
never grows, and in which some process that would lessen it is ready until its turn comes, reaches
its goal in every weakly fair schedule.
-/

namespace PointcloudAd.Library

variable {σ τ : Type}

/-- The states at every tick, and the process whose turn it was. -/
structure Schedule (step : σ → τ → σ → Prop) where
  state : ℕ → σ
  turn : ℕ → Option τ
  moves : ∀ n, (∃ t, turn n = some t ∧ step (state n) t (state (n + 1))) ∨
    turn n = none ∧ state (n + 1) = state n

/-- No process is passed over forever while it could take a step. -/
def Schedule.Fair {step : σ → τ → σ → Prop} (schedule : Schedule step) (ready : σ → τ → Prop) :
    Prop :=
  ∀ t n, (∀ m ≥ n, ready (schedule.state m) t) → ∃ m ≥ n, schedule.turn m = some t

/-- A measure of the work that is left before a goal, and the processes that lessen it. A process
that helps goes on to do so until its turn comes. -/
structure Helpful (step : σ → τ → σ → Prop) (ready : σ → τ → Prop) (Inv Goal : σ → Prop) where
  helps : σ → τ → Prop
  work : σ → ℕ
  keeps : ∀ ⦃s t s'⦄, Inv s → ¬ Goal s → step s t s' → Inv s'
  exists_helps : ∀ ⦃s⦄, Inv s → ¬ Goal s → ∃ t, helps s t
  ready : ∀ ⦃s t⦄, Inv s → ¬ Goal s → helps s t → ready s t
  work_le : ∀ ⦃s t s'⦄, Inv s → ¬ Goal s → step s t s' → work s' ≤ work s
  work_lt : ∀ ⦃s t s'⦄, Inv s → ¬ Goal s → helps s t → step s t s' → work s' < work s
  persists : ∀ ⦃s t u s'⦄, Inv s → ¬ Goal s → helps s t → step s u s' → u ≠ t → helps s' t

section Fair

variable {step : σ → τ → σ → Prop} {ready : σ → τ → Prop} {Inv Goal : σ → Prop}
  {schedule : Schedule step}

/-- As long as its turn does not come, a process that helps goes on to do so, and the work does not
grow. -/
theorem Helpful.waits (helpful : Helpful step ready Inv Goal) {t : τ} {n m : ℕ} (hm : n ≤ m)
    (hinvariant : ∀ k ≥ n, Inv (schedule.state k))
    (hgoal : ∀ k ≥ n, ¬ Goal (schedule.state k)) (hhelps : helpful.helps (schedule.state n) t)
    (hturn : ∀ k ≥ n, k < m → schedule.turn k ≠ some t) :
    helpful.helps (schedule.state m) t ∧
      helpful.work (schedule.state m) ≤ helpful.work (schedule.state n) := by
  induction m, hm using Nat.le_induction with
  | base => exact ⟨hhelps, le_rfl⟩
  | succ m hm ih =>
    obtain ⟨hstill, hwork⟩ := ih fun k hk hlt => hturn k hk (Nat.lt_succ_of_lt hlt)
    rcases schedule.moves m with ⟨u, hu, hstep⟩ | ⟨-, hsame⟩
    · have hne : u ≠ t := by
        rintro rfl
        exact hturn m hm (Nat.lt_succ_self m) hu
      exact ⟨helpful.persists (hinvariant m hm) (hgoal m hm) hstill hstep hne,
        (helpful.work_le (hinvariant m hm) (hgoal m hm) hstep).trans hwork⟩
    · rw [hsame]
      exact ⟨hstill, hwork⟩

/-- Away from the goal the work that is left becomes less. -/
theorem Helpful.progress (helpful : Helpful step ready Inv Goal)
    (hfair : schedule.Fair ready) {n : ℕ} (hinvariant : ∀ k ≥ n, Inv (schedule.state k))
    (hgoal : ∀ k ≥ n, ¬ Goal (schedule.state k)) :
    ∃ m ≥ n, helpful.work (schedule.state m) < helpful.work (schedule.state n) := by
  classical
  obtain ⟨t, hhelps⟩ := helpful.exists_helps (hinvariant n le_rfl) (hgoal n le_rfl)
  have hcomes : ∃ m, n ≤ m ∧ schedule.turn m = some t := by
    by_contra hnever
    have hnot : ∀ k ≥ n, schedule.turn k ≠ some t := fun k hk hturn => hnever ⟨k, hk, hturn⟩
    have hready : ∀ m ≥ n, ready (schedule.state m) t := fun m hm =>
      helpful.ready (hinvariant m hm) (hgoal m hm)
        (helpful.waits hm hinvariant hgoal hhelps fun k hk _ => hnot k hk).1
    obtain ⟨m, hm, hturn⟩ := hfair t n hready
    exact hnot m hm hturn
  -- the first turn of the process that helps
  obtain ⟨hm, hturn⟩ := Nat.find_spec hcomes
  obtain ⟨hstill, hwork⟩ := helpful.waits hm hinvariant hgoal hhelps fun k hk hlt hturn =>
    Nat.find_min hcomes hlt ⟨hk, hturn⟩
  rcases schedule.moves (Nat.find hcomes) with ⟨u, hu, hstep⟩ | ⟨hnone, -⟩
  · obtain rfl : u = t := Option.some.inj (hu.symm.trans hturn)
    have hlt := helpful.work_lt (hinvariant _ hm) (hgoal _ hm) hstill hstep
    exact ⟨Nat.find hcomes + 1, by omega, hlt.trans_le hwork⟩
  · rw [hnone] at hturn
    cases hturn

/-- Every weakly fair schedule reaches the goal, and keeps the invariant until then. -/
theorem Helpful.reaches (helpful : Helpful step ready Inv Goal)
    (hfair : schedule.Fair ready) {n : ℕ} (h : Inv (schedule.state n)) :
    ∃ m ≥ n, Inv (schedule.state m) ∧ Goal (schedule.state m) := by
  by_contra hnever
  have hgoal : ∀ k ≥ n, Inv (schedule.state k) → ¬ Goal (schedule.state k) :=
    fun k hk hinvariant hgoal => hnever ⟨k, hk, hinvariant, hgoal⟩
  have hinvariant : ∀ k ≥ n, Inv (schedule.state k) := by
    intro k hk
    induction k, hk using Nat.le_induction with
    | base => exact h
    | succ k hk ih =>
      rcases schedule.moves k with ⟨t, -, hstep⟩ | ⟨-, hsame⟩
      · exact helpful.keeps ih (hgoal k hk ih) hstep
      · rwa [hsame]
  have hbelow : ∀ bound, ∀ k ≥ n, helpful.work (schedule.state k) ≠ bound := by
    intro bound
    induction bound using Nat.strong_induction_on with
    | _ bound ih =>
      intro k hk hwork
      obtain ⟨m, hm, hlt⟩ := helpful.progress hfair (n := k)
        (fun l hl => hinvariant l (hk.trans hl))
        fun l hl => hgoal l (hk.trans hl) (hinvariant l (hk.trans hl))
      exact ih _ (hwork ▸ hlt) m (hk.trans hm) rfl
  exact hbelow _ n le_rfl rfl

end Fair

/-- Some weakly fair schedule begins here. -/
def FairFrom (step : σ → τ → σ → Prop) (ready : σ → τ → Prop) (s : σ) : Prop :=
  ∃ schedule : Schedule step, schedule.state 0 = s ∧ schedule.Fair ready

section FairFrom

variable {step : σ → τ → σ → Prop} {ready : σ → τ → Prop} {s s' : σ} {t : τ}

theorem FairFrom.rest (h : ∀ t, ¬ ready s t) : FairFrom step ready s :=
  ⟨⟨fun _ => s, fun _ => none, fun _ => .inr ⟨rfl, rfl⟩⟩, rfl,
    fun t n hready => absurd (hready n le_rfl) (h t)⟩

theorem FairFrom.before (hstep : step s t s') (h : FairFrom step ready s') :
    FairFrom step ready s := by
  obtain ⟨schedule, rfl, hfair⟩ := h
  refine ⟨⟨fun n => n.casesOn s schedule.state, fun n => n.casesOn (some t) schedule.turn, ?_⟩,
    rfl, ?_⟩
  · intro n
    cases n with
    | zero => exact .inl ⟨t, rfl, hstep⟩
    | succ n => exact schedule.moves n
  · intro u n hready
    obtain ⟨m, hm, hturn⟩ := hfair u n fun m hm => hready (m + 1) (Nat.le_succ_of_le hm)
    exact ⟨m + 1, Nat.le_succ_of_le hm, hturn⟩

end FairFrom

end PointcloudAd.Library
