import Mathlib.Logic.Function.Basic
import PointcloudAd.Registration.Kernels

/-!
# The kernels on memory

The transform kernels read one span of points and write another, which may be the same one. The
vector kernel reads four points before it writes them, and leaves the rest to the scalar kernel.
-/

namespace PointcloudAd.Registration

open Library

variable {D : Type} [FloatArith D]

/-- Points in memory, by address. -/
abbrev PointMemory (D : Type) : Type := ℕ → Vec3 D

def PointMemory.write (memory : PointMemory D) (address : ℕ) (point : Vec3 D) : PointMemory D :=
  Function.update memory address point

structure Span where
  base : ℕ
  size : ℕ

def Span.subspan (span : Span) (offset : ℕ) : Span := ⟨span.base + offset, span.size - offset⟩

/-- Spans of the sizes that a kernel requires, which do not overlap or are one. -/
structure Transformable (input output : Span) : Prop where
  sameSize : output.size = input.size
  apart : input.base = output.base ∨ input.base + input.size ≤ output.base ∨
    output.base + output.size ≤ input.base

/-- `_mm256_set_pd` names the highest lane first. -/
def setPd (e3 e2 e1 e0 : D) : Fin 4 → D := ![e0, e1, e2, e3]

def set1Pd (e : D) : Fin 4 → D := fun _ => e

def addPd (a b : Fin 4 → D) : Fin 4 → D := fun lane => a lane + b lane

def mulPd (a b : Fin 4 → D) : Fin 4 → D := fun lane => a lane * b lane

def scalarStep (m : Matrix4 D) (input output : Span) (memory : PointMemory D) (i : ℕ) :
    PointMemory D :=
  memory.write (output.base + i) (transformPoint m (memory (input.base + i)))

def transformScalarSpan (m : Matrix4 D) (input output : Span) (memory : PointMemory D) :
    PointMemory D :=
  (List.range input.size).foldl (scalarStep m input output) memory

/-- One row of the transform of the four points in the registers. -/
def rowLanes (m : Matrix4 D) (row : Fin 3) (x y z : Fin 4 → D) : Fin 4 → D :=
  let entry (column : Fin 4) : D := m (rowColumn row.castSucc column)
  let result := addPd (mulPd (set1Pd (entry 0)) x) (mulPd (set1Pd (entry 1)) y)
  let result := addPd result (mulPd (set1Pd (entry 2)) z)
  addPd result (set1Pd (entry 3))

/-- One pass of the vector loop, over the four points from an index on. -/
def vectorStep (m : Matrix4 D) (input output : Span) (memory : PointMemory D) (i : ℕ) :
    PointMemory D :=
  let p (lane : ℕ) : Vec3 D := memory (input.base + (i + lane))
  let x := setPd (p 3).x (p 2).x (p 1).x (p 0).x
  let y := setPd (p 3).y (p 2).y (p 1).y (p 0).y
  let z := setPd (p 3).z (p 2).z (p 1).z (p 0).z
  let values (row : Fin 3) : Fin 4 → D := rowLanes m row x y z
  (List.finRange 4).foldl (fun memory (lane : Fin 4) =>
    memory.write (output.base + (i + lane)) ⟨values 0 lane, values 1 lane, values 2 lane⟩) memory

/-- The vector loop from an index on, and the scalar kernel on the rest. -/
def vectorLoop (m : Matrix4 D) (input output : Span) (memory : PointMemory D) (i : ℕ) :
    PointMemory D :=
  if i + 4 ≤ input.size then
    vectorLoop m input output (vectorStep m input output memory i) (i + 4)
  else transformScalarSpan m (input.subspan i) (output.subspan i) memory
termination_by input.size - i

def transformAvx2Span (m : Matrix4 D) (input output : Span) (memory : PointMemory D) :
    PointMemory D :=
  vectorLoop m input output memory 0

def objectiveScalar (input : ObjectiveInput D) : ObjectiveContribution D :=
  objective scalarOperations input

def objectiveAvx2 (input : ObjectiveInput D) : ObjectiveContribution D :=
  objective avxOperations input

section Writes

variable (m : Matrix4 D) {input output : Span} (memory : PointMemory D)

/-- Memory with the first points of the output written. -/
def written (input output : Span) (count : ℕ) : PointMemory D := fun address =>
  if output.base ≤ address ∧ address < output.base + count then
    transformPoint m (memory (input.base + (address - output.base)))
  else memory address

variable {memory}

theorem written_input (h : Transformable input output) {count i : ℕ} (hcount : count ≤ i)
    (hi : i < input.size) :
    written m memory input output count (input.base + i) = memory (input.base + i) := by
  have hsize := h.sameSize
  apply if_neg
  rintro ⟨hfrom, hto⟩
  rcases h.apart with h | h | h
  · omega
  · omega
  · omega

theorem written_succ (count : ℕ) :
    (written m memory input output count).write (output.base + count)
      (transformPoint m (memory (input.base + count))) =
      written m memory input output (count + 1) := by
  funext address
  unfold PointMemory.write
  by_cases haddress : address = output.base + count
  · subst haddress
    rw [Function.update_self, written, if_pos (by omega), Nat.add_sub_cancel_left]
  · rw [Function.update_of_ne haddress, written, written]
    have hiff : (output.base ≤ address ∧ address < output.base + count) ↔
        output.base ≤ address ∧ address < output.base + (count + 1) := by omega
    simp only [hiff]

theorem scalar_written (h : Transformable input output) {i : ℕ} (hi : i ≤ input.size) :
    transformScalarSpan m (input.subspan i) (output.subspan i) (written m memory input output i) =
      written m memory input output input.size := by
  have hloop : ∀ count, i + count ≤ input.size →
      (List.range count).foldl (scalarStep m (input.subspan i) (output.subspan i))
        (written m memory input output i) = written m memory input output (i + count) := by
    intro count hcount
    induction count with
    | zero => rfl
    | succ count ih =>
      rw [List.range_succ, List.foldl_append, ih (by omega)]
      change (written m memory input output (i + count)).write (output.base + i + count)
        (transformPoint m (written m memory input output (i + count)
          (input.base + i + count))) = _
      rw [Nat.add_assoc, Nat.add_assoc, written_input m h le_rfl (by omega), written_succ]
      rfl
  have hrest := hloop (input.size - i) (by omega)
  rwa [Nat.add_sub_cancel' hi] at hrest

theorem vector_written (h : Transformable input output) {i : ℕ} (hi : i + 4 ≤ input.size) :
    vectorStep m input output (written m memory input output i) i =
      written m memory input output (i + 4) := by
  have hread : ∀ lane < 4, written m memory input output i (input.base + (i + lane)) =
      memory (input.base + (i + lane)) := fun lane hlane =>
    written_input m h (Nat.le_add_right i lane) (by omega)
  have hlanes : vectorStep m input output (written m memory input output i) i =
      ((((written m memory input output i).write (output.base + i)
        (transformPoint m (memory (input.base + i)))).write (output.base + (i + 1))
        (transformPoint m (memory (input.base + (i + 1))))).write (output.base + (i + 2))
        (transformPoint m (memory (input.base + (i + 2))))).write (output.base + (i + 3))
        (transformPoint m (memory (input.base + (i + 3)))) := by
    unfold vectorStep
    simp only [hread 0 (by decide), hread 1 (by decide), hread 2 (by decide), hread 3 (by decide)]
    rfl
  rw [hlanes, written_succ, written_succ m (i + 1), written_succ m (i + 2),
    written_succ m (i + 3)]

theorem vectorLoop_written (h : Transformable input output) {i : ℕ} (hi : i ≤ input.size) :
    vectorLoop m input output (written m memory input output i) i =
      written m memory input output input.size := by
  induction hrest : input.size - i using Nat.strong_induction_on generalizing i with
  | _ rest ih =>
    rw [vectorLoop]
    by_cases hblock : i + 4 ≤ input.size
    · rw [if_pos hblock, vector_written m h hblock]
      exact ih (input.size - (i + 4)) (by omega) hblock rfl
    · rw [if_neg hblock]
      exact scalar_written m h hi

variable (memory) in
theorem written_zero (input output : Span) : written m memory input output 0 = memory := by
  funext address
  apply if_neg
  omega

theorem transformAvx2Span_written (h : Transformable input output) :
    transformAvx2Span m input output memory = written m memory input output input.size := by
  have hloop : transformAvx2Span m input output (written m memory input output 0) =
      written m memory input output input.size := vectorLoop_written m h (Nat.zero_le _)
  rwa [written_zero] at hloop

theorem transformScalarSpan_written (h : Transformable input output) :
    transformScalarSpan m input output memory = written m memory input output input.size := by
  have hloop : transformScalarSpan m input output (written m memory input output 0) =
      written m memory input output input.size := scalar_written m h (Nat.zero_le _)
  rwa [written_zero] at hloop

theorem written_output (input output : Span) {i : ℕ} (hi : i < input.size) :
    written m memory input output input.size (output.base + i) =
      transformPoint m (memory (input.base + i)) := by
  rw [written, if_pos (by omega), Nat.add_sub_cancel_left]

theorem transformAvx2Span_read (h : Transformable input output) :
    (List.range input.size).map
        (fun i => transformAvx2Span m input output memory (output.base + i)) =
      transformAvx2 m ((List.range input.size).map fun i => memory (input.base + i)) := by
  rw [transformAvx2Span_written m h, transformAvx2_eq, transformScalar, List.map_map]
  apply List.map_congr_left
  intro i hi
  exact written_output m input output (List.mem_range.mp hi)

end Writes

/-- On spans that are one or apart, the vector kernels write what the scalar ones do: the
transformed points over the output and nothing elsewhere. -/
theorem vectorKernels_eq :
    (∀ (m : Matrix4 D) (input output : Span) (memory : PointMemory D),
      Transformable input output →
      transformAvx2Span m input output memory = transformScalarSpan m input output memory ∧
      (∀ i < input.size, transformAvx2Span m input output memory (output.base + i) =
        transformPoint m (memory (input.base + i))) ∧
      ∀ address, (address < output.base ∨ output.base + output.size ≤ address) →
        transformAvx2Span m input output memory address = memory address) ∧
    ∀ input : ObjectiveInput D, objectiveAvx2 input = objectiveScalar input := by
  constructor
  · intro m input output memory h
    rw [transformAvx2Span_written m h, transformScalarSpan_written m h]
    refine ⟨rfl, fun i hi => written_output m input output hi, fun address haddress => ?_⟩
    apply if_neg
    rw [← h.sameSize]
    omega
  · intro input
    unfold objectiveAvx2 objectiveScalar
    rw [avxOperations_eq]

/-- Five points transformed where they are, between two others. -/
theorem vectorKernels_eq_in_place :
    let m : Matrix4 (Exact ℚ) := fun entry => .fin entry
    let memory : PointMemory (Exact ℚ) := fun address => ⟨.fin address, .fin 1, .fin 2⟩
    transformAvx2Span m ⟨1, 5⟩ ⟨1, 5⟩ memory = transformScalarSpan m ⟨1, 5⟩ ⟨1, 5⟩ memory ∧
      (∀ i < 5, transformAvx2Span m ⟨1, 5⟩ ⟨1, 5⟩ memory (1 + i) =
        transformPoint m (memory (1 + i))) ∧
      transformAvx2Span m ⟨1, 5⟩ ⟨1, 5⟩ memory 0 = memory 0 ∧
      transformAvx2Span m ⟨1, 5⟩ ⟨1, 5⟩ memory 6 = memory 6 := by
  intro m memory
  obtain ⟨hsame, hwritten, hkept⟩ := vectorKernels_eq.1 m ⟨1, 5⟩ ⟨1, 5⟩ memory ⟨rfl, .inl rfl⟩
  exact ⟨hsame, hwritten, hkept 0 (.inl Nat.one_pos), hkept 6 (.inr le_rfl)⟩

end PointcloudAd.Registration
