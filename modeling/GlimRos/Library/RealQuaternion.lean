import GlimRos.Library.Rotation
import Mathlib.Analysis.Real.Sqrt
import Mathlib.LinearAlgebra.Matrix.Adjugate

/-!
# Unit quaternions of real rotations

The usual conversion picks a component of the quaternion that is safely away
from zero and divides by it.  All four branches are one formula: four times
the Gram matrix of the quaternion has rank one and is linear in the entries
of the rotation, so any normalised column with a positive diagonal entry is
the quaternion up to sign.
-/

namespace Rigid

attribute [local instance] starRingOfComm

section Gram

variable {K : Type*} [CommRing K]

/-- Four times the products of the components `w, x, y, z` of a quaternion,
read off the entries of its rotation matrix. -/
def gram (m : Matrix (Fin 3) (Fin 3) K) : Matrix (Fin 4) (Fin 4) K :=
  !![1 + m 0 0 + m 1 1 + m 2 2, m 2 1 - m 1 2, m 0 2 - m 2 0, m 1 0 - m 0 1;
    m 2 1 - m 1 2, 1 + m 0 0 - m 1 1 - m 2 2, m 0 1 + m 1 0, m 0 2 + m 2 0;
    m 0 2 - m 2 0, m 0 1 + m 1 0, 1 - m 0 0 + m 1 1 - m 2 2, m 1 2 + m 2 1;
    m 1 0 - m 0 1, m 0 2 + m 2 0, m 1 2 + m 2 1, 1 - m 0 0 - m 1 1 + m 2 2]

/-- A rotation matrix is its own cofactor matrix. -/
theorem adjugate_eq_transpose (rotation : Rotation K) :
    rotation.val.adjugate = rotation.val.transpose := by
  obtain ⟨orthogonal, determinant⟩ :=
    Matrix.mem_specialOrthogonalGroup_iff.mp rotation.property
  rw [Matrix.mem_orthogonalGroup_iff] at orthogonal
  calc
    rotation.val.adjugate =
        rotation.val.adjugate *
          (rotation.val * rotation.val.transpose) := by
      rw [orthogonal, mul_one]
    _ = rotation.val.transpose := by
      rw [← mul_assoc, Matrix.adjugate_mul, determinant, one_smul, one_mul]

theorem gram_symm (m : Matrix (Fin 3) (Fin 3) K) (row column : Fin 4) :
    gram m row column = gram m column row := by
  fin_cases row <;> fin_cases column <;> rfl

/-- The minors off the row and the column of the pivot. -/
theorem gram_minor (rotation : Rotation K) {pivot row column : Fin 4}
    (offRow : row ≠ pivot) (offColumn : column ≠ pivot) (ordered : row ≤ column) :
    gram rotation.val pivot row * gram rotation.val pivot column =
      gram rotation.val pivot pivot * gram rotation.val row column := by
  have cofactors := adjugate_eq_transpose rotation
  have columns := (Matrix.mem_orthogonalGroup_iff' _ _).mp
    (Matrix.mem_specialOrthogonalGroup_iff.mp rotation.property).1
  generalize rotation.val = m at *
  rw [m.eta_fin_three] at cofactors columns
  rw [Matrix.adjugate_fin_three_of] at cofactors
  simp [← Matrix.ext_iff, Fin.forall_fin_succ, Matrix.mul_apply,
    Fin.sum_univ_three] at cofactors columns
  fin_cases pivot <;> fin_cases row <;> try contradiction
  all_goals
    fin_cases column <;> try contradiction
  all_goals
    simp [gram]
    grind

theorem gram_rank_one (rotation : Rotation K) (pivot row column : Fin 4) :
    gram rotation.val pivot row * gram rotation.val pivot column =
      gram rotation.val pivot pivot * gram rotation.val row column := by
  by_cases offRow : row = pivot
  · rw [offRow]
  · by_cases offColumn : column = pivot
    · rw [offColumn, mul_comm, gram_symm _ row]
    · rcases le_total row column with ordered | ordered
      · exact gram_minor rotation offRow offColumn ordered
      · rw [mul_comm, gram_symm _ row]
        exact gram_minor rotation offColumn offRow ordered

end Gram

/-- The component to divide by: the scalar one when the trace is positive,
else the one of the largest diagonal entry. -/
noncomputable def pivot (m : Matrix (Fin 3) (Fin 3) ℝ) : Fin 4 :=
  if 0 < m 0 0 + m 1 1 + m 2 2 then 0
  else if m 0 0 < m 1 1 then
    if m 1 1 < m 2 2 then 3 else 2
  else
    if m 0 0 < m 2 2 then 3 else 1

theorem gram_pivot_pos (m : Matrix (Fin 3) (Fin 3) ℝ) :
    0 < gram m (pivot m) (pivot m) := by
  unfold pivot
  split
  · simp [gram]
    linarith
  · split <;> split <;> simp [gram] <;> linarith

/-- The column of the pivot, scaled to norm one. -/
noncomputable def component (m : Matrix (Fin 3) (Fin 3) ℝ) (index : Fin 4) :
    ℝ :=
  let root := Real.sqrt (gram m (pivot m) (pivot m))
  gram m (pivot m) index / (root + root)

theorem component_mul_component (rotation : Rotation ℝ)
    (row column : Fin 4) :
    component rotation.val row * component rotation.val column =
      gram rotation.val row column / 4 := by
  have positive := gram_pivot_pos rotation.val
  have square := Real.mul_self_sqrt positive.le
  have root : Real.sqrt
      (gram rotation.val (pivot rotation.val) (pivot rotation.val)) ≠ 0 :=
    (Real.sqrt_pos.mpr positive).ne'
  have rankOne := gram_rank_one rotation (pivot rotation.val) row column
  unfold component
  dsimp only
  generalize Real.sqrt _ = scale at *
  rw [div_mul_div_comm, rankOne, ← square]
  field_simp
  ring

/-- The unit quaternion of a real rotation. -/
noncomputable def quaternionOfRotation (rotation : Rotation ℝ) :
    UnitQuaternion ℝ :=
  { w := component rotation.val 0
    x := component rotation.val 1
    y := component rotation.val 2
    z := component rotation.val 3
    unit := by
      simp only [pow_two, component_mul_component]
      simp [gram]
      ring }

theorem toRotation_quaternionOfRotation (rotation : Rotation ℝ) :
    (quaternionOfRotation rotation).toRotation = rotation := by
  apply Subtype.ext
  ext row column
  fin_cases row <;> fin_cases column <;>
    simp [UnitQuaternion.toRotation, UnitQuaternion.toRotationMatrix,
      quaternionOfRotation, mul_assoc, component_mul_component] <;>
    simp [gram] <;> ring

/-- Over the reals the conversion exists for every rotation. -/
noncomputable def realConversion : QuaternionConversion ℝ :=
  { ofRotation := quaternionOfRotation
    toRotation_ofRotation := toRotation_quaternionOfRotation }

end Rigid
