import Mathlib.LinearAlgebra.UnitaryGroup
import Mathlib.LinearAlgebra.Matrix.Determinant.Basic
import Mathlib.LinearAlgebra.Matrix.Notation
import Mathlib.Tactic.LinearCombination

/-!
# Rotations and unit quaternions

Rotations of three-space over a commutative ring are the special orthogonal
matrices.  A unit quaternion stands for the rotation given by the usual
quadratic formula; the opposite direction needs square roots and is a
conversion with one law.
-/

universe u

namespace Rigid

attribute [local instance] starRingOfComm

/-- The group of rotations of three-space. -/
abbrev Rotation (K : Type u) [CommRing K] :=
  Matrix.specialOrthogonalGroup (Fin 3) K

/-- Quaternions of norm one. -/
@[ext]
structure UnitQuaternion (K : Type u) [CommRing K] where
  w : K
  x : K
  y : K
  z : K
  unit : w ^ 2 + x ^ 2 + y ^ 2 + z ^ 2 = 1

namespace UnitQuaternion

variable {K : Type u} [CommRing K]

/-- The matrix entries computed from the doubled products of components. -/
def toRotationMatrix (q : UnitQuaternion K) : Matrix (Fin 3) (Fin 3) K :=
  !![1 - (2 * q.y * q.y + 2 * q.z * q.z), 2 * q.y * q.x - 2 * q.z * q.w,
      2 * q.z * q.x + 2 * q.y * q.w;
    2 * q.y * q.x + 2 * q.z * q.w, 1 - (2 * q.x * q.x + 2 * q.z * q.z),
      2 * q.z * q.y - 2 * q.x * q.w;
    2 * q.z * q.x - 2 * q.y * q.w, 2 * q.z * q.y + 2 * q.x * q.w,
      1 - (2 * q.x * q.x + 2 * q.y * q.y)]

theorem toRotationMatrix_orthogonal (q : UnitQuaternion K) :
    q.toRotationMatrix * q.toRotationMatrix.transpose = 1 := by
  have unit := q.unit
  ext row column
  fin_cases row <;> fin_cases column <;>
    simp [toRotationMatrix, Matrix.mul_apply, Fin.sum_univ_three]
  · linear_combination (4 * q.y ^ 2 + 4 * q.z ^ 2) * unit
  · linear_combination (-4 * q.x * q.y) * unit
  · linear_combination (-4 * q.x * q.z) * unit
  · linear_combination (-4 * q.x * q.y) * unit
  · linear_combination (4 * q.x ^ 2 + 4 * q.z ^ 2) * unit
  · linear_combination (-4 * q.y * q.z) * unit
  · linear_combination (-4 * q.x * q.z) * unit
  · linear_combination (-4 * q.y * q.z) * unit
  · linear_combination (4 * q.x ^ 2 + 4 * q.y ^ 2) * unit

theorem toRotationMatrix_det (q : UnitQuaternion K) :
    q.toRotationMatrix.det = 1 := by
  have unit := q.unit
  simp [toRotationMatrix, Matrix.det_fin_three]
  linear_combination (4 * (q.x ^ 2 + q.y ^ 2 + q.z ^ 2)) * unit

/-- The rotation a unit quaternion stands for. -/
def toRotation (q : UnitQuaternion K) : Rotation K :=
  ⟨q.toRotationMatrix,
    Matrix.mem_specialOrthogonalGroup_iff.mpr
      ⟨(Matrix.mem_orthogonalGroup_iff _ _).mpr
          q.toRotationMatrix_orthogonal,
        q.toRotationMatrix_det⟩⟩

end UnitQuaternion

/-- An exact conversion from rotations to unit quaternions: reading the
quaternion back gives the rotation. -/
structure QuaternionConversion (K : Type u) [CommRing K] where
  ofRotation : Rotation K → UnitQuaternion K
  toRotation_ofRotation : ∀ rotation,
    (ofRotation rotation).toRotation = rotation

attribute [simp] QuaternionConversion.toRotation_ofRotation

namespace Rotation

variable {K : Type u} [CommRing K]

/-- Rotate a vector. -/
def apply (rotation : Rotation K) (vector : Fin 3 → K) : Fin 3 → K :=
  rotation.val.mulVec vector

@[simp] theorem one_apply (vector : Fin 3 → K) :
    apply (1 : Rotation K) vector = vector := by
  simp [apply]

theorem mul_apply (first second : Rotation K) (vector : Fin 3 → K) :
    apply (first * second) vector = apply first (apply second vector) := by
  simp [apply, Matrix.mulVec_mulVec]

@[simp] theorem apply_zero (rotation : Rotation K) :
    apply rotation 0 = 0 :=
  Matrix.mulVec_zero _

theorem apply_add (rotation : Rotation K) (left right : Fin 3 → K) :
    apply rotation (left + right) =
      apply rotation left + apply rotation right :=
  Matrix.mulVec_add _ _ _

theorem apply_smul (rotation : Rotation K) (scale : K)
    (vector : Fin 3 → K) :
    apply rotation (scale • vector) = scale • apply rotation vector :=
  Matrix.mulVec_smul _ _ _

end Rotation

end Rigid
