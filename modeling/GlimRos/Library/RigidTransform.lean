import GlimRos.Library.Rotation

/-!
# Rigid transforms

A rigid transform rotates and then translates.  Rigid transforms form a
group, which acts on homogeneous points; the pose of a frame `B` in a frame
`A` is the transform that carries coordinates in `B` to coordinates in `A`,
so poses along a chain of frames compose by multiplication.
-/

universe u

namespace Rigid

/-- A rigid transform of three-space. -/
@[ext]
structure Isometry3d (K : Type u) [CommRing K] where
  linear : Rotation K
  translation : Fin 3 → K

/-- A point in homogeneous coordinates. -/
@[ext]
structure Vector4d (K : Type u) where
  head : Fin 3 → K
  w : K

namespace Isometry3d

variable {K : Type u} [CommRing K]

instance : One (Isometry3d K) :=
  ⟨{ linear := 1
     translation := 0 }⟩

instance : Mul (Isometry3d K) :=
  ⟨fun outer inner =>
    { linear := outer.linear * inner.linear
      translation :=
        Rotation.apply outer.linear inner.translation +
          outer.translation }⟩

instance : Inv (Isometry3d K) :=
  ⟨fun transform =>
    { linear := transform.linear⁻¹
      translation :=
        -Rotation.apply transform.linear⁻¹ transform.translation }⟩

@[simp] theorem one_linear : (1 : Isometry3d K).linear = 1 := rfl

@[simp] theorem one_translation : (1 : Isometry3d K).translation = 0 := rfl

@[simp] theorem mul_linear (outer inner : Isometry3d K) :
    (outer * inner).linear = outer.linear * inner.linear := rfl

@[simp] theorem mul_translation (outer inner : Isometry3d K) :
    (outer * inner).translation =
      Rotation.apply outer.linear inner.translation +
        outer.translation := rfl

@[simp] theorem inv_linear (transform : Isometry3d K) :
    transform⁻¹.linear = transform.linear⁻¹ := rfl

@[simp] theorem inv_translation (transform : Isometry3d K) :
    transform⁻¹.translation =
      -Rotation.apply transform.linear⁻¹ transform.translation := rfl

instance : Group (Isometry3d K) where
  mul_assoc first second third := by
    ext1
    · simp [mul_assoc]
    · simp [Rotation.mul_apply, Rotation.apply_add, add_assoc]
  one_mul transform := by
    ext1 <;> simp
  mul_one transform := by
    ext1 <;> simp
  inv_mul_cancel transform := by
    ext1 <;> simp

instance : SMul (Isometry3d K) (Vector4d K) :=
  ⟨fun transform point =>
    { head :=
        Rotation.apply transform.linear point.head +
          point.w • transform.translation
      w := point.w }⟩

@[simp] theorem smul_head (transform : Isometry3d K) (point : Vector4d K) :
    (transform • point).head =
      Rotation.apply transform.linear point.head +
        point.w • transform.translation := rfl

@[simp] theorem smul_w (transform : Isometry3d K) (point : Vector4d K) :
    (transform • point).w = point.w := rfl

/-- Carrying points along a chain of frames composes. -/
instance : MulAction (Isometry3d K) (Vector4d K) where
  one_smul point := by
    ext1 <;> simp
  mul_smul outer inner point := by
    ext1
    · simp [Rotation.mul_apply, Rotation.apply_add, Rotation.apply_smul,
        add_assoc]
    · simp

/-- The transform with a given orientation and translation. -/
def ofParts (orientation : UnitQuaternion K) (translation : Fin 3 → K) :
    Isometry3d K :=
  { linear := orientation.toRotation
    translation := translation }

@[simp] theorem ofParts_linear
    (orientation : UnitQuaternion K) (translation : Fin 3 → K) :
    (ofParts orientation translation).linear = orientation.toRotation := rfl

@[simp] theorem ofParts_translation
    (orientation : UnitQuaternion K) (translation : Fin 3 → K) :
    (ofParts orientation translation).translation = translation := rfl

/-- Writing a transform as a quaternion and a translation and reading it
back is exact. -/
@[simp] theorem ofParts_ofRotation (conversion : QuaternionConversion K)
    (transform : Isometry3d K) :
    ofParts (conversion.ofRotation transform.linear)
      transform.translation = transform := by
  ext1 <;> simp

/-- Only the identity fixes all points. -/
theorem eq_one_iff_fixes_points (transform : Isometry3d K) :
    transform = 1 ↔
      ∀ point : Vector4d K, point.w = 1 → transform • point = point := by
  constructor
  · rintro rfl point _
    exact one_smul _ point
  · intro fixes
    have moved (head : Fin 3 → K) :
        Rotation.apply transform.linear head + transform.translation =
          head := by
      have fixed := congrArg Vector4d.head
        (fixes { head := head, w := 1 } rfl)
      rwa [smul_head, one_smul] at fixed
    have still : transform.translation = 0 := by
      have fixed := moved 0
      rwa [Rotation.apply_zero, zero_add] at fixed
    have rotated (head : Fin 3 → K) :
        Rotation.apply transform.linear head = head := by
      have fixed := moved head
      rwa [still, add_zero] at fixed
    have linear : transform.linear = 1 := by
      apply Subtype.ext
      apply Matrix.ext_of_mulVec_single
      intro column
      rw [OneMemClass.coe_one, Matrix.one_mulVec]
      exact rotated _
    ext1
    · exact linear
    · exact still

/-- A transform that undoes itself is one that equals its inverse. -/
theorem eq_inv_iff_mul_self (transform : Isometry3d K) :
    transform = transform⁻¹ ↔ transform * transform = 1 :=
  eq_inv_iff_mul_eq_one

end Isometry3d

end Rigid
