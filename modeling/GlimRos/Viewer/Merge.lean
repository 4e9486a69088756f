import GlimRos.Viewer.GlobalMap
import Mathlib.Algebra.BigOperators.Group.List.Basic

/-!
# What the merge loop writes

If the stored submaps are those that the poses belong to and their sizes sum
up within `int`, the running offset `begin` is the number of points written,
every write stays within the storage, and nothing is left unwritten.
-/

namespace GlimRos.Viewer

open Rigid

variable {K : Type} [CommRing K]

/-- The points of a submap, carried by its pose. -/
def SubMap.worldPoints (submap : SubMap K) : List (Vector4d K) :=
  submap.frame.object.points.map fun point => submap.tWorldOrigin • point

/-- The number of points of a list of submaps. -/
def sizeSum (submaps : List (SubMap K)) : Nat :=
  (submaps.map fun submap => submap.frame.size).sum

@[simp] theorem sizeSum_nil : sizeSum ([] : List (SubMap K)) = 0 := rfl

@[simp] theorem sizeSum_cons (submap : SubMap K)
    (submaps : List (SubMap K)) :
    sizeSum (submap :: submaps) = submap.frame.size + sizeSum submaps := by
  simp [sizeSum]

@[simp] theorem worldPoints_length (submap : SubMap K) :
    submap.worldPoints.length = submap.frame.size := by
  simp [SubMap.worldPoints, Shared.size]

theorem flatMap_worldPoints_length (submaps : List (SubMap K)) :
    (submaps.flatMap SubMap.worldPoints).length = sizeSum submaps := by
  induction submaps with
  | nil => rfl
  | cons submap submaps induction => simp [induction]

/-- A small non-negative sum is its own `int`. -/
theorem toInt_of_fits {value : Nat} (fits : value < 2 ^ 31) :
    toInt value = value := by
  unfold toInt
  rw [Int.bmod_eq_of_le]
  · omega
  · omega

theorem totalNumPoints_from (submaps : List (SubMap K)) (counted : Nat)
    (fits : counted + sizeSum submaps < 2 ^ 31) :
    (submaps.map SubMap.frame).foldl
        (fun total submap => toInt (total + submap.size)) (counted : Int) =
      (counted + sizeSum submaps : Nat) := by
  induction submaps generalizing counted with
  | nil => rfl
  | cons submap submaps induction =>
      rw [sizeSum_cons] at fits ⊢
      rw [List.map_cons, List.foldl_cons, ← Nat.cast_add,
        toInt_of_fits (by omega), induction _ (by omega), Nat.add_assoc]

theorem totalNumPoints_eq (submaps : List (SubMap K))
    (fits : sizeSum submaps < 2 ^ 31) :
    totalNumPoints (submaps.map SubMap.frame) = sizeSum submaps := by
  have total := totalNumPoints_from submaps 0 (by omega)
  rwa [Nat.zero_add] at total

/-- Writing a submap behind what is written replaces as much of the rest. -/
theorem transformInto_written (submap : SubMap K)
    (written blank : List (Vector4d K))
    (room : submap.frame.size ≤ blank.length) :
    transformInto (some submap.tWorldOrigin) submap.frame.object.points
        written.length (written ++ blank) =
      some (written ++ submap.worldPoints ++
        blank.drop submap.frame.size) := by
  unfold transformInto
  by_cases empty : submap.frame.object.points = []
  · simp [empty, SubMap.worldPoints, Shared.size]
  · have within : (0 : Int) ≤ written.length ∧
        (written.length : Int) + submap.frame.object.points.length ≤
          (written ++ blank).length := by
      rw [List.length_append]
      unfold Shared.size at room
      omega
    rw [if_neg empty]
    dsimp only
    rw [if_pos within, Int.toNat_natCast, List.take_left,
      List.drop_length_add_append]
    rfl

/-- The loop invariant: the poses read so far are those of the submaps
written, and the storage left is what the submaps to come need. -/
theorem mergeFrom_eq (earlier : List (Isometry3d K))
    (submaps : List (SubMap K)) (written blank : List (Vector4d K))
    (room : blank.length = sizeSum submaps)
    (fits : written.length + sizeSum submaps < 2 ^ 31) :
    mergeFrom (earlier ++ submaps.map SubMap.tWorldOrigin)
        (submaps.map SubMap.frame) earlier.length written.length
        (written ++ blank) =
      some (written ++ submaps.flatMap SubMap.worldPoints) := by
  induction submaps generalizing earlier written blank with
  | nil =>
      have nothing : blank = [] := List.length_eq_zero_iff.mp room
      rw [nothing]
      rfl
  | cons submap submaps induction =>
      rw [sizeSum_cons] at room fits
      have here : (earlier ++ submap.tWorldOrigin ::
          submaps.map SubMap.tWorldOrigin)[earlier.length]? =
          some submap.tWorldOrigin := by
        rw [List.getElem?_append_right le_rfl, Nat.sub_self]
        rfl
      have offset :
          toInt ((written.length : Int) + submap.frame.size) =
            (written ++ submap.worldPoints).length := by
        rw [← Nat.cast_add, toInt_of_fits (by omega), List.length_append,
          worldPoints_length]
      have next := induction (earlier ++ [submap.tWorldOrigin])
        (written ++ submap.worldPoints) (blank.drop submap.frame.size)
        (by rw [List.length_drop]; omega)
        (by rw [List.length_append, worldPoints_length]; omega)
      rw [List.length_append, List.length_singleton, List.append_assoc,
        List.singleton_append] at next
      rw [List.map_cons, List.map_cons, mergeFrom, here,
        transformInto_written submap written blank (by omega)]
      dsimp only
      rw [offset, next, List.flatMap_cons, List.append_assoc]

/-- Merging the submaps of a notification with their poses. -/
theorem mergeSubmaps_eq (api : ViewerApi K) (submaps : List (SubMap K))
    (fits : sizeSum submaps < 2 ^ 31) :
    mergeSubmaps api (submaps.map SubMap.frame)
        (submaps.map SubMap.tWorldOrigin) =
      some (submaps.flatMap SubMap.worldPoints) := by
  have merged := mergeFrom_eq [] submaps []
    (List.replicate (sizeSum submaps) api.uninitialized)
    (List.length_replicate ..) (by simpa using fits)
  rw [mergeSubmaps, totalNumPoints_eq submaps fits, if_neg (by omega),
    Int.toNat_natCast]
  exact merged

end GlimRos.Viewer
