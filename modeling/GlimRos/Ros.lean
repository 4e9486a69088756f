import Mathlib.Data.String.Basic

/-!
# Shared ROS data

Message parts and the `meta` section of the global configuration, which the
node writes when it detects frame names and the viewer reads.
-/

namespace GlimRos

/-- The three doubles of `geometry_msgs/Vector3` and `geometry_msgs/Point`. -/
@[ext]
structure Vector3 (K : Type) where
  x : K
  y : K
  z : K
  deriving DecidableEq, Repr

/-- The `meta` parameters of `GlobalConfig`; `none` is a missing parameter. -/
@[ext]
structure MetaConfig where
  imuFrameId : Option String
  lidarFrameId : Option String
  imageFrame : Option String
  deriving DecidableEq, Repr

namespace MetaConfig

def empty : MetaConfig :=
  { imuFrameId := none
    lidarFrameId := none
    imageFrame := none }

/-- `if (!has_param("meta", key)) override_param("meta", key, frame_id)`. -/
def detect (entry : Option String) (frameId : String) : Option String :=
  match entry with
  | none => some frameId
  | some present => some present

end MetaConfig

end GlimRos
