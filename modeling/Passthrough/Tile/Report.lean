import Passthrough.Tile.State

set_option autoImplicit false

/-! What a tile says about itself, and the report that joins its answers. -/

namespace Passthrough

/-- The object number of a tile and the version of its command interface. -/
structure TileAttributes where
  id : UInt32
  major : UInt32
  minor : UInt32
  deriving DecidableEq

structure ServiceLayerVersion where
  major : UInt32
  minor : UInt32
  revision : UInt32
  deriving DecidableEq

def ServiceLayerVersion.message (version : ServiceLayerVersion) : String :=
  s!"{version.major.toNat}.{version.minor.toNat}.{version.revision.toNat}"

structure TileStatus where
  attributes : TileAttributes
  serviceLayer : ServiceLayerVersion
  state : TileState
  deriving DecidableEq

/-- A heading and one indented line for each answer, without a final line break. -/
def TileStatus.message (status : TileStatus) : String :=
  "AIOP Tile Status:\n" ++
  s!"\t Major Version: {status.attributes.major.toNat}, " ++
  s!"Minor Version: {status.attributes.minor.toNat}\n" ++
  s!"\t Service Layer:- Major Version: {status.serviceLayer.major.toNat}, " ++
  s!"Minor Version: {status.serviceLayer.minor.toNat}, " ++
  s!"Revision: {status.serviceLayer.revision.toNat}\n" ++
  s!"\t State: {status.state.message}"

end Passthrough
