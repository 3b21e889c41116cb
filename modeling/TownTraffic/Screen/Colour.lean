/-!
# Colours

The colours in which agents, start spots and labels are drawn.
-/

namespace TownTraffic

/-- A colour by its parts of red, green and blue. -/
structure Colour where
  red : UInt8
  green : UInt8
  blue : UInt8
deriving Repr, DecidableEq, Inhabited

namespace Colour

/-- The colour of pedestrians. -/
def pedestrian : Colour := ⟨102, 153, 51⟩

/-- The colour of vehicles. -/
def vehicle : Colour := ⟨153, 51, 0⟩

/-- The colour of start spots. -/
def startSpot : Colour := ⟨30, 90, 200⟩

/-- The colour of the labels of start spots. -/
def label : Colour := ⟨20, 20, 20⟩

end Colour

end TownTraffic
