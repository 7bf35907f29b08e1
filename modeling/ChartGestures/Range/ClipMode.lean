import ChartGestures.Number.Scalar

/-!
# Clip modes and halves of an axis

Which bounds of a range are held against the extents of the data, and which half of an axis a drag started in.
-/

namespace ChartGestures

/-- `stretchAtExtents` turns an overrun of the dragged bound into movement of the other one. -/
inductive ClipMode where
  | none
  | clipAtExtents
  | clipAtMin
  | clipAtMax
  | stretchAtExtents
  deriving BEq, DecidableEq

namespace ClipMode

def clipsMin : ClipMode → Bool
  | clipAtExtents | clipAtMin | stretchAtExtents => true
  | none | clipAtMax => false

def clipsMax : ClipMode → Bool
  | clipAtExtents | clipAtMax | stretchAtExtents => true
  | none | clipAtMin => false

end ClipMode

/-- The near half holds the least value of the axis, so that a drag from it moves the lower bound. -/
inductive DragHalf where
  | near
  | far
  deriving BEq, DecidableEq

namespace DragHalf

/-- The half of a position given as a fraction of the axis from its least value. -/
def ofFraction {α : Type} [Scalar α] (fraction : α) : DragHalf := if 0.5 < fraction then far else near

def opposite : DragHalf → DragHalf
  | near => far
  | far => near

end DragHalf

end ChartGestures
