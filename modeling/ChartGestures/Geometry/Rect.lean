import ChartGestures.Geometry.Point

/-!
# Rectangles

Rectangles with sides along the axes of the surface, given by a corner and a size. A size that is not positive makes the
rectangle empty.
-/

namespace ChartGestures

structure Rect (α : Type) where
  x : α
  y : α
  width : α
  height : α

namespace Rect

variable {α : Type} [Scalar α]

def zero : Rect α := ⟨0, 0, 0, 0⟩

/-- The smallest rectangle that holds both points. -/
def ofPoints (p q : Point α) : Rect α :=
  let min := p.smaller q
  let max := p.larger q
  ⟨min.x, min.y, max.x - min.x, max.y - min.y⟩

def right (r : Rect α) : α := r.x + r.width

def bottom (r : Rect α) : α := r.y + r.height

def min (r : Rect α) : Point α := ⟨r.x, r.y⟩

def max (r : Rect α) : Point α := ⟨r.right, r.bottom⟩

def size (r : Rect α) : Point α := ⟨r.width, r.height⟩

def center (r : Rect α) : Point α := ⟨r.x + r.width / 2, r.y + r.height / 2⟩

def isEmpty (r : Rect α) : Bool := r.width ≤ 0 || r.height ≤ 0

def contains (r : Rect α) (p : Point α) : Bool := r.x ≤ p.x && p.x ≤ r.right && r.y ≤ p.y && p.y ≤ r.bottom

/-- Grows around the center to at least the given size. -/
def expandTo (r : Rect α) (minWidth minHeight : α) : Rect α :=
  let width := Scalar.larger r.width minWidth
  let height := Scalar.larger r.height minHeight
  ⟨r.center.x - width / 2, r.center.y - height / 2, width, height⟩

/-- The point of the rectangle nearest to `p`. -/
def clampPoint (r : Rect α) (p : Point α) : Point α := p.clamp r.min (r.max.larger r.min)

end Rect

end ChartGestures
