import ChartGestures.Number.Binary

/-!
# Points

Points and displacements on the chart surface, in pixels, and the functions of the plane that are no field arithmetic:
the length of a displacement and the trigonometry of angles in degrees.
-/

namespace ChartGestures

structure Point (α : Type) where
  x : α
  y : α
  deriving BEq

namespace Point

variable {α : Type} [Scalar α]

instance : Add (Point α) := ⟨fun p q => ⟨p.x + q.x, p.y + q.y⟩⟩

instance : Sub (Point α) := ⟨fun p q => ⟨p.x - q.x, p.y - q.y⟩⟩

def zero : Point α := ⟨0, 0⟩

def scale (p : Point α) (k : α) : Point α := ⟨p.x * k, p.y * k⟩

def smaller (p q : Point α) : Point α := ⟨Scalar.smaller p.x q.x, Scalar.smaller p.y q.y⟩

def larger (p q : Point α) : Point α := ⟨Scalar.larger p.x q.x, Scalar.larger p.y q.y⟩

/-- Brings both components between those of `lo` and `hi`. -/
def clamp (p lo hi : Point α) : Point α := (p.larger lo).smaller hi

end Point

class Trigonometry (α : Type) where
  length (x y : α) : α
  /-- The direction of a displacement, in degrees from the positive x axis toward the positive y axis. -/
  direction (x y : α) : α
  cosine (degrees : α) : α
  sine (degrees : α) : α

def Point.length {α : Type} [Trigonometry α] (p : Point α) : α := Trigonometry.length p.x p.y

def Point.direction {α : Type} [Trigonometry α] (p : Point α) : α := Trigonometry.direction p.x p.y

def degreesPerRadian : Float := 57.29577951308232

def radiansPerDegree : Float := 0.017453292519943295

instance : Trigonometry Float where
  length x y := (x * x + y * y).sqrt
  direction x y := y.atan2 x * degreesPerRadian
  cosine degrees := (degrees * radiansPerDegree).cos
  sine degrees := (degrees * radiansPerDegree).sin

end ChartGestures
