import ChartGestures.Number.Scalar

/-!
# Exact numbers

The rational numbers as a number type: nothing is rounded, and every value is finite.
-/

namespace ChartGestures

instance : Scalar Rat where
  literal _ := inferInstance
  decidableLT := inferInstance
  decidableLE := inferInstance
  ofRat q := q
  toRat? q := some q

end ChartGestures
