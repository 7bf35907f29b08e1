import ChartGestures.Range.Basic

/-!
# Margins

An axis that always follows its data shows the data range grown by a margin on either side. Here the growth is undone,
and the margin found that leads to a wanted visible range instead of the present one.
-/

namespace ChartGestures

open Scalar

inductive AutoRange where
  | never
  | once
  /-- The visible range is always the data range grown by the margin. -/
  | always
  deriving BEq, DecidableEq

/-- Fractions of the data span, added below and above the data range. -/
structure GrowMargin (α : Type) where
  min : α
  max : α

namespace GrowMargin

variable {α : Type} [Scalar α] [Decimals α]

def zero : GrowMargin α := ⟨0, 0⟩

/-- The data bounds that the margin grows into `visible`. -/
def dataBounds? (margin : GrowMargin α) (visible : Range α) : Option (α × α) :=
  let scale := 1 + margin.min + margin.max
  if scale == 0 || !isFinite scale then none
  else
    let (min, max) := visible.preciseBounds
    let dataDiff := (max - min) / scale
    some (min + margin.min * dataDiff, max - margin.max * dataDiff)

/-- The margin that grows the same data range into `desired`; a data range of no width has none. -/
def toShow? (margin : GrowMargin α) (visible desired : Range α) : Option (GrowMargin α) := do
  let (dataMin, dataMax) ← margin.dataBounds? visible
  let dataDiff := dataMax - dataMin
  if dataDiff == 0 || !isFinite dataDiff then none
  else
    let (newMin, newMax) := desired.preciseBounds
    some ⟨(dataMin - newMin) / dataDiff, (newMax - dataMax) / dataDiff⟩

end GrowMargin

end ChartGestures
