import ChartGestures.Range.Basic
import ChartGestures.Text.Shortest
import ChartGestures.Time.Text

/-!
# Text of ranges

The two bounds in brackets, each as values of its kind are written.
-/

namespace ChartGestures

def boundsText {V : Type} (text : V → String) (min max : V) : String := "[" ++ text min ++ ", " ++ text max ++ "]"

def Range.text [Decimals Float] : Range Float → String
  | double r => boundsText (Binary.text .double) r.min r.max
  | float r => boundsText (Binary.text .single) r.min r.max
  | int32 r => boundsText (fun n => toString n.toInt) r.min r.max
  | int64 r => boundsText (fun n => toString n.toInt) r.min r.max
  | decimal r => boundsText Decimals.text r.min r.max
  | date r => boundsText Date.text r.min r.max
  | timeSpan r => boundsText TimeSpan.text r.min r.max
  | index r => boundsText (fun n => toString n.toInt) r.min r.max

end ChartGestures
