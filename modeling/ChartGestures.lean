import ChartGestures.Gesture.Linked
import ChartGestures.Main
import ChartGestures.Number.Exact
import ChartGestures.Proofs.Gesture.PointerOwnership
import ChartGestures.Proofs.Pane.Delivery
import ChartGestures.Proofs.Number.Order
import ChartGestures.Proofs.Number.Binary
import ChartGestures.Proofs.Range.Shadows
import ChartGestures.Proofs.Range.Exact
import ChartGestures.Proofs.Axis.MarginPath
import ChartGestures.Proofs.Number.Rounding
import ChartGestures.Proofs.Range.Domains
import ChartGestures.Proofs.Range.Ordering
import ChartGestures.Proofs.Range.HardStop
import ChartGestures.Proofs.Range.Scrolling
import ChartGestures.Proofs.Pane.Watch
import ChartGestures.Proofs.Pane.Writes
import ChartGestures.Proofs.Gesture.Pans
import ChartGestures.Proofs.Gesture.PanChannels
import ChartGestures.Proofs.Gesture.XAxes
import ChartGestures.Proofs.Gesture.Lockstep
import ChartGestures.Proofs.Gesture.LinkedPans
import ChartGestures.Proofs.Pane.OthersChanges
import ChartGestures.Proofs.Gesture.OthersCalls
import ChartGestures.Proofs.Gesture.OwnWrites
import ChartGestures.Proofs.Gesture.TouchPromotion
import ChartGestures.Proofs.Gesture.TouchInput
import ChartGestures.Proofs.Axis.Mirror
import ChartGestures.Proofs.Axis.Direct
import ChartGestures.Proofs.Gesture.Pinching
import ChartGestures.Proofs.Gesture.StickyPans
import ChartGestures.Proofs.Pane.Batches
import ChartGestures.Proofs.Gesture.MouseBatches
import ChartGestures.Proofs.Gesture.StepNotices
import ChartGestures.Proofs.Gesture.CategoryDrags
import ChartGestures.Proofs.Gesture.Polling
import ChartGestures.Proofs.Script.PollingGrid
import ChartGestures.Proofs.Gesture.ExclusiveClaims
import ChartGestures.Proofs.Gesture.SlaveAxes
import ChartGestures.Proofs.Gesture.Membership
import ChartGestures.Proofs.Gesture.Removals
import ChartGestures.Proofs.Gesture.Attachments
import ChartGestures.Proofs.Gesture.AnchoredZooms
import ChartGestures.Proofs.Axis.MarginInverse
import ChartGestures.Proofs.Axis.RoundedMargins
import ChartGestures.Proofs.Pane.AxisFrames
import ChartGestures.Proofs.Gesture.KeptAxes
import ChartGestures.Proofs.Gesture.WheelTurns
import ChartGestures.Proofs.Script.Start
import ChartGestures.Proofs.Script.DeclaredAxes
import ChartGestures.Proofs.Range.NearestShift
import ChartGestures.Proofs.Range.IndexClipping
import ChartGestures.Proofs.Range.IndexGrowth
import ChartGestures.Proofs.Range.WholeShifts
import ChartGestures.Proofs.Gesture.ScaleDrags
import ChartGestures.Proofs.Number.SinglePrecision
import ChartGestures.Proofs.Range.UnsetBounds
import ChartGestures.Proofs.Number.HeldNumbers
import ChartGestures.Proofs.Number.NearestWhole
import ChartGestures.Proofs.Time.TickCounts
import ChartGestures.Proofs.Range.RoundTrips
import ChartGestures.Proofs.Range.Conversions
import ChartGestures.Proofs.Gesture.TimerCounts
import ChartGestures.Proofs.Gesture.Resting
import ChartGestures.Proofs.Range.Growth
import ChartGestures.Proofs.Geometry.Angles
import ChartGestures.Proofs.Gesture.BandDrags
import ChartGestures.Proofs.Geometry.Viewports
import ChartGestures.Proofs.Gesture.BandZooms
import ChartGestures.Proofs.Gesture.BandSweeps
import ChartGestures.Proofs.Range.Joins
import ChartGestures.Proofs.Geometry.Winding
import ChartGestures.Proofs.Gesture.PinchBuffer
import ChartGestures.Proofs.Pane.Accounts
