import CodeFrame.Proofs.Decode.Display
import CodeFrame.Proofs.Layout.Folds
import CodeFrame.Proofs.Layout.Totality
import CodeFrame.Session.Present
import CodeFrame.Session.Script
import CodeFrame.Proofs.Layout.Location
import CodeFrame.Proofs.Layout.Placeable
import CodeFrame.Proofs.Source.Separators
import CodeFrame.Proofs.Layout.LineEnds
import CodeFrame.Proofs.Source.Concat
import CodeFrame.Proofs.Layout.Concat
import CodeFrame.Proofs.Session.Bridges
import CodeFrame.Proofs.Session.Delivery
import CodeFrame.Proofs.Decode.Described
import CodeFrame.Proofs.Decode.Agreement
import CodeFrame.Proofs.Session.Wiring
import CodeFrame.Proofs.Session.Drawing
import CodeFrame.Proofs.Session.Blocks
import CodeFrame.Proofs.Decode.Strays
import CodeFrame.Proofs.Session.Presented
import CodeFrame.Proofs.Layout.Runs
import CodeFrame.Proofs.Layout.Starts
import CodeFrame.Proofs.Source.Coordinates
import CodeFrame.Proofs.Layout.Segments
import CodeFrame.Proofs.Layout.Captions
import CodeFrame.Proofs.Source.Splitting
import CodeFrame.Proofs.Layout.Regrouping
import CodeFrame.Proofs.Layout.Readback
import CodeFrame.Proofs.Render.Rows
import CodeFrame.Proofs.Render.Blocks
import CodeFrame.Proofs.Layout.Relations
import CodeFrame.Proofs.Layout.Renumbering
import CodeFrame.Proofs.Render.Spans
import CodeFrame.Proofs.Render.Printed
import CodeFrame.Proofs.Session.Carets
