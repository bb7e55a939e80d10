import MessageRefs.Main
import MessageRefs.Position.LineIndex
import MessageRefs.Session
import MessageRefs.Proofs.Call.Pass
import MessageRefs.Proofs.Call.Transparency
import MessageRefs.Proofs.Call.Grammar
import MessageRefs.Proofs.Call.Pieces
import MessageRefs.Proofs.Call.Acceptance
import MessageRefs.Proofs.Call.Locality
import MessageRefs.Proofs.Reference.Lead
import MessageRefs.Proofs.Reference.Tail
import MessageRefs.Proofs.Reference.Accesses
import MessageRefs.Proofs.Position.Coordinates
import MessageRefs.Proofs.Position.Index
import MessageRefs.Proofs.Position.Cursor
import MessageRefs.Proofs.Reference.Candidate
import MessageRefs.Proofs.Reference.Selection
import MessageRefs.Proofs.Position.Resolve
import MessageRefs.Proofs.Reference.Slices
import MessageRefs.Proofs.Reference.Marker
import MessageRefs.Proofs.Reference.FirstMarker
import MessageRefs.Proofs.Reference.Shift
import MessageRefs.Proofs.Reference.Extraction
import MessageRefs.Proofs.Session.Serve
import MessageRefs.Proofs.Session.Setup
import MessageRefs.Proofs.Text.Utf8
import MessageRefs.Proofs.Protocol.Stream
import MessageRefs.Proofs.Session.SameLines
import MessageRefs.Proofs.Position.Counting
import MessageRefs.Proofs.Position.Order
import MessageRefs.Proofs.Config.Validity
import MessageRefs.Proofs.Reference.LongestPath
import MessageRefs.Proofs.Workspace.Visible
import MessageRefs.Proofs.Workspace.Canonical
import MessageRefs.Proofs.Checked.Slices
import MessageRefs.Proofs.Checked.Marker
import MessageRefs.Proofs.Checked.Call
import MessageRefs.Proofs.Checked.Position
import MessageRefs.Proofs.Reference.Resumption
import MessageRefs.Proofs.Checked.Scan
import MessageRefs.Proofs.Call.Course
import MessageRefs.Proofs.Call.Settlement
import MessageRefs.Proofs.Reference.FirstAnchor
import MessageRefs.Proofs.Session.Serve
