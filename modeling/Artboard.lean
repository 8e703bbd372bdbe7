import Artboard.Code.Conversion
import Artboard.Code.Template
import Artboard.Text.Quoted
import Artboard.Proofs.Correspondence
import Artboard.Proofs.Idempotence
import Artboard.Proofs.Ids
import Artboard.Proofs.Walking
import Artboard.Proofs.Places
import Artboard.Proofs.PaintOrder
import Artboard.Proofs.TextRuns
import Artboard.Normal.InPlace
import Artboard.Proofs.Storage
import Artboard.Proofs.Steps
import Artboard.Proofs.InPlace
import Artboard.Proofs.Joining
import Artboard.Proofs.Pruning
import Artboard.Proofs.Outline
import Artboard.Proofs.Filling
import Artboard.Proofs.Shape
import Artboard.Proofs.Turning
import Artboard.Proofs.Sorting
import Artboard.Proofs.Flowing
import Artboard.Proofs.Trails
import Artboard.Proofs.Painting
import Artboard.Proofs.Rows
import Artboard.Proofs.Skeletons
import Artboard.Proofs.Renumbering
import Artboard.Proofs.Positions
import Artboard.Proofs.Vocabulary
import Artboard.Proofs.WidgetWords
import Artboard.Proofs.ViewWords
import Artboard.Proofs.ParentData
import Artboard.Proofs.Vanishing
import Artboard.Proofs.Warnings
import Artboard.Proofs.Declared
import Artboard.Proofs.Packing
import Artboard.Proofs.Numerals
import Artboard.Proofs.SoundValues
import Artboard.Proofs.Restoring
import Artboard.Proofs.HostValues
import Artboard.Proofs.Merging
import Artboard.Proofs.HostNodes
import Artboard.Proofs.Backgrounds
import Artboard.Proofs.Separation
import Artboard.Proofs.Replaying
import Artboard.Proofs.Transposing
import Artboard.Proofs.Accounting
import Artboard.Proofs.Aligning
import Artboard.Proofs.Shifting
import Artboard.Proofs.Enclosing
import Artboard.Proofs.Snapping
import Artboard.Proofs.Handles
import Artboard.Proofs.Traversals
import Artboard.Proofs.Ownership
import Artboard.Proofs.Edits
import Artboard.Proofs.Unescaping
import Artboard.Proofs.LineEnds
import Artboard.Proofs.Sanity
import Artboard.Proofs.ClassLists
import Artboard.Proofs.Nesting
