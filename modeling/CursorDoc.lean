import CursorDoc.Edit
import CursorDoc.Main
import CursorDoc.Session
import CursorDoc.Proofs.DocBlock
import CursorDoc.Proofs.Text.Lines
import CursorDoc.Proofs.Locate
import CursorDoc.Proofs.Splice.Block
import CursorDoc.Proofs.Splice.Site
import CursorDoc.Proofs.Splice.Located
import CursorDoc.Proofs.Splice.ReadBack
import CursorDoc.Proofs.Splice.LastWrite
import CursorDoc.Proofs.Braces
import CursorDoc.Proofs.Pattern
import CursorDoc.Proofs.Splice.Frame
import CursorDoc.Proofs.Script
import CursorDoc.Proofs.Comment
import CursorDoc.Proofs.Splice.Removed
import CursorDoc.Proofs.Signature
import CursorDoc.Proofs.Splice.CommentOrder
import CursorDoc.Proofs.Splice.Edit
import CursorDoc.Proofs.Splice.DocstringOrder
import CursorDoc.Proofs.Splice.Normal
import CursorDoc.Proofs.Splice.SaveBack
import CursorDoc.Proofs.Splice.Run
import CursorDoc.Proofs.Margin.Signature
import CursorDoc.Proofs.Margin.Locate
import CursorDoc.Proofs.Splice.LineEndings
import CursorDoc.Proofs.Nesting
import CursorDoc.Proofs.Excerpt
import CursorDoc.Proofs.Splice.Trimmed
import CursorDoc.Proofs.Splice.Returns
import CursorDoc.Proofs.Session
import CursorDoc.Proofs.Tool
import CursorDoc.Proofs.BraceSpan
import CursorDoc.Proofs.Window
import CursorDoc.Proofs.Literals
import CursorDoc.Proofs.Spelling
import CursorDoc.Proofs.Signature.Name
import CursorDoc.Proofs.Settings.Loaded
import CursorDoc.Proofs.Signature.Prototype
import CursorDoc.Proofs.Splice.Range
import CursorDoc.Proofs.Splice.WholeLines
import CursorDoc.Proofs.Splice.Access
import CursorDoc.Proofs.Text.LineList
import CursorDoc.Proofs.Splice.InsideBody
import CursorDoc.Proofs.Splice.Shifted
import CursorDoc.Proofs.Language
