import MarkdownWriter.Main
import MarkdownWriter.Proofs.Regex.Matching
import MarkdownWriter.Proofs.Regex.Search
import MarkdownWriter.Proofs.Escape.Positions
import MarkdownWriter.Proofs.Escape.Letters
import MarkdownWriter.Proofs.Escape.Defaults
import MarkdownWriter.Proofs.Escape.Decoding
import MarkdownWriter.Proofs.Escape.Delimiters
import MarkdownWriter.Proofs.Escape.Sparing
import MarkdownWriter.Proofs.Escape.LineStarts
import MarkdownWriter.Proofs.Escape.MarkerRows
import MarkdownWriter.Proofs.Escape.Framed
import MarkdownWriter.Proofs.Escape.ParagraphText
import MarkdownWriter.Proofs.Render.Paragraph
import MarkdownWriter.Proofs.Render.AdjacentLists
import MarkdownWriter.Proofs.Render.Separators
import MarkdownWriter.Proofs.Render.Failing
import MarkdownWriter.Proofs.Render.Silence
import MarkdownWriter.Proofs.Render.Neighbours
import MarkdownWriter.Proofs.Render.ContentColumn
import MarkdownWriter.Proofs.Escape.Labels
import MarkdownWriter.Proofs.Render.References
import MarkdownWriter.Proofs.Text.Endings
import MarkdownWriter.Proofs.Text.Runs
import MarkdownWriter.Proofs.Code.Blanking
import MarkdownWriter.Proofs.Code.Span
import MarkdownWriter.Proofs.Escape.RowStarts
import MarkdownWriter.Proofs.Code.MarkerLines
import MarkdownWriter.Proofs.Render.Frames
import MarkdownWriter.Proofs.Render.Reported
import MarkdownWriter.Proofs.Options.Layers
import MarkdownWriter.Proofs.Document.Reports
import MarkdownWriter.Proofs.Document.Rebuilding
import MarkdownWriter.Proofs.Document.FrameStack
import MarkdownWriter.Proofs.Escape.Ampersands
import MarkdownWriter.Proofs.Code.Fence
import MarkdownWriter.Proofs.Code.InfoString
import MarkdownWriter.Proofs.Render.Definitions
import MarkdownWriter.Proofs.Escape.Brackets
import MarkdownWriter.Proofs.Render.Siblings
import MarkdownWriter.Proofs.Escape.LineBreaks
import MarkdownWriter.Proofs.Text.EdgeLines
import MarkdownWriter.Proofs.Code.Indented
import MarkdownWriter.Proofs.Heading.Atx
import MarkdownWriter.Proofs.Heading.Underline
import MarkdownWriter.Proofs.Heading.OneLine
import MarkdownWriter.Proofs.Text.Inset
import MarkdownWriter.Proofs.Render.Visits
import MarkdownWriter.Proofs.Render.RememberedMarkers
import MarkdownWriter.Proofs.Render.RuleItems
import MarkdownWriter.Proofs.Render.BulletRows
import MarkdownWriter.Proofs.Render.Peeking
import MarkdownWriter.Proofs.Render.Beginnings
import MarkdownWriter.Proofs.Render.Interruptions
import MarkdownWriter.Proofs.Link.Autolinks
import MarkdownWriter.Proofs.Link.Destinations
import MarkdownWriter.Proofs.Document.PlacedDefinitions
import MarkdownWriter.Proofs.Render.ItemNumbers
import MarkdownWriter.Proofs.Render.HardBreaks
import MarkdownWriter.Proofs.Render.SplitTexts
import MarkdownWriter.Proofs.Escape.LineSpacing
import MarkdownWriter.Proofs.Document.JoinedTexts
import MarkdownWriter.Proofs.Text.Tracking
import MarkdownWriter.Proofs.Escape.Patterns
import MarkdownWriter.Proofs.Text.Rewriting
import MarkdownWriter.Proofs.Render.Margins
import MarkdownWriter.Proofs.Code.ShortestFence
