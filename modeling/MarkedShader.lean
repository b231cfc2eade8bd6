import MarkedShader.Draft.Compile
import MarkedShader.Draft.File
import MarkedShader.Draft.Generated
import MarkedShader.Draft.Lemmas
import MarkedShader.Draft.Splice
import MarkedShader.Main
import MarkedShader.Proofs.Answers
import MarkedShader.Proofs.Arguments
import MarkedShader.Proofs.Attributes
import MarkedShader.Proofs.Code
import MarkedShader.Proofs.Coherence
import MarkedShader.Proofs.Editing
import MarkedShader.Proofs.Fenced
import MarkedShader.Proofs.Firsts
import MarkedShader.Proofs.Graph.Cascade
import MarkedShader.Proofs.Graph.Edges
import MarkedShader.Proofs.Graph.Growth
import MarkedShader.Proofs.Graph.Reread
import MarkedShader.Proofs.Layout.Builder
import MarkedShader.Proofs.Marker
import MarkedShader.Proofs.Messages.Refused
import MarkedShader.Proofs.Number.Exact
import MarkedShader.Proofs.Number.Plain
import MarkedShader.Proofs.Passes
import MarkedShader.Proofs.Record.Escapes
import MarkedShader.Proofs.Record.RoundTrip
import MarkedShader.Proofs.Source.Block
import MarkedShader.Proofs.Source.Braces
import MarkedShader.Proofs.Source.Breaks
import MarkedShader.Proofs.Source.Captured
import MarkedShader.Proofs.Source.Declaration
import MarkedShader.Proofs.Source.Declared
import MarkedShader.Proofs.Source.Document
import MarkedShader.Proofs.Source.Kept
import MarkedShader.Proofs.Source.Labels
import MarkedShader.Proofs.Source.Normal
import MarkedShader.Proofs.Source.Overrides
import MarkedShader.Proofs.Source.Recovered
import MarkedShader.Proofs.Source.Reread
import MarkedShader.Proofs.Source.Rewriting
import MarkedShader.Proofs.Source.Scans
import MarkedShader.Proofs.Source.Spans
import MarkedShader.Proofs.Source.Stable
import MarkedShader.Proofs.Source.Unchanged
import MarkedShader.Proofs.Splice
import MarkedShader.Proofs.Storing.Block
import MarkedShader.Proofs.Text.Reindented
import MarkedShader.Proofs.Text.Respaced
import MarkedShader.Proofs.Writing.Assignments
import MarkedShader.Proofs.Writing.Calls
import MarkedShader.Proofs.Writing.Content
import MarkedShader.Proofs.Writing.Replacement
import MarkedShader.Proofs.Writing.Semantics
import MarkedShader.Proofs.Writing.VertexInputs
