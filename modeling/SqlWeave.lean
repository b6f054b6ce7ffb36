import SqlWeave.Compile.Draft
import SqlWeave.Document.Printer
import SqlWeave.Proofs.Precedence.Grammar
import SqlWeave.Proofs.Script.Formation
import SqlWeave.Query.Select
import SqlWeave.Settings.Configured
import SqlWeave.Settings.Environment
import SqlWeave.Value.Wire
import SqlWeave.Proofs.Precedence.Printing
import SqlWeave.Proofs.Constants.Alike
import SqlWeave.Proofs.Constants.Unchanged
import SqlWeave.Proofs.Constants.Separation
import SqlWeave.Proofs.Alias.Generation
import SqlWeave.Proofs.Alias.Registry
import SqlWeave.Proofs.Alias.ColumnUses
import SqlWeave.Proofs.Alias.Scopes
import SqlWeave.Proofs.Alias.Capture
import SqlWeave.Proofs.Alias.Qualifiers
import SqlWeave.Proofs.Template.Lockstep
import SqlWeave.Proofs.Defects.Detection
import SqlWeave.Proofs.Script.Blocks
import SqlWeave.Proofs.Script.Layout
import SqlWeave.Proofs.Template.Readback
import SqlWeave.Proofs.Template.Paths
import SqlWeave.Proofs.Precedence.Phrase
import SqlWeave.Proofs.Precedence.Reader
import SqlWeave.Proofs.Precedence.Databases
import SqlWeave.Proofs.Constants.ReadingOrder
import SqlWeave.Proofs.Script.Placement
import SqlWeave.Proofs.Alias.Freshness
import SqlWeave.Proofs.Script.BareColumns
import SqlWeave.Proofs.Emission.Emitter
import SqlWeave.Proofs.Emission.Statements
import SqlWeave.Proofs.Folding.Truth
import SqlWeave.Proofs.Folding.Adjacency
import SqlWeave.Proofs.Folding.Written
import SqlWeave.Proofs.Relations.Transparency
import SqlWeave.Proofs.Compounds.Limits
import SqlWeave.Proofs.Compounds.SetTree
import SqlWeave.Proofs.Columns.SelectList
import SqlWeave.Proofs.Columns.Provenance
import SqlWeave.Proofs.Renumbering.Syntax
import SqlWeave.Proofs.Renumbering.Names
import SqlWeave.Proofs.Renumbering.Scripts
import SqlWeave.Proofs.Template.Operators
import SqlWeave.Proofs.Template.Substitution
import SqlWeave.Proofs.Document.Keys
import SqlWeave.Proofs.Document.Reading
import SqlWeave.Proofs.Toml.Tables
import SqlWeave.Proofs.Settings.Decoding
import SqlWeave.Proofs.Settings.Readers
import SqlWeave.Proofs.Settings.Defaults
import SqlWeave.Proofs.Alias.Naming
import SqlWeave.Proofs.Columns.ThroughAlias
import SqlWeave.Proofs.Relations.Inference
import SqlWeave.Proofs.Relations.Declared
import SqlWeave.Proofs.Building.Refinement
import SqlWeave.Proofs.Building.Filters
import SqlWeave.Proofs.Building.SelectedSources
import SqlWeave.Proofs.Alias.Tables
import SqlWeave.Proofs.Alias.Calls
import SqlWeave.Proofs.Alias.Search
import SqlWeave.Proofs.Relations.Flattening
import SqlWeave.Proofs.Document.Printing
import SqlWeave.Proofs.Settings.RoundTrip
import SqlWeave.Proofs.Spacing.Edges
import SqlWeave.Proofs.Spacing.Template
import SqlWeave.Proofs.Document.Paths
import SqlWeave.Proofs.Settings.Overrides
import SqlWeave.Proofs.Settings.Layers
import SqlWeave.Proofs.Building.Slots
import SqlWeave.Proofs.Building.Independence
import SqlWeave.Proofs.Text.Scanning
import SqlWeave.Proofs.Calendar.Reading
import SqlWeave.Proofs.Value.RoundTrip
