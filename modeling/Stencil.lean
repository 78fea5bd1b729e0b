import Stencil.Application
import Stencil.Filter.Optional
import Stencil.Template.Printer
import Stencil.Yaml.Document
import Stencil.Proofs.Session.Journal
import Stencil.Proofs.Session.Load
import Stencil.Proofs.Session.History
import Stencil.Proofs.Session.Alike
import Stencil.Proofs.Render.Climb
import Stencil.Proofs.Render.Alike
import Stencil.Proofs.Render.Flatten
import Stencil.Proofs.Render.Inheritance
import Stencil.Proofs.Template.Form
import Stencil.Proofs.Template.Grammar
import Stencil.Proofs.Template.ReadBack
import Stencil.Proofs.Expr.Meaning
import Stencil.Proofs.Expr.Scan
import Stencil.Proofs.Expr.Balanced
import Stencil.Proofs.Expr.Printed
import Stencil.Proofs.Expr.PathForm
import Stencil.Proofs.Expr.Reading
import Stencil.Proofs.Template.Pair
import Stencil.Proofs.Template.Respan
import Stencil.Proofs.Template.Normal
import Stencil.Proofs.Template.RoundTrip
import Stencil.Proofs.Template.Leftmost
import Stencil.Proofs.Template.Uncommented
import Stencil.Proofs.Template.Spacing
import Stencil.Proofs.Template.Fused
import Stencil.Proofs.Template.Reprint
import Stencil.Proofs.Template.References
import Stencil.Proofs.Expr.Nesting
import Stencil.Proofs.Expr.Comparison
import Stencil.Proofs.Expr.Pipeline
import Stencil.Proofs.Template.Places
import Stencil.Proofs.Template.Offender
import Stencil.Proofs.Template.Unclosed
import Stencil.Proofs.Template.Location
import Stencil.Proofs.Template.Enclosed
import Stencil.Proofs.Value.Step
import Stencil.Proofs.Value.Unmarked
import Stencil.Proofs.Value.Integers
import Stencil.Proofs.Markup.Escape
import Stencil.Proofs.Markup.Script
import Stencil.Proofs.Json.Reader
import Stencil.Proofs.Json.Strings
import Stencil.Proofs.Json.Numbers
import Stencil.Proofs.Json.Writable
import Stencil.Proofs.Json.Values
import Stencil.Proofs.Json.Defused
import Stencil.Proofs.Json.Embedding
import Stencil.Proofs.Markup.Element
import Stencil.Proofs.Markup.Literal
import Stencil.Proofs.Fault.Builtin
import Stencil.Proofs.Fault.Missing
import Stencil.Proofs.Fault.Told
import Stencil.Proofs.Fault.Located
import Stencil.Proofs.Fault.Filled
import Stencil.Proofs.Settings.Acceptance
import Stencil.Proofs.Settings.History
import Stencil.Proofs.Settings.Expansion
import Stencil.Proofs.Files.Leads
import Stencil.Proofs.Files.Containment
import Stencil.Proofs.Expr.Risk
import Stencil.Proofs.Render.Involved
import Stencil.Proofs.Render.Promise
import Stencil.Proofs.Render.Requests
import Stencil.Proofs.Render.Ascent
import Stencil.Proofs.Expr.Scope
import Stencil.Proofs.Render.Scope
import Stencil.Proofs.Session.Pairs
import Stencil.Proofs.Value.Akin
import Stencil.Proofs.Value.AkinStep
import Stencil.Proofs.Expr.Privacy
import Stencil.Proofs.Render.Privacy
import Stencil.Proofs.Render.Autoescape
import Stencil.Proofs.Render.Acyclic
import Stencil.Proofs.Render.Ending
import Stencil.Proofs.Render.Fused
import Stencil.Proofs.Engine.Failures
import Stencil.Proofs.Engine.Finish
import Stencil.Proofs.Engine.Caching
import Stencil.Proofs.Engine.Reprint
import Stencil.Proofs.Files.Escapes
