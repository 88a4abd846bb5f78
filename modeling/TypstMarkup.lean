import TypstMarkup.Compiler.Render
import TypstMarkup.Log.Record
import TypstMarkup.Main
import TypstMarkup.Markup.Declared
import TypstMarkup.Proofs.Markup.Composed
import TypstMarkup.Proofs.Markup.Readable
import TypstMarkup.Proofs.Template.Accepted
import TypstMarkup.Proofs.Template.Malformed
import TypstMarkup.Value.Fingerprint
import TypstMarkup.Proofs.Markup.Delimiter
import TypstMarkup.Proofs.Markup.TopLevel
import TypstMarkup.Proofs.Template.Spread
import TypstMarkup.Proofs.Markup.Indentation
import TypstMarkup.Proofs.Markup.Nesting
import TypstMarkup.Proofs.Markup.CoreSettings
import TypstMarkup.Proofs.Compiler.Rendered
import TypstMarkup.Proofs.Markup.Unsupported
import TypstMarkup.Proofs.Markup.Limit
import TypstMarkup.Proofs.Template.Rendered
import TypstMarkup.Proofs.Template.Reserved
import TypstMarkup.Proofs.Template.Shown
import TypstMarkup.Proofs.Markup.Reads
import TypstMarkup.Proofs.Markup.Resolution
import TypstMarkup.Proofs.Markup.Extension
import TypstMarkup.Proofs.Markup.ArrayLike
import TypstMarkup.Proofs.CommandLine.Layered
import TypstMarkup.Proofs.Configuration.Discovered
import TypstMarkup.Proofs.Configuration.Accepted
import TypstMarkup.Proofs.Configuration.Dumped
import TypstMarkup.Proofs.Compiler.Judged
import TypstMarkup.Proofs.CommandLine.Orderly
import TypstMarkup.Proofs.Template.Grammar
import TypstMarkup.Proofs.Template.FirstFault
import TypstMarkup.Proofs.CommandLine.Printed
import TypstMarkup.Proofs.CommandLine.Spliced
import TypstMarkup.Proofs.Template.MarkerLine
import TypstMarkup.Proofs.Markup.PatternLiteral
import TypstMarkup.Proofs.Markup.QuotingLevel
import TypstMarkup.Proofs.Markup.HalfOpen
import TypstMarkup.Proofs.Markup.Merging
import TypstMarkup.Proofs.Markup.RawFence
import TypstMarkup.Proofs.Toml.Sectioned
import TypstMarkup.Proofs.Compiler.NormalForm
import TypstMarkup.Proofs.CommandLine.StartUp
