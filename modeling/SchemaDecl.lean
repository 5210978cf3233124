import SchemaDecl.Main
import SchemaDecl.Proofs.Command.Disk
import SchemaDecl.Proofs.Command.Generate
import SchemaDecl.Proofs.Command.Precedence
import SchemaDecl.Proofs.Command.RootTitle
import SchemaDecl.Proofs.Compile.Capacity
import SchemaDecl.Proofs.Compile.Determined
import SchemaDecl.Proofs.Compile.Exported
import SchemaDecl.Proofs.Compile.Line
import SchemaDecl.Proofs.Compile.Macro
import SchemaDecl.Proofs.Compile.Preamble
import SchemaDecl.Proofs.Compile.Rearranged
import SchemaDecl.Proofs.Compile.Reference
import SchemaDecl.Proofs.Compile.Respelled
import SchemaDecl.Proofs.Compile.RootName
import SchemaDecl.Proofs.Compile.Token
import SchemaDecl.Proofs.Compile.Visibility
import SchemaDecl.Proofs.Compile.WireName
import SchemaDecl.Proofs.Record.ErrorPath
import SchemaDecl.Proofs.Record.NormalForm
import SchemaDecl.Proofs.Schema.Document
import SchemaDecl.Proofs.Schema.Grammar
import SchemaDecl.Proofs.Schema.Keyword
import SchemaDecl.Proofs.Schema.Tagged
import SchemaDecl.Proofs.Target.Container
import SchemaDecl.Proofs.Target.Form
import SchemaDecl.Proofs.Target.GoTag
import SchemaDecl.Proofs.Target.Lines
import SchemaDecl.Proofs.Target.PropertyName
import SchemaDecl.Proofs.Target.RustIdentifier
import SchemaDecl.Proofs.Target.RustLiteral
import SchemaDecl.Proofs.Text.Identifier
import SchemaDecl.Target.Listing
import SchemaDecl.Proofs.Record.Place
import SchemaDecl.Proofs.Record.ErrorPath
