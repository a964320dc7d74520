import Scaffold.Main
import Scaffold.TypeScript.Path
import Scaffold.Proofs.Catalog.Acceptance
import Scaffold.Proofs.Text.Trim
import Scaffold.Proofs.TypeExpr.Spelling
import Scaffold.Proofs.TypeScript.Literal
import Scaffold.Proofs.TypeScript.TemplateLiteral
import Scaffold.Proofs.Client.Request
import Scaffold.Proofs.Client.QueryPath
import Scaffold.Proofs.CommandLine.Writing
import Scaffold.Proofs.CommandLine.Preparation
import Scaffold.Proofs.CommandLine.FailedRun
import Scaffold.Proofs.Table
import Scaffold.Proofs.TypeScript.Value
import Scaffold.Proofs.Client.Outline
import Scaffold.Proofs.Client.Loop
import Scaffold.Proofs.Client.Call
import Scaffold.Proofs.Client.QueryRequest
import Scaffold.Proofs.Route.Argument
import Scaffold.Proofs.Route.Forwarding
import Scaffold.Proofs.Route.Absence
import Scaffold.Proofs.Files.Containment
import Scaffold.Proofs.CommandLine.Containment
import Scaffold.Proofs.Refusal
import Scaffold.Proofs.Assembly
import Scaffold.Proofs.Route.Serving
import Scaffold.Proofs.Dependence
import Scaffold.Proofs.CommandLine.ReadingBack
import Scaffold.Proofs.Route.Calls
import Scaffold.Proofs.Generated.Comments
import Scaffold.Proofs.Generated.Literals
import Scaffold.Proofs.CommandLine.Interface
import Scaffold.Proofs.Settings.Saving
import Scaffold.Proofs.Client.TypeNames
import Scaffold.Proofs.Client.ModuleNames
import Scaffold.Proofs.Generated.Members
import Scaffold.Proofs.Settings.BaseUrl
import Scaffold.Proofs.TypeExpr.Braces
import Scaffold.Proofs.TypeExpr.Respelling
import Scaffold.Proofs.Generated.Parameters
import Scaffold.Proofs.Route.Grouping
import Scaffold.Proofs.LetterCase
import Scaffold.Proofs.Route.Imports
