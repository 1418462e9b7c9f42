import HubRoutes.Address
import HubRoutes.Address.Checksum
import HubRoutes.Address.Reading
import HubRoutes.Chain
import HubRoutes.CommandLine
import HubRoutes.Declaration
import HubRoutes.Declaration.Format
import HubRoutes.Declaration.Validity
import HubRoutes.Document
import HubRoutes.Document.Loading
import HubRoutes.Failure
import HubRoutes.FileSystem
import HubRoutes.FileTree
import HubRoutes.FileTree.Listing
import HubRoutes.Json.Format
import HubRoutes.Json.Numeral
import HubRoutes.Json.Printer
import HubRoutes.Json.Reader
import HubRoutes.Json.Value
import HubRoutes.Keccak
import HubRoutes.Main
import HubRoutes.Number.Binary64
import HubRoutes.Number.Layout
import HubRoutes.Number.Literal
import HubRoutes.Number.Power
import HubRoutes.Number.Shortest
import HubRoutes.OrderedMap
import HubRoutes.Program
import HubRoutes.Proofs.Address.RoundTrip
import HubRoutes.Proofs.Declaration.Filing
import HubRoutes.Proofs.Declaration.FirstFault
import HubRoutes.Proofs.Declaration.Spelling
import HubRoutes.Proofs.Declaration.Strictness
import HubRoutes.Proofs.Declaration.Validity
import HubRoutes.Proofs.FileTree.Alike
import HubRoutes.Proofs.FileTree.Directories
import HubRoutes.Proofs.FileTree.Files
import HubRoutes.Proofs.FileTree.Paths
import HubRoutes.Proofs.Json.RoundTrip
import HubRoutes.Proofs.List
import HubRoutes.Proofs.OrderedMap
import HubRoutes.Proofs.Program.Request
import HubRoutes.Proofs.Program.Run
import HubRoutes.Proofs.Result
import HubRoutes.Proofs.Route.AssetIdentity
import HubRoutes.Proofs.Route.Compilation
import HubRoutes.Proofs.Route.Expansion
import HubRoutes.Proofs.Route.Extension
import HubRoutes.Proofs.Route.FileName
import HubRoutes.Proofs.Route.FirstFault
import HubRoutes.Proofs.Route.Footprint
import HubRoutes.Proofs.Route.Path
import HubRoutes.Proofs.Route.Presentation
import HubRoutes.Proofs.Route.Pruning
import HubRoutes.Proofs.Route.Saving
import HubRoutes.Proofs.Route.Series
import HubRoutes.Proofs.Route.TableFormat
import HubRoutes.Proofs.Route.Topology
import HubRoutes.Proofs.Schema.Entries
import HubRoutes.Proofs.Schema.Respelling
import HubRoutes.Proofs.Schema.RoundTrip
import HubRoutes.Proofs.Schema.Spelling
import HubRoutes.Proofs.Schema.WellFormed
import HubRoutes.Proofs.Text.Numeral
import HubRoutes.Route.Bridge
import HubRoutes.Route.Fault
import HubRoutes.Route.Format
import HubRoutes.Route.Output
import HubRoutes.Route.Swap
import HubRoutes.Route.Table
import HubRoutes.Schema
import HubRoutes.Schema.Fault
import HubRoutes.Schema.Reading
import HubRoutes.Settings
import HubRoutes.Text.Blank
import HubRoutes.Text.Hidden
import HubRoutes.Text.Numeral
import HubRoutes.Text.Quoted
import HubRoutes.Text.Terminal
import HubRoutes.Token.Alias
import HubRoutes.Token.Identity
import HubRoutes.Token.Registry
import HubRoutes.Yaml.Character
import HubRoutes.Yaml.Format
import HubRoutes.Yaml.Node
import HubRoutes.Yaml.Node.Anchor
import HubRoutes.Yaml.Node.Reading
import HubRoutes.Yaml.Scalar
import HubRoutes.Yaml.Token
import HubRoutes.Yaml.Token.Lexer
import HubRoutes.Yaml.Token.Property
import HubRoutes.Yaml.Token.Scalar
import HubRoutes.Yaml.Tree
import HubRoutes.Proofs.Route.Repetition
import HubRoutes.Proofs.Route.SwapBridge
import HubRoutes.Proofs.Address.Grammar
import HubRoutes.Proofs.Address.Normalization
import HubRoutes.Proofs.Token.Insertion
import HubRoutes.Proofs.Declaration.Permutation
import HubRoutes.Proofs.Token.Loading
import HubRoutes.Proofs.Number.Rounding
import HubRoutes.Proofs.Settings.HubChain
import HubRoutes.Proofs.Declaration.Documents
import HubRoutes.Proofs.Number.Literal
import HubRoutes.Proofs.Route.Declared
import HubRoutes.Proofs.Route.Evolution
import HubRoutes.Proofs.Route.Wrapping
import HubRoutes.Proofs.Schema.Acceptance
import HubRoutes.Proofs.Schema.Denotation
import HubRoutes.Proofs.Schema.Evolution
import HubRoutes.Proofs.Schema.Object
import HubRoutes.Proofs.Settings.Paths
