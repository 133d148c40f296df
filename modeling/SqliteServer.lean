import SqliteServer.Json.Value
import SqliteServer.Json.Parser
import SqliteServer.Json.Syntax
import SqliteServer.Json.Completeness
import SqliteServer.KeyRepair
import SqliteServer.RepairedTexts
import SqliteServer.RepairFate
import SqliteServer.RepairRefusal
import SqliteServer.Json.Rendering
import SqliteServer.RequestParsing
import SqliteServer.RenderedRequests
import SqliteServer.Wire.Frames
import SqliteServer.Config
import SqliteServer.Connection
import SqliteServer.FramingRoundTrip
import SqliteServer.Files.FileSystem
import SqliteServer.Handler
import SqliteServer.Runs
import SqliteServer.Sessions
import SqliteServer.Authentication
import SqliteServer.Files.Folders
import SqliteServer.ResultRows
import SqliteServer.Commands
import SqliteServer.FileBackend
import SqliteServer.FolderConfinement
import SqliteServer.Rejections
import SqliteServer.DatabaseNames
import SqliteServer.ClientErrors
import SqliteServer.Cidr
import SqliteServer.ConfigLoading
import SqliteServer.IpWhitelist
import SqliteServer.ConfigAgreement
import SqliteServer.ConnectionTasks
import SqliteServer.HandleContinuity
import SqliteServer.Files.PlainFolders
import SqliteServer.DatabaseFiles
import SqliteServer.AttachedEngine
import SqliteServer.AttachedFiles
import SqliteServer.Listing
import SqliteServer.SharedDatabases
import SqliteServer.DatabaseIsolation
import SqliteServer.AttachedServer
import SqliteServer.DatabaseSharing
import SqliteServer.QueryPhases
import SqliteServer.CompiledStatements
import SqliteServer.ColumnLabels
import SqliteServer.RequestDecoding
import SqliteServer.CanonicalNetworks
import SqliteServer.WhitelistTexts
import SqliteServer.SqliteErrors
import SqliteServer.BlobLiterals
import SqliteServer.BlobDecoders
import SqliteServer.Binary64.Rounding
import SqliteServer.Binary64.Decimals
import SqliteServer.Sql.Tokens
import SqliteServer.Sql.TokenRuns
import SqliteServer.Sql.TokenLists
import SqliteServer.Regex.Replacement
import SqliteServer.ParameterBinding
import SqliteServer.BinderAgreement
import SqliteServer.SqlLiterals
import SqliteServer.QueryStructure
import SqliteServer.Dialogues
import SqliteServer.CallsLinearized
import SqliteServer.CallsReturn
import SqliteServer.ServedPeers
import SqliteServer.Json.RoundTrip
import SqliteServer.ResponseForms
import SqliteServer.ClientViews
import SqliteServer.ParameterEcho
import SqliteServer.ClientOperations
import SqliteServer.ClientCalls
import SqliteServer.OpenConnections
import SqliteServer.DatabaseIndependence
import SqliteServer.Json.AsciiStrings
import SqliteServer.PythonRequests
import SqliteServer.RepairIdempotence
