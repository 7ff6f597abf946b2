import HelpCovid.Lib.Machine
import HelpCovid.Lib.StdMap
import HelpCovid.Lib.CText
import HelpCovid.Lib.Binary64
import HelpCovid.Lib.StdMultimap
import HelpCovid.Template.Expander
import HelpCovid.Template.Scanner
import HelpCovid.Template.Segments
import HelpCovid.Template.LineScan
import HelpCovid.Template.Expansion
import HelpCovid.Template.Agreement
import HelpCovid.Template.Dispatch
import HelpCovid.ChunkMap.Parser
import HelpCovid.ChunkMap.Layout
import HelpCovid.ChunkMap.RoundTrip
import HelpCovid.Background.Model
import HelpCovid.Background.Consistency
import HelpCovid.Background.Conservation
import HelpCovid.Background.Timing
import HelpCovid.Background.Wakeups
import HelpCovid.Lib.Hex
import HelpCovid.Web.Cookie
import HelpCovid.Database.Transactions
import HelpCovid.Database.Serialization
import HelpCovid.Lib.Plpgsql
import HelpCovid.Database.Schema
import HelpCovid.Database.Sessions
import HelpCovid.Database.SessionLife
import HelpCovid.Database.Prepared
import HelpCovid.Database.Login
import HelpCovid.Web.CookieForm
import HelpCovid.ChunkMap.Concatenation
import HelpCovid.Template.Closures
import HelpCovid.Views.Message
import HelpCovid.Template.Builtins
import HelpCovid.Template.Injection
import HelpCovid.ChunkMap.Names
import HelpCovid.Views.Customization
import HelpCovid.Database.Users
import HelpCovid.Database.Integrity
import HelpCovid.Instances.Mirror
import HelpCovid.Lib.Decimal
import HelpCovid.Lib.KeyFile
import HelpCovid.Startup.Options
import HelpCovid.Startup.Main
import HelpCovid.Startup.Precedence
import HelpCovid.Lib.PyText
import HelpCovid.Startup.Generator
import HelpCovid.Views.Catalogue
import HelpCovid.Lib.Regex
import HelpCovid.Models.User
import HelpCovid.Database.Dormant
import HelpCovid.Web.FreshCookie
import HelpCovid.Database.Registration
import HelpCovid.Database.Tokens
import HelpCovid.ChunkMap.SingleLine
import HelpCovid.Web.Address
import HelpCovid.Web.Encoding
import HelpCovid.Web.Language
import HelpCovid.Startup.Plugins
import HelpCovid.Startup.Threads
import HelpCovid.Startup.Euid
import HelpCovid.Lib.Columns
import HelpCovid.Models.Creation
import HelpCovid.Views.PoFile
import HelpCovid.Views.Regeneration
import HelpCovid.Template.HtmlConfig
import HelpCovid.Template.FilePosition
import HelpCovid.Startup.Connection
import HelpCovid.Template.HandOver
import HelpCovid.Web.RandomBits
import HelpCovid.Http.ThreadPool
import HelpCovid.Http.Jobs
import HelpCovid.Lib.Path
import HelpCovid.Http.Message
import HelpCovid.Http.StaticFile
import HelpCovid.Http.Url
import HelpCovid.Http.Query
import HelpCovid.Http.Stream
import HelpCovid.Http.Headers
import HelpCovid.Http.RequestLine
import HelpCovid.Http.Content
import HelpCovid.Lib.Loop
import HelpCovid.Http.Multipart
import HelpCovid.Http.Range
import HelpCovid.Http.Response
import HelpCovid.Http.Server
import HelpCovid.Http.Connection
import HelpCovid.Http.Conversation
import HelpCovid.Http.Survival
import HelpCovid.Http.Endings
import HelpCovid.Http.Starvation
import HelpCovid.Site.Views
import HelpCovid.Site.Pages
import HelpCovid.Site.Survival
import HelpCovid.Lib.Ledger
import HelpCovid.Database.Statements
import HelpCovid.Database.Cookies
