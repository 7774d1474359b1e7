import HostSurvey.Cli.Arguments
import HostSurvey.Cli.Command
import HostSurvey.Config.Defaults
import HostSurvey.Config.Load
import HostSurvey.Crypto.Sha256
import HostSurvey.Fault
import HostSurvey.Files.Path
import HostSurvey.Files.Permissions
import HostSurvey.Files.Text
import HostSurvey.Files.Tree
import HostSurvey.Host.Snapshot
import HostSurvey.Json.Bytes
import HostSurvey.Json.Read
import HostSurvey.Json.Write
import HostSurvey.Main
import HostSurvey.Network.Info
import HostSurvey.Network.Ports
import HostSurvey.Network.Probe
import HostSurvey.Number.Binary64
import HostSurvey.Number.Decimal
import HostSurvey.Number.Num
import HostSurvey.Number.Numeral
import HostSurvey.Process.Basic
import HostSurvey.Process.Scan
import HostSurvey.Socket.Address
import HostSurvey.Socket.Inode
import HostSurvey.Socket.Record
import HostSurvey.Socket.Table
import HostSurvey.Survey.Analysis
import HostSurvey.Survey.Basic
import HostSurvey.Survey.Capture
import HostSurvey.Survey.Report
import HostSurvey.Text.Base64
import HostSurvey.Text.Encoding
import HostSurvey.Text.Lines
import HostSurvey.Text.Quote
import HostSurvey.Text.Surrogate
import HostSurvey.Text.Trim
import HostSurvey.Text.Utf8
import HostSurvey.Unicode.Blank
import HostSurvey.Unicode.Case
import HostSurvey.Unicode.Digit
import HostSurvey.Unicode.Printable
import HostSurvey.Value.Basic
import HostSurvey.Value.Convert
import HostSurvey.Value.Display
import HostSurvey.Web.Request
import HostSurvey.Web.Service
import HostSurvey.Web.Token
import HostSurvey.Yaml.Document
import HostSurvey.Yaml.Event
import HostSurvey.Yaml.Lexer
import HostSurvey.Yaml.Mark
import HostSurvey.Yaml.Node
import HostSurvey.Yaml.Resolve
import HostSurvey.Yaml.Scalar
import HostSurvey.Yaml.Token
import HostSurvey.Proofs.InodeIndex
import HostSurvey.Proofs.ProbeRun
import HostSurvey.Proofs.Survey
import HostSurvey.Proofs.LineGrammar
import HostSurvey.Proofs.UnreadParts
import HostSurvey.Proofs.ProcessTable
import HostSurvey.Proofs.AddressText
import HostSurvey.Proofs.Base64Url
import HostSurvey.Proofs.JsonString
import HostSurvey.Proofs.JsonRecord
import HostSurvey.Proofs.TokenVerify
import HostSurvey.Proofs.ServiceAccess
import HostSurvey.Proofs.Severity
import HostSurvey.Proofs.QuickReport
import HostSurvey.Proofs.YamlKeys
import HostSurvey.Proofs.ConfigLoad
import HostSurvey.Proofs.TableLines
import HostSurvey.Proofs.Ipv4Text
import HostSurvey.Proofs.Findings
import HostSurvey.Proofs.DoubleRange
import HostSurvey.Proofs.ProcessAge
import HostSurvey.Proofs.FindingsSection
import HostSurvey.Proofs.InodeLink
import HostSurvey.Proofs.KeyValueFields
