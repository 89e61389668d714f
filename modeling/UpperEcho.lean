import UpperEcho.Bytes
import UpperEcho.Transform
import UpperEcho.Errno
import UpperEcho.IoFault
import UpperEcho.SysError
import UpperEcho.ServiceError
import UpperEcho.Net.Numeral
import UpperEcho.Net.Address
import UpperEcho.Endpoint
import UpperEcho.Log.Record
import UpperEcho.Channel
import UpperEcho.Transfer
import UpperEcho.Stream.Connection
import UpperEcho.Stream.Server
import UpperEcho.Datagram.Inbox
import UpperEcho.Datagram.Server
import UpperEcho.Client.Exchange
import UpperEcho.Client.Pipe
import UpperEcho.Net.Resolve
import UpperEcho.Toml.Scalar
import UpperEcho.Toml.Tree
import UpperEcho.Toml.Reader
import UpperEcho.Toml.Gather
import UpperEcho.Config.Settings
import UpperEcho.Host.FileMode
import UpperEcho.Host.Path
import UpperEcho.Host.FileSystem
import UpperEcho.Host.Program
import UpperEcho.Host.Machine
import UpperEcho.Log.Logger
import UpperEcho.Log.Session
import UpperEcho.Host.Descriptors
import UpperEcho.Host.SocketName
import UpperEcho.Host.Scratch
import UpperEcho.Net.Network
import UpperEcho.Session.Binding
import UpperEcho.Session.Datagram
import UpperEcho.Session.Stream
import UpperEcho.Session.Peek
import UpperEcho.Binary64
import UpperEcho.Cli.Similarity
import UpperEcho.Cli.Grammar
import UpperEcho.Cli.Help
import UpperEcho.Cli.Parse
import UpperEcho.Tool.Control
import UpperEcho.Tool.Daemon
import UpperEcho.Main
import UpperEcho.Proofs.Stepwise
import UpperEcho.Proofs.StreamNetwork
import UpperEcho.Proofs.StreamFlow
import UpperEcho.Proofs.StreamEcho
import UpperEcho.Proofs.DgramNetwork
import UpperEcho.Proofs.DgramCalls
import UpperEcho.Proofs.DgramFlow
import UpperEcho.Proofs.DgramEcho
import UpperEcho.Proofs.DgramRuns
import UpperEcho.Proofs.DgramScript
import UpperEcho.Proofs.ExchangeRounds
import UpperEcho.Proofs.DgramBuffer
import UpperEcho.Proofs.StreamScript
import UpperEcho.Proofs.ConnectionEcho
import UpperEcho.Proofs.PipeChunks
import UpperEcho.Proofs.NumeralText
import UpperEcho.Proofs.AddressText
import UpperEcho.Proofs.EndpointText
import UpperEcho.Proofs.FileTree
import UpperEcho.Proofs.LogSegments
import UpperEcho.Proofs.LogDirectory
import UpperEcho.Proofs.LogRotation
import UpperEcho.Proofs.RotationScan
import UpperEcho.Proofs.ErrorNumbers
import UpperEcho.Proofs.AddressLookup
import UpperEcho.Proofs.DaemonStdio
import UpperEcho.Proofs.ReplyPath
import UpperEcho.Proofs.TransferLoops
