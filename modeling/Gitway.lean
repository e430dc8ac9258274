import Gitway.Lib.Fallible
import Gitway.Lib.Coupled
import Gitway.Lib.Logged
import Gitway.Lib.Numeral
import Gitway.Lib.Argv
import Gitway.Lib.Shell
import Gitway.Lib.Shell.Words
import Gitway.Lib.Runs
import Gitway.Lib.Tagged
import Gitway.Lib.Moves
import Gitway.Lib.Keyring
import Gitway.Lib.Follows
import Gitway.Text
import Gitway.World
import Gitway.Transport.Proxy
import Gitway.Biometric
import Gitway.Biometric.Backend
import Gitway.Biometric.Recorded
import Gitway.Prompt
import Gitway.Path
import Gitway.Agent.Load
import Gitway.Agent.Add
import Gitway.Reference
import Gitway.Agent.Additive
import Gitway.Agent.InStep
import Gitway.Biometric.Cmd
import Gitway.Biometric.Calls
import Gitway.Biometric.Verified
import Gitway.Biometric.Heal
import Gitway.Biometric.Copies
import Gitway.Biometric.Linux
import Gitway.Biometric.Linux.Collection
import Gitway.Biometric.Linux.Gate
import Gitway.Biometric.Linux.Device
import Gitway.Keygen.Passphrase
import Gitway.Agent.Paths
import Gitway.Agent.Piped
import Gitway.Agent.Stop
import Gitway.Agent.PidFile
import Gitway.Agent.Start
import Gitway.Agent.Lifecycle
import Gitway.KeygenShim.Parsed
import Gitway.KeygenShim.Grammar
import Gitway.KeygenShim.Git
import Gitway.KeygenShim.Sign
import Gitway.Hosts.Revoke
import Gitway.AddShim.Parsed
import Gitway.AddShim.Run
import Gitway.AddShim.Operands
import Gitway.Exit
import Gitway.Biometric.Unavailable
import Gitway.Biometric.Macos
import Gitway.Biometric.Windows
import Gitway.Biometric.Unchanged
import Gitway.Lib.Utf8
import Gitway.Config.Resolved
import Gitway.Config.Show
import Gitway.Config.Redaction
import Gitway.Transport.Request
import Gitway.Transport.Precedence
import Gitway.Transport.UserHost
import Gitway.Process
import Gitway.Transport.Session
import Gitway.Transport.Prompting
import Gitway.Transport.Closing
import Gitway.Keygen.Commands
import Gitway.Sign
import Gitway.Agent.Commands
import Gitway.Hosts.Commands
import Gitway.Hosts.Consent
import Gitway.Discovery
import Gitway.Biometric.Report
import Gitway.Biometric.Batch
import Gitway.Config.Command
import Gitway.Main
import Gitway.Envelopes
import Gitway.Frames
import Gitway.Silent
import Gitway.Machine
import Gitway.Reported
import Gitway.Isolated
import Gitway.KeygenShim.Run
import Gitway.Keygen.Unencrypted
import Gitway.Agent.Eval
import Gitway.KeygenShim.Agent
import Gitway.AddShim.Grammar
import Gitway.AddShim.Ignored
import Gitway.KeygenShim.Operands
import Gitway.Agent.Again
import Gitway.Help
import Gitway.Biometric.Accounted
import Gitway.Hosts.Asked
import Gitway.Agent.Private
import Gitway.KeygenShim.Size
import Gitway.Agent.Account
import Gitway.Parts
import Gitway.Touched
import Gitway.Answers
import Gitway.Contract
import Gitway.Streams
import Gitway.Agent.Keyring
import Gitway.Agent.History
import Gitway.Lib.Directives
import Gitway.Signatures
import Gitway.Tracing
import Gitway.Lib.Paired
import Gitway.Likeness
import Gitway.Steps
import Gitway.Modes
import Gitway.Parallel
import Gitway.Discreet
import Gitway.Shims
import Gitway.Biometric.Latest
