import VirtualShell.Completion.Editor
import VirtualShell.Json.Printer
import VirtualShell.Line.Codec
import VirtualShell.Main
import VirtualShell.Proofs.Store.Entries
import VirtualShell.Proofs.Store.Path
import VirtualShell.Proofs.Store.Insert
import VirtualShell.Proofs.Text.Blank
import VirtualShell.Proofs.Command
import VirtualShell.Proofs.Session.Frame
import VirtualShell.Proofs.Store.Validation
import VirtualShell.Proofs.Session.Run
import VirtualShell.Proofs.Session.Loss
import VirtualShell.Proofs.Session.Replay
import VirtualShell.Proofs.Store.Drawing
import VirtualShell.Proofs.Scrollback
import VirtualShell.Proofs.Console
import VirtualShell.Proofs.Completion
import VirtualShell.Proofs.Seed
import VirtualShell.Proofs.Json.Token
import VirtualShell.Proofs.Json.Reader
import VirtualShell.Proofs.Json.Record
import VirtualShell.Proofs.Seed.Document
import VirtualShell.Proofs.History
import VirtualShell.Proofs.Session.Protocol
import VirtualShell.Proofs.Session.Listing
import VirtualShell.Proofs.Session.Touch
import VirtualShell.Proofs.Session.Secrecy
import VirtualShell.Proofs.Text.Bytes
import VirtualShell.Proofs.Text.Lowercase
import VirtualShell.Proofs.Completion.Offer
import VirtualShell.Proofs.Completion.Acceptance
import VirtualShell.Proofs.Command.Parse
import VirtualShell.Proofs.Completion.Narrowing
import VirtualShell.Proofs.Console.Import
import VirtualShell.Proofs.Session.Tree
import VirtualShell.Proofs.Store.Independence
import VirtualShell.Proofs.Cursor
import VirtualShell.Proofs.Session.Fallback
import VirtualShell.Proofs.Session.Address
import VirtualShell.Proofs.Session.Views
import VirtualShell.Proofs.Store.Flaw
import VirtualShell.Proofs.Console.Refusal
import VirtualShell.Proofs.Scrollback.Survivors
import VirtualShell.Proofs.Renderer.Banner
import VirtualShell.Proofs.Program
