import Dialogue.Console.Arguments
import Dialogue.Console.Chat
import Dialogue.Console.Run
import Dialogue.Conversation.Advance
import Dialogue.Conversation.Basic
import Dialogue.Conversation.Call
import Dialogue.Conversation.Event
import Dialogue.Conversation.Recorder
import Dialogue.Conversation.Session
import Dialogue.Document.Basic
import Dialogue.Document.Lint
import Dialogue.Document.Reader
import Dialogue.Fault
import Dialogue.ForEach
import Dialogue.History.Codec
import Dialogue.History.Patch
import Dialogue.History.Replay
import Dialogue.Host
import Dialogue.Json.Basic
import Dialogue.Json.Printer
import Dialogue.Json.Reader
import Dialogue.Json.Record
import Dialogue.Keyed
import Dialogue.Layer.Configuration
import Dialogue.Layer.EnvironmentFile
import Dialogue.Layer.Value
import Dialogue.Location
import Dialogue.Main
import Dialogue.Number.Binary64
import Dialogue.Number.Duration
import Dialogue.Number.Reader
import Dialogue.Number.Shortest
import Dialogue.Path
import Dialogue.Pattern
import Dialogue.Pattern.CharSet
import Dialogue.Pattern.Normal
import Dialogue.Pattern.Property
import Dialogue.Pattern.Reader
import Dialogue.Pattern.Regex
import Dialogue.Proofs.Conversation.Advance
import Dialogue.Proofs.Conversation.Basic
import Dialogue.Proofs.Conversation.Checked
import Dialogue.Proofs.Conversation.Course
import Dialogue.Proofs.Conversation.Detour
import Dialogue.Proofs.Conversation.Entry
import Dialogue.Proofs.Conversation.Faults
import Dialogue.Proofs.Conversation.Freefall
import Dialogue.Proofs.Conversation.Guard
import Dialogue.Proofs.Conversation.Head
import Dialogue.Proofs.Conversation.History
import Dialogue.Proofs.Conversation.Inbox
import Dialogue.Proofs.Conversation.Midway
import Dialogue.Proofs.Conversation.News
import Dialogue.Proofs.Conversation.Patience
import Dialogue.Proofs.Conversation.Pause
import Dialogue.Proofs.Conversation.Reachable
import Dialogue.Proofs.Conversation.Recording
import Dialogue.Proofs.Conversation.Refusal
import Dialogue.Proofs.Conversation.Replay
import Dialogue.Proofs.Conversation.Session
import Dialogue.Proofs.Conversation.Status
import Dialogue.Proofs.Conversation.Streak
import Dialogue.Proofs.Conversation.Variables
import Dialogue.Proofs.Conversation.Whereabouts
import Dialogue.Proofs.Document.Codec
import Dialogue.Proofs.Document.Lint
import Dialogue.Proofs.Document.Pages
import Dialogue.Proofs.Document.Targets
import Dialogue.Proofs.Except
import Dialogue.Proofs.ForEach
import Dialogue.Proofs.History.Codec
import Dialogue.Proofs.History.Difference
import Dialogue.Proofs.History.InPlace
import Dialogue.Proofs.History.Patch
import Dialogue.Proofs.History.Settling
import Dialogue.Proofs.Json.Basic
import Dialogue.Proofs.Json.Reader
import Dialogue.Proofs.Json.Record
import Dialogue.Proofs.Keyed
import Dialogue.Proofs.Location
import Dialogue.Proofs.Number.Binary64
import Dialogue.Proofs.Number.Duration
import Dialogue.Proofs.Path
import Dialogue.Proofs.Pattern.Class
import Dialogue.Proofs.Pattern.Escape
import Dialogue.Proofs.Pattern.Normal
import Dialogue.Proofs.Step.Authored
import Dialogue.Proofs.Step.Codec
import Dialogue.Proofs.Step.Targets
import Dialogue.Proofs.Store.Dependence
import Dialogue.Proofs.Store.Expansion
import Dialogue.Proofs.Store.Frame
import Dialogue.Proofs.Store.Lens
import Dialogue.Proofs.Store.Reach
import Dialogue.Proofs.Store.Tidy
import Dialogue.Proofs.Template
import Dialogue.Proofs.Turn.Answer
import Dialogue.Proofs.Turn.Asking
import Dialogue.Proofs.Turn.Cases
import Dialogue.Proofs.Turn.Errand
import Dialogue.Proofs.Turn.Faults
import Dialogue.Proofs.Turn.Leading
import Dialogue.Proofs.Turn.Play
import Dialogue.Proofs.Turn.Priority
import Dialogue.Proofs.Turn.Rejected
import Dialogue.Proofs.Turn.Run
import Dialogue.Proofs.Turn.Standard
import Dialogue.Proofs.Turn.Storing
import Dialogue.Proofs.Turn.Tidy
import Dialogue.Proofs.Turn.Unasked
import Dialogue.Proofs.Turn.Verdict
import Dialogue.Request
import Dialogue.Settings
import Dialogue.Step.Basic
import Dialogue.Step.Codec
import Dialogue.Store.Basic
import Dialogue.Template
import Dialogue.Text.Case
import Dialogue.Text.Category
import Dialogue.Text.Emoji
import Dialogue.Text.Property
import Dialogue.Text.Quoted
import Dialogue.Text.RangeTable
import Dialogue.Text.Script
import Dialogue.Text.White
import Dialogue.Toml.Reader
import Dialogue.Toml.Scalar
import Dialogue.Toml.Tree
import Dialogue.Turn.Basic
import Dialogue.Turn.Directive
import Dialogue.Turn.Run
