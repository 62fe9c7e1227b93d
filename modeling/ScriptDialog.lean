import ScriptDialog.Config.Load
import ScriptDialog.Control.Assigned
import ScriptDialog.Gui.Run
import ScriptDialog.Proofs.Number.Reading
import ScriptDialog.Proofs.Number.Rounding
import ScriptDialog.Proofs.Text.Pieces
import ScriptDialog.Proofs.Text.Token
import ScriptDialog.States.File
import ScriptDialog.States.Fragment
import ScriptDialog.Value.Fault
import ScriptDialog.Value.Numeric
import ScriptDialog.Value.Order
import ScriptDialog.Value.Sequence
import ScriptDialog.Proofs.Number.Spelling
import ScriptDialog.Proofs.Number.RoundTrip
import ScriptDialog.Proofs.Color
import ScriptDialog.Proofs.Control.Held
import ScriptDialog.Proofs.Control.Receive
import ScriptDialog.Proofs.Dialog.Restore
import ScriptDialog.Proofs.Dialog.Line
import ScriptDialog.Proofs.Control.Declared
import ScriptDialog.Proofs.Dialog.Values
import ScriptDialog.Proofs.Dialog.Transfer
import ScriptDialog.Proofs.Control.Sound
import ScriptDialog.Proofs.Control.Drawn
import ScriptDialog.Proofs.Dialog.Reachable
import ScriptDialog.Proofs.Dialog.Delivery
import ScriptDialog.Proofs.Dialog.Refused
import ScriptDialog.Proofs.Document.Written
import ScriptDialog.Proofs.States.Written
import ScriptDialog.Proofs.Document.Keys
import ScriptDialog.Proofs.States.Map
import ScriptDialog.Proofs.Files.Writing
import ScriptDialog.Proofs.States.Store
import ScriptDialog.Proofs.Text.Decoded
import ScriptDialog.Proofs.Document.Fuel
import ScriptDialog.Proofs.Document.Overlong
import ScriptDialog.Proofs.Config.Cache
import ScriptDialog.Proofs.States.Damaged
import ScriptDialog.Proofs.Number.Limits
import ScriptDialog.Proofs.Control.Misread
import ScriptDialog.Proofs.Dialog.Unconverted
import ScriptDialog.Proofs.Dialog.OwnLine
import ScriptDialog.Proofs.Gui.Frame
import ScriptDialog.Proofs.Gui.Loop
import ScriptDialog.Proofs.Gui.Released
import ScriptDialog.Proofs.Gui.Answer
import ScriptDialog.Proofs.Config.Merge
import ScriptDialog.Proofs.Yaml.Tidy
import ScriptDialog.Proofs.Files.Content
import ScriptDialog.Proofs.Config.Precedence
import ScriptDialog.Proofs.Text.Canonical
import ScriptDialog.Proofs.Text.Escapes
import ScriptDialog.Proofs.Number.Surrounded
import ScriptDialog.Proofs.Field.Settled
import ScriptDialog.Proofs.Field.Integer
import ScriptDialog.Proofs.Number.Plain
import ScriptDialog.Proofs.Dialog.Numbers
import ScriptDialog.Proofs.Dialog.Buttons
import ScriptDialog.Proofs.Dialog.Session
import ScriptDialog.Proofs.Color.Spelling
import ScriptDialog.Proofs.Number.Clamped
import ScriptDialog.Proofs.Control.IntEdit
import ScriptDialog.Proofs.Control.FloatEdit
import ScriptDialog.Proofs.Config.Overlay
import ScriptDialog.Proofs.Color.Converted
import ScriptDialog.Proofs.Config.Refused
import ScriptDialog.Proofs.States.Fragment
import ScriptDialog.Proofs.Gui.Scopes
import ScriptDialog.Proofs.Control.Answered
import ScriptDialog.Gui.Broken
import ScriptDialog.Proofs.Gui.Distinct
import ScriptDialog.Proofs.Gui.Lifetime
import ScriptDialog.Proofs.Number.Sum
import ScriptDialog.Proofs.Layout.Overlap
import ScriptDialog.Proofs.Layout.Window
