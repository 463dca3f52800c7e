import DealForm.Http.Server
import DealForm.Main
import DealForm.Proofs.Session.Act
import DealForm.Proofs.Session.History
import DealForm.Proofs.Session.Script
import DealForm.Proofs.Session.Response
import DealForm.Proofs.Json.Opening
import DealForm.Proofs.Session.Message
import DealForm.Proofs.Session.Calls
import DealForm.Proofs.Session.Download
import DealForm.Proofs.Session.Independence
import DealForm.Proofs.Json.Value
import DealForm.Proofs.Json.Tokens
import DealForm.Proofs.Json.Loops
import DealForm.Proofs.Json.RoundTrip
import DealForm.Proofs.Json.Entries
import DealForm.Proofs.Json.Members
import DealForm.Proofs.Json.Reading
import DealForm.Proofs.Json.Printed
import DealForm.Proofs.Json.Layout
import DealForm.Proofs.Json.Indentation
import DealForm.Proofs.Deal.Metadata
import DealForm.Proofs.Deal.FormValue
import DealForm.Proofs.Deal.Grammar
import DealForm.Proofs.Deal.Reply
import DealForm.Proofs.File.Writing
import DealForm.Proofs.File.Creation
import DealForm.Proofs.Settings.Codec
import DealForm.Proofs.Settings.Load
import DealForm.Proofs.Form.Rendering
import DealForm.Proofs.Form.Message
import DealForm.Proofs.Command.Effect
import DealForm.Proofs.Command.Lookup
import DealForm.Proofs.Command.Sequence
import DealForm.Proofs.Session.Urls
import DealForm.Proofs.Session.Confinement
import DealForm.Proofs.Session.Saving
import DealForm.Proofs.Http.Session
import DealForm.Proofs.Http.Refusal
import DealForm.Proofs.Http.Credentials
import DealForm.Proofs.Http.Key
import DealForm.Proofs.Http.Headers
import DealForm.Proofs.Deal.Equality
import DealForm.Proofs.Session.Progress
import DealForm.Proofs.Settings.Run
import DealForm.Proofs.Settings.Forms
import DealForm.Proofs.Settings.Creation
import DealForm.Proofs.CommandLine.SaveDirectory
import DealForm.Proofs.Command.Routing
import DealForm.Proofs.Form.Overlap
import DealForm.Proofs.Session.Choice
import DealForm.Proofs.Deal.File
import DealForm.Proofs.Names
