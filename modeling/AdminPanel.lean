import AdminPanel.Main
import AdminPanel.Message.Catalog
import AdminPanel.Wire.Listing
import AdminPanel.Proofs.Rpc.Asking
import AdminPanel.Proofs.Page.Asking
import AdminPanel.Proofs.Json.Members
import AdminPanel.Proofs.Storage.Items
import AdminPanel.Proofs.FileTree.Replacing
import AdminPanel.Proofs.Storage.Contents
import AdminPanel.Proofs.Storage.Laws
import AdminPanel.Proofs.Panel.Stepping
import AdminPanel.Proofs.Panel.Credential
import AdminPanel.Proofs.Storage.Sharing
import AdminPanel.Proofs.Panel.Sharing
import AdminPanel.Proofs.Navigation.Going
import AdminPanel.Proofs.Program.Doing
import AdminPanel.Proofs.Program.Gating
import AdminPanel.Proofs.Wire.Number
import AdminPanel.Proofs.Wire.Decoding
import AdminPanel.Proofs.Wire.Lawful
import AdminPanel.Proofs.Wire.Signs
import AdminPanel.Proofs.Wire.RoundTrip
import AdminPanel.Proofs.Message.RoundTrip
import AdminPanel.Proofs.Wire.Records
import AdminPanel.Proofs.Wire.Taking
import AdminPanel.Proofs.Wire.Accepting
import AdminPanel.Proofs.Wire.Reading
import AdminPanel.Proofs.Message.Acceptance
import AdminPanel.Proofs.Session.Interleaving
import AdminPanel.Proofs.Rpc.Answering
import AdminPanel.Proofs.Page.Login
import AdminPanel.Proofs.Panel.Relogin
import AdminPanel.Proofs.Time.Civil
import AdminPanel.Proofs.Time.ReadingBack
import AdminPanel.Proofs.Json.Spelling
import AdminPanel.Proofs.Json.Skipping
import AdminPanel.Proofs.Settings.Document
import AdminPanel.Proofs.FileTree.Writing
import AdminPanel.Proofs.Settings.RoundTrip
import AdminPanel.Proofs.FileTree.Elsewhere
import AdminPanel.Proofs.FileTree.Differing
import AdminPanel.Proofs.Storage.Frame
import AdminPanel.Proofs.Program.LoggingIn
import AdminPanel.Proofs.Program.Overriding
import AdminPanel.Proofs.Panel.Keeping
import AdminPanel.Proofs.Session.Twins
import AdminPanel.Proofs.Page.Composing
import AdminPanel.Proofs.Panel.Discretion
import AdminPanel.Proofs.Program.Discretion
import AdminPanel.Proofs.FileTree.PathText
import AdminPanel.Proofs.Panel.Navigating
import AdminPanel.Proofs.Rpc.Dialing
import AdminPanel.Proofs.Program.Sparing
import AdminPanel.Proofs.Rpc.Sharing
import AdminPanel.Proofs.Address.MethodPath
import AdminPanel.Proofs.Page.SingleCall
import AdminPanel.Proofs.Navigation.Resolving
import AdminPanel.Proofs.Program.Banning
import AdminPanel.Proofs.Page.Logs
import AdminPanel.Proofs.Page.Announcing
import AdminPanel.Proofs.Address.Reading
import AdminPanel.Proofs.Address.NormalForm
import AdminPanel.Proofs.Rpc.Bounding
import AdminPanel.Proofs.Json.Taking
import AdminPanel.Proofs.Json.Numerals
import AdminPanel.Proofs.Json.Documents
import AdminPanel.Proofs.Json.Printing
import AdminPanel.Proofs.Page.Configuring
import AdminPanel.Proofs.FileTree.Growing
import AdminPanel.Proofs.FileTree.Renaming
import AdminPanel.Proofs.Storage.Attempts
import AdminPanel.Proofs.Page.BreakingOff
import AdminPanel.Proofs.Time.Calendar
import AdminPanel.Proofs.Time.Showing
import AdminPanel.Proofs.Rpc.Racing
import AdminPanel.Proofs.Page.Dashboard
import AdminPanel.Proofs.Page.Stamping
import AdminPanel.Proofs.Rpc.Attaching
import AdminPanel.Proofs.Page.Failing
import AdminPanel.Proofs.Program.Advising
import AdminPanel.Proofs.Page.Rows
import AdminPanel.Proofs.Panel.Refusing
import AdminPanel.Proofs.CommandLine.Layouts
import AdminPanel.Proofs.Rpc.Passing
import AdminPanel.Proofs.Page.Uptimes
