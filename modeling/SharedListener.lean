import SharedListener.Main
import SharedListener.Server
import SharedListener.Proofs.Frame.Chunking
import SharedListener.Proofs.Router.Classification
import SharedListener.Proofs.Router.Conservation
import SharedListener.Proofs.Router.Isolation
import SharedListener.Proofs.Router.Pipelining
import SharedListener.Proofs.Router.Registration
import SharedListener.Proofs.Router.Trace
import SharedListener.Proofs.Router.Verdict
import SharedListener.Proofs.Server.Deliveries
import SharedListener.Proofs.Server.Release
import SharedListener.Proofs.Router.ControlPolicy
import SharedListener.Proofs.Scope.Calls
import SharedListener.Proofs.Router.Counting
import SharedListener.Proofs.Router.Lives
import SharedListener.Proofs.Router.Accounting
import SharedListener.Proofs.Server.Replies
import SharedListener.Proofs.Server.Turns
import SharedListener.Frame.Cursor
import SharedListener.Proofs.Frame.Cursor
import SharedListener.Proofs.Text.Encoding
import SharedListener.Proofs.Handshake.Extraction
import SharedListener.Proofs.Handshake.Response
import SharedListener.Proofs.Config.Reachable
import SharedListener.Proofs.Metrics.Text
