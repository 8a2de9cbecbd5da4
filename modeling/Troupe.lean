import Troupe.World.Commands
import Troupe.Proofs.World.Wakeups
import Troupe.Proofs.World.Asks
import Troupe.Proofs.World.Fifo
import Troupe.Proofs.World.Flush
import Troupe.Proofs.Store.Effects
import Troupe.Proofs.World.Notices
import Troupe.Proofs.World.Keeps
import Troupe.Proofs.World.Nesting
import Troupe.Proofs.Behavior.StateField
import Troupe.Proofs.Pass.Exchanges
import Troupe.Proofs.Behavior.OneState
import Troupe.Proofs.Behavior.Loading
import Troupe.Proofs.Behavior.Agreement
import Troupe.Proofs.Behavior.CurrentState
import Troupe.Proofs.World.Tenure
import Troupe.Proofs.World.Resumption
import Troupe.Proofs.World.Recovery
import Troupe.Proofs.World.Interruption
import Troupe.Proofs.World.Starts
import Troupe.Proofs.World.Redelivery
import Troupe.Proofs.Actor
import Troupe.Proofs.World.Admission
import Troupe.Proofs.World.Screening
import Troupe.Proofs.World.Changes
import Troupe.Proofs.World.Isolation
import Troupe.Proofs.Pass.Reports
import Troupe.Proofs.World.Customs
import Troupe.Proofs.World.Accounts
import Troupe.Proofs.World.Failures
import Troupe.Proofs.Expr.Grammar
import Troupe.Proofs.Store.Saved
import Troupe.Proofs.World.Answers
import Troupe.Proofs.World.FailedAsks
import Troupe.Proofs.World.Overlap
import Troupe.Proofs.World.Correspondence
import Troupe.Proofs.Store.Replay
import Troupe.Proofs.World.Inlining
import Troupe.Proofs.World.Choice
import Troupe.Proofs.World.Course
import Troupe.Proofs.Schema.Conformance
import Troupe.Proofs.Store.Owners
import Troupe.Proofs.Behavior.Expansion
import Troupe.Proofs.World.Posts
import Troupe.Proofs.Json.Quotes
import Troupe.Proofs.Schema.Hashes
import Troupe.Proofs.Template
import Troupe.Proofs.Expr.Comparison
import Troupe.Proofs.Tool.Parameters
import Troupe.Proofs.World.RoundRobin
import Troupe.Proofs.World.Subscriptions
