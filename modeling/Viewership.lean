import Viewership.Handle
import Viewership.Roster.Script
import Viewership.Scene.Step
import Viewership.Proofs.Audience.Reachable
import Viewership.Proofs.Audience.Standing
import Viewership.Proofs.Audience.Members
import Viewership.Proofs.Traversal.Search
import Viewership.Proofs.Session.Basic
import Viewership.Proofs.Session.ManualPhase
import Viewership.Proofs.Session.AutoPhase
import Viewership.Proofs.Roster.Faithful
import Viewership.Proofs.Session.Progress
import Viewership.Proofs.Session.Soundness
import Viewership.Proofs.Session.Appended
import Viewership.Proofs.Audience.Multiplicity
import Viewership.Proofs.Audience.Predictable
import Viewership.Proofs.Audience.Undoing
import Viewership.Proofs.Audience.Exchange
import Viewership.Proofs.Clients.Schedule
import Viewership.Proofs.Clients.Serializable
import Viewership.Proofs.Audience.Refusal
import Viewership.Proofs.Roster.Listing
import Viewership.Proofs.Session.LookAhead
import Viewership.Proofs.Matching.Basic
import Viewership.Proofs.Matching.Roster
import Viewership.Proofs.Matching.Audience
import Viewership.Proofs.Matching.Traversal
import Viewership.Proofs.Matching.Scene
import Viewership.Proofs.Audience.Replay
import Viewership.Proofs.Audience.RoundTrip
import Viewership.Proofs.Session.Clearing
