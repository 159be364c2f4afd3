import ClusterSession.Call
import ClusterSession.Simulation.Bench
import ClusterSession.Simulation.Servers
import ClusterSession.Simulation.Steps
import ClusterSession.Proofs.Session.Lives
import ClusterSession.Proofs.Session.Phases
import ClusterSession.Proofs.Session.Courses
import ClusterSession.Proofs.Session.Waiters
import ClusterSession.Proofs.Session.Heartbeats
import ClusterSession.Proofs.Session.Silence
import ClusterSession.Proofs.Rpc.Tables
import ClusterSession.Proofs.Rpc.Lines
import ClusterSession.Proofs.Rpc.Correlation
import ClusterSession.Proofs.Cluster.Stages
import ClusterSession.Proofs.Cluster.Rotation
import ClusterSession.Proofs.Cluster.Abandonment
import ClusterSession.Proofs.Session.Reports
import ClusterSession.Proofs.Session.Discipline
import ClusterSession.Proofs.Session.Crews
import ClusterSession.Proofs.Client.Trips
import ClusterSession.Proofs.Client.Beating
import ClusterSession.Proofs.Client.Failover
import ClusterSession.Proofs.Session.Chronicles
import ClusterSession.Proofs.Session.Statuses
import ClusterSession.Proofs.Session.Identity
import ClusterSession.Proofs.Session.Answers
import ClusterSession.Proofs.Session.Completions
import ClusterSession.Proofs.Session.Plans
import ClusterSession.Proofs.Session.Clocks
import ClusterSession.Proofs.Session.Rests
import ClusterSession.Proofs.Session.Pacing
import ClusterSession.Proofs.Session.Attempts
import ClusterSession.Proofs.Session.Rounds
import ClusterSession.Proofs.Session.Retries
import ClusterSession.Proofs.Session.Resumption
import ClusterSession.Proofs.Rpc.Verdicts
import ClusterSession.Proofs.Selector.Histories
import ClusterSession.Proofs.Rpc.Laps
import ClusterSession.Proofs.Rpc.Shutdown
import ClusterSession.Proofs.Cluster.Links
import ClusterSession.Proofs.Cluster.Marks
import ClusterSession.Proofs.Cluster.Drops
import ClusterSession.Proofs.Json.Documents
import ClusterSession.Proofs.Json.Arrangements
import ClusterSession.Proofs.Json.Steadiness
import ClusterSession.Proofs.Json.Agreement
import ClusterSession.Proofs.Wire.Addresses
import ClusterSession.Proofs.Wire.Records
import ClusterSession.Proofs.Wire.Frames
import ClusterSession.Proofs.Wire.Spellings
import ClusterSession.Proofs.Wire.Settings
import ClusterSession.Proofs.Wire.Leniency
import ClusterSession.Proofs.Rpc.Sockets
import ClusterSession.Proofs.Rpc.Strays
import ClusterSession.Proofs.Rpc.Neighbours
import ClusterSession.Proofs.Selector.Resets
import ClusterSession.Proofs.Cluster.Dialing
import ClusterSession.Proofs.State.Handles
