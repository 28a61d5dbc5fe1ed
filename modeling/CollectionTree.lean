import CollectionTree.Address.File
import CollectionTree.Bench
import CollectionTree.LinkEstimate.File
import CollectionTree.Main
import CollectionTree.Proofs.Connection.Coherence
import CollectionTree.Proofs.Simulation.Nodes
import CollectionTree.Proofs.Simulation.Moves
import CollectionTree.Proofs.Simulation.Accounts
import CollectionTree.Proofs.Simulation.Conservation
import CollectionTree.Proofs.Simulation.InFlight
import CollectionTree.Proofs.Simulation.Gossip
import CollectionTree.Proofs.Simulation.GossipTurns
import CollectionTree.Proofs.Simulation.GossipRuns
import CollectionTree.Proofs.Ratio
import CollectionTree.Proofs.Simulation.ShortestPaths
import CollectionTree.Proofs.Connection.Reopening
import CollectionTree.Proofs.Connection.SinkRole
import CollectionTree.Proofs.Connection.Learning
import CollectionTree.Proofs.Simulation.Vicinity
import CollectionTree.Proofs.Simulation.Rumors
import CollectionTree.Proofs.Simulation.LoopFree
import CollectionTree.Proofs.Levels
import CollectionTree.Proofs.Simulation.Cascades
import CollectionTree.Proofs.Simulation.Silence
import CollectionTree.Proofs.Simulation.Closing
import CollectionTree.Proofs.Notation
import CollectionTree.Proofs.Simulation.Journal
import CollectionTree.Proofs.Simulation.Passages
import CollectionTree.Proofs.Simulation.Integrity
import CollectionTree.Proofs.Simulation.HopBudget
import CollectionTree.Proofs.Duplicates
import CollectionTree.Proofs.Links
import CollectionTree.Proofs.Simulation.Ageing
import CollectionTree.Proofs.Simulation.Line
import CollectionTree.Proofs.Simulation.Downhill
import CollectionTree.Proofs.Simulation.DownhillRuns
import CollectionTree.Proofs.Simulation.Agenda
import CollectionTree.Proofs.Simulation.Waves
import CollectionTree.Proofs.Simulation.Schedule
import CollectionTree.Proofs.Simulation.ScheduleRuns
import CollectionTree.Proofs.Simulation.FullDelivery
import CollectionTree.Proofs.Connection.PacketBalance
import CollectionTree.Proofs.Connection.NextHops
import CollectionTree.Proofs.Connection.Announcements
import CollectionTree.Proofs.Connection.Sessions
import CollectionTree.Proofs.Windows
import CollectionTree.Proofs.Connection.Suppression
import CollectionTree.Proofs.Connection.Backpressure
import CollectionTree.Proofs.Connection.Lessons
import CollectionTree.Proofs.Connection.Refusals
import CollectionTree.Proofs.Simulation.Retransmission
import CollectionTree.Proofs.Connection.Frames
import CollectionTree.Proofs.Simulation.FirstAttempts
import CollectionTree.Proofs.LinkHistory
import CollectionTree.Proofs.Choice
import CollectionTree.Proofs.Roster
import CollectionTree.Proofs.Expiry
import CollectionTree.Proofs.Connection.Guarded
import CollectionTree.Proofs.Probability
import CollectionTree.Proofs.Simulation.Guarded
import CollectionTree.Proofs.Simulation.GuardedRuns
import CollectionTree.Proofs.DottedNotation
import CollectionTree.Proofs.SequenceNumbers
import CollectionTree.Proofs.ConfigFiles
import CollectionTree.Proofs.StoredEstimates
import CollectionTree.Proofs.Trials
import CollectionTree.Proofs.Replays
import CollectionTree.Proofs.Memories
