import StoreBench.Main
import StoreBench.Run.Thread
import StoreBench.Proofs.Latency.Ensemble
import StoreBench.Proofs.Latency.Epochs
import StoreBench.Proofs.Latency.Content
import StoreBench.Proofs.Latency.Posting
import StoreBench.Proofs.Latency.Ranks
import StoreBench.Proofs.Latency.Gauge
import StoreBench.Proofs.Latency.Conservation
import StoreBench.Proofs.Keys.Collisions
import StoreBench.Proofs.Engine.Search
import StoreBench.Proofs.Run.Triple
import StoreBench.Proofs.Latency.Ledger
import StoreBench.Proofs.Engine.Contents
import StoreBench.Proofs.Keys.Stretches
import StoreBench.Proofs.Keys.Slots
import StoreBench.Proofs.Keys.Values
import StoreBench.Proofs.Run.Scene
import StoreBench.Proofs.Run.Desk
import StoreBench.Proofs.Run.Kinds
import StoreBench.Proofs.Run.Turn
import StoreBench.Proofs.Run.Passes
import StoreBench.Proofs.Run.Whole
import StoreBench.Proofs.Run.Layout
import StoreBench.Proofs.Run.Outcome
import StoreBench.Proofs.Run.Rehearsal
import StoreBench.Proofs.Latency.Totals
import StoreBench.Proofs.Latency.Chronicle
import StoreBench.Proofs.Latency.Lines
import StoreBench.Proofs.Latency.Tables
import StoreBench.Proofs.Latency.Percentiles
import StoreBench.Proofs.Latency.Partition
import StoreBench.Proofs.Latency.Fields
import StoreBench.Proofs.Latency.Columns
import StoreBench.Proofs.Latency.Sinks
import StoreBench.Proofs.Run.Hearing
import StoreBench.Proofs.Run.Brackets
import StoreBench.Proofs.Run.Sampling
import StoreBench.Proofs.Run.Steps
import StoreBench.Proofs.Run.Sweep
import StoreBench.Proofs.Run.Passing
import StoreBench.Proofs.Run.Fulfilling
import StoreBench.Proofs.Run.Protocol
import StoreBench.Proofs.Run.Agreement
import StoreBench.Proofs.Run.Counting
import StoreBench.Proofs.Run.Shares
import StoreBench.Proofs.Run.Course
import StoreBench.Proofs.Run.Completion
import StoreBench.Proofs.Run.Effects
import StoreBench.Proofs.Run.Telling
import StoreBench.Proofs.Run.Halting
import StoreBench.Proofs.Run.Relay
import StoreBench.Proofs.Run.Ending
import StoreBench.Proofs.Run.Opened
import StoreBench.Proofs.Run.Lifecycle
import StoreBench.Proofs.Run.Winding
import StoreBench.Proofs.Run.FirstFailure
import StoreBench.Proofs.Run.Preparation
import StoreBench.Proofs.Run.Assignment
import StoreBench.Proofs.Run.Panics
import StoreBench.Proofs.Run.Standing
import StoreBench.Proofs.Run.Crew
import StoreBench.Proofs.Latency.Intervals
import StoreBench.Proofs.Engine.Cursor
import StoreBench.Proofs.Run.Records
import StoreBench.Proofs.Run.Batches
import StoreBench.Proofs.Run.Volumes
import StoreBench.Proofs.Settings.KindLists
