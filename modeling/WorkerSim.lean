import WorkerSim.Check
import WorkerSim.Config
import WorkerSim.Counter
import WorkerSim.Diagnostics.Filter
import WorkerSim.Diagnostics.Format
import WorkerSim.Interval
import WorkerSim.Launch
import WorkerSim.Line
import WorkerSim.Monitor
import WorkerSim.Program
import WorkerSim.Session
import WorkerSim.Worker.Recovered
import WorkerSim.Worker.Runaway
import WorkerSim.Writer.Script
import WorkerSim.Main
import WorkerSim.Proofs.Course
import WorkerSim.Proofs.Sink
import WorkerSim.Proofs.Check
import WorkerSim.Proofs.Reports
import WorkerSim.Proofs.Heartbeats
import WorkerSim.Proofs.Counting
import WorkerSim.Proofs.Delivery
import WorkerSim.Proofs.Limits
import WorkerSim.Proofs.Flushing
import WorkerSim.Proofs.Help
import WorkerSim.Proofs.Endings
import WorkerSim.Proofs.Partial
import WorkerSim.Proofs.Truncation
import WorkerSim.Proofs.OwnFlags
import WorkerSim.Proofs.Layers
import WorkerSim.Proofs.Loading
import WorkerSim.Proofs.Entries
import WorkerSim.Proofs.Orderly
import WorkerSim.Proofs.Fields
import WorkerSim.Proofs.Known
import WorkerSim.Proofs.Rows
import WorkerSim.Proofs.Literals
import WorkerSim.Proofs.Spelling
import WorkerSim.Proofs.RoundTrip
import WorkerSim.Proofs.Templates
import WorkerSim.Proofs.Segments
import WorkerSim.Proofs.Openings
import WorkerSim.Proofs.Expansion
import WorkerSim.Proofs.Splits
import WorkerSim.Proofs.Switches
import WorkerSim.Proofs.Muting
import WorkerSim.Proofs.Inertness
import WorkerSim.Proofs.Integers
import WorkerSim.Proofs.Ranges
import WorkerSim.Proofs.Silence
import WorkerSim.Proofs.Grammar
import WorkerSim.Proofs.Decoding
import WorkerSim.Proofs.Peak
