import CompilerLink.Host.Scripted
import CompilerLink.Main
import CompilerLink.Proofs.Counter.Conservation
import CompilerLink.Proofs.Counter.Interleaving
import CompilerLink.Proofs.Handle.SlotMap
import CompilerLink.Proofs.Crash.Stream
import CompilerLink.Proofs.Crash.Election
import CompilerLink.Proofs.Crash.Agreement
import CompilerLink.Proofs.Library.Desk
import CompilerLink.Proofs.Library.Run
import CompilerLink.Proofs.Library.Race
import CompilerLink.Proofs.Library.OpenedOnce
import CompilerLink.Proofs.Link.Unloading
import CompilerLink.Proofs.Event.Trace
import CompilerLink.Proofs.Event.Formatting
import CompilerLink.Proofs.Link.Lifecycle
import CompilerLink.Proofs.Link.Service
import CompilerLink.Proofs.Counter.Climb
import CompilerLink.Proofs.Counter.Repetition
import CompilerLink.Proofs.Counter.Succession
import CompilerLink.Proofs.Counter.Headroom
import CompilerLink.Proofs.Counter.Crew
import CompilerLink.Proofs.Counter.Fleet
import CompilerLink.Proofs.Link.Exercise
import CompilerLink.Proofs.Link.BoxCaches
import CompilerLink.Proofs.Host.Turns
import CompilerLink.Proofs.Text.Cut
import CompilerLink.Proofs.Crash.Pattern
import CompilerLink.Proofs.Handle.Peak
import CompilerLink.Proofs.Library.Search
import CompilerLink.Proofs.Writer
import CompilerLink.Proofs.Event.Printing
