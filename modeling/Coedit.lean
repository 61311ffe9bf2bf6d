import Coedit.Archive
import Coedit.Archive.Files
import Coedit.Archive.Shelf
import Coedit.Bytes
import Coedit.CommandLine
import Coedit.Configuration
import Coedit.Digest
import Coedit.Disk
import Coedit.Document
import Coedit.Engine
import Coedit.Frame
import Coedit.Gateway
import Coedit.Hub
import Coedit.Hub.Cache
import Coedit.Hub.Error
import Coedit.Hub.Handling
import Coedit.Hub.Section
import Coedit.Json
import Coedit.Json.Reader
import Coedit.Lease
import Coedit.Lease.Backend
import Coedit.Lease.Files
import Coedit.Lease.Memory
import Coedit.Lock.Acquisition
import Coedit.Lock.Attempt
import Coedit.Lock.Backoff
import Coedit.Lock.Locker
import Coedit.Lock.Settings
import Coedit.Lock.Vigil
import Coedit.Main
import Coedit.Operation
import Coedit.Operation.Failure
import Coedit.Operation.State
import Coedit.Outbox
import Coedit.Program
import Coedit.Rehearsal.Operations
import Coedit.Rehearsal.Replacing
import Coedit.Rehearsal.Scene
import Coedit.Rehearsal.Seekers
import Coedit.Rehearsal.Stage
import Coedit.Rehearsal.Troubled
import Coedit.Rehearsal.Venue
import Coedit.Roster
import Coedit.Schedule
import Coedit.Site
import Coedit.Table
import Coedit.Text
import Coedit.Time
import Coedit.Timestamp
import Coedit.UpdateLog
import Coedit.Visit
import Coedit.Workers
import Coedit.Proofs.Lease.Contract
import Coedit.Proofs.Site.Holding
import Coedit.Proofs.Site.Run
import Coedit.Proofs.Site.Exclusion
import Coedit.Proofs.Site.Handshake
import Coedit.Proofs.Site.Bodies
import Coedit.Proofs.Archive.Keeping
import Coedit.Proofs.Hub.Section
import Coedit.Proofs.Hub.Cache
import Coedit.Proofs.Hub.Run
import Coedit.Proofs.Hub.Opened
import Coedit.Proofs.Hub.History
import Coedit.Proofs.Hub.Serial
import Coedit.Proofs.Hub.Trace
import Coedit.Proofs.Hub.Frames
import Coedit.Proofs.UpdateLog.Codec
import Coedit.Proofs.UpdateLog.Journal
import Coedit.Proofs.Hub.Backed
import Coedit.Proofs.UpdateLog.Reads
import Coedit.Proofs.Archive.Shelf
import Coedit.Proofs.Timestamp.Calendar
import Coedit.Proofs.Timestamp.Reading
import Coedit.Proofs.Json.Reader
import Coedit.Proofs.Archive.Meta
import Coedit.Proofs.Archive.Files
import Coedit.Proofs.UpdateLog.Durable
import Coedit.Proofs.Hub.Foyer
import Coedit.Proofs.Hub.Seats
import Coedit.Proofs.Hub.Passing
import Coedit.Proofs.UpdateLog.Delivery
import Coedit.Proofs.Disk.Reading
import Coedit.Proofs.Archive.Loading
import Coedit.Proofs.Archive.Saving
import Coedit.Proofs.Workers
import Coedit.Proofs.Site.House
import Coedit.Proofs.Site.Closing
import Coedit.Proofs.Site.Abandoning
import Coedit.Proofs.Operation.Life
import Coedit.Proofs.Operation.Ledger
import Coedit.Proofs.Operation.Course
import Coedit.Proofs.Operation.Hygiene
import Coedit.Proofs.Hub.Queues
import Coedit.Proofs.UpdateLog.Broadcast
import Coedit.Proofs.Site.Account
import Coedit.Proofs.Hub.Errand
import Coedit.Proofs.Hub.Calm
import Coedit.Proofs.Hub.Setbacks
import Coedit.Proofs.UpdateLog.Traceless
import Coedit.Proofs.UpdateLog.Encoding
import Coedit.Proofs.Json.Texts
import Coedit.Proofs.Disk.Directory
import Coedit.Proofs.Lease.Entries
import Coedit.Proofs.Lease.Directory
import Coedit.Proofs.Lease.Book
import Coedit.Proofs.Lock.Lifetime
import Coedit.Proofs.Lock.Cloakroom
import Coedit.Proofs.Lock.Custody
import Coedit.Proofs.Lock.Returning
import Coedit.Proofs.Lock.Bookkeeping
import Coedit.Proofs.Archive.Reach
import Coedit.Proofs.Archive.Isolation
import Coedit.Proofs.Identifier
import Coedit.Proofs.Roster.Lobby
import Coedit.Proofs.Roster.Presence
import Coedit.Proofs.Workers.Shift
import Coedit.Proofs.Workers.Draining
import Coedit.Proofs.Frame
import Coedit.Proofs.Archive.Versions
import Coedit.Proofs.Lease.Faults
import Coedit.Proofs.Hub.Alike
import Coedit.Proofs.Hub.Jobs
import Coedit.Proofs.Visit.Salon
import Coedit.Proofs.Visit.Phases
import Coedit.Proofs.Visit.Ignoring
import Coedit.Proofs.Visit.Attendance
import Coedit.Proofs.Visit.Unnoticed
import Coedit.Proofs.Lock.Pauses
import Coedit.Proofs.Lock.Quests
import Coedit.Proofs.Lock.Patience
import Coedit.Proofs.Lock.Ending
import Coedit.Proofs.Roster.Gathering
