import Coedit.Digest
import Coedit.Disk
import Coedit.Json.Reader
import Coedit.Lease

/-!
# Leases in a shared directory

The lease store of several processes that share a directory.  Each lease is a
file named by the digest of its key; it is written next to its place and then
moved there, so that nobody reads half of one.  Whoever works in the directory
holds its lock file meanwhile, which makes each operation atomic.
-/

namespace Coedit.Lease.Files

/-- A lease as it is written: its owner's token and the millisecond, in the
number the file can hold, at which it ends. -/
structure Entry where
  token : String
  endsAtMillis : Int
  deriving DecidableEq, Repr

/-- The bounds of a stored number. -/
def minStored : Int := -0x8000000000000000

def maxStored : Int := 0x7fffffffffffffff

/-- A number as sixty-four signed bits keep it. -/
def wrapStored (number : Int) : Int := number.bmod UInt64.size

namespace Entry

def render (entry : Entry) : String :=
  Json.renderMembers
    [("value", Json.renderText entry.token), ("expires_at_ms", toString entry.endsAtMillis)]

/-- Read a lease file: a record with just one token and one number in bounds. -/
def ofBytes? (content : Bytes) : Option Entry := do
  let record ← Json.Value.ofBytes? content
  match record.fields? ["value", "expires_at_ms"] with
  | some [value, ends] => do
      let token ← value.text?
      let endsAtMillis ← ends.integer?
      guard (minStored ≤ endsAtMillis && endsAtMillis ≤ maxStored)
      return ⟨token, endsAtMillis⟩
  | _ => none

/-- The milliseconds a live lease still has. -/
def millisLeft? (entry : Entry) (nowMillis : Int) : Option Nat :=
  let left := wrapStored (entry.endsAtMillis - nowMillis)
  if 0 < left then some left.toNat else none

/-- A lease entered now. -/
def start (token : String) (now : Instant) (ttl : Duration) : Entry :=
  ⟨token, wrapStored ((now.millis : Int) + wrapStored (ttl.millis : Int))⟩

end Entry

/-- The file whose lock everyone takes who works in the directory. -/
def lockName : String := ".kvlock"

/-- The name of the file of a key. -/
def entryName (key : String) : String :=
  Bytes.toHex (Digest.sha256 (Bytes.ofText key)) ++ ".json"

/-- Where a lease is written before it is moved to its place. -/
def draftName (key : String) : String := FileName.withExtension (entryName key) "json.tmp"

/-- A failed file operation. -/
def unavailable (error : FileError) : StoreError :=
  .unavailable ("lock dir I/O error: " ++ error.message)

/-- Ask for a file operation; its failure is the store's. -/
def file (call : FileCall) : FileProgram (Except StoreError call.Result) :=
  .ask call fun
    | .ok result => .done (.ok result)
    | .error error => .done (.error (unavailable error))

/-- The lease file of a key, if there is one.  A file that holds no lease is an
error, never an absent lease. -/
def readEntry (path : Path) : FileProgram (Except StoreError (Option Entry)) :=
  .ask (.read path) fun
    | .error .notFound => .done (.ok none)
    | .error error => .done (.error (unavailable error))
    | .ok content =>
        match Entry.ofBytes? content with
        | some entry => .done (.ok (some entry))
        | none => .done (.error (.malformed ("corrupt lock entry " ++ path.render ++ ": no lease")))

/-- Write a lease: make the draft, fill it, move it to its place. -/
def writeEntry (path draft : Path) (entry : Entry) : FileProgram (Except StoreError Unit) :=
  (file (.write draft [])).andThen fun _ =>
    (file (.write draft (Bytes.ofText entry.render))).andThen fun _ =>
      file (.rename draft path)

/-- Remove a lease file; one that is gone already counts as removed. -/
def removeEntry (path : Path) : FileProgram (Except StoreError Unit) :=
  .ask (.remove path) fun
    | .ok () => .done (.ok ())
    | .error .notFound => .done (.ok ())
    | .error error => .done (.error (unavailable error))

/-- Work in the directory while holding its lock file. -/
def locked {α : Type} (directory : Path) (work : FileProgram (Except StoreError α)) :
    FileProgram (Except StoreError α) :=
  (file (.touch (directory ++ [lockName]))).andThen fun _ =>
    (file (.lock (directory ++ [lockName]))).andThen fun _ => work

def claim (directory : Path) (now : Instant) (key token : String) (ttl : Duration) :
    FileProgram (Except StoreError Bool) :=
  let path := directory ++ [entryName key]
  let enter := (writeEntry path (directory ++ [draftName key]) (.start token now ttl)).andThen
    fun _ => .done (.ok true)
  locked directory <| (readEntry path).andThen fun
    | some entry =>
        if (entry.millisLeft? now.millis).isSome then .done (.ok false) else enter
    | none => enter

def revoke (directory : Path) (now : Instant) (key token : String) :
    FileProgram (Except StoreError Bool) :=
  let path := directory ++ [entryName key]
  locked directory <| (readEntry path).andThen fun
    | some entry =>
        if entry.token = token && (entry.millisLeft? now.millis).isSome then
          (removeEntry path).andThen fun _ => .done (.ok true)
        else .done (.ok false)
    | none => .done (.ok false)

def timeLeft (directory : Path) (now : Instant) (key : String) :
    FileProgram (Except StoreError (Option Duration)) :=
  locked directory <| (readEntry (directory ++ [entryName key])).andThen fun found =>
    .done (.ok ((found.bind (·.millisLeft? now.millis)).map Duration.ofMillis))

/-- The file operations that answer a call. -/
def program (directory : Path) (now : Instant) : Call → FileProgram Reply
  | .claim key token ttl => claim directory now key token ttl
  | .revoke key token => revoke directory now key token
  | .check key =>
      (timeLeft directory now key).andThen fun left => .done (.ok left.isSome)

/-- Make the directory of a store. -/
def prepare (directory : Path) : FileProgram (Except StoreError Unit) :=
  .ask (.makeDirectories directory) fun
    | .ok () => .done (.ok ())
    | .error error => .done (.error (.unavailable
        ("cannot create lock dir " ++ directory.render ++ ": " ++ error.message)))

end Coedit.Lease.Files

namespace Coedit.Lease

/-- A directory of leases. -/
structure Directory where
  path : Path
  host : Host

namespace Directory

/-- Perform a file program. -/
def run {α : Type} (directory : Directory) (program : FileProgram α) : α × Directory :=
  let (value, host) := program.run Host.perform directory.host
  (value, { directory with host := host })

instance : Store Directory where
  name _ := "file"
  call directory now call := directory.run (Files.program directory.path now call)
  timeLeft directory now key := directory.run (Files.timeLeft directory.path now key)

end Directory

end Coedit.Lease
