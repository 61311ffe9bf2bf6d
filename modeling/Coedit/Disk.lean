import Coedit.Bytes
import Coedit.Program
import Coedit.Table
import Coedit.Time

/-!
# Files

A tree of directories and files, and the operations on it that a store uses.
Each operation either takes effect or fails and changes nothing, except that directories
made on the way to one that cannot be made stay.
-/

namespace Coedit

/-- Why a file operation fails. -/
inductive FileError where
  | notFound
  | notDirectory
  | isDirectory
  | occupied
  | nameTooLong
  | badName
  | notEmpty
  /-- The medium itself fails. -/
  | broken
  deriving DecidableEq, Repr

/-- The text of a failure, with the number systems give it. -/
def FileError.message : FileError → String
  | .notFound => "No such file or directory (os error 2)"
  | .notDirectory => "Not a directory (os error 20)"
  | .isDirectory => "Is a directory (os error 21)"
  | .occupied => "File exists (os error 17)"
  | .nameTooLong => "File name too long (os error 36)"
  | .badName => "file name contained an unexpected NUL byte"
  | .notEmpty => "Directory not empty (os error 39)"
  | .broken => "Input/output error (os error 5)"

/-- The names on the way from the root. -/
abbrev Path := List String

/-- A path as text. -/
def Path.render (path : Path) : String := "/".intercalate path

namespace FileName

/-- The name of a file without its last dot and what follows it.  A dot at the beginning
is not counted. -/
def stem (name : String) : String :=
  match name.toList.reverse.dropWhile (· != '.') with
  | _ :: last :: rest => String.ofList (last :: rest).reverse
  | _ => name

/-- The name of a file with something else behind its last dot. -/
def withExtension (name extension : String) : String := stem name ++ "." ++ extension

/-- What is cut off is what was put behind the last dot. -/
theorem stem_append {front last : String} (named : front ≠ "") (dotless : '.' ∉ last.toList) :
    stem (front ++ "." ++ last) = front := by
  have dot : ".".toList = ['.'] := rfl
  have solid : ∀ char ∈ last.toList.reverse, (char != '.') = true := by
    intro char mem
    rw [bne_iff_ne]
    rintro rfl
    exact dotless (List.mem_reverse.mp mem)
  have cut : (front ++ "." ++ last).toList.reverse.dropWhile (· != '.') =
      '.' :: front.toList.reverse := by
    rw [String.toList_append, String.toList_append, dot, List.reverse_append,
      List.reverse_append, List.dropWhile_append_of_pos solid]
    simp
  rw [stem, cut]
  cases turned : front.toList.reverse with
  | nil => exact absurd (String.toList_eq_nil_iff.mp (List.reverse_eq_nil_iff.mp turned)) named
  | cons char rest =>
      dsimp only
      rw [← turned, List.reverse_reverse, String.ofList_toList]

end FileName

/-- What a path can lead to. -/
inductive Node where
  | directory
  | file (content : Bytes)
  deriving DecidableEq, Repr

/-- What every path leads to; the root is always a directory. -/
structure Disk where
  nodes : Table Path Node

namespace Disk

/-- Names take at most this many bytes. -/
def maxName : Nat := 255

/-- A disk with nothing on it. -/
def empty : Disk := ⟨.empty⟩

instance : Inhabited Disk := ⟨empty⟩

/-- What is at a path. -/
def node? (disk : Disk) : Path → Option Node
  | [] => some .directory
  | path => disk.nodes.get? path

def isDirectory (disk : Disk) (path : Path) : Bool := disk.node? path == some .directory

def nameError? (name : String) : Option FileError :=
  if name.toList.contains '\x00' then some .badName
  else if name.utf8ByteSize > maxName then some .nameTooLong
  else none

/-- Walk to a path whose names after `base` are still to come: every name on the
way is looked up in a directory that exists. -/
def walk (disk : Disk) (base : Path) : Path → Except FileError Unit
  | [] => .ok ()
  | name :: rest =>
      match disk.node? base with
      | none => .error .notFound
      | some (.file _) => .error .notDirectory
      | some .directory =>
          match nameError? name with
          | some error => .error error
          | none => disk.walk (base ++ [name]) rest

/-- What is at a path, or why it cannot be reached. -/
def find (disk : Disk) (path : Path) : Except FileError (Option Node) :=
  match disk.walk [] path with
  | .error error => .error error
  | .ok () => .ok (disk.node? path)

/-- The content of a file. -/
def read (disk : Disk) (path : Path) : Except FileError Bytes :=
  match disk.find path with
  | .error error => .error error
  | .ok none => .error .notFound
  | .ok (some .directory) => .error .isDirectory
  | .ok (some (.file content)) => .ok content

/-- Give a file this content, creating it if it is missing. -/
def write (disk : Disk) (path : Path) (content : Bytes) : Except FileError Disk :=
  match disk.find path with
  | .error error => .error error
  | .ok (some .directory) => .error .isDirectory
  | .ok _ => .ok ⟨disk.nodes.insert path (.file content)⟩

/-- Create a file without content, unless one is there. -/
def touch (disk : Disk) (path : Path) : Except FileError Disk :=
  match disk.find path with
  | .error error => .error error
  | .ok (some .directory) => .error .isDirectory
  | .ok (some (.file _)) => .ok disk
  | .ok none => disk.write path []

/-- Remove a file. -/
def remove (disk : Disk) (path : Path) : Except FileError Disk :=
  match disk.find path with
  | .error error => .error error
  | .ok none => .error .notFound
  | .ok (some .directory) => .error .isDirectory
  | .ok (some (.file _)) => .ok ⟨disk.nodes.erase path⟩

/-- Move a file to another path, in the place of a file that is there. -/
def rename (disk : Disk) (source target : Path) : Except FileError Disk :=
  match disk.read source with
  | .error error => .error error
  | .ok content =>
      match disk.find target with
      | .error error => .error error
      | .ok (some .directory) => .error .isDirectory
      | .ok _ => .ok ⟨(disk.nodes.erase source).insert target (.file content)⟩

/-- Create the directory at a path whose parent is `base`, and those below it on
the way.  Those that have been made stay when the next cannot be made. -/
def makeDirectoriesFrom (disk : Disk) (base : Path) : Path → Except FileError Unit × Disk
  | [] => (.ok (), disk)
  | name :: rest =>
      match nameError? name with
      | some error => (.error error, disk)
      | none =>
          let here := base ++ [name]
          match disk.node? here with
          | some .directory => disk.makeDirectoriesFrom here rest
          | some (.file _) => (.error (if rest.isEmpty then .occupied else .notDirectory), disk)
          | none => makeDirectoriesFrom ⟨disk.nodes.insert here .directory⟩ here rest

/-- Create a directory and all that are missing on the way to it. -/
def makeDirectories (disk : Disk) (path : Path) : Except FileError Disk :=
  match disk.makeDirectoriesFrom [] path with
  | (.ok (), made) => .ok made
  | (.error error, _) => .error error

/-- Give a file this content, with the directories on the way to it. -/
def plant (disk : Disk) (path : Path) (content : Bytes) : Except FileError Disk := do
  let prepared ← disk.makeDirectories path.dropLast
  prepared.write path content

/-- Whether something is at a path. -/
def probe (disk : Disk) (path : Path) : Except FileError Bool :=
  match disk.find path with
  | .ok found => .ok found.isSome
  | .error .notFound => .ok false
  | .error error => .error error

/-- Remove a path and everything below it. -/
def removeTree (disk : Disk) (path : Path) : Disk :=
  ⟨disk.nodes.filter fun place _ => !path.isPrefixOf place⟩

/-- Everything below a directory, as text; directories end in a slash. -/
def tree (disk : Disk) (base : Path) : List String :=
  disk.nodes.entries.filterMap fun (path, node) =>
    if base.isPrefixOf path ∧ base.length < path.length then
      some (Path.render (path.drop base.length) ++ if node = .directory then "/" else "")
    else none

/-- The names directly in a directory. -/
def list (disk : Disk) (path : Path) : List String :=
  disk.nodes.keys.filterMap fun key =>
    match key.reverse with
    | name :: parent => if parent.reverse = path then some name else none
    | [] => none

end Disk

/-- What stores ask of their host: operations on files, the time, and names that
nobody has used. -/
inductive FileCall where
  | makeDirectories (path : Path)
  | read (path : Path)
  | write (path : Path) (content : Bytes)
  | touch (path : Path)
  | rename (source target : Path)
  | remove (path : Path)
  | probe (path : Path)
  /-- Wait until nobody else has the file locked. -/
  | lock (path : Path)
  | time
  | unusedName
  deriving DecidableEq, Repr

/-- What an operation yields if it succeeds. -/
abbrev FileCall.Result : FileCall → Type
  | .read _ => Bytes
  | .probe _ => Bool
  | .time => Instant
  | .unusedName => String
  | _ => Unit

/-- What an operation answers. -/
abbrev FileCall.Answer (call : FileCall) : Type := Except FileError call.Result

/-- A program over files. -/
abbrev FileProgram := Program FileCall FileCall.Answer

/-- A disk with a clock and a supply of unused names. -/
structure Host where
  disk : Disk
  now : Instant
  /-- The unused name of each number. -/
  nameOf : Nat → String
  /-- How many names have been used. -/
  namesUsed : Nat

namespace Host

/-- The change an operation makes, or the host as it was. -/
def change (host : Host) : Except FileError Disk → Except FileError Unit × Host
  | .ok disk => (.ok (), { host with disk := disk })
  | .error error => (.error error, host)

/-- Change the disk from outside: was it possible? -/
def edit (host : Host) (change : Disk → Except FileError Disk) : Bool × Host :=
  match change host.disk with
  | .ok disk => (true, { host with disk := disk })
  | .error _ => (false, host)

/-- Answer one question. -/
def perform (call : FileCall) (host : Host) : call.Answer × Host :=
  match call with
  | .makeDirectories path =>
      let (made, disk) := host.disk.makeDirectoriesFrom [] path
      (made, { host with disk := disk })
  | .read path => (host.disk.read path, host)
  | .write path content => host.change (host.disk.write path content)
  | .touch path => host.change (host.disk.touch path)
  | .rename source target => host.change (host.disk.rename source target)
  | .remove path => host.change (host.disk.remove path)
  | .probe path => (host.disk.probe path, host)
  | .lock _ => (.ok (), host)
  | .time => (.ok host.now, host)
  | .unusedName =>
      (.ok (host.nameOf host.namesUsed), { host with namesUsed := host.namesUsed + 1 })

/-- Answer one question on a medium that may fail, without effect. -/
def attempt (failure : Option FileError) (call : FileCall) (host : Host) : call.Answer × Host :=
  match failure with
  | some error => (.error error, host)
  | none => host.perform call

end Host

end Coedit
