import Coedit.Time

/-!
# The server's configuration

Where the server listens, where it keeps its leases and documents, and how long it
waits; with the directories that follow when none are given.
-/

namespace Coedit

/-- Where leases are kept. -/
inductive LeaseStoreKind where
  /-- In the process: locks exclude within this server only. -/
  | memory
  /-- In a shared directory: locks exclude across all servers that use it. -/
  | file
  deriving DecidableEq, Repr

def LeaseStoreKind.name : LeaseStoreKind → String
  | .memory => "memory"
  | .file => "file"

structure Configuration where
  host : String
  port : Nat
  leaseStore : LeaseStoreKind
  /-- The lease directory, if one is given. -/
  lockDirectory : Option String
  /-- The document directory, if one is given. -/
  dataDirectory : Option String
  lockTtl : Duration
  maxWait : Duration
  shutdownGrace : Duration
  deriving DecidableEq, Repr

namespace Configuration

def standard : Configuration where
  host := "0.0.0.0"
  port := 3010
  leaseStore := .memory
  lockDirectory := none
  dataDirectory := none
  lockTtl := .ofSecs 30
  maxWait := .ofMillis 5000
  shutdownGrace := .ofSecs 10

/-- A path below a directory. -/
def below (directory name : String) : String :=
  if directory.isEmpty || directory.endsWith "/" then directory ++ name
  else directory ++ "/" ++ name

/-- The directory in which a user's programs keep their data: an absolute path that
the environment names, or the usual place in the home directory. -/
def userDataDirectory (environment : String → Option String) : String :=
  match environment "XDG_DATA_HOME" with
  | some path => if path.startsWith "/" then path else inHome
  | none => inHome
where
  inHome : String :=
    match environment "HOME" with
    | some home => if home.isEmpty then "." else below home ".local/share"
    | none => "."

/-- The directory of the documents. -/
def resolvedDataDirectory (configuration : Configuration)
    (environment : String → Option String) : String :=
  configuration.dataDirectory.getD (below (userDataDirectory environment) "docsync")

/-- The directory of the leases. -/
def resolvedLockDirectory (configuration : Configuration)
    (environment : String → Option String) : String :=
  configuration.lockDirectory.getD
    (below (configuration.resolvedDataDirectory environment) "locks")

/-- What the server says about its configuration when it starts. -/
def summary (configuration : Configuration) (environment : String → Option String) :
    List String :=
  let leases :=
    match configuration.leaseStore with
    | .memory => " (locks only exclude within this instance)"
    | .file => " (" ++ configuration.resolvedLockDirectory environment ++ ")"
  ["Host: " ++ configuration.host, "Port: " ++ toString configuration.port,
    "Data dir: " ++ configuration.resolvedDataDirectory environment,
    "Lock store: " ++ configuration.leaseStore.name ++ leases,
    "Lock TTL: " ++ configuration.lockTtl.render ++ ", max wait: " ++ configuration.maxWait.render,
    "Shutdown grace: " ++ configuration.shutdownGrace.render]

end Configuration

end Coedit
