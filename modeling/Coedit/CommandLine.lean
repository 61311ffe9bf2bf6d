import Coedit.Configuration
import Coedit.Table

/-!
# The command line

How a configuration is read from arguments and the environment.  An argument goes
before the environment, and the environment before the standard.  The value of an
option is looked at when the next option comes or the arguments end; an argument
that is no option's is an error at once.
-/

namespace Coedit.CommandLine

/-- The options that take a value, in the order in which the environment is
read. -/
inductive Setting where
  | host
  | port
  | leaseStore
  | lockDirectory
  | dataDirectory
  | lockTtl
  | maxWait
  | shutdownGrace
  deriving DecidableEq, Repr

/-- Why a configuration cannot be read. -/
inductive Error where
  /-- A value is not of the kind wanted. -/
  | valueValidation
  /-- A value is missing, or none of those there are. -/
  | invalidValue
  | unknownArgument
  /-- An option is given twice. -/
  | argumentConflict
  /-- A value is given where none belongs. -/
  | tooManyValues
  /-- The arguments ask for help. -/
  | displayHelp
  deriving DecidableEq, Repr

def Error.message : Error → String
  | .valueValidation => "a value is not a number in range"
  | .invalidValue => "a value is missing or not one of those allowed"
  | .unknownArgument => "an argument is unknown"
  | .argumentConflict => "an option is given twice"
  | .tooManyValues => "a value is given to an option that takes none"
  | .displayHelp => "help is asked for"

namespace Setting

def all : List Setting :=
  [.host, .port, .leaseStore, .lockDirectory, .dataDirectory, .lockTtl, .maxWait, .shutdownGrace]

/-- The name of the option. -/
def option : Setting → String
  | .host => "host"
  | .port => "port"
  | .leaseStore => "lock-store"
  | .lockDirectory => "lock-dir"
  | .dataDirectory => "data-dir"
  | .lockTtl => "lock-ttl-secs"
  | .maxWait => "max-wait-ms"
  | .shutdownGrace => "shutdown-grace-secs"

/-- The variable of the environment. -/
def variableName : Setting → String
  | .host => "SYNC_HOST"
  | .port => "SYNC_PORT"
  | .leaseStore => "LOCK_STORE"
  | .lockDirectory => "LOCK_DIR"
  | .dataDirectory => "DATA_DIR"
  | .lockTtl => "LOCK_TTL_SECS"
  | .maxWait => "LOCK_MAX_WAIT_MS"
  | .shutdownGrace => "SHUTDOWN_GRACE_SECS"

/-- The line of the help text. -/
def usage (setting : Setting) : String :=
  "  --" ++ setting.option ++ " <VALUE>  [env: " ++ setting.variableName ++ "]"

def ofOption? (name : String) : Option Setting := all.find? fun setting => setting.option == name

end Setting

/-- The help text. -/
def usage : List String := "Options:" :: Setting.all.map Setting.usage

/-- The variables of the environment that have a say in a configuration. -/
def variableNames : List String :=
  Setting.all.map Setting.variableName ++ ["HOME", "XDG_DATA_HOME"]

/-- The number some digits write; there must be at least one. -/
def ofDigits? (digits : List Char) : Option Nat :=
  if digits.isEmpty || !digits.all Char.isDigit then none
  else some (Nat.ofDigitChars 10 digits 0)

/-- A number without a sign or with a plus. -/
def natural? (text : String) : Option Nat :=
  match text.toList with
  | '+' :: digits => ofDigits? digits
  | digits => ofDigits? digits

/-- A number with any sign that is not below zero. -/
def nonnegative? (text : String) : Option Nat :=
  match text.toList with
  | '-' :: digits => (ofDigits? digits).bind fun number => if number = 0 then some 0 else none
  | _ => natural? text

/-- A number within bounds, or a failed validation. -/
def within (low high : Nat) : Option Nat → Except Error Nat
  | some number =>
      if low ≤ number ∧ number ≤ high then .ok number else .error .valueValidation
  | none => .error .valueValidation

def maxPort : Nat := UInt16.size - 1

def maxCount : Nat := UInt64.size - 1

/-- Put the value of a setting into a configuration. -/
def apply (configuration : Configuration) (setting : Setting) (value : String) :
    Except Error Configuration :=
  match setting with
  | .host => .ok { configuration with host := value }
  | .port => (within 0 maxPort (nonnegative? value)).map fun number =>
      { configuration with port := number }
  | .leaseStore =>
      match [LeaseStoreKind.memory, .file].find? fun kind => kind.name == value with
      | some kind => .ok { configuration with leaseStore := kind }
      | none => .error .invalidValue
  | .lockDirectory =>
      if value.isEmpty then .error .invalidValue
      else .ok { configuration with lockDirectory := some value }
  | .dataDirectory =>
      if value.isEmpty then .error .invalidValue
      else .ok { configuration with dataDirectory := some value }
  | .lockTtl => (within 1 maxCount (natural? value)).map fun number =>
      { configuration with lockTtl := .ofSecs number }
  | .maxWait => (within 0 maxCount (natural? value)).map fun number =>
      { configuration with maxWait := .ofMillis number }
  | .shutdownGrace => (within 0 maxCount (natural? value)).map fun number =>
      { configuration with shutdownGrace := .ofSecs number }

/-- How far the arguments are read. -/
structure Reading where
  configuration : Configuration
  /-- The settings that have a value. -/
  given : List Setting
  /-- An option whose value has not been looked at, or has yet to come. -/
  pending : Option (Setting × Option String)

def Reading.start : Reading := ⟨.standard, [], none⟩

/-- Give a setting its value. -/
def Reading.take (reading : Reading) (setting : Setting) (value : String) :
    Except Error Reading :=
  if reading.given.contains setting then .error .argumentConflict
  else
    (apply reading.configuration setting value).map fun configuration =>
      ⟨configuration, setting :: reading.given, none⟩

/-- Look at the pending option. -/
def Reading.settle (reading : Reading) : Except Error Reading :=
  match reading.pending with
  | none => .ok reading
  | some (_, none) => .error .invalidValue
  | some (setting, some value) => Reading.take { reading with pending := none } setting value

/-- What an argument looks like. -/
inductive Shape where
  /-- Everything after it is no option. -/
  | dashes
  | option (name : String) (value : Option String)
  | letters (first : Char)
  | plain
  deriving DecidableEq, Repr

/-- The shape of an argument. -/
def Shape.of (argument : String) : Shape :=
  match argument.toList with
  | ['-', '-'] => .dashes
  | '-' :: '-' :: rest =>
      let name := String.ofList (rest.takeWhile (· ≠ '='))
      match rest.dropWhile (· ≠ '=') with
      | _ :: value => .option name (some (String.ofList value))
      | [] => .option name none
  | '-' :: letter :: _ => .letters letter
  | _ => .plain

/-- Read the arguments. -/
def readArguments (reading : Reading) : List String → Except Error Reading
  | [] => reading.settle
  | argument :: rest =>
      match Shape.of argument with
      | .dashes => if rest.isEmpty then reading.settle else .error .unknownArgument
      | .option name value =>
          match Setting.ofOption? name with
          | some setting =>
              match reading.settle with
              | .error error => .error error
              | .ok settled =>
                  match value with
                  | none => readArguments { settled with pending := some (setting, none) } rest
                  | some value =>
                      match settled.take setting value with
                      | .error error => .error error
                      | .ok taken => readArguments taken rest
          | none =>
              if name ≠ "help" then .error .unknownArgument
              else if value.isSome then .error .tooManyValues
              else reading.settle.bind fun _ => .error .displayHelp
      | .letters first =>
          if first = 'h' then reading.settle.bind fun _ => .error .displayHelp
          else .error .unknownArgument
      | .plain =>
          match reading.pending with
          | some (setting, none) =>
              readArguments { reading with pending := some (setting, some argument) } rest
          | _ => .error .unknownArgument

/-- Read the environment for the settings that have no value yet. -/
def readEnvironment (environment : String → Option String) (reading : Reading) :
    List Setting → Except Error Reading
  | [] => .ok reading
  | setting :: rest =>
      match environment setting.variableName with
      | some value =>
          if reading.given.contains setting then readEnvironment environment reading rest
          else
            match reading.take setting value with
            | .error error => .error error
            | .ok taken => readEnvironment environment taken rest
      | none => readEnvironment environment reading rest

/-- The configuration that arguments and environment give. -/
def parse (arguments : List String) (environment : String → Option String) :
    Except Error Configuration :=
  match readArguments .start arguments with
  | .error error => .error error
  | .ok reading => (readEnvironment environment reading Setting.all).map Reading.configuration

end Coedit.CommandLine
