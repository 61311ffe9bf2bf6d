import Coedit.Time

/-!
# Lock settings

How long a lock lasts and how its seekers wait, and which of these settings make
sense.
-/

namespace Coedit.Lock

structure Settings where
  /-- How long a lease lasts if its holder never gives it back. -/
  ttl : Duration
  /-- The first pause between two attempts. -/
  initialBackoff : Duration
  /-- The longest pause between two attempts. -/
  maxBackoff : Duration
  deriving DecidableEq, Repr

/-- What is wrong with lock settings. -/
inductive SettingsError where
  /-- A lease would end as it starts. -/
  | zeroTtl
  | zeroBackoff
  | backoffBounds (initial max : Duration)
  deriving DecidableEq, Repr

def SettingsError.message : SettingsError → String
  | .zeroTtl => "lock ttl must be greater than zero"
  | .zeroBackoff => "initial backoff must be greater than zero"
  | .backoffBounds initial max =>
      "max backoff " ++ max.render ++ " is below initial backoff " ++ initial.render

namespace Settings

def standard : Settings := ⟨.ofSecs 30, .ofMillis 10, .ofMillis 200⟩

instance : Inhabited Settings := ⟨standard⟩

/-- The first thing that is wrong with the settings. -/
def validate (settings : Settings) : Except SettingsError Unit :=
  if settings.ttl.isZero then .error .zeroTtl
  else if settings.initialBackoff.isZero then .error .zeroBackoff
  else if settings.maxBackoff < settings.initialBackoff then
    .error (.backoffBounds settings.initialBackoff settings.maxBackoff)
  else .ok ()

end Settings

end Coedit.Lock
