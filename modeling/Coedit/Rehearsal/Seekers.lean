import Coedit.Lock.Vigil
import Coedit.Rehearsal.Operations

/-!
# Seekers on a stage

Lockers that acquire a lock or wait for free keys outside any operation.
-/

namespace Coedit.Rehearsal

/-- A locker on its quest.  The answer to its last call may have yet to arrive. -/
structure Seeker where
  locker : ServiceId
  quest : Lock.Quest
  reply : Option Lease.Reply

/-- A world with a place for one seeker at a time. -/
class HasSeeker (X : Type) where
  seeker : X → Option Seeker
  setSeeker : Option Seeker → X → X

variable {X α ε : Type} [HasSite X α ε] [HasSeeker X]

def seekerNeed? (world : X) : Option Need :=
  match HasSeeker.seeker world with
  | none => none
  | some seeker =>
      match seeker.quest.need? with
      | some (.call _) => some (.call (isSlow world))
      | some (.pause duration) => some (.pause duration)
      | none => none

/-- The call of a seeker takes effect. -/
def performQuest (shown now : Instant) (world : X) : X :=
  match HasSeeker.seeker world with
  | none => world
  | some seeker =>
      match seeker.quest.need? with
      | some (.call call) =>
          let (reply, site) := (showClock shown (HasSite.site world)).call seeker.locker now call
          HasSeeker.setSeeker (some { seeker with reply := some reply })
            (HasSite.setSite site world)
      | _ => world

/-- A seeker goes on. -/
def resumeQuest (moment : Lock.Moment) (world : X) : X :=
  match HasSeeker.seeker world with
  | none => world
  | some seeker =>
      let quest :=
        match seeker.reply with
        | some reply => seeker.quest.answered reply moment
        | none => seeker.quest.rested moment
      HasSeeker.setSeeker (some ⟨seeker.locker, quest, none⟩) world

def seekerCourse : Course X := ⟨seekerNeed?, performQuest, resumeQuest⟩

/-- Send a locker on a quest. -/
def seek (locker : ServiceId) (begin : Lock.Settings → Lock.Moment → Lock.Quest)
    (next : Except Lock.Failure (Option String) → Play X) : Play X :=
  .act fun _ stage =>
    let settings := ((HasSite.site stage.subject).locker locker).settings
    (stage.happen fun moment =>
        HasSeeker.setSeeker (some ⟨locker, begin settings moment, none⟩),
      seekerCourse.play <|
        act (fun _ _ world =>
          ((HasSeeker.seeker world).bind (·.quest.result?), HasSeeker.setSeeker none world)) fun
          | some result => next result
          | none => .stop)

end Coedit.Rehearsal
