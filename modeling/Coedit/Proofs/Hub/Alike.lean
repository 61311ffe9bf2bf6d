import Coedit.Proofs.Hub.Foyer

/-!
# Jobs under other numbers

The number of a job means nothing.  Two foyers that differ only in the numbers of their
jobs, and in jobs that have no counterpart in the other, go on to do so while the same
things happen at both.
-/

namespace Coedit

/-! ## Counting entries -/

namespace Table

variable {κ ν : Type} [DecidableEq κ] {key : κ} {value : ν} {entries : List (κ × ν)}

theorem find?_eq_none_of_not_mem (absent : key ∉ entries.map Prod.fst) :
    find? key entries = none := by
  cases found : find? key entries with
  | none => rfl
  | some value =>
      induction entries with
      | nil => cases found
      | cons entry rest ih =>
          rw [List.map_cons, List.mem_cons, not_or] at absent
          rw [find?, if_neg (Ne.symm absent.1)] at found
          exact ih absent.2 found

/-- How many entries are counted, once a value has been put at a key, is told by what was
found there before. -/
theorem countP_put (counts : κ × ν → Bool) (key : κ) (value : ν) (entries : List (κ × ν)) :
    (put key value entries).countP counts +
        ((find? key entries).elim 0 fun old => if counts (key, old) then 1 else 0) =
      entries.countP counts + if counts (key, value) then 1 else 0 := by
  induction entries with
  | nil => simp [put, find?]
  | cons entry rest ih =>
      obtain ⟨other, old⟩ := entry
      rw [put, find?]
      split
      · next same =>
          subst same
          rw [List.countP_cons, List.countP_cons, Option.elim_some]
          dsimp only
          omega
      · rw [List.countP_cons, List.countP_cons]
        omega

/-- How many entries are counted, once a key has been taken away. -/
theorem countP_erase (counts : κ × ν → Bool) (key : κ) (nodup : (entries.map Prod.fst).Nodup) :
    (entries.filter fun entry => entry.1 ≠ key).countP counts +
        ((find? key entries).elim 0 fun old => if counts (key, old) then 1 else 0) =
      entries.countP counts := by
  induction entries with
  | nil => rfl
  | cons entry rest ih =>
      rw [List.map_cons, List.nodup_cons] at nodup
      have rest := ih nodup.2
      rw [find?]
      by_cases same : entry.1 = key
      · subst same
        rw [find?_eq_none_of_not_mem nodup.1] at rest
        rw [List.filter_cons_of_neg (by simp), if_pos rfl, List.countP_cons, Option.elim_some,
          ← rest]
        rfl
      · rw [List.filter_cons_of_pos (by simpa using same), if_neg same, List.countP_cons,
          List.countP_cons]
        omega

end Table

variable {S B Fault Ask : Type} {Answer : Ask → Type}

/-! ## Hubs -/

/-- Whether jobs have at most one counterpart each. -/
def OneToOne (same : JobId → JobId → Prop) : Prop :=
  ∀ {id id' other other' : JobId}, same id id' → same other other' → (id = other ↔ id' = other')

namespace Hubs

/-- Hubs that are the same but for the numbers of jobs, and for jobs without counterparts. -/
structure Alike (same : JobId → JobId → Prop) (hubs hubs' : Hubs S B Ask Answer) : Prop where
  site : hubs'.site = hubs.site
  archive : hubs'.archive = hubs.archive
  medium : hubs'.medium = hubs.medium
  held : hubs'.hubs = hubs.hubs
  jobs {id id' : JobId} (paired : same id id') : hubs'.jobs.get? id' = hubs.jobs.get? id

namespace Alike

variable {same fewer more : JobId → JobId → Prop} {hubs hubs' : Hubs S B Ask Answer}
  {id id' : JobId} {job : Job Ask Answer}

theorem mono (alike : Alike same hubs hubs') (within : ∀ id id', fewer id id' → same id id') :
    Alike fewer hubs hubs' :=
  { alike with jobs := fun paired => alike.jobs (within _ _ paired) }

theorem setHub (alike : Alike same hubs hubs') (home : HubId) (hub : Hub) :
    Alike same (hubs.setHub home hub) (hubs'.setHub home hub) where
  site := alike.site
  archive := alike.archive
  medium := alike.medium
  held := by rw [Hubs.setHub, Hubs.setHub, alike.held]
  jobs := alike.jobs

theorem setSite (alike : Alike same hubs hubs') (site : Site S (Option Bytes) Section.Error) :
    Alike same { hubs with site := site } { hubs' with site := site } where
  site := rfl
  archive := alike.archive
  medium := alike.medium
  held := alike.held
  jobs := alike.jobs

theorem setMedium (alike : Alike same hubs hubs') (medium : B) :
    Alike same { hubs with medium := medium } { hubs' with medium := medium } where
  site := alike.site
  archive := alike.archive
  medium := rfl
  held := alike.held
  jobs := alike.jobs

theorem setJob (alike : Alike same hubs hubs') (oneToOne : OneToOne same) (paired : same id id')
    (job : Job Ask Answer) : Alike same (hubs.setJob id job) (hubs'.setJob id' job) where
  site := alike.site
  archive := alike.archive
  medium := alike.medium
  held := alike.held
  jobs := by
    intro other other' paired'
    rw [Hubs.setJob, Hubs.setJob, Table.get?_insert, Table.get?_insert, alike.jobs paired']
    simp only [oneToOne paired paired']

theorem modifyRoster (alike : Alike same hubs hubs') (home : HubId) (change : Roster → Roster) :
    Alike same (hubs.modifyRoster home change) (hubs'.modifyRoster home change) := by
  unfold Hubs.modifyRoster
  rw [alike.held]
  cases hubs.hubs.get? home with
  | none => exact alike
  | some hub => exact alike.setHub home _

/-- Two jobs that begin alike may be counterparts from then on. -/
theorem begin (alike : Alike same hubs hubs')
    (fresh : ∀ id id', same id id' → id ≠ hubs.nextJob ∧ id' ≠ hubs'.nextJob)
    (within : ∀ id id', more id id' → same id id' ∨ id = hubs.nextJob ∧ id' = hubs'.nextJob)
    (home : HubId) (work : Hub.Handling) :
    Alike more (hubs.begin home work).2 (hubs'.begin home work).2 where
  site := alike.site
  archive := alike.archive
  medium := alike.medium
  held := alike.held
  jobs := by
    intro id id' paired
    simp only [Hubs.begin, Table.get?_insert]
    rcases within id id' paired with before | ⟨rfl, rfl⟩
    · obtain ⟨apart, apart'⟩ := fresh id id' before
      rw [if_neg apart.symm, if_neg apart'.symm, alike.jobs before]
    · rw [if_pos rfl, if_pos rfl]

/-- A job may begin that has no counterpart. -/
theorem begin_left (alike : Alike same hubs hubs')
    (fresh : ∀ id id', same id id' → id ≠ hubs.nextJob) (home : HubId) (work : Hub.Handling) :
    Alike same (hubs.begin home work).2 hubs' where
  site := alike.site
  archive := alike.archive
  medium := alike.medium
  held := alike.held
  jobs := by
    intro id id' paired
    simp only [Hubs.begin, Table.get?_insert]
    rw [if_neg (fresh id id' paired).symm, alike.jobs paired]

/-! ### Steps -/

theorem answer (alike : Alike same hubs hubs') (oneToOne : OneToOne same) (paired : same id id')
    (job : Job Ask Answer) (hub : Hub) (call : Hub.Call) (next : call.Answer → Hub.Handling) :
    Alike same (hubs.answer id job hub call next) (hubs'.answer id' job hub call next) := by
  cases call with
  | «section» document task =>
      have bodies : body hubs'.archive hub.engine document task =
          body hubs.archive hub.engine document task := by rw [alike.archive]
      simp only [Hubs.answer]
      rw [alike.site, bodies]
      cases hubs.site.enter hub.service (.document document) none with
      | error failure => exact alike.setJob oneToOne paired _
      | ok entered =>
          obtain ⟨operation, site⟩ := entered
          dsimp only
          exact (alike.setSite site).setJob oneToOne paired _
  | broadcast document sender frame =>
      exact (alike.setHub _ _).setJob oneToOne paired _
  | announce document session payload =>
      exact (alike.setHub _ _).setJob oneToOne paired _
  | presences document => exact alike.setJob oneToOne paired _
  | depart document session => exact (alike.setHub _ _).setJob oneToOne paired _
  | isLoaded document => exact alike.setJob oneToOne paired _

theorem stepSection (alike : Alike same hubs hubs') (oneToOne : OneToOne same)
    (paired : same id id') (job : Job Ask Answer) (hub : Hub) (operation : OperationId)
    (body : Section Ask Answer (Option Bytes)) (moment : Lock.Moment) :
    Alike same (hubs.stepSection id job hub operation body moment)
      (hubs'.stepSection id' job hub operation body moment) := by
  unfold Hubs.stepSection
  rw [alike.site]
  cases hubs.site.need? operation with
  | none =>
      dsimp only
      split
      · exact alike.setJob oneToOne paired _
      · exact alike
  | some need =>
      cases need with
      | start => exact alike.setSite _
      | lock need => exact alike
      | body =>
          cases body with
          | done ending => exact alike.setSite _
          | ask question next =>
              cases question with
              | inl call => exact (alike.setHub _ _).setJob oneToOne paired _
              | inr question => exact alike

theorem step (alike : Alike same hubs hubs') (oneToOne : OneToOne same) (paired : same id id')
    (moment : Lock.Moment) : Alike same (hubs.step id moment) (hubs'.step id' moment) := by
  unfold Hubs.step
  rw [alike.jobs paired]
  cases hubs.jobs.get? id with
  | none => exact alike
  | some job =>
      dsimp only
      rw [alike.held]
      split
      · exact alike.answer oneToOne paired ..
      · exact alike.stepSection oneToOne paired ..
      · exact alike

theorem operation? (alike : Alike same hubs hubs') (paired : same id id') :
    hubs'.operation? id' = hubs.operation? id := by
  rw [Hubs.operation?, Hubs.operation?, alike.jobs paired]

theorem result? (alike : Alike same hubs hubs') (paired : same id id') :
    hubs'.result? id' = hubs.result? id := by
  rw [Hubs.result?, Hubs.result?, alike.jobs paired]

theorem performCall [Lease.Store S] (alike : Alike same hubs hubs') (paired : same id id')
    (failure : Option StoreError) (now : Instant) :
    Alike same (hubs.performCall id failure now) (hubs'.performCall id' failure now) := by
  unfold Hubs.performCall
  rw [alike.operation? paired, alike.site]
  cases hubs.operation? id with
  | none => exact alike
  | some operation => exact alike.setSite _

theorem resume (alike : Alike same hubs hubs') (paired : same id id') (moment : Lock.Moment) :
    Alike same (hubs.resume id moment) (hubs'.resume id' moment) := by
  unfold Hubs.resume
  rw [alike.operation? paired, alike.site]
  cases hubs.operation? id with
  | none => exact alike
  | some operation => exact alike.setSite _

theorem consult [Medium B Fault Ask Answer] (alike : Alike same hubs hubs')
    (oneToOne : OneToOne same) (paired : same id id') (failure : Option Fault) :
    Alike same (hubs.consult id failure) (hubs'.consult id' failure) := by
  unfold Hubs.consult
  rw [alike.jobs paired, alike.medium]
  cases hubs.jobs.get? id with
  | none => exact alike
  | some job =>
      dsimp only
      split
      · exact (alike.setMedium _).setJob oneToOne paired _
      · exact alike

end Alike

end Hubs

/-! ## Who has looked up which room -/

/-- Whether visitors are the same, but for the number of a job. -/
inductive Visitor.Alike (same : JobId → JobId → Prop) : Visitor → Visitor → Prop where
  | job {home : HubId} {document : DocumentId} {id id' : JobId} (paired : same id id') :
      Alike same ⟨home, document, .job id⟩ ⟨home, document, .job id'⟩
  | other {visitor : Visitor} (idle : ∀ id, visitor.name ≠ .job id) : Alike same visitor visitor

namespace Visitor.Alike

variable {same fewer : JobId → JobId → Prop} {visitor visitor' other other' : Visitor}

theorem hub (alike : Alike same visitor visitor') : visitor'.hub = visitor.hub := by
  cases alike with
  | job paired => rfl
  | other idle => rfl

theorem mono (alike : Alike fewer visitor visitor')
    (within : ∀ id id', fewer id id' → same id id') : Alike same visitor visitor' := by
  cases alike with
  | job paired => exact .job (within _ _ paired)
  | other idle => exact .other idle

theorem eq_iff (oneToOne : OneToOne same) (alike : Alike same visitor visitor')
    (beside : Alike same other other') : visitor = other ↔ visitor' = other' := by
  cases alike with
  | job paired =>
      cases beside with
      | job paired' => simp [oneToOne paired paired']
      | other idle =>
          constructor
          · rintro rfl
            exact absurd rfl (idle _)
          · rintro rfl
            exact absurd rfl (idle _)
  | other idle =>
      cases beside with
      | job paired' =>
          constructor
          · rintro rfl
            exact absurd rfl (idle _)
          · rintro rfl
            exact absurd rfl (idle _)
      | other idle' => exact Iff.rfl

end Visitor.Alike

namespace Foyer

/-- How many of those who have looked up a room are at a hub and have looked up this one. -/
def inRoom (visits : Table Visitor RoomId) (home : HubId) (room : RoomId) : Nat :=
  visits.entries.countP fun entry => entry.1.hub = home ∧ entry.2 = room

theorem visitors_eq (foyer : Foyer S B Ask Answer) (home : HubId) (room : RoomId) :
    foyer.visitors home room = 1 + inRoom foyer.visits home room := by
  rw [visitors, inRoom, List.countP_eq_length_filter]

theorem inRoom_insert (visits : Table Visitor RoomId) (visitor : Visitor) (shown : RoomId)
    (home : HubId) (room : RoomId) :
    inRoom (visits.insert visitor shown) home room +
        ((visits.get? visitor).elim 0 fun old => if visitor.hub = home ∧ old = room then 1 else 0) =
      inRoom visits home room + if visitor.hub = home ∧ shown = room then 1 else 0 := by
  have counted := Table.countP_put (fun entry => decide (entry.1.hub = home ∧ entry.2 = room))
    visitor shown visits.entries
  simp only [decide_eq_true_iff] at counted
  exact counted

theorem inRoom_erase (visits : Table Visitor RoomId) (visitor : Visitor) (home : HubId)
    (room : RoomId) :
    inRoom (visits.erase visitor) home room +
        ((visits.get? visitor).elim 0 fun old => if visitor.hub = home ∧ old = room then 1 else 0) =
      inRoom visits home room := by
  have counted := Table.countP_erase (fun entry => decide (entry.1.hub = home ∧ entry.2 = room))
    visitor visits.nodup
  simp only [decide_eq_true_iff] at counted
  exact counted

/-- Those who have looked up a room are the same, but for the numbers of jobs. -/
structure AlikeVisits (same : JobId → JobId → Prop) (visits visits' : Table Visitor RoomId) :
    Prop where
  shown {visitor visitor' : Visitor} (alike : Visitor.Alike same visitor visitor') :
    visits'.get? visitor' = visits.get? visitor
  number (home : HubId) (room : RoomId) : inRoom visits' home room = inRoom visits home room

namespace AlikeVisits

variable {same fewer more : JobId → JobId → Prop} {visits visits' : Table Visitor RoomId}
  {visitor visitor' : Visitor}

theorem mono (alike : AlikeVisits same visits visits')
    (within : ∀ id id', fewer id id' → same id id') : AlikeVisits fewer visits visits' :=
  ⟨fun paired => alike.shown (paired.mono within), alike.number⟩

/-- Jobs that have looked up no room may become counterparts. -/
theorem extend (alike : AlikeVisits same visits visits')
    (within : ∀ id id', more id id' → same id id' ∨ ∀ home document,
      visits.get? ⟨home, document, .job id⟩ = none ∧
        visits'.get? ⟨home, document, .job id'⟩ = none) : AlikeVisits more visits visits' := by
  refine ⟨fun paired => ?_, alike.number⟩
  cases paired with
  | job paired =>
      rcases within _ _ paired with before | idle
      · exact alike.shown (.job before)
      · exact (idle _ _).2.trans (idle _ _).1.symm
  | other idle => exact alike.shown (.other idle)

theorem insert (alike : AlikeVisits same visits visits') (oneToOne : OneToOne same)
    (paired : Visitor.Alike same visitor visitor') (room : RoomId) :
    AlikeVisits same (visits.insert visitor room) (visits'.insert visitor' room) := by
  constructor
  · intro other other' paired'
    rw [Table.get?_insert, Table.get?_insert, alike.shown paired']
    simp only [Visitor.Alike.eq_iff oneToOne paired paired']
  · intro home room'
    have here := inRoom_insert visits visitor room home room'
    have there := inRoom_insert visits' visitor' room home room'
    rw [alike.shown paired, paired.hub, alike.number] at there
    omega

theorem erase (alike : AlikeVisits same visits visits') (oneToOne : OneToOne same)
    (paired : Visitor.Alike same visitor visitor') :
    AlikeVisits same (visits.erase visitor) (visits'.erase visitor') := by
  constructor
  · intro other other' paired'
    rw [Table.get?_erase, Table.get?_erase, alike.shown paired']
    simp only [Visitor.Alike.eq_iff oneToOne paired paired']
  · intro home room
    have here := inRoom_erase visits visitor home room
    have there := inRoom_erase visits' visitor' home room
    rw [alike.shown paired, paired.hub, alike.number] at there
    omega

end AlikeVisits

/-- Foyers that are the same but for the numbers of jobs, and for jobs without counterparts. -/
structure Alike (same : JobId → JobId → Prop) (foyer foyer' : Foyer S B Ask Answer) : Prop where
  hubs : Hubs.Alike same foyer.hubs foyer'.hubs
  visits : AlikeVisits same foyer.visits foyer'.visits

namespace Alike

variable {same fewer : JobId → JobId → Prop} {foyer foyer' : Foyer S B Ask Answer}
  {id id' : JobId}

theorem mono (alike : Alike same foyer foyer') (within : ∀ id id', fewer id id' → same id id') :
    Alike fewer foyer foyer' :=
  ⟨alike.hubs.mono within, alike.visits.mono within⟩

theorem visitors (alike : Alike same foyer foyer') (home : HubId) (room : RoomId) :
    foyer'.visitors home room = foyer.visitors home room := by
  rw [visitors_eq, visitors_eq, alike.visits.number]

theorem arrive (alike : Alike same foyer foyer') (oneToOne : OneToOne same) (home : HubId)
    (document : DocumentId) :
    Alike same (foyer.arrive home document) (foyer'.arrive home document) := by
  unfold Foyer.arrive
  rw [alike.hubs.held]
  cases foyer.hubs.hubs.get? home with
  | none => exact alike
  | some hub =>
      exact ⟨alike.hubs.setHub _ _, alike.visits.insert oneToOne (.other (by simp)) _⟩

theorem sit (alike : Alike same foyer foyer') (oneToOne : OneToOne same) (home : HubId)
    (document : DocumentId) (session : SessionId) :
    Alike same (foyer.sit home document session) (foyer'.sit home document session) := by
  have idle : ∀ id, Visitor.Name.session session ≠ .job id := by simp
  unfold Foyer.sit
  rw [alike.visits.shown (.other idle)]
  cases foyer.visits.get? ⟨home, document, .session session⟩ with
  | none => exact alike
  | some room =>
      exact ⟨alike.hubs.modifyRoster home fun roster => roster.sit room session,
        alike.visits.erase oneToOne (.other idle)⟩

theorem visit (alike : Alike same foyer foyer') (oneToOne : OneToOne same) (guest : Nat)
    (home : HubId) (document : DocumentId) :
    Alike same (foyer.visit guest home document) (foyer'.visit guest home document) := by
  unfold Foyer.visit Hubs.roster?
  rw [alike.hubs.held]
  split
  · exact alike
  · exact ⟨alike.hubs, alike.visits.insert oneToOne (.other (by simp)) _⟩

theorem quit (alike : Alike same foyer foyer') (oneToOne : OneToOne same) (guest : Nat)
    (home : HubId) (document : DocumentId) :
    Alike same (foyer.quit guest home document) (foyer'.quit guest home document) :=
  ⟨alike.hubs, alike.visits.erase oneToOne (.other (by simp))⟩

theorem attend (alike : Alike same foyer foyer') (oneToOne : OneToOne same)
    (paired : same id id') (home : HubId) (document : DocumentId)
    (act : Roster → RoomId → Nat → Nat × Roster) (next : Nat → Hub.Handling) :
    Alike same (foyer.attend id home document act next)
      (foyer'.attend id' home document act next) := by
  unfold Foyer.attend
  rw [alike.hubs.held, alike.visits.shown (.job paired)]
  cases foyer.hubs.hubs.get? home with
  | none => exact alike
  | some hub =>
      cases foyer.visits.get? ⟨home, document, .job id⟩ with
      | some room =>
          dsimp only
          rw [alike.visitors]
          exact ⟨(alike.hubs.setHub _ _).setJob oneToOne paired _,
            alike.visits.erase oneToOne (.job paired)⟩
      | none =>
          dsimp only
          cases hub.roster.room? document with
          | some room => exact ⟨alike.hubs, alike.visits.insert oneToOne (.job paired) _⟩
          | none => exact ⟨alike.hubs.setJob oneToOne paired _, alike.visits⟩

theorem step (alike : Alike same foyer foyer') (oneToOne : OneToOne same) (paired : same id id')
    (moment : Lock.Moment) : Alike same (foyer.step id moment) (foyer'.step id' moment) := by
  unfold Foyer.step
  rw [alike.hubs.jobs paired]
  split
  · exact alike.attend oneToOne paired ..
  · exact alike.attend oneToOne paired ..
  · exact ⟨alike.hubs.step oneToOne paired moment, alike.visits⟩

end Alike

end Foyer

end Coedit
