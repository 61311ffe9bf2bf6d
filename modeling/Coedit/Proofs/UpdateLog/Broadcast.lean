import Coedit.Proofs.Hub.Queues
import Coedit.Proofs.UpdateLog.Delivery

/-!
# Broadcasts

What gets into the outboxes of a document's sessions is no more than what another session
has sent for the document, and it is stored by then.  Nothing is put there twice for one
frame, and nothing for a frame that was empty or has failed.
-/

namespace Coedit

namespace Hubs

open Section (unstored)

section

variable {S B Fault Ask : Type} {Answer : Ask → Type} [Medium B Fault Ask Answer]
  {archive : Archive Ask Answer} {keeping : archive.Keeping B Fault} {engine : Engine}
  {first : DocumentId → keeping.Place} {start hubs : Hubs S B Ask Answer}
  {path : List (Hubs S B Ask Answer × Move B Fault)} {places : DocumentId → keeping.Place}
  {document : DocumentId} {initial : Option Snapshot} {update : Bytes}

/-! ## Versions that are to come -/

/-- Whether something can be said of each document at first, and sixty-four bits hold the
versions it has on a path and the next, which a section may be about to store. -/
def Numbered (keeping : archive.Keeping B Fault) (first : DocumentId → keeping.Place)
    (path : List (Hubs S B Ask Answer × Move B Fault)) : Prop :=
  ∀ document, ∃ initial, keeping.Keeps (first document) initial ∧
    (initial.getD unstored).version + (commits (eventsOf document path)).length + 1 < UInt64.size

theorem Numbered.of_suffix {early : List (Hubs S B Ask Answer × Move B Fault)}
    (numbered : Numbered keeping first path) (suffix : early <:+ path) :
    Numbered keeping first early := by
  intro document
  obtain ⟨initial, keeps, bound⟩ := numbered document
  have grows : (commits (eventsOf document early)).length ≤
      (commits (eventsOf document path)).length :=
    (commits_mono (eventsOf_suffix suffix)).length_le
  exact ⟨initial, keeps, by omega⟩

/-- Whatever section of a document ends next, all versions are kept. -/
theorem Numbered.fitting (numbered : Numbered keeping first path) (whole : keeping.IsWhole)
    (wide : keeping.IsWide) (document : DocumentId) :
    ∃ initial, keeping.Keeps (first document) initial ∧
      Fitting keeping.Fits UpdateLog.engine keeping.Leaves initial (eventsOf document path) ∧
      ∀ event, Fitting keeping.Fits UpdateLog.engine keeping.Leaves initial
        (event :: eventsOf document path) := by
  obtain ⟨initial, keeps, bound⟩ := numbered document
  refine ⟨initial, keeps, fitting_of_wide whole wide (Nat.lt_of_succ_lt bound), fun event => ?_⟩
  have one := length_commits_cons event (eventsOf document path)
  exact fitting_of_wide whole wide (by omega)

/-! ## What is stored in the midst of a section -/

/-- What is stored at any moment is the outcome of a history: of the sections that have
ended, and of the one that runs as if the archive failed from now on. -/
theorem Kept.history_now (kept : Kept keeping engine first path hubs places)
    (canFail : keeping.CanFail) (keeps : keeping.Keeps (first document) initial)
    (fitting : Fitting keeping.Fits engine keeping.Leaves initial (eventsOf document path))
    (next : ∀ event, Fitting keeping.Fits engine keeping.Leaves initial
      (event :: eventsOf document path)) :
    ∃ events desks, eventsOf document path <:+ events ∧
      History engine keeping.Leaves initial events desks (keeping.stored hubs.medium document) := by
  by_cases busy : hubs.IsBusy document
  · obtain ⟨id, task, hub, body, serves⟩ := busy
    obtain ⟨desks, origin, working⟩ := (kept.standing document).working serves
    obtain ⟨stored, history, keepsOrigin⟩ := working.told initial keeps fitting
    have goesOn : ∀ {state : Desk × keeping.Place} {question},
        (∃ places', keeping.Holds places' hubs.medium ∧ places' document = state.2) →
        (Section.rules keeping document origin task.Consults).asks state question →
        ∃ answer after,
          (Section.rules keeping document origin task.Consults).answers state question answer
            after ∧
          ∃ places', keeping.Holds places' hubs.medium ∧ places' document = after.2 := by
      rintro state question ⟨places', holds, here⟩ asks
      cases question with
      | inl call =>
          obtain ⟨answer, after, answered⟩ := asks.1.answered
          exact ⟨answer, (after, state.2), ⟨answered, rfl⟩, places', holds, here⟩
      | inr question =>
          obtain ⟨fault, happens, still⟩ := canFail question hubs.medium
          have fails : ∀ other ∈ some fault, keeping.Happens question other := by
            rintro _ ⟨⟩
            exact happens
          obtain ⟨place, answers, holds'⟩ := keeping.answered holds (here.symm ▸ asks.2) fails
          rw [still] at holds'
          exact ⟨_, (state.1, place), ⟨rfl, here ▸ answers⟩, _, holds',
            Function.update_self document place places'⟩
    obtain ⟨ending, last, ⟨-, does⟩, places', holds, here⟩ :=
      working.safe.ends goesOn ⟨places, kept.holds, rfl⟩
    obtain ⟨after, does, keepsAfter⟩ := does stored keepsOrigin
    have ended : History engine keeping.Leaves initial
        (⟨id, hub, document, task, ending⟩ :: eventsOf document path)
        (Function.update desks hub last.1) after := history.next does
    have fits := next _ _ List.suffix_rfl _ _ ended
    have now : keeping.stored hubs.medium document = after :=
      keeping.stored_of_keeps holds (here.symm ▸ keepsAfter fun _ _ => fits)
    exact ⟨_, _, List.suffix_cons .., now ▸ ended⟩
  · obtain ⟨stored, history, keepsAfter⟩ :=
      ((kept.standing document).resting busy).told initial keeps fitting
    have now := keeping.stored_of_keeps kept.holds keepsAfter
    exact ⟨_, _, List.suffix_rfl, now.symm ▸ history⟩

variable [Lease.Store S] [Lease.Lawful S]

/-- What was merged is a record of what is stored from then on. -/
theorem Course.record_now (course : Course keeping start path hubs)
    (starts : start.Starts keeping UpdateLog.engine first) (whole : keeping.IsWhole)
    (wide : keeping.IsWide) (canFail : keeping.CanFail) (numbered : Numbered keeping first path)
    {id : JobId} {hub : HubId} {handed : Option Bytes}
    (merged : ⟨id, hub, document, .merge update, .value handed⟩ ∈ events path)
    (full : update ≠ []) :
    ∃ records, UpdateLog.records ((keeping.stored hubs.medium document).getD unstored).content =
        .ok records ∧ update ∈ records := by
  obtain ⟨places, kept⟩ := course.kept starts UpdateLog.engine_isSteady
  obtain ⟨initial, keeps, fitting, next⟩ := numbered.fitting whole wide document
  obtain ⟨later, desks, grown, history⟩ := kept.history_now canFail keeps fitting next
  have carries : Event.update? ⟨id, hub, document, .merge update, .value handed⟩ = some update :=
    update?_eq_some.mpr ⟨rfl, full⟩
  refine history.record_of_commit (tears_of_whole whole) ?_ carries
  refine mem_commits.mpr ⟨grown.subset (mem_eventsOf.mpr ⟨merged, rfl⟩), ?_⟩
  simp [Event.committed, carries]

/-- A section hands out nothing for an empty update. -/
theorem none_of_does {leaves : Option Snapshot → Snapshot → Option Snapshot → Prop}
    {desk after : Desk} {stored saved : Option Snapshot} {handed : Option Bytes}
    (does : Section.Does UpdateLog.engine leaves desk stored (.merge []) (.value handed) after
      saved) : handed = none := by
  cases does with
  | unchanged loads verdict => rfl
  | committed loads verdict changes now =>
      rcases UpdateLog.append_eq_ok (UpdateLog.engine_merged verdict) with
        ⟨-, equal⟩ | ⟨full, -, -⟩
      · rw [equal]
      · exact absurd rfl full

/-- What a section hands out is the update it was to merge, which is not empty. -/
theorem Course.handed (course : Course keeping start path hubs)
    (starts : start.Starts keeping UpdateLog.engine first)
    (keeps : keeping.Keeps (first document) initial)
    (fitting : Fitting keeping.Fits UpdateLog.engine keeping.Leaves initial
      (eventsOf document path))
    {id : JobId} {hub : HubId} {handed : Bytes}
    (merged : ⟨id, hub, document, .merge update, .value (some handed)⟩ ∈ events path) :
    handed = update ∧ update ≠ [] := by
  obtain ⟨before, early, endsAt⟩ := exists_endsAt merged
  obtain ⟨desks, history⟩ := course.history_at starts keeps fitting rfl endsAt
  have full : update ≠ [] := by
    rintro rfl
    cases history with
    | next history does => cases none_of_does does
  exact ⟨Option.some.inj (history.handed full), full⟩

/-- A job begins once. -/
theorem Course.begun_once (course : Course keeping start path hubs)
    (starts : start.Starts keeping engine first) {left right : Hubs S B Ask Answer × Move B Fault}
    (member : left ∈ path) (member' : right ∈ path) (begins : left.2.begins?.isSome)
    (begins' : right.2.begins?.isSome) (same : left.1.nextJob = right.1.nextJob) :
    left = right := by
  induction course with
  | start => cases member
  | @move path before after move course permitted effect ih =>
      have fresh : ∀ at' ∈ path, at'.2.begins?.isSome → at'.1.nextJob ≠ before.nextJob := by
        intro at' earlier begins
        obtain ⟨work, begins⟩ := Option.isSome_iff_exists.mp begins
        obtain ⟨job, found, -⟩ := (course.traced starts).comes earlier begins
        exact Nat.ne_of_lt ((course.orderly starts).numbered found)
      rcases List.mem_cons.mp member with rfl | earlier
      · rcases List.mem_cons.mp member' with rfl | earlier'
        · rfl
        · exact absurd same.symm (fresh right earlier' begins')
      · rcases List.mem_cons.mp member' with rfl | earlier'
        · exact absurd same (fresh left earlier begins)
        · exact ih earlier earlier'

end

end Hubs

namespace Foyer

open Section (unstored)

variable {S B Fault Ask : Type} {Answer : Ask → Type} [Lease.Store S] [Lease.Lawful S]
  [Medium B Fault Ask Answer] {archive : Archive Ask Answer} {keeping : archive.Keeping B Fault}
  {first : DocumentId → keeping.Place} {start foyer before : Foyer S B Ask Answer}
  {path late early : List (Foyer S B Ask Answer × Move B Fault)} {move : Move B Fault}
  {id : JobId} {hub : HubId} {document : DocumentId} {session sender : SessionId} {frame : Frame}
  {step : SyncStep} {payload : Bytes}

/-! ## Where frames were put into outboxes -/

/-- Where on a path a frame was put into the outbox of a session. -/
def PutAt (path : List (Foyer S B Ask Answer × Move B Fault)) (before : Foyer S B Ask Answer)
    (move : Move B Fault) (early : List (Foyer S B Ask Answer × Move B Fault)) (hub : HubId)
    (session : SessionId) (frame : Frame) : Prop :=
  (∃ late, path = late ++ (before, move) :: early) ∧ before.Puts move hub session frame

omit [Lease.Lawful S] in
theorem PutAt.suffix (put : PutAt path before move early hub session frame) :
    early <:+ path := by
  obtain ⟨⟨late, rfl⟩, -⟩ := put
  exact (List.suffix_cons ..).trans (List.suffix_append ..)

/-- What can be said of an update when it is put into the outbox of a session: another
session has sent it for a document that the session has joined, and it is stored. -/
structure Broadcast (keeping : archive.Keeping B Fault) (before : Foyer S B Ask Answer)
    (early : List (Foyer S B Ask Answer × Move B Fault)) (hub : HubId) (document : DocumentId)
    (session : SessionId) (id : JobId) (payload : Bytes) : Prop where
  full : payload ≠ []
  sent : ∃ earlier sender frame, SentAt early earlier hub document sender frame id ∧
    frame.task? = some (.merge payload) ∧ session ≠ sender
  joined : HasJoined early hub document session
  stored : ∃ records,
    UpdateLog.records ((keeping.stored before.hubs.medium document).getD unstored).content =
      .ok records ∧ payload ∈ records

/-- Whatever is in an outbox was put there. -/
theorem Run.exists_putAt (run : Run keeping start path foyer)
    (vacant : ∀ hub roster, start.hubs.roster? hub = some roster → roster = .empty)
    (queued : frame ∈ foyer.queue hub session) :
    ∃ before move early, PutAt path before move early hub session frame := by
  induction run with
  | start =>
      unfold queue at queued
      cases found : start.hubs.roster? hub with
      | none =>
          rw [found] at queued
          cases queued
      | some roster =>
          rw [found, vacant hub roster found] at queued
          cases queued
  | @move path before move run permitted ih =>
      by_cases old : frame ∈ before.queue hub session
      · obtain ⟨before', move', early, ⟨late, equal⟩, puts⟩ := ih old
        exact ⟨before', move', early, ⟨(before, move) :: late, by rw [equal]; rfl⟩, puts⟩
      · refine ⟨before, move, path, ⟨[], rfl⟩, ?_⟩
        rw [Puts, List.count_eq_zero_of_not_mem old]
        exact List.count_pos_iff.mpr queued

/-- A job that was done at some move of a run is done at its end. -/
theorem Run.result_stays (run : Run keeping start path foyer)
    (starts : start.Starts keeping UpdateLog.engine first)
    (equal : path = late ++ (before, move) :: early) {outcome : Hub.Outcome}
    (result : (before.after move).hubs.result? id = some outcome) :
    foyer.hubs.result? id = some outcome := by
  induction run generalizing late with
  | start => simp at equal
  | @move path now last run permitted ih =>
      cases late with
      | nil =>
          cases equal
          exact result
      | cons at' late =>
          cases equal
          exact Hubs.result?_of_effect (effect_after _)
            (fun job found => (run.course.orderly starts.hubs).numbered found) (ih rfl)

/-- A job that puts a sync frame into an outbox has merged the update of its own frame,
which it puts there, and is done. -/
theorem Run.of_passing (run : Run keeping start early before)
    (starts : start.Starts keeping UpdateLog.engine first) (whole : keeping.IsWhole)
    (wide : keeping.IsWide) (numbered : Hubs.Numbered keeping first (atHubs early))
    (passes : before.PassesTo id hub document sender session (.sync step payload)) :
    step = .update ∧ payload ≠ [] ∧
      ⟨id, hub, document, .merge payload, .value (some payload)⟩ ∈ Hubs.events (atHubs early) ∧
      (∃ earlier frame, SentAt early earlier hub document sender frame id ∧
        frame.task? = some (.merge payload)) ∧
      ∀ moment, (before.step id moment).hubs.result? id = some (.ok []) := by
  have traced := run.course.traced starts.hubs
  obtain ⟨next, found⟩ := passes.job
  have bound := (run.course.orderly starts.hubs).numbered found
  obtain ⟨begun, hub', document', sender', bytes, member, rfl⟩ :=
    traced.frame_of_passing bound found rfl rfl
  obtain ⟨rfl, rfl, rfl, last, brought, update, handed, decoded, merges, equal, merged⟩ :=
    traced.of_passing member found rfl rfl
  cases equal
  obtain ⟨initial, keeps, fitting, -⟩ := numbered.fitting whole wide document
  obtain ⟨rfl, full⟩ := run.course.handed starts.hubs keeps fitting merged
  refine ⟨rfl, full, merged, ?_, ?_⟩
  · obtain ⟨⟨begun', move'⟩, within, equal⟩ := List.mem_map.mp member
    cases move' with
    | hubs move' =>
        cases equal
        obtain ⟨late, earlier, split⟩ := List.append_of_mem within
        exact ⟨earlier, brought, ⟨late, begun', bytes, split, rfl, decoded⟩, merges⟩
    | _ => cases equal
  · intro moment
    obtain ⟨next', reached, found', after⟩ := passes.answered moment
    cases found.symm.trans found'
    rw [last] at after
    exact Hubs.result?_eq_some_iff.mpr ⟨_, after, rfl⟩

/-- Who puts a sync frame into the outbox of a session. -/
theorem Run.put_by (run : Run keeping start path foyer)
    (put : PutAt path before move early hub session frame) :
    Run keeping start early before ∧ ∃ id moment document sender,
      move = .hubs (.step id moment) ∧ before.PassesTo id hub document sender session frame ∧
      (before.after move).queue hub session = before.queue hub session ++ [frame] := by
  obtain ⟨⟨late, equal⟩, puts⟩ := put
  exact ⟨(run.split equal).1, puts.passes⟩

/-- Whatever sync frame is put into an outbox is an update of which all this can be said. -/
theorem Run.broadcast (run : Run keeping start path foyer)
    (starts : start.Starts keeping UpdateLog.engine first)
    (vacant : ∀ hub roster, start.hubs.roster? hub = some roster → roster = .empty)
    (whole : keeping.IsWhole) (wide : keeping.IsWide) (canFail : keeping.CanFail)
    (numbered : Hubs.Numbered keeping first (atHubs path))
    (put : PutAt path before move early hub session (.sync step payload)) :
    step = .update ∧
      (before.after move).queue hub session =
        before.queue hub session ++ [.sync .update payload] ∧
      ∃ id moment document, move = .hubs (.step id moment) ∧
        Broadcast keeping before early hub document session id payload := by
  have numberedThen := numbered.of_suffix (atHubs_suffix put.suffix)
  obtain ⟨earlier, id, moment, document, sender, rfl, passes, grown⟩ := run.put_by put
  obtain ⟨rfl, full, merged, ⟨begun, frame, sent, merges⟩, -⟩ :=
    earlier.of_passing starts whole wide numberedThen passes
  obtain ⟨roster, room, found, visiting, sits⟩ := passes.seat
  obtain ⟨roster', found', here, -⟩ := (earlier.sound starts).visits visiting
  cases found.symm.trans found'
  refine ⟨rfl, grown, id, moment, document, rfl, full, ?_, ?_, ?_⟩
  · exact ⟨begun, sender, frame, sent, merges, passes.apart⟩
  · exact earlier.joined_of_sits starts vacant found here sits
  · exact earlier.course.record_now starts.hubs whole wide canFail numberedThen merged full

/-- A job that has put a sync frame into an outbox puts none anywhere later. -/
theorem Run.not_put_again (run : Run keeping start path foyer)
    (starts : start.Starts keeping UpdateLog.engine first) (whole : keeping.IsWhole)
    (wide : keeping.IsWide) (numbered : Hubs.Numbered keeping first (atHubs path))
    {moment moment' : Lock.Moment} {before' : Foyer S B Ask Answer}
    {early' : List (Foyer S B Ask Answer × Move B Fault)} {home : HubId} {other : SessionId}
    {step' : SyncStep} {payload' : Bytes}
    (put : PutAt early' before (.hubs (.step id moment)) early hub session (.sync step payload)) :
    ¬ PutAt path before' (.hubs (.step id moment')) early' home other (.sync step' payload') := by
  intro again
  obtain ⟨run', id', _, _, _, same, passes', -⟩ := run.put_by again
  cases same
  obtain ⟨earlier, id', _, _, _, same, passes, -⟩ := run'.put_by put
  cases same
  obtain ⟨late, equal⟩ := put.1
  have numberedThen := numbered.of_suffix (atHubs_suffix (put.suffix.trans again.suffix))
  have result := (earlier.of_passing starts whole wide numberedThen passes).2.2.2.2 moment
  have stays := run'.result_stays starts equal result
  obtain ⟨next, found⟩ := passes'.job
  simp [Hubs.result?, found] at stays

/-- A frame is put into each outbox once at most. -/
theorem Run.put_once (run : Run keeping start path foyer)
    (starts : start.Starts keeping UpdateLog.engine first) (whole : keeping.IsWhole)
    (wide : keeping.IsWide) (numbered : Hubs.Numbered keeping first (atHubs path))
    {moment moment' : Lock.Moment} {before' : Foyer S B Ask Answer}
    {early' : List (Foyer S B Ask Answer × Move B Fault)} {home : HubId} {other : SessionId}
    {step' : SyncStep} {payload' : Bytes}
    (put : PutAt path before (.hubs (.step id moment)) early hub session (.sync step payload))
    (again : PutAt path before' (.hubs (.step id moment')) early' home other
      (.sync step' payload')) : early = early' := by
  obtain ⟨⟨late, equal⟩, puts⟩ := put
  obtain ⟨⟨late', equal'⟩, puts'⟩ := again
  rcases List.suffix_or_suffix_of_suffix ⟨late, equal.symm⟩ ⟨late', equal'.symm⟩ with
    within | within
  · rcases List.suffix_cons_iff.mp within with same | ⟨between, past⟩
    · cases same
      rfl
    · exact absurd ⟨⟨late', equal'⟩, puts'⟩
        (run.not_put_again starts whole wide numbered ⟨⟨between, past.symm⟩, puts⟩)
  · rcases List.suffix_cons_iff.mp within with same | ⟨between, past⟩
    · cases same
      rfl
    · exact absurd ⟨⟨late, equal⟩, puts⟩
        (run.not_put_again starts whole wide numbered ⟨⟨between, past.symm⟩, puts'⟩)

/-- A frame that brings no update, or has failed, or was not sent for the document of a
session puts nothing into the outbox of the session. -/
theorem Run.puts_none (run : Run keeping start path foyer)
    (starts : start.Starts keeping UpdateLog.engine first)
    (vacant : ∀ hub roster, start.hubs.roster? hub = some roster → roster = .empty)
    (whole : keeping.IsWhole) (wide : keeping.IsWide) (canFail : keeping.CanFail)
    (numbered : Hubs.Numbered keeping first (atHubs path))
    {begun : Foyer S B Ask Answer} {bytes : Bytes} {home : HubId} {moment : Lock.Moment}
    (member : (begun, .hubs (.frame hub document sender bytes)) ∈ path)
    (unheard : (∀ frame update, Frame.decode bytes = .ok frame →
        frame.task? = some (.merge update) → update = []) ∨
      (∃ error, foyer.hubs.result? begun.hubs.nextJob = some (.error error)) ∨
      ∃ other, HasJoined path home other session ∧ (home, other) ≠ (hub, document)) :
    ¬ PutAt path before (.hubs (.step begun.hubs.nextJob moment)) early home session
      (.sync step payload) := by
  intro put
  obtain ⟨-, -, id, moment', target, same, told⟩ :=
    run.broadcast starts vacant whole wide canFail numbered put
  have numberedThen := numbered.of_suffix (atHubs_suffix put.suffix)
  cases same
  obtain ⟨earlier, sender', frame, ⟨late, begun', bytes', split, number, decoded⟩, merges, -⟩ :=
    told.sent
  obtain ⟨⟨later, equal⟩, puts⟩ := put
  have within : (begun', Move.hubs (.frame home target sender' bytes')) ∈ path := by
    rw [equal, split]
    simp
  have once := run.course.begun_once starts.hubs (List.mem_map_of_mem member)
    (List.mem_map_of_mem within) rfl rfl number.symm
  cases congrArg Prod.snd once
  rcases unheard with empty | ⟨error, failed⟩ | ⟨other, joined, elsewhere⟩
  · exact told.full (empty frame payload decoded merges)
  · obtain ⟨earlier, id, _, _, _, same, passes, -⟩ := run.put_by ⟨⟨later, equal⟩, puts⟩
    cases same
    have result := (earlier.of_passing starts whole wide numberedThen passes).2.2.2.2 moment
    have stays := run.result_stays starts equal result
    rw [failed] at stays
    cases stays
  · obtain ⟨at', room, sat, visiting⟩ := told.joined
    have here : HasJoined path hub document session := by
      refine ⟨at', room, ?_, visiting⟩
      rw [equal]
      exact List.mem_append_right _ (List.mem_cons_of_mem _ sat)
    exact elsewhere (by rw [run.joined_once starts.visits joined here])

/-- Broadcasts are sound.  Whatever sync frame is in an outbox was put there; it is an update
that is not empty, that another session has sent for a document which the session of the
outbox has joined, and that was a record of what was stored when it was put there.  One job
puts it there, at one move and once.  A frame that brings no update, or has failed, or was
sent for another document puts none there.  Sixty-four bits are to hold the versions. -/
theorem Run.broadcast_sound (run : Run keeping start path foyer)
    (starts : start.Starts keeping UpdateLog.engine first)
    (vacant : ∀ hub roster, start.hubs.roster? hub = some roster → roster = .empty)
    (whole : keeping.IsWhole) (wide : keeping.IsWide) (canFail : keeping.CanFail)
    (numbered : Hubs.Numbered keeping first (atHubs path)) :
    (∀ hub session step payload, Frame.sync step payload ∈ foyer.queue hub session →
      ∃ before move early, PutAt path before move early hub session (.sync step payload)) ∧
    (∀ before move early hub session step payload,
      PutAt path before move early hub session (.sync step payload) →
      step = .update ∧
        (before.after move).queue hub session =
          before.queue hub session ++ [.sync .update payload] ∧
        ∃ id moment document, move = .hubs (.step id moment) ∧
          Broadcast keeping before early hub document session id payload) ∧
    (∀ id before before' moment moment' early early' hub home session other step step' payload
        payload',
      PutAt path before (.hubs (.step id moment)) early hub session (.sync step payload) →
      PutAt path before' (.hubs (.step id moment')) early' home other (.sync step' payload') →
      early = early') ∧
    ∀ begun hub document sender bytes home session,
      (begun, .hubs (.frame hub document sender bytes)) ∈ path →
      ((∀ frame update, Frame.decode bytes = .ok frame →
          frame.task? = some (.merge update) → update = []) ∨
        (∃ error, foyer.hubs.result? begun.hubs.nextJob = some (.error error)) ∨
        ∃ other, HasJoined path home other session ∧ (home, other) ≠ (hub, document)) →
      ∀ before moment early step payload,
        ¬ PutAt path before (.hubs (.step begun.hubs.nextJob moment)) early home session
          (.sync step payload) := by
  refine ⟨?_, ?_, ?_, ?_⟩
  · intro hub session step payload queued
    exact run.exists_putAt vacant queued
  · intro before move early hub session step payload put
    exact run.broadcast starts vacant whole wide canFail numbered put
  · intro id before before' moment moment' early early' hub home session other step step' payload
      payload' put again
    exact run.put_once starts whole wide numbered put again
  · intro begun hub document sender bytes home session member unheard before moment early step
      payload
    exact run.puts_none starts vacant whole wide canFail numbered member unheard

open Archive (Shelf)

set_option maxRecDepth 2000 in
/-- An update that another session has merged stands in the outbox of a session, and can be
told from the records that were stored when it was put there. -/
theorem Run.broadcast_sound_crossing :
    (shelved.afterAll crossing).queue 0 1 = [.sync .update [7]] ∧
      ∃ before move early, PutAt (shelved.trail crossing []) before move early 0 1
        (.sync .update [7]) ∧
      ∃ id document, Broadcast Shelf.keeping before early 0 document 1 id [7] := by
  have permitted : shelved.PermitsAll Shelf.keeping crossing := by decide +kernel
  have queued : (shelved.afterAll crossing).queue 0 1 = [.sync .update [7]] := by
    with_unfolding_all rfl
  have vacant : ∀ hub roster, shelved.hubs.roster? hub = some roster → roster = .empty := by
    intro hub roster found
    obtain ⟨held, hubFound, rfl⟩ := Option.map_eq_some_iff.mp found
    exact (shelved_uses hubFound).2.2
  have numbered : Hubs.Numbered Shelf.keeping (fun _ => none)
      (atHubs (shelved.trail crossing [])) := by
    intro document
    have few := Hubs.length_commits_le document (atHubs (shelved.trail crossing []))
    have count : (atHubs (shelved.trail crossing [])).length = crossing.length := by
      decide +kernel
    have short : crossing.length + 1 < UInt64.size := by decide
    refine ⟨none, rfl, ?_⟩
    change 0 + _ + 1 < _
    omega
  obtain ⟨puts, told, -⟩ := (Run.start.of_moves permitted).broadcast_sound shelved_starts vacant
    Shelf.keeping_isWhole Shelf.keeping_isWide Shelf.keeping_canFail numbered
  obtain ⟨before, move, early, put⟩ := puts 0 1 .update [7] (queued ▸ List.mem_cons_self ..)
  obtain ⟨-, -, id, moment, document, -, broadcast⟩ := told before move early 0 1 .update [7] put
  exact ⟨queued, before, move, early, put, id, document, broadcast⟩

end Foyer

end Coedit
