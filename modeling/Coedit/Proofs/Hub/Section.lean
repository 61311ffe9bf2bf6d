import Coedit.Hub
import Coedit.Proofs.Archive.Keeping

/-!
# What a section does

A section sees one document only: the cell in which its hub has the document loaded,
and the place of the document in the archive.  Whatever the archive answers in
between, a section as a whole does one of few things to the two, which are told here
without the questions it asks.
-/

namespace Coedit

/-- What a hub has loaded of a document: the cell and its content. -/
abbrev Desk := Option (CellId × Document)

/-- Nothing is loaded that has still to be stored. -/
def Desk.IsClean (desk : Desk) : Prop :=
  ∀ cell loaded, desk = some (cell, loaded) → loaded.dirty = false

/-- Whether the section of a task turns to the archive if nothing loaded has still to be
stored. -/
def Hub.Task.Consults : Hub.Task → Prop
  | .diff _ => True
  | .merge _ => True
  | .flush => False
  | .evict => False

/-- Engines that never break down. -/
def Engine.IsSteady (engine : Engine) : Prop :=
  ∀ content update message, engine.apply content update ≠ .crashed message

namespace Section

variable {Ask Fault B α β : Type} {Answer : Ask → Type}

/-! ## What may be asked -/

/-- What a section may ask of its hub: about its own document only, and about no cell
but the one that holds it. -/
def MayCall (document : DocumentId) (desk : Desk) : Call → Prop
  | .find target => target = document
  | .look cell => ∃ loaded, desk = some (cell, loaded)
  | .place target _ => target = document
  | .refresh cell _ => ∃ loaded, desk = some (cell, loaded)
  | .commit cell _ => ∃ loaded, desk = some (cell, loaded)
  | .clean cell => ∃ loaded, desk = some (cell, loaded)
  | .poison _ => False
  | .forget target => target = document
  | .sessions target => target = document

/-- What a hub answers, and what it has loaded then. -/
def Answered (desk : Desk) : (call : Call) → call.Answer → Desk → Prop
  | .find _, answer, after => answer = desk.map Prod.fst ∧ after = desk
  | .look _, answer, after => answer = desk.map Prod.snd ∧ after = desk
  | .place _ snapshot, answer, after =>
      match desk with
      | some (cell, _) => answer = cell ∧ after = desk
      | none => ∃ now, after = some (answer, .ofSnapshot snapshot now)
  | .refresh cell snapshot, answer, after =>
      answer = true ∧ ∃ now, after = some (cell, .ofSnapshot snapshot now)
  | .commit cell content, answer, after =>
      answer = true ∧ ∃ now loaded, desk = some (cell, loaded) ∧
        after = some (cell, (loaded.revise content now).markClean)
  | .clean cell, answer, after =>
      answer = true ∧ ∃ loaded, desk = some (cell, loaded) ∧
        after = some (cell, loaded.markClean)
  | .poison _, _, _ => False
  | .forget _, _, after => after = none
  | .sessions _, _, after => after = desk

/-- What may be asked can be answered. -/
theorem MayCall.answered {document : DocumentId} {desk : Desk} {call : Call}
    (may : MayCall document desk call) : ∃ answer after, Answered desk call answer after := by
  cases call with
  | find _ => exact ⟨_, desk, rfl, rfl⟩
  | look _ => exact ⟨_, desk, rfl, rfl⟩
  | place _ snapshot =>
      cases desk with
      | none => exact ⟨(0 : CellId), _, ⟨0⟩, rfl⟩
      | some held => exact ⟨held.1, some held, rfl, rfl⟩
  | refresh cell snapshot => exact ⟨true, _, rfl, ⟨0⟩, rfl⟩
  | commit cell content =>
      obtain ⟨loaded, found⟩ := may
      exact ⟨true, _, rfl, ⟨0⟩, loaded, found, rfl⟩
  | clean cell =>
      obtain ⟨loaded, found⟩ := may
      exact ⟨true, _, rfl, loaded, found, rfl⟩
  | poison _ => cases may
  | forget _ => exact ⟨(), none, rfl⟩
  | sessions _ => exact ⟨(0 : Nat), desk, rfl⟩

theorem Answered.isClean {desk after : Desk} {call : Call} {answer : call.Answer}
    (answered : Answered desk call answer after) (clean : desk.IsClean) : after.IsClean := by
  cases call with
  | find _ => exact answered.2 ▸ clean
  | look _ => exact answered.2 ▸ clean
  | place _ snapshot =>
      cases desk with
      | none =>
          obtain ⟨now, rfl⟩ := answered
          rintro _ _ ⟨⟩
          rfl
      | some held => exact answered.2 ▸ clean
  | refresh _ _ =>
      obtain ⟨-, now, rfl⟩ := answered
      rintro _ _ ⟨⟩
      rfl
  | commit _ _ =>
      obtain ⟨-, now, loaded, -, rfl⟩ := answered
      rintro _ _ ⟨⟩
      rfl
  | clean _ =>
      obtain ⟨-, loaded, -, rfl⟩ := answered
      rintro _ _ ⟨⟩
      rfl
  | poison _ => cases answered
  | forget _ =>
      cases answered
      rintro _ _ ⟨⟩
  | sessions _ =>
      cases answered
      exact clean

variable {archive : Archive Ask Answer} [Medium B Fault Ask Answer]

/-- What a section puts into a cell is what is stored by then, if something could be
said of the place where the section found the document. -/
def Backs (keeping : archive.Keeping B Fault) (origin : keeping.Place)
    (state : Desk × keeping.Place) : Call → Prop
  | .place _ snapshot => ∀ stored, keeping.Keeps origin stored →
      keeping.Keeps state.2 stored ∧ snapshot = stored.getD unstored
  | .refresh _ snapshot => ∀ stored, keeping.Keeps origin stored →
      keeping.Keeps state.2 (some snapshot)
  | .commit cell content => ∀ stored, keeping.Keeps origin stored →
      ∀ loaded, state.1 = some (cell, loaded) → keeping.Fits (loaded.version + 1) →
        keeping.Keeps state.2 (some ⟨content, loaded.version + 1⟩)
  | _ => True

/-- The rules of a section that found its document at a place, for a task that may turn
to the archive or not. -/
def rules (keeping : archive.Keeping B Fault) (document : DocumentId) (origin : keeping.Place)
    (consults : Prop) :
    Program.Rules (Desk × keeping.Place) (Call ⊕ Ask) (Program.Either Call.Answer Answer) where
  asks state
    | .inl call => MayCall document state.1 call ∧ Backs keeping origin state call
    | .inr question => consults ∧ (keeping.rules document).asks state.2 question
  answers state
    | .inl call => fun answer after => Answered state.1 call answer after.1 ∧ after.2 = state.2
    | .inr question => fun answer after =>
        after.1 = state.1 ∧ (keeping.rules document).answers state.2 question answer after.2

variable {keeping : archive.Keeping B Fault} {document : DocumentId} {consults : Prop}
  {desk : Desk} {place origin : keeping.Place}

theorem safe_andThen {post : Operation.Ending β Error → Desk × keeping.Place → Prop}
    {first : Section Ask Answer α} {next : α → Section Ask Answer β}
    {state : Desk × keeping.Place}
    (safe : first.Safe (rules keeping document origin consults) (fun ending after =>
      match ending with
      | .value value => (next value).Safe (rules keeping document origin consults) post after
      | .error error => post (.error error) after
      | .panic message => post (.panic message) after) state) :
    (first.andThen next).Safe (rules keeping document origin consults) post state := by
  refine Program.Safe.bind (safe.mono ?_)
  intro ending after goesOn
  cases ending with
  | value value => exact goesOn
  | error error => exact goesOn
  | panic message => exact goesOn

theorem safe_consult {post : Operation.Ending α Error → Desk × keeping.Place → Prop}
    {program : Program Ask Answer (Except ArchiveError α)} (may : consults)
    (safe : program.Safe (keeping.rules document) (fun result after =>
      match result with
      | .ok value => post (.value value) (desk, after)
      | .error error => post (.error (.archive error)) (desk, after)) place) :
    (consult program).Safe (rules keeping document origin consults) post (desk, place) := by
  apply Program.Safe.bind
  refine Program.Safe.onRight ?_ ?_ (safe.mono ?_)
  · intro beside state question asks
    exact ⟨may, asks⟩
  · intro beside state question answer after answered
    exact answered
  · intro result after goesOn
    cases result with
    | ok value => exact goesOn
    | error error => exact goesOn

theorem safe_call {post : Operation.Ending α Error → Desk × keeping.Place → Prop} {call : Call}
    {next : call.Answer → Section Ask Answer α} (may : MayCall document desk call)
    (backs : Backs keeping origin (desk, place) call)
    (safe : ∀ answer after, Answered desk call answer after →
      (next answer).Safe (rules keeping document origin consults) post (after, place)) :
    Program.Safe (rules keeping document origin consults) post (.ask (.inl call) next)
      (desk, place) := by
  refine ⟨⟨may, backs⟩, ?_⟩
  rintro answer ⟨after, beside⟩ ⟨answered, same⟩
  cases same
  exact safe answer after answered

theorem safe_look {post : Operation.Ending Document Error → Desk × keeping.Place → Prop}
    {cell : CellId} {loaded : Document}
    (safe : post (.value loaded) (some (cell, loaded), place)) :
    (look cell).Safe (rules keeping document origin consults) post (some (cell, loaded), place) := by
  refine safe_call ⟨loaded, rfl⟩ trivial ?_
  rintro answer after ⟨rfl, rfl⟩
  exact safe

/-! ## Loading -/

/-- What loading a document makes of what the hub has loaded, given what is stored:
the document is loaded already and not older, or older, or not loaded yet. -/
inductive Loads (desk : Desk) (stored : Option Snapshot) : Desk → CellId → Document → Prop where
  | current {cell : CellId} {loaded : Document} (found : desk = some (cell, loaded))
      (recent : ∀ snapshot ∈ stored, snapshot.version ≤ loaded.version) :
      Loads desk stored desk cell loaded
  | stale {cell : CellId} {old : Document} {snapshot : Snapshot} {now : Instant}
      (found : desk = some (cell, old)) (saved : stored = some snapshot)
      (late : old.version < snapshot.version) :
      Loads desk stored (some (cell, .ofSnapshot snapshot now)) cell (.ofSnapshot snapshot now)
  | first {cell : CellId} {now : Instant} (absent : desk = none) :
      Loads desk stored (some (cell, .ofSnapshot (stored.getD unstored) now)) cell
        (.ofSnapshot (stored.getD unstored) now)

/-- What is known once a document has been loaded, or could not be. -/
def AfterLoad (desk : Desk) (place : keeping.Place) :
    Operation.Ending CellId Error → Desk × keeping.Place → Prop
  | .value cell, (after, place') =>
      (desk.IsClean → after.IsClean) ∧ ∃ loaded, after = some (cell, loaded) ∧
        ∀ snapshot, keeping.Keeps place snapshot →
          keeping.Keeps place' snapshot ∧ Loads desk snapshot after cell loaded
  | .error error, (after, place') =>
      after = desk ∧ (∃ cause, error = .archive cause) ∧
        ∀ snapshot, keeping.Keeps place snapshot → keeping.Keeps place' snapshot
  | .panic _, _ => False

theorem isClean_ofSnapshot (cell : CellId) (snapshot : Snapshot) (now : Instant) :
    Desk.IsClean (some (cell, .ofSnapshot snapshot now)) := by
  rintro _ _ ⟨⟩
  rfl

/-- A document that is not loaded yet is loaded as it is stored. -/
theorem first_safe (may : consults) :
    Program.Safe (rules keeping document place consults) (AfterLoad none place)
      ((consult (archive.load document)).andThen fun stored =>
        request (.place document (stored.getD unstored)))
      (none, place) := by
  apply safe_andThen
  apply safe_consult may
  refine (keeping.load_safe document place).mono ?_
  intro result after kept
  cases result with
  | error error =>
      exact ⟨rfl, ⟨error, rfl⟩, fun snapshot keeps => (kept snapshot keeps).1⟩
  | ok stored =>
      refine safe_call rfl ?_ ?_
      · intro snapshot keeps
        obtain ⟨keeps', found⟩ := kept snapshot keeps
        cases found stored rfl
        exact ⟨keeps', rfl⟩
      rintro cell after ⟨now, rfl⟩
      refine ⟨fun _ => isClean_ofSnapshot _ _ _, _, rfl, ?_⟩
      intro snapshot keeps
      obtain ⟨keeps', found⟩ := kept snapshot keeps
      cases found stored rfl
      exact ⟨keeps', .first rfl⟩

/-- A document of which a later version is stored is loaded again. -/
theorem stale_safe {cell : CellId} {loaded : Document} {stored : Option Nat}
    {between : keeping.Place} (may : consults)
    (kept : ∀ snapshot, keeping.Keeps place snapshot →
      keeping.Keeps between snapshot ∧ stored = snapshot.map (·.version))
    (late : ¬ (stored.all fun version => version ≤ loaded.version) = true) :
    Program.Safe (rules keeping document place consults) (AfterLoad (some (cell, loaded)) place)
      ((consult (archive.load document)).andThen fun
        | some snapshot => (change (.refresh cell snapshot) (·)).andThen fun _ => finish cell
        | none => finish cell)
      (some (cell, loaded), between) := by
  apply safe_andThen
  apply safe_consult may
  refine (keeping.load_safe document between).mono ?_
  intro result after reloaded
  have keepsAfter : ∀ snapshot, keeping.Keeps place snapshot →
      keeping.Keeps after snapshot := fun snapshot keeps =>
    (reloaded snapshot (kept snapshot keeps).1).1
  cases result with
  | error error => exact ⟨rfl, ⟨error, rfl⟩, keepsAfter⟩
  | ok found =>
      cases found with
      | none =>
          refine ⟨id, loaded, rfl, ?_⟩
          intro snapshot keeps
          obtain ⟨keeps', rfl⟩ := kept snapshot keeps
          cases (reloaded snapshot keeps').2 none rfl
          simp at late
      | some found =>
          apply safe_andThen
          refine safe_call ⟨loaded, rfl⟩ ?_ ?_
          · intro snapshot keeps
            obtain ⟨keepsLast, same⟩ := reloaded snapshot (kept snapshot keeps).1
            cases same _ rfl
            exact keepsLast
          rintro answer last ⟨rfl, now, rfl⟩
          refine ⟨fun _ => isClean_ofSnapshot _ _ _, _, rfl, ?_⟩
          intro snapshot keeps
          obtain ⟨keeps', rfl⟩ := kept snapshot keeps
          obtain ⟨keepsLast, same⟩ := reloaded snapshot keeps'
          cases same _ rfl
          exact ⟨keepsLast, .stale rfl rfl (by simpa using late)⟩

theorem load_safe (may : consults) :
    (load archive document).Safe (rules keeping document place consults) (AfterLoad desk place)
      (desk, place) := by
  apply safe_andThen
  refine safe_call rfl trivial ?_
  rintro answer after ⟨rfl, rfl⟩
  cases after with
  | none => exact first_safe may
  | some held =>
      obtain ⟨cell, loaded⟩ := held
      apply safe_andThen
      apply safe_look
      apply safe_andThen
      apply safe_consult may
      refine (keeping.version_safe document place).mono ?_
      intro result between kept
      cases result with
      | error error =>
          exact ⟨rfl, ⟨error, rfl⟩, fun snapshot keeps => (kept snapshot keeps).1⟩
      | ok version =>
          have known : ∀ snapshot, keeping.Keeps place snapshot →
              keeping.Keeps between snapshot ∧ version = snapshot.map (·.version) :=
            fun snapshot keeps => ⟨(kept snapshot keeps).1, (kept snapshot keeps).2 version rfl⟩
          dsimp only
          split
          · next recent =>
              refine ⟨id, loaded, rfl, ?_⟩
              intro snapshot keeps
              obtain ⟨keeps', rfl⟩ := known snapshot keeps
              refine ⟨keeps', .current rfl ?_⟩
              intro stored member
              cases member
              simpa using recent
          · next late => exact stale_safe may known late

/-! ## Sections as a whole -/

/-- What a section as a whole does to what is loaded and what is stored; flushing and
evicting if nothing loaded has still to be stored.  `leaves` tells what a failed save may leave. -/
inductive Does (engine : Engine) (leaves : Option Snapshot → Snapshot → Option Snapshot → Prop)
    (desk : Desk) (stored : Option Snapshot) :
    Hub.Task → Operation.Ending (Option Bytes) Error → Desk → Option Snapshot → Prop where
  /-- The document could not be loaded. -/
  | unread {task : Hub.Task} (error : ArchiveError) :
      Does engine leaves desk stored task (.error (.archive error)) desk stored
  | told {vector lacking : Bytes} {after : Desk} {cell : CellId} {loaded : Document}
      (loads : Loads desk stored after cell loaded)
      (verdict : engine.diff loaded.content vector = .ok lacking) :
      Does engine leaves desk stored (.diff vector) (.value (some lacking)) after stored
  | untold {vector : Bytes} {error : MergeError} {after : Desk} {cell : CellId}
      {loaded : Document} (loads : Loads desk stored after cell loaded)
      (verdict : engine.diff loaded.content vector = .error error) :
      Does engine leaves desk stored (.diff vector) (.error (.merge error)) after stored
  | refused {update : Bytes} {error : MergeError} {after : Desk} {cell : CellId}
      {loaded : Document} (loads : Loads desk stored after cell loaded)
      (verdict : engine.apply loaded.content update = .refused error) :
      Does engine leaves desk stored (.merge update) (.error (.merge error)) after stored
  | unchanged {update : Bytes} {after : Desk} {cell : CellId} {loaded : Document}
      (loads : Loads desk stored after cell loaded)
      (verdict : engine.apply loaded.content update = .merged ⟨loaded.content, none⟩) :
      Does engine leaves desk stored (.merge update) (.value none) after stored
  | unsaved {update : Bytes} {outcome : Merged} {after : Desk} {cell : CellId}
      {loaded : Document} {residue : Option Snapshot}
      (loads : Loads desk stored after cell loaded)
      (verdict : engine.apply loaded.content update = .merged outcome)
      (changes : ¬ (outcome.broadcast = none ∧ outcome.content = loaded.content))
      (left : leaves stored ⟨outcome.content, loaded.version + 1⟩ residue)
      (error : ArchiveError) :
      Does engine leaves desk stored (.merge update) (.error (.archive error)) after residue
  | committed {update : Bytes} {outcome : Merged} {after : Desk} {cell : CellId}
      {loaded : Document} (loads : Loads desk stored after cell loaded)
      (verdict : engine.apply loaded.content update = .merged outcome)
      (changes : ¬ (outcome.broadcast = none ∧ outcome.content = loaded.content))
      (now : Instant) :
      Does engine leaves desk stored (.merge update) (.value outcome.broadcast)
        (some (cell, (loaded.revise outcome.content now).markClean))
        (some ⟨outcome.content, loaded.version + 1⟩)
  | flushed : Does engine leaves desk stored .flush (.value none) desk stored
  | stayed : Does engine leaves desk stored .evict (.value none) desk stored
  | evicted : Does engine leaves desk stored .evict (.value none) none stored

/-- What is known at the end of a section that began with `desk` and `place`.  Only a section
that comes to a value can have stored a version of its own. -/
def AfterBody (engine : Engine) (task : Hub.Task) (desk : Desk) (place : keeping.Place)
    (ending : Operation.Ending (Option Bytes) Error) (state : Desk × keeping.Place) : Prop :=
  (desk.IsClean → state.1.IsClean) ∧ ∀ stored, keeping.Keeps place stored →
    ∃ after, Does engine keeping.Leaves desk stored task ending state.1 after ∧
      ((∀ value, ending = .value value → ∀ snapshot ∈ after, keeping.Fits snapshot.version) →
        keeping.Keeps state.2 after)

theorem diff_safe (engine : Engine) (vector : Bytes) (may : consults) :
    ((diff archive engine document vector).andThen fun lacking =>
      finish (some lacking)).Safe (rules keeping document place consults)
      (AfterBody engine (.diff vector) desk place) (desk, place) := by
  refine safe_andThen (safe_andThen ((load_safe may).mono ?_))
  rintro ending ⟨after, place'⟩ loaded
  cases ending with
  | error error =>
      obtain ⟨same, ⟨cause, rfl⟩, keeps⟩ := loaded
      cases same
      exact ⟨id, fun stored kept => ⟨stored, .unread cause, fun _ => keeps stored kept⟩⟩
  | panic message => cases loaded
  | value cell =>
      obtain ⟨cleanAfter, loaded, same, keeps⟩ := loaded
      cases same
      refine safe_andThen (safe_look ?_)
      dsimp only
      cases verdict : engine.diff loaded.content vector with
      | ok lacking =>
          refine ⟨cleanAfter, fun stored kept => ?_⟩
          obtain ⟨kept', loads⟩ := keeps stored kept
          exact ⟨stored, .told loads verdict, fun _ => kept'⟩
      | error error =>
          refine ⟨cleanAfter, fun stored kept => ?_⟩
          obtain ⟨kept', loads⟩ := keeps stored kept
          exact ⟨stored, .untold loads verdict, fun _ => kept'⟩

theorem merge_safe {engine : Engine} (steady : engine.IsSteady) (update : Bytes)
    (may : consults) :
    (merge archive engine document update).Safe (rules keeping document place consults)
      (AfterBody engine (.merge update) desk place) (desk, place) := by
  refine safe_andThen ((load_safe may).mono ?_)
  rintro ending ⟨after, between⟩ loaded
  cases ending with
  | error error =>
      obtain ⟨same, ⟨cause, rfl⟩, keeps⟩ := loaded
      cases same
      exact ⟨id, fun stored kept => ⟨stored, .unread cause, fun _ => keeps stored kept⟩⟩
  | panic message => cases loaded
  | value cell =>
      obtain ⟨cleanAfter, loaded, same, keeps⟩ := loaded
      cases same
      refine safe_andThen (safe_look ?_)
      dsimp only
      cases verdict : engine.apply loaded.content update with
      | crashed message => exact absurd verdict (steady _ _ _)
      | refused error =>
          refine ⟨cleanAfter, fun stored kept => ?_⟩
          obtain ⟨kept', loads⟩ := keeps stored kept
          exact ⟨stored, .refused loads verdict, fun _ => kept'⟩
      | merged outcome =>
          dsimp only
          split
          · next same =>
              refine ⟨cleanAfter, fun stored kept => ?_⟩
              obtain ⟨kept', loads⟩ := keeps stored kept
              obtain ⟨content, broadcast⟩ := outcome
              obtain ⟨rfl, rfl⟩ := same
              exact ⟨stored, .unchanged loads verdict, fun _ => kept'⟩
          · next changes =>
              refine safe_andThen (safe_consult may
                ((keeping.save_safe document _ between).mono ?_))
              intro result last saved
              cases result with
              | error error =>
                  refine ⟨cleanAfter, fun stored kept => ?_⟩
                  obtain ⟨kept', loads⟩ := keeps stored kept
                  obtain ⟨residue, left, keepsResidue⟩ := saved stored kept'
                  exact ⟨residue, .unsaved loads verdict changes left error, fun _ => keepsResidue⟩
              | ok done =>
                  refine safe_andThen (safe_call ⟨loaded, rfl⟩ ?_ ?_)
                  · rintro stored kept held ⟨⟩ fits
                    exact saved stored (keeps stored kept).1 fits
                  rintro answer after ⟨rfl, now, found, same, rfl⟩
                  cases same
                  refine ⟨?_, fun stored kept => ?_⟩
                  · rintro - _ _ ⟨⟩
                    rfl
                  · obtain ⟨kept', loads⟩ := keeps stored kept
                    refine ⟨_, .committed loads verdict changes now, fun fits => ?_⟩
                    exact saved stored kept' (fits _ rfl _ rfl)

theorem flush_safe {post : Operation.Ending Bool Error → Desk × keeping.Place → Prop}
    (clean : desk.IsClean) (safe : post (.value false) (desk, place)) :
    (flush archive document).Safe (rules keeping document origin consults) post (desk, place) := by
  refine safe_andThen (safe_call rfl trivial ?_)
  rintro answer after ⟨rfl, rfl⟩
  cases after with
  | none => exact safe
  | some held =>
      obtain ⟨cell, loaded⟩ := held
      refine safe_andThen (safe_look ?_)
      simp only [clean cell loaded rfl]
      exact safe

theorem evict_safe (engine : Engine) (clean : desk.IsClean) :
    ((evict archive document).andThen fun _ => finish none).Safe
      (rules keeping document origin consults) (AfterBody engine .evict desk place) (desk, place) := by
  refine safe_andThen (safe_andThen (safe_call rfl trivial ?_))
  rintro sessions after same
  cases same
  change Program.Safe _ _ (if sessions > 0 then _ else _) _
  split
  · exact ⟨id, fun stored kept => ⟨stored, .stayed, fun _ => kept⟩⟩
  · refine safe_andThen (flush_safe clean ?_)
    refine safe_call rfl trivial ?_
    intro answer after same
    cases same
    exact ⟨by rintro - _ _ ⟨⟩, fun stored kept => ⟨stored, .evicted, fun _ => kept⟩⟩

/-- Every section keeps to its rules and does one of these things. -/
theorem body_safe {engine : Engine} (steady : engine.IsSteady) (task : Hub.Task)
    (clean : task.Consults ∨ desk.IsClean) :
    (Hubs.body archive engine document task).Safe
      (rules keeping document place task.Consults)
      (AfterBody engine task desk place) (desk, place) := by
  cases task with
  | diff vector => exact diff_safe engine vector trivial
  | merge update => exact merge_safe steady update trivial
  | flush =>
      refine safe_andThen (flush_safe (clean.resolve_left id) ?_)
      exact ⟨id, fun stored kept => ⟨stored, .flushed, fun _ => kept⟩⟩
  | evict => exact evict_safe engine (clean.resolve_left id)

/-! ## What is put into memory -/

/-- Whether a question puts nothing into memory but what is stored. -/
def Loading : Call ⊕ Ask → Prop
  | .inl (.commit ..) | .inl (.clean _) | .inl (.poison _) | .inl (.forget _) => False
  | _ => True

/-- Whether a question puts nothing into memory but what is stored, or a change with which
the section has come to a value. -/
def Careful : (question : Call ⊕ Ask) →
    (Program.Either Call.Answer Answer question → Section Ask Answer α) → Prop
  | .inl (.commit ..), next => ∃ value, next true = .done (.value value)
  | question, _ => Loading question

theorem careful_of_loading (question : Call ⊕ Ask)
    (next : Program.Either Call.Answer Answer question → Section Ask Answer α)
    (loading : Loading question) : Careful question next := by
  unfold Careful
  split
  · cases loading
  · exact loading

theorem every_andThen {calm : Call ⊕ Ask → Prop}
    {kind : (question : Call ⊕ Ask) →
      (Program.Either Call.Answer Answer question → Section Ask Answer β) → Prop}
    (plain : ∀ question next, calm question → kind question next)
    {first : Section Ask Answer α} {next : α → Section Ask Answer β}
    (every : first.Every fun question _ => calm question)
    (rest : ∀ value, (next value).Every kind) : (first.andThen next).Every kind := by
  refine Program.Every.bind plain every ?_
  intro ending
  cases ending with
  | value value => exact rest value
  | error error => trivial
  | panic message => trivial

theorem loading_consult (program : Program Ask Answer (Except ArchiveError α)) :
    (consult program).Every fun question _ => Loading question := by
  refine Program.Every.bind (fun _ _ loading => loading)
    (Program.every_onRight (fun _ => trivial) program) ?_
  intro result
  cases result with
  | ok value => trivial
  | error error => trivial

theorem loading_look (cell : CellId) :
    (look cell : Section Ask Answer Document).Every fun question _ => Loading question := by
  refine ⟨trivial, ?_⟩
  intro answer
  cases answer with
  | none => trivial
  | some loaded => trivial

theorem loading_load (archive : Archive Ask Answer) (document : DocumentId) :
    (load archive document).Every fun question _ => Loading question := by
  refine every_andThen (fun _ _ => id) ⟨trivial, fun _ => trivial⟩ ?_
  intro cell
  cases cell with
  | none =>
      refine every_andThen (fun _ _ => id) (loading_consult _) ?_
      intro stored
      exact ⟨trivial, fun _ => trivial⟩
  | some cell =>
      refine every_andThen (fun _ _ => id) (loading_look cell) ?_
      intro loaded
      refine every_andThen (fun _ _ => id) (loading_consult _) ?_
      intro version
      split
      · trivial
      · refine every_andThen (fun _ _ => id) (loading_consult _) ?_
        intro stored
        cases stored with
        | none => trivial
        | some snapshot =>
            refine ⟨trivial, ?_⟩
            intro allowed
            cases allowed with
            | true => trivial
            | false => trivial

theorem loading_diff (archive : Archive Ask Answer) (engine : Engine) (document : DocumentId)
    (vector : Bytes) : (diff archive engine document vector).Every
      fun question _ => Loading question := by
  refine every_andThen (fun _ _ => id) (loading_load archive document) ?_
  intro cell
  refine every_andThen (fun _ _ => id) (loading_look cell) ?_
  intro loaded
  split
  · trivial
  · trivial

theorem careful_merge {engine : Engine} (steady : engine.IsSteady) (archive : Archive Ask Answer)
    (document : DocumentId) (update : Bytes) :
    (merge archive engine document update).Every Careful := by
  refine every_andThen careful_of_loading (loading_load archive document) ?_
  intro cell
  refine every_andThen careful_of_loading (loading_look cell) ?_
  intro loaded
  split
  · next message crashed => exact absurd crashed (steady _ _ _)
  · trivial
  · next outcome merged =>
      split
      · trivial
      · refine every_andThen careful_of_loading (loading_consult _) ?_
        intro saved
        refine ⟨⟨_, rfl⟩, ?_⟩
        intro allowed
        cases allowed with
        | true => trivial
        | false => trivial

/-- What is told to a peer or merged is careful. -/
theorem careful_body {engine : Engine} (steady : engine.IsSteady) (archive : Archive Ask Answer)
    (document : DocumentId) {task : Hub.Task} (consults : task.Consults) :
    (Hubs.body archive engine document task).Every Careful := by
  cases task with
  | diff vector =>
      exact every_andThen careful_of_loading (loading_diff archive engine document vector)
        fun lacking => trivial
  | merge update => exact careful_merge steady archive document update
  | flush => cases consults
  | evict => cases consults

end Section

end Coedit
