import Coedit.Archive.Shelf
import Coedit.Proofs.Archive.Keeping

/-!
# Shelves keep documents

An archive in memory keeps the contract in the plainest way: the place of a document is
its snapshot, and a save takes effect as a whole or not at all.
-/

namespace Coedit.Archive.Shelf

/-- What is asked about one document, and what is answered. -/
def rules (document : DocumentId) : Program.Rules (Option Snapshot) Call Call.Answer where
  asks _
    | .load target => target = document
    | .save target _ => target = document
  answers place
    | .load _ => fun answer after => after = place ∧ ∀ found, answer = .ok found → found = place
    | .save _ snapshot => fun answer after =>
        match answer with
        | .ok () => after = some snapshot
        | .error _ => after = place

theorem load_safe (document : DocumentId) (place : Option Snapshot) :
    (archive.load document).Safe (rules document)
      (fun result after => after = place ∧ ∀ found, result = .ok found → found = place) place := by
  refine ⟨rfl, ?_⟩
  intro answer after answered
  exact answered

theorem version_safe (document : DocumentId) (place : Option Snapshot) :
    (archive.version document).Safe (rules document)
      (fun result after => after = place ∧
        ∀ found, result = .ok found → found = place.map Snapshot.version) place := by
  refine Program.Safe.bind ((load_safe document place).mono ?_)
  rintro result after ⟨rfl, found⟩
  refine ⟨rfl, ?_⟩
  intro version answered
  cases result with
  | ok stored =>
      cases found stored rfl
      cases answered
      rfl
  | error error => cases answered

theorem save_safe (document : DocumentId) (saved : Snapshot) (place : Option Snapshot) :
    (archive.save document saved).Safe (rules document)
      (fun result after =>
        match result with
        | .ok () => after = some saved
        | .error _ => after = place) place := by
  refine ⟨rfl, ?_⟩
  intro answer after answered
  cases answer with
  | ok done => exact answered
  | error error => exact answered

/-- A call about a document leaves all others alone. -/
theorem answered {places : DocumentId → Option Snapshot} {shelf : Shelf} {document : DocumentId}
    {question : Call} (failure : Option ArchiveError)
    (holds : ∀ document, shelf.get? document = places document)
    (asks : (rules document).asks (places document) question) :
    ∃ after, (rules document).answers (places document) question
        (Medium.attempt failure question shelf).1 after ∧
      ∀ other, (Medium.attempt failure question shelf).2.get? other =
        Function.update places document after other := by
  cases failure with
  | some error =>
      refine ⟨places document, ?_, ?_⟩
      · cases question with
        | load target => exact ⟨rfl, by rintro _ ⟨⟩⟩
        | save target snapshot => rfl
      · rw [Function.update_eq_self]
        exact holds
  | none =>
      cases question with
      | load target =>
          cases asks
          refine ⟨places document, ⟨rfl, ?_⟩, ?_⟩
          · rintro _ ⟨⟩
            exact holds document
          · rw [Function.update_eq_self]
            exact holds
      | save target snapshot =>
          cases asks
          refine ⟨some snapshot, rfl, ?_⟩
          intro other
          refine (Table.get?_insert ..).trans ?_
          by_cases same : document = other
          · rw [if_pos same, ← same, Function.update_self]
          · rw [if_neg same, Function.update_of_ne (Ne.symm same), holds]

/-- An archive in memory keeps what it is given. -/
def keeping : archive.Keeping Shelf ArchiveError where
  Place := Option Snapshot
  rules := rules
  Holds places shelf := ∀ document, shelf.get? document = places document
  Keeps place stored := place = stored
  Fits _ := True
  Leaves before _ after := after = before
  Happens _ _ := True
  Drifts shelf after := after = shelf
  stored shelf document := shelf.get? document
  stored_of_keeps holds keeps := (holds _).trans keeps
  holds_of_drifts holds drifts := drifts ▸ holds
  answered holds asks _ := answered _ holds asks
  load_safe document place := by
    refine (load_safe document place).mono ?_
    rintro result after ⟨rfl, found⟩ snapshot rfl
    exact ⟨rfl, found⟩
  version_safe document place := by
    refine (version_safe document place).mono ?_
    rintro result after ⟨rfl, found⟩ snapshot rfl
    exact ⟨rfl, found⟩
  save_safe document saved place := by
    refine (save_safe document saved place).mono ?_
    intro result after kept snapshot keeps
    cases result with
    | ok done => exact fun _ => kept
    | error error => exact ⟨snapshot, rfl, kept.trans keeps⟩

theorem keeping_isWhole : keeping.IsWhole :=
  fun _ _ _ leaves => leaves

theorem keeping_isWide : keeping.IsWide :=
  fun _ _ => trivial

theorem keeping_canFail : keeping.CanFail :=
  fun _ _ => ⟨.io "unreachable", trivial, rfl⟩

end Coedit.Archive.Shelf
