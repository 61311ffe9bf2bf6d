import Coedit.Proofs.Hub.Section

/-!
# What a hub has loaded

A hub that answers the calls of sections keeps its documents apart: every registered
document has a cell of its own that holds it, and a call made for one document
changes what is loaded of that document alone.
-/

namespace Coedit

namespace Cache

/-- Every registered document has a cell of its own, and the cell is not poisoned. -/
structure Sound (cache : Cache) : Prop where
  held {document : DocumentId} {cell : CellId} (found : cache.find? document = some cell) :
    cell < cache.nextCell ∧ ∃ loaded, cache.look? cell = some loaded
  apart {document other : DocumentId} {cell : CellId} (found : cache.find? document = some cell)
    (shared : cache.find? other = some cell) : document = other

/-- What is loaded of a document. -/
def desk (cache : Cache) (document : DocumentId) : Desk :=
  (cache.find? document).bind fun cell => (cache.look? cell).map fun loaded => (cell, loaded)

variable {cache : Cache} {document other : DocumentId} {cell : CellId} {loaded : Document}

theorem sound_empty : empty.Sound := by
  constructor
  · intro document cell found
    cases found
  · intro document other cell found
    cases found

@[simp] theorem desk_empty (document : DocumentId) : empty.desk document = none := rfl

theorem desk_eq_some_iff :
    cache.desk document = some (cell, loaded) ↔
      cache.find? document = some cell ∧ cache.look? cell = some loaded := by
  unfold desk
  cases found : cache.find? document with
  | none => simp
  | some held =>
      simp only [Option.bind_some, Option.map_eq_some_iff, Prod.mk.injEq, Option.some.injEq]
      grind

theorem find?_eq_map_desk (sound : cache.Sound) (document : DocumentId) :
    cache.find? document = (cache.desk document).map Prod.fst := by
  cases found : cache.find? document with
  | none => simp [desk, found]
  | some cell =>
      obtain ⟨-, loaded, holds⟩ := sound.held found
      simp [desk, found, holds]

theorem find?_eq_none (sound : cache.Sound) (absent : cache.desk document = none) :
    cache.find? document = none := by
  rw [find?_eq_map_desk sound, absent]
  rfl

/-! ## Changes -/

theorem look?_insert (cache : Cache) (register : Table DocumentId CellId) (next : CellId)
    (cell other : CellId) (document : Document) :
    look? ⟨cache.cells.insert cell (.holding document), register, next⟩ other =
      if cell = other then some document else cache.look? other := by
  unfold look?
  simp only [Table.get?_insert]
  by_cases same : cell = other
  · simp only [if_pos same]
  · simp only [if_neg same]

/-- A loaded document that is changed in its cell. -/
theorem revise_of_desk (sound : cache.Sound)
    (found : cache.desk document = some (cell, loaded)) (change : Document → Document) :
    (cache.revise cell change).1 = true ∧ (cache.revise cell change).2.Sound ∧
      (cache.revise cell change).2.desk document = some (cell, change loaded) ∧
      ∀ other, document ≠ other → (cache.revise cell change).2.desk other = cache.desk other := by
  obtain ⟨registered, holds⟩ := desk_eq_some_iff.mp found
  unfold revise
  simp only [holds]
  refine ⟨trivial, ⟨?_, ?_⟩, ?_, ?_⟩
  · intro target at' found'
    obtain ⟨bound, held, holds'⟩ := sound.held found'
    refine ⟨bound, ?_⟩
    rw [look?_insert]
    split
    · exact ⟨_, rfl⟩
    · exact ⟨held, holds'⟩
  · intro target second at' found' shared
    exact sound.apart found' shared
  · rw [desk_eq_some_iff]
    exact ⟨registered, by rw [look?_insert, if_pos rfl]⟩
  · intro other different
    unfold desk
    change (cache.find? other).bind _ = (cache.find? other).bind _
    cases found' : cache.find? other with
    | none => rfl
    | some place =>
        have apart : cell ≠ place := by
          rintro rfl
          exact different (sound.apart registered found')
        simp only [Option.bind_some, look?_insert, if_neg apart]

/-- A document that is registered for the first time. -/
theorem place_of_absent (sound : cache.Sound) (absent : cache.desk document = none)
    (loaded : Document) :
    (cache.place document loaded).2.Sound ∧
      (cache.place document loaded).2.desk document =
        some ((cache.place document loaded).1, loaded) ∧
      ∀ other, document ≠ other →
        (cache.place document loaded).2.desk other = cache.desk other := by
  have unregistered := find?_eq_none sound absent
  unfold place
  simp only [unregistered]
  have find : ∀ target, find?
      ⟨cache.cells.insert cache.nextCell (.holding loaded),
        cache.register.insert document cache.nextCell, cache.nextCell + 1⟩ target =
      if document = target then some cache.nextCell else cache.find? target := by
    intro target
    exact Table.get?_insert ..
  refine ⟨⟨?_, ?_⟩, ?_, ?_⟩
  · intro target cell found
    rw [find] at found
    rw [look?_insert]
    split at found
    · cases found
      exact ⟨Nat.lt_succ_self _, loaded, if_pos rfl⟩
    · obtain ⟨bound, held, holds⟩ := sound.held found
      refine ⟨Nat.lt_succ_of_lt bound, held, ?_⟩
      rw [if_neg (Nat.ne_of_gt bound), holds]
  · intro target second cell found shared
    rw [find] at found shared
    split at found <;> split at shared
    · next same equal => exact same.symm.trans equal
    · cases found
      exact absurd (sound.held shared).1 (Nat.lt_irrefl _)
    · cases shared
      exact absurd (sound.held found).1 (Nat.lt_irrefl _)
    · exact sound.apart found shared
  · rw [desk_eq_some_iff, find, look?_insert]
    exact ⟨if_pos rfl, if_pos rfl⟩
  · intro other different
    unfold desk
    rw [find, if_neg different]
    cases found : cache.find? other with
    | none => rfl
    | some cell =>
        simp only [Option.bind_some, look?_insert,
          if_neg (Nat.ne_of_gt (sound.held found).1)]

theorem place_of_desk (found : cache.desk document = some (cell, loaded)) (fresh : Document) :
    cache.place document fresh = (cell, cache) := by
  unfold place
  simp only [(desk_eq_some_iff.mp found).1]

theorem forget_sound (sound : cache.Sound) (document : DocumentId) :
    (cache.forget document).Sound ∧ (cache.forget document).desk document = none ∧
      ∀ other, document ≠ other → (cache.forget document).desk other = cache.desk other := by
  have find : ∀ target, (cache.forget document).find? target =
      if document = target then none else cache.find? target := by
    intro target
    exact Table.get?_erase ..
  refine ⟨⟨?_, ?_⟩, ?_, ?_⟩
  · intro target cell found
    rw [find] at found
    split at found
    · cases found
    · exact sound.held found
  · intro target second cell found shared
    rw [find] at found shared
    split at found <;> split at shared
    · cases found
    · cases found
    · cases shared
    · exact sound.apart found shared
  · unfold desk
    rw [find, if_pos rfl, Option.bind_none]
  · intro other different
    unfold desk
    rw [find, if_neg different]
    rfl

end Cache

namespace Hub

variable {hub : Hub} {document : DocumentId} {call : Section.Call}

/-- A call that a section may make is answered by the rules, and touches nothing but
what is loaded of its document. -/
structure AnswersWell (hub : Hub) (document : DocumentId) (call : Section.Call)
    (answer : call.Answer) (after : Hub) : Prop where
  answered : Section.Answered (hub.cache.desk document) call answer (after.cache.desk document)
  sound : after.cache.Sound
  others : ∀ other, document ≠ other → after.cache.desk other = hub.cache.desk other
  engine : after.engine = hub.engine
  service : after.service = hub.service

theorem answersWell (sound : hub.cache.Sound)
    (may : Section.MayCall document (hub.cache.desk document) call) (now : Instant) :
    hub.AnswersWell document call (hub.answer now call).1 (hub.answer now call).2 := by
  cases call with
  | find target =>
      cases may
      exact ⟨⟨Cache.find?_eq_map_desk sound document, rfl⟩, sound, fun _ _ => rfl, rfl, rfl⟩
  | look cell =>
      obtain ⟨loaded, found⟩ := may
      refine ⟨⟨?_, rfl⟩, sound, fun _ _ => rfl, rfl, rfl⟩
      rw [found]
      exact (Cache.desk_eq_some_iff.mp found).2
  | place target snapshot =>
      cases may
      cases loaded : hub.cache.desk document with
      | none =>
          obtain ⟨sound', here, others⟩ :=
            Cache.place_of_absent sound loaded (.ofSnapshot snapshot now)
          refine ⟨?_, sound', others, rfl, rfl⟩
          rw [loaded]
          exact ⟨now, here⟩
      | some held =>
          obtain ⟨cell, old⟩ := held
          have same : hub.answer now (.place document snapshot) = (cell, hub) := by
            simp only [answer, Cache.place_of_desk loaded]
          rw [same]
          refine ⟨?_, sound, fun _ _ => rfl, rfl, rfl⟩
          rw [loaded]
          exact ⟨rfl, rfl⟩
  | refresh cell snapshot =>
      obtain ⟨loaded, found⟩ := may
      obtain ⟨allowed, sound', here, others⟩ :=
        Cache.revise_of_desk sound found fun _ => .ofSnapshot snapshot now
      exact ⟨⟨allowed, now, here⟩, sound', others, rfl, rfl⟩
  | commit cell content =>
      obtain ⟨loaded, found⟩ := may
      obtain ⟨allowed, sound', here, others⟩ :=
        Cache.revise_of_desk sound found fun document => (document.revise content now).markClean
      exact ⟨⟨allowed, now, loaded, found, here⟩, sound', others, rfl, rfl⟩
  | clean cell =>
      obtain ⟨loaded, found⟩ := may
      obtain ⟨allowed, sound', here, others⟩ := Cache.revise_of_desk sound found .markClean
      exact ⟨⟨allowed, loaded, found, here⟩, sound', others, rfl, rfl⟩
  | poison cell => cases may
  | forget target =>
      cases may
      obtain ⟨sound', here, others⟩ := Cache.forget_sound sound document
      exact ⟨here, sound', others, rfl, rfl⟩
  | sessions target => exact ⟨rfl, sound, fun _ _ => rfl, rfl, rfl⟩

end Hub

end Coedit
