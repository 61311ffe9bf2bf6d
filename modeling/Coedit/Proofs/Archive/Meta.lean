import Coedit.Archive.Files
import Coedit.Proofs.Json.Reader
import Coedit.Proofs.Timestamp.Reading

/-!
# The version file is read back

What a save writes beside the content says which version was saved and when, so a later
load finds that version, whoever wrote it.
-/

namespace Coedit.Archive.Files.Meta

theorem isPlainText_render (instant : Instant) : Json.IsPlainText (Timestamp.render instant) := by
  intro char mem
  obtain ⟨low, high⟩ := Timestamp.isMark_of_mem_render mem
  have : '+'.toNat = 0x2b := rfl
  have : 'Z'.toNat = 0x5a := rfl
  refine ⟨by omega, by omega, ?_, ?_⟩
  · intro quote
    have : '"'.toNat = 0x22 := rfl
    rw [quote] at low
    omega
  · intro slash
    have : '\\'.toNat = 0x5c := rfl
    rw [slash] at high
    omega

/-- The two members of the file. -/
def members (version : Nat) (savedAt : Instant) : List Json.Member :=
  [⟨"version", toString version, .number (toString version)⟩,
    ⟨"saved_at", Json.renderText (Timestamp.render savedAt),
      .text (some (Timestamp.render savedAt))⟩]

theorem isPlain_of_mem_members {version : Nat} {savedAt : Instant} {member : Json.Member}
    (mem : member ∈ members version savedAt) : member.IsPlain := by
  rw [members, List.mem_cons, List.mem_singleton] at mem
  cases mem with
  | inl first =>
      rw [first]
      exact ⟨(by decide : Json.IsPlainText "version"), Json.prints_number version⟩
  | inr second =>
      rw [second]
      exact ⟨(by decide : Json.IsPlainText "saved_at"),
        Json.prints_text (isPlainText_render savedAt)⟩

/-- A file written for a version says that version. -/
theorem ofBytes?_render {version : Nat} {savedAt : Instant} (fits : version < versionBound)
    (within : Timestamp.InCalendar savedAt) :
    ofBytes? (Bytes.ofText (render version savedAt)) =
      some ⟨version, (savedAt.nanos / 1000000000 : Nat)⟩ := by
  have plain : ∀ member ∈ members version savedAt, member.IsPlain :=
    fun _ => isPlain_of_mem_members
  have filled : members version savedAt ≠ [] := List.cons_ne_nil _ _
  have record := Json.ofBytes?_renderMembers filled plain
  have fields : (Json.Value.object ((members version savedAt).map Json.Member.content)).fields?
      ["version", "saved_at"] = some [.number (toString version),
        .text (some (Timestamp.render savedAt))] := by
    simp [members, Json.Member.content, Json.Value.fields?]
  have number := Json.integer?_number version
  have moment := Timestamp.parse?_render within
  have bounds : (decide (0 ≤ (version : Int)) && decide ((version : Int) < versionBound)) = true := by
    simp
    exact fits
  have written : render version savedAt = Json.renderMembers
      ((members version savedAt).map fun member => (member.name, member.shown)) := rfl
  rw [ofBytes?, written, record, Option.bind_eq_bind, Option.bind_some, fields]
  dsimp only
  rw [number, Option.bind_eq_bind, Option.bind_some, Timestamp.guard_of bounds,
    Option.bind_eq_bind, Option.bind_some, Json.Value.text?, Option.bind_eq_bind, Option.bind_some,
    moment, Option.bind_some, Int.toNat_natCast]
  rfl

end Coedit.Archive.Files.Meta
