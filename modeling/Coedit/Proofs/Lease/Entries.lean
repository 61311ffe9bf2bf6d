import Coedit.Lease.Files
import Coedit.Proofs.Disk.Reading
import Coedit.Proofs.Json.Texts
import Mathlib.Algebra.Group.Int.Defs
import Mathlib.Algebra.Group.Nat.Defs

/-!
# Lease files

How lease files are named and what is read from them.  The lock file, the drafts and the
lease files have different names, those of different keys as well if their digests differ,
and every lease whose end the file can hold is read back as it was written.
-/

namespace Coedit

namespace Bytes

theorem utf8ByteSize_eq (text : String) : text.utf8ByteSize = (ofText text).length := by
  simp [ofText]

/-! ## Hexadecimal text -/

/-- The two digits of a byte. -/
def digits (byte : UInt8) : List Char := [hexDigit (byte.toNat / 16), hexDigit byte.toNat]

theorem toHex_eq (bytes : Bytes) : toHex bytes = String.ofList (bytes.flatMap digits) := rfl

theorem length_flatMap_digits (bytes : Bytes) :
    (bytes.flatMap digits).length = 2 * bytes.length := by
  induction bytes with
  | nil => rfl
  | cons byte bytes ih =>
      rw [List.flatMap_cons, List.length_append, ih, List.length_cons]
      simp only [digits, List.length_cons, List.length_nil]
      omega

theorem hexDigit_inj {number other : Nat} (same : hexDigit number = hexDigit other) :
    number % 16 = other % 16 := by
  have every : ∀ low low' : Fin 16, Nat.digitChar low = Nat.digitChar low' → low = low' := by
    decide
  have equal := every ⟨number % 16, Nat.mod_lt _ (by decide)⟩ ⟨other % 16, Nat.mod_lt _ (by decide)⟩
    same
  exact congrArg Fin.val equal

theorem toHex_injective : Function.Injective toHex := by
  intro bytes others same
  rw [toHex_eq, toHex_eq, ← String.toList_inj, String.toList_ofList, String.toList_ofList] at same
  induction bytes generalizing others with
  | nil =>
      cases others with
      | nil => rfl
      | cons byte others => cases same
  | cons byte bytes ih =>
      cases others with
      | nil => cases same
      | cons byte' others =>
          simp only [List.flatMap_cons, digits, List.cons_append, List.nil_append,
            List.cons.injEq] at same
          obtain ⟨high, low, rest⟩ := same
          have := hexDigit_inj high
          have := hexDigit_inj low
          have := byte.toNat_lt
          have := byte'.toNat_lt
          have first : byte = byte' := UInt8.toNat_inj.mp (by omega)
          rw [first, ih rest]

/-- Digits are plain characters of one byte each. -/
theorem narrow_of_mem_digits {byte : UInt8} {char : Char} (mem : char ∈ digits byte) :
    char.toNat < 0x80 ∧ char ≠ '\x00' := by
  have every : ∀ low : Fin 16, (Nat.digitChar low).toNat < 0x80 ∧ Nat.digitChar low ≠ '\x00' := by
    decide
  simp only [digits, List.mem_cons, List.not_mem_nil, or_false] at mem
  rcases mem with rfl | rfl
  · exact every ⟨byte.toNat / 16 % 16, Nat.mod_lt _ (by decide)⟩
  · exact every ⟨byte.toNat % 16, Nat.mod_lt _ (by decide)⟩

end Bytes

theorem Digest.length_sha256 (message : Bytes) : (Digest.sha256 message).length = 32 := by
  simp [Digest.sha256]

namespace Lease.Files

variable {key other : String}

/-! ## Names -/

/-- The characters of the name of a lease file. -/
theorem toList_entryName (key : String) :
    (entryName key).toList =
      (Digest.sha256 (Bytes.ofText key)).flatMap Bytes.digits ++ ".json".toList := by
  rw [entryName, Bytes.toHex_eq, String.toList_append, String.toList_ofList]

theorem length_entryName (key : String) : (entryName key).toList.length = 69 := by
  rw [toList_entryName, List.length_append, Bytes.length_flatMap_digits, Digest.length_sha256]
  rfl

/-- A draft is called like its lease file, with one more ending. -/
theorem draftName_eq (key : String) : draftName key = entryName key ++ ".tmp" := by
  have parts : entryName key =
      Bytes.toHex (Digest.sha256 (Bytes.ofText key)) ++ "." ++ "json" := by
    rw [entryName, String.append_assoc]
    rfl
  have named : Bytes.toHex (Digest.sha256 (Bytes.ofText key)) ≠ "" := by
    intro blank
    have letters := congrArg (·.toList.length) blank
    rw [Bytes.toHex_eq, String.toList_ofList, Bytes.length_flatMap_digits,
      Digest.length_sha256] at letters
    cases letters
  rw [draftName, FileName.withExtension, parts, FileName.stem_append named (by decide)]
  simp only [String.append_assoc]
  rfl

theorem length_draftName (key : String) : (draftName key).toList.length = 73 := by
  rw [draftName_eq, String.toList_append, List.length_append, length_entryName]
  rfl

theorem narrow_of_all {text : String} {char : Char}
    (narrow : text.toList.all fun char => decide (char.toNat < 0x80 ∧ char ≠ '\x00'))
    (mem : char ∈ text.toList) : char.toNat < 0x80 ∧ char ≠ '\x00' :=
  of_decide_eq_true (List.all_eq_true.mp narrow char mem)

theorem narrow_of_mem_entryName {char : Char} (mem : char ∈ (entryName key).toList) :
    char.toNat < 0x80 ∧ char ≠ '\x00' := by
  rw [toList_entryName, List.mem_append, List.mem_flatMap] at mem
  rcases mem with ⟨byte, -, digit⟩ | ending
  · exact Bytes.narrow_of_mem_digits digit
  · exact narrow_of_all (by decide) ending

theorem narrow_of_mem_draftName {char : Char} (mem : char ∈ (draftName key).toList) :
    char.toNat < 0x80 ∧ char ≠ '\x00' := by
  rw [draftName_eq, String.toList_append, List.mem_append] at mem
  rcases mem with stem | ending
  · exact narrow_of_mem_entryName stem
  · exact narrow_of_all (by decide) ending

/-- A short name of narrow characters is proper. -/
theorem nameError?_of_narrow {name : String}
    (narrow : ∀ char ∈ name.toList, char.toNat < 0x80 ∧ char ≠ '\x00')
    (short : name.toList.length ≤ Disk.maxName) : Disk.nameError? name = none := by
  rw [Disk.nameError?_eq_none]
  constructor
  · intro mem
    exact (narrow '\x00' mem).2 rfl
  · have size := Bytes.ofText_ofList fun char mem => (narrow char mem).1
    rw [String.ofList_toList] at size
    rw [Bytes.utf8ByteSize_eq, size, List.length_map]
    exact short

theorem nameError?_entryName (key : String) : Disk.nameError? (entryName key) = none :=
  nameError?_of_narrow (fun _ => narrow_of_mem_entryName)
    (by rw [length_entryName]; decide)

theorem nameError?_draftName (key : String) : Disk.nameError? (draftName key) = none :=
  nameError?_of_narrow (fun _ => narrow_of_mem_draftName)
    (by rw [length_draftName]; decide)

theorem nameError?_lockName : Disk.nameError? lockName = none := by decide

/-- Names of different lengths are different. -/
theorem ne_of_length {name name' : String} (apart : name.toList.length ≠ name'.toList.length) :
    name ≠ name' := by
  rintro rfl
  exact apart rfl

theorem entryName_ne_lockName : entryName key ≠ lockName :=
  ne_of_length (by rw [length_entryName]; decide)

theorem draftName_ne_lockName : draftName key ≠ lockName :=
  ne_of_length (by rw [length_draftName]; decide)

theorem entryName_ne_draftName : entryName key ≠ draftName other :=
  ne_of_length (by rw [length_entryName, length_draftName]; decide)

/-- Whether the digest tells these keys apart. -/
def TellsApart (keys : Set String) : Prop :=
  ∀ key ∈ keys, ∀ other ∈ keys,
    Digest.sha256 (Bytes.ofText key) = Digest.sha256 (Bytes.ofText other) → key = other

theorem TellsApart.entryName_inj {keys : Set String} (apart : TellsApart keys)
    (used : key ∈ keys) (used' : other ∈ keys) (same : entryName key = entryName other) :
    key = other := by
  refine apart key used other used' (Bytes.toHex_injective ?_)
  rw [← String.toList_inj, toList_entryName, toList_entryName, List.append_left_inj] at same
  rw [Bytes.toHex_eq, Bytes.toHex_eq, same]

/-! ## Numbers -/

theorem wrapStored_bounds (number : Int) :
    minStored ≤ wrapStored number ∧ wrapStored number ≤ maxStored := by
  have size : (UInt64.size : Int) = 18446744073709551616 := rfl
  unfold wrapStored minStored maxStored Int.bmod
  rw [size]
  dsimp only
  split <;> omega

theorem wrapStored_of_fits {number : Int} (low : minStored ≤ number) (high : number ≤ maxStored) :
    wrapStored number = number := by
  have size : (UInt64.size : Int) = 18446744073709551616 := rfl
  unfold minStored at low
  unfold maxStored at high
  unfold wrapStored Int.bmod
  rw [size]
  dsimp only
  split <;> omega

/-- A length of time comes back as it was asked for only below half of what the bits can
tell; from there on it counts as negative. -/
theorem wrapStored_natCast (number : Nat) :
    wrapStored number =
      if number % 2 ^ 64 < 2 ^ 63 then ((number % 2 ^ 64 : Nat) : Int)
      else ((number % 2 ^ 64 : Nat) : Int) - 2 ^ 64 := by
  have size : (UInt64.size : Int) = 18446744073709551616 := rfl
  unfold wrapStored Int.bmod
  rw [size]
  dsimp only
  split <;> split <;> omega

/-- What is added before a number is stored can be taken away afterwards. -/
theorem wrapStored_sub_cancel (number offset : Int) :
    wrapStored (wrapStored (offset + number) - offset) = wrapStored number := by
  have size : (UInt64.size : Int) = 18446744073709551616 := rfl
  unfold wrapStored Int.bmod
  rw [size]
  dsimp only
  split <;> split <;> split <;> omega

theorem wrapStored_idem (number : Int) : wrapStored (wrapStored number) = wrapStored number :=
  wrapStored_of_fits (wrapStored_bounds number).1 (wrapStored_bounds number).2

/-! ## Lease files -/

namespace Entry

/-- Whether the file can hold the end of a lease. -/
def Fits (entry : Entry) : Prop :=
  minStored ≤ entry.endsAtMillis ∧ entry.endsAtMillis ≤ maxStored

theorem fits_start (token : String) (now : Instant) (ttl : Duration) :
    (start token now ttl).Fits := by
  have bounds := wrapStored_bounds ((now.millis : Int) + wrapStored (ttl.millis : Int))
  simp only [Fits, start]
  exact bounds

/-- As it is entered, a lease has the milliseconds left that its length comes back as. -/
theorem millisLeft?_start (token : String) (now : Instant) (ttl : Duration) :
    (start token now ttl).millisLeft? now.millis =
      if 0 < wrapStored (ttl.millis : Int) then some (wrapStored (ttl.millis : Int)).toNat
      else none := by
  have left : wrapStored (wrapStored ((now.millis : Int) + wrapStored (ttl.millis : Int)) -
      now.millis) = wrapStored (ttl.millis : Int) := by
    rw [wrapStored_sub_cancel, wrapStored_idem]
  simp only [millisLeft?, start, left]

/-- The two members of the file. -/
def members (entry : Entry) : List Json.Member :=
  [⟨"value", Json.renderText entry.token, .text (some entry.token)⟩,
    ⟨"expires_at_ms", toString entry.endsAtMillis, .number (toString entry.endsAtMillis)⟩]

theorem isPlain_of_mem_members {entry : Entry} {member : Json.Member}
    (mem : member ∈ entry.members) : member.IsPlain := by
  rw [members, List.mem_cons, List.mem_singleton] at mem
  rcases mem with rfl | rfl
  · exact ⟨(by decide : Json.IsPlainText "value"), Json.prints_renderText entry.token⟩
  · exact ⟨(by decide : Json.IsPlainText "expires_at_ms"), Json.prints_integer entry.endsAtMillis⟩

/-- A lease that is written is read back. -/
theorem ofBytes?_render {entry : Entry} (fits : entry.Fits) :
    ofBytes? (Bytes.ofText entry.render) = some entry := by
  have filled : entry.members ≠ [] := List.cons_ne_nil _ _
  have record := Json.ofBytes?_renderMembers filled fun _ => isPlain_of_mem_members
  have fields : (Json.Value.object (entry.members.map Json.Member.content)).fields?
      ["value", "expires_at_ms"] = some [.text (some entry.token),
        .number (toString entry.endsAtMillis)] := by
    simp [members, Json.Member.content, Json.Value.fields?]
  have number := Json.integer?_integer entry.endsAtMillis
  have bounds : (decide (minStored ≤ entry.endsAtMillis) &&
      decide (entry.endsAtMillis ≤ maxStored)) = true := by
    simpa [Fits] using fits
  have written : entry.render = Json.renderMembers
      (entry.members.map fun member => (member.name, member.shown)) := rfl
  rw [ofBytes?, written, record, Option.bind_eq_bind, Option.bind_some, fields]
  dsimp only
  rw [Json.Value.text?, Option.bind_eq_bind, Option.bind_some, number, Option.bind_eq_bind,
    Option.bind_some]
  simp [bounds, guard]

end Entry

end Lease.Files

end Coedit
