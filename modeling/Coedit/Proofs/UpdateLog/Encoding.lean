import Coedit.Proofs.UpdateLog.Codec

/-!
# Update logs as an encoding

Reading a log undoes writing it and writing undoes reading, so a log has just one list of
records, and content that no records write is corrupt.  The engine that keeps documents as
logs turns down corrupt content and nothing else, and appends one record for each update.
-/

namespace Coedit

namespace Bytes

theorem toNatLE_lt (bytes : Bytes) : toNatLE bytes < 256 ^ bytes.length := by
  induction bytes with
  | nil => exact Nat.one_pos
  | cons byte rest ih =>
      have low := byte.toNat_lt
      rw [toNatLE, List.length_cons, Nat.pow_succ]
      omega

theorem ofNatLE_toNatLE (bytes : Bytes) : ofNatLE bytes.length (toNatLE bytes) = bytes := by
  induction bytes with
  | nil => rfl
  | cons byte rest ih =>
      have low := byte.toNat_lt
      have first : UInt8.ofNat (byte.toNat + 256 * toNatLE rest) = byte := by
        rw [← UInt8.toNat_inj, UInt8.toNat_ofNat']
        omega
      have others : (byte.toNat + 256 * toNatLE rest) / 256 = toNatLE rest := by omega
      rw [toNatLE, List.length_cons, ofNatLE, first, others, ih]

end Bytes

namespace UpdateLog

variable {content update rest : Bytes} {found updates : List Bytes}

/-! ## One reading -/

/-- Whether some content is the log with these records. -/
def Writes (found : List Bytes) (content : Bytes) : Prop :=
  content = encode found ∧ ∀ update ∈ found, update.length < UInt32.size

/-- Four bytes and as many as they say are one record. -/
theorem encodeRecord_take {b0 b1 b2 b3 : UInt8}
    (fits : Bytes.toNatLE [b0, b1, b2, b3] ≤ rest.length) :
    encodeRecord (rest.take (Bytes.toNatLE [b0, b1, b2, b3])) =
      b0 :: b1 :: b2 :: b3 :: rest.take (Bytes.toNatLE [b0, b1, b2, b3]) := by
  have size : Bytes.ofNatLE 4 (Bytes.toNatLE [b0, b1, b2, b3]) = [b0, b1, b2, b3] :=
    Bytes.ofNatLE_toNatLE [b0, b1, b2, b3]
  rw [encodeRecord, List.length_take_of_le fits, size]
  rfl

/-- What is read writes just what was read. -/
theorem writes_of_records (read : records content = .ok found) : Writes found content := by
  fun_induction records content generalizing found with
  | case1 =>
      cases read
      exact ⟨rfl, List.forall_mem_nil _⟩
  | case2 b0 b1 b2 b3 rest size fits later inner =>
      rename_i ih
      cases read
      obtain ⟨written, short⟩ := ih inner
      have first : (rest.take size).length < UInt32.size := by
        have bound := Bytes.toNatLE_lt [b0, b1, b2, b3]
        rw [show [b0, b1, b2, b3].length = 4 from rfl] at bound
        rw [List.length_take_of_le fits]
        simpa using bound
      constructor
      · calc b0 :: b1 :: b2 :: b3 :: rest
          _ = b0 :: b1 :: b2 :: b3 :: rest.take size ++ rest.drop size := by
            rw [List.cons_append, List.cons_append, List.cons_append, List.cons_append,
              List.take_append_drop]
          _ = encodeRecord (rest.take size) ++ encode later := by
            rw [encodeRecord_take fits, written]
          _ = encode (rest.take size :: later) := rfl
      · intro update member
        rcases List.mem_cons.mp member with rfl | inner
        · exact first
        · exact short update inner
  | case3 => cases read
  | case4 => cases read
  | case5 => cases read

/-- Records that are followed by something are read, and then what follows them. -/
theorem records_encode_append (short : ∀ update ∈ updates, update.length < UInt32.size)
    (rest : Bytes) :
    records (encode updates ++ rest) =
      match records rest with
      | .ok later => .ok (updates ++ later)
      | .error fault => .error fault := by
  induction updates with
  | nil =>
      rw [show encode [] ++ rest = rest from rfl]
      cases records rest <;> rfl
  | cons update updates ih =>
      have onwards := ih fun other member => short other (List.mem_cons_of_mem update member)
      have first := short update List.mem_cons_self
      rw [show encode (update :: updates) = encodeRecord update ++ encode updates from rfl,
        List.append_assoc, records_record_append first, onwards]
      cases records rest <;> rfl

theorem records_of_writes (writes : Writes found content) : records content = .ok found := by
  obtain ⟨rfl, short⟩ := writes
  have read := records_encode_append short []
  rw [List.append_nil] at read
  rw [read, records]
  exact congrArg Except.ok (List.append_nil found)

theorem writes_nil : Writes [] [] := by
  constructor
  · rfl
  · nofun

theorem updates_eq_ok_iff : UpdateLog.updates content = .ok found ↔ Writes found content := by
  unfold UpdateLog.updates
  constructor
  · intro read
    cases inner : records content with
    | ok later =>
        rw [inner] at read
        cases read
        exact writes_of_records inner
    | error fault =>
        rw [inner] at read
        cases read
  · intro writes
    rw [records_of_writes writes]

/-! ## Corrupt content -/

/-- Whether a result is that a document is corrupt. -/
def IsCorrupt {α : Type} (result : Except MergeError α) : Prop :=
  ∃ detail, result = .error (.corruptDocument detail)

theorem isCorrupt_iff : IsCorrupt (UpdateLog.updates content) ↔ ¬ ∃ found, Writes found content := by
  constructor
  · rintro ⟨detail, corrupt⟩ ⟨found, writes⟩
    rw [updates_eq_ok_iff.mpr writes] at corrupt
    cases corrupt
  · intro unwritten
    cases read : records content with
    | ok found => exact absurd ⟨found, writes_of_records read⟩ unwritten
    | error fault => exact ⟨fault.message, by rw [UpdateLog.updates, read]⟩

/-- Up to a record boundary a log is a log. -/
theorem take_encode (found : List Bytes) (count : Nat) :
    (encode found).take (encode (found.take count)).length = encode (found.take count) := by
  have whole : encode (found.take count) ++ encode (found.drop count) = encode found := by
    rw [← encode_append, List.take_append_drop]
  rw [← whole, List.take_left]

/-- A log that is cut off is a log just if it is cut at a record boundary. -/
theorem writes_take_iff (writes : Writes found content) {cut : Nat} (within : cut ≤ content.length) :
    (∃ kept, Writes kept (content.take cut)) ↔
      ∃ count, cut = (encode (found.take count)).length := by
  obtain ⟨rfl, short⟩ := writes
  constructor
  · rintro ⟨kept, equal, shortKept⟩
    have whole : encode kept ++ (encode found).drop cut = encode found := by
      rw [← equal, List.take_append_drop]
    have read := records_encode_append shortKept ((encode found).drop cut)
    rw [whole, records_of_writes ⟨rfl, short⟩] at read
    cases after : records ((encode found).drop cut) with
    | error fault =>
        rw [after] at read
        cases read
    | ok later =>
        rw [after] at read
        have split : found = kept ++ later := Except.ok.inj read
        refine ⟨kept.length, ?_⟩
        rw [split, List.take_left, ← equal, split, List.length_take_of_le (split ▸ within)]
  · rintro ⟨count, rfl⟩
    refine ⟨found.take count, take_encode found count, ?_⟩
    intro update member
    exact short update (List.mem_of_mem_take member)

/-! ## The engine -/

/-- Merge updates one after the other. -/
def mergeAll (engine : Engine) (content : Bytes) : List Bytes → Option Bytes
  | [] => some content
  | update :: later =>
      match engine.apply content update with
      | .merged outcome => mergeAll engine outcome.content later
      | _ => none

/-- How the engine treats content and an update, given what is read in the content. -/
def Treats (content vector update : Bytes) : Except MergeError (List Bytes) → Prop
  | .error error =>
      engine.diff content vector = .error error ∧ engine.apply content update = .refused error
  | .ok found =>
      engine.diff content vector = .ok content ∧
        ∃ outcome, engine.apply content update = .merged outcome ∧
          (update = [] → outcome = ⟨content, none⟩) ∧
          (update ≠ [] → UpdateLog.updates outcome.content = .ok (found ++ [update]) ∧
            content <+: outcome.content ∧ outcome.broadcast = some update)

theorem apply_of_writes (writes : Writes found content) (short : update.length < UInt32.size) :
    engine.apply content update =
      .merged (if update = [] then ⟨content, none⟩
        else ⟨content ++ encodeRecord update, some update⟩) := by
  have read := updates_eq_ok_iff.mpr writes
  simp only [engine, append, read]
  cases update with
  | nil => rfl
  | cons byte rest => rw [if_neg (by simp), if_pos short, if_neg (List.cons_ne_nil byte rest)]

theorem Writes.snoc (writes : Writes found content) (short : update.length < UInt32.size) :
    Writes (found ++ [update]) (content ++ encodeRecord update) := by
  obtain ⟨rfl, shorts⟩ := writes
  constructor
  · rw [encode_append, encode_singleton]
  · intro other member
    rcases List.mem_append.mp member with before | last
    · exact shorts other before
    · rw [List.mem_singleton.mp last]
      exact short

theorem treats (content vector : Bytes) (short : update.length < UInt32.size) :
    Treats content vector update (UpdateLog.updates content) := by
  cases read : UpdateLog.updates content with
  | error error =>
      refine ⟨?_, ?_⟩
      · simp [engine, diff, read]
      · simp [engine, append, read]
  | ok found =>
      have writes := updates_eq_ok_iff.mp read
      refine ⟨by simp [engine, diff, read], _, apply_of_writes writes short, ?_, ?_⟩
      · intro empty
        rw [if_pos empty]
      · intro full
        rw [if_neg full]
        exact ⟨updates_eq_ok_iff.mpr (writes.snoc short), List.prefix_append .., rfl⟩

/-- Updates that are merged one after the other are the records that follow. -/
theorem mergeAll_eq (writes : Writes found content)
    (full : ∀ update ∈ updates, update ≠ [] ∧ update.length < UInt32.size) :
    ∃ merged, mergeAll engine content updates = some merged ∧
      Writes (found ++ updates) merged := by
  induction updates generalizing content found with
  | nil =>
      rw [List.append_nil]
      exact ⟨content, rfl, writes⟩
  | cons update updates ih =>
      obtain ⟨filled, short⟩ := full update List.mem_cons_self
      obtain ⟨merged, rest, written⟩ := ih (writes.snoc short) fun other member =>
        full other (List.mem_cons_of_mem update member)
      rw [List.append_assoc, List.singleton_append] at written
      refine ⟨merged, ?_, written⟩
      rw [mergeAll, apply_of_writes writes short, if_neg filled]
      exact rest

/-- A log is an exact encoding of its records: it is read as `found` just if it is what
`found` writes, and it is corrupt just if no records write it; so is a log that is cut off
just if it is cut within a record.  The engine turns down what is corrupt, answers with
all of the rest, and appends what is not empty, so that updates merged from the start on
are the records of the document. -/
theorem exact_encoding (content : Bytes) :
    (∀ found, UpdateLog.updates content = .ok found ↔
      content = encode found ∧ ∀ update ∈ found, update.length < UInt32.size) ∧
    (IsCorrupt (UpdateLog.updates content) ↔
      ¬ ∃ found, content = encode found ∧ ∀ update ∈ found, update.length < UInt32.size) ∧
    (∀ found cut, UpdateLog.updates content = .ok found → cut ≤ content.length →
      (IsCorrupt (UpdateLog.updates (content.take cut)) ↔
        ∀ count, cut ≠ (encode (found.take count)).length)) ∧
    (∀ vector update, update.length < UInt32.size →
      Treats content vector update (UpdateLog.updates content)) ∧
    ∀ sent : List Bytes, (∀ update ∈ sent, update ≠ [] ∧ update.length < UInt32.size) →
      ∃ merged, mergeAll engine [] sent = some merged ∧
        UpdateLog.updates merged = .ok sent := by
  refine ⟨fun found => updates_eq_ok_iff, isCorrupt_iff, ?_,
    fun vector update => treats content vector, ?_⟩
  · intro found cut read within
    have writes := updates_eq_ok_iff.mp read
    rw [isCorrupt_iff, writes_take_iff writes within, not_exists]
  · intro sent full
    obtain ⟨merged, folded, written⟩ := mergeAll_eq writes_nil full
    exact ⟨merged, folded, updates_eq_ok_iff.mpr written⟩

/-- An empty record and one of two bytes: the log is corrupt when its last byte is missing,
and an update of one byte is appended to it. -/
theorem exact_encoding_empty_record :
    (UpdateLog.updates [0, 0, 0, 0, 2, 0, 0, 0, 7, 8] = .ok [[], [7, 8]] ∧
      IsCorrupt (UpdateLog.updates ([0, 0, 0, 0, 2, 0, 0, 0, 7, 8].take 9))) ∧
    (([5] : Bytes).length < UInt32.size ∧
      Treats [0, 0, 0, 0, 2, 0, 0, 0, 7, 8] [1] [5] (.ok [[], [7, 8]])) ∧
    ∃ merged, mergeAll engine [] [[1], [2, 3]] = some merged ∧
      UpdateLog.updates merged = .ok [[1], [2, 3]] := by
  obtain ⟨reads, -, cuts, treated, folds⟩ := exact_encoding [0, 0, 0, 0, 2, 0, 0, 0, 7, 8]
  have read := (reads [[], [7, 8]]).mpr (by decide)
  have apart (count : Nat) : 9 ≠ (encode ([[], [7, 8]].take count)).length := by
    match count with
    | 0 => decide
    | 1 => decide
    | count + 2 =>
        rw [List.take_of_length_le (by simp)]
        decide
  refine ⟨⟨read, (cuts [[], [7, 8]] 9 read (by decide)).mpr apart⟩, ⟨by decide, ?_⟩,
    folds [[1], [2, 3]] (by decide)⟩
  rw [← read]
  exact treated [1] [5] (by decide)

end UpdateLog

end Coedit
