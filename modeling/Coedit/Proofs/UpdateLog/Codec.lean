import Coedit.UpdateLog
import Mathlib.Algebra.Group.Nat.Defs

/-!
# Reading update logs

A log that is read gives back the records it was written with, and appending a record
to content that can be read appends it to what is read.
-/

namespace Coedit

namespace Bytes

theorem toNatLE_ofNatLE (width number : Nat) :
    toNatLE (ofNatLE width number) = number % 256 ^ width := by
  induction width generalizing number with
  | zero => simp [ofNatLE, toNatLE, Nat.mod_one]
  | succ width ih =>
      have low : (UInt8.ofNat number).toNat = number % 256 := by simp
      rw [ofNatLE, toNatLE, ih, low, Nat.pow_succ, Nat.mul_comm (256 ^ width) 256,
        Nat.mod_mul]

end Bytes

namespace UpdateLog

variable {content update vector lacking : Bytes} {found updates : List Bytes} {outcome : Merged}

theorem records_record_append (short : update.length < UInt32.size) (rest : Bytes) :
    records (encodeRecord update ++ rest) =
      match records rest with
      | .ok later => .ok (update :: later)
      | .error fault => .error fault := by
  have size : Bytes.toNatLE (Bytes.ofNatLE 4 update.length) = update.length := by
    rw [Bytes.toNatLE_ofNatLE]
    exact Nat.mod_eq_of_lt (by simpa using short)
  have four : ∃ b0 b1 b2 b3, Bytes.ofNatLE 4 update.length = [b0, b1, b2, b3] :=
    ⟨_, _, _, _, rfl⟩
  obtain ⟨b0, b1, b2, b3, four⟩ := four
  rw [four] at size
  rw [encodeRecord, four, List.append_assoc]
  simp only [List.cons_append, List.nil_append]
  rw [records]
  cases parsed : records rest with
  | ok later =>
      simp only [size, List.length_append, Nat.le_add_right, if_true, List.drop_left,
        List.take_left, parsed]
  | error fault =>
      simp only [size, List.length_append, Nat.le_add_right, if_true, List.drop_left, parsed]

theorem records_append_record (parsed : records content = .ok found)
    (short : update.length < UInt32.size) :
    records (content ++ encodeRecord update) = .ok (found ++ [update]) := by
  fun_induction records content generalizing found with
  | case1 =>
      cases parsed
      have read := records_record_append short []
      rw [List.append_nil] at read
      rw [List.nil_append, read, records]
      rfl
  | case2 b0 b1 b2 b3 rest size fits later read =>
      rename_i ih
      cases parsed
      have whole : size ≤ (rest ++ encodeRecord update).length := by
        rw [List.length_append]
        exact Nat.le_add_right_of_le fits
      have onwards := ih read
      rw [← List.drop_append_of_le_length fits] at onwards
      simp only [List.cons_append]
      rw [records]
      simp only [show Bytes.toNatLE [b0, b1, b2, b3] = size from rfl, if_pos whole, onwards,
        List.take_append_of_le_length fits]
  | case3 => cases parsed
  | case4 => cases parsed
  | case5 => cases parsed

/-- Content that is extended by records is read as it was and then those records. -/
theorem records_append_encode (parsed : records content = .ok found)
    (short : ∀ update ∈ updates, update.length < UInt32.size) :
    records (content ++ encode updates) = .ok (found ++ updates) := by
  induction updates generalizing content found with
  | nil => simpa [encode] using parsed
  | cons update updates ih =>
      have first := records_append_record parsed (short update (List.mem_cons_self ..))
      have rest := ih first fun update member => short update (List.mem_cons_of_mem _ member)
      simpa [encode] using rest

theorem encode_append (earlier later : List Bytes) :
    encode (earlier ++ later) = encode earlier ++ encode later :=
  List.flatMap_append ..

theorem encode_singleton (update : Bytes) : encode [update] = encodeRecord update := by
  simp [encode]

/-! ## What the engine does -/

/-- An update is appended, or dropped if it is empty. -/
theorem append_eq_ok (merged : append content update = .ok outcome) :
    update = [] ∧ outcome = ⟨content, none⟩ ∨
      update ≠ [] ∧ update.length < UInt32.size ∧
        outcome = ⟨content ++ encodeRecord update, some update⟩ := by
  unfold append at merged
  split at merged
  · cases merged
  · split at merged
    · next empty =>
        cases merged
        exact .inl ⟨List.isEmpty_iff.mp empty, rfl⟩
    · next full =>
        split at merged
        · next short =>
            cases merged
            exact .inr ⟨by simpa using full, short, rfl⟩
        · cases merged

/-- Nothing is merged into what is not a log. -/
theorem records_of_append (merged : append content update = .ok outcome) :
    ∃ found, records content = .ok found := by
  unfold append UpdateLog.updates at merged
  cases parsed : records content with
  | ok found => exact ⟨found, rfl⟩
  | error fault =>
      rw [parsed] at merged
      cases merged

theorem engine_merged (merged : engine.apply content update = .merged outcome) :
    append content update = .ok outcome := by
  simp only [engine] at merged
  split at merged
  · next equal =>
      cases merged
      exact equal
  · cases merged

theorem engine_diff (answered : engine.diff content vector = .ok lacking) :
    lacking = content := by
  simp only [engine, diff] at answered
  split at answered
  · cases answered
    rfl
  · cases answered

end UpdateLog

end Coedit
