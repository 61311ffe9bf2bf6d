import Coedit.Frame
import Mathlib.Logic.Function.Basic

/-!
# The grammar of frames

A frame is spelt in one way only, and every byte string either spells a frame or is refused
for one reason.  `Spelling` is the grammar as a relation, and decoding follows it.
-/

namespace Coedit

namespace SyncStep

variable {step : SyncStep} {byte : UInt8}

theorem toByte_le (step : SyncStep) : step.toByte ≤ 2 := by
  cases step with
  | request => decide
  | answer => decide
  | update => decide

@[simp] theorem ofByte?_toByte (step : SyncStep) : ofByte? step.toByte = .ok step := by
  cases step with
  | request => rfl
  | answer => rfl
  | update => rfl

/-- A byte that names no step is refused. -/
theorem ofByte?_of_high (high : 2 < byte) : ofByte? byte = .error (.unknownStep byte) := by
  have first : byte ≠ 0 := by grind
  have second : byte ≠ 1 := by grind
  have third : byte ≠ 2 := by grind
  rw [ofByte?, if_neg first, if_neg second, if_neg third]

/-- Every other byte is the byte of a step. -/
theorem exists_toByte (low : byte ≤ 2) : ∃ step : SyncStep, step.toByte = byte := by
  have known : byte = 0 ∨ byte = 1 ∨ byte = 2 := by grind
  rcases known with rfl | rfl | rfl
  · exact ⟨.request, rfl⟩
  · exact ⟨.answer, rfl⟩
  · exact ⟨.update, rfl⟩

end SyncStep

namespace Frame

variable {bytes payload : Bytes} {byte : UInt8} {frame : Frame}
  {result : Except FrameError Frame}

/-! ## The grammar -/

/-- The byte strings that are frames: one byte for the kind, for a sync frame one for the
step, and any payload. -/
inductive IsLegal : Bytes → Prop where
  | sync {step : UInt8} (payload : Bytes) (known : step ≤ 2) : IsLegal ([0, step] ++ payload)
  | plain {kind : UInt8} (payload : Bytes) (least : 1 ≤ kind) (greatest : kind ≤ 3) :
      IsLegal ([kind] ++ payload)

/-- What byte strings are read as. -/
inductive Spelling : Bytes → Except FrameError Frame → Prop where
  | frame (frame : Frame) : Spelling frame.encode (.ok frame)
  | empty : Spelling [] (.error .empty)
  | unknownKind {byte : UInt8} (rest : Bytes) (high : 3 < byte) :
      Spelling (byte :: rest) (.error (.unknownKind byte))
  | missingStep : Spelling [0] (.error .missingStep)
  | unknownStep {byte : UInt8} (payload : Bytes) (high : 2 < byte) :
      Spelling (0 :: byte :: payload) (.error (.unknownStep byte))

/-! ## Decoding -/

theorem decode_encode (frame : Frame) : decode frame.encode = .ok frame := by
  obtain ⟨kind, payload⟩ := frame
  cases kind with
  | sync step =>
      cases step with
      | request => rfl
      | answer => rfl
      | update => rfl
  | awareness => rfl
  | auth => rfl
  | query => rfl

theorem decode_of_unknownKind (rest : Bytes) (high : 3 < byte) :
    decode (byte :: rest) = .error (.unknownKind byte) := by
  have first : byte ≠ 0 := by grind
  have second : byte ≠ 1 := by grind
  have third : byte ≠ 2 := by grind
  have fourth : byte ≠ 3 := by grind
  simp only [decode, if_neg first, if_neg second, if_neg third, if_neg fourth]

theorem decode_of_unknownStep (payload : Bytes) (high : 2 < byte) :
    decode (0 :: byte :: payload) = .error (.unknownStep byte) := by
  simp [decode, SyncStep.ofByte?_of_high high]

/-- Every byte string is spelt in one of the ways. -/
theorem exists_spelling (bytes : Bytes) : ∃ result, Spelling bytes result := by
  match bytes with
  | [] => exact ⟨_, .empty⟩
  | byte :: rest =>
      have kinds : byte = 0 ∨ byte = 1 ∨ byte = 2 ∨ byte = 3 ∨ 3 < byte := by grind
      rcases kinds with rfl | rfl | rfl | rfl | high
      · match rest with
        | [] => exact ⟨_, .missingStep⟩
        | byte :: payload =>
            by_cases high : 2 < byte
            · exact ⟨_, .unknownStep payload high⟩
            · obtain ⟨step, rfl⟩ := SyncStep.exists_toByte (UInt8.not_lt.mp high)
              exact ⟨_, .frame (sync step payload)⟩
      · exact ⟨_, .frame (awareness rest)⟩
      · exact ⟨_, .frame (auth rest)⟩
      · exact ⟨_, .frame ⟨.query, rest⟩⟩
      · exact ⟨_, .unknownKind rest high⟩

/-- Decoding follows the grammar. -/
theorem decode_eq_iff : decode bytes = result ↔ Spelling bytes result := by
  have follows {bytes : Bytes} {result : Except FrameError Frame}
      (spelling : Spelling bytes result) : decode bytes = result := by
    cases spelling with
    | frame frame => exact decode_encode frame
    | empty => rfl
    | unknownKind rest high => exact decode_of_unknownKind rest high
    | missingStep => rfl
    | unknownStep payload high => exact decode_of_unknownStep payload high
  constructor
  · rintro rfl
    obtain ⟨result, spelling⟩ := exists_spelling bytes
    rw [follows spelling]
    exact spelling
  · exact follows

/-- A frame is read just from its own bytes. -/
theorem decode_eq_ok_iff : decode bytes = .ok frame ↔ frame.encode = bytes := by
  rw [decode_eq_iff]
  constructor
  · rintro ⟨⟩
    rfl
  · rintro rfl
    exact .frame frame

theorem encode_injective : Function.Injective encode := by
  intro frame other same
  exact Except.ok.inj ((decode_encode frame).symm.trans
    ((congrArg decode same).trans (decode_encode other)))

/-- The bytes of frames are the legal ones. -/
theorem exists_encode_iff : (∃ frame : Frame, frame.encode = bytes) ↔ IsLegal bytes := by
  constructor
  · rintro ⟨⟨kind, payload⟩, rfl⟩
    cases kind with
    | sync step => exact .sync payload step.toByte_le
    | awareness => exact @IsLegal.plain 1 payload (by decide) (by decide)
    | auth => exact @IsLegal.plain 2 payload (by decide) (by decide)
    | query => exact @IsLegal.plain 3 payload (by decide) (by decide)
  · intro legal
    cases legal with
    | sync payload known =>
        obtain ⟨step, rfl⟩ := SyncStep.exists_toByte known
        exact ⟨sync step payload, rfl⟩
    | @plain kind payload least greatest =>
        have kinds : kind = 1 ∨ kind = 2 ∨ kind = 3 := by grind
        rcases kinds with rfl | rfl | rfl
        · exact ⟨awareness payload, rfl⟩
        · exact ⟨auth payload, rfl⟩
        · exact ⟨⟨.query, payload⟩, rfl⟩

/-! ## Refusals -/

theorem decode_eq_empty_iff : decode bytes = .error .empty ↔ bytes = [] := by
  rw [decode_eq_iff]
  constructor
  · rintro ⟨⟩
    rfl
  · rintro rfl
    exact .empty

theorem decode_eq_unknownKind_iff :
    decode bytes = .error (.unknownKind byte) ↔ bytes.head? = some byte ∧ 3 < byte := by
  rw [decode_eq_iff]
  constructor
  · intro spelling
    cases spelling with
    | unknownKind rest high => exact ⟨rfl, high⟩
  · rintro ⟨first, high⟩
    obtain ⟨rest, rfl⟩ := List.head?_eq_some_iff.mp first
    exact .unknownKind rest high

theorem decode_eq_missingStep_iff : decode bytes = .error .missingStep ↔ bytes = [0] := by
  rw [decode_eq_iff]
  constructor
  · rintro ⟨⟩
    rfl
  · rintro rfl
    exact .missingStep

theorem decode_eq_unknownStep_iff :
    decode bytes = .error (.unknownStep byte) ↔
      bytes[0]? = some 0 ∧ bytes[1]? = some byte ∧ 2 < byte := by
  rw [decode_eq_iff]
  constructor
  · intro spelling
    cases spelling with
    | unknownStep payload high => exact ⟨rfl, rfl, high⟩
  · rintro ⟨first, second, high⟩
    match bytes, first, second with
    | _ :: _ :: payload, rfl, rfl => exact .unknownStep payload high

/-! ## What frames are -/

/-- Which of the four kinds a frame is said to be. -/
def kinds (frame : Frame) : List Bool :=
  [frame.isSync, frame.isAwareness, frame.isAuth, frame.isQuery]

/-- Which of the three steps a frame is said to be. -/
def steps (frame : Frame) : List Bool :=
  [frame.isStep .request, frame.isStep .answer, frame.isStep .update]

theorem count_kinds (frame : Frame) : frame.kinds.count true = 1 := by
  obtain ⟨kind, payload⟩ := frame
  cases kind with
  | sync step => rfl
  | awareness => rfl
  | auth => rfl
  | query => rfl

/-- A sync frame is one of the steps, and no other frame is. -/
theorem count_steps (frame : Frame) :
    frame.steps.count true = if frame.isSync then 1 else 0 := by
  obtain ⟨kind, payload⟩ := frame
  cases kind with
  | sync step =>
      cases step with
      | request => rfl
      | answer => rfl
      | update => rfl
  | awareness => rfl
  | auth => rfl
  | query => rfl

/-- Frames and the legal byte strings are in bijection: what is encoded is decoded to the
same frame, what is decoded is encoded by the same bytes, and whatever is not legal is
refused for just one reason, which its first two bytes tell.  So no two frames have one
encoding, and each frame is of one kind and, if it is a sync frame, of one step. -/
theorem decode_bijective :
    (∀ frame : Frame, decode frame.encode = .ok frame) ∧ Function.Injective encode ∧
    ∀ bytes : Bytes,
      (∀ frame, decode bytes = .ok frame ↔ frame.encode = bytes) ∧
      ((∃ frame, decode bytes = .ok frame) ↔ IsLegal bytes) ∧
      (decode bytes = .error .empty ↔ bytes = []) ∧
      (∀ byte, decode bytes = .error (.unknownKind byte) ↔
        bytes.head? = some byte ∧ 3 < byte) ∧
      (decode bytes = .error .missingStep ↔ bytes = [0]) ∧
      (∀ byte, decode bytes = .error (.unknownStep byte) ↔
        bytes[0]? = some 0 ∧ bytes[1]? = some byte ∧ 2 < byte) ∧
      ∀ frame, decode bytes = .ok frame → frame.kinds.count true = 1 ∧
        frame.steps.count true = if frame.isSync then 1 else 0 := by
  refine ⟨decode_encode, encode_injective, fun bytes => ⟨fun _ => decode_eq_ok_iff, ?_,
    decode_eq_empty_iff, fun _ => decode_eq_unknownKind_iff, decode_eq_missingStep_iff,
    fun _ => decode_eq_unknownStep_iff, fun frame _ => ⟨count_kinds frame, count_steps frame⟩⟩⟩
  simp only [decode_eq_ok_iff]
  exact exists_encode_iff

/-- An update whose payload begins like a frame is read as it was sent, and what looks like
it but for its step is refused. -/
theorem decode_bijective_lookalike :
    (decode (sync .update [0, 1, 2, 3, 0]).encode = .ok (sync .update [0, 1, 2, 3, 0]) ∧
      (sync .update [0, 1, 2, 3, 0]).kinds.count true = 1 ∧
      (sync .update [0, 1, 2, 3, 0]).steps.count true = 1) ∧
    decode [0, 3, 0, 1, 2, 3, 0] = .error (.unknownStep 3) := by
  obtain ⟨reads, -, told⟩ := decode_bijective
  obtain ⟨-, -, -, -, -, -, once⟩ := told (sync .update [0, 1, 2, 3, 0]).encode
  obtain ⟨-, -, -, -, -, steps, -⟩ := told [0, 3, 0, 1, 2, 3, 0]
  exact ⟨⟨reads _, once _ (reads _)⟩, (steps 3).mpr (by decide)⟩

end Frame

end Coedit
