import EngineBridge.Facade.Call
import EngineBridge.Proofs.Text.Utf8
import Mathlib.Data.List.TakeWhile

/-!
Failures on their way from the body of an entry point to the caller. Whatever the body ends in is
written as a status number and a message, and the caller reads the same failure from them: no code
turns into another one and no message is cut or dropped.
-/

namespace EngineBridge.Facade

open Abi (ErrorCode RawResult)
open Engine (Ending Ledger Reply Returned conclude)
open Text (Bytes Utf8.decodeLossy Utf8.encode)

theorem toList_scrub (text : String) :
    (RawResult.scrub text).toList = text.toList.map fun c => if c = '\x00' then ' ' else c := by
  rw [RawResult.scrub, String.toList_map]

theorem zero_notMem_scrub (text : String) : 0 ∉ Utf8.encode (RawResult.scrub text) := by
  rw [Text.Utf8.zero_mem_encode, toList_scrub, List.mem_map]
  rintro ⟨c, -, hc⟩
  split_ifs at hc with h
  · exact absurd hc (by decide)
  · exact h hc

theorem message_failure (code : ErrorCode) (text : String) :
    (RawResult.failure code text).message = some (Utf8.encode (RawResult.scrub text)) := by
  have hzero := zero_notMem_scrub text
  rw [RawResult.failure, RawResult.closed?, if_neg (by simpa using hzero)]

theorem untilNul_of_notMem {bs : Bytes} (h : 0 ∉ bs) : RawResult.untilNul bs = bs := by
  rw [RawResult.untilNul, List.takeWhile_eq_self_iff]
  intro b hb
  simp only [bne_iff_ne, ne_eq]
  rintro rfl
  exact h hb

def readMessage (content : Bytes) : String := Utf8.decodeLossy (RawResult.untilNul content)

theorem readMessage_scrub (text : String) :
    readMessage (Utf8.encode (RawResult.scrub text)) = RawResult.scrub text := by
  rw [readMessage, untilNul_of_notMem (zero_notMem_scrub text), Text.Utf8.decodeLossy_encode]

variable {ctx : Context} {entryPoint : String} {r : Returned} {s : State}

theorem takeMessage_text (ctx : Context) (r : Returned) (s : State) :
    (takeMessage ctx r s).1 = r.message.map fun m => readMessage m.content := by
  unfold takeMessage
  cases r.message with
  | none => rfl
  | some m => rfl

def meaning (entryPoint : String) (code : Int32) (message : Option Bytes) :
    Except Error CallResult :=
  if code = ErrorCode.ok.raw then .ok .success
  else match ErrorCode.ofRaw? code with
    | none =>
      .error (.marshalingMismatch entryPoint ("unknown native error code " ++ toString code.toInt))
    | some c => .ok (.failure c (message.map readMessage))

theorem raw_eq_ok_iff {code : ErrorCode} : code.raw = ErrorCode.ok.raw ↔ code = .ok := by
  rw [← ErrorCode.ofRaw?_eq_some_iff, ErrorCode.ofRaw?_raw, Option.some.injEq, eq_comm]

section

variable {code : Int32} {message : Option Bytes}

theorem meaning_eq_success_iff : meaning entryPoint code message = .ok .success ↔ code = 0 := by
  unfold meaning
  split_ifs with hok
  · exact iff_of_true rfl hok
  · refine iff_of_false ?_ hok
    cases ErrorCode.ofRaw? code with
    | none => exact nofun
    | some c => exact nofun

theorem meaning_eq_failure_iff {c : ErrorCode} {text : Option String} :
    meaning entryPoint code message = .ok (.failure c text) ↔
      c ≠ .ok ∧ c.raw = code ∧ text = message.map readMessage := by
  unfold meaning
  split_ifs with hok
  · refine iff_of_false nofun ?_
    rintro ⟨hc, hraw, -⟩
    exact hc (raw_eq_ok_iff.mp (hraw.trans hok))
  · cases hcode : ErrorCode.ofRaw? code with
    | none =>
      refine iff_of_false nofun ?_
      rintro ⟨-, hraw, -⟩
      simp [ErrorCode.ofRaw?_eq_some_iff.mpr hraw] at hcode
    | some c' =>
      have hraw := ErrorCode.raw_of_ofRaw? hcode
      dsimp only
      rw [Except.ok.injEq, CallResult.failure.injEq]
      constructor
      · rintro ⟨rfl, rfl⟩
        exact ⟨fun h => hok (by rw [← hraw, h]), hraw, rfl⟩
      · rintro ⟨-, hraw', rfl⟩
        rw [← ErrorCode.ofRaw?_eq_some_iff, hcode] at hraw'
        exact ⟨Option.some.inj hraw', rfl⟩

theorem meaning_eq_error_iff {e : Error} :
    meaning entryPoint code message = .error e ↔
      (∀ c : ErrorCode, c.raw ≠ code) ∧ e = .marshalingMismatch entryPoint
        ("unknown native error code " ++ toString code.toInt) := by
  unfold meaning
  split_ifs with hok
  · exact iff_of_false nofun fun h => h.1 .ok hok.symm
  · cases hcode : ErrorCode.ofRaw? code with
    | none =>
      have hunknown : ∀ c : ErrorCode, c.raw ≠ code := fun c hc => by
        simp [ErrorCode.ofRaw?_eq_some_iff.mpr hc] at hcode
      dsimp only
      rw [Except.error.injEq, eq_comm, and_iff_right hunknown]
    | some c => exact iff_of_false nofun fun h => h.1 c (ErrorCode.raw_of_ofRaw? hcode)

end

theorem decode_meaning (ctx : Context) (entryPoint : String) (r : Returned) (s : State) :
    (decode ctx entryPoint r s).1 = meaning entryPoint r.code (r.message.map (·.content)) := by
  have htext := takeMessage_text ctx r s
  unfold decode meaning
  rw [Option.map_map]
  split_ifs
  · rfl
  · cases ErrorCode.ofRaw? r.code with
    | none => rfl
    | some code => exact congrArg (fun text => Except.ok (CallResult.failure code text)) htext

theorem check_meaning (ctx : Context) (entryPoint : String) (r : Returned) (s : State) :
    (check ctx entryPoint r s).1 =
      (meaning entryPoint r.code (r.message.map (·.content))).bind
        (CallResult.check entryPoint) :=
  congrArg (·.bind (CallResult.check entryPoint)) (decode_meaning ctx entryPoint r s)

theorem lend_code (l : Ledger) (r : RawResult) : (l.lend r).1.code = r.code := by
  unfold Ledger.lend
  cases r.message with
  | none => rfl
  | some m => rfl

theorem lend_content (l : Ledger) (r : RawResult) :
    (l.lend r).1.message.map (·.content) = r.message := by
  unfold Ledger.lend
  cases r.message with
  | none => rfl
  | some m => rfl

def reported (entryPoint : String) (r : RawResult) : Except Error Unit :=
  (meaning entryPoint r.code r.message).bind (CallResult.check entryPoint)

theorem check_endCall {α : Type} (ctx : Context) (entryPoint : String) (reply : Reply α)
    (s s' : State) :
    (check ctx entryPoint (endCall reply s).1 s').1 = reported entryPoint reply.result := by
  have hcode : (endCall reply s).1.code = reply.result.code := lend_code s.ledger reply.result
  have hcontent : (endCall reply s).1.message.map (·.content) = reply.result.message :=
    lend_content s.ledger reply.result
  rw [check_meaning, hcode, hcontent, reported]

theorem reported_eq_ok_iff {entryPoint : String} {r : Abi.RawResult} :
    reported entryPoint r = .ok () ↔ r.code = 0 := by
  have hsuccess : meaning entryPoint r.code r.message = .ok .success ↔ r.code = 0 :=
    meaning_eq_success_iff
  rw [← hsuccess, reported]
  cases hmeaning : meaning entryPoint r.code r.message with
  | error e => exact iff_of_false nofun nofun
  | ok result =>
    cases result with
    | success => exact iff_of_true rfl rfl
    | failure code message => exact iff_of_false nofun nofun

theorem reported_success (entryPoint : String) : reported entryPoint .success = .ok () :=
  rfl

theorem reported_failure (entryPoint text : String) {code : ErrorCode} (hcode : code ≠ .ok) :
    reported entryPoint (.failure code text) =
      .error (.nativeCallFailed entryPoint code (RawResult.scrub text)) := by
  have hmeaning : meaning entryPoint code.raw (some (Utf8.encode (RawResult.scrub text))) =
      .ok (.failure code (some (RawResult.scrub text))) := by
    rw [meaning_eq_failure_iff, Option.map_some, readMessage_scrub]
    exact ⟨hcode, rfl, rfl⟩
  rw [reported, message_failure]
  exact congrArg (·.bind (CallResult.check entryPoint)) hmeaning

/-- What the caller makes of an entry point whose body ends in `ending`. -/
def crossing (ctx : Context) (entryPoint : String) (ending : Ending) (s : State) :
    Except Error Unit :=
  let reply : Reply Unit := .of (conclude entryPoint ending) none
  let (returned, s) := endCall reply s
  (check ctx entryPoint returned s).1

theorem crossing_eq (ctx : Context) (entryPoint : String) (ending : Ending) (s : State) :
    crossing ctx entryPoint ending s =
      reported entryPoint (conclude entryPoint ending).result :=
  check_endCall ctx entryPoint (.of (conclude entryPoint ending) none : Reply Unit) s _

theorem message_conclude (entryPoint : String) (ending : Ending) :
    (conclude entryPoint ending).result.message = none ↔ ending = .done := by
  cases ending with
  | done => exact iff_of_true rfl rfl
  | refused r =>
    refine iff_of_false ?_ nofun
    rw [conclude, message_failure]
    exact nofun
  | panicked p =>
    refine iff_of_false ?_ nofun
    rw [conclude, message_failure]
    exact nofun

/-- An error or a panic in the body of an entry point reaches the caller with its code and with its
message, in which only NUL is written as a space. Whatever a foreign engine returns, the status
number alone decides between success, a failure and a report that the number is unknown. -/
theorem errors_survive_boundary (ctx : Context) (entryPoint : String) (s : State) :
    crossing ctx entryPoint .done s = .ok () ∧
      (∀ code text, code ≠ .ok → crossing ctx entryPoint (.refused ⟨code, text⟩) s =
        .error (.nativeCallFailed entryPoint code
          (text.map fun c => if c = '\x00' then ' ' else c))) ∧
      (∀ text, crossing ctx entryPoint (.panicked (.text text)) s =
        .error (.nativeCallFailed entryPoint .internal
          (("engine panicked in " ++ entryPoint ++ ": " ++ text).map fun c =>
            if c = '\x00' then ' ' else c))) ∧
      crossing ctx entryPoint (.panicked .other) s =
        .error (.nativeCallFailed entryPoint .internal
          (("engine panicked in " ++ entryPoint ++ ": unknown panic payload").map fun c =>
            if c = '\x00' then ' ' else c)) ∧
      (∀ ending, (conclude entryPoint ending).result.message = none ↔ ending = .done) ∧
      (∀ r : Returned, (decode ctx entryPoint r s).1 = .ok .success ↔ r.code = 0) ∧
      (∀ (r : Returned) code text, (decode ctx entryPoint r s).1 = .ok (.failure code text) ↔
        code ≠ .ok ∧ code.raw = r.code ∧
          text = r.message.map fun m => Utf8.decodeLossy (RawResult.untilNul m.content)) ∧
      (∀ (r : Returned) e, (decode ctx entryPoint r s).1 = .error e ↔
        (∀ code : ErrorCode, code.raw ≠ r.code) ∧ e = .marshalingMismatch entryPoint
          ("unknown native error code " ++ toString r.code.toInt)) ∧
      ∀ r : RawResult, r.isOk = true ↔ r.code = 0 := by
  have hinternal : ErrorCode.internal ≠ .ok := nofun
  refine ⟨?_, fun code text hcode => ?_, fun text => ?_, ?_, message_conclude entryPoint,
    fun r => ?_, fun r code text => ?_, fun r e => ?_, fun r => beq_iff_eq⟩
  · rw [crossing_eq, conclude, reported_success]
  · rw [crossing_eq, conclude, reported_failure _ _ hcode, RawResult.scrub]
  · rw [crossing_eq, conclude, reported_failure _ _ hinternal, Payload.message, RawResult.scrub]
  · rw [crossing_eq, conclude, reported_failure _ _ hinternal, Payload.message, RawResult.scrub,
      String.append_assoc]
    rfl
  · rw [decode_meaning, meaning_eq_success_iff]
  · rw [decode_meaning, meaning_eq_failure_iff, Option.map_map]
    rfl
  · rw [decode_meaning, meaning_eq_error_iff]

theorem errors_survive_boundary_scrubbed :
    crossing (.ofStatement (.ofQuery "SELECT 1") .linked ⟨1⟩) "prepared_statement_get_id"
        (.refused ⟨.invalidQuery, "né\x00e"⟩) .fresh =
      .error (.nativeCallFailed "prepared_statement_get_id" .invalidQuery "né e") := by
  obtain ⟨-, refused, -⟩ := errors_survive_boundary
    (.ofStatement (.ofQuery "SELECT 1") .linked ⟨1⟩) "prepared_statement_get_id" .fresh
  have hspaced : ("né\x00e".map fun c => if c = '\x00' then ' ' else c) = "né e" := by
    rw [← String.toList_inj, String.toList_map]
    rfl
  rw [refused .invalidQuery "né\x00e" nofun, hspaced]

end EngineBridge.Facade
