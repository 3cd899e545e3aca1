import EngineBridge.Proofs.Facade.Solitary

/-!
Borrowed views. A view denotes bytes if its pointer is not null or its length is zero, and then it
is read as exactly those bytes: as the identifier of a statement or, if they are well-formed, as a
text of a column. The view of an identifier is not looked at before the engine has reported success.
-/

namespace EngineBridge.Facade

open Abi (Export Side View)
open Engine (Column Delivery RawColumn Reply)
open Text (Bytes Utf8.encode)

/-- The bytes that a view denotes. A null pointer with a length denotes nothing. -/
inductive Denotes : View → Bytes → Prop
  | absent : Denotes (.null 0) []
  | present (bs : Bytes) : Denotes (.bytes bs) bs

theorem Denotes.content {v : View} {bs : Bytes} (denotes : Denotes v bs) : v.content = bs := by
  cases denotes <;> rfl

theorem Denotes.not_isDangling {v : View} {bs : Bytes} (denotes : Denotes v bs) :
    v.isDangling = false := by
  cases denotes <;> rfl

structure Shows (raw : RawColumn) (c : Column) : Prop where
  keyspace : ∀ bs, Denotes raw.keyspace bs → bs = Utf8.encode c.keyspace
  table : ∀ bs, Denotes raw.table bs → bs = Utf8.encode c.table
  name : ∀ bs, Denotes raw.name bs → bs = Utf8.encode c.name
  typeCode : raw.typeCode = c.typeCode

variable {d : Delivery} {expected : ℕ} {c : Column} {raw : RawColumn}

theorem Carries.shows (carries : Carries d expected c) : Shows d.column c where
  keyspace _ denotes := denotes.content.symm.trans carries.keyspace
  table _ denotes := denotes.content.symm.trans carries.table
  name _ denotes := denotes.content.symm.trans carries.name
  typeCode := carries.typeCode

theorem Shows.carries (shows : Shows d.column c) (index : d.index.toNat = expected)
    (sound : ∀ p ∈ texts d.column, ∃ bs, Denotes p.2 bs) : Carries d expected c := by
  obtain ⟨⟨k, hk⟩, ⟨t, ht⟩, ⟨n, hn⟩⟩ :
      (∃ bs, Denotes d.column.keyspace bs) ∧ (∃ bs, Denotes d.column.table bs) ∧
        ∃ bs, Denotes d.column.name bs := by
    simpa [texts] using sound
  exact ⟨index, hk.content.trans (shows.keyspace k hk), ht.content.trans (shows.table t ht),
    hn.content.trans (shows.name n hn), shows.typeCode⟩

variable {ctx : Context} {inside : Reentry} {s : State}

theorem statementId_answer (inside : Reentry) (live : s.word.isDisposed = false) :
    (statementId ctx inside s).1 = idAnswer (ctx.table.id (s.calls.count .id))
      (reported Export.id.symbol (ctx.table.id (s.calls.count .id)).result) := by
  rw [statementId_eq, guarded_answer live, calling_answer]
  rfl

theorem idAnswer_of_denotes {reply : Reply View} {bs : Bytes}
    (denotes : Denotes (reply.written.getD .empty) bs) : idAnswer reply (.ok ()) = .value bs := by
  simp only [idAnswer, denotes.not_isDangling, Bool.false_eq_true, if_false, denotes.content]

theorem idAnswer_of_null {reply : Reply View} {n : UInt64} (hn : n ≠ 0)
    (null : reply.written.getD .empty = .null n) :
    idAnswer reply (.ok ()) = .error (.marshalingMismatch Export.id.symbol
      ("null id pointer with length " ++ toString n)) := by
  have dangling : (View.null n).isDangling = true := by simpa [View.isDangling] using hn
  simp only [idAnswer, null, dangling, if_true, View.length]

variable {μ : Type} {entryPoint : String} {count : ℕ} {engine : Except Error Unit}
  {panic : Option Payload} {rest : List Delivery} {outcome : Outcome ℕ}

theorem Verdict.of_flawed (verdict : Verdict entryPoint count engine none rest outcome)
    (left : rest ≠ []) : ∃ detail, outcome = .error (.marshalingMismatch entryPoint detail) := by
  cases verdict with
  | flawed => exact ⟨_, rfl⟩
  | failed | delivered => exact absurd rfl left

theorem Verdict.of_whole (verdict : Verdict entryPoint count engine none [] outcome) :
    (engine = .ok () ∧ outcome = .value count) ∨
      ∃ e, engine = .error e ∧ outcome = .error e := by
  cases verdict with
  | delivered h => exact .inl ⟨h, rfl⟩
  | failed h => exact .inr ⟨_, h, rfl⟩

/-- Of a view that denotes bytes those bytes are read. The identifier that comes with a success is
the bytes of its view, and a null pointer with a length is a mismatch there; when the call has
failed the view is not looked at. The texts that the visitor of a fill is shown are the bytes of
their views, at every place. The first delivery that is out of place or has a text whose bytes are
ill-formed ends the fill before it is shown, with a mismatch unless the visitor has panicked. -/
theorem views_read_exactly {side : Side} {reply : Reply (List Delivery)} {s₁ : State}
    (visitor : Visitor μ) (memory : μ) (live : s.word.isDisposed = false)
    (begun : beginCall inside (.fill side) (ctx.table.fill side) (s.admitted ctx) = (reply, s₁)) :
    (let idReply := ctx.table.id (s.calls.count .id)
      let view := idReply.written.getD .empty
      let answer := (statementId ctx inside s).1
      (idReply.result.code = 0 → (∀ bs, Denotes view bs → answer = .value bs) ∧
          ∀ n ≠ 0, view = .null n → answer = .error (.marshalingMismatch Export.id.symbol
            ("null id pointer with length " ++ toString n))) ∧
        (idReply.result.code ≠ 0 →
          ∃ e, reported Export.id.symbol idReply.result = .error e ∧ answer = .error e)) ∧
      ∃ good rest columns panic memory' s₂ outcome,
        (reply.written.getD []).filter (!·.lost) = good ++ rest ∧
        List.Forall₂ (fun d p => d.index.toNat = p.2 ∧ Shows d.column p.1) good columns.zipIdx ∧
        (∀ d ∈ rest.head?, (∀ p ∈ texts d.column, ∃ bs, Denotes p.2 bs) →
          d.index.toNat = columns.length → ∀ c, ¬Shows d.column c) ∧
        visitEach visitor 0 columns memory s₁ = ((panic, memory'), s₂) ∧
        (fill ctx inside side visitor memory s).1 = (outcome, memory') ∧
        (∀ p, panic = some p → outcome = .panic p) ∧
        (panic = none → rest ≠ [] →
          ∃ detail, outcome = .error (.marshalingMismatch (Export.fill side).symbol detail)) ∧
        (panic = none → rest = [] →
          (reported (Export.fill side).symbol reply.result = .ok () ∧
              outcome = .value columns.length) ∨
            ∃ e, reported (Export.fill side).symbol reply.result = .error e ∧
              outcome = .error e) := by
  refine ⟨⟨fun succeeded => ?_, fun failed => ?_⟩, ?_⟩
  · have hreported : reported Export.id.symbol (ctx.table.id (s.calls.count .id)).result = .ok () :=
      reported_eq_ok_iff.mpr succeeded
    simp only [statementId_answer inside live, hreported]
    exact ⟨fun bs => idAnswer_of_denotes, fun n hn => idAnswer_of_null hn⟩
  · rw [statementId_answer inside live]
    cases hreported : reported Export.id.symbol (ctx.table.id (s.calls.count .id)).result with
    | ok => exact absurd (reported_eq_ok_iff.mp hreported) failed
    | error e => exact ⟨e, rfl, rfl⟩
  · obtain ⟨columns, rest, delivers⟩ := exists_delivers 0 (reply.written.getD [])
    obtain ⟨panic, memory', s₂, hvisit⟩ : ∃ panic memory' s₂,
        visitEach visitor 0 columns memory s₁ = ((panic, memory'), s₂) := ⟨_, _, _, rfl⟩
    obtain ⟨outcome, verdict, hfill⟩ := fill_of_live live begun delivers hvisit
    obtain ⟨⟨good, hgood, hcarry⟩, longest⟩ := delivers
    refine ⟨good, rest, columns, panic, memory', s₂, outcome, hgood,
      hcarry.imp fun d p carries => ⟨carries.index, carries.shows⟩, ?_, hvisit,
      congrArg Prod.fst hfill, ?_, ?_, ?_⟩
    · intro d hd sound index c shows
      rw [Nat.zero_add] at longest
      exact longest d hd c (shows.carries index sound)
    · rintro p rfl
      cases verdict
      rfl
    · rintro rfl left
      exact verdict.of_flawed left
    · rintro rfl rfl
      exact verdict.of_whole

def mixedViews : List Delivery :=
  [⟨0, ⟨.null 0, .bytes [116], .bytes [107], 9⟩, false⟩,
    ⟨1, ⟨.bytes [255], .bytes [116], .bytes [118], 9⟩, false⟩]

def viewingEngine : Context where
  table := { Engine.Script.silent.table with
    id := fun _ => ⟨[], [], some (.bytes [7, 0]), .success⟩
    fillResult := fun _ => ⟨[], [], some mixedViews, .success⟩ }
  origin := .custom
  resource := .preparedStatement
  handle := ⟨1⟩

theorem views_read_exactly_mixed :
    (statementId viewingEngine (fun _ s => ([], s)) .fresh).1 = .value [7, 0] ∧
      ∃ (good rest : List Delivery) (columns : List Column), mixedViews = good ++ rest ∧
        List.Forall₂ (fun d p => d.index.toNat = p.2 ∧ Shows d.column p.1) good columns.zipIdx ∧
        (fill viewingEngine (fun _ s => ([], s)) .results collector [] .fresh).1 =
          (.error (.marshalingMismatch (Export.fill .results).symbol
            "column 1 keyspace is not UTF-8: invalid utf-8 sequence of 1 bytes from index 0"),
          [⟨"", "t", "k", 9⟩]) ∧
        rest ≠ [] := by
  have live : State.fresh.word.isDisposed = false := by decide
  have begun : beginCall (fun _ s => ([], s)) (.fill .results)
      (viewingEngine.table.fill .results) (State.fresh.admitted viewingEngine) = (_, _) := rfl
  obtain ⟨⟨succeeds, -⟩, good, rest, columns, panic, memory, s₂, outcome, hgood, hshows, -, -,
    hfill, panicked, -, whole⟩ := views_read_exactly collector [] live begun
  have hrun : (fill viewingEngine (fun _ s => ([], s)) .results collector [] .fresh).1 =
      (.error (.marshalingMismatch (Export.fill .results).symbol
        "column 1 keyspace is not UTF-8: invalid utf-8 sequence of 1 bytes from index 0"),
      [⟨"", "t", "k", 9⟩]) := by decide +kernel
  refine ⟨(succeeds rfl).1 _ (.present [7, 0]), good, rest, columns, hgood, hshows, hrun, ?_⟩
  rintro rfl
  rw [hfill, Prod.mk.injEq] at hrun
  obtain ⟨rfl, -⟩ := hrun
  cases panic with
  | some p => cases panicked p rfl
  | none =>
    obtain ⟨-, h⟩ | ⟨e, h, -⟩ := whole rfl rfl
    · cases h
    · cases h

/-- An engine that leaves null pointers with a length behind: one for an identifier, of a call that
fails, and one for the keyspace of a column. -/
def nullEngine : Context where
  table := { Engine.Script.silent.table with
    id := fun _ => ⟨[], [], some (.null 4), ⟨2, some (Utf8.encode "no")⟩⟩
    fillVariables := fun _ =>
      ⟨[], [], some [⟨0, ⟨.null 4, .bytes [116], .bytes [107], 9⟩, false⟩], .success⟩ }
  origin := .custom
  resource := .preparedStatement
  handle := ⟨1⟩

/-- Neither of them ends in a mismatch: the one is not looked at, and in the place of the other
there is an empty text. -/
theorem null_views_not_refused :
    (nullEngine.table.id 0).written = some (.null 4) ∧
      (statementId nullEngine (fun _ s => ([], s)) .fresh).1 =
        .error (.nativeCallFailed Export.id.symbol .invalidSyntax "no") ∧
      (∀ entryPoint detail, (statementId nullEngine (fun _ s => ([], s)) .fresh).1 ≠
        .error (.marshalingMismatch entryPoint detail)) ∧
      (columnSpecs nullEngine (fun _ s => ([], s)) .variables .fresh).1 =
        .value [⟨"", "t", "k", 9⟩] := by
  have hfailed : (statementId nullEngine (fun _ s => ([], s)) .fresh).1 =
      .error (.nativeCallFailed Export.id.symbol .invalidSyntax "no") := by decide +kernel
  refine ⟨rfl, hfailed, fun entryPoint detail => ?_, by decide +kernel⟩
  rw [hfailed]
  exact nofun

end EngineBridge.Facade
