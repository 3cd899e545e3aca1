import EngineBridge.Engine.Script
import EngineBridge.Facade.Statement
import EngineBridge.Proofs.Facade.Boundary
import Mathlib.Data.List.Forall2

/-!
What becomes of the columns that an engine hands over. The visitor sees the longest prefix of them
that is in order and well-formed, up to the first column at which it panics; a fill then reports the
panic, else the first faulty column, else what the engine reports, else how many columns there
were.
-/

namespace EngineBridge.Facade

open Abi (Export Side View)
open Engine (Column Delivery RawColumn Reply)
open Text (Utf8.Fault Utf8.encode)

structure Carries (d : Delivery) (expected : ℕ) (c : Column) : Prop where
  index : d.index.toNat = expected
  keyspace : d.column.keyspace.content = Utf8.encode c.keyspace
  table : d.column.table.content = Utf8.encode c.table
  name : d.column.name.content = Utf8.encode c.name
  typeCode : d.column.typeCode = c.typeCode

def texts (c : RawColumn) : List (String × View) :=
  [("keyspace", c.keyspace), ("table", c.table), ("name", c.name)]

/-- What is said of a delivery that carries nothing: it is out of place, or else one of its texts is
ill-formed and those before it are not. -/
inductive Flawed (d : Delivery) (expected : ℕ) : String → Prop
  | index : d.index.toNat ≠ expected →
      Flawed d expected ("column index " ++ toString d.index.toNat ++ " delivered, expected " ++
        toString expected)
  | text (before after : List (String × View)) {what : String} {view : View} {fault : Utf8.Fault} :
      d.index.toNat = expected → texts d.column = before ++ (what, view) :: after →
      (∀ p ∈ before, ∃ s, p.2.content = Utf8.encode s) → view.text = .error fault →
      Flawed d expected ("column " ++ toString expected ++ " " ++ what ++ " is not UTF-8: " ++
        fault.message)

theorem text_eq_ok_iff {v : View} {s : String} : v.text = .ok s ↔ v.content = Utf8.encode s :=
  Text.Utf8.decode_eq_ok_iff

theorem textField_of_ok {index : ℕ} {what s : String} {v : View} (h : v.text = .ok s) :
    textField index what v = .ok s := by
  rw [textField, h]

theorem textField_of_error {index : ℕ} {what : String} {v : View} {fault : Utf8.Fault}
    (h : v.text = .error fault) :
    textField index what v = .error
      ("column " ++ toString index ++ " " ++ what ++ " is not UTF-8: " ++ fault.message) := by
  rw [textField, h]

theorem readColumn_cases {expected : ℕ} {d : Delivery} (hindex : d.index.toNat = expected) :
    (∃ c, readColumn expected d.column = .ok c ∧ Carries d expected c) ∨
      ∃ detail, readColumn expected d.column = .error detail ∧ Flawed d expected detail := by
  unfold readColumn
  cases hkeyspace : d.column.keyspace.text with
  | error fault =>
    refine .inr ⟨_, ?_, .text [] _ hindex rfl nofun hkeyspace⟩
    rw [textField_of_error hkeyspace]
    rfl
  | ok keyspace =>
    rw [textField_of_ok hkeyspace]
    rw [text_eq_ok_iff] at hkeyspace
    cases htable : d.column.table.text with
    | error fault =>
      refine .inr ⟨_, ?_, .text [("keyspace", d.column.keyspace)] _ hindex rfl ?_ htable⟩
      · rw [textField_of_error htable]
        rfl
      · simp [hkeyspace]
    | ok table =>
      rw [textField_of_ok htable]
      rw [text_eq_ok_iff] at htable
      cases hname : d.column.name.text with
      | error fault =>
        refine .inr ⟨_, ?_, .text [("keyspace", d.column.keyspace), ("table", d.column.table)] _
          hindex rfl ?_ hname⟩
        · rw [textField_of_error hname]
          rfl
        · simp [hkeyspace, htable]
      | ok name =>
        rw [textField_of_ok hname]
        rw [text_eq_ok_iff] at hname
        exact .inl ⟨_, rfl, hindex, hkeyspace, htable, hname, rfl⟩

theorem examine_cases (expected : ℕ) (d : Delivery) :
    (∃ c, examine expected d = .ok c ∧ Carries d expected c) ∨
      ∃ detail, examine expected d = .error detail ∧ Flawed d expected detail := by
  by_cases hindex : d.index.toNat = expected
  · rw [examine, if_pos hindex]
    exact readColumn_cases hindex
  · rw [examine, if_neg hindex]
    exact .inr ⟨_, rfl, .index hindex⟩

theorem examine_of_carries {d : Delivery} {expected : ℕ} {c : Column} (h : Carries d expected c) :
    examine expected d = .ok c := by
  obtain ⟨index, keyspace, table, name, typeCode⟩ := h
  rw [← text_eq_ok_iff] at keyspace table name
  rw [examine, if_pos index, readColumn, textField_of_ok keyspace, textField_of_ok table,
    textField_of_ok name, typeCode]
  rfl

theorem Carries.unique {d : Delivery} {expected : ℕ} {c c' : Column} (h : Carries d expected c)
    (h' : Carries d expected c') : c = c' := by
  have hkeyspace := Text.Utf8.encode_inj.mp (h.keyspace.symm.trans h'.keyspace)
  have htable := Text.Utf8.encode_inj.mp (h.table.symm.trans h'.table)
  have hname := Text.Utf8.encode_inj.mp (h.name.symm.trans h'.name)
  rw [Column.mk.injEq]
  exact ⟨hkeyspace, htable, hname, h.typeCode.symm.trans h'.typeCode⟩

/-- Of the calls that have a target, those up to `rest` carry `columns`, the first of them in place
`first`; and this is the longest such prefix. -/
structure Delivers (first : ℕ) (calls : List Delivery) (columns : List Column)
    (rest : List Delivery) : Prop where
  good : ∃ good, calls.filter (!·.lost) = good ++ rest ∧
    List.Forall₂ (fun d p => Carries d p.2 p.1) good (columns.zipIdx first)
  longest : ∀ d ∈ rest.head?, ∀ c, ¬Carries d (first + columns.length) c

variable {first : ℕ} {d : Delivery} {calls rest : List Delivery} {c : Column}
  {columns : List Column}

theorem Delivers.nil : Delivers first [] [] [] :=
  ⟨⟨[], rfl, .nil⟩, nofun⟩

theorem Delivers.lost (hd : d.lost = true) :
    Delivers first (d :: calls) columns rest ↔ Delivers first calls columns rest := by
  have hfilter : (d :: calls).filter (!·.lost) = calls.filter (!·.lost) := by simp [hd]
  constructor
  · rintro ⟨good, longest⟩
    exact ⟨hfilter ▸ good, longest⟩
  · rintro ⟨good, longest⟩
    exact ⟨hfilter.symm ▸ good, longest⟩

theorem Delivers.cons (hd : d.lost = false) (carries : Carries d first c)
    (delivers : Delivers (first + 1) calls columns rest) :
    Delivers first (d :: calls) (c :: columns) rest := by
  obtain ⟨⟨good, hgood, hcarry⟩, longest⟩ := delivers
  refine ⟨⟨d :: good, by simp [hd, hgood], .cons carries hcarry⟩, ?_⟩
  rwa [List.length_cons, Nat.add_comm columns.length, ← Nat.add_assoc]

theorem Delivers.flawed (hd : d.lost = false) (hcarry : ∀ c, ¬Carries d first c) :
    Delivers first (d :: calls) [] (d :: calls.filter (!·.lost)) := by
  refine ⟨⟨[], by simp [hd], .nil⟩, fun d' hd' => ?_⟩
  obtain rfl := Option.some.inj hd'
  exact hcarry

theorem Delivers.of_nil (delivers : Delivers first [] columns rest) : columns = [] ∧ rest = [] := by
  obtain ⟨⟨good, hgood, hcarry⟩, -⟩ := delivers
  obtain ⟨rfl, rfl⟩ := List.append_eq_nil_iff.mp hgood.symm
  exact ⟨by simpa using hcarry, rfl⟩

theorem Delivers.of_cons (hd : d.lost = false)
    (delivers : Delivers first (d :: calls) columns rest) :
    (∃ c columns', columns = c :: columns' ∧ Carries d first c ∧
        Delivers (first + 1) calls columns' rest) ∨
      columns = [] ∧ rest = d :: calls.filter (!·.lost) ∧ ∀ c, ¬Carries d first c := by
  obtain ⟨⟨good, hgood, hcarry⟩, longest⟩ := delivers
  have hfilter : (d :: calls).filter (!·.lost) = d :: calls.filter (!·.lost) := by simp [hd]
  rw [hfilter] at hgood
  cases columns with
  | nil =>
    obtain rfl := List.forall₂_nil_right_iff.mp hcarry
    obtain rfl : rest = _ := hgood.symm
    exact .inr ⟨rfl, rfl, longest d rfl⟩
  | cons c columns =>
    rw [List.zipIdx_cons] at hcarry
    obtain ⟨d', good', carries, hcarry', rfl⟩ := List.forall₂_cons_right_iff.mp hcarry
    obtain ⟨rfl, hgood'⟩ := List.cons.inj hgood
    refine .inl ⟨c, columns, rfl, carries, ⟨good', hgood', hcarry'⟩, ?_⟩
    rwa [List.length_cons, Nat.add_comm columns.length, ← Nat.add_assoc] at longest

theorem exists_delivers (first : ℕ) (calls : List Delivery) :
    ∃ columns rest, Delivers first calls columns rest := by
  induction calls generalizing first with
  | nil => exact ⟨[], [], .nil⟩
  | cons d calls ih =>
    by_cases hd : d.lost = true
    · obtain ⟨columns, rest, delivers⟩ := ih first
      exact ⟨columns, rest, (Delivers.lost hd).mpr delivers⟩
    · rw [Bool.not_eq_true] at hd
      by_cases hcarry : ∃ c, Carries d first c
      · obtain ⟨c, carries⟩ := hcarry
        obtain ⟨columns, rest, delivers⟩ := ih (first + 1)
        exact ⟨c :: columns, rest, .cons hd carries delivers⟩
      · rw [not_exists] at hcarry
        exact ⟨[], _, .flawed hd hcarry⟩

theorem Delivers.unique {columns' : List Column} {rest' : List Delivery}
    (h : Delivers first calls columns rest) (h' : Delivers first calls columns' rest') :
    columns = columns' ∧ rest = rest' := by
  induction calls generalizing first columns columns' with
  | nil =>
    obtain ⟨rfl, rfl⟩ := h.of_nil
    obtain ⟨rfl, rfl⟩ := h'.of_nil
    exact ⟨rfl, rfl⟩
  | cons d calls ih =>
    by_cases hd : d.lost = true
    · rw [Delivers.lost hd] at h h'
      exact ih h h'
    · rw [Bool.not_eq_true] at hd
      rcases h.of_cons hd with ⟨c, columns, rfl, carries, h⟩ | ⟨rfl, rfl, hcarry⟩
      · rcases h'.of_cons hd with ⟨c', columns', rfl, carries', h'⟩ | ⟨-, -, hcarry⟩
        · obtain ⟨rfl, rfl⟩ := ih h h'
          exact ⟨congrArg (· :: columns) (carries.unique carries'), rfl⟩
        · exact absurd carries (hcarry c)
      · rcases h'.of_cons hd with ⟨c', columns', rfl, carries', h'⟩ | ⟨rfl, rfl, -⟩
        · exact absurd carries' (hcarry c')
        · exact ⟨rfl, rfl⟩

def visitEach {σ μ : Type} (visitor : ℕ → Column → μ → σ → (Option Payload × μ) × σ) :
    ℕ → List Column → μ → σ → (Option Payload × μ) × σ
  | _, [], memory, s => ((none, memory), s)
  | index, c :: columns, memory, s =>
    match visitor index c memory s with
    | ((some p, memory), s) => ((some p, memory), s)
    | ((none, memory), s) => visitEach visitor (index + 1) columns memory s

/-- How a delivery of `count` columns ends: a panic of the visitor comes first, then the first
delivery that carries nothing, then the engine's own report. -/
inductive Verdict (entryPoint : String) (count : ℕ) (engine : Except Error Unit) :
    Option Payload → List Delivery → Outcome ℕ → Prop
  | panicked {p : Payload} {rest : List Delivery} :
      Verdict entryPoint count engine (some p) rest (.panic p)
  | flawed {d : Delivery} {rest : List Delivery} {detail : String} : Flawed d count detail →
      Verdict entryPoint count engine none (d :: rest)
        (.error (.marshalingMismatch entryPoint detail))
  | failed {e : Error} : engine = .error e → Verdict entryPoint count engine none [] (.error e)
  | delivered : engine = .ok () → Verdict entryPoint count engine none [] (.value count)

variable {μ : Type} {entryPoint : String} {visitor : Visitor μ} {memory memory' : μ}
  {s s' : State} {panic : Option Payload}

theorem deliver_of_problem {got : Delivered μ} (h : got.problem.isSome = true)
    (calls : List Delivery) (s : State) : deliver entryPoint visitor calls got s = (got, s) := by
  induction calls with
  | nil => rfl
  | cons d calls ih => simp only [deliver, accept, h, Bool.or_true, if_true, ih]

theorem deliver_lost (hd : d.lost = true) (got : Delivered μ) (s : State) :
    deliver entryPoint visitor (d :: calls) got s = deliver entryPoint visitor calls got s := by
  simp only [deliver, accept, hd, Bool.true_or, if_true]

theorem deliver_verdict (entryPoint : String) (delivers : Delivers first calls columns rest)
    (visited : visitEach visitor first columns memory s = ((panic, memory'), s')) :
    ∃ got, deliver entryPoint visitor calls ⟨first, none, memory⟩ s = (got, s') ∧
      got.memory = memory' ∧ ∀ engine, Verdict entryPoint (first + columns.length) engine panic rest
        (got.outcome engine) := by
  induction calls generalizing first columns memory s with
  | nil =>
    obtain ⟨rfl, rfl⟩ := delivers.of_nil
    simp only [visitEach, Prod.mk.injEq] at visited
    obtain ⟨⟨rfl, rfl⟩, rfl⟩ := visited
    refine ⟨_, rfl, rfl, fun engine => ?_⟩
    cases engine with
    | error e => exact .failed rfl
    | ok => exact .delivered rfl
  | cons d calls ih =>
    by_cases hd : d.lost = true
    · rw [deliver_lost hd]
      exact ih ((Delivers.lost hd).mp delivers) visited
    · rw [Bool.not_eq_true] at hd
      rcases delivers.of_cons hd with ⟨c, columns, rfl, carries, delivers⟩ | ⟨rfl, rfl, hcarry⟩
      · simp only [deliver, accept, hd, Option.isSome_none, Bool.or_self, Bool.false_eq_true,
          if_false, examine_of_carries carries]
        rw [visitEach] at visited
        generalize visitor first c memory s = visit at visited ⊢
        obtain ⟨⟨_ | p, memory₁⟩, s₁⟩ := visit
        · rw [List.length_cons, Nat.add_comm columns.length, ← Nat.add_assoc]
          exact ih delivers visited
        · simp only [Prod.mk.injEq] at visited
          obtain ⟨⟨rfl, rfl⟩, rfl⟩ := visited
          rw [deliver_of_problem rfl]
          exact ⟨_, rfl, rfl, fun engine => .panicked⟩
      · simp only [visitEach, Prod.mk.injEq] at visited
        obtain ⟨⟨rfl, rfl⟩, rfl⟩ := visited
        rcases examine_cases first d with ⟨c, -, carries⟩ | ⟨detail, hexamine, flawed⟩
        · exact absurd carries (hcarry c)
        · simp only [deliver, accept, hd, Option.isSome_none, Bool.or_self, Bool.false_eq_true,
            if_false, hexamine]
          rw [deliver_of_problem rfl]
          exact ⟨_, rfl, rfl, fun engine => .flawed flawed⟩

def State.admitted (ctx : Context) (s : State) : State :=
  ({ s with word := s.word.entered }.mark .opened).emit (guardEvent ctx .trace "guarded call" [])

variable {ctx : Context}

theorem enter?_of_live (live : s.word.isDisposed = false) :
    s.word.enter? = some s.word.entered := by
  rw [Guard.Word.enter?_eq, live]
  rfl

theorem guarded_of_live {α : Type} {refused : Error → α} {op : State → α × State} {a : α}
    (live : s.word.isDisposed = false) (run : op (s.admitted ctx) = (a, s')) :
    guarded ctx refused op s = (a, leave ctx s') := by
  simp only [State.admitted] at run
  simp only [guarded, enter?_of_live live, run]

theorem guarded_of_disposed {α : Type} {refused : Error → α} {op : State → α × State}
    (disposed : s.word.isDisposed = true) :
    guarded ctx refused op s = (refused (.resourceDisposed ctx.resource.name), s) := by
  have henter : s.word.enter? = none := by rw [Guard.Word.enter?_eq, if_pos disposed]
  simp only [guarded, henter]

theorem fill_of_live {inside : Reentry} {side : Side} {reply : Reply (List Delivery)}
    {s₁ s₂ : State} (live : s.word.isDisposed = false)
    (begun : beginCall inside (.fill side) (ctx.table.fill side) (s.admitted ctx) = (reply, s₁))
    (delivers : Delivers 0 (reply.written.getD []) columns rest)
    (visited : visitEach visitor 0 columns memory s₁ = ((panic, memory'), s₂)) :
    ∃ outcome, Verdict (Export.fill side).symbol columns.length
        (reported (Export.fill side).symbol reply.result) panic rest outcome ∧
      fill ctx inside side visitor memory s = ((outcome, memory'), leave ctx
        (check ctx (Export.fill side).symbol (endCall reply s₂).1 (endCall reply s₂).2).2) := by
  obtain ⟨got, hdeliver, hmemory, verdict⟩ :=
    deliver_verdict (Export.fill side).symbol delivers visited
  rw [Nat.zero_add] at verdict
  have hchecked := check_endCall ctx (Export.fill side).symbol reply s₂ (endCall reply s₂).2
  refine ⟨_, verdict _, guarded_of_live live ?_⟩
  simp only [begun, Delivered.start, hdeliver]
  rw [← hchecked, hmemory]

/-- A fill of a statement that is not disposed shows the visitor the longest prefix of what the
engine delivers that is in order and well-formed, until the visitor panics. It ends as the panic
says, else as the first faulty delivery says, else as the engine says. -/
theorem fill_delivers {inside : Reentry} {side : Side} {reply : Reply (List Delivery)} {s₁ : State}
    (visitor : Visitor μ) (memory : μ) (live : s.word.isDisposed = false)
    (begun : beginCall inside (.fill side) (ctx.table.fill side) (s.admitted ctx) = (reply, s₁)) :
    ∃ columns rest panic memory' s₂ outcome,
      Delivers 0 (reply.written.getD []) columns rest ∧
      visitEach visitor 0 columns memory s₁ = ((panic, memory'), s₂) ∧
      Verdict (Export.fill side).symbol columns.length
        (reported (Export.fill side).symbol reply.result) panic rest outcome ∧
      fill ctx inside side visitor memory s = ((outcome, memory'), leave ctx
        (check ctx (Export.fill side).symbol (endCall reply s₂).1 (endCall reply s₂).2).2) := by
  obtain ⟨columns, rest, delivers⟩ := exists_delivers 0 (reply.written.getD [])
  obtain ⟨panic, memory', s₂, hvisit⟩ : ∃ panic memory' s₂,
      visitEach visitor 0 columns memory s₁ = ((panic, memory'), s₂) := ⟨_, _, _, rfl⟩
  obtain ⟨outcome, verdict, hfill⟩ := fill_of_live live begun delivers hvisit
  exact ⟨columns, rest, panic, memory', s₂, outcome, delivers, hvisit, verdict, hfill⟩

def gappyCalls : List Delivery :=
  let c : Column := ⟨"ks", "t", "é", 3⟩
  [⟨5, c.raw, true⟩, ⟨0, c.raw, false⟩, ⟨2, c.raw, false⟩, ⟨1, c.raw, false⟩]

def gappyEngine : Context where
  table := { Engine.Script.silent.table with
    fillVariables := fun _ => ⟨[], [], some gappyCalls, ⟨2, some [98]⟩⟩ }
  origin := .custom
  resource := .preparedStatement
  handle := ⟨1⟩

def disposingCollector : Visitor (List Column) := fun _ column columns s =>
  ((none, columns ++ [column]), disposeStatement gappyEngine s)

theorem fill_delivers_gap :
    ∃ columns rest memory s' outcome, Delivers 0 gappyCalls columns rest ∧
      Verdict (Export.fill .variables).symbol columns.length
        (reported (Export.fill .variables).symbol ⟨2, some [98]⟩) none rest outcome ∧
      fill gappyEngine (fun _ s => ([], s)) .variables disposingCollector [] .fresh =
        ((outcome, memory), s') ∧
      memory = [⟨"ks", "t", "é", 3⟩] ∧
      outcome = .error (.marshalingMismatch (Export.fill .variables).symbol
        "column index 2 delivered, expected 1") := by
  have live : State.fresh.word.isDisposed = false := by decide
  have begun : beginCall (fun _ s => ([], s)) (.fill .variables)
      (gappyEngine.table.fill .variables) (State.fresh.admitted gappyEngine) = (_, _) := rfl
  obtain ⟨columns, rest, panic, memory, s₂, outcome, delivers, hvisit, verdict, hfill⟩ :=
    fill_delivers disposingCollector [] live begun
  have hrun : (fill gappyEngine (fun _ s => ([], s)) .variables disposingCollector [] .fresh).1 =
      (.error (.marshalingMismatch (Export.fill .variables).symbol
        "column index 2 delivered, expected 1"), [⟨"ks", "t", "é", 3⟩]) := by decide +kernel
  rw [hfill, Prod.mk.injEq] at hrun
  obtain ⟨rfl, rfl⟩ := hrun
  cases verdict with
  | flawed hflawed => exact ⟨_, _, _, _, _, delivers, .flawed hflawed, hfill, rfl, rfl⟩
  | failed hfailed => exact ⟨_, _, _, _, _, delivers, .failed hfailed, hfill, rfl, rfl⟩

end EngineBridge.Facade
