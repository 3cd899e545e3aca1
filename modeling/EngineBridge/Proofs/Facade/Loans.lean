import EngineBridge.Engine.Script
import EngineBridge.Proofs.Facade.Stable
import EngineBridge.Proofs.Guard.History

/-!
Messages on loan. Whatever a call returns and however the operation around it ends, a message is
copied and given back before anything else is entered in the journal, so that nothing is on loan
when an operation ends and nothing is given back twice.
-/

namespace EngineBridge.Engine

open Abi (RawResult)

variable {l : Ledger} {e x : Entry} {k t : ℕ}

namespace Ledger

def settle (l : Ledger) : Ledger :=
  ((l.note (.lent l.issued)).copy l.issued).giveBack l.issued

inductive Settled : Ledger → Prop
  | empty : Settled .empty
  | close {l : Ledger} : Settled l → Settled l.close
  | settle {l : Ledger} : Settled l → Settled l.settle

@[simp] theorem lent_note (l : Ledger) (e : Entry) :
    (l.note e).lent = l.lent ++ e.lent?.toList := by
  simp only [note, lent, List.filterMap_append, List.filterMap_cons, List.filterMap_nil]
  cases e.lent? <;> rfl

@[simp] theorem returned_note (l : Ledger) (e : Entry) :
    (l.note e).returned = l.returned ++ e.returned?.toList := by
  simp only [note, returned, List.filterMap_append, List.filterMap_cons, List.filterMap_nil]
  cases e.returned? <;> rfl

@[simp] theorem ended_note (l : Ledger) (e : Entry) :
    (l.note e).journal.count .ended = l.journal.count .ended + if e = .ended then 1 else 0 := by
  simp [note, List.count_singleton]

theorem length_note (l : Ledger) (e : Entry) : (l.note e).journal.length = l.journal.length + 1 :=
  List.length_append

theorem getElem?_note :
    (l.note e).journal[k]? = some x ↔ l.journal[k]? = some x ∨ k = l.journal.length ∧ x = e :=
  Guard.getElem?_concat

theorem lent_close (l : Ledger) : l.close.lent = l.lent := by
  simp [Ledger.close, Entry.lent?]

theorem returned_close (l : Ledger) : l.close.returned = l.returned := by
  simp [Ledger.close, Entry.returned?]

theorem lent_settle (l : Ledger) : l.settle.lent = l.lent ++ [l.issued] := by
  simp [Ledger.settle, copy, giveBack, Entry.lent?]

theorem returned_settle (l : Ledger) : l.settle.returned = l.returned ++ [l.issued] := by
  simp [Ledger.settle, copy, giveBack, Entry.returned?]

theorem getElem?_settle :
    l.settle.journal[k]? = some x ↔ l.journal[k]? = some x ∨
      k = l.journal.length ∧ x = .lent l.issued ∨
      k = l.journal.length + 1 ∧ x = .copied l.issued ∨
      k = l.journal.length + 2 ∧ x = .returned l.issued := by
  simp only [Ledger.settle, copy, giveBack, getElem?_note, length_note, or_assoc]

theorem take_note (h : k ≤ l.journal.length) (e : Entry) :
    (l.note e).journal.take k = l.journal.take k :=
  List.take_append_of_le_length h

theorem take_settle (h : k ≤ l.journal.length) : l.settle.journal.take k = l.journal.take k := by
  have hjournal : l.settle.journal =
      l.journal ++ [.lent l.issued, .copied l.issued, .returned l.issued] := by
    simp [Ledger.settle, copy, giveBack, note]
  rw [hjournal, List.take_append_of_le_length h]

/-- Every message that an engine lent is given back once, after its text has been copied and before
the next thing happens; nothing else is given back; and nothing is on loan at the end of an
operation. -/
structure Repaid (l : Ledger) : Prop where
  numbered : l.lent = List.range l.issued
  once : l.returned = List.range l.issued
  copied : ∀ k t, l.journal[k]? = some (.lent t) →
    l.journal[k + 1]? = some (.copied t) ∧ l.journal[k + 2]? = some (.returned t)
  borrowed : ∀ k t, l.journal[k]? = some (.returned t) →
    ∃ m, k = m + 2 ∧ l.journal[m]? = some (.lent t)
  atEnd : ∀ k, l.journal[k]? = some .ended →
    (⟨l.journal.take k⟩ : Ledger).returned = (⟨l.journal.take k⟩ : Ledger).lent

namespace Repaid

theorem empty : Repaid .empty := by
  refine ⟨rfl, rfl, ?_, ?_, ?_⟩ <;> simp [Ledger.empty]

theorem close (repaid : l.Repaid) : l.close.Repaid := by
  have hissued : l.close.issued = l.issued := by rw [issued, lent_close, issued]
  refine ⟨?_, ?_, ?_, ?_, ?_⟩
  · rw [lent_close, hissued, repaid.numbered]
  · rw [returned_close, hissued, repaid.once]
  · intro k t hk
    rcases getElem?_note.mp hk with hold | ⟨-, hnew⟩
    · obtain ⟨hcopied, hback⟩ := repaid.copied k t hold
      exact ⟨getElem?_note.mpr (.inl hcopied), getElem?_note.mpr (.inl hback)⟩
    · cases hnew
  · intro k t hk
    rcases getElem?_note.mp hk with hold | ⟨-, hnew⟩
    · obtain ⟨m, hm, hlent⟩ := repaid.borrowed k t hold
      exact ⟨m, hm, getElem?_note.mpr (.inl hlent)⟩
    · cases hnew
  · intro k hk
    rcases getElem?_note.mp hk with hold | ⟨rfl, -⟩
    · have hlt := (List.getElem?_eq_some_iff.mp hold).1
      rw [Ledger.close, take_note hlt.le]
      exact repaid.atEnd k hold
    · rw [Ledger.close, take_note le_rfl, List.take_length]
      exact repaid.once.trans repaid.numbered.symm

theorem settle (repaid : l.Repaid) : l.settle.Repaid := by
  have hissued : l.settle.issued = l.issued + 1 := by
    rw [issued, lent_settle, List.length_append, issued, List.length_singleton]
  refine ⟨?_, ?_, ?_, ?_, ?_⟩
  · rw [hissued, List.range_succ, lent_settle, ← repaid.numbered]
  · rw [hissued, List.range_succ, returned_settle, repaid.once]
  · intro k t hk
    rcases getElem?_settle.mp hk with hold | ⟨rfl, hnew⟩ | ⟨-, hnew⟩ | ⟨-, hnew⟩
    · obtain ⟨hcopied, hback⟩ := repaid.copied k t hold
      exact ⟨getElem?_settle.mpr (.inl hcopied), getElem?_settle.mpr (.inl hback)⟩
    · cases hnew
      exact ⟨getElem?_settle.mpr (by simp), getElem?_settle.mpr (by simp)⟩
    · cases hnew
    · cases hnew
  · intro k t hk
    rcases getElem?_settle.mp hk with hold | ⟨-, hnew⟩ | ⟨-, hnew⟩ | ⟨rfl, hnew⟩
    · obtain ⟨m, hm, hlent⟩ := repaid.borrowed k t hold
      exact ⟨m, hm, getElem?_settle.mpr (.inl hlent)⟩
    · cases hnew
    · cases hnew
    · cases hnew
      exact ⟨_, rfl, getElem?_settle.mpr (by simp)⟩
  · intro k hk
    rcases getElem?_settle.mp hk with hold | ⟨-, hnew⟩ | ⟨-, hnew⟩ | ⟨-, hnew⟩
    · have hlt := (List.getElem?_eq_some_iff.mp hold).1
      rw [take_settle hlt.le]
      exact repaid.atEnd k hold
    · cases hnew
    · cases hnew
    · cases hnew

end Repaid

theorem Settled.repaid (settled : l.Settled) : l.Repaid := by
  induction settled with
  | empty => exact .empty
  | close _ ih => exact ih.close
  | settle _ ih => exact ih.settle

def after (l : Ledger) (r : RawResult) : Ledger := if r.message.isSome then l.settle else l

theorem Settled.after (settled : l.Settled) (r : RawResult) : (l.after r).Settled := by
  unfold Ledger.after
  split_ifs
  · exact settled.settle
  · exact settled

theorem ended_after (l : Ledger) (r : RawResult) :
    (l.after r).journal.count .ended = l.journal.count .ended := by
  unfold Ledger.after
  split_ifs
  · simp [Ledger.settle, copy, giveBack]
  · rfl

end Ledger

end EngineBridge.Engine

namespace EngineBridge.Facade

open Abi (Export RawResult)
open Engine (Entry Ledger Reply Returned)

def Mark.ends : Mark → ℕ | closed => 1 | disposal => 1 | _ => 0

def endings (t : List Mark) : ℕ := (t.map Mark.ends).sum

theorem endings_concat (t : List Mark) (m : Mark) : endings (t ++ [m]) = endings t + m.ends := by
  simp [endings]

variable {ctx : Context} {s s' : State}

section

variable (booked : ctx.table.freeString = Ledger.giveBack)

include booked

end

structure Clear (s : State) : Prop where
  settled : s.ledger.Settled
  ended : s.ledger.journal.count .ended = endings s.trail

theorem Clear.of_eq (clear : Clear s) (ledger : s'.ledger = s.ledger)
    (trail : s'.trail = s.trail) : Clear s' := by
  obtain ⟨settled, ended⟩ := clear
  exact ⟨ledger ▸ settled, by rw [ledger, trail, ended]⟩

theorem Clear.mark (clear : Clear s) {m : Mark} (hm : m.ends = 0) (ledger : s'.ledger = s.ledger)
    (trail : s'.trail = s.trail ++ [m]) : Clear s' := by
  obtain ⟨settled, ended⟩ := clear
  refine ⟨ledger ▸ settled, ?_⟩
  rw [ledger, trail, endings_concat, hm, ended, Nat.add_zero]

theorem Clear.close (clear : Clear s) {m : Mark} (hm : m.ends = 1)
    (closed : ∃ r, s'.ledger = (s.ledger.after r).close)
    (trail : s'.trail = s.trail ++ [m]) : Clear s' := by
  obtain ⟨settled, ended⟩ := clear
  obtain ⟨r, ledger⟩ := closed
  refine ⟨ledger ▸ .close (settled.after r), ?_⟩
  rw [ledger, trail, endings_concat, hm, ← ended, Ledger.close, Ledger.ended_note, if_pos rfl,
    Ledger.ended_after]

theorem Clear.fresh {events : List Log.Event}
    (adopted : adopt ctx (State.fresh.emitAll events) = (.ok (), s)) :
    Clear s ∧ s.Recorded := by
  obtain ⟨es, rfl⟩ := adopt_frame adopted
  exact ⟨⟨.empty, rfl⟩, nofun⟩

end EngineBridge.Facade
