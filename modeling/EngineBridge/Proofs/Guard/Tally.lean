import EngineBridge.Proofs.Guard.Release
import EngineBridge.Proofs.Guard.Trace
import Mathlib.Data.Finset.Card

/-!
The word of a guard as it is meant: a flag and a count that has no bound. Each access to the word is
the plain step on the flag and the count, since no run brings the count to the place of the flag or
takes more from it than is there. A value which a call has read stands for what the word was when
the call, itself in progress, was not yet counted; so it leaves room for one more call, however old
it is.
-/

open scoped BigOperators
namespace EngineBridge.Guard

variable {ι α : Type} {resource : String}

structure Tally where
  disposed : Bool
  count : ℕ
  deriving Repr, DecidableEq

/-- Bit 63 of the word, and the number in the bits below it. -/
def Word.tally (w : Word) : Tally := ⟨w.bits.toNat.testBit 63, w.bits.toNat % 2 ^ 63⟩

namespace Tally

def fresh : Tally := ⟨false, 0⟩

inductive Moves : Event α → Tally → Tally → Prop
  | enter {w : Word} {n : ℕ} : Moves (.admitted w) ⟨false, n⟩ ⟨false, n + 1⟩
  | leave {w : Word} {d : Bool} {n : ℕ} : Moves (.left w) ⟨d, n + 1⟩ ⟨d, n⟩
  | dispose {w : Word} {d : Bool} {n : ℕ} : Moves (.disposed w) ⟨d, n⟩ ⟨true, n⟩
  | rest {e : Event α} {a : Tally} (idle : ∀ w, e.after w = w) : Moves e a a

structure Step (a : Tally) (e : Event α) (a' : Tally) : Prop where
  found : ∀ w, e.found? = some w → w.tally = a
  moves : Moves e a a'

inductive Walk : Tally → History ι α → Tally → Prop
  | refl {a : Tally} : Walk a [] a
  | step {a a' a'' : Tally} {h : History ι α} {x : Entry ι α} (before : Walk a h a')
      (step : Step a' x.event a'') : Walk a (h ++ [x]) a''

end Tally

namespace Word

theorem tally_eq (w : Word) : w.tally = ⟨w.isDisposed, w.count⟩ := by
  have hd := isDisposed_iff_le w
  have hw := w.bits.toNat_lt
  rw [tally, count_eq_mod, Tally.mk.injEq, Nat.testBit_eq_decide_div_mod_eq]
  refine ⟨?_, rfl⟩
  rw [Bool.eq_iff_iff, hd, decide_eq_true_iff]
  omega

theorem tally_of_live {w : Word} (live : w.isDisposed = false) : w.tally = ⟨false, w.count⟩ := by
  rw [tally_eq, live]

theorem isLastOut_iff_tally (w : Word) : w.isLastOut = true ↔ w.tally = ⟨true, 1⟩ := by
  rw [isLastOut_iff, tally_eq, Tally.mk.injEq]

theorem tally_entered {w : Word} (live : w.isDisposed = false) (room : w.count + 1 < 2 ^ 63) :
    w.entered.tally = ⟨false, w.count + 1⟩ := by
  obtain ⟨hd, hc⟩ := entered_of_live live room
  rw [tally_eq, hd, hc]

-- A full count would be carried into the flag.
example : (⟨countMask⟩ : Word).entered.tally = ⟨true, 0⟩ := by decide

theorem tally_disposed (w : Word) : w.disposed.tally = ⟨true, w.count⟩ := by
  rw [tally_eq, isDisposed_disposed, count_disposed]

theorem tally_left {w : Word} {n : ℕ} (counted : w.count = n + 1) :
    w.left.tally = ⟨w.isDisposed, n⟩ := by
  obtain ⟨hd, hc⟩ := left_of_counted (w := w) (by omega)
  rw [tally_eq, hd, hc, counted, Nat.add_sub_cancel]

theorem lt_countMask_of_live {w : Word} (live : w.isDisposed = false)
    (room : w.count + 1 < 2 ^ 63) : w.bits < countMask := by
  have hm : countMask.toNat = 2 ^ 63 - 1 := by decide
  have hw := bits_toNat w
  rw [if_neg (by simp [live])] at hw
  rw [UInt64.lt_iff_toNat_lt, hm]
  omega

end Word

theorem Thread.Step.tally {now n : ℕ} {w : Word} {t t' : Thread α} {e : Event α}
    (h : Step resource now w t n e t') (counted : t.tokens ≤ w.count)
    (room : w.count + e.admissions < 2 ^ 63) : Tally.Step w.tally e (e.after w).tally := by
  refine ⟨fun w' found => congrArg Word.tally (h.found found), ?_⟩
  cases h with
  | exchange live exchanged =>
    have hw : w.isDisposed = false := by
      rw [Word.compareExchange_eq_ok_current exchanged]
      exact live
    rw [Word.tally_of_live hw, Event.after, Word.tally_entered hw room]
    exact .enter
  | leave =>
    obtain ⟨m, hm⟩ : ∃ m, w.count = m + 1 := by
      simp only [tokens, Stage.tokens] at counted
      exact ⟨w.count - 1, by omega⟩
    rw [Event.after, Word.tally_left hm, Word.tally_eq, hm]
    exact .leave
  | dispose =>
    rw [Event.after, Word.tally_disposed, Word.tally_eq]
    exact .dispose
  | _ => exact .rest fun _ => rfl

theorem Reads.uncounted {l : List (Event α)} {c : Word} (reads : Reads l c) {e : Event α}
    (he : e ∈ l) : e.admissions = 0 ∧ e.exits = 0 := by
  rcases reads.mem he with rfl | ⟨w, rfl⟩ | ⟨c, w, rfl⟩ <;> exact ⟨rfl, rfl⟩

theorem LetIn.exits {l : List (Event α)} (letIn : LetIn l) {e : Event α} (he : e ∈ l) :
    e.exits = 0 := by
  obtain ⟨reads, live⟩ := letIn
  rcases List.mem_append.mp he with he | he
  · exact (reads.uncounted he).2
  · rw [List.mem_singleton.mp he]
    rfl

variable [DecidableEq ι] {h tr : History ι α} {x : Entry ι α} {i : ι} {n : ℕ}

namespace History

def makers (h : History ι α) (weight : Event α → ℕ) : Finset (ι × ℕ) :=
  ((h.filter fun x => 0 < weight x.event).map fun x => (x.thread, x.number)).toFinset

def counted (h : History ι α) : Finset (ι × ℕ) := h.makers Event.admissions \ h.makers Event.exits

theorem mem_makers {weight : Event α → ℕ} :
    (i, n) ∈ h.makers weight ↔ ∃ e ∈ h.own i n, 0 < weight e := by
  simp [makers, own, and_comm, and_left_comm]

theorem notMem_makers {weight : Event α → ℕ} (none : ∀ e ∈ h.own i n, weight e = 0) :
    (i, n) ∉ h.makers weight := by
  rw [mem_makers]
  rintro ⟨e, he, hpos⟩
  exact hpos.ne' (none e he)

theorem makers_of_made (weight : Event α → ℕ) (made : 0 < weight x.event) :
    History.makers (h ++ [x]) weight = insert (x.thread, x.number) (h.makers weight) := by
  simp [makers, made]

theorem makers_of_none {weight : Event α → ℕ} (none : weight x.event = 0) :
    History.makers (h ++ [x]) weight = h.makers weight := by
  simp [makers, none]

theorem counted_admitted {w : Word} (fresh : (i, n) ∉ h.makers Event.exits) :
    History.counted (h ++ [⟨i, n, .admitted w⟩]) = insert (i, n) h.counted := by
  have hadmissions :=
    makers_of_made (h := h) (x := ⟨i, n, .admitted w⟩) Event.admissions Nat.one_pos
  rw [counted, hadmissions, makers_of_none rfl, Finset.insert_sdiff_of_notMem _ fresh, counted]

theorem counted_left {w : Word} :
    History.counted (h ++ [⟨i, n, .left w⟩]) = h.counted.erase (i, n) := by
  have hexits := makers_of_made (h := h) (x := ⟨i, n, .left w⟩) Event.exits Nat.one_pos
  rw [counted, hexits, makers_of_none rfl, Finset.sdiff_insert, counted]

theorem counted_rest (admissions : x.event.admissions = 0) (exits : x.event.exits = 0) :
    History.counted (h ++ [x]) = h.counted := by
  rw [counted, makers_of_none admissions, makers_of_none exits, counted]

end History

variable [Fintype ι] {g : Shared ι α} {s s' : System ι α}

theorem Run.counted_concat (run : Run g h s) (step : s.Step g.resource x s') :
    (History.counted (h ++ [x])).card + x.event.exits = h.counted.card + x.event.admissions := by
  cases step with
  | @mk i n e t hstep =>
    have hduty := (run.kept i).duty
    generalize s.threads i = t₀ at hstep hduty
    cases hstep with
    | @exchange f =>
      have reads : Reads (h.own i f.number) _ := hduty _ List.mem_cons_self
      have hnew : (i, f.number) ∉ h.makers Event.admissions :=
        History.notMem_makers fun e he => (reads.uncounted he).1
      have hfresh : (i, f.number) ∉ h.makers Event.exits :=
        History.notMem_makers fun e he => (reads.uncounted he).2
      rw [History.counted_admitted hfresh, Finset.card_insert_of_notMem]
      · rfl
      · exact fun hmem => hnew (Finset.mem_sdiff.mp hmem).1
    | @leave f o =>
      obtain ⟨l, letIn, hown⟩ := hduty _ List.mem_cons_self
      obtain ⟨w, hw, -⟩ := letIn.admitted
      have hmem : (i, f.number) ∈ h.counted := by
        refine Finset.mem_sdiff.mpr ⟨?_, ?_⟩
        · exact History.mem_makers.mpr ⟨.admitted w, hown ▸ by simp [hw], Nat.one_pos⟩
        · refine History.notMem_makers fun e he => ?_
          have he' : e ∈ l ∨ e = .began ∨ e = .ended o := by simpa [hown, or_assoc] using he
          rcases he' with he' | rfl | rfl
          · exact letIn.exits he'
          · rfl
          · rfl
      rw [History.counted_left]
      exact Finset.card_erase_add_one hmem
    | _ => rw [History.counted_rest rfl rfl]; rfl

theorem Run.card_counted (run : Run g h s) : h.counted.card = s.tokens := by
  refine run.invariant (P := fun h s => h.counted.card = s.tokens) ?_ ?_
  · intro s adopt
    rw [Shared.adopt_eq_ok adopt]
    simp [History.counted, History.makers, System.tokens, Thread.tokens, Thread.start,
      Stage.tokens]
  · intro h s x s' ih run step
    have hcounted := run.counted_concat step
    have htokens := step.tokens
    omega

/-- A call that holds a value was itself in progress and not counted when it found the value. -/
theorem Run.held (run : Run g h s) {f : Frame α} {body : Program α} {c : Word}
    {fs : List (Frame α)} (here : s.threads i = ⟨.trying f body c, fs⟩) :
    c.count + 1 < capacity := by
  refine run.invariant (P := fun _ s => ∀ i f body c fs,
    s.threads i = ⟨.trying f body c, fs⟩ → c.count + 1 < capacity) ?_ ?_ i f body c fs here
  · intro s adopt i f body c fs here
    rw [Shared.adopt_eq_ok adopt] at here
    cases here
  · intro h s x s' ih run step i f body c fs here
    cases step with
    | @mk j n e t hstep =>
      dsimp only at here
      by_cases hj : i = j
      · subst hj
        rw [Function.update_self] at here
        obtain ⟨-, rfl, origin⟩ := hstep.into_loop here
        have waits : (s.threads i).tokens < (s.threads i).calls := by
          rcases origin with ⟨-, h⟩ | ⟨c₀, -, h⟩ <;>
            simp [h, Thread.tokens, Thread.calls, Stage.tokens, Stage.calls]
        have hlt := System.tokens_lt_calls waits
        have hroom := run.room
        have hcounted := run.balanced.counted
        omega
      · rw [Function.update_of_ne hj] at here
        exact ih i f body c fs here

theorem Balanced.tally (balanced : Balanced h s) (step : s.Step resource x s')
    (room : s'.calls < capacity) : Tally.Step s.word.tally x.event s'.word.tally := by
  have hroom := balanced.room step room
  have hcounted := balanced.counted
  cases step with
  | mk i hstep => exact hstep.tally (hcounted ▸ s.tokens_le i) hroom

theorem Balanced.walk (balanced : Balanced h s) (path : Path resource s tr s') :
    Tally.Walk s.word.tally tr s'.word.tally := by
  induction path with
  | refl => exact .refl
  | step before step room ih => exact ih.step ((balanced.path before).tally step room)

theorem Run.walk (run : Run g h s) : Tally.Walk .fresh h s.word.tally := by
  obtain ⟨s₀, adopt, path⟩ := run
  have hfresh : Word.fresh.tally = .fresh := by decide
  have hwalk := (Balanced.adopted adopt).walk path
  rwa [Shared.adopt_eq_ok adopt, hfresh] at hwalk

theorem Run.leaving_counted (run : Run g h s) {f : Frame α} {o : Outcome α}
    {fs : List (Frame α)} (here : s.threads i = ⟨.leaving f o, fs⟩) : 0 < s.word.count := by
  have htokens := s.tokens_le i
  rw [here, run.balanced.counted] at htokens
  simp only [Thread.tokens, Stage.tokens] at htokens
  omega

def contended : Shared Bool Unit where
  resource := "prepared statement"
  handle := ⟨1⟩
  programs second :=
    if second then .call (.dispose fun _ => .done (.value ())) .done
    else .call (.done (.value ())) .done

-- The first exchange of the first thread fails although the word is the expected one; its second
-- one has found the call of the other, and the value it holds since then is without the flag.
def contendedHistory : History Bool Unit :=
  [⟨false, 0, .invoked .call⟩, ⟨false, 0, .read .fresh⟩, ⟨false, 0, .failed .fresh .fresh⟩,
    ⟨true, 3, .invoked .call⟩, ⟨true, 3, .read .fresh⟩, ⟨true, 3, .admitted .fresh⟩,
    ⟨false, 0, .failed .fresh ⟨1⟩⟩, ⟨true, 3, .began⟩, ⟨true, 8, .invoked .dispose⟩,
    ⟨true, 8, .disposed ⟨1⟩⟩, ⟨true, 8, .returned (.disposal true)⟩,
    ⟨true, 3, .ended (.value ())⟩]

theorem contended_run :
    ∃ s, Run contended contendedHistory s ∧ s.word = ⟨Word.disposedFlag ||| 1⟩ ∧
      s.threads false = ⟨.trying ⟨0, .done⟩ (.done (.value ())) ⟨1⟩, []⟩ ∧
        s.threads true = ⟨.leaving ⟨3, .done⟩ (.value ()), []⟩ := by
  have r₀ := Run.adopted (g := contended) rfl
  have r₁ := r₀.step (.mk false .invokeCall) (by decide)
  have r₂ := r₁.step (.mk false .load) (by decide)
  have r₃ := r₂.step (.mk false (.fail rfl)) (by decide)
  have r₄ := r₃.step (.mk true .invokeCall) (by decide)
  have r₅ := r₄.step (.mk true .load) (by decide)
  have r₆ := r₅.step (.mk true (.exchange rfl rfl)) (by decide)
  have r₇ := r₆.step (.mk false (.fail rfl)) (by decide)
  have r₈ := r₇.step (.mk true .begin) (by decide)
  have r₉ := r₈.step (.mk true .invokeDispose) (by decide)
  have r₁₀ := r₉.step (.mk true .dispose) (by decide)
  have r₁₁ := r₁₀.step (.mk true .handBack) (by decide)
  have r₁₂ := r₁₁.step (.mk true .finish) (by decide)
  exact ⟨_, r₁₂, rfl, rfl, rfl⟩

/-- The word refines a flag and a count without bound: a run is a walk of these, and so is each
further step. The count is the number of calls between their exchange and their exit, and what the
guard asks of a word it asks of the flag and the count. The value that a call is about to exchange,
however old it is, leaves room for one more call, and an exit finds itself counted. -/
theorem word_refines_tally (run : Run g h s) :
    Tally.Walk .fresh h s.word.tally ∧
      (∀ x s', s.Step g.resource x s' → s'.calls < capacity →
        Tally.Step s.word.tally x.event s'.word.tally) ∧
      s.word.tally.count = h.counted.card ∧
      (∀ w : Word, w.isDisposed = w.tally.disposed ∧ w.inFlight.toNat = w.tally.count ∧
        (w.isLastOut = true ↔ w.tally = ⟨true, 1⟩)) ∧
      (∀ i f body c fs, s.threads i = ⟨.trying f body c, fs⟩ → c.isDisposed = false →
        c.bits < Word.countMask ∧ c.entered.tally = ⟨false, c.tally.count + 1⟩) ∧
      (∀ i f o fs, s.threads i = ⟨.leaving f o, fs⟩ → s.word.inFlight ≠ 0) := by
  refine ⟨run.walk, fun x s' => run.balanced.tally, ?_, ?_, ?_, ?_⟩
  · rw [run.card_counted, run.balanced.counted, Word.tally_eq]
  · intro w
    refine ⟨?_, ?_, w.isLastOut_iff_tally⟩
    · rw [Word.tally_eq]
    · rw [Word.tally_eq, Word.count]
  · intro i f body c fs here live
    have hroom := run.held here
    rw [Word.tally_entered live hroom, Word.tally_of_live live]
    exact ⟨Word.lt_countMask_of_live live hroom, rfl⟩
  · intro i f o fs here
    have hcounted := run.leaving_counted here
    rw [ne_eq, Word.inFlight_eq_zero_iff]
    omega

theorem word_refines_tally_contended :
    ∃ s, Run contended contendedHistory s ∧
      s.threads false = ⟨.trying ⟨0, .done⟩ (.done (.value ())) ⟨1⟩, []⟩ ∧
      s.threads true = ⟨.leaving ⟨3, .done⟩ (.value ()), []⟩ ∧
      Tally.Walk .fresh contendedHistory ⟨true, 1⟩ ∧ contendedHistory.counted.card = 1 ∧
      (⟨1⟩ : Word).bits < Word.countMask ∧ s.word.inFlight ≠ 0 ∧ s.word.isLastOut = true := by
  obtain ⟨s, run, word, here, there⟩ := contended_run
  obtain ⟨walk, -, count, reads, room, counted⟩ := word_refines_tally run
  have htally : s.word.tally = ⟨true, 1⟩ := by
    rw [word]
    decide
  obtain ⟨-, -, lastOut⟩ := reads s.word
  rw [htally] at walk count
  exact ⟨s, run, here, there, walk, count.symm, (room _ _ _ _ _ here rfl).1,
    counted _ _ _ _ there, lastOut.mpr htally⟩

end EngineBridge.Guard
