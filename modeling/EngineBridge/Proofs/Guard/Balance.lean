import EngineBridge.Guard.Interleaving
import EngineBridge.Proofs.Guard.Word
import Mathlib.Algebra.Order.BigOperators.Group.Finset

/-!
What the steps of the threads add up to. The word counts the calls between admission and exit, and
a release is due exactly when the word says "disposed, none in flight": then one thread stands
between its decisive access and the release, or the release has begun.
-/

open scoped BigOperators
namespace EngineBridge.Guard

variable {ι α : Type} {resource : String}

def Word.due (w : Word) : ℕ := if w.isDisposed = true ∧ w.count = 0 then 1 else 0

def Event.claims : Event α → ℕ
  | left w => if w.isLastOut then 1 else 0
  | disposed w => if w.isDisposed = false ∧ w.count = 0 then 1 else 0
  | _ => 0

theorem Word.due_le_one (w : Word) : w.due ≤ 1 := by
  unfold due
  split_ifs <;> omega

theorem Word.due_of_counted {w : Word} (counted : 0 < w.count) : w.due = 0 :=
  if_neg fun h => by omega

theorem Word.due_of_live {w : Word} (live : w.isDisposed = false) : w.due = 0 :=
  if_neg fun h => by simp [live] at h

theorem Word.due_left {w : Word} (counted : 0 < w.count) :
    w.left.due = if w.isLastOut then 1 else 0 := by
  obtain ⟨hd, hc⟩ := left_of_counted counted
  have hl := isLastOut_iff w
  unfold due
  rw [hd, hc]
  by_cases h : w.isDisposed = true ∧ w.count = 1
  · rw [if_pos ⟨h.1, by omega⟩, if_pos (hl.mpr h)]
  · rw [if_neg fun h' => h ⟨h'.1, by omega⟩, if_neg fun h' => h (hl.mp h')]

theorem Word.due_disposed (w : Word) :
    w.disposed.due = w.due + if w.isDisposed = false ∧ w.count = 0 then 1 else 0 := by
  unfold due
  rw [isDisposed_disposed, count_disposed]
  cases w.isDisposed <;> simp

@[simp] theorem History.total_nil (f : Event α → ℕ) : History.total ([] : History ι α) f = 0 := rfl

@[simp] theorem History.total_cons (x : Entry ι α) (h : History ι α) (f : Event α → ℕ) :
    History.total (x :: h) f = f x.event + h.total f := rfl

theorem History.total_append (h h' : History ι α) (f : Event α → ℕ) :
    History.total (h ++ h') f = h.total f + h'.total f := by
  induction h with
  | nil => simp
  | cons x h ih => simp [ih, Nat.add_assoc]

@[simp] theorem History.total_concat (h : History ι α) (x : Entry ι α) (f : Event α → ℕ) :
    History.total (h ++ [x]) f = h.total f + f x.event := by
  simp [History.total_append]

theorem Event.admissions_or_exits (e : Event α) : e.admissions = 0 ∨ e.exits = 0 := by
  cases e with
  | admitted => exact .inr rfl
  | _ => exact .inl rfl

namespace Stage

@[simp] theorem tokens_afterDisposal (n : ℕ) (next : Bool → Program α) (w : Word) :
    (afterDisposal n next w).tokens = 0 := by
  unfold afterDisposal
  split_ifs <;> rfl

@[simp] theorem inside_afterDisposal (n : ℕ) (next : Bool → Program α) (w : Word) :
    (afterDisposal n next w).inside = 0 := by
  unfold afterDisposal
  split_ifs <;> rfl

@[simp] theorem owed_afterDisposal (n : ℕ) (next : Bool → Program α) (w : Word) :
    (afterDisposal n next w).owed = (Event.disposed w : Event α).claims := by
  have hc := w.inFlight_eq_zero_iff
  simp only [afterDisposal, Event.claims]
  cases w.isDisposed with
  | true => rfl
  | false =>
    by_cases h : w.inFlight = 0
    · simp [owed, h, hc.mp h]
    · have h' : ¬ w.count = 0 := fun h' => h (hc.mpr h')
      simp [owed, h, h']

@[simp] theorem tokens_afterLeaving (r : Return α) (w : Word) :
    (afterLeaving r w).tokens = 0 := by
  unfold afterLeaving
  split_ifs <;> rfl

@[simp] theorem inside_afterLeaving (r : Return α) (w : Word) :
    (afterLeaving r w).inside = 0 := by
  unfold afterLeaving
  split_ifs <;> rfl

@[simp] theorem owed_afterLeaving (r : Return α) (w : Word) :
    (afterLeaving r w).owed = (Event.left w : Event α).claims := by
  simp only [afterLeaving, Event.claims]
  split_ifs <;> rfl

end Stage

theorem Thread.tokens_le_calls (t : Thread α) : t.tokens ≤ t.calls := by
  obtain ⟨stage, bodies⟩ := t
  cases stage <;> simp [tokens, calls, Stage.tokens, Stage.calls]

namespace Thread.Step

variable {now n : ℕ} {w : Word} {t t' : Thread α} {e : Event α}

theorem tokens_add_exits (h : Step resource now w t n e t') :
    t'.tokens + e.exits = t.tokens + e.admissions := by
  cases h with
  | leave => simp only [tokens, Stage.tokens_afterLeaving]; rfl
  | dispose => simp only [tokens, Stage.tokens_afterDisposal]; rfl
  | _ => rfl

theorem owed_add_releases (h : Step resource now w t n e t') :
    t'.owed + e.releases = t.owed + e.claims := by
  cases h with
  | leave => exact (Stage.owed_afterLeaving _ w).trans (Nat.zero_add _).symm
  | dispose => exact (Stage.owed_afterDisposal _ _ w).trans (Nat.zero_add _).symm
  | _ => rfl

theorem inside_add_released (h : Step resource now w t n e t') :
    t'.inside + e.released = t.inside + e.releases := by
  cases h with
  | leave => exact Stage.inside_afterLeaving _ w
  | dispose => exact Stage.inside_afterDisposal _ _ w
  | _ => rfl

theorem bodies_le_tokens (h : Step resource now w t n e t') : t'.bodies.length ≤ t.tokens := by
  cases h <;> simp [tokens, Stage.tokens]

theorem after_word (h : Step resource now w t n e t') (counted : t.tokens ≤ w.count)
    (room : w.count + e.admissions < 2 ^ 63) :
    (e.after w).count + e.exits = w.count + e.admissions ∧
      (e.after w).due = w.due + e.claims ∧
      ((e.after w).isDisposed = true ↔ w.isDisposed = true ∨ 0 < e.disposals) := by
  cases h with
  | exchange live exchanged =>
    have hw : w.isDisposed = false := by
      rw [Word.compareExchange_eq_ok_current exchanged]
      exact live
    obtain ⟨hd, hc⟩ := Word.entered_of_live hw room
    refine ⟨by simp [Event.after, Event.exits, Event.admissions, hc], ?_, ?_⟩
    · simp [Event.after, Event.claims, Word.due_of_live hd, Word.due_of_live hw]
    · simp [Event.after, Event.disposals, hd, hw]
  | leave =>
    have hpos : 0 < w.count := by
      simp only [tokens, Stage.tokens] at counted
      omega
    obtain ⟨hd, hc⟩ := Word.left_of_counted hpos
    refine ⟨?_, ?_, ?_⟩
    · simp only [Event.after, Event.exits, Event.admissions]
      omega
    · simp [Event.after, Event.claims, Word.due_left hpos, Word.due_of_counted hpos]
    · simp [Event.after, Event.disposals, hd]
  | dispose =>
    refine ⟨by simp [Event.after, Event.exits, Event.admissions], Word.due_disposed w, ?_⟩
    simp [Event.after, Event.disposals]
  | _ => simp [Event.after, Event.exits, Event.admissions, Event.claims, Event.disposals]

end Thread.Step

theorem Shared.adopt_eq_ok {g : Shared ι α} {s : System ι α} (adopt : g.adopt = .ok s) :
    s = ⟨.fresh, fun i => .start (g.programs i), 0⟩ := by
  unfold Shared.adopt at adopt
  split_ifs at adopt
  exact (Except.ok.inj adopt).symm

variable [Fintype ι] {g : Shared ι α} {h : History ι α} {s s' : System ι α} {x : Entry ι α}

theorem System.tokens_le (s : System ι α) (i : ι) : (s.threads i).tokens ≤ s.tokens :=
  Finset.single_le_sum (f := fun j => (s.threads j).tokens) (fun _ _ => Nat.zero_le _)
    (Finset.mem_univ i)

theorem System.tokens_le_calls (s : System ι α) : s.tokens ≤ s.calls :=
  Finset.sum_le_sum fun i _ => (s.threads i).tokens_le_calls

theorem System.tokens_lt_calls {i : ι} (waits : (s.threads i).tokens < (s.threads i).calls) :
    s.tokens < s.calls :=
  Finset.sum_lt_sum (fun j _ => (s.threads j).tokens_le_calls) ⟨i, Finset.mem_univ i, waits⟩

theorem System.running_le_tokens (s : System ι α) : s.running ≤ s.tokens :=
  Finset.sum_le_sum fun _ _ => Nat.le_add_right _ _

/-- The word counts the calls that hold a token, its flag tells whether a disposal has taken
effect, and the release that is due is owed by one thread or begun. -/
structure Balanced (h : History ι α) (s : System ι α) : Prop where
  counted : s.tokens = s.word.count
  owed : (∑ i, (s.threads i).owed) + h.total Event.releases = s.word.due
  inside : (∑ i, (s.threads i).inside) + h.total Event.released = h.total Event.releases
  flag : s.word.isDisposed = true ↔ 0 < h.total Event.disposals

theorem Balanced.adopted (adopt : g.adopt = .ok s) : Balanced ([] : History ι α) s := by
  obtain rfl := Shared.adopt_eq_ok adopt
  refine ⟨?_, ?_, ?_, ?_⟩
  · simp [System.tokens, Thread.tokens, Thread.start, Stage.tokens]
  · simp [Thread.owed, Thread.start, Stage.owed, Word.due]
  · simp [Thread.inside, Thread.start, Stage.inside]
  · simp

variable [DecidableEq ι]

theorem sum_update (f : Thread α → ℕ) (threads : ι → Thread α)
    (i : ι) (t : Thread α) :
    (∑ j, f (Function.update threads i t j)) + f (threads i) = (∑ j, f (threads j)) + f t := by
  have hrest : ∑ j ∈ Finset.univ.erase i, f (Function.update threads i t j) =
      ∑ j ∈ Finset.univ.erase i, f (threads j) := by
    apply Finset.sum_congr rfl
    intro j hj
    rw [Function.update_of_ne (Finset.ne_of_mem_erase hj)]
  rw [← Finset.add_sum_erase _ _ (Finset.mem_univ i), ← Finset.add_sum_erase _
    (fun j => f (threads j)) (Finset.mem_univ i), hrest, Function.update_self]
  omega

theorem System.Step.sum (step : s.Step resource x s') (f : Thread α → ℕ) (a b : Event α → ℕ)
    (law : ∀ {now w t n e t'}, Thread.Step resource now w t n e t' → f t' + a e = f t + b e) :
    (∑ j, f (s'.threads j)) + a x.event = (∑ j, f (s.threads j)) + b x.event := by
  cases step with
  | @mk i _ _ t hstep =>
    have hsum := sum_update f s.threads i t
    have hlaw := law hstep
    dsimp only
    omega

theorem Balanced.after_word (balanced : Balanced h s) (step : s.Step resource x s')
    (room : s.word.count + x.event.admissions < 2 ^ 63) :
    s'.word.count + x.event.exits = s.word.count + x.event.admissions ∧
      s'.word.due = s.word.due + x.event.claims ∧
      (s'.word.isDisposed = true ↔ s.word.isDisposed = true ∨ 0 < x.event.disposals) := by
  have hcounted := balanced.counted
  cases step with
  | mk i hstep => exact hstep.after_word (hcounted ▸ s.tokens_le i) room

theorem System.Step.tokens (step : s.Step resource x s') :
    s'.tokens + x.event.exits = s.tokens + x.event.admissions :=
  step.sum Thread.tokens Event.exits Event.admissions Thread.Step.tokens_add_exits

theorem Balanced.room (balanced : Balanced h s) (step : s.Step resource x s')
    (room : s'.calls < capacity) : s.word.count + x.event.admissions < 2 ^ 63 := by
  have htokens := step.tokens
  have hcalls := s'.tokens_le_calls
  have hcount := s.word.count_lt
  have hcounted := balanced.counted
  unfold capacity at room
  rcases x.event.admissions_or_exits with h | h <;> omega

theorem Balanced.step (balanced : Balanced h s) (step : s.Step resource x s')
    (room : s'.calls < capacity) : Balanced (h ++ [x]) s' := by
  have htokens := step.tokens
  have howed := step.sum Thread.owed Event.releases Event.claims Thread.Step.owed_add_releases
  have hinside := step.sum Thread.inside Event.released Event.releases
    Thread.Step.inside_add_released
  obtain ⟨hcount, hdue, hflag⟩ := balanced.after_word step (balanced.room step room)
  obtain ⟨counted, owed, inside, flag⟩ := balanced
  refine ⟨by omega, ?_, ?_, ?_⟩
  · rw [History.total_concat]
    omega
  · rw [History.total_concat, History.total_concat]
    omega
  · rw [History.total_concat, hflag, flag]
    omega

theorem Balanced.path {tr : History ι α} (balanced : Balanced h s) (path : Path resource s tr s') :
    Balanced (h ++ tr) s' := by
  induction path with
  | refl => rwa [List.append_nil]
  | step _ step room ih =>
    rw [← List.append_assoc]
    exact ih.step step room

theorem Run.balanced (run : Run g h s) : Balanced h s := by
  obtain ⟨s₀, adopt, path⟩ := run
  exact (Balanced.adopted adopt).path path

end EngineBridge.Guard
