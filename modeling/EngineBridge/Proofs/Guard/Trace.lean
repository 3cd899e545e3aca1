import EngineBridge.Proofs.Guard.History

/-!
Histories of a guard whose clients are decided as they go. What a client does next may be settled
only while it runs, by something outside of the guard; nothing that the guard does depends on it.
-/

namespace EngineBridge.Guard

variable {ι α : Type} {resource : String}

/-- The operation has found the word after a disposal took effect. -/
def History.Late (h : History ι α) (i : ι) (n : ℕ) : Prop :=
  ∃ (k : ℕ) (e : Event α) (w : Word),
    h[k]? = some ⟨i, n, e⟩ ∧ e.found? = some w ∧ h.DisposedBefore k

theorem History.disposedBefore_append {h tr : History ι α} {k : ℕ} (hk : k ≤ h.length) :
    DisposedBefore (h ++ tr) k ↔ h.DisposedBefore k := by
  rw [← disposals_take_pos_iff, ← disposals_take_pos_iff, List.take_append_of_le_length hk]

theorem History.disposedBefore_length {h : History ι α} :
    h.DisposedBefore h.length ↔ 0 < h.total Event.disposals := by
  rw [← disposals_take_pos_iff, List.take_length]

def Event.reply? : Event α → Option (Reply α)
  | returned r => some r
  | _ => none

def History.replies [DecidableEq ι] (h : History ι α) (i : ι) : List (Reply α) :=
  h.filterMap fun x => if x.thread = i then x.event.reply? else none

theorem History.replies_concat [DecidableEq ι] (h : History ι α) (x : Entry ι α) (i : ι) :
    History.replies (h ++ [x]) i =
      h.replies i ++ if x.thread = i then x.event.reply?.toList else [] := by
  by_cases hx : x.thread = i
  · cases hr : x.event.reply? <;> simp [replies, hx, hr]
  · simp [replies, hx]

theorem Thread.Step.found {now n : ℕ} {w w' : Word} {t t' : Thread α} {e : Event α}
    (step : Thread.Step resource now w t n e t') (found : e.found? = some w') : w' = w := by
  cases step <;> cases found <;> rfl

namespace Event

def calls : Event α → ℕ
  | invoked .call => 1
  | _ => 0

def answers : Event α → ℕ
  | returned (.outcome _) => 1
  | _ => 0

end Event

theorem Stage.calls_afterLeaving (f : Frame α) (o : Outcome α) (w : Word) :
    (afterLeaving (f.answer o) w).calls = 1 := by
  unfold afterLeaving
  split_ifs <;> rfl

theorem Stage.calls_afterDisposal (n : ℕ) (next : Bool → Program α) (w : Word) :
    (afterDisposal n next w).calls = 0 := by
  unfold afterDisposal
  split_ifs <;> rfl

theorem Thread.Step.calls_add_answers {now n : ℕ} {w : Word} {t t' : Thread α} {e : Event α}
    (step : Thread.Step resource now w t n e t') : t'.calls + e.answers = t.calls + e.calls := by
  cases step with
  | leave => simp only [calls, Stage.calls_afterLeaving]; rfl
  | dispose => simp only [calls, Stage.calls_afterDisposal]; rfl
  | @beginRelease r | @endRelease r | @handBack r =>
    obtain ⟨_, reply, _⟩ := r
    cases reply <;> rfl
  | _ => rfl

variable [Fintype ι] [DecidableEq ι] {h : History ι α} {s s' : System ι α} {x : Entry ι α} {i : ι}

theorem System.Step.calls_le (step : s.Step resource x s') : s'.calls ≤ s.calls + x.event.calls :=
  Nat.le.intro (step.sum Thread.calls Event.answers Event.calls Thread.Step.calls_add_answers)

variable {p p' : Program α} {fs : List (Frame α)}

theorem sum_amend (here : s.threads i = ⟨.client p, fs⟩) (f : Thread α → ℕ)
    (same : f ⟨.client p', fs⟩ = f ⟨.client p, fs⟩) :
    ∑ j, f (Function.update s.threads i ⟨.client p', fs⟩ j) = ∑ j, f (s.threads j) := by
  have hsum := sum_update f s.threads i ⟨.client p', fs⟩
  rw [here, same] at hsum
  exact Nat.add_right_cancel hsum

/-- The history `h` has led to `s`: the word is in balance, every operation has made the events of
its protocol, an access has found the flag if it came after a disposal, and every disposal was
invoked. -/
structure Traced (resource : String) (h : History ι α) (s : System ι α) : Prop where
  balanced : Balanced h s
  kept : ∀ i, Kept resource (h.own i) s.time ((s.threads i).duties resource)
  flags : ∀ {k n : ℕ} {i : ι} {e : Event α} {w : Word}, h[k]? = some ⟨i, n, e⟩ →
    e.found? = some w → (w.isDisposed = true ↔ h.DisposedBefore k)
  invoked : ∀ {k n : ℕ} {i : ι} {w : Word}, h[k]? = some ⟨i, n, .disposed w⟩ →
    .invoked .dispose ∈ h.own i n

namespace Traced

theorem adopted {g : Shared ι α} (adopt : g.adopt = .ok s) : Traced g.resource [] s where
  balanced := .adopted adopt
  kept i := by
    rw [Shared.adopt_eq_ok adopt]
    exact .start _
  flags hk := by simp at hk
  invoked hk := by simp at hk

theorem step (traced : Traced resource h s) (step : s.Step resource x s')
    (room : s'.calls < capacity) : Traced resource (h ++ [x]) s' := by
  refine ⟨traced.balanced.step step room, step.kept traced.kept, ?_, ?_⟩
  · intro k n i e w hk found
    rcases getElem?_concat.mp hk with hk | ⟨rfl, rfl⟩
    · rw [History.disposedBefore_append (List.getElem?_eq_some_iff.mp hk).1.le]
      exact traced.flags hk found
    · rw [History.disposedBefore_append le_rfl, History.disposedBefore_length,
        ← traced.balanced.flag]
      cases step with
      | mk _ hstep => rw [hstep.found found]
  · intro k n i w hk
    have hinvoked : .invoked .dispose ∈ h.own i n := by
      rcases getElem?_concat.mp hk with hk | ⟨rfl, rfl⟩
      · exact traced.invoked hk
      · cases step with
        | mk _ hstep =>
          have hduty := (traced.kept i).duty
          generalize s.threads i = t at hstep hduty
          cases hstep with
          | dispose => exact (hduty _ List.mem_cons_self) ▸ List.mem_singleton_self _
    obtain ⟨m, hm⟩ := History.mem_own.mp hinvoked
    exact History.mem_own.mpr ⟨m, getElem?_concat.mpr (.inl hm)⟩

theorem amend (traced : Traced resource h s) (here : s.threads i = ⟨.client p, fs⟩) :
    Traced resource h { s with threads := Function.update s.threads i ⟨.client p', fs⟩ } := by
  obtain ⟨⟨counted, owed, inside, flag⟩, kept, flags, invoked⟩ := traced
  refine ⟨⟨?_, ?_, ?_, flag⟩, fun j => ?_, flags, invoked⟩
  · rw [← counted]
    exact sum_amend here Thread.tokens rfl
  · rw [← owed]
    exact congrArg (· + _) (sum_amend here Thread.owed rfl)
  · rw [← inside]
    exact congrArg (· + _) (sum_amend here Thread.inside rfl)
  · dsimp only
    by_cases hj : j = i
    · subst hj
      have hkept := kept j
      rw [here] at hkept
      rw [Function.update_self]
      exact hkept
    · rw [Function.update_of_ne hj]
      exact kept j

theorem ended_or_late {n : ℕ} {o : Outcome α} (traced : Traced resource h s)
    (returned : .returned (.outcome o) ∈ h.own i n) : .ended o ∈ h.own i n ∨ h.Late i n := by
  obtain ⟨-, l, complete, hown⟩ := (traced.kept i).finished n _ returned
  rcases complete.ran_or_declined with ran | declined
  · have hmem : o ∈ l.filterMap Event.outcome? := by simp [ran.outcomes]
    obtain ⟨e, he, houtcome⟩ := List.mem_filterMap.mp hmem
    cases e with
    | ended =>
      cases houtcome
      exact .inl (hown ▸ List.mem_append_left _ he)
    | _ => cases houtcome
  · obtain ⟨e, he, c, hfound, disposed⟩ := declined.found
    obtain ⟨k, hk⟩ := History.mem_own.mp (hown ▸ List.mem_append_left _ he)
    exact .inr ⟨k, e, c, hk, hfound, (traced.flags hk hfound).mp disposed⟩

theorem late_invoked {n : ℕ} (traced : Traced resource h s) (late : h.Late i n) :
    ∃ (j : ι) (m : ℕ), ⟨j, m, .invoked .dispose⟩ ∈ h := by
  obtain ⟨k, e, w, -, -, m, -, j, n', w', hm⟩ := late
  obtain ⟨k', hk'⟩ := History.mem_own.mp (traced.invoked hm)
  exact ⟨j, n', List.mem_of_getElem? hk'⟩

theorem releases_eq_zero (traced : Traced resource h s) (counted : 0 < (s.threads i).tokens) :
    h.total Event.releases = 0 := by
  have htokens := s.tokens_le i
  obtain ⟨hcounted, owed, -, -⟩ := traced.balanced
  rw [Word.due_of_counted (by omega)] at owed
  omega

end Traced

end EngineBridge.Guard
