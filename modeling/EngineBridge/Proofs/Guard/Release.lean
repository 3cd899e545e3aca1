import EngineBridge.Proofs.Guard.Alone
import EngineBridge.Proofs.Guard.History

/-!
The release of a guarded resource. It begins only on a word that says "disposed, none in flight",
so no body runs beside it or after it; and since some thread owes it as soon as the word says so,
it has been run when all threads are out of the guard.
-/

open scoped BigOperators
namespace EngineBridge.Guard

variable {ι α : Type} {resource : String} {s s' : System ι α} {x : Entry ι α} {i : ι}
  {n : ℕ} {h tr : History ι α}

variable [Fintype ι]

theorem System.Idle.sum_eq_zero (idle : s.Idle) (f : Thread α → ℕ) (hf : ∀ p, f (.start p) = 0) :
    ∑ i, f (s.threads i) = 0 := by
  apply Finset.sum_eq_zero
  intro i _
  obtain ⟨p, hp⟩ := idle i
  rw [hp]
  exact hf p

theorem System.Idle.tokens (idle : s.Idle) : s.tokens = 0 :=
  idle.sum_eq_zero Thread.tokens fun _ => rfl

theorem Word.due_of_idle {w : Word} (idle : w.count = 0) :
    w.due = if w.isDisposed then 1 else 0 := by
  simp [due, idle]

theorem Balanced.released (balanced : Balanced h s) (idle : s.Idle) :
    h.Released (if s.word.isDisposed then 1 else 0) ∧ s.word.inFlight = 0 := by
  have howed := idle.sum_eq_zero Thread.owed fun _ => rfl
  have hinside := idle.sum_eq_zero Thread.inside fun _ => rfl
  have htokens := idle.tokens
  obtain ⟨counted, owed, inside, -⟩ := balanced
  rw [Word.due_of_idle (by omega)] at owed
  refine ⟨⟨by omega, by omega⟩, ?_⟩
  rw [Word.inFlight_eq_zero_iff]
  omega

variable [DecidableEq ι]

theorem System.Step.running_le (step : s.Step resource x s') : s'.running ≤ s.tokens := by
  cases step with
  | @mk i n e t hstep =>
    apply Finset.sum_le_sum
    intro j _
    by_cases hj : j = i
    · subst hj
      dsimp only
      rw [Function.update_self]
      exact hstep.bodies_le_tokens
    · dsimp only
      rw [Function.update_of_ne hj]
      exact Nat.le_add_right _ _

theorem Drop.exists (resource : String) (idle : s.Idle) (i : ι) (o : Outcome α) :
    ∃ tr s', Drop resource s i o tr s' := by
  have alone := Alone.turn idle i (.dispose fun _ => .done o)
  have hroom : 0 + 1 < capacity := by decide
  have hdone : Does resource i (s.turn i (.dispose fun _ => .done o)) (.start (.done o)) _ _ :=
    alone.dispose hroom
  obtain ⟨tr, s', solo, -, -⟩ := hdone
  exact ⟨tr, s', solo.path, solo.mine, solo.alone.here⟩

theorem Path.dispose_alone {next : Bool → Program α} (idle : s.Idle)
    (path : Path resource (s.turn i (.dispose next)) tr s') (alone : ∀ x ∈ tr, x.thread = i) :
    (∀ j, j ≠ i → (s'.threads j).Idle) ∧
      (s'.threads i = .start (.dispose next) ∨ (∃ n, s'.threads i = ⟨.disposing n next, []⟩) ∨
        0 < tr.total Event.disposals) := by
  induction path with
  | refl =>
    have h := Alone.turn idle i (.dispose next)
    exact ⟨h.others, .inl h.here⟩
  | @step tr s₁ s₂ x _ hstep _ ih =>
    obtain ⟨others, stage⟩ := ih fun y hy => alone y (List.mem_append_left _ hy)
    have hx := alone x (by simp)
    cases hstep with
    | @mk j n e t hstep =>
      obtain rfl : j = i := hx
      refine ⟨(Alone.update others (e.after s₁.word) (s₁.time + 1) t).others, .inr ?_⟩
      dsimp only
      rw [Function.update_self, History.total_concat]
      rcases stage with h | ⟨n, h⟩ | h
      · rw [h] at hstep
        cases hstep
        exact .inl ⟨_, rfl⟩
      · rw [h] at hstep
        cases hstep
        exact .inr (Nat.succ_pos _)
      · exact .inr (by omega)

theorem Balanced.turn (balanced : Balanced h s) (idle : s.Idle) (i : ι) (p : Program α) :
    Balanced h (s.turn i p) := by
  have hidle := (Alone.turn idle i p).idle
  obtain ⟨counted, owed, inside, flag⟩ := balanced
  refine ⟨?_, ?_, ?_, flag⟩
  · rw [hidle.tokens, ← idle.tokens]
    exact counted
  · rw [hidle.sum_eq_zero Thread.owed fun _ => rfl]
    rwa [idle.sum_eq_zero Thread.owed fun _ => rfl] at owed
  · rw [hidle.sum_eq_zero Thread.inside fun _ => rfl]
    rwa [idle.sum_eq_zero Thread.inside fun _ => rfl] at inside

theorem Drop.released {o : Outcome α} (balanced : Balanced h s) (idle : s.Idle)
    (drop : Drop resource s i o tr s') : History.Released (h ++ tr) 1 := by
  obtain ⟨others, stage⟩ := drop.path.dispose_alone idle drop.alone
  have hdisposed : 0 < tr.total Event.disposals := by
    rw [drop.ended] at stage
    rcases stage with h | ⟨n, h⟩ | h
    · cases h
    · cases h
    · exact h
  have hbalanced := (balanced.turn idle i _).path drop.path
  have hidle : s'.Idle := Alone.idle ⟨drop.ended, others⟩
  have hflag : s'.word.isDisposed = true := by
    rw [hbalanced.flag, History.total_append]
    omega
  have hreleased := (hbalanced.released hidle).1
  rwa [if_pos hflag] at hreleased

variable {g : Shared ι α}

theorem Run.finished (run : Run g h s) {r : Reply α} (returned : .returned r ∈ h.own i n) :
    ∃ l, Complete g.resource r l ∧ h.own i n = l ++ [.returned r] :=
  ((run.kept i).finished n r returned).2

theorem Run.disposal_answer (run : Run g h s) {r : Reply α}
    (invoked : .invoked .dispose ∈ h.own i n) (returned : .returned r ∈ h.own i n) :
    ∃ b, r = .disposal b ∧ (∃ (k : ℕ) (w : Word), h[k]? = some ⟨i, n, .disposed w⟩) ∧
      ∀ (k : ℕ) (w : Word), h[k]? = some ⟨i, n, .disposed w⟩ →
        (b = true ↔ ¬ h.DisposedBefore k) := by
  obtain ⟨l, complete, hown⟩ := run.finished returned
  have hop : Operation.dispose = r.operation :=
    complete.operation (by simpa [hown] using invoked)
  obtain ⟨b, rfl⟩ : ∃ b, r = .disposal b := by
    cases r with
    | disposal b => exact ⟨b, rfl⟩
    | _ => cases hop
  obtain ⟨⟨w, hw⟩, hb⟩ := complete.disposal_found
  refine ⟨b, rfl, ?_, ?_⟩
  · obtain ⟨k, hk⟩ := History.mem_own.mp (hown ▸ List.mem_append_left _ hw)
    exact ⟨k, w, hk⟩
  · intro k w hk
    have hmem : .disposed w ∈ l := by simpa [hown] using History.mem_own.mpr ⟨k, hk⟩
    rw [← run.found_flag hk rfl, hb w hmem]
    cases w.isDisposed <;> simp

/-- Thread 1 disposes while thread 0 runs a body that panics, and its call after that is refused. -/
def deferred : Shared (Fin 2) Unit where
  resource := "prepared statement"
  handle := ⟨1⟩
  programs i :=
    if i = 0 then .call (.done (.panic .other)) .done
    else .dispose fun _ => .call (.done (.value ())) .done

def deferredHistory : History (Fin 2) Unit :=
  let lastOutWord : Word := ⟨Word.disposedFlag ||| 1⟩
  [⟨0, 0, .invoked .call⟩, ⟨0, 0, .read .fresh⟩, ⟨1, 2, .invoked .dispose⟩,
    ⟨0, 0, .admitted .fresh⟩, ⟨0, 0, .began⟩, ⟨1, 2, .disposed ⟨1⟩⟩,
    ⟨1, 2, .returned (.disposal true)⟩, ⟨1, 7, .invoked .call⟩, ⟨1, 7, .read lastOutWord⟩,
    ⟨1, 7, .refused⟩,
    ⟨1, 7, .returned (.outcome (.error (.resourceDisposed "prepared statement")))⟩,
    ⟨0, 0, .ended (.panic .other)⟩, ⟨0, 0, .left lastOutWord⟩, ⟨0, 0, .releaseBegan⟩,
    ⟨0, 0, .releaseEnded⟩, ⟨0, 0, .returned (.outcome (.panic .other))⟩]

theorem deferred_run :
    ∃ s, Run deferred deferredHistory s ∧ s.Idle ∧ s.word.isDisposed = true := by
  have r₀ := Run.adopted (g := deferred) rfl
  have r₁ := r₀.step (.mk 0 .invokeCall) (by decide)
  have r₂ := r₁.step (.mk 0 .load) (by decide)
  have r₃ := r₂.step (.mk 1 .invokeDispose) (by decide)
  have r₄ := r₃.step (.mk 0 (.exchange rfl rfl)) (by decide)
  have r₅ := r₄.step (.mk 0 .begin) (by decide)
  have r₆ := r₅.step (.mk 1 .dispose) (by decide)
  have r₇ := r₆.step (.mk 1 .handBack) (by decide)
  have r₈ := r₇.step (.mk 1 .invokeCall) (by decide)
  have r₉ := r₈.step (.mk 1 .load) (by decide)
  have r₁₀ := r₉.step (.mk 1 (.refuse rfl)) (by decide)
  have r₁₁ := r₁₀.step (.mk 1 .handBack) (by decide)
  have r₁₂ := r₁₁.step (.mk 0 .finish) (by decide)
  have r₁₃ := r₁₂.step (.mk 0 .leave) (by decide)
  have r₁₄ := r₁₃.step (.mk 0 .beginRelease) (by decide)
  have r₁₅ := r₁₄.step (.mk 0 .endRelease) (by decide)
  have r₁₆ := r₁₅.step (.mk 0 .handBack) (by decide)
  exact ⟨_, r₁₆, Fin.forall_fin_two.mpr ⟨⟨_, rfl⟩, _, rfl⟩, rfl⟩

/-- The release begins at most once. Once it has begun, the flag is set, no body runs, no call is
counted, and no step makes a body run. -/
theorem no_body_after_release (run : Run g h s) :
    h.total Event.releases ≤ 1 ∧
      (0 < h.total Event.releases →
        s.word.isDisposed = true ∧ s.running = 0 ∧ s.tokens = 0 ∧ s.word.inFlight = 0 ∧
          ∀ x s', s.Step g.resource x s' → s'.running = 0) := by
  obtain ⟨counted, owed, -, -⟩ := run.balanced
  have hdue := s.word.due_le_one
  refine ⟨by omega, fun hpos => ?_⟩
  obtain ⟨hflag, hcount⟩ : s.word.isDisposed = true ∧ s.word.count = 0 := by
    by_contra hnot
    rw [Word.due, if_neg hnot] at owed
    omega
  have htokens : s.tokens = 0 := counted.trans hcount
  have hrunning := s.running_le_tokens
  refine ⟨hflag, by omega, htokens, s.word.inFlight_eq_zero_iff.mpr hcount, ?_⟩
  intro x s' step
  have hle := step.running_le
  omega

theorem no_body_after_release_deferred :
    ∃ s, Run deferred deferredHistory s ∧ deferredHistory.total Event.releases = 1 ∧
      s.word.isDisposed = true ∧ s.running = 0 ∧ s.tokens = 0 ∧
        ∀ x s', s.Step deferred.resource x s' → s'.running = 0 := by
  obtain ⟨s, run, -, -⟩ := deferred_run
  have hone : deferredHistory.total Event.releases = 1 := by decide
  obtain ⟨-, begun⟩ := no_body_after_release run
  obtain ⟨hflag, hrunning, htokens, -, hstep⟩ := begun (by omega)
  exact ⟨s, run, hone, hflag, hrunning, htokens, hstep⟩

/-- When all threads are out of the guard, the release has run once if the flag is set and not at
all otherwise. The disposal that is the first to access the word answers `true` and every other
one `false`. A drop can be carried out by any thread, and after it the release has run once. -/
theorem release_never_lost (run : Run g h s) :
    (s.Idle → h.Released (if s.word.isDisposed then 1 else 0) ∧ s.word.inFlight = 0) ∧
      (∀ i n r, .invoked .dispose ∈ h.own i n → .returned r ∈ h.own i n →
        ∃ b, r = .disposal b ∧ (∃ (k : ℕ) (w : Word), h[k]? = some ⟨i, n, .disposed w⟩) ∧
          ∀ (k : ℕ) (w : Word), h[k]? = some ⟨i, n, .disposed w⟩ →
            (b = true ↔ ¬ h.DisposedBefore k)) ∧
      (s.Idle → ∀ i o, (∃ tr s', Drop g.resource s i o tr s') ∧
        ∀ tr s', Drop g.resource s i o tr s' → History.Released (h ++ tr) 1) := by
  refine ⟨run.balanced.released, fun i n r => run.disposal_answer, fun idle i o => ⟨?_, ?_⟩⟩
  · exact Drop.exists g.resource idle i o
  · exact fun tr s' drop => drop.released run.balanced idle

theorem release_never_lost_deferred :
    ∃ s, Run deferred deferredHistory s ∧ s.Idle ∧ deferredHistory.Released 1 ∧
      ¬ deferredHistory.DisposedBefore 5 ∧
        ∃ tr s', Drop deferred.resource s 0 (.value ()) tr s' ∧
          History.Released (deferredHistory ++ tr) 1 := by
  obtain ⟨s, run, idle, flag⟩ := deferred_run
  obtain ⟨released, answers, drops⟩ := release_never_lost run
  obtain ⟨hreleased, -⟩ := released idle
  obtain ⟨b, hb, -, first⟩ := answers 1 2 (.disposal true) (by decide) (by decide)
  cases hb
  obtain ⟨⟨tr, s', drop⟩, after⟩ := drops idle 0 (.value ())
  rw [if_pos flag] at hreleased
  exact ⟨s, run, idle, hreleased, (first 5 ⟨1⟩ rfl).mp rfl, tr, s', drop, after tr s' drop⟩

end EngineBridge.Guard
