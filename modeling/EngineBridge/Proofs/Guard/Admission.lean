import EngineBridge.Proofs.Guard.Release

/-!
The admission of calls. Whether a call runs its body is decided by the access at which it leaves
its loop: the exchange that admits it has found a word without the flag and so stands before every
disposal, and the reading that turns it away stands after one.
-/

namespace EngineBridge.Guard

variable {ι α : Type} [Fintype ι] [DecidableEq ι] {g : Shared ι α} {h tr : History ι α}
  {s s' : System ι α} {i j : ι} {m n k : ℕ}

structure RanOnce (h : History ι α) (i : ι) (n : ℕ) (o : Outcome α) : Prop where
  begun : ((h.own i n).map Event.begins).sum = 1
  outcomes : (h.own i n).filterMap Event.outcome? = [o]
  admitted : ∃ (k : ℕ) (w : Word), h[k]? = some ⟨i, n, .admitted w⟩ ∧ ¬ h.DisposedBefore k

/-- The call `n` of thread `i` has run no body and left the word as it was, for it has read the
word after a disposal took effect. -/
structure TurnedAway (resource : String) (h : History ι α) (i : ι) (n : ℕ) (o : Outcome α) :
    Prop where
  outcome : o = .error (.resourceDisposed resource)
  quiet : ∀ e ∈ h.own i n, e.Quiet
  late : ∃ (k : ℕ) (e : Event α) (w : Word),
    h[k]? = some ⟨i, n, e⟩ ∧ e.found? = some w ∧ h.DisposedBefore k

theorem Ran.once {o : Outcome α} (run : Run g h s) (ran : Ran o (h.own i n)) :
    RanOnce h i n o := by
  obtain ⟨c, hc, live⟩ := ran.admitted
  obtain ⟨k, hk⟩ := History.mem_own.mp hc
  refine ⟨ran.begun, ran.outcomes, k, c, hk, ?_⟩
  rw [← run.found_flag hk rfl, live]
  decide

theorem Declined.turnedAway {o : Outcome α} (run : Run g h s)
    (declined : Declined g.resource o (h.own i n)) : TurnedAway g.resource h i n o := by
  obtain ⟨e, he, c, hfound, disposed⟩ := declined.found
  obtain ⟨k, hk⟩ := History.mem_own.mp he
  have hlate := (run.found_flag hk hfound).mp disposed
  exact ⟨declined.outcome, declined.quiet, k, e, c, hk, hfound, hlate⟩

theorem Run.call_answer (run : Run g h s) {r : Reply α} (invoked : .invoked .call ∈ h.own i n)
    (returned : .returned r ∈ h.own i n) :
    ∃ o, r = .outcome o ∧ (RanOnce h i n o ∨ TurnedAway g.resource h i n o) := by
  obtain ⟨l, complete, hown⟩ := run.finished returned
  have hop : Operation.call = r.operation := complete.operation (by simpa [hown] using invoked)
  obtain ⟨o, rfl⟩ : ∃ o, r = .outcome o := by
    cases r with
    | outcome o => exact ⟨o, rfl⟩
    | _ => cases hop
  have hquiet : (.returned (.outcome o) : Event α).Quiet := ⟨rfl, rfl, fun _ => rfl⟩
  refine ⟨o, rfl, ?_⟩
  rcases complete.ran_or_declined with ran | declined
  · exact .inl (Ran.once run (hown ▸ ran.concat hquiet))
  · exact .inr (Declined.turnedAway run (hown ▸ declined.concat hquiet))

theorem Run.told_disposed (run : Run g h s) {r : Reply α}
    (returned : h[m]? = some ⟨j, n, .returned r⟩) (told : r = .flag true ∨ ∃ b, r = .disposal b) :
    h.DisposedBefore m := by
  have complete := run.complete returned
  rcases told with rfl | ⟨b, rfl⟩
  · obtain ⟨w, hw, hflag⟩ := complete.flag_found
    obtain ⟨k, hkm, hk⟩ := History.mem_own_take hw
    exact ((run.found_flag hk rfl).mp hflag.symm).mono hkm.le
  · obtain ⟨⟨w, hw⟩, -⟩ := complete.disposal_found
    obtain ⟨k, hkm, hk⟩ := History.mem_own_take hw
    exact ⟨k, hkm, j, n, w, hk⟩

theorem Run.began_live (run : Run g h s) (began : .began ∈ h.own i n) :
    ∃ k, n ≤ k ∧ ¬ h.DisposedBefore k := by
  obtain ⟨b, hb⟩ := History.mem_own.mp began
  obtain ⟨c, hc, live⟩ := (run.letIn hb).admitted
  obtain ⟨k, -, hk⟩ := History.mem_own_take hc
  refine ⟨k, run.number_le hk, ?_⟩
  rw [← run.found_flag hk rfl, live]
  decide

/-- The flag is never cleared. A call that has returned either has run its body once, handed its
outcome back and was admitted before the first disposal, or has done nothing, answers that the
resource is disposed and has read the word after the first disposal. A call that begins when some
thread has already been told of the disposal runs no body. -/
theorem admission_decided_once (run : Run g h s) :
    (∀ tr s', Path g.resource s tr s' → s.word.isDisposed = true → s'.word.isDisposed = true) ∧
      (∀ i n r, .invoked .call ∈ h.own i n → .returned r ∈ h.own i n →
        ∃ o, r = .outcome o ∧ (RanOnce h i n o ∨ TurnedAway g.resource h i n o)) ∧
      (∀ (m k n n' : ℕ) (i j : ι) (r : Reply α), h[m]? = some ⟨j, n', .returned r⟩ →
        (r = .flag true ∨ ∃ b, r = .disposal b) → m < k →
          h[k]? = some ⟨i, n, .invoked .call⟩ → .began ∉ h.own i n) := by
  refine ⟨?_, fun i n r => run.call_answer, ?_⟩
  · intro tr s' path disposed
    rw [run.balanced.flag] at disposed
    rw [(run.balanced.path path).flag]
    rw [History.total_append]
    omega
  · intro m k n n' i j r returned told hmk invoked began
    obtain ⟨k', hle, live⟩ := run.began_live began
    have hn := run.invoked_number invoked
    exact live ((run.told_disposed returned told).mono (by omega))

theorem admission_decided_once_deferred :
    ∃ s, Run deferred deferredHistory s ∧ RanOnce deferredHistory 0 0 (.panic .other) ∧
      .began ∉ deferredHistory.own 1 7 := by
  obtain ⟨s, run, -, -⟩ := deferred_run
  obtain ⟨-, answers, late⟩ := admission_decided_once run
  obtain ⟨o, ho, hran⟩ := answers 0 0 (.outcome (.panic .other)) (by decide) (by decide)
  cases ho
  have hnot : ¬ TurnedAway deferred.resource deferredHistory 0 0 (.panic .other) := fun away =>
    nomatch away.outcome
  refine ⟨s, run, hran.resolve_right hnot, ?_⟩
  exact late 6 7 7 2 1 1 (.disposal true) rfl (.inr ⟨true, rfl⟩) (by decide) rfl

end EngineBridge.Guard
