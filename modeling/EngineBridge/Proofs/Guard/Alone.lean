import EngineBridge.Proofs.Guard.Balance

/-!
One thread that takes steps while no other thread is in an operation. Its operations come to their
end and do to the word what each of them is meant to do.
-/

open scoped BigOperators
namespace EngineBridge.Guard

variable {ι α : Type} {resource : String} {s s' : System ι α} {i : ι} {t t' : Thread α} {n : ℕ}
  {e : Event α} {h : History ι α}

structure Alone (s : System ι α) (i : ι) (t : Thread α) : Prop where
  here : s.threads i = t
  others : ∀ j, j ≠ i → (s.threads j).Idle

theorem Alone.calls [Fintype ι] (alone : Alone s i t) : s.calls = t.calls := by
  rw [← alone.here]
  apply Finset.sum_eq_single_of_mem i (Finset.mem_univ i)
  intro j _ hj
  obtain ⟨p, hp⟩ := alone.others j hj
  rw [hp]
  rfl

variable [DecidableEq ι]

theorem Alone.update (others : ∀ j, j ≠ i → (s.threads j).Idle) (w : Word) (now : ℕ)
    (t : Thread α) : Alone ⟨w, Function.update s.threads i t, now⟩ i t where
  here := Function.update_self ..
  others j hj := by
    dsimp only
    rw [Function.update_of_ne hj]
    exact others j hj

theorem Alone.turn (idle : s.Idle) (i : ι) (p : Program α) : Alone (s.turn i p) i (.start p) :=
  .update (fun j _ => idle j) s.word s.time _

theorem Alone.idle {p : Program α} (alone : Alone s i (.start p)) : s.Idle := by
  intro j
  by_cases hj : j = i
  · subst hj
    exact ⟨p, alone.here⟩
  · exact alone.others j hj

variable [Fintype ι]

structure Solo (resource : String) (i : ι) (s : System ι α) (h : History ι α) (s' : System ι α)
    (t : Thread α) : Prop where
  path : Path resource s h s'
  mine : ∀ x ∈ h, x.thread = i
  alone : Alone s' i t

theorem Solo.step (solo : Solo resource i s h s' t)
    (step : Thread.Step resource s'.time s'.word t n e t') (room : t'.calls < capacity) :
    Solo resource i s (h ++ [⟨i, n, e⟩])
      ⟨e.after s'.word, Function.update s'.threads i t', s'.time + 1⟩ t' := by
  obtain ⟨path, mine, alone⟩ := solo
  have hstep : s'.Step resource ⟨i, n, e⟩ _ := .mk i (alone.here ▸ step)
  have halone := Alone.update alone.others (e.after s'.word) (s'.time + 1) t'
  refine ⟨path.step hstep (halone.calls ▸ room), fun x hx => ?_, halone⟩
  rcases List.mem_append.mp hx with hx | hx
  · exact mine x hx
  · rw [List.mem_singleton.mp hx]

theorem Path.trans {s'' : System ι α} {tr : History ι α} (path : Path resource s h s')
    (path' : Path resource s' tr s'') : Path resource s (h ++ tr) s'' := by
  induction path' with
  | refl => rwa [List.append_nil]
  | step _ step room ih =>
    rw [← List.append_assoc]
    exact ih.step step room

variable {fs : List (Frame α)} {f : Frame α} {k k' : ℕ} {w w' : Word}

/-- From `s` on, thread `i` comes to stand at `t`, leaving the word `w` and having released the
resource `k` times. -/
def Does (resource : String) (i : ι) (s : System ι α) (t : Thread α) (w : Word) (k : ℕ) : Prop :=
  ∃ h s', Solo resource i s h s' t ∧ s'.word = w ∧ h.total Event.released = k

theorem Does.refl (alone : Alone s i t) : Does resource i s t s.word 0 :=
  ⟨[], s, ⟨.refl, nofun, alone⟩, rfl, rfl⟩

theorem Does.trans (does : Does resource i s t w k)
    (next : ∀ s', Alone s' i t → s'.word = w → Does resource i s' t' w' k') :
    Does resource i s t' w' (k + k') := by
  obtain ⟨h, s', solo, hw, hk⟩ := does
  obtain ⟨h', s'', solo', hw', hk'⟩ := next s' solo.alone hw
  refine ⟨h ++ h', s'', ⟨solo.path.trans solo'.path, ?_, solo'.alone⟩, hw', ?_⟩
  · exact fun x hx => (List.mem_append.mp hx).elim (solo.mine x) (solo'.mine x)
  · rw [History.total_append, hk, hk']

theorem Stage.calls_le_one (stage : Stage α) : stage.calls ≤ 1 := by
  unfold calls
  split <;> omega

theorem Does.step (does : Does resource i s t w k)
    (step : ∀ now, ∃ n, Thread.Step resource now w t n e t')
    (room : t'.bodies.length + 1 < capacity) :
    Does resource i s t' (e.after w) (k + e.released) := by
  obtain ⟨h, s', solo, rfl, hk⟩ := does
  obtain ⟨n, hstep⟩ := step s'.time
  have hcalls := t'.stage.calls_le_one
  refine ⟨_, _, solo.step hstep ?_, rfl, ?_⟩
  · simp only [Thread.calls]
    omega
  · rw [History.total_concat, hk]

theorem Alone.invoke {op : Operation} (alone : Alone s i t)
    (step : Thread.Step resource s.time s.word t n (.invoked op) t')
    (room : t'.bodies.length + 1 < capacity) : Does resource i s t' s.word 0 := by
  have hcalls := t'.stage.calls_le_one
  refine ⟨_, _, Solo.step ⟨.refl, nofun, alone⟩ step ?_, rfl, rfl⟩
  simp only [Thread.calls]
  omega

theorem Does.release {r : Return α} (does : Does resource i s ⟨.releasing r, fs⟩ w k)
    (room : fs.length + 1 < capacity) : Does resource i s ⟨.client r.resume, fs⟩ w (k + 1) := by
  have hbegun := does.step (fun _ => ⟨_, .beginRelease⟩) room
  have hended := hbegun.step (fun _ => ⟨_, .endRelease⟩) room
  exact hended.step (fun _ => ⟨_, .handBack⟩) room

theorem Does.handBack {r : Return α} (does : Does resource i s ⟨.returning r, fs⟩ w k)
    (room : fs.length + 1 < capacity) : Does resource i s ⟨.client r.resume, fs⟩ w k :=
  does.step (fun _ => ⟨_, .handBack⟩) room

theorem Alone.dispose {next : Bool → Program α}
    (alone : Alone s i ⟨.client (.dispose next), fs⟩) (room : fs.length + 1 < capacity) :
    Does resource i s ⟨.client (next !s.word.isDisposed), fs⟩ s.word.disposed
      (if s.word.isDisposed = false ∧ s.word.inFlight = 0 then 1 else 0) := by
  have hinvoked : Does resource i s ⟨.disposing s.time next, fs⟩ s.word 0 :=
    alone.invoke .invokeDispose room
  have haccess : Does resource i s ⟨afterDisposal s.time next s.word, fs⟩ s.word.disposed 0 :=
    hinvoked.step (fun _ => ⟨_, .dispose⟩) room
  unfold afterDisposal at haccess
  split_ifs at haccess with hdisposed hidle
  · simpa [hdisposed] using haccess.handBack room
  · simpa [hdisposed, hidle] using haccess.release room
  · simpa [hdisposed, hidle] using haccess.handBack room

theorem Alone.isDisposed {next : Bool → Program α}
    (alone : Alone s i ⟨.client (.isDisposed next), fs⟩) (room : fs.length + 1 < capacity) :
    Does resource i s ⟨.client (next s.word.isDisposed), fs⟩ s.word 0 := by
  have hinvoked : Does resource i s ⟨.readingFlag s.time next, fs⟩ s.word 0 :=
    alone.invoke .invokeFlag room
  have hread := hinvoked.step (fun _ => ⟨_, .readFlag⟩) room
  exact hread.handBack room

theorem Alone.inFlight {next : UInt64 → Program α}
    (alone : Alone s i ⟨.client (.inFlight next), fs⟩) (room : fs.length + 1 < capacity) :
    Does resource i s ⟨.client (next s.word.inFlight), fs⟩ s.word 0 := by
  have hinvoked : Does resource i s ⟨.readingCount s.time next, fs⟩ s.word 0 :=
    alone.invoke .invokeCount room
  have hread := hinvoked.step (fun _ => ⟨_, .readCount⟩) room
  exact hread.handBack room

theorem Alone.refused {body : Program α} {next : Outcome α → Program α}
    (alone : Alone s i ⟨.client (.call body next), fs⟩) (room : fs.length + 1 < capacity)
    (disposed : s.word.isDisposed = true) :
    Does resource i s ⟨.client (next (.error (.resourceDisposed resource))), fs⟩ s.word 0 := by
  have hinvoked : Does resource i s ⟨.entering ⟨s.time, next⟩ body, fs⟩ s.word 0 :=
    alone.invoke .invokeCall room
  have hread := hinvoked.step (fun _ => ⟨_, .load⟩) room
  have hrefused := hread.step (fun _ => ⟨_, .refuse disposed⟩) room
  exact hrefused.handBack room

theorem Alone.opened {body : Program α} {next : Outcome α → Program α}
    (alone : Alone s i ⟨.client (.call body next), fs⟩) (room : fs.length + 2 < capacity)
    (live : s.word.isDisposed = false) :
    Does resource i s ⟨.client body, ⟨s.time, next⟩ :: fs⟩ s.word.entered 0 := by
  have hroom : fs.length + 1 < capacity := by omega
  have hinvoked : Does resource i s ⟨.entering ⟨s.time, next⟩ body, fs⟩ s.word 0 :=
    alone.invoke .invokeCall hroom
  have hread := hinvoked.step (fun _ => ⟨_, .load⟩) hroom
  have hexchanged : s.word.compareExchange s.word s.word.entered = .ok s.word.entered :=
    Word.compareExchange_eq_ok_iff.mpr rfl
  have hadmitted := hread.step (fun _ => ⟨_, .exchange live hexchanged⟩) hroom
  exact hadmitted.step (fun _ => ⟨_, .begin⟩) room

theorem Alone.leave {o : Outcome α} (alone : Alone s i ⟨.client (.done o), f :: fs⟩)
    (room : fs.length + 1 < capacity) :
    Does resource i s ⟨.client (f.next o), fs⟩ s.word.left
      (if s.word.isLastOut then 1 else 0) := by
  have hstart : Does resource i s ⟨.client (.done o), f :: fs⟩ s.word 0 := .refl alone
  have hended := hstart.step (fun _ => ⟨_, .finish⟩) room
  have hleft : Does resource i s ⟨afterLeaving (f.answer o) s.word, fs⟩ s.word.left 0 :=
    hended.step (fun _ => ⟨_, .leave⟩) room
  unfold afterLeaving at hleft
  split_ifs at hleft with hlast
  · simpa [hlast, Frame.answer] using hleft.release room
  · simpa [hlast, Frame.answer] using hleft.handBack room

end EngineBridge.Guard
