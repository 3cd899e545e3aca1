import EngineBridge.Proofs.Guard.Balance
import EngineBridge.Proofs.Guard.Protocol
import Mathlib.Data.List.Basic

/-!
Runs seen through their histories. Every entry was made by a step from the state to which the
entries before it lead, the word it found tells whether a disposal stands before it, and every
operation that has returned has made exactly the events of its protocol.
-/

namespace EngineBridge.Guard

variable {ι α : Type} {resource : String}

theorem getElem?_concat {β : Type} {l : List β} {x y : β} {k : ℕ} :
    (l ++ [y])[k]? = some x ↔ l[k]? = some x ∨ k = l.length ∧ x = y := by
  rcases Nat.lt_trichotomy k l.length with hk | rfl | hk
  · rw [List.getElem?_append_left hk]
    exact ⟨.inl, fun h => h.resolve_right fun h' => by omega⟩
  · simp [eq_comm]
  · have hlen : (l ++ [y]).length ≤ k := by
      simp
      omega
    rw [List.getElem?_eq_none hlen, List.getElem?_eq_none (Nat.le_of_lt hk)]
    simp
    omega

namespace History

theorem DisposedBefore.mono {h : History ι α} {k m : ℕ} (hk : h.DisposedBefore k) (le : k ≤ m) :
    h.DisposedBefore m := by
  obtain ⟨j, hj, rest⟩ := hk
  exact ⟨j, by omega, rest⟩

theorem total_pos_iff {h : History ι α} {f : Event α → ℕ} :
    0 < h.total f ↔ ∃ x ∈ h, 0 < f x.event := by
  induction h with
  | nil => simp
  | cons y h ih =>
    simp only [total_cons, List.mem_cons, exists_eq_or_imp, ← ih]
    omega

theorem disposals_pos_iff {e : Event α} : 0 < e.disposals ↔ ∃ w, e = .disposed w := by
  cases e <;> simp [Event.disposals]

theorem disposals_take_pos_iff {h : History ι α} {k : ℕ} :
    0 < total (h.take k) Event.disposals ↔ h.DisposedBefore k := by
  rw [total_pos_iff]
  constructor
  · rintro ⟨⟨i, n, e⟩, hx, hpos⟩
    obtain ⟨w, rfl⟩ := disposals_pos_iff.mp hpos
    obtain ⟨m, hm⟩ := List.mem_iff_getElem?.mp hx
    rw [List.getElem?_take] at hm
    split_ifs at hm with hlt
    exact ⟨m, hlt, i, n, w, hm⟩
  · rintro ⟨m, hlt, i, n, w, hm⟩
    refine ⟨⟨i, n, .disposed w⟩, List.mem_iff_getElem?.mpr ⟨m, ?_⟩,
      disposals_pos_iff.mpr ⟨w, rfl⟩⟩
    rw [List.getElem?_take, if_pos hlt, hm]

variable [DecidableEq ι]

theorem mem_own {h : History ι α} {i : ι} {n : ℕ} {e : Event α} :
    e ∈ h.own i n ↔ ∃ k : ℕ, h[k]? = some (Entry.mk i n e) := by
  rw [← List.mem_iff_getElem?, own, List.mem_map]
  constructor
  · rintro ⟨⟨j, m, e'⟩, hx, rfl⟩
    simp only [List.mem_filter, decide_eq_true_eq] at hx
    obtain ⟨hx, rfl, rfl⟩ := hx
    exact hx
  · intro hx
    exact ⟨_, List.mem_filter.mpr ⟨hx, by simp⟩, rfl⟩

theorem mem_own_take {h : History ι α} {i : ι} {n k : ℕ} {e : Event α}
    (he : e ∈ History.own (h.take k) i n) : ∃ m < k, h[m]? = some (Entry.mk i n e) := by
  obtain ⟨m, hm⟩ := mem_own.mp he
  rw [List.getElem?_take] at hm
  split_ifs at hm with hlt
  exact ⟨m, hlt, hm⟩

theorem own_append (h h' : History ι α) (i : ι) (n : ℕ) :
    History.own (h ++ h') i n = h.own i n ++ h'.own i n := by
  simp [own]

theorem own_concat (h : History ι α) (i j : ι) (n m : ℕ) (e : Event α) :
    History.own (h ++ [⟨j, m, e⟩]) i n = h.own i n ++ if j = i ∧ m = n then [e] else [] := by
  by_cases hx : j = i ∧ m = n <;> simp [own, hx]

end History

/-- The events of every operation of a thread: an open operation keeps its duty, a finished one has
made the events of its protocol, and the numbers from now on are free. -/
structure Kept (resource : String) (own : ℕ → List (Event α)) (now : ℕ) (ds : List (Duty α)) :
    Prop where
  duty : ∀ d ∈ ds, d.2 (own d.1)
  ordered : ds.Pairwise fun d d' => d'.1 < d.1
  past : ∀ d ∈ ds, d.1 < now
  fresh : ∀ n, now ≤ n → own n = []
  finished : ∀ n r, .returned r ∈ own n →
    (∀ d ∈ ds, d.1 ≠ n) ∧ ∃ l, Complete resource r l ∧ own n = l ++ [.returned r]

theorem Kept.start (p : Program α) :
    Kept resource (fun _ => []) 0 ((Thread.start p).duties resource) where
  duty := nofun
  ordered := .nil
  past := nofun
  fresh _ _ := rfl
  finished := nofun

theorem Kept.wait {own : ℕ → List (Event α)} {now : ℕ} {ds : List (Duty α)}
    (kept : Kept resource own now ds) : Kept resource own (now + 1) ds where
  duty := kept.duty
  ordered := kept.ordered
  past d hd := Nat.lt_succ_of_lt (kept.past d hd)
  fresh n hn := kept.fresh n (by omega)
  finished := kept.finished

theorem Kept.advance {own own' : ℕ → List (Event α)} {now n : ℕ} {e : Event α}
    {ds ds' : List (Duty α)} (kept : Kept resource own now ds)
    (step : Advance resource now n e ds ds') (same : own' n = own n ++ [e])
    (other : ∀ m, m ≠ n → own' m = own m) : Kept resource own' (now + 1) ds' := by
  obtain ⟨duty, ordered, past, fresh, finished⟩ := kept
  have hfresh : n ≤ now → ∀ m, now + 1 ≤ m → own' m = [] := fun hn m hm => by
    rw [other m (by omega)]
    exact fresh m (by omega)
  cases step with
  | begin new op invoked first =>
    subst new invoked
    have hown : own' n = [.invoked op] := by rw [same, fresh n le_rfl, List.nil_append]
    refine ⟨?_, ?_, ?_, hfresh le_rfl, ?_⟩
    · intro d hd
      rcases List.mem_cons.mp hd with rfl | hd
      · exact hown ▸ first
      · rw [other d.1 (Nat.ne_of_lt (past d hd))]
        exact duty d hd
    · exact List.pairwise_cons.mpr ⟨past, ordered⟩
    · intro d hd
      rcases List.mem_cons.mp hd with rfl | hd
      · exact Nat.lt_succ_self n
      · exact Nat.lt_succ_of_lt (past d hd)
    · intro m r hr
      by_cases hm : m = n
      · subst hm
        simp [hown] at hr
      · rw [other m hm] at hr ⊢
        obtain ⟨hds, hl⟩ := finished m r hr
        refine ⟨fun d hd => ?_, hl⟩
        rcases List.mem_cons.mp hd with rfl | hd
        · exact Ne.symm hm
        · exact hds d hd
  | @«continue» P Q ds open_ next =>
    obtain ⟨hhead, hrest⟩ := List.pairwise_cons.mp ordered
    have hpast := past (n, P) List.mem_cons_self
    refine ⟨?_, List.pairwise_cons.mpr ⟨hhead, hrest⟩, ?_, hfresh (Nat.le_of_lt hpast), ?_⟩
    · intro d hd
      rcases List.mem_cons.mp hd with rfl | hd
      · exact same ▸ next _ (duty (n, P) List.mem_cons_self)
      · rw [other d.1 (Nat.ne_of_lt (hhead d hd))]
        exact duty d (List.mem_cons_of_mem _ hd)
    · intro d hd
      rcases List.mem_cons.mp hd with rfl | hd
      · exact Nat.lt_succ_of_lt hpast
      · exact Nat.lt_succ_of_lt (past d (List.mem_cons_of_mem _ hd))
    · intro m r hr
      by_cases hm : m = n
      · -- an open operation has not returned, and this event is no return
        subst hm
        rw [same, List.mem_append, List.mem_singleton] at hr
        rcases hr with hr | hr
        · exact absurd rfl ((finished m r hr).1 (m, P) List.mem_cons_self)
        · exact absurd hr.symm (open_ r)
      · rw [other m hm] at hr ⊢
        obtain ⟨hds, hl⟩ := finished m r hr
        refine ⟨fun d hd => ?_, hl⟩
        rcases List.mem_cons.mp hd with rfl | hd
        · exact Ne.symm hm
        · exact hds d (List.mem_cons_of_mem _ hd)
  | @finish r ds returned =>
    subst returned
    obtain ⟨hhead, hrest⟩ := List.pairwise_cons.mp ordered
    have hmem : ∀ d ∈ ds', d ∈ (n, Complete resource r) :: ds' :=
      fun _ => List.mem_cons_of_mem _
    have hpast := past _ List.mem_cons_self
    refine ⟨?_, hrest, fun d hd => Nat.lt_succ_of_lt (past d (hmem d hd)),
      hfresh (Nat.le_of_lt hpast), ?_⟩
    · intro d hd
      rw [other d.1 (Nat.ne_of_lt (hhead d hd))]
      exact duty d (hmem d hd)
    · intro m r' hr
      by_cases hm : m = n
      · subst hm
        rw [same, List.mem_append, List.mem_singleton] at hr
        rcases hr with hr | hr
        · exact absurd rfl ((finished m r' hr).1 _ List.mem_cons_self)
        · cases hr
          exact ⟨fun d hd => Nat.ne_of_lt (hhead d hd), own m, duty _ List.mem_cons_self, same⟩
      · rw [other m hm] at hr ⊢
        obtain ⟨hds, hl⟩ := finished m r' hr
        exact ⟨fun d hd => hds d (hmem d hd), hl⟩

theorem System.Step.kept [DecidableEq ι] {h : History ι α} {s s' : System ι α} {x : Entry ι α}
    (kept : ∀ i, Kept resource (h.own i) s.time ((s.threads i).duties resource))
    (step : s.Step resource x s') (i : ι) :
    Kept resource (History.own (h ++ [x]) i) s'.time ((s'.threads i).duties resource) := by
  cases step with
  | @mk j n e t hstep =>
    dsimp only
    by_cases hj : j = i
    · subst hj
      rw [Function.update_self]
      refine (kept j).advance hstep.advance ?_ ?_
      · rw [History.own_concat, if_pos ⟨rfl, rfl⟩]
      · intro m hm
        rw [History.own_concat, if_neg fun h => hm h.2.symm, List.append_nil]
    · rw [Function.update_of_ne (Ne.symm hj)]
      have hown : History.own (h ++ [⟨j, n, e⟩]) i = h.own i := by
        funext m
        rw [History.own_concat, if_neg fun h => hj h.1, List.append_nil]
      rw [hown]
      exact (kept i).wait

variable [Fintype ι] [DecidableEq ι] {g : Shared ι α} {h : History ι α} {s s' : System ι α}

theorem Run.adopted (adopt : g.adopt = .ok s) : Run g [] s := ⟨s, adopt, .refl⟩

theorem Run.step {x : Entry ι α} (run : Run g h s) (step : s.Step g.resource x s')
    (room : s'.calls < capacity) : Run g (h ++ [x]) s' := by
  obtain ⟨s₀, adopt, path⟩ := run
  exact ⟨s₀, adopt, path.step step room⟩

theorem Run.room (run : Run g h s) : s.calls < capacity := by
  obtain ⟨s₀, adopt, path⟩ := run
  cases path with
  | refl =>
    rw [Shared.adopt_eq_ok adopt]
    simp [System.calls, Thread.calls, Thread.start, Stage.calls, capacity]
  | step _ _ room => exact room

theorem Run.invariant {P : History ι α → System ι α → Prop}
    (adopted : ∀ s, g.adopt = .ok s → P [] s)
    (step : ∀ h s x s', P h s → Run g h s → s.Step g.resource x s' → P (h ++ [x]) s')
    (run : Run g h s) : P h s := by
  obtain ⟨s₀, adopt, path⟩ := run
  induction path with
  | refl => exact adopted s₀ adopt
  | step before hstep _ ih => exact step _ _ _ _ ih ⟨s₀, adopt, before⟩ hstep

theorem Run.time (run : Run g h s) : s.time = h.length := by
  refine run.invariant (P := fun h s => s.time = h.length) ?_ ?_
  · intro s adopt
    rw [Shared.adopt_eq_ok adopt, List.length_nil]
  · intro h s x s' ih _ step
    cases step
    simp [ih]

theorem Run.kept (run : Run g h s) (i : ι) :
    Kept g.resource (h.own i) s.time ((s.threads i).duties g.resource) := by
  refine run.invariant
    (P := fun h s => ∀ i, Kept g.resource (h.own i) s.time ((s.threads i).duties g.resource))
    ?_ ?_ i
  · intro s adopt i
    rw [Shared.adopt_eq_ok adopt]
    exact .start _
  · intro h s x s' ih _ step
    exact step.kept ih

theorem Run.duty (run : Run g h s) {i : ι} {n : ℕ} {P : List (Event α) → Prop}
    (here : (s.threads i).stage.duty g.resource = some (n, P)) : P (h.own i n) :=
  (run.kept i).duty (n, P) (by simp [Thread.duties, here])

theorem Run.made (run : Run g h s) {k n : ℕ} {i : ι} {e : Event α}
    (hk : h[k]? = some ⟨i, n, e⟩) :
    ∃ s₀ t, Run g (h.take k) s₀ ∧ Thread.Step g.resource k s₀.word (s₀.threads i) n e t := by
  refine run.invariant (P := fun h _ => h[k]? = some ⟨i, n, e⟩ →
    ∃ s₀ t, Run g (h.take k) s₀ ∧ Thread.Step g.resource k s₀.word (s₀.threads i) n e t) ?_ ?_ hk
  · intro s _ hk
    simp at hk
  · intro h s x s' ih before step hk
    rcases getElem?_concat.mp hk with hk | ⟨rfl, rfl⟩
    · rw [List.take_append_of_le_length (List.getElem?_eq_some_iff.mp hk).1.le]
      exact ih hk
    · rw [List.take_left]
      cases step with
      | @mk _ _ _ t hstep => exact ⟨s, t, before, before.time ▸ hstep⟩

theorem Run.found_flag (run : Run g h s) {k n : ℕ} {i : ι} {e : Event α} {w : Word}
    (hk : h[k]? = some ⟨i, n, e⟩) (found : e.found? = some w) :
    w.isDisposed = true ↔ h.DisposedBefore k := by
  obtain ⟨s₀, t, run₀, hstep⟩ := run.made hk
  have hw : w = s₀.word := by
    generalize s₀.threads i = t₀ at hstep
    cases hstep <;> cases found <;> rfl
  rw [hw, run₀.balanced.flag, History.disposals_take_pos_iff]

theorem Run.number_le (run : Run g h s) {k n : ℕ} {i : ι} {e : Event α}
    (hk : h[k]? = some ⟨i, n, e⟩) : n ≤ k := by
  obtain ⟨s₀, t, run₀, hstep⟩ := run.made hk
  have hpast := (run₀.kept i).past
  have htime : s₀.time = k := by
    rw [run₀.time, List.length_take_of_le (List.getElem?_eq_some_iff.mp hk).1.le]
  rw [htime] at hpast
  have hadv := hstep.advance
  generalize (s₀.threads i).duties g.resource = ds at hpast hadv
  generalize t.duties g.resource = ds' at hadv
  cases hadv with
  | begin new => exact new.le
  | «continue» => exact (hpast _ List.mem_cons_self).le
  | finish => exact (hpast _ List.mem_cons_self).le

theorem Run.invoked_number (run : Run g h s) {k n : ℕ} {i : ι} {op : Operation}
    (hk : h[k]? = some ⟨i, n, .invoked op⟩) : n = k := by
  obtain ⟨s₀, t, run₀, hstep⟩ := run.made hk
  generalize s₀.threads i = t₀ at hstep
  cases hstep <;> rfl

theorem Run.letIn (run : Run g h s) {k n : ℕ} {i : ι} (hk : h[k]? = some ⟨i, n, .began⟩) :
    LetIn (History.own (h.take k) i n) := by
  obtain ⟨s₀, t, run₀, hstep⟩ := run.made hk
  have hduty := (run₀.kept i).duty
  generalize s₀.threads i = t₀ at hstep hduty
  cases hstep with
  | begin => exact hduty _ List.mem_cons_self

theorem Run.complete (run : Run g h s) {k n : ℕ} {i : ι} {r : Reply α}
    (hk : h[k]? = some ⟨i, n, .returned r⟩) :
    Complete g.resource r (History.own (h.take k) i n) := by
  obtain ⟨s₀, t, run₀, hstep⟩ := run.made hk
  have hduty := (run₀.kept i).duty
  generalize s₀.threads i = t₀ at hstep hduty
  cases hstep with
  | handBack => exact hduty _ List.mem_cons_self

end EngineBridge.Guard
