import EngineBridge.Proofs.Guard.Tally
import Mathlib.Data.List.TakeWhile

/-!
The loop by which a call gets in. Every failed exchange is spurious or is paid for by a change that
another thread made to the word since the call last looked at it, and each change pays for one
failure at most, also if the word has come back to the value that the call holds. Once the flag is
set, a call in the loop looks at the word once more at most and is turned away.
-/

namespace EngineBridge.Guard

variable {ι α : Type} {resource : String}

namespace Event

def attempts : Event α → ℕ | failed .. | admitted _ => 1 | _ => 0

def spurious : Event α → ℕ
  | failed expected found => if found = expected then 1 else 0
  | _ => 0

def changes (e : Event α) : ℕ :=
  match e.found? with
  | some w => if e.after w = w then 0 else 1
  | none => 0

def looks : Event α → Bool | read _ => true | _ => false

def decides : Event α → Bool | admitted _ | refused => true | _ => false

end Event

theorem Thread.Step.changes {now n : ℕ} {w : Word} {t t' : Thread α} {e : Event α}
    (h : Step resource now w t n e t') : e.changes = if e.after w = w then 0 else 1 := by
  cases h <;> simp [Event.changes, Event.found?, Event.after]

theorem Thread.Step.attempt {now n : ℕ} {w : Word} {t t' : Thread α} {e : Event α}
    (h : Step resource now w t n e t') (attempt : 0 < e.attempts) :
    e.attempts = 1 ∧ ∃ f body c fs, n = f.number ∧ t = ⟨.trying f body c, fs⟩ := by
  cases h with
  | exchange | fail => exact ⟨rfl, _, _, _, _, rfl, rfl⟩
  | _ => cases attempt

theorem Reads.looked {l : List (Event α)} {c : Word} (reads : Reads l c) :
    ∃ e ∈ l, e.looks = true := by
  induction reads with
  | load w => exact ⟨.read w, by simp, rfl⟩
  | retry w live reads ih =>
    obtain ⟨e, he, hlooks⟩ := ih
    exact ⟨e, List.mem_append_left _ he, hlooks⟩

theorem Reads.undecided {l : List (Event α)} {c : Word} (reads : Reads l c) {e : Event α}
    (he : e ∈ l) : e.decides = false := by
  rcases reads.mem he with rfl | ⟨w, rfl⟩ | ⟨c, w, rfl⟩ <;> rfl

variable [DecidableEq ι] {h tr : History ι α} {x : Entry ι α} {i j : ι} {m n : ℕ} {e : Event α}

def Entry.does (x : Entry ι α) (i : ι) (n : ℕ) (p : Event α → Bool) : Bool :=
  decide (x.thread = i ∧ x.number = n) && p x.event

namespace History

def share (h : History ι α) (i : ι) (n : ℕ) (weight : Event α → ℕ) : ℕ :=
  ((h.own i n).map weight).sum

def sinceLook (h : History ι α) (i : ι) (n : ℕ) : History ι α :=
  (h.dropWhile fun x => !x.does i n Event.looks).drop 1

def during (h : History ι α) (i : ι) (n : ℕ) : History ι α :=
  (h.sinceLook i n).takeWhile fun x => !x.does i n Event.decides

/-- How often other threads change the word while a call is in its loop. -/
def interference (h : History ι α) (i : ι) (n : ℕ) : ℕ :=
  History.total ((h.during i n).filter fun x => x.thread ≠ i) Event.changes

theorem share_own (h : History ι α) (i : ι) (n : ℕ) (e : Event α) (weight : Event α → ℕ) :
    History.share (h ++ [⟨i, n, e⟩]) i n weight = h.share i n weight + weight e := by
  simp [share, own_concat]

theorem share_other {weight : Event α → ℕ} (other : ¬ (j = i ∧ m = n)) :
    History.share (h ++ [⟨j, m, e⟩]) i n weight = h.share i n weight := by
  simp [share, own_concat, other]

theorem exists_does {p : Event α → Bool} :
    (∃ x ∈ h, x.does i n p = true) ↔ ∃ e ∈ h.own i n, p e = true := by
  simp [Entry.does, own, and_assoc]

theorem sinceLook_concat (looked : ∃ e ∈ h.own i n, e.looks = true) (x : Entry ι α) :
    History.sinceLook (h ++ [x]) i n = h.sinceLook i n ++ [x] := by
  have hne : h.dropWhile (fun x => !x.does i n Event.looks) ≠ [] := by
    obtain ⟨y, hy, hdoes⟩ := exists_does.mpr looked
    rw [ne_eq, List.dropWhile_eq_nil_iff]
    exact fun h => by simpa [hdoes] using h y hy
  rw [sinceLook, List.dropWhile_append, if_neg (by simpa using hne),
    List.drop_append_of_le_length (List.length_pos_iff.mpr hne), sinceLook]

theorem sinceLook_eq_nil (unlooked : ¬ ∃ e ∈ h.own i n, e.looks = true) :
    h.sinceLook i n = [] := by
  have hnil : h.dropWhile (fun x => !x.does i n Event.looks) = [] := by
    rw [List.dropWhile_eq_nil_iff]
    intro y hy
    by_contra hdoes
    exact unlooked (exists_does.mp ⟨y, hy, by simpa using hdoes⟩)
  rw [sinceLook, hnil, List.drop_nil]

theorem mem_of_mem_sinceLook (hx : x ∈ h.sinceLook i n) : x ∈ h :=
  (List.dropWhile_sublist _).subset (List.mem_of_mem_drop hx)

theorem during_concat (looked : ∃ e ∈ h.own i n, e.looks = true)
    (undecided : ∀ e ∈ h.own i n, e.decides = false) (other : x.thread ≠ i) :
    History.during (h ++ [x]) i n = h.during i n ++ [x] := by
  have hstays : ∀ y ∈ h.sinceLook i n, (!y.does i n Event.decides) = true := by
    intro y hy
    by_contra hdoes
    obtain ⟨e, he, hdecides⟩ := exists_does.mp ⟨y, mem_of_mem_sinceLook hy, by simpa using hdoes⟩
    rw [undecided e he] at hdecides
    cases hdecides
  have hx : [x].takeWhile (fun x => !x.does i n Event.decides) = [x] :=
    List.takeWhile_cons_of_pos (by simp [Entry.does, other])
  rw [during, during, sinceLook_concat looked, List.takeWhile_append_of_pos hstays, hx,
    List.takeWhile_eq_self_iff.mpr hstays]

theorem during_prefix (h : History ι α) (x : Entry ι α) (i : ι) (n : ℕ) :
    h.during i n <+: History.during (h ++ [x]) i n := by
  by_cases looked : ∃ e ∈ h.own i n, e.looks = true
  · rw [during, during, sinceLook_concat looked, List.takeWhile_append]
    split_ifs with hlen
    · exact (List.takeWhile_prefix _).trans (List.prefix_append _ _)
    · exact List.prefix_rfl
  · rw [during, sinceLook_eq_nil looked]
    exact List.nil_prefix

theorem interference_le (h : History ι α) (x : Entry ι α) (i : ι) (n : ℕ) :
    h.interference i n ≤ History.interference (h ++ [x]) i n := by
  obtain ⟨l, hl⟩ := during_prefix h x i n
  rw [interference, interference, ← hl, List.filter_append, total_append]
  exact Nat.le_add_right _ _

theorem interference_concat (looked : ∃ e ∈ h.own i n, e.looks = true)
    (undecided : ∀ e ∈ h.own i n, e.decides = false) (other : x.thread ≠ i) :
    History.interference (h ++ [x]) i n = h.interference i n + x.event.changes := by
  rw [interference, during_concat looked undecided other, List.filter_append, total_append]
  simp [interference, other]

end History

variable [Fintype ι] {g : Shared ι α} {s s' : System ι α} {f : Frame α} {body : Program α}
  {c : Word} {fs : List (Frame α)}

theorem Run.reads (run : Run g h s) (here : s.threads i = ⟨.trying f body c, fs⟩) :
    Reads (h.own i f.number) c := by
  apply run.duty (P := fun l => Reads l c)
  rw [here]
  rfl

theorem Run.entering (run : Run g h s) (here : s.threads i = ⟨.entering f body, fs⟩) :
    h.own i f.number = [.invoked .call] := by
  apply run.duty (P := fun l => l = [.invoked .call])
  rw [here]
  rfl

/-- The failures of a call in its loop are charged to changes by others. If the word is no longer
the one that the call holds, then some change has not been charged yet. -/
structure Charged (h : History ι α) (s : System ι α) : Prop where
  bound : ∀ i n, h.share i n Event.attempts ≤ 1 + h.interference i n + h.share i n Event.spurious
  held : ∀ {i f body c fs}, s.threads i = ⟨.trying f body c, fs⟩ →
    h.share i f.number Event.attempts + (if c = s.word then 0 else 1) ≤
      h.interference i f.number + h.share i f.number Event.spurious

namespace Charged

theorem look {t : Thread α} (charged : Charged h s) (run : Run g h s)
    (step : Thread.Step g.resource s.time s.word (s.threads i) n e t)
    (here : t = ⟨.trying f body c, fs⟩) :
    n = f.number ∧ c = e.after s.word ∧
      History.share (h ++ [⟨i, n, e⟩]) i n Event.attempts ≤
        h.interference i n + History.share (h ++ [⟨i, n, e⟩]) i n Event.spurious := by
  obtain ⟨rfl, rfl, ⟨rfl, entering⟩ | ⟨c₀, rfl, trying⟩⟩ := step.into_loop here
  · have hnone : h.share i f.number Event.attempts = 0 := by
      rw [History.share, run.entering entering]
      rfl
    refine ⟨rfl, rfl, ?_⟩
    rw [History.share_own, hnone]
    exact Nat.zero_le _
  · have hheld := charged.held trying
    refine ⟨rfl, rfl, ?_⟩
    rw [History.share_own, History.share_own]
    simp only [Event.attempts, Event.spurious, eq_comm (a := s.word)]
    split_ifs at hheld ⊢ <;> omega

theorem wait {t : Thread α} (charged : Charged h s) (run : Run g h s)
    (here : s.threads i = ⟨.trying f body c, fs⟩)
    (step : Thread.Step g.resource s.time s.word (s.threads j) m e t) (other : j ≠ i) :
    h.share i f.number Event.attempts + (if c = e.after s.word then 0 else 1) ≤
      History.interference (h ++ [⟨j, m, e⟩]) i f.number +
        h.share i f.number Event.spurious := by
  have hheld := charged.held here
  have hreads := run.reads here
  have hconcat : History.interference (h ++ [⟨j, m, e⟩]) i f.number =
      h.interference i f.number + e.changes :=
    History.interference_concat hreads.looked (fun _ => hreads.undecided) other
  rw [hconcat, step.changes]
  by_cases hword : e.after s.word = s.word
  · rwa [hword, if_pos rfl, Nat.add_zero]
  · -- the word may also come back to the value that the call holds: then this change is in reserve
    rw [if_neg hword]
    split_ifs <;> omega

theorem step (charged : Charged h s) (run : Run g h s) (step : s.Step g.resource x s') :
    Charged (h ++ [x]) s' := by
  cases step with
  | @mk j m e t hstep =>
    refine ⟨fun i n => ?_, @fun i f body c fs here => ?_⟩
    · have hinterference := h.interference_le ⟨j, m, e⟩ i n
      have hbound := charged.bound i n
      by_cases hown : j = i ∧ m = n
      · obtain ⟨rfl, rfl⟩ := hown
        rw [History.share_own, History.share_own]
        by_cases hattempt : 0 < e.attempts
        · -- an attempt is made by a call in its loop, whose failures so far are all charged
          obtain ⟨hone, f, body, c, fs, rfl, here⟩ := hstep.attempt hattempt
          have hheld := charged.held here
          omega
        · omega
      · rw [History.share_other hown, History.share_other hown]
        omega
    · dsimp only at here ⊢
      by_cases hj : j = i
      · subst hj
        rw [Function.update_self] at here
        obtain ⟨rfl, hc, hlook⟩ := charged.look run hstep here
        have hinterference := h.interference_le ⟨j, f.number, e⟩ j f.number
        rw [if_pos hc]
        omega
      · rw [Function.update_of_ne (Ne.symm hj)] at here
        rw [History.share_other fun h => hj h.1, History.share_other fun h => hj h.1]
        exact charged.wait run here hstep hj

end Charged

theorem Run.charged (run : Run g h s) : Charged h s := by
  refine run.invariant ?_ fun h s x s' charged => charged.step
  intro s adopt
  refine ⟨fun i n => Nat.zero_le _, fun here => ?_⟩
  rw [Shared.adopt_eq_ok adopt] at here
  cases here

theorem Run.append (run : Run g h s) (path : Path g.resource s tr s') : Run g (h ++ tr) s' := by
  obtain ⟨s₀, adopt, before⟩ := run
  exact ⟨s₀, adopt, before.trans path⟩

theorem Run.stays_disposed (run : Run g h s) (path : Path g.resource s tr s')
    (disposed : s.word.isDisposed = true) : s'.word.isDisposed = true := by
  rw [run.balanced.flag] at disposed
  rw [(run.append path).balanced.flag, History.total_append]
  omega

theorem Run.silent (run : Run g h s) {t : Thread α} {r : Reply α}
    (returned : .returned r ∈ h.own i n) :
    ¬ Thread.Step g.resource s.time s.word (s.threads i) n e t := by
  intro step
  have hkept := run.kept i
  obtain ⟨closed, -⟩ := hkept.finished n r returned
  have hadvance := step.advance
  generalize (s.threads i).duties g.resource = ds at hkept closed hadvance
  generalize t.duties g.resource = ds' at hadvance
  cases hadvance with
  | begin new =>
    rw [hkept.fresh n new.ge] at returned
    cases returned
  | «continue» => exact closed _ List.mem_cons_self rfl
  | finish => exact closed _ List.mem_cons_self rfl

inductive Stage.Looping (f : Frame α) (body : Program α) : Stage α → Prop
  | entering : Looping f body (.entering f body)
  | trying (c : Word) : Looping f body (.trying f body c)

def Stage.lastLook : Stage α → Word → List (Event α)
  | entering .., w => [.read w]
  | trying _ _ c, w => if c.isDisposed then [] else [.failed c w]
  | _, _ => []

abbrev Reply.refusal (resource : String) : Reply α := .outcome (.error (.resourceDisposed resource))

/-- The events and the thread of a call that is on its way out of its loop, for the flag is set. -/
inductive Declining (resource : String) (f : Frame α) (body : Program α) (fs : List (Frame α))
    (stage : Stage α) : List (Event α) → Thread α → Prop
  | waiting : Declining resource f body fs stage [] ⟨stage, fs⟩
  | told {w : Word} (disposed : w.isDisposed = true) :
      Declining resource f body fs stage (stage.lastLook w) ⟨.trying f body w, fs⟩
  | refused (w : Word) :
      Declining resource f body fs stage (stage.lastLook w ++ [.refused])
        ⟨.returning (f.answer (.error (.resourceDisposed resource))), fs⟩

variable {stage : Stage α} {l : List (Event α)} {t t' : Thread α} {w : Word} {now : ℕ}

theorem Stage.lastLook_length (stage : Stage α) (w : Word) : (stage.lastLook w).length ≤ 1 := by
  unfold lastLook
  split
  · exact le_rfl
  · split_ifs <;> simp
  · exact Nat.zero_le _

theorem Stage.lastLook_quiet (stage : Stage α) (w : Word) :
    ∀ e ∈ stage.lastLook w, e.Quiet := by
  intro e he
  unfold lastLook at he
  split at he
  · rw [List.mem_singleton.mp he]
    exact ⟨rfl, rfl, fun _ => rfl⟩
  · split_ifs at he
    · cases he
    · rw [List.mem_singleton.mp he]
      exact ⟨rfl, rfl, fun _ => rfl⟩
  · cases he

namespace Declining

theorem length_lt (declining : Declining resource f body fs stage l t) : l.length < 3 := by
  cases declining with
  | waiting => exact Nat.succ_pos _
  | @told w => exact (stage.lastLook_length w).trans_lt (by decide)
  | refused w =>
    have hlength := stage.lastLook_length w
    rw [List.length_append, List.length_singleton]
    omega

theorem course (declining : Declining resource f body fs stage l t) :
    ∃ w, l <+: stage.lastLook w ++ [.refused, .returned (.refusal resource)] := by
  cases declining with
  | waiting => exact ⟨.fresh, List.nil_prefix⟩
  | @told w => exact ⟨w, List.prefix_append _ _⟩
  | refused w =>
    refine ⟨w, [.returned (.refusal resource)], ?_⟩
    rw [List.append_assoc]
    rfl

theorem step (declining : Declining resource f body fs stage l t) (looping : stage.Looping f body)
    (disposed : w.isDisposed = true) (step : Thread.Step resource now w t n e t') :
    n = f.number ∧ (Declining resource f body fs stage (l ++ [e]) t' ∨
      ∃ w, l ++ [e] = stage.lastLook w ++ [.refused, .returned (.refusal resource)]) := by
  cases declining with
  | waiting =>
    cases looping with
    | entering =>
      cases step with
      | load => exact ⟨rfl, .inl (.told disposed)⟩
    | trying c =>
      cases step with
      | refuse hc =>
        refine ⟨rfl, .inl ?_⟩
        have hlook : (Stage.trying f body c).lastLook w = [] := if_pos hc
        have h : Declining resource f body fs (.trying f body c) _ _ := .refused w
        rwa [hlook] at h
      | exchange live exchanged =>
        rw [← Word.compareExchange_eq_ok_current exchanged, disposed] at live
        cases live
      | fail live =>
        refine ⟨rfl, .inl ?_⟩
        have hlook : (Stage.trying f body c).lastLook w = [.failed c w] := if_neg (by simp [live])
        have h : Declining resource f body fs (.trying f body c) _ _ := .told disposed
        rwa [hlook] at h
  | told hc =>
    cases step with
    | refuse => exact ⟨rfl, .inl (.refused _)⟩
    | exchange live | fail live => rw [hc] at live; cases live
  | refused w' =>
    cases step with
    | handBack => exact ⟨rfl, .inr ⟨w', by rw [List.append_assoc]; rfl⟩⟩

theorem next (declining : Declining resource f body fs stage l t) (looping : stage.Looping f body)
    (now : ℕ) (w : Word) : ∃ n e t', Thread.Step resource now w t n e t' ∧ e.calls = 0 := by
  cases declining with
  | waiting =>
    cases looping with
    | entering => exact ⟨_, _, _, .load, rfl⟩
    | trying c =>
      cases hc : c.isDisposed with
      | true => exact ⟨_, _, _, .refuse hc, rfl⟩
      | false => exact ⟨_, _, _, .fail hc, rfl⟩
  | told hc => exact ⟨_, _, _, .refuse hc, rfl⟩
  | refused => exact ⟨_, _, _, .handBack, rfl⟩

end Declining

theorem Run.declines (run : Run g h s) (here : s.threads i = ⟨stage, fs⟩)
    (looping : stage.Looping f body) (disposed : s.word.isDisposed = true)
    (path : Path g.resource s tr s') :
    (Declining g.resource f body fs stage (tr.own i f.number) (s'.threads i) ∧
      tr.countP (·.thread = i) = (tr.own i f.number).length) ∨
      ∃ w, tr.own i f.number = stage.lastLook w ++ [.refused, .returned (.refusal g.resource)] := by
  induction path with
  | refl => exact .inl ⟨here ▸ .waiting, rfl⟩
  | @step tr s₁ s₂ x before step room ih =>
    have hdisposed := run.stays_disposed before disposed
    cases step with
    | @mk j m e t hstep =>
      dsimp only
      rw [History.own_concat, List.countP_append, List.countP_singleton]
      by_cases hj : j = i
      · subst hj
        rw [Function.update_self]
        rcases ih with ⟨declining, hcount⟩ | ⟨w, hw⟩
        · obtain ⟨rfl, hnext | hover⟩ := declining.step looping hdisposed hstep
          · refine .inl ?_
            simpa [hcount] using hnext
          · refine .inr ?_
            simpa using hover
        · have hreturned :
              .returned (.refusal g.resource) ∈ History.own (h ++ tr) j f.number := by
            simp [History.own_append, hw]
          have hother : m ≠ f.number := by
            rintro rfl
            exact (run.append before).silent hreturned hstep
          refine .inr ⟨w, ?_⟩
          rw [if_neg fun h => hother h.2, List.append_nil, hw]
      · rw [Function.update_of_ne (Ne.symm hj), if_neg fun h => hj h.1, List.append_nil]
        simpa [hj] using ih

theorem Run.quiet_loop (run : Run g h s) (here : s.threads i = ⟨stage, fs⟩)
    (looping : stage.Looping f body) : ∀ e ∈ h.own i f.number, e.Quiet := by
  cases looping with
  | entering =>
    rw [run.entering here]
    intro e he
    rw [List.mem_singleton.mp he]
    exact ⟨rfl, rfl, fun _ => rfl⟩
  | trying c => exact (run.reads here).quiet

theorem Stage.quiet_course (stage : Stage α) (w : Word) (resource : String) :
    ∀ e ∈ stage.lastLook w ++ [.refused, .returned (.refusal resource)], e.Quiet := by
  intro e he
  rcases List.mem_append.mp he with he | he
  · exact stage.lastLook_quiet w e he
  · rcases List.mem_pair.mp he with rfl | rfl <;> exact ⟨rfl, rfl, fun _ => rfl⟩

/-- A call attempts to exchange the word once, once more for each change that another thread makes
to it meanwhile, and once more for each spurious failure, at most. Once a disposal has taken effect,
a call in its loop looks at the word once more at most, by an attempt that fails or by the reading
with which it begins; then it is refused, within three steps that it can always take, and it has
changed nothing. -/
theorem attempts_charged (run : Run g h s) :
    (∀ i n, h.share i n Event.attempts ≤
        1 + h.interference i n + h.share i n Event.spurious) ∧
      ∀ i f body stage fs, s.threads i = ⟨stage, fs⟩ → stage.Looping f body →
        0 < h.total Event.disposals → ∀ tr s', Path g.resource s tr s' →
          (∃ w, tr.own i f.number <+:
            stage.lastLook w ++ [.refused, .returned (.refusal g.resource)]) ∧
          (∀ e ∈ History.own (h ++ tr) i f.number, e.Quiet) ∧
          (.returned (.refusal g.resource) ∈ tr.own i f.number ∨
            tr.countP (·.thread = i) < 3 ∧
              ∃ x s'', x.thread = i ∧ Path g.resource s (tr ++ [x]) s'') := by
  refine ⟨run.charged.bound, ?_⟩
  intro i f body stage fs here looping disposals tr s' path
  have hdisposed := run.balanced.flag.mpr disposals
  have hdeclines := run.declines here looping hdisposed path
  obtain ⟨w, hcourse⟩ : ∃ w, tr.own i f.number <+:
      stage.lastLook w ++ [.refused, .returned (.refusal g.resource)] := by
    rcases hdeclines with ⟨declining, -⟩ | ⟨w, hw⟩
    · exact declining.course
    · exact ⟨w, hw ▸ List.prefix_rfl⟩
  refine ⟨⟨w, hcourse⟩, fun e he => ?_, ?_⟩
  · rw [History.own_append] at he
    rcases List.mem_append.mp he with he | he
    · exact run.quiet_loop here looping e he
    · exact stage.quiet_course w g.resource e (hcourse.subset he)
  · rcases hdeclines with ⟨declining, hcount⟩ | ⟨w, hw⟩
    · obtain ⟨n, e, t, step, hcalls⟩ := declining.next looping s'.time s'.word
      have hstep : s'.Step g.resource ⟨i, n, e⟩ _ := .mk i step
      have hle : _ ≤ s'.calls + e.calls := hstep.calls_le
      have hroom := (run.append path).room
      refine .inr ⟨hcount ▸ declining.length_lt, _, _, rfl, path.step hstep ?_⟩
      omega
    · exact .inl (by simp [hw])

theorem attempts_charged_contended :
    ∃ s s', Run contended contendedHistory s ∧
      contendedHistory.share false 0 Event.attempts ≤
        1 + contendedHistory.interference false 0 + contendedHistory.share false 0 Event.spurious ∧
      contendedHistory.interference false 0 = 2 ∧
      contendedHistory.share false 0 Event.spurious = 1 ∧
      0 < contendedHistory.total Event.disposals ∧
      Path contended.resource s [⟨false, 0, .failed ⟨1⟩ s.word⟩] s' ∧
      ∃ x s'', x.thread = false ∧
        Path contended.resource s [⟨false, 0, .failed ⟨1⟩ s.word⟩, x] s'' := by
  obtain ⟨s, run, -, here, -⟩ := contended_run
  obtain ⟨bound, declines⟩ := attempts_charged run
  have hdisposals : 0 < contendedHistory.total Event.disposals := by decide
  have hfail : Thread.Step contended.resource s.time s.word (s.threads false) 0
      (.failed ⟨1⟩ s.word) ⟨.trying ⟨0, .done⟩ (.done (.value ())) s.word, []⟩ := by
    rw [here]
    exact .fail rfl
  have hstep : s.Step contended.resource ⟨false, 0, .failed ⟨1⟩ s.word⟩ _ := .mk false hfail
  have hpath : Path contended.resource s [⟨false, 0, .failed ⟨1⟩ s.word⟩] _ :=
    Path.refl.step hstep (hstep.calls_le.trans_lt run.room)
  obtain ⟨-, -, returned | ⟨-, x, s'', hx, hnext⟩⟩ :=
    declines false ⟨0, .done⟩ _ _ _ here (.trying ⟨1⟩) hdisposals _ _ hpath
  · simp [History.own] at returned
  · exact ⟨s, _, run, bound false 0, by decide, by decide, hdisposals, hpath, x, s'', hx, hnext⟩

end EngineBridge.Guard
