import EngineBridge.Guard.Interleaving
import EngineBridge.Proofs.Guard.Word

/-!
What one operation does from its invocation to its return, whatever the other threads do meanwhile.
Every thread owes each of its open operations the rest of such a sequence; a step of the thread
begins a sequence, goes on with its innermost one or ends it.
-/

namespace EngineBridge.Guard

variable {ι α : Type} {resource : String}

/-- The events after which a call holds a value of the word. -/
inductive Reads : List (Event α) → Word → Prop
  | load (w : Word) : Reads [.invoked .call, .read w] w
  | retry {l : List (Event α)} {c : Word} (w : Word) (live : c.isDisposed = false)
      (reads : Reads l c) : Reads (l ++ [.failed c w]) w

inductive LetIn : List (Event α) → Prop
  | mk {l : List (Event α)} {c : Word} (reads : Reads l c) (live : c.isDisposed = false) :
      LetIn (l ++ [.admitted c])

/-- The events of an operation up to the one that settles its answer and whether the release falls
to it. -/
inductive Settled (resource : String) : Bool → Reply α → List (Event α) → Prop
  | refused {l : List (Event α)} {c : Word} (reads : Reads l c) (disposed : c.isDisposed = true) :
      Settled resource false (.outcome (.error (.resourceDisposed resource))) (l ++ [.refused])
  | left {l : List (Event α)} (letIn : LetIn l) (o : Outcome α) (w : Word) :
      Settled resource w.isLastOut (.outcome o) (l ++ [.began] ++ [.ended o] ++ [.left w])
  | repeated {w : Word} (disposed : w.isDisposed = true) :
      Settled resource false (.disposal false) [.invoked .dispose, .disposed w]
  | disposed {w : Word} (live : w.isDisposed = false) :
      Settled resource (w.inFlight = 0) (.disposal true) [.invoked .dispose, .disposed w]
  | flag (w : Word) :
      Settled resource false (.flag w.isDisposed) [.invoked .isDisposed, .read w]
  | count (w : Word) :
      Settled resource false (.count w.inFlight) [.invoked .inFlight, .read w]

inductive Complete (resource : String) : Reply α → List (Event α) → Prop
  | plain {r : Reply α} {l : List (Event α)} (settled : Settled resource false r l) :
      Complete resource r l
  | released {r : Reply α} {l : List (Event α)} (settled : Settled resource true r l) :
      Complete resource r (l ++ [.releaseBegan] ++ [.releaseEnded])

abbrev Duty (α : Type) := ℕ × (List (Event α) → Prop)

def Stage.duty (resource : String) : Stage α → Option (Duty α)
  | client _ => none
  | entering f _ => some (f.number, fun l => l = [.invoked .call])
  | trying f _ c => some (f.number, fun l => Reads l c)
  | admitted f _ => some (f.number, LetIn)
  | leaving f o => some (f.number, fun l => ∃ l₀, LetIn l₀ ∧ l = l₀ ++ [.began] ++ [.ended o])
  | disposing n _ => some (n, fun l => l = [.invoked .dispose])
  | readingFlag n _ => some (n, fun l => l = [.invoked .isDisposed])
  | readingCount n _ => some (n, fun l => l = [.invoked .inFlight])
  | releasing r => some (r.number, Settled resource true r.reply)
  | inRelease r =>
    some (r.number, fun l => ∃ l₀, Settled resource true r.reply l₀ ∧ l = l₀ ++ [.releaseBegan])
  | returning r => some (r.number, Complete resource r.reply)

def Frame.duty (f : Frame α) : Duty α := (f.number, fun l => ∃ l₀, LetIn l₀ ∧ l = l₀ ++ [.began])

def Thread.duties (resource : String) (t : Thread α) : List (Duty α) :=
  (t.stage.duty resource).toList ++ t.bodies.map Frame.duty

/-- What a step of a thread does to its duties. -/
inductive Advance (resource : String) (now n : ℕ) (e : Event α) :
    List (Duty α) → List (Duty α) → Prop
  | begin {P : List (Event α) → Prop} {ds : List (Duty α)} (new : n = now) (op : Operation)
      (invoked : e = .invoked op) (first : P [e]) : Advance resource now n e ds ((n, P) :: ds)
  | continue {P Q : List (Event α) → Prop} {ds : List (Duty α)} (open_ : ∀ r, e ≠ .returned r)
      (next : ∀ l, P l → Q (l ++ [e])) : Advance resource now n e ((n, P) :: ds) ((n, Q) :: ds)
  | finish {r : Reply α} {ds : List (Duty α)} (returned : e = .returned r) :
      Advance resource now n e ((n, Complete resource r) :: ds) ds

theorem duty_afterLeaving (resource : String) (f : Frame α) (o : Outcome α) (w : Word) :
    ∃ Q, (afterLeaving (f.answer o) w).duty resource = some (f.number, Q) ∧
      ∀ l, Settled resource w.isLastOut (.outcome o) l → Q l := by
  unfold afterLeaving
  cases w.isLastOut with
  | true => exact ⟨_, rfl, fun _ h => h⟩
  | false => exact ⟨_, rfl, fun _ h => .plain h⟩

theorem duty_afterDisposal (resource : String) (n : ℕ) (next : Bool → Program α) (w : Word) :
    ∃ Q, (afterDisposal n next w).duty resource = some (n, Q) ∧
      Q [.invoked .dispose, .disposed w] := by
  unfold afterDisposal
  split_ifs with hd hc
  · exact ⟨_, rfl, .plain (.repeated hd)⟩
  · refine ⟨_, rfl, ?_⟩
    have h : Settled resource _ (.disposal true) [.invoked .dispose, .disposed w] :=
      .disposed (α := α) (Bool.eq_false_iff.mpr hd)
    rwa [decide_eq_true hc] at h
  · refine ⟨_, rfl, .plain ?_⟩
    have h : Settled resource _ (.disposal true) [.invoked .dispose, .disposed w] :=
      .disposed (α := α) (Bool.eq_false_iff.mpr hd)
    rwa [decide_eq_false hc] at h

theorem Thread.Step.advance {now n : ℕ} {w : Word} {t t' : Thread α} {e : Event α}
    (h : Step resource now w t n e t') :
    Advance resource now n e (t.duties resource) (t'.duties resource) := by
  cases h with
  | invokeCall => exact .begin rfl _ rfl rfl
  | invokeDispose => exact .begin rfl _ rfl rfl
  | invokeFlag => exact .begin rfl _ rfl rfl
  | invokeCount => exact .begin rfl _ rfl rfl
  | load => exact .continue nofun fun l hl => hl ▸ .load w
  | refuse disposed => exact .continue nofun fun l hl => .plain (.refused hl disposed)
  | exchange live exchanged =>
    obtain rfl := Word.compareExchange_eq_ok_current exchanged
    exact .continue nofun fun l hl => .mk hl live
  | fail live => exact .continue nofun fun l hl => .retry w live hl
  | begin => exact .continue nofun fun l hl => ⟨l, hl, rfl⟩
  | finish =>
    refine .continue nofun fun l hl => ?_
    obtain ⟨l₀, hl₀, rfl⟩ := hl
    exact ⟨l₀, hl₀, rfl⟩
  | @leave f o fs =>
    obtain ⟨Q, hQ, hl⟩ := duty_afterLeaving resource f o w
    simp only [duties, hQ]
    refine .continue nofun fun l h => ?_
    obtain ⟨l₀, hl₀, rfl⟩ := h
    exact hl _ (.left hl₀ o w)
  | @dispose _ next fs =>
    obtain ⟨Q, hQ, hl⟩ := duty_afterDisposal resource n next w
    simp only [duties, hQ]
    exact .continue nofun fun l h => h ▸ hl
  | readFlag => exact .continue nofun fun l hl => .plain (hl ▸ .flag w)
  | readCount => exact .continue nofun fun l hl => .plain (hl ▸ .count w)
  | beginRelease => exact .continue nofun fun l hl => ⟨l, hl, rfl⟩
  | endRelease =>
    refine .continue nofun fun l hl => ?_
    obtain ⟨l₀, hl₀, rfl⟩ := hl
    exact .released hl₀
  | handBack => exact .finish rfl

theorem Thread.Step.into_loop {now n : ℕ} {w c : Word} {t t' : Thread α} {e : Event α}
    {f : Frame α} {body : Program α} {fs : List (Frame α)} (h : Step resource now w t n e t')
    (here : t' = ⟨.trying f body c, fs⟩) :
    n = f.number ∧ c = w ∧ (e = .read w ∧ t = ⟨.entering f body, fs⟩ ∨
      ∃ c₀ : Word, e = .failed c₀ w ∧ t = ⟨.trying f body c₀, fs⟩) := by
  cases h with
  | load =>
    cases here
    exact ⟨rfl, rfl, .inl ⟨rfl, rfl⟩⟩
  | fail =>
    cases here
    exact ⟨rfl, rfl, .inr ⟨_, rfl, rfl⟩⟩
  | leave =>
    unfold afterLeaving at here
    split_ifs at here <;> cases here
  | dispose =>
    unfold afterDisposal at here
    split_ifs at here <;> cases here
  | _ => cases here

@[simp] def Reply.operation : Reply α → Operation
  | outcome _ => .call
  | disposal _ => .dispose
  | flag _ => .isDisposed
  | count _ => .inFlight

def Event.Quiet (e : Event α) : Prop := e.begins = 0 ∧ e.outcome? = none ∧ ∀ w, e.after w = w

structure Ran (o : Outcome α) (l : List (Event α)) : Prop where
  begun : (l.map Event.begins).sum = 1
  outcomes : l.filterMap Event.outcome? = [o]
  admitted : ∃ c : Word, .admitted c ∈ l ∧ c.isDisposed = false

structure Declined (resource : String) (o : Outcome α) (l : List (Event α)) : Prop where
  outcome : o = .error (.resourceDisposed resource)
  quiet : ∀ e ∈ l, e.Quiet
  found : ∃ e ∈ l, ∃ c : Word, e.found? = some c ∧ c.isDisposed = true

variable {l : List (Event α)} {c : Word} {e : Event α} {o : Outcome α} {r : Reply α}

theorem Reads.mem (reads : Reads l c) (he : e ∈ l) :
    e = .invoked .call ∨ (∃ w, e = .read w) ∨ ∃ c w, e = .failed c w := by
  induction reads with
  | load w =>
    rcases List.mem_pair.mp he with rfl | rfl
    · exact .inl rfl
    · exact .inr (.inl ⟨w, rfl⟩)
  | @retry _ c w _ _ ih =>
    rcases List.mem_append.mp he with he | he
    · exact ih he
    · exact .inr (.inr ⟨c, w, List.mem_singleton.mp he⟩)

theorem Reads.quiet (reads : Reads l c) : ∀ e ∈ l, e.Quiet := by
  intro e he
  rcases reads.mem he with rfl | ⟨w, rfl⟩ | ⟨c, w, rfl⟩ <;> exact ⟨rfl, rfl, fun _ => rfl⟩

theorem Reads.found (reads : Reads l c) : ∃ e ∈ l, e.found? = some c := by
  cases reads with
  | load w => exact ⟨.read c, by simp, rfl⟩
  | @retry l c' => exact ⟨.failed c' c, by simp, rfl⟩

theorem begins_of_quiet (quiet : ∀ e ∈ l, e.Quiet) : (l.map Event.begins).sum = 0 := by
  apply List.sum_eq_zero
  intro n hn
  obtain ⟨e, he, rfl⟩ := List.mem_map.mp hn
  exact (quiet e he).1

theorem outcomes_of_quiet (quiet : ∀ e ∈ l, e.Quiet) : l.filterMap Event.outcome? = [] :=
  List.filterMap_eq_nil_iff.mpr fun e he => (quiet e he).2.1

theorem LetIn.admitted (letIn : LetIn l) : ∃ c : Word, .admitted c ∈ l ∧ c.isDisposed = false := by
  obtain ⟨_, live⟩ := letIn
  exact ⟨_, by simp, live⟩

theorem LetIn.ran (letIn : LetIn l) (o : Outcome α) (w : Word) :
    Ran o (l ++ [.began] ++ [.ended o] ++ [.left w]) := by
  obtain ⟨reads, live⟩ := letIn
  have hbegins := begins_of_quiet reads.quiet
  have houtcomes := outcomes_of_quiet reads.quiet
  refine ⟨?_, ?_, _, by simp, live⟩
  · simp [hbegins, Event.begins]
  · simp only [List.filterMap_append, houtcomes]
    rfl

theorem Ran.concat (ran : Ran o l) (quiet : e.Quiet) : Ran o (l ++ [e]) := by
  obtain ⟨hbegins, houtcome, -⟩ := quiet
  obtain ⟨begun, outcomes, c, hc, live⟩ := ran
  refine ⟨by simp [begun, hbegins], ?_, c, List.mem_append_left _ hc, live⟩
  rw [List.filterMap_append, outcomes, List.filterMap_cons_none houtcome]
  rfl

theorem Declined.concat (declined : Declined resource o l) (quiet : e.Quiet) :
    Declined resource o (l ++ [e]) := by
  obtain ⟨outcome, hquiet, e₀, he₀, hfound⟩ := declined
  refine ⟨outcome, fun e' he' => ?_, e₀, List.mem_append_left _ he₀, hfound⟩
  rcases List.mem_append.mp he' with he' | he'
  · exact hquiet e' he'
  · exact List.mem_singleton.mp he' ▸ quiet

theorem Settled.ran_or_declined {due : Bool} (settled : Settled resource due (.outcome o) l) :
    Ran o l ∨ Declined resource o l := by
  cases settled with
  | left letIn _ w => exact .inl (letIn.ran o w)
  | refused reads disposed =>
    obtain ⟨e, he, hfound⟩ := reads.found
    have declined : Declined resource (.error (.resourceDisposed resource)) _ :=
      ⟨rfl, reads.quiet, e, he, _, hfound, disposed⟩
    exact .inr (declined.concat ⟨rfl, rfl, fun _ => rfl⟩)

theorem Complete.ran_or_declined (complete : Complete resource (.outcome o) l) :
    Ran o l ∨ Declined resource o l := by
  cases complete with
  | plain settled => exact settled.ran_or_declined
  | released settled =>
    have hbegan : (.releaseBegan : Event α).Quiet := ⟨rfl, rfl, fun _ => rfl⟩
    have hended : (.releaseEnded : Event α).Quiet := ⟨rfl, rfl, fun _ => rfl⟩
    rcases settled.ran_or_declined with h | h
    · exact .inl ((h.concat hbegan).concat hended)
    · exact .inr ((h.concat hbegan).concat hended)

theorem Settled.disposal_found {due b : Bool} (settled : Settled resource due (.disposal b) l) :
    (∃ w : Word, .disposed w ∈ l) ∧ ∀ w : Word, .disposed w ∈ l → b = !w.isDisposed := by
  cases settled with
  | @repeated w disposed => exact ⟨⟨w, by simp⟩, by simp [disposed]⟩
  | @disposed w live => exact ⟨⟨w, by simp⟩, by simp [live]⟩

theorem Complete.disposal_found {b : Bool} (complete : Complete resource (.disposal b) l) :
    (∃ w : Word, .disposed w ∈ l) ∧ ∀ w : Word, .disposed w ∈ l → b = !w.isDisposed := by
  cases complete with
  | plain settled => exact settled.disposal_found
  | released settled => simpa using settled.disposal_found

theorem Settled.flag_found {due b : Bool} (settled : Settled resource due (.flag b) l) :
    ∃ w : Word, (.read w : Event α) ∈ l ∧ b = w.isDisposed := by
  cases settled with
  | flag w => exact ⟨w, by simp, rfl⟩

theorem Complete.flag_found {b : Bool} (complete : Complete resource (.flag b) l) :
    ∃ w : Word, (.read w : Event α) ∈ l ∧ b = w.isDisposed := by
  cases complete with
  | plain settled => exact settled.flag_found
  | released settled =>
    obtain ⟨w, hw, hb⟩ := settled.flag_found
    exact ⟨w, by simp [hw], hb⟩

theorem Reads.operation (reads : Reads l c) {op : Operation} (hop : .invoked op ∈ l) :
    op = .call := by
  simpa using reads.mem hop

theorem LetIn.operation (letIn : LetIn l) {op : Operation} (hop : .invoked op ∈ l) :
    op = .call := by
  obtain ⟨reads, live⟩ := letIn
  exact reads.operation (by simpa using hop)

theorem Settled.operation {due : Bool} (settled : Settled resource due r l) {op : Operation}
    (hop : .invoked op ∈ l) : op = r.operation := by
  cases settled with
  | refused reads => exact reads.operation (by simpa using hop)
  | left letIn => exact letIn.operation (by simpa using hop)
  | _ => simpa using hop

theorem Complete.operation (complete : Complete resource r l) {op : Operation}
    (hop : .invoked op ∈ l) : op = r.operation := by
  cases complete with
  | plain settled => exact settled.operation hop
  | released settled => exact settled.operation (by simpa using hop)

end EngineBridge.Guard
