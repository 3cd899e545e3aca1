import EngineBridge.Proofs.Facade.Concurrent

/-!
Threads that share a statement come to the end of what they do. A thread waits for another one only
while that one fetches a count, and the fetch can always be ended; with no cell busy every operation
can run to its return, whatever the others stand at. New calls wait until those in progress are
over, so that the word can count them all.
-/

namespace EngineBridge.Facade

open Abi (Side)
open Engine (Reply Table)
open Guard (Entry Event Frame History Return System Thread Word)

variable {ι : Type} [DecidableEq ι] {c : Party ι} {h tr : History ι Work} {s s' s'' : Site ι}
  {i : ι} {p p' : Plan} {t t' : Thread Work} {side : Side} {cells cells' : Side → Cell}

def Free (cells : Side → Cell) : Prop := ∀ side, cells side ≠ .busy

def FreeBut (side : Side) (cells : Side → Cell) : Prop :=
  ∀ side', side' ≠ side → cells side' ≠ .busy

theorem FreeBut.update {cell : Cell} (free : FreeBut side cells) (hcell : cell ≠ .busy) :
    Free (Function.update cells side cell) :=
  (Function.forall_update_iff cells fun _ cell => cell ≠ .busy).mpr ⟨hcell, free⟩

theorem Free.claim (free : Free cells) : FreeBut side (Function.update cells side .busy) := by
  intro side' hside
  rw [Function.update_of_ne hside]
  exact free side'

theorem Site.all_of_others (P : Thread Work → Prop) {t : Thread Work}
    (all : ∀ j, P (s.guard.threads j)) (ht : P t) (here : s'.guard.threads i = t)
    (others : ∀ j, j ≠ i → s'.guard.threads j = s.guard.threads j) (j : ι) :
    P (s'.guard.threads j) := by
  by_cases hj : j = i
  · rw [hj, here]
    exact ht
  · rw [others j hj]
    exact all j

variable [Fintype ι]

namespace Site

theorem Walk.trans (walk : s.Walk h s') (walk' : s'.Walk tr s'') : s.Walk (h ++ tr) s'' := by
  induction walk' with
  | refl => rwa [List.append_nil]
  | acts _ step room ih =>
    rw [← List.append_assoc]
    exact ih.acts step room
  | works _ step ih => exact ih.works step

/-- Thread `i` can come to stand at `t` while every other thread stays where it is. -/
def Leads (s : Site ι) (i : ι) (t : Thread Work) : Prop :=
  ∃ tr s', s.Walk tr s' ∧ s'.guard.threads i = t ∧
    (∀ j, j ≠ i → s'.guard.threads j = s.guard.threads j) ∧ Free s'.cells

theorem Leads.of_walk (walk : s.Walk h s')
    (others : ∀ j, j ≠ i → s'.guard.threads j = s.guard.threads j) (leads : s'.Leads i t) :
    s.Leads i t := by
  obtain ⟨tr, s'', walk', here, others', free⟩ := leads
  exact ⟨_, s'', walk.trans walk', here, fun j hj => (others' j hj).trans (others j hj), free⟩

end Site

namespace Party

def Comes (c : Party ι) (s : Site ι) (i : ι) (p : Plan) : Prop :=
  ∃ r p', c.Answered p r p' ∧ s.Leads i (.start p'.program)

theorem Comes.of_walk (walk : s.Walk h s')
    (others : ∀ j, j ≠ i → s'.guard.threads j = s.guard.threads j) (comes : c.Comes s' i p) :
    c.Comes s i p := by
  obtain ⟨r, p', answered, leads⟩ := comes
  exact ⟨r, p', answered, leads.of_walk walk others⟩

variable {a : Ask} {next : Result → Plan} {n : ℕ} {w w' : Work}

theorem Comes.works (coherent : c.Coherent h s)
    (here : s.guard.threads i = ⟨.client (.done (.value w)), [frame n a next]⟩)
    (sound : c.Sound a w) (step : w.Step s.engine s.cells w' cells')
    (comes : ∀ s', c.Coherent h s' →
      s'.guard.threads i = ⟨.client (.done (.value w')), [frame n a next]⟩ → c.Sound a w' →
      s'.cells = cells' → c.Comes s' i p) : c.Comes s i p := by
  have hstep := Site.Works.mk here step
  have sound' := (sound.step (coherent.live here) coherent.counted step).1
  refine .of_walk (Site.Walk.refl.works hstep) (fun j hj => Function.update_of_ne hj ..) ?_
  exact comes _ (coherent.works hstep) (Function.update_self ..) sound' rfl

theorem Coherent.replies {α : Type} {f : Frame Work} {fs : List (Frame Work)}
    (coherent : c.Coherent h s)
    (here : s.guard.threads i = ⟨.client (.done (.value w)), f :: fs⟩) (call : Table → Reply α) :
    Replies s.engine call (call (.ofStatement c.statement)) := by
  intro st hst
  rw [coherent.live here] at hst
  rw [Option.some.inj hst]

section

variable (coherent : c.Coherent h s)

include coherent

theorem Comes.acts {e : Event Work} (here : s.guard.threads i = t)
    (step : Thread.Step Resource.preparedStatement.name s.guard.time s.guard.word t n e t')
    (whole : Whole e) (room : s.guard.calls + e.calls < Guard.capacity)
    (comes : ∀ h' s', c.Coherent h' s' → s'.guard.threads i = t' →
      s'.guard.word = e.after s.guard.word → s'.cells = s.cells → c.Comes s' i p) :
    c.Comes s i p := by
  have hstep := System.Step.mk i (here ▸ step)
  have hroom := hstep.calls_le.trans_lt room
  have hacts := Site.Acts.mk hstep whole
  refine .of_walk (Site.Walk.refl.acts hacts hroom) (fun j hj => Function.update_of_ne hj ..) ?_
  exact comes _ _ (coherent.acts hacts hroom) (Function.update_self ..) rfl rfl

theorem Comes.handBack {r : Return Work} (here : s.guard.threads i = ⟨.returning r, []⟩)
    (answered : c.Answered p r.reply p') (resume : r.resume = p'.program) (free : Free s.cells) :
    c.Comes s i p := by
  have step : Thread.Step Resource.preparedStatement.name s.guard.time s.guard.word
    (s.guard.threads i) r.number (.returned r.reply) ⟨.client r.resume, []⟩ := here ▸ .handBack
  have hstep := System.Step.mk i step
  have hroom := hstep.calls_le.trans_lt coherent.room
  refine ⟨_, p', answered, _, _, Site.Walk.refl.acts (.mk hstep (.of_none rfl)) hroom, ?_,
    fun j hj => ?_, free⟩
  · rw [Thread.start, ← resume]
    exact Function.update_self ..
  · exact Function.update_of_ne hj ..

theorem Comes.endRelease {r : Return Work} (here : s.guard.threads i = ⟨.inRelease r, []⟩)
    (answered : c.Answered p r.reply p') (resume : r.resume = p'.program) (free : Free s.cells) :
    c.Comes s i p := by
  refine .acts coherent here .endRelease (.of_none rfl) coherent.room ?_
  intro h' s' coherent' here' _ hcells
  exact .handBack coherent' here' answered resume (hcells ▸ free)

theorem Comes.release {r : Return Work} (here : s.guard.threads i = ⟨.releasing r, []⟩)
    (answered : c.Answered p r.reply p') (resume : r.resume = p'.program) (free : Free s.cells) :
    c.Comes s i p := by
  refine .acts coherent here .beginRelease (.of_none rfl) coherent.room ?_
  intro h' s' coherent' here' _ hcells
  exact .endRelease coherent' here' answered resume (hcells ▸ free)

theorem Comes.leave (here : s.guard.threads i =
      ⟨.leaving (frame n a next) (.value (.answered (c.alone a))), []⟩) (free : Free s.cells) :
    c.Comes s i (.ask a next) := by
  refine .acts coherent here .leave (.of_none rfl) coherent.room ?_
  intro h' s' coherent' here' _ hcells
  unfold Guard.afterLeaving at here'
  split_ifs at here'
  · exact .release coherent' here' .alone rfl (hcells ▸ free)
  · exact .handBack coherent' here' .alone rfl (hcells ▸ free)

theorem Comes.answered {r : Result}
    (here : s.guard.threads i = ⟨.client (.done (.value (.answered r))), [frame n a next]⟩)
    (sound : c.Sound a (.answered r)) (free : Free s.cells) : c.Comes s i (.ask a next) := by
  cases sound
  refine .acts coherent here .finish (.ended _) coherent.room ?_
  intro h' s' coherent' here' _ hcells
  exact .leave coherent' here' (hcells ▸ free)

theorem Comes.known {m : UInt64} (count : a = .query (.count side))
    (here : s.guard.threads i = ⟨.client (.done (.value (.asked a))), [frame n a next]⟩)
    (filled : s.cells side = .filled m) (free : Free s.cells) : c.Comes s i (.ask a next) := by
  subst count
  refine .works coherent here .asked (.known filled) ?_
  intro s' coherent' here' sound' hcells
  exact .answered coherent' here' sound' (hcells ▸ free)

theorem Comes.store {checked : Except Error Unit} {m : UInt64}
    (here : s.guard.threads i =
      ⟨.client (.done (.value (.fetched side checked m))), [frame n a next]⟩)
    (sound : c.Sound a (.fetched side checked m)) (free : FreeBut side s.cells) :
    c.Comes s i (.ask a next) := by
  cases sound
  refine .works coherent here .fetched .store ?_
  intro s' coherent' here' _ hcells
  have filled : s'.cells side = .filled (c.count side) := by
    rw [hcells, Function.update_self]
  exact .known coherent' rfl here' filled (hcells ▸ free.update nofun)

theorem Comes.fetch
    (here : s.guard.threads i = ⟨.client (.done (.value (.fetching side))), [frame n a next]⟩)
    (sound : c.Sound a (.fetching side)) (free : FreeBut side s.cells) :
    c.Comes s i (.ask a next) := by
  refine .works coherent here sound (.fetch (n := 0) (coherent.replies here _)) ?_
  intro s' coherent' here' sound' hcells
  exact .store coherent' here' sound' (hcells ▸ free)

theorem Comes.visit {panics : List Engine.Column → Engine.Column → Option Payload} {k : ℕ}
    {got : Delivered (List Engine.Column)}
    (here : s.guard.threads i =
      ⟨.client (.done (.value (.visiting a side panics k got))), [frame n a next]⟩)
    (sound : c.Sound a (.visiting a side panics k got)) (free : Free s.cells) :
    c.Comes s i (.ask a next) := by
  generalize hds : ((Table.ofStatement c.statement).fill side 0).written.getD [] = ds
  -- by the number of columns that are still to come
  induction hm : ds.length - k generalizing s k got with
  | zero =>
    have exhausted : ds[k]? = none := List.getElem?_eq_none_iff.mpr (by omega)
    rw [← hds] at exhausted
    refine .works coherent here sound
      (.conclude (coherent.replies here (·.fill side 0)) exhausted) ?_
    intro s' coherent' here' sound' hcells
    exact .answered coherent' here' sound' (hcells ▸ free)
  | succ m ih =>
    obtain ⟨d, more⟩ : ∃ d, ds[k]? = some d := ⟨_, List.getElem?_eq_getElem (by omega)⟩
    rw [← hds] at more
    refine .works coherent here sound (.column (coherent.replies here (·.fill side 0)) more) ?_
    intro s' coherent' here' sound' hcells
    exact ih coherent' here' sound' (hcells ▸ free) (by omega)

theorem Comes.count (count : a = .query (.count side))
    (here : s.guard.threads i = ⟨.client (.done (.value (.asked a))), [frame n a next]⟩)
    (free : Free s.cells) : c.Comes s i (.ask a next) := by
  cases hcell : s.cells side with
  | empty =>
    subst count
    refine .works coherent here .asked (.claim hcell) ?_
    intro s' coherent' here' sound' hcells
    exact .fetch coherent' here' sound' (hcells ▸ free.claim)
  | busy => exact absurd hcell (free side)
  | filled m => exact .known coherent count here hcell free

theorem Comes.asked
    (here : s.guard.threads i = ⟨.client (.done (.value (.asked a))), [frame n a next]⟩)
    (free : Free s.cells) : c.Comes s i (.ask a next) := by
  cases hvisits : a.visits? with
  | some p =>
    refine .works coherent here .asked (.visit hvisits) ?_
    intro s' coherent' here' sound' hcells
    exact .visit coherent' here' sound' (hcells ▸ free)
  | none =>
    cases a with
    | fill => cases hvisits
    | query q =>
      cases q with
      | specs => cases hvisits
      | count side => exact .count coherent rfl here free
      | isLwt =>
        refine .works coherent here .asked (.isLwt (n := 0) (coherent.replies here _)) ?_
        intro s' coherent' here' sound' hcells
        exact .answered coherent' here' sound' (hcells ▸ free)
      | id =>
        refine .works coherent here .asked (.id (n := 0) (coherent.replies here _)) ?_
        intro s' coherent' here' sound' hcells
        exact .answered coherent' here' sound' (hcells ▸ free)

theorem Comes.body (here : s.guard.threads i = ⟨.client (.done (.value w)), [frame n a next]⟩)
    (sound : c.Sound a w) (free : Free s.cells) : c.Comes s i (.ask a next) := by
  cases sound with
  | asked => exact .asked coherent here free
  | fetching => exact .fetch coherent here .fetching fun side _ => free side
  | fetched => exact .store coherent here .fetched fun side _ => free side
  | visiting visits => exact .visit coherent here (.visiting visits) free
  | answered => exact .answered coherent here .answered free

theorem Comes.refuse {current : Word} (here : s.guard.threads i =
      ⟨.trying (frame n a next) (.done (.value (.asked a))) current, []⟩)
    (disposed : current.isDisposed = true) (free : Free s.cells) : c.Comes s i (.ask a next) := by
  refine .acts coherent here (.refuse disposed) (.of_none rfl) coherent.room ?_
  intro h' s' coherent' here' _ hcells
  exact .handBack coherent' here' .refused rfl (hcells ▸ free)

theorem Comes.exchange {current : Word} (here : s.guard.threads i =
      ⟨.trying (frame n a next) (.done (.value (.asked a))) current, []⟩)
    (live : current.isDisposed = false) (fits : s.guard.word = current) (free : Free s.cells) :
    c.Comes s i (.ask a next) := by
  subst fits
  refine .acts coherent here (.exchange live (Word.compareExchange_eq_ok_iff.mpr rfl))
    (.of_none rfl) coherent.room ?_
  intro h' s' coherent' here' _ hcells
  refine .acts coherent' here' .begin (.of_none rfl) coherent'.room ?_
  intro h'' s'' coherent'' here'' _ hcells'
  exact .asked coherent'' here'' (hcells' ▸ hcells ▸ free)

/-- If the word has changed in the meantime, the exchange fails once and then fits. -/
theorem Comes.enter {current : Word} (here : s.guard.threads i =
      ⟨.trying (frame n a next) (.done (.value (.asked a))) current, []⟩) (free : Free s.cells) :
    c.Comes s i (.ask a next) := by
  cases hdisposed : current.isDisposed with
  | true => exact .refuse coherent here hdisposed free
  | false =>
    refine .acts coherent here (.fail hdisposed) (.of_none rfl) coherent.room ?_
    intro h' s' coherent' here' fits hcells
    cases hword : s.guard.word.isDisposed with
    | true => exact .refuse coherent' here' hword (hcells ▸ free)
    | false => exact .exchange coherent' here' hword fits (hcells ▸ free)

theorem Comes.load (here : s.guard.threads i =
      ⟨.entering (frame n a next) (.done (.value (.asked a))), []⟩) (free : Free s.cells) :
    c.Comes s i (.ask a next) := by
  refine .acts coherent here .load (.of_none rfl) coherent.room ?_
  intro h' s' coherent' here' _ hcells
  exact .enter coherent' here' (hcells ▸ free)

theorem Comes.dispose {next : Plan}
    (here : s.guard.threads i = ⟨.disposing n fun _ => next.program, []⟩) (free : Free s.cells) :
    c.Comes s i (.dispose next) := by
  refine .acts coherent here .dispose (.of_none rfl) coherent.room ?_
  intro h' s' coherent' here' _ hcells
  unfold Guard.afterDisposal at here'
  split_ifs at here'
  · exact .handBack coherent' here' .disposed rfl (hcells ▸ free)
  · exact .release coherent' here' .disposed rfl (hcells ▸ free)
  · exact .handBack coherent' here' .disposed rfl (hcells ▸ free)

theorem Stands.comes (stands : c.Stands (s.guard.threads i) p) (pending : p ≠ .done)
    (vacant : (s.guard.threads i).calls = 0 → s.guard.calls = 0) (free : Free s.cells) :
    c.Comes s i p := by
  generalize here : s.guard.threads i = t at stands vacant
  cases stands with
  | @idle p =>
    cases p with
    | done => exact absurd rfl pending
    | ask a next =>
      have room : s.guard.calls + 1 < Guard.capacity := by
        rw [vacant rfl]
        decide
      refine .acts coherent here .invokeCall (.of_none rfl) room ?_
      intro h' s' coherent' here' _ hcells
      exact .load coherent' here' (hcells ▸ free)
    | dispose next =>
      refine .acts coherent here .invokeDispose (.of_none rfl) coherent.room ?_
      intro h' s' coherent' here' _ hcells
      exact .dispose coherent' here' (hcells ▸ free)
  | entering => exact .load coherent here free
  | trying => exact .enter coherent here free
  | admitted =>
    refine .acts coherent here .begin (.of_none rfl) coherent.room ?_
    intro h' s' coherent' here' _ hcells
    exact .asked coherent' here' (hcells ▸ free)
  | body sound => exact .body coherent here sound free
  | leaving => exact .leave coherent here free
  | disposing => exact .dispose coherent here free
  | releasing answered resume => exact .release coherent here answered resume free
  | inRelease answered resume => exact .endRelease coherent here answered resume free
  | returning answered resume => exact .handBack coherent here answered resume free

theorem Coherent.goOn {t : Thread Work} (vacant : ∀ j, (s.guard.threads j).calls = 0)
    (leads : s.Leads i (.start p.program))
    (next : ∀ {h s}, c.Coherent h s → c.Stands (s.guard.threads i) p →
      (∀ j, (s.guard.threads j).calls = 0) → Free s.cells → s.Leads i t) : s.Leads i t := by
  obtain ⟨tr, s', walk, here, others, free⟩ := leads
  have vacant' := Site.all_of_others (·.calls = 0) vacant rfl here others
  exact (next (coherent.walk walk) (.of_start here) vacant' free).of_walk walk others

theorem Stands.complete (stands : c.Stands (s.guard.threads i) p)
    (vacant : ∀ j, (s.guard.threads j).calls = 0) (free : Free s.cells) :
    s.Leads i (.start Plan.done.program) := by
  induction p generalizing h s with
  | done => exact ⟨[], s, .refl, stands.done, fun _ _ => rfl, free⟩
  | ask a next ih =>
    have calls : s.guard.calls = 0 := Finset.sum_eq_zero fun j _ => vacant j
    obtain ⟨r, p', answered, leads⟩ := stands.comes coherent nofun (fun _ => calls) free
    refine coherent.goOn vacant leads fun coherent' stands' vacant' free' => ?_
    cases answered with
    | alone => exact ih _ coherent' stands' vacant' free'
    | refused => exact ih _ coherent' stands' vacant' free'
  | dispose next ih =>
    have calls : s.guard.calls = 0 := Finset.sum_eq_zero fun j _ => vacant j
    obtain ⟨r, p', answered, leads⟩ := stands.comes coherent nofun (fun _ => calls) free
    refine coherent.goOn vacant leads fun coherent' stands' vacant' free' => ?_
    cases answered
    exact ih coherent' stands' vacant' free'

theorem Coherent.each {P Q : Thread Work → Prop} (of : ∀ t, Q t → P t)
    (one : ∀ h s i, c.Coherent h s → (∀ j, P (s.guard.threads j)) → Free s.cells →
      ∃ t, Q t ∧ s.Leads i t)
    (all : ∀ j, P (s.guard.threads j)) (free : Free s.cells) (threads : Finset ι) :
    ∃ tr s', s.Walk tr s' ∧ (∀ j, P (s'.guard.threads j)) ∧
      (∀ i ∈ threads, Q (s'.guard.threads i)) ∧ Free s'.cells := by
  induction threads using Finset.induction_on with
  | empty => exact ⟨[], s, .refl, all, nofun, free⟩
  | insert i threads _ ih =>
    obtain ⟨tr, s₁, walk, all₁, done, free₁⟩ := ih
    obtain ⟨t, ht, tr', s', walk', here, others, free'⟩ :=
      one _ s₁ i (coherent.walk walk) all₁ free₁
    refine ⟨_, s', walk.trans walk', Site.all_of_others P all₁ (of t ht) here others, ?_, free'⟩
    intro j hj
    by_cases hij : j = i
    · rw [hij, here]
      exact ht
    · rw [others j hij]
      exact done j (Finset.mem_of_mem_insert_of_ne hj hij)

theorem Coherent.settle (free : Free s.cells) :
    ∃ tr s', s.Walk tr s' ∧ (∀ i, (s'.guard.threads i).calls = 0) ∧ Free s'.cells := by
  have one : ∀ h s i, c.Coherent h s → (∀ _ : ι, True) → Free s.cells →
      ∃ t, t.calls = 0 ∧ s.Leads i t := by
    intro h s i coherent _ free
    by_cases hi : (s.guard.threads i).calls = 0
    · exact ⟨_, hi, [], s, .refl, rfl, fun _ _ => rfl, free⟩
    · obtain ⟨p, -, stands⟩ := coherent.stands i
      have pending : p ≠ .done := by
        rintro rfl
        rw [stands.done] at hi
        exact hi rfl
      obtain ⟨r, p', -, leads⟩ := stands.comes coherent pending (absurd · hi) free
      exact ⟨_, rfl, leads⟩
  obtain ⟨tr, s', walk, -, settled, free'⟩ := coherent.each (P := fun _ => True)
    (fun _ _ => trivial) one (fun _ => trivial) free Finset.univ
  exact ⟨tr, s', walk, fun i => settled i (Finset.mem_univ i), free'⟩

theorem Coherent.complete (vacant : ∀ i, (s.guard.threads i).calls = 0) (free : Free s.cells) :
    ∃ tr s', s.Walk tr s' ∧ ∀ i, s'.guard.threads i = .start Plan.done.program := by
  have one : ∀ h s i, c.Coherent h s → (∀ j, (s.guard.threads j).calls = 0) → Free s.cells →
      ∃ t, t = .start Plan.done.program ∧ s.Leads i t := by
    intro h s i coherent vacant free
    obtain ⟨p, -, stands⟩ := coherent.stands i
    exact ⟨_, rfl, stands.complete coherent vacant free⟩
  have start_calls : ∀ t, t = Thread.start Plan.done.program → t.calls = 0 := by
    rintro _ rfl
    rfl
  obtain ⟨tr, s', walk, -, done, -⟩ :=
    coherent.each start_calls one vacant free Finset.univ
  exact ⟨tr, s', walk, fun i => done i (Finset.mem_univ i)⟩

theorem Coherent.store {f : Frame Work} {fs : List (Frame Work)} {checked : Except Error Unit}
    {m : UInt64}
    (here : s.guard.threads i = ⟨.client (.done (.value (.fetched side checked m))), f :: fs⟩) :
    ∃ s', s.Works s' ∧ s'.cells side ≠ .busy ∧
      ∀ side', side' ≠ side → s'.cells side' = s.cells side' := by
  obtain ⟨p, -, stands⟩ := coherent.stands i
  rw [here] at stands
  obtain ⟨n, a, next, -, -, -, sound⟩ := stands.of_body
  cases sound
  refine ⟨_, .mk here .store, ?_, fun side' hside => Function.update_of_ne hside ..⟩
  dsimp only
  rw [Function.update_self]
  exact nofun

theorem Coherent.fetch (side : Side) :
    ∃ s', s.Walk [] s' ∧ s'.cells side ≠ .busy ∧
      ∀ side', side' ≠ side → s'.cells side' = s.cells side' := by
  by_cases hbusy : s.cells side = .busy
  · obtain ⟨i, hi⟩ := coherent.claimed side hbusy
    obtain ⟨p, -, stands⟩ := coherent.stands i
    obtain ⟨f, fs, w, here, hw⟩ := stands.of_claimed hi
    cases w with
    | fetching side' =>
      obtain rfl := Option.some.inj hw
      have hstep := Site.Works.mk here (.fetch (n := 0) (coherent.replies here _))
      obtain ⟨s', hstep', hcells⟩ := (coherent.works hstep).store (Function.update_self ..)
      exact ⟨s', (Site.Walk.refl.works hstep).works hstep', hcells⟩
    | fetched side' checked m =>
      obtain rfl := Option.some.inj hw
      obtain ⟨s', hstep, hcells⟩ := coherent.store here
      exact ⟨s', Site.Walk.refl.works hstep, hcells⟩
    | _ => cases hw
  · exact ⟨s, .refl, hbusy, fun _ _ => rfl⟩

theorem Coherent.unblock : ∃ s', s.Walk [] s' ∧ Free s'.cells := by
  obtain ⟨s₁, walk₁, free₁, -⟩ := coherent.fetch .variables
  obtain ⟨s', walk', free', others⟩ := (coherent.walk walk₁).fetch .results
  refine ⟨s', walk₁.trans walk', fun side => ?_⟩
  cases side
  · rw [others .variables nofun]
    exact free₁
  · exact free'

theorem Coherent.finish : ∃ tr s', s.Walk tr s' ∧
    ∀ i, c.Follows (c.plans i) (History.replies (h ++ tr) i) .done := by
  obtain ⟨s₁, walk₁, free₁⟩ := coherent.unblock
  have coherent₁ := coherent.walk walk₁
  obtain ⟨tr, s₂, walk₂, vacant, free₂⟩ := coherent₁.settle free₁
  have coherent₂ := coherent₁.walk walk₂
  obtain ⟨tr', s', walk', done⟩ := coherent₂.complete vacant free₂
  have walk := (walk₁.trans walk₂).trans walk'
  refine ⟨_, s', walk, fun i => ?_⟩
  obtain ⟨p, follows, stands⟩ := (coherent.walk walk).stands i
  rw [done i] at stands
  rwa [stands.of_done] at follows

end

end Party

theorem Party.Reaches.start {g : System ι Work} (adopt : c.shared.adopt = .ok g) :
    c.Reaches [] ⟨g, some c.statement, fun _ => .empty⟩ :=
  ⟨g, adopt, .refl⟩

theorem Party.Reaches.acts {x : Entry ι Work} (reaches : c.Reaches h s) (step : s.Acts x s')
    (room : s'.guard.calls < Guard.capacity) : c.Reaches (h ++ [x]) s' :=
  reaches.imp fun _ => And.imp_right fun walk => walk.acts step room

theorem Party.Reaches.works (reaches : c.Reaches h s) (step : s.Works s') : c.Reaches h s' :=
  reaches.imp fun _ => And.imp_right fun walk => walk.works step

theorem Party.Reaches.coherent (reaches : c.Reaches h s) : c.Coherent h s := by
  obtain ⟨g, adopt, walk⟩ := reaches
  exact (Party.Coherent.start adopt).walk walk

theorem Party.Coherent.late {n : ℕ} (coherent : c.Coherent h s)
    (refused : ⟨i, n, .returned (.outcome (.error Record.refusal))⟩ ∈ h) : h.Late i n := by
  have hmem := History.mem_own.mpr (List.mem_iff_getElem?.mp refused)
  refine (coherent.traced.ended_or_late hmem).resolve_left fun ended => ?_
  obtain ⟨r, hr⟩ := coherent.whole ended
  cases hr

/-- Threads that share a statement, however many, are told by every query what it answers alone on
the statement or that the statement is disposed; the latter only if the query has found the guard's
word after a disposal took effect, and so never if no thread disposes. Wherever they stand, all of
them can come to the end of their plans. -/
theorem concurrent_as_alone (reaches : c.Reaches h s) :
    (∀ i, ∃ p, c.Follows (c.plans i) (h.replies i) p) ∧
      (∀ i n, ⟨i, n, .returned (.outcome (.error Record.refusal))⟩ ∈ h → h.Late i n) ∧
      ((∀ x ∈ h, x.event ≠ .invoked .dispose) →
        ∀ i n, ⟨i, n, .returned (.outcome (.error Record.refusal))⟩ ∉ h) ∧
      ∃ tr s', s.Walk tr s' ∧
        ∀ i, c.Follows (c.plans i) (History.replies (h ++ tr) i) .done := by
  have coherent := reaches.coherent
  refine ⟨fun i => ?_, fun i n => coherent.late, fun quiet i n refused => ?_, coherent.finish⟩
  · obtain ⟨p, follows, -⟩ := coherent.stands i
    exact ⟨p, follows⟩
  · obtain ⟨j, m, invoked⟩ := coherent.traced.late_invoked (coherent.late refused)
    exact quiet _ invoked rfl

/-- One thread disposes of a statement while another fetches a count, and asks after that. -/
def crowd : Party Bool where
  statement := ⟨[1], "SELECT 1", true, [⟨"ks", "t", "v", 3⟩], []⟩
  origin := .linked
  handle := ⟨1⟩
  plans
    | false => .ask (.query (.count .variables)) fun _ => .done
    | true => .dispose (.ask (.query .isLwt) fun _ => .done)

def crowdHistory : History Bool Work :=
  let lastOutWord : Word := ⟨Word.disposedFlag ||| 1⟩
  let counted : Outcome Work := .value (.answered (.plain (.value (.count 1))))
  [⟨false, 0, .invoked .call⟩, ⟨false, 0, .read .fresh⟩, ⟨false, 0, .admitted .fresh⟩,
    ⟨false, 0, .began⟩, ⟨true, 4, .invoked .dispose⟩, ⟨true, 4, .disposed ⟨1⟩⟩,
    ⟨true, 4, .returned (.disposal true)⟩, ⟨true, 7, .invoked .call⟩, ⟨true, 7, .read lastOutWord⟩,
    ⟨true, 7, .refused⟩, ⟨true, 7, .returned (.outcome (.error Record.refusal))⟩,
    ⟨false, 0, .ended counted⟩, ⟨false, 0, .left lastOutWord⟩, ⟨false, 0, .releaseBegan⟩,
    ⟨false, 0, .releaseEnded⟩, ⟨false, 0, .returned (.outcome counted)⟩]

theorem crowd_reaches : ∃ s, crowd.Reaches crowdHistory s := by
  have r₀ := Party.Reaches.start (c := crowd) rfl
  have r₁ := r₀.acts (.mk (.mk false .invokeCall) (.of_none rfl)) (by decide)
  have r₂ := r₁.acts (.mk (.mk false .load) (.of_none rfl)) (by decide)
  have r₃ := r₂.acts (.mk (.mk false (.exchange rfl rfl)) (.of_none rfl)) (by decide)
  have r₄ := r₃.acts (.mk (.mk false .begin) (.of_none rfl)) (by decide)
  have r₅ := r₄.works (.mk (i := false) rfl (.claim rfl))
  have r₆ := r₅.acts (.mk (.mk true .invokeDispose) (.of_none rfl)) (by decide)
  have r₇ := r₆.acts (.mk (.mk true .dispose) (.of_none rfl)) (by decide)
  have r₈ := r₇.acts (.mk (.mk true .handBack) (.of_none rfl)) (by decide)
  have r₉ := r₈.acts (.mk (.mk true .invokeCall) (.of_none rfl)) (by decide)
  have r₁₀ := r₉.acts (.mk (.mk true .load) (.of_none rfl)) (by decide)
  have r₁₁ := r₁₀.acts (.mk (.mk true (.refuse rfl)) (.of_none rfl)) (by decide)
  have r₁₂ := r₁₁.acts (.mk (.mk true .handBack) (.of_none rfl)) (by decide)
  have replies : Replies (some crowd.statement) (·.count .variables 0)
      ((Engine.Table.ofStatement crowd.statement).count .variables 0) := by
    rintro _ ⟨⟩
    rfl
  have r₁₃ := r₁₂.works (.mk (i := false) rfl (.fetch replies))
  have r₁₄ := r₁₃.works (.mk (i := false) rfl .store)
  have r₁₅ := r₁₄.works (.mk (i := false) rfl (.known rfl))
  have r₁₆ := r₁₅.acts (.mk (.mk false .finish) (.ended _)) (by decide)
  have r₁₇ := r₁₆.acts (.mk (.mk false .leave) (.of_none rfl)) (by decide)
  have r₁₈ := r₁₇.acts (.mk (.mk false .beginRelease) (.of_none rfl)) (by decide)
  have r₁₉ := r₁₈.acts (.mk (.mk false .endRelease) (.of_none rfl)) (by decide)
  have r₂₀ := r₁₉.acts (.mk (.mk false .handBack) (.of_none rfl)) (by decide)
  exact ⟨_, r₂₀⟩

theorem concurrent_as_alone_deferred :
    (∃ p, crowd.Follows (crowd.plans false)
        [.outcome (.value (.answered (.plain (.value (.count 1)))))] p) ∧
      crowdHistory.Late true 7 := by
  obtain ⟨s, reaches⟩ := crowd_reaches
  obtain ⟨follows, late, -, -⟩ := concurrent_as_alone reaches
  exact ⟨follows false, late true 7 (List.mem_iff_getElem?.mpr ⟨10, rfl⟩)⟩

end EngineBridge.Facade
