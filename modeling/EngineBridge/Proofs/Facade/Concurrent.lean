import EngineBridge.Proofs.Facade.Threads
import EngineBridge.Proofs.Guard.Trace

/-!
Threads that share a statement, each of them told what it would be told alone. A body that is open
keeps the release away, so what it reads it reads from the live statement; and the cells only ever
hold what the engine replies.
-/

namespace EngineBridge.Facade

open Abi (Export Side)
open Engine (Delivery Statement Table)
open Guard (Entry Event Frame History Program Return System Thread Traced Word)

variable {ι : Type} {c : Party ι} {a : Ask} {p p' : Plan} {w w' : Work} {t t' : Thread Work}
  {side : Side} {engine : Option Statement} {cells cells' : Side → Cell}

namespace Party

def alone (c : Party ι) (a : Ask) : Result := Facade.alone c.context a

/-- What a thread may get at the first operation of its plan, and the plan after that. -/
inductive Answered (c : Party ι) : Plan → Guard.Reply Work → Plan → Prop
  | alone {a : Ask} {next : Result → Plan} :
      Answered c (.ask a next) (.outcome (.value (.answered (c.alone a)))) (next (c.alone a))
  | refused {a : Ask} {next : Result → Plan} :
      Answered c (.ask a next) (.outcome (.error Record.refusal))
        (next (a.report (.error Record.refusal)))
  | disposed {next : Plan} {b : Bool} : Answered c (.dispose next) (.disposal b) next

inductive Follows (c : Party ι) : Plan → List (Guard.Reply Work) → Plan → Prop
  | nil {p : Plan} : Follows c p [] p
  | concat {p p' p'' : Plan} {rs : List (Guard.Reply Work)} {r : Guard.Reply Work}
      (before : Follows c p rs p') (last : Answered c p' r p'') : Follows c p (rs ++ [r]) p''

def deliveries (c : Party ι) (side : Side) : List Delivery :=
  Engine.deliveries (c.statement.columns side)

def count (c : Party ι) (side : Side) : UInt64 := (c.statement.columns side).length.toUInt64

inductive Sound (c : Party ι) : Ask → Work → Prop
  | asked {a : Ask} : Sound c a (.asked a)
  | fetching {side : Side} : Sound c (.query (.count side)) (.fetching side)
  | fetched {side : Side} : Sound c (.query (.count side)) (.fetched side (.ok ()) (c.count side))
  | visiting {a : Ask} {side : Side} {panics : List Engine.Column → Engine.Column → Option Payload}
      {k : ℕ} (visits : a.visits? = some (side, panics)) :
      Sound c a (.visiting a side panics k
        (((c.deliveries side).take k).foldl (look (Export.fill side).symbol panics) (.start [])))
  | answered {a : Ask} : Sound c a (.answered (c.alone a))

def Counted (c : Party ι) (cells : Side → Cell) : Prop :=
  ∀ side n, cells side = .filled n → n = c.count side

theorem Counted.update {cell : Cell} (counted : c.Counted cells)
    (h : ∀ n, cell = .filled n → n = c.count side) :
    c.Counted (Function.update cells side cell) := by
  refine (Function.forall_update_iff cells fun side cell => ∀ n, cell = .filled n →
    n = c.count side).mpr ⟨h, ?_⟩
  exact fun side' _ => counted side'

theorem Sound.step (sound : c.Sound a w) (live : engine = some c.statement)
    (counted : c.Counted cells) (step : w.Step engine cells w' cells') :
    c.Sound a w' ∧ c.Counted cells' := by
  cases step with
  | @isLwt n reply replies =>
    obtain rfl := replies _ live
    cases sound
    refine ⟨?_, counted⟩
    rw [← alone_isLwt c.statement c.origin c.handle]
    exact .answered
  | @id n reply replies =>
    obtain rfl := replies _ live
    cases sound
    refine ⟨?_, counted⟩
    rw [← alone_id c.statement c.origin c.handle]
    exact .answered
  | known filled =>
    cases sound
    obtain rfl := counted _ _ filled
    refine ⟨?_, counted⟩
    rw [count, ← alone_count c.statement c.origin c.handle]
    exact .answered
  | claim empty =>
    cases sound
    exact ⟨.fetching, counted.update nofun⟩
  | @fetch side n reply replies =>
    obtain rfl := (replies _ live).trans (count_reply c.statement c.origin c.handle side n)
    cases sound
    exact ⟨.fetched, counted⟩
  | store =>
    cases sound
    refine ⟨.asked, counted.update ?_⟩
    rintro n ⟨⟩
    rfl
  | giveUp => cases sound
  | visit visits =>
    cases sound
    exact ⟨.visiting (k := 0) visits, counted⟩
  | @column a side panics k n got reply d replies more =>
    obtain rfl := (replies _ live).trans (fill_reply c.statement c.origin c.handle side n)
    cases sound with
    | visiting visits =>
      have htake : (c.deliveries side).take (k + 1) = (c.deliveries side).take k ++ [d] := by
        rw [List.take_add_one]
        exact congrArg (_ ++ Option.toList ·) more
      have hlook := List.foldl_concat (look (Export.fill side).symbol panics) (.start []) d
        ((c.deliveries side).take k)
      rw [← htake] at hlook
      exact ⟨hlook ▸ .visiting visits, counted⟩
  | @conclude a side panics k n got reply replies exhausted =>
    obtain rfl := (replies _ live).trans (fill_reply c.statement c.origin c.handle side n)
    cases sound with
    | visiting visits =>
      have htake : (c.deliveries side).take k = c.deliveries side :=
        List.take_of_length_le (List.getElem?_eq_none_iff.mp exhausted)
      have halone := alone_visits c.statement c.origin c.handle n visits
      dsimp only at halone
      rw [show (Table.ofStatement c.statement).fill side n = _ from
        fill_reply c.statement c.origin c.handle side n] at halone
      refine ⟨?_, counted⟩
      rw [htake]
      exact halone ▸ .answered

def frame (n : ℕ) (a : Ask) (next : Result → Plan) : Frame Work :=
  ⟨n, fun o => (next (a.told o)).program⟩

/-- Where a thread may stand that has not finished the first operation of its plan. -/
inductive Stands (c : Party ι) : Thread Work → Plan → Prop
  | idle {p : Plan} : Stands c (.start p.program) p
  | entering {n : ℕ} {a : Ask} {next : Result → Plan} :
      Stands c ⟨.entering (frame n a next) (.done (.value (.asked a))), []⟩ (.ask a next)
  | trying {n : ℕ} {a : Ask} {next : Result → Plan} {current : Word} :
      Stands c ⟨.trying (frame n a next) (.done (.value (.asked a))) current, []⟩ (.ask a next)
  | admitted {n : ℕ} {a : Ask} {next : Result → Plan} :
      Stands c ⟨.admitted (frame n a next) (.done (.value (.asked a))), []⟩ (.ask a next)
  | body {n : ℕ} {a : Ask} {next : Result → Plan} {w : Work} (sound : c.Sound a w) :
      Stands c ⟨.client (.done (.value w)), [frame n a next]⟩ (.ask a next)
  | leaving {n : ℕ} {a : Ask} {next : Result → Plan} :
      Stands c ⟨.leaving (frame n a next) (.value (.answered (c.alone a))), []⟩ (.ask a next)
  | disposing {n : ℕ} {next : Plan} :
      Stands c ⟨.disposing n fun _ => next.program, []⟩ (.dispose next)
  | releasing {r : Return Work} {p p' : Plan} (answered : c.Answered p r.reply p')
      (resume : r.resume = p'.program) : Stands c ⟨.releasing r, []⟩ p
  | inRelease {r : Return Work} {p p' : Plan} (answered : c.Answered p r.reply p')
      (resume : r.resume = p'.program) : Stands c ⟨.inRelease r, []⟩ p
  | returning {r : Return Work} {p p' : Plan} (answered : c.Answered p r.reply p')
      (resume : r.resume = p'.program) : Stands c ⟨.returning r, []⟩ p

theorem Stands.afterLeaving {r : Return Work} (answered : c.Answered p r.reply p')
    (resume : r.resume = p'.program) (word : Word) :
    c.Stands ⟨Guard.afterLeaving r word, []⟩ p := by
  unfold Guard.afterLeaving
  split_ifs
  · exact .releasing answered resume
  · exact .returning answered resume

theorem Stands.afterDisposal (n : ℕ) (next : Plan) (word : Word) :
    c.Stands ⟨Guard.afterDisposal n (fun _ => next.program) word, []⟩ (.dispose next) := by
  unfold Guard.afterDisposal
  split_ifs
  · exact .returning .disposed rfl
  · exact .releasing .disposed rfl
  · exact .returning .disposed rfl

theorem Stands.acts {now n : ℕ} {word : Word} {e : Event Work} (stands : c.Stands t p)
    (step : Thread.Step Resource.preparedStatement.name now word t n e t')
    (whole : Whole e) :
    e.reply? = none ∧ c.Stands t' p ∨
      ∃ r p', e.reply? = some r ∧ c.Answered p r p' ∧ c.Stands t' p' := by
  cases stands with
  | idle =>
    cases p with
    | done => cases step
    | ask a next =>
      cases step
      exact .inl ⟨rfl, .entering⟩
    | dispose next =>
      cases step
      exact .inl ⟨rfl, .disposing⟩
  | entering =>
    cases step
    exact .inl ⟨rfl, .trying⟩
  | trying =>
    cases step with
    | refuse => exact .inl ⟨rfl, .returning .refused rfl⟩
    | exchange => exact .inl ⟨rfl, .admitted⟩
    | fail => exact .inl ⟨rfl, .trying⟩
  | admitted =>
    cases step
    exact .inl ⟨rfl, .body .asked⟩
  | body sound =>
    cases step
    obtain ⟨r, hr⟩ := whole _ rfl
    obtain rfl := Outcome.value.inj hr
    cases sound
    exact .inl ⟨rfl, .leaving⟩
  | leaving =>
    cases step
    exact .inl ⟨rfl, .afterLeaving .alone rfl _⟩
  | disposing =>
    cases step
    exact .inl ⟨rfl, .afterDisposal _ _ _⟩
  | releasing answered resume =>
    cases step
    exact .inl ⟨rfl, .inRelease answered resume⟩
  | inRelease answered resume =>
    cases step
    exact .inl ⟨rfl, .returning answered resume⟩
  | @returning r p p' answered resume =>
    cases step
    refine .inr ⟨r.reply, p', rfl, answered, ?_⟩
    rw [resume]
    exact .idle

theorem Stands.of_start {t : Thread Work} (here : t = .start p.program) : c.Stands t p :=
  here ▸ .idle

theorem Stands.done {t : Thread Work} (stands : c.Stands t .done) :
    t = .start Plan.done.program := by
  cases stands with
  | idle => rfl
  | releasing answered | inRelease answered | returning answered => cases answered

theorem Stands.of_done (stands : c.Stands (.start Plan.done.program) p) : p = .done := by
  generalize ht : Thread.start Plan.done.program = t at stands
  cases stands with
  | @idle p =>
    cases p with
    | done => rfl
    | _ => exact nomatch congrArg Thread.stage ht
  | _ => cases ht

end Party

def Work.claimed? : Work → Option Side
  | fetching side | fetched side _ _ => some side
  | _ => none

def claimed? (t : Thread Work) : Option Side :=
  match t.stage with
  | .client (.done (.value w)) => w.claimed?
  | _ => none

theorem busy_of_update {side' : Side} (cell : Cell) (hcell : cell ≠ .busy) :
    ∀ side, Function.update cells side' cell side = .busy →
      cells side = .busy ∧ some side' ≠ some side := by
  refine (Function.forall_update_iff cells fun side cell => cell = .busy →
    cells side = .busy ∧ some side' ≠ some side).mpr ⟨fun h => absurd h hcell, ?_⟩
  exact fun side hside h => ⟨h, fun heq => hside (Option.some.inj heq).symm⟩

theorem Work.Step.busy (step : w.Step engine cells w' cells') (hbusy : cells' side = .busy) :
    w'.claimed? = some side ∨ cells side = .busy ∧ w.claimed? ≠ some side := by
  cases step with
  | @claim side' empty =>
    by_cases hside : side = side'
    · exact .inl (congrArg some hside.symm)
    · rw [Function.update_of_ne hside] at hbusy
      exact .inr ⟨hbusy, nofun⟩
  | @fetch side' =>
    by_cases hside : side' = side
    · exact .inl (congrArg some hside)
    · exact .inr ⟨hbusy, fun h => hside (Option.some.inj h)⟩
  | @store side' n => exact .inr (busy_of_update (.filled n) nofun _ hbusy)
  | giveUp => exact .inr (busy_of_update .empty nofun _ hbusy)
  | _ => exact .inr ⟨hbusy, nofun⟩

theorem Party.Stands.claimed_eq_none {now n : ℕ} {word : Word} {e : Event Work}
    (stands : c.Stands t p)
    (step : Thread.Step Resource.preparedStatement.name now word t n e t')
    (whole : Whole e) : claimed? t = none := by
  cases stands with
  | @idle p => cases p <;> rfl
  | body sound =>
    cases step
    obtain ⟨r, hr⟩ := whole _ rfl
    obtain rfl := Outcome.value.inj hr
    rfl
  | _ => rfl

theorem Party.Stands.of_claimed {t : Thread Work} (stands : c.Stands t p)
    (claimed : claimed? t = some side) :
    ∃ f fs w, t = ⟨.client (.done (.value w)), f :: fs⟩ ∧ w.claimed? = some side := by
  cases stands with
  | @idle p => cases p <;> cases claimed
  | body => exact ⟨_, _, _, rfl, claimed⟩
  | _ => cases claimed

theorem Party.Stands.of_body {f : Frame Work} {fs : List (Frame Work)}
    (stands : c.Stands ⟨.client (.done (.value w)), f :: fs⟩ p) :
    ∃ n a next, p = .ask a next ∧ f = frame n a next ∧ fs = [] ∧ c.Sound a w := by
  generalize ht : (⟨.client (.done (.value w)), f :: fs⟩ : Thread Work) = t at stands
  cases stands with
  | idle => exact nomatch congrArg Thread.bodies ht
  | @body n a next _ sound =>
    cases ht
    exact ⟨n, a, next, rfl, rfl, rfl, sound⟩
  | _ => cases ht

variable [Fintype ι] [DecidableEq ι] {h tr : History ι Work} {s s' : Site ι} {x : Entry ι Work}
  {i : ι}

/-- What holds at every site that the threads reach. -/
structure Party.Coherent (c : Party ι) (h : History ι Work) (s : Site ι) : Prop where
  traced : Traced Resource.preparedStatement.name h s.guard
  room : s.guard.calls < Guard.capacity
  engine : s.engine = if h.total Event.releases = 0 then some c.statement else none
  counted : c.Counted s.cells
  claimed : ∀ side, s.cells side = .busy → ∃ i, claimed? (s.guard.threads i) = some side
  whole : ∀ {i : ι} {n : ℕ} {o}, .ended o ∈ h.own i n → ∃ r, o = .value (.answered r)
  stands : ∀ i, ∃ p, c.Follows (c.plans i) (h.replies i) p ∧ c.Stands (s.guard.threads i) p

namespace Party.Coherent

theorem start {g : System ι Work} (adopt : c.shared.adopt = .ok g) :
    c.Coherent [] ⟨g, some c.statement, fun _ => .empty⟩ where
  traced := .adopted adopt
  room := by
    rw [Guard.Shared.adopt_eq_ok adopt]
    exact (Finset.sum_eq_zero fun _ _ => rfl).trans_lt (by decide)
  engine := rfl
  counted := nofun
  claimed := nofun
  whole := nofun
  stands i := by
    rw [Guard.Shared.adopt_eq_ok adopt]
    exact ⟨c.plans i, .nil, .idle⟩

theorem live {f : Frame Work} {fs : List (Frame Work)} {q : Program Work}
    (coherent : c.Coherent h s) (here : s.guard.threads i = ⟨.client q, f :: fs⟩) :
    s.engine = some c.statement := by
  have counted : 0 < (s.guard.threads i).tokens := by
    rw [here]
    exact Nat.succ_pos _
  rw [coherent.engine, if_pos (coherent.traced.releases_eq_zero counted)]

theorem acts (coherent : c.Coherent h s) (step : s.Acts x s')
    (room : s'.guard.calls < Guard.capacity) : c.Coherent (h ++ [x]) s' := by
  obtain ⟨traced, -, engine, counted, claimed, whole, stands⟩ := coherent
  cases step with
  | @mk g step ended =>
    refine ⟨traced.step step room, room, ?_, counted, ?_, ?_, ?_⟩
    · rw [History.total_concat, engine]
      by_cases hx : x.event.releases = 0 <;> simp [hx]
    · -- whoever is fetching a count cannot be the one that acts
      intro side hbusy
      obtain ⟨i, hi⟩ := claimed side hbusy
      cases step with
      | @mk j n e t hstep =>
        have hne : i ≠ j := by
          rintro rfl
          obtain ⟨p, -, hp⟩ := stands i
          rw [hp.claimed_eq_none hstep ended] at hi
          cases hi
        refine ⟨i, ?_⟩
        dsimp only
        rwa [Function.update_of_ne hne]
    · intro i n o ho
      obtain ⟨k, hk⟩ := History.mem_own.mp ho
      rcases Guard.getElem?_concat.mp hk with hk | ⟨-, rfl⟩
      · exact whole (History.mem_own.mpr ⟨k, hk⟩)
      · exact ended o rfl
    · cases step with
      | @mk j n e t hstep =>
        intro i
        obtain ⟨p, follows, hp⟩ := stands i
        rw [History.replies_concat]
        dsimp only
        by_cases hj : j = i
        · subst hj
          rw [Function.update_self, if_pos rfl]
          rcases hp.acts hstep ended with ⟨hreply, hp'⟩ | ⟨r, p', hreply, answered, hp'⟩
          · rw [hreply, Option.toList_none, List.append_nil]
            exact ⟨p, follows, hp'⟩
          · rw [hreply]
            exact ⟨p', follows.concat answered, hp'⟩
        · rw [Function.update_of_ne (Ne.symm hj), if_neg hj, List.append_nil]
          exact ⟨p, follows, hp⟩

theorem works (coherent : c.Coherent h s) (step : s.Works s') : c.Coherent h s' := by
  cases step with
  | @mk i f fs w w' cells here step =>
    have live := coherent.live here
    obtain ⟨traced, room, engine, counted, claimed, whole, stands⟩ := coherent
    obtain ⟨p, follows, hp⟩ := stands i
    have hp' : c.Stands ⟨.client (.done (.value w')), f :: fs⟩ p ∧ c.Counted cells := by
      rw [here] at hp
      obtain ⟨n, a, next, rfl, rfl, rfl, sound⟩ := hp.of_body
      obtain ⟨sound', counted'⟩ := sound.step live counted step
      exact ⟨.body sound', counted'⟩
    refine ⟨traced.amend here, ?_, engine, hp'.2, ?_, whole, ?_⟩
    · refine Eq.trans_lt ?_ room
      exact Guard.sum_amend here Thread.calls rfl
    · intro side hbusy
      dsimp only at hbusy ⊢
      rcases step.busy hbusy with hclaimed | ⟨hbusy, hclaimed⟩
      · refine ⟨i, ?_⟩
        rw [Function.update_self]
        exact hclaimed
      · obtain ⟨j, hj⟩ := claimed side hbusy
        have hne : j ≠ i := by
          rintro rfl
          rw [here] at hj
          exact hclaimed hj
        refine ⟨j, ?_⟩
        rwa [Function.update_of_ne hne]
    · intro j
      dsimp only
      by_cases hj : j = i
      · subst hj
        rw [Function.update_self]
        exact ⟨p, follows, hp'.1⟩
      · rw [Function.update_of_ne hj]
        exact stands j

theorem walk (coherent : c.Coherent h s) (walk : s.Walk tr s') : c.Coherent (h ++ tr) s' := by
  induction walk with
  | refl => rwa [List.append_nil]
  | acts _ step room ih =>
    rw [← List.append_assoc]
    exact ih.acts step room
  | works _ step ih => exact ih.works step

end Party.Coherent

end EngineBridge.Facade
