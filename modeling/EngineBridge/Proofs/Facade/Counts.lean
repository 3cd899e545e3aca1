import EngineBridge.Proofs.Facade.Inquiries

/-!
The cached counts over a whole run. A count is fetched by every inquiry that is let in until a fetch
succeeds, and from then on the cell answers; the two counts know nothing of each other. What an
inquiry meets and gets therefore depends only on how many inquiries of its own side were let in
before it.
-/

namespace EngineBridge.Facade

open Abi (Export Side)
open Engine (Reply)

variable {ctx : Context} {side side' : Side} {n k : ℕ} {s s' : State} {x y : Inquiry}
  {xs ys : List Inquiry}

def fetchResult (ctx : Context) (side : Side) (k : ℕ) : Except Error Unit :=
  reported (Export.count side).symbol (ctx.table.count side k).result

def written (ctx : Context) (side : Side) (k : ℕ) : UInt64 :=
  (ctx.table.count side k).written.getD 0

def success? (ctx : Context) (side : Side) (n : ℕ) : Option ℕ :=
  (List.range n).find? fun k => (fetchResult ctx side k).isOk

theorem success?_succ (ctx : Context) (side : Side) (n : ℕ) :
    success? ctx side (n + 1) =
      (success? ctx side n).or (if (fetchResult ctx side n).isOk then some n else none) := by
  rw [success?, List.range_succ, List.find?_append, success?]
  congr 1
  cases h : (fetchResult ctx side n).isOk <;> simp [h]

theorem success?_mono (hle : n ≤ k) {i : ℕ} (h : success? ctx side n = some i) :
    success? ctx side k = some i := by
  induction hle with
  | refl => exact h
  | step _ ih => rw [success?_succ, ih, Option.some_or]

/-- Cell and calls after `n` inquiries of a side were let in. -/
structure Fits (ctx : Context) (side : Side) (n : ℕ) (s : State) : Prop where
  cached : s.cached side = (success? ctx side n).map (written ctx side)
  calls : s.calls.count (.count side) = ((success? ctx side n).map (· + 1)).getD n

theorem Fits.congr (fits : Fits ctx side n s) (cached : s'.cached side = s.cached side)
    (calls : s'.calls.count (.count side) = s.calls.count (.count side)) : Fits ctx side n s' :=
  ⟨cached.trans fits.cached, calls.trans fits.calls⟩

theorem Fits.of_unknown (fits : Fits ctx side n s) (unknown : s.cached side = none) :
    success? ctx side n = none ∧ s.calls.count (.count side) = n := by
  have hnone : success? ctx side n = none := by
    have h := fits.cached
    rw [unknown] at h
    exact Option.map_eq_none_iff.mp h.symm
  refine ⟨hnone, ?_⟩
  rw [fits.calls, hnone]
  rfl

theorem Fits.of_known {m : UInt64} (fits : Fits ctx side n s) (known : s.cached side = some m) :
    ∃ k, success? ctx side n = some k ∧ written ctx side k = m := by
  have h := fits.cached
  rw [known] at h
  exact Option.map_eq_some_iff.mp h.symm

theorem Fits.succ (fits : Fits ctx side n s) (h : success? ctx side n = some k) :
    Fits ctx side (n + 1) s := by
  have hsucc := success?_mono n.le_succ h
  refine ⟨?_, ?_⟩
  · rw [fits.cached, h, hsucc]
  · rw [fits.calls, h, hsucc]
    rfl

def Inquiry.refused (x : Inquiry) : Bool := x.before.word.isDisposed

def letIn (side : Side) (xs : List Inquiry) : ℕ :=
  xs.countP fun x => x.side = side && !x.refused

/-- The answer to an inquiry before which `n` of its side were let in. -/
structure Inquiry.Answered (ctx : Context) (n : ℕ) (x : Inquiry) : Prop where
  refused : x.refused →
    x.outcome = .error (.resourceDisposed ctx.resource.name) ∧ x.after = x.before
  met : x.refused = false → Fits ctx x.side n x.before
  known : ∀ k, x.refused = false → success? ctx x.side n = some k →
    x.outcome = .value (written ctx x.side k).toNat
  failed : ∀ e, x.refused = false → success? ctx x.side n = none →
    fetchResult ctx x.side n = .error e → x.outcome = .error e
  succeeded : x.refused = false → success? ctx x.side n = none →
    fetchResult ctx x.side n = .ok () → x.outcome = .value (written ctx x.side n).toNat
  left : x.refused = false → Fits ctx x.side (n + 1) x.after

def AllAnswered (ctx : Context) (side : Side) : ℕ → List Inquiry → Prop
  | _, [] => True
  | n, x :: xs => (x.side = side → x.Answered ctx n) ∧ AllAnswered ctx side (n + letIn side [x]) xs

@[simp] theorem letIn_nil : letIn side [] = 0 := rfl

@[simp] theorem letIn_append : letIn side (xs ++ ys) = letIn side xs + letIn side ys :=
  List.countP_append

theorem letIn_cons : letIn side (x :: xs) = letIn side [x] + letIn side xs := by
  rw [← letIn_append, List.singleton_append]

theorem letIn_singleton_of_live (h : x.refused = false) : letIn x.side [x] = 1 := by
  simp [letIn, h]

theorem letIn_singleton_of_ne (h : x.side ≠ side) : letIn side [x] = 0 := by
  simp [letIn, h]

theorem letIn_eq_zero_iff : letIn side xs = 0 ↔ ∀ x ∈ xs, x.side = side → x.refused := by
  simp [letIn, List.countP_eq_zero]

theorem AllAnswered.append (h : AllAnswered ctx side n xs)
    (h' : AllAnswered ctx side (n + letIn side xs) ys) : AllAnswered ctx side n (xs ++ ys) := by
  induction xs generalizing n with
  | nil => simpa using h'
  | cons x xs ih =>
    refine ⟨h.1, ih h.2 ?_⟩
    rw [letIn_cons] at h'
    simpa [Nat.add_assoc] using h'

theorem AllAnswered.answered {earlier later : List Inquiry}
    (h : AllAnswered ctx x.side n (earlier ++ x :: later)) :
    x.Answered ctx (n + letIn x.side earlier) := by
  induction earlier generalizing n with
  | nil => exact h.1 rfl
  | cons y earlier ih =>
    have hrest := ih h.2
    rw [letIn_cons, ← Nat.add_assoc]
    exact hrest

theorem Inquiry.Answered.of_refused (refused : x.refused)
    (h : x.outcome = .error (.resourceDisposed ctx.resource.name) ∧ x.after = x.before) :
    x.Answered ctx n where
  refused _ := h
  met live := by simp [refused] at live
  known _ live := by simp [refused] at live
  failed _ live := by simp [refused] at live
  succeeded live := by simp [refused] at live
  left live := by simp [refused] at live

/-- No inquiry is let in while one of its own side is open. -/
def Separate (xs : List Inquiry) : Prop :=
  ∀ x ∈ xs, ∀ y ∈ x.inside, y.side = x.side → y.refused

theorem Separate.of_append (separate : Separate (xs ++ ys)) : Separate xs ∧ Separate ys :=
  ⟨fun x hx => separate x (List.mem_append_left ys hx),
    fun x hx => separate x (List.mem_append_right xs hx)⟩

theorem Ends.counts {reply : Reply UInt64} {outcome : Outcome ℕ}
    (ends : Ends side reply s outcome s') (side' : Side) :
    s'.calls.count (.count side') = s.calls.count (.count side') := by
  cases ends with
  | failed _ alike => exact alike.counts side'
  | stored _ alike =>
    rw [alike.counts]
    cases side <;> rfl

theorem Ends.cached_of_ne {reply : Reply UInt64} {outcome : Outcome ℕ}
    (ends : Ends side reply s outcome s') (h : side' ≠ side) :
    s'.cached side' = s.cached side' := by
  cases ends with
  | failed _ alike => rw [alike.cached]
  | stored _ alike => rw [alike.cached, store_cached, if_neg h]

theorem Ends.grown {reply : Reply UInt64} {outcome : Outcome ℕ}
    (ends : Ends side reply s outcome s') : s.trail <+: s'.trail := by
  cases ends with
  | failed _ alike => exact alike.grown
  | stored _ alike => exact store_trail s side _ ▸ alike.grown

namespace Chronicle

theorem refused_of_mem (chronicle : Chronicle ctx s xs s') (hx : x ∈ xs) (refused : x.refused) :
    x.outcome = .error (.resourceDisposed ctx.resource.name) ∧ x.after = x.before := by
  induction chronicle with
  | quiet _ => cases hx
  | append _ _ ih ih' => exact (List.mem_append.mp hx).elim ih ih'
  | refused sane disposed =>
    obtain rfl := List.mem_singleton.mp hx
    exact ⟨rfl, rfl⟩
  | known sane live cached alike =>
    obtain rfl := List.mem_singleton.mp hx
    simp [Inquiry.refused, live] at refused
  | fetched sane live unknown called inner ends ih =>
    rcases List.mem_append.mp hx with hx | hx
    · exact ih hx
    · obtain rfl := List.mem_singleton.mp hx
      simp [Inquiry.refused, live] at refused

theorem frame (chronicle : Chronicle ctx s xs s') (none : letIn side xs = 0) :
    s'.cached side = s.cached side ∧
      s'.calls.count (.count side) = s.calls.count (.count side) := by
  induction chronicle with
  | quiet alike => exact ⟨congrFun alike.cached side, alike.counts side⟩
  | append _ _ ih ih' =>
    rw [letIn_append, Nat.add_eq_zero_iff] at none
    obtain ⟨cached, calls⟩ := ih none.1
    obtain ⟨cached', calls'⟩ := ih' none.2
    exact ⟨cached'.trans cached, calls'.trans calls⟩
  | refused sane disposed => exact ⟨rfl, rfl⟩
  | known sane live cached alike => exact ⟨congrFun alike.cached side, alike.counts side⟩
  | @fetched asked d s s₁ s₂ s' within outcome sane live unknown called inner ends ih =>
    rw [letIn_append, Nat.add_eq_zero_iff] at none
    have hne : side ≠ asked := by
      rintro rfl
      have h := letIn_eq_zero_iff.mp none.2 _ (List.mem_singleton_self _) rfl
      simp [Inquiry.refused, live] at h
    obtain ⟨cached, calls⟩ := ih none.1
    refine ⟨?_, ?_⟩
    · rw [ends.cached_of_ne hne, cached, called.cached]
      cases side <;> rfl
    · rw [ends.counts, calls, called.counts, List.count_append]
      simp [Ne.symm hne]

theorem fetch {s₁ s₂ : State} {outcome : Outcome ℕ} {within : List Inquiry}
    (fits : Fits ctx side n s) (unknown : s.cached side = none)
    (called : Alike { s with calls := s.calls ++ [.count side] } s₁)
    (inner : Chronicle ctx s₁ within s₂) (alone : letIn side within = 0)
    (ends : Ends side (ctx.table.count side n) s₂ outcome s') :
    Fits ctx side (n + 1) s' ∧ (∀ e, fetchResult ctx side n = .error e → outcome = .error e) ∧
      (fetchResult ctx side n = .ok () → outcome = .value (written ctx side n).toNat) := by
  obtain ⟨hnone, hcalls⟩ := fits.of_unknown unknown
  obtain ⟨cached, calls⟩ := inner.frame alone
  have hcached₂ : s₂.cached side = none := by
    rw [cached, called.cached, ← unknown]
    cases side <;> rfl
  have hcalls' : s'.calls.count (.count side) = n + 1 := by
    rw [ends.counts, calls, called.counts, List.count_append, hcalls]
    simp
  have hsucc := success?_succ ctx side n
  rw [hnone, Option.none_or] at hsucc
  cases ends with
  | @failed e s' failed alike =>
    have hfetched : fetchResult ctx side n = .error e := failed
    rw [hfetched] at hsucc ⊢
    refine ⟨⟨?_, ?_⟩, ?_, nofun⟩
    · rw [alike.cached, hcached₂, hsucc]
      rfl
    · rw [hcalls', hsucc]
      rfl
    · rintro e' ⟨⟩
      rfl
  | @stored s' stored alike =>
    have hfetched : fetchResult ctx side n = .ok () := stored
    have hstored := cached_store (n := (ctx.table.count side n).written.getD 0) hcached₂
    rw [hfetched] at hsucc ⊢
    refine ⟨⟨?_, ?_⟩, nofun, fun _ => ?_⟩
    · rw [alike.cached, hstored, hsucc]
      rfl
    · rw [hcalls', hsucc]
      rfl
    · rw [hstored]
      rfl

theorem allAnswered_of_refused (chronicle : Chronicle ctx s xs s')
    (refused : ∀ x ∈ xs, x.side = side → x.refused) : AllAnswered ctx side n xs := by
  have hanswered : ∀ x ∈ xs, ∀ n, x.side = side → x.Answered ctx n := fun x hx n hside =>
    .of_refused (refused x hx hside) (chronicle.refused_of_mem hx (refused x hx hside))
  clear chronicle refused
  induction xs generalizing n with
  | nil => trivial
  | cons x xs ih =>
    exact ⟨hanswered x List.mem_cons_self n, ih fun y hy => hanswered y (List.mem_cons_of_mem x hy)⟩

theorem answered (chronicle : Chronicle ctx s xs s') (separate : Separate xs)
    (fits : Fits ctx side n s) :
    Fits ctx side (n + letIn side xs) s' ∧ AllAnswered ctx side n xs := by
  induction chronicle generalizing n with
  | quiet alike => exact ⟨fits.congr (congrFun alike.cached side) (alike.counts side), trivial⟩
  | append _ _ ih ih' =>
    obtain ⟨separate, separate'⟩ := separate.of_append
    obtain ⟨fits', hall⟩ := ih separate fits
    obtain ⟨fits'', hall'⟩ := ih' separate' fits'
    rw [letIn_append, ← Nat.add_assoc]
    exact ⟨fits'', hall.append hall'⟩
  | @refused asked d s sane disposed =>
    have hrefused : Inquiry.refused
        ⟨asked, s, [], .error (.resourceDisposed ctx.resource.name), s⟩ := disposed
    have hnone : letIn side
        [⟨asked, s, [], .error (.resourceDisposed ctx.resource.name), s⟩] = 0 := by
      rw [letIn_eq_zero_iff]
      intro x hx _
      rw [List.mem_singleton.mp hx]
      exact hrefused
    rw [hnone]
    refine ⟨fits, fun _ => ?_, trivial⟩
    exact .of_refused hrefused ⟨rfl, rfl⟩
  | @known asked d m s s' sane live cached alike =>
    have fits' := fits.congr (congrFun alike.cached side) (alike.counts side)
    by_cases hside : asked = side
    · subst hside
      obtain ⟨k, hk, rfl⟩ := fits.of_known cached
      rw [letIn_singleton_of_live (x := ⟨asked, _, _, _, _⟩) live]
      refine ⟨fits'.succ hk, fun _ => ?_, trivial⟩
      refine ⟨fun h => ?_, fun _ => fits, fun i _ hi => ?_, fun e _ h => ?_, fun _ h => ?_,
        fun _ => fits'.succ hk⟩
      · exact absurd h (by simp [Inquiry.refused, live])
      · rw [Option.some.inj (hi.symm.trans hk)]
      · exact absurd (h.symm.trans hk) nofun
      · exact absurd (h.symm.trans hk) nofun
    · rw [letIn_singleton_of_ne hside]
      exact ⟨fits', fun h => absurd h hside, trivial⟩
  | @fetched asked d s s₁ s₂ s' within outcome sane live unknown called inner ends ih =>
    obtain ⟨hwithin, hasked⟩ := separate.of_append
    by_cases hside : asked = side
    · subst hside
      have hinside := hasked _ (List.mem_singleton_self _)
      have alone : letIn asked within = 0 := letIn_eq_zero_iff.mpr hinside
      obtain ⟨hnone, hcalls⟩ := fits.of_unknown unknown
      rw [hcalls] at ends
      obtain ⟨fits', failed, succeeded⟩ := fetch fits unknown called inner alone ends
      have hlet := letIn_singleton_of_live (x := ⟨asked, s, within, outcome, s'⟩) live
      rw [letIn_append, alone, Nat.zero_add, hlet]
      refine ⟨fits', AllAnswered.append ?_ ⟨fun _ => ?_, trivial⟩⟩
      · exact inner.allAnswered_of_refused hinside
      · rw [alone, Nat.add_zero]
        refine ⟨fun h => ?_, fun _ => fits, fun i _ hi => ?_, fun e _ _ => failed e,
          fun _ _ => succeeded, fun _ => fits'⟩
        · exact absurd h (by simp [Inquiry.refused, live])
        · exact absurd (hi.symm.trans hnone) nofun
    · have fits₁ : Fits ctx side n s₁ := by
        refine fits.congr ?_ ?_
        · rw [called.cached]
          cases side <;> rfl
        · rw [called.counts, List.count_append]
          simp [hside]
      obtain ⟨fits₂, hall⟩ := ih hwithin fits₁
      rw [letIn_append, letIn_singleton_of_ne hside, Nat.add_zero]
      refine ⟨fits₂.congr (ends.cached_of_ne (Ne.symm hside)) (ends.counts side), hall.append ?_⟩
      exact ⟨fun h => absurd h hside, trivial⟩

theorem grown (chronicle : Chronicle ctx s xs s') : s.trail <+: s'.trail := by
  induction chronicle with
  | quiet alike => exact alike.grown
  | append _ _ ih ih' => exact ih.trans ih'
  | refused _ _ => exact List.prefix_rfl
  | known _ _ _ alike => exact alike.grown
  | fetched _ _ _ called _ ends ih => exact (called.grown.trans ih).trans ends.grown

theorem sane_of_mem (chronicle : Chronicle ctx s xs s') (hx : x ∈ xs) :
    ∃ d, Sane d x.before ∧ x.before.trail <+: s'.trail := by
  induction chronicle with
  | quiet _ => cases hx
  | append _ h' ih ih' =>
    rcases List.mem_append.mp hx with hx | hx
    · obtain ⟨d, sane, grown⟩ := ih hx
      exact ⟨d, sane, grown.trans h'.grown⟩
    · exact ih' hx
  | refused sane _ =>
    obtain rfl := List.mem_singleton.mp hx
    exact ⟨_, sane, List.prefix_rfl⟩
  | known sane _ _ alike =>
    obtain rfl := List.mem_singleton.mp hx
    exact ⟨_, sane, alike.grown⟩
  | fetched sane _ _ called inner ends ih =>
    rcases List.mem_append.mp hx with hx | hx
    · obtain ⟨d, sane, grown⟩ := ih hx
      exact ⟨d, sane, grown.trans ends.grown⟩
    · obtain rfl := List.mem_singleton.mp hx
      exact ⟨_, sane, (called.grown.trans inner.grown).trans ends.grown⟩

theorem refused_iff (chronicle : Chronicle ctx s xs s') (shallow : Shallow s'.trail) (hx : x ∈ xs) :
    x.refused ↔ .disposal ∈ x.before.trail := by
  obtain ⟨d, sane, grown⟩ := chronicle.sane_of_mem hx
  exact (sane (shallow.of_prefix grown)).flag

end Chronicle

theorem Fits.fresh {events : List Log.Event}
    (adopted : adopt ctx (State.fresh.emitAll events) = (.ok (), s)) : Fits ctx side 0 s := by
  obtain ⟨es, rfl⟩ := adopt_frame adopted
  cases side
  exacts [⟨rfl, rfl⟩, ⟨rfl, rfl⟩]

theorem Inquiry.Answered.success {c : ℕ} (answered : x.Answered ctx n) (h : x.outcome = .value c) :
    x.refused = false ∧
      ∃ k, success? ctx x.side (n + 1) = some k ∧ c = (written ctx x.side k).toNat := by
  have live : x.refused = false := by
    by_contra hrefused
    rw [Bool.not_eq_false] at hrefused
    rw [(answered.refused hrefused).1] at h
    cases h
  refine ⟨live, ?_⟩
  cases hsuccess : success? ctx x.side n with
  | some k =>
    rw [answered.known k live hsuccess] at h
    cases h
    exact ⟨k, success?_mono n.le_succ hsuccess, rfl⟩
  | none =>
    cases hresult : fetchResult ctx x.side n with
    | error e =>
      rw [answered.failed e live hsuccess hresult] at h
      cases h
    | ok =>
      rw [answered.succeeded live hsuccess hresult] at h
      cases h
      refine ⟨n, ?_, rfl⟩
      rw [success?_succ, hsuccess, hresult]
      rfl

/-- The answer to every count query of a session depends only on the engine's replies to the fetches
of its own side, on how many queries of that side were let in before it and on whether there was a
disposal. Until the first fetch that succeeds each of them makes one engine call, and after it none
does; what that fetch wrote is what they all get. The owner of the statement is answered with the
outcome of his inquiry. -/
theorem counts_coherent {events : List Log.Event} {depth : ℕ} {commands : List Command}
    {answers : List CommandAnswer} {session : Session} {asks : List Inquiry}
    (adopted : adopt ctx (State.fresh.emitAll events) = (.ok (), s))
    (run : Session.runAll ctx depth commands ⟨s, true⟩ = (answers, session))
    (asked : Session.asks ctx depth commands ⟨s, true⟩ = asks)
    (shallow : Shallow session.state.trail) (separate : Separate asks) :
    (∀ earlier x later, asks = earlier ++ x :: later →
        (x.refused ↔ .disposal ∈ x.before.trail) ∧ x.Answered ctx (letIn x.side earlier)) ∧
      (∀ earlier x between y later c, asks = earlier ++ x :: (between ++ y :: later) →
        y.side = x.side → x.outcome = .value c →
        y.outcome = if y.refused then .error (.resourceDisposed ctx.resource.name) else .value c) ∧
      (∀ side, Fits ctx side (letIn side asks) session.state) ∧
      ∀ (k : ℕ) side a, commands[k]? = some (.step (.query (.count side))) →
        answers[k]? = some (.step a) →
        ∃ x ∈ asks, x.side = side ∧ a = x.after.answer (.plain (x.outcome.map .count)) := by
  obtain ⟨sane, recorded⟩ := Sane.fresh adopted
  have chronicle := Session.chronicle ctx depth commands ⟨s, true⟩ sane recorded
  have told (k : ℕ) (side : Side) (a : Answer) :=
    @Session.count_answered ctx depth k side a commands ⟨s, true⟩
  rw [run, asked] at chronicle
  simp only [run, asked] at told
  have hanswered : ∀ earlier x later, asks = earlier ++ x :: later →
      x.Answered ctx (letIn x.side earlier) := by
    rintro earlier x later rfl
    have h := (chronicle.answered separate (.fresh adopted)).2.answered
    rwa [Nat.zero_add] at h
  refine ⟨fun earlier x later h => ⟨?_, hanswered earlier x later h⟩, ?_, fun side => ?_, told⟩
  · exact chronicle.refused_iff shallow (h ▸ List.mem_append_right _ List.mem_cons_self)
  · intro earlier x between y later c h hside hvalue
    obtain ⟨live, k, hk, rfl⟩ := (hanswered earlier x _ h).success hvalue
    have hy := hanswered (earlier ++ x :: between) y later (by simpa using h)
    split_ifs with hrefused
    · exact (hy.refused hrefused).1
    · rw [letIn_append, letIn_cons, hside, letIn_singleton_of_live live, ← Nat.add_assoc] at hy
      have hsuccess := success?_mono (Nat.le_add_right _ (letIn x.side between)) hk
      rw [← hside] at hsuccess
      rw [hy.known k (by simpa using hrefused) (hside ▸ hsuccess), hside]
  · have hfits : Fits ctx side (0 + letIn side asks) session.state :=
      (chronicle.answered separate (.fresh adopted)).1
    rwa [Nat.zero_add] at hfits

/-- An engine whose first fetch of a count fails after it has written, and whose second one makes
its caller ask for the other count and dispose. -/
def forgetfulEngine : Context where
  table := { Engine.Script.silent.table with
    variablesCount := fun n =>
      if n = 0 then ⟨[], [], some 9, .failure .internal "not yet"⟩
      else if n = 1 then ⟨[.query (.count .results), .isDisposed], [], some 3, .success⟩
      else ⟨[], [], some 7, .success⟩
    resultCount := fun _ => ⟨[.dispose], [], none, .success⟩ }
  origin := .custom
  resource := .preparedStatement
  handle := ⟨1⟩

def forgetfulCommands : List Command :=
  [.step (.query (.count .variables)), .step (.call [.query (.count .variables),
    .query (.count .variables)] none (.ok ""))]

def forgetfulSession : Session :=
  ⟨(adopt forgetfulEngine (State.fresh.emitAll [])).2, true⟩

def forgetfulAsks : List Inquiry := forgetfulSession.asks forgetfulEngine 2 forgetfulCommands

theorem counts_coherent_retried :
    ∃ x, forgetfulAsks[2]? = some x ∧ x.outcome = .value 3 ∧
      x.Answered forgetfulEngine (letIn .variables (forgetfulAsks.take 2)) ∧
      Fits forgetfulEngine .variables (letIn .variables forgetfulAsks)
        (Session.runAll forgetfulEngine 2 forgetfulCommands forgetfulSession).2.state := by
  have shallow : Shallow
      (Session.runAll forgetfulEngine 2 forgetfulCommands forgetfulSession).2.state.trail :=
    .of_length (by decide +kernel)
  have separate : Separate forgetfulAsks := by
    unfold Separate
    decide +kernel
  have asked : forgetfulSession.asks forgetfulEngine 2 forgetfulCommands = forgetfulAsks := rfl
  obtain ⟨hanswered, -, hfits, -⟩ := counts_coherent rfl rfl asked shallow separate
  have hview : forgetfulAsks[2]?.map (fun x => (x.side, x.outcome)) =
      some (.variables, .value 3) := by decide +kernel
  obtain ⟨x, hx, hview⟩ := Option.map_eq_some_iff.mp hview
  obtain ⟨hside, houtcome⟩ := Prod.mk.inj hview
  obtain ⟨hlength, rfl⟩ := List.getElem?_eq_some_iff.mp hx
  have hsplit : forgetfulAsks =
      forgetfulAsks.take 2 ++ forgetfulAsks[2] :: forgetfulAsks.drop 3 := by
    rw [← List.drop_eq_getElem_cons hlength, List.take_append_drop]
  have hanswered := (hanswered _ _ _ hsplit).2
  rw [hside] at hanswered
  exact ⟨_, hx, houtcome, hanswered, hfits .variables⟩

end EngineBridge.Facade
