import EngineBridge.Proofs.Facade.Stable
import EngineBridge.Proofs.Guard.History
import Mathlib.Data.List.TakeWhile

/-!
The word of the guard on one thread. However deep operations stand inside one another and however
they end, the word counts the open ones, its flag tells of the first disposal, and the release has
been made exactly when the flag is set and nothing is open.
-/

namespace EngineBridge.Facade

open Abi (Export Side)
open Guard (Word)

def Mark.opens : Mark → ℕ | opened => 1 | _ => 0
def Mark.closes : Mark → ℕ | closed => 1 | _ => 0

def opens (t : List Mark) : ℕ := (t.map Mark.opens).sum

def closes (t : List Mark) : ℕ := (t.map Mark.closes).sum

/-- At every moment fewer operations were open than the word can count; the guard takes this for
granted whenever it lets an operation in. -/
def Shallow (t : List Mark) : Prop :=
  ∀ before, before <+: t → opens before < Guard.capacity + closes before

/-- The answer of a step that ends after the marks `before` tells how many operations are open,
whether a disposal has been made, and that the resource is released if a disposal has been made and
nothing is open; and the steps inside it have been answered. -/
structure AnsweredAfter (before : List Mark) (a : Answer) : Prop where
  inFlight : opens before = a.inFlight + closes before
  disposed : a.disposed = true ↔ .disposal ∈ before
  releases : a.releases = if a.disposed = true ∧ a.inFlight = 0 then 1 else 0
  nested : ∀ p ∈ a.nested, ∀ b ∈ p.2, .answered b ∈ before

@[simp] theorem opens_concat (t : List Mark) (m : Mark) : opens (t ++ [m]) = opens t + m.opens := by
  simp [opens]

@[simp] theorem closes_concat (t : List Mark) (m : Mark) :
    closes (t ++ [m]) = closes t + m.closes := by
  simp [closes]

theorem opens_le_length (t : List Mark) : opens t ≤ t.length := by
  induction t with
  | nil => exact le_rfl
  | cons m t ih =>
    have hm : m.opens ≤ 1 := by cases m <;> simp [Mark.opens]
    simp only [opens, List.map_cons, List.sum_cons, List.length_cons] at ih ⊢
    omega

theorem Shallow.of_length {t : List Mark} (short : t.length < Guard.capacity) : Shallow t := by
  intro before hbefore
  have hopens := opens_le_length before
  have hlength := hbefore.length_le
  omega

theorem Shallow.of_concat {t : List Mark} {m : Mark} (shallow : Shallow (t ++ [m])) : Shallow t :=
  fun before hbefore => shallow before (hbefore.trans (List.prefix_append t [m]))

theorem Shallow.concat {t : List Mark} {m : Mark} (shallow : Shallow t) (hm : m.opens = 0) :
    Shallow (t ++ [m]) := by
  intro before hbefore
  rcases List.prefix_concat_iff.mp hbefore with rfl | hbefore
  · have h := shallow t List.prefix_rfl
    rw [opens_concat, closes_concat]
    omega
  · exact shallow before hbefore

def Truthful (t : List Mark) : Prop :=
  ∀ (k : ℕ) (a : Answer), t[k]? = some (.answered a) → AnsweredAfter (t.take k) a

theorem Truthful.concat {t : List Mark} {m : Mark} (truthful : Truthful t)
    (last : ∀ a, m = .answered a → AnsweredAfter t a) : Truthful (t ++ [m]) := by
  intro k a hk
  rcases Guard.getElem?_concat.mp hk with hk | ⟨rfl, hm⟩
  · rw [List.take_append_of_le_length (List.getElem?_eq_some_iff.mp hk).1.le]
    exact truthful k a hk
  · rw [List.take_left]
    exact last a hm.symm

/-- With `d` operations open, the word, the engine calls and the trail agree. -/
structure Sound (d : ℕ) (s : State) : Prop where
  counted : s.word.count = d
  opened : opens s.trail = d + closes s.trail
  flag : s.word.isDisposed = true ↔ .disposal ∈ s.trail
  released : s.releases = s.word.due
  entered : s.queriesAfterRelease = 0
  truthful : Truthful s.trail

def Sane (d : ℕ) (s : State) : Prop := Shallow s.trail → Sound d s

variable {d : ℕ} {s s' : State}

theorem Sound.of_eq (sound : Sound d s) (word : s'.word = s.word) (calls : s'.calls = s.calls)
    (trail : s'.trail = s.trail) : Sound d s' := by
  obtain ⟨counted, opened, flag, released, entered, truthful⟩ := sound
  refine ⟨by rw [word, counted], by rw [trail, opened], by rw [word, trail, flag], ?_, ?_, ?_⟩
  · rw [State.releases, calls, word]
    exact released
  · rw [State.queriesAfterRelease, calls]
    exact entered
  · rw [trail]
    exact truthful

theorem Sane.of_eq (sane : Sane d s) (word : s'.word = s.word) (calls : s'.calls = s.calls)
    (trail : s'.trail = s.trail) : Sane d s' :=
  fun shallow => (sane (trail ▸ shallow)).of_eq word calls trail

theorem queriesAfterRelease_concat (h : s.releases = 0) (e : Export) :
    State.queriesAfterRelease { s with calls := s.calls ++ [e] } = 0 := by
  have hnone : ∀ x ∈ s.calls, (x != .free) = true := by
    intro x hx
    have hne : x ≠ .free := fun hfree => List.count_eq_zero.mp h (hfree ▸ hx)
    simpa using hne
  unfold State.queriesAfterRelease
  dsimp only
  rw [List.dropWhile_append_of_pos hnone]
  cases e with
  | free => rfl
  | _ => rfl

theorem releases_concat {e : Export} (he : e ≠ .free) (s : State) :
    State.releases { s with calls := s.calls ++ [e] } = s.releases := by
  simp [State.releases, he]

theorem Sound.unreleased (sound : Sound (d + 1) s) : s.releases = 0 := by
  have hcounted := sound.counted
  rw [sound.released, Word.due_of_counted (by omega)]

theorem Sane.opened {w : Word} (entered : s.word.enter? = some w) (sane : Sane d s) :
    Sane (d + 1) ({ s with word := w }.mark .opened) := by
  intro shallow
  have sound := sane shallow.of_concat
  have hroom := shallow _ List.prefix_rfl
  obtain ⟨counted, opened, flag, released, queries, truthful⟩ := sound
  simp only [State.mark, opens_concat, closes_concat, Mark.opens, Mark.closes, Guard.capacity]
    at hroom
  rw [Word.enter?_eq] at entered
  split_ifs at entered with hdisposed
  obtain rfl := Option.some.inj entered
  have live : s.word.isDisposed = false := by simpa using hdisposed
  obtain ⟨hlive, hcount⟩ := Word.entered_of_live live (by omega)
  refine ⟨?_, ?_, ?_, ?_, queries, truthful.concat fun _ h => by cases h⟩
  · show s.word.entered.count = d + 1
    rw [hcount, counted]
  · simp only [State.mark, opens_concat, closes_concat, Mark.opens, Mark.closes]
    omega
  · show s.word.entered.isDisposed = true ↔ _
    simp [State.mark, hlive, ← flag, live]
  · show s.releases = s.word.entered.due
    rw [released, Word.due_of_live live, Word.due_of_live hlive]

theorem Sane.called {e : Export} (he : e ≠ .free) (sane : Sane (d + 1) s) :
    Sane (d + 1) { s with calls := s.calls ++ [e] } := by
  intro shallow
  have sound := sane shallow
  have hnone := sound.unreleased
  obtain ⟨counted, opened, flag, released, queries, truthful⟩ := sound
  refine ⟨counted, opened, flag, ?_, queriesAfterRelease_concat hnone e, truthful⟩
  rw [releases_concat he]
  exact released

theorem Sane.concluded {α : Type} (ctx : Context) (entryPoint : String) (reply : Engine.Reply α)
    (sane : Sane d s) :
    Sane d (check ctx entryPoint (endCall reply s).1 (endCall reply s).2).2 := by
  obtain ⟨l, es, hcheck⟩ := check_frame ctx entryPoint (endCall reply s).1 (endCall reply s).2
  rw [hcheck]
  exact sane.of_eq rfl rfl rfl

theorem Sound.move (sound : Sound d s) {w : Word} {m : Mark} {d' : ℕ} {c : List Export}
    (word : s'.word = w) (trail : s'.trail = s.trail ++ [m]) (calls : s'.calls = s.calls ++ c)
    (counted : w.count = d')
    (opened : opens s.trail + m.opens = d' + (closes s.trail + m.closes))
    (flag : w.isDisposed = true ↔ .disposal ∈ s.trail ++ [m])
    (due : c = [] ∧ w.due = s.releases ∨ c = [.free] ∧ w.due = s.releases + 1)
    (unanswered : ∀ a, m ≠ .answered a) : Sound d' s' := by
  have htruthful := sound.truthful.concat fun a ha => absurd ha (unanswered a)
  have hentered := sound.entered
  refine ⟨word ▸ counted, ?_, word ▸ trail ▸ flag, ?_, ?_, trail ▸ htruthful⟩
  · rw [trail, opens_concat, closes_concat]
    exact opened
  · rcases due with ⟨rfl, hdue⟩ | ⟨rfl, hdue⟩
    · rw [word, hdue, State.releases, calls, List.append_nil, State.releases]
    · rw [word, hdue, State.releases, calls, List.count_append]
      rfl
  · rcases due with ⟨rfl, hdue⟩ | ⟨rfl, hdue⟩
    · rw [State.queriesAfterRelease, calls, List.append_nil]
      exact hentered
    · have hle := w.due_le_one
      have hnone : s.releases = 0 := by omega
      rw [State.queriesAfterRelease, calls]
      exact queriesAfterRelease_concat hnone .free

theorem Sane.left (ctx : Context) (sane : Sane (d + 1) s) : Sane d (leave ctx s) := by
  obtain ⟨l, es, p, hleave⟩ := leave_frame ctx s
  rw [hleave]
  intro shallow
  have sound := sane shallow.of_concat
  have hnone := sound.unreleased
  have hcounted := sound.counted
  have hopened := sound.opened
  obtain ⟨hdisposed, hcount⟩ := Word.left_of_counted (w := s.word) (by omega)
  have hdue := Word.due_left (w := s.word) (by omega)
  refine sound.move (w := s.word.left) rfl rfl rfl (by omega) ?_ ?_ ?_ nofun
  · simp only [Mark.opens, Mark.closes]
    omega
  · simp [hdisposed, sound.flag]
  · split_ifs at hdue ⊢
    · exact .inr ⟨rfl, by omega⟩
    · exact .inl ⟨rfl, by omega⟩

theorem Sane.disposed (ctx : Context) (sane : Sane d s) : Sane d (dispose ctx s).2 := by
  obtain ⟨l, es, p, hdispose⟩ := dispose_frame ctx s
  rw [hdispose]
  intro shallow
  have sound := sane shallow.of_concat
  have hopened := sound.opened
  have hreleased := sound.released
  have hcounted := s.word.count_disposed.trans sound.counted
  have hdue : s.word.disposed.due =
      s.word.due + if s.word.isDisposed = false ∧ s.word.inFlight = 0 then 1 else 0 := by
    simp only [Word.due_disposed, Word.inFlight_eq_zero_iff]
  refine sound.move (w := s.word.disposed) rfl rfl rfl hcounted ?_ ?_ ?_ nofun
  · simp only [Mark.opens, Mark.closes]
    omega
  · simp
  · split_ifs at hdue ⊢
    · exact .inr ⟨rfl, by omega⟩
    · exact .inl ⟨rfl, by omega⟩

theorem Sane.answered (result : Result) (sane : Sane d s) (recorded : s.Recorded) :
    Sane d (s.mark (.answered (s.answer result))) := by
  intro shallow
  obtain ⟨counted, opened, flag, released, entered, truthful⟩ := sane shallow.of_concat
  refine ⟨counted, ?_, ?_, released, entered, truthful.concat fun a ha => ?_⟩
  · simp only [State.mark, opens_concat, closes_concat, Mark.opens, Mark.closes]
    omega
  · simp [State.mark, flag]
  · obtain rfl := Mark.answered.inj ha
    refine ⟨?_, flag, ?_, recorded⟩
    · show opens s.trail = s.word.count + closes s.trail
      rw [opened, counted]
    · show s.releases = if s.word.isDisposed = true ∧ s.word.count = 0 then 1 else 0
      rw [released, Word.due]

theorem stable_sane (ctx : Context) : Stable ctx Sane where
  logged _ sane := sane.of_eq rfl rfl rfl
  nested _ sane := sane.of_eq rfl rfl rfl
  sink _ sane := sane.of_eq rfl rfl rfl
  stored {d s} side n sane := by
    obtain ⟨v, r, h⟩ := store_frame s side n
    rw [h]
    exact sane.of_eq rfl rfl rfl
  opened := .opened
  called := .called
  concluded entryPoint reply := .concluded ctx entryPoint reply
  left := .left ctx
  disposed := .disposed ctx
  answered := .answered

theorem dispose_trail (ctx : Context) (s : State) :
    (dispose ctx s).2.trail = s.trail ++ [.disposal] := by
  obtain ⟨l, es, p, hdispose⟩ := dispose_frame ctx s
  rw [hdispose]

theorem Sane.fresh {ctx : Context} {events : List Log.Event}
    (adopted : adopt ctx (State.fresh.emitAll events) = (.ok (), s)) :
    Sane 0 s ∧ s.Recorded := by
  obtain ⟨es, rfl⟩ := adopt_frame adopted
  have hdue : Word.fresh.due = 0 := Word.due_of_live Word.isDisposed_fresh
  refine ⟨fun _ => ⟨Word.count_fresh, rfl, ?_, hdue.symm, rfl, nofun⟩, nofun⟩
  exact iff_of_false (Bool.eq_false_iff.mp Word.isDisposed_fresh) List.not_mem_nil

variable {session : Session}

def Session.Ended (session : Session) : Prop :=
  session.held = false → .disposal ∈ session.state.trail

theorem Session.Ended.drop (ended : session.Ended) (ctx : Context) (sink : Option Payload) :
    .disposal ∈ (session.drop ctx sink).state.trail := by
  unfold Session.drop
  split_ifs with hheld
  · show .disposal ∈ (dispose ctx { session.state with sink := sink }).2.trail
    simp [dispose_trail]
  · exact ended (by simpa using hheld)

theorem Session.Ended.run (ended : session.Ended) (ctx : Context) (depth : ℕ) (command : Command) :
    (session.run ctx depth command).2.Ended := by
  cases command with
  | step step =>
    unfold Session.run
    dsimp only
    split_ifs with hheld
    · exact fun h => absurd h (by simp [hheld])
    · exact ended
  | drop sink => exact fun _ => ended.drop ctx sink

theorem Session.Ended.runAll (ended : session.Ended) (ctx : Context) (depth : ℕ)
    (commands : List Command) :
    (session.runAll ctx depth commands).2.Ended := by
  induction commands generalizing session with
  | nil => exact ended
  | cons command rest ih => exact ih (ended.run ctx depth command)

theorem Shallow.drop (shallow : Shallow session.state.trail) (ctx : Context)
    (sink : Option Payload) : Shallow (session.drop ctx sink).state.trail := by
  unfold Session.drop
  split_ifs
  · show Shallow (dispose ctx { session.state with sink := sink }).2.trail
    rw [dispose_trail]
    exact shallow.concat rfl
  · exact shallow

theorem Sane.sound_drop (ctx : Context) (sane : Sane 0 session.state)
    (recorded : session.state.Recorded) (ended : session.Ended)
    (shallow : Shallow session.state.trail) (sink : Option Payload) :
    Sound 0 (session.drop ctx sink).state ∧
      (session.drop ctx sink).state.word.isDisposed = true := by
  have sound := ((stable_sane ctx).drop sink session sane recorded).holds (shallow.drop ctx sink)
  exact ⟨sound, sound.flag.mpr (ended.drop ctx sink)⟩

theorem Sane.drop (ctx : Context) (sane : Sane 0 session.state) (recorded : session.state.Recorded)
    (ended : session.Ended) (shallow : Shallow session.state.trail) (sink : Option Payload) :
    (session.drop ctx sink).state.releases = 1 ∧
      (session.drop ctx sink).state.queriesAfterRelease = 0 := by
  obtain ⟨sound, hflag⟩ := sane.sound_drop ctx recorded ended shallow sink
  refine ⟨?_, sound.entered⟩
  rw [sound.released, Word.due, if_pos ⟨hflag, sound.counted⟩]

end EngineBridge.Facade
