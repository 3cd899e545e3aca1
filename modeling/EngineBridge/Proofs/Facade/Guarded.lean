import EngineBridge.Proofs.Facade.Stable
import EngineBridge.Proofs.Guard.Alone

/-!
The guard of the facade as a thread of the shared guard. A guarded operation and a disposal do to
the word, to the answer and to the release what the same operation of an uninterrupted thread does.
-/

namespace EngineBridge.Facade

open Guard (Alone Does Frame Program Thread Word)

theorem dispose_effect (ctx : Context) (s : State) :
    (dispose ctx s).1 = !s.word.isDisposed ∧ (dispose ctx s).2.word = s.word.disposed ∧
      (dispose ctx s).2.releases = s.releases +
        if s.word.isDisposed = false ∧ s.word.inFlight = 0 then 1 else 0 := by
  obtain ⟨l, es, p, hdispose⟩ := dispose_frame ctx s
  rw [hdispose]
  refine ⟨rfl, rfl, ?_⟩
  simp only [State.releases, List.count_append]
  split_ifs <;> rfl

theorem leave_effect (ctx : Context) (s : State) :
    (leave ctx s).word = s.word.left ∧
      (leave ctx s).releases = s.releases + if s.word.isLastOut then 1 else 0 := by
  obtain ⟨l, es, p, hleave⟩ := leave_frame ctx s
  rw [hleave]
  refine ⟨rfl, ?_⟩
  simp only [State.releases, List.count_append]
  split_ifs <;> rfl

variable {ι α : Type} [Fintype ι] [DecidableEq ι] {ctx : Context} {i : ι} {fs : List (Frame α)}

/-- From `start` on, a thread on its own does what `op` does and comes to `finish`, which may depend
on the answer. -/
def Performs {β : Type} (ctx : Context) (i : ι) (start : Thread α) (op : State → β × State)
    (finish : β → Thread α) : Prop :=
  ∀ s : State, ∃ k, (op s).2.releases = s.releases + k ∧
    ∀ system : Guard.System ι α, Alone system i start → system.word = s.word →
      Does ctx.resource.name i system (finish (op s).1) (op s).2.word k

theorem performs_dispose (ctx : Context) {next : Bool → Program α}
    (room : fs.length + 1 < Guard.capacity) :
    Performs ctx i ⟨.client (.dispose next), fs⟩ (dispose ctx)
      fun first => ⟨.client (next first), fs⟩ := by
  intro s
  obtain ⟨hfirst, hdisposed, hreleases⟩ := dispose_effect ctx s
  refine ⟨_, hreleases, fun system alone hword => ?_⟩
  rw [hfirst, hdisposed, ← hword]
  exact alone.dispose room

theorem performs_isDisposed (ctx : Context) {next : Bool → Program α}
    (room : fs.length + 1 < Guard.capacity) :
    Performs ctx i ⟨.client (.isDisposed next), fs⟩ (fun s => (s.word.isDisposed, s))
      fun b => ⟨.client (next b), fs⟩ := by
  intro s
  refine ⟨0, rfl, fun system alone hword => ?_⟩
  dsimp only
  rw [← hword]
  exact alone.isDisposed room

theorem performs_inFlight (ctx : Context) {next : UInt64 → Program α}
    (room : fs.length + 1 < Guard.capacity) :
    Performs ctx i ⟨.client (.inFlight next), fs⟩ (fun s => (s.word.inFlight, s))
      fun n => ⟨.client (next n), fs⟩ := by
  intro s
  refine ⟨0, rfl, fun system alone hword => ?_⟩
  dsimp only
  rw [← hword]
  exact alone.inFlight room

theorem performs_guarded {op : State → Outcome α × State} {body : Program α}
    {next : Outcome α → Program α} (room : fs.length + 2 < Guard.capacity)
    (performs : ∀ n, Performs ctx i ⟨.client body, ⟨n, next⟩ :: fs⟩ op
      fun o => ⟨.client (.done o), ⟨n, next⟩ :: fs⟩) :
    Performs ctx i ⟨.client (.call body next), fs⟩ (guarded ctx .error op)
      fun o => ⟨.client (next o), fs⟩ := by
  intro s
  have hroom : fs.length + 1 < Guard.capacity := by omega
  unfold guarded
  rw [Word.enter?_eq]
  cases hdisposed : s.word.isDisposed with
  | true =>
    refine ⟨0, rfl, fun system alone hword => ?_⟩
    rw [← hword] at hdisposed
    have hrefused : Does ctx.resource.name i system _ system.word 0 :=
      alone.refused hroom hdisposed
    rwa [hword] at hrefused
  | false =>
    simp only [Bool.false_eq_true, if_false]
    generalize hbody : ({ s with word := s.word.entered }.mark .opened).emit
      (guardEvent ctx .trace "guarded call" []) = s₁
    have hword₁ : s₁.word = s.word.entered := by rw [← hbody]; rfl
    have hreleases₁ : s₁.releases = s.releases := by rw [← hbody]; rfl
    obtain ⟨hword₂, hreleases₂⟩ := leave_effect ctx (op s₁).2
    obtain ⟨k, hreleases, -⟩ := performs 0 s₁
    refine ⟨k + if (op s₁).2.word.isLastOut then 1 else 0, ?_, fun system alone hword => ?_⟩
    · omega
    · rw [← hword] at hdisposed
      have hopened : Does ctx.resource.name i system _ _ 0 := alone.opened room hdisposed
      have hran := hopened.trans fun system₁ alone₁ hsystem₁ => by
        obtain ⟨k', hk', does⟩ := performs system.time s₁
        obtain rfl : k' = k := by omega
        exact does system₁ alone₁ (by rw [hsystem₁, hword₁, hword])
      have hleft : ∀ system₂,
          Alone system₂ i ⟨.client (.done (op s₁).1), ⟨system.time, next⟩ :: fs⟩ →
          system₂.word = (op s₁).2.word → Does ctx.resource.name i system₂
            ⟨.client (next (op s₁).1), fs⟩ (leave ctx (op s₁).2).word
            (if (op s₁).2.word.isLastOut then 1 else 0) := by
        intro system₂ alone₂ hsystem₂
        rw [hword₂, ← hsystem₂]
        exact alone₂.leave hroom
      have hdone := hran.trans hleft
      rwa [Nat.zero_add] at hdone

end EngineBridge.Facade
