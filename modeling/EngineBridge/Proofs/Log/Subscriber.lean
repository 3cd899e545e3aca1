import EngineBridge.Log.Subscriber

/-!
Installing the subscriber over and over. What the first call does is all that is ever done.
-/

namespace EngineBridge.Log.Logging

open Config (Settings)

variable {φ : Type} {filters : Filters φ} {l : Logging φ}

theorem called_install (filters : Filters φ) (c : Settings) (l : Logging φ) :
    (l.install filters c).called = true := by
  rw [install]
  split
  next h => exact h
  next => cases filters.strict c.logFilter <;> rfl

theorem install_of_called (h : l.called = true) (c : Settings) : l.install filters c = l :=
  if_pos h

theorem installAll_of_called (h : l.called = true) (calls : List Settings) :
    l.installAll filters calls = l := by
  induction calls with
  | nil => rfl
  | cons c calls ih =>
    rw [installAll, List.foldl_cons, install_of_called h]
    exact ih

/-- The host's subscriber stays. Without one the first call installs its own, by the filter that it
was given or, if that cannot be read, by the default one, and says so in one line; all other calls
do nothing. -/
theorem installAll_first (fresh : l.called = false) (c : Settings) (later : List Settings) :
    let l' := l.installAll filters (c :: later)
    (∀ f, l.filter = some f → l'.filter = some f) ∧
      (∀ f, filters.strict c.logFilter = .ok f →
        l'.notices = l.notices ∧ (l.filter = none → l'.filter = some f)) ∧
      ∀ reason, filters.strict c.logFilter = .error reason →
        l'.notices = l.notices ++
          ["ignoring invalid CQLBRIDGE_LOG filter `" ++ c.logFilter ++ "`: " ++ reason] ∧
        (l.filter = none → l'.filter = some (filters.lenient "warn")) := by
  have hfirst : l.installAll filters (c :: later) = l.install filters c :=
    installAll_of_called (called_install filters c l) later
  intro l'
  simp only [l', hfirst, install, fresh, Bool.false_eq_true, if_false]
  cases filters.strict c.logFilter with
  | ok f =>
    refine ⟨fun f' hf => by rw [hf]; rfl, fun f' h => ?_, by rintro reason ⟨⟩⟩
    cases h
    exact ⟨rfl, fun hf => by rw [hf]; rfl⟩
  | error reason =>
    refine ⟨fun f' hf => by rw [hf]; rfl, by rintro f' ⟨⟩, fun reason' h => ?_⟩
    cases h
    exact ⟨rfl, fun hf => by rw [hf]; rfl⟩

end EngineBridge.Log.Logging
