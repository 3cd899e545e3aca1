import EngineBridge.Config.Settings

/-!
The subscriber that prints log events. The bridge installs one on the first call and does nothing on
later ones; a subscriber that the host has installed stays. A filter that cannot be read is reported
and replaced.
-/

namespace EngineBridge.Log

/-- The readers of filters. One gives no filter for a text with mistakes, the other leaves them
out. -/
structure Filters (φ : Type) where
  strict : String → Except String φ
  lenient : String → φ

/-- The filter of the process's subscriber, whether the bridge has been called to install one, and
the lines it has printed then. -/
structure Logging (φ : Type) where
  filter : Option φ
  called : Bool
  notices : List String

def fallback : String := "warn"

def ignored (text reason : String) : String :=
  "ignoring invalid " ++ Config.filterVariable ++ " filter `" ++ text ++ "`: " ++ reason

namespace Logging

variable {φ : Type}

def install (filters : Filters φ) (c : Config.Settings) (l : Logging φ) : Logging φ :=
  if l.called then l
  else
    match filters.strict c.logFilter with
    | .ok f => { l with filter := l.filter.or (some f), called := true }
    | .error reason =>
      { filter := l.filter.or (some (filters.lenient fallback))
        called := true
        notices := l.notices ++ [ignored c.logFilter reason] }

def installAll (filters : Filters φ) (calls : List Config.Settings) (l : Logging φ) : Logging φ :=
  calls.foldl (fun l c => l.install filters c) l

end Logging

end EngineBridge.Log
