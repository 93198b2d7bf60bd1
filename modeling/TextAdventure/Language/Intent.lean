import TextAdventure.Language.Action

/-!
# Intents

What the player asks for: an action and its targets.  A target slot may be empty, which is not
the same as holding an empty name.
-/

set_option autoImplicit false

namespace TextAdventure

structure Intent where
  action : Action
  targets : List (Option String) := []
deriving DecidableEq

namespace Intent

def withTarget (action : Action) (target : String) : Intent := ⟨action, [some target]⟩

/-- An intent whose one target slot is empty. -/
def untargeted (action : Action) : Intent := ⟨action, [none]⟩

/-- An intent with these targets and no empty slots. -/
def withTargets (action : Action) (targets : List String) : Intent :=
  ⟨action, targets.map some⟩

def silent : Intent := ⟨.unknown, []⟩

def isSilent (intent : Intent) : Bool :=
  intent.action = .unknown && intent.targets.isEmpty

/-- The first target, if it is there and not an empty name. -/
def primaryTarget? (intent : Intent) : Option String :=
  match intent.targets with
  | some target :: _ => if target.isEmpty then none else some target
  | _ => none

def presentTargets (intent : Intent) : List String :=
  intent.targets.filterMap id

end Intent

end TextAdventure
