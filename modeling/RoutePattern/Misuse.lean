import RoutePattern.Text.Basic

/-!
# What finished values refuse

Routes and parameters are finished once they are made: their parts are read by name and never
replaced, and parameters, as they hold values that may still change, are no keys of a dictionary.
-/
namespace RoutePattern

/-- A use that a finished value refuses. -/
inductive Misuse where
  /-- A part of a value of this type is replaced. -/
  | replacement (type : Text)
  /-- A part is read that values of this type do not have. -/
  | unknownPart (type part : Text)
  /-- A value of this type is taken as a key. -/
  | notAKey (type : Text)
  deriving Repr, DecidableEq

namespace Misuse

/-- The wording of a refusal. -/
def message : Misuse → Text
  | replacement type => type ++ " is immutable".toList
  | unknownPart type part =>
    ['\x27'] ++ type ++ "' object has no attribute '".toList ++ part ++ ['\x27']
  | notAKey type => "unhashable type: '".toList ++ type ++ ['\x27']

end Misuse

end RoutePattern
