import RoutePattern.Pattern.Converter

/-!
# Options of route patterns

A caller may give options as values of any kind, which count as true or false; `Settings` keeps
them as they were given, and `Options` is what they say.
-/
namespace RoutePattern

/-- How a pattern is turned into a regular expression. -/
structure Options where
  /-- Literal text is compared with its case. -/
  sensitive : Bool
  /-- A slash at the end is accepted only where the pattern has one. -/
  strict : Bool
  /-- The whole path has to match, not only its first segments. -/
  whole : Bool
  /-- Converters of the caller. -/
  converters : Converters
  deriving Repr, DecidableEq

/-- Options as a caller gives them. -/
structure Settings where
  sensitive : Datum
  strict : Datum
  whole : Datum
  /-- Converters of the caller, unless there is nothing in their place. -/
  converters : Option Converters
  deriving Repr

namespace Settings

/-- The options of a caller who gives none. -/
def standard : Settings := ⟨.bool false, .bool false, .bool true, some Table.empty⟩

/-- What the settings say. -/
def options (settings : Settings) : Options where
  sensitive := settings.sensitive.isTrue
  strict := settings.strict.isTrue
  whole := settings.whole.isTrue
  converters := settings.converters.getD Table.empty

/-- The settings equal those of a caller who gives none. -/
def isStandard (settings : Settings) : Bool :=
  settings.sensitive.equals standard.sensitive && settings.strict.equals standard.strict &&
    settings.whole.equals standard.whole &&
    settings.converters.any Table.isEmpty

end Settings

end RoutePattern
