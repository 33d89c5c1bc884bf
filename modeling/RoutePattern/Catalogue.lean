import RoutePattern.Text.Quoted

/-!
# The catalogue of public names

Every public name is listed with the module that defines it and, if it names an error, with the
errors that it is a special case of.
-/
namespace RoutePattern

/-- What a public name stands for. -/
inductive PublicEntry where
  | text (value : Text)
  | names (values : List Text)
  /-- A type or function; errors come with their kinds, the most special first. -/
  | definition (module name : Text) (errorKinds : Option (List Text))
  deriving Repr, DecidableEq

namespace Catalogue

/-- The name of the package. -/
def package : Text := "routeurl".toList

/-- The version of the package. -/
def version : Text := "0.1.0".toList

/-- The kinds of an error of the package below the root of all its errors. -/
def errorKinds (kinds : List String) : Option (List Text) :=
  some ((kinds ++ ["Exception", "BaseException", "object"]).map String.toList)

/-- The public definitions in alphabetical order, with their modules. -/
def definitions : List (String × String × Option (List Text)) :=
  [("CompileOptions", "routeurl.config", none),
    ("InvalidArgument", "routeurl.errors",
      errorKinds ["InvalidArgument", "RouteUrlError", "TypeError"]),
    ("NoMatch", "routeurl.errors", errorKinds ["NoMatch", "RouteUrlError"]),
    ("ParamKey", "routeurl.routing.route", none),
    ("PatternError", "routeurl.errors",
      errorKinds ["PatternError", "RouteUrlError", "ValueError"]),
    ("RouteParams", "routeurl.routing.route", none),
    ("RouteUrlError", "routeurl.errors", errorKinds ["RouteUrlError"]),
    ("UrlPattern", "routeurl.routing.pattern", none),
    ("UrlRecord", "routeurl.url.parse", none),
    ("compile_path", "routeurl.routing.compiler", none),
    ("from_query_string", "routeurl.url.query", none),
    ("normalize", "routeurl.url.parse", none),
    ("parse", "routeurl.url.parse", none),
    ("to_query_string", "routeurl.url.query", none)]

/-- All public definitions by name. -/
def publicNames : List Text := definitions.map fun entry => entry.1.toList

/-- What a name stands for. -/
def find? (name : Text) : Option PublicEntry :=
  if name == "__version__".toList then some (.text version)
  else if name == "__name__".toList then some (.text package)
  else if name == "__all__".toList then some (.names publicNames)
  else (definitions.find? fun entry => entry.1.toList == name).map fun (_, module, kinds) =>
    .definition module.toList name kinds

/-- The wording for a name that stands for nothing. -/
def missingMessage (name : Text) : Text :=
  "module ".toList ++ Text.quoted package ++ " has no attribute ".toList ++ Text.quoted name

end Catalogue

end RoutePattern
