import RoutePattern.Text.Case
import RoutePattern.Url.Query

/-!
# The parts of a URL

A URL is cut from the left into scheme, authority, path, query and fragment (`Parts.read`). A
record adds what is derived from these five: the host and its port, the query as a table, and the
URL put together again from its normalized parts.
-/
namespace RoutePattern

/-- The five parts of a URL as they are written, without the delimiters between them. -/
structure Parts where
  scheme : Option Text
  authority : Option Text
  path : Text
  query : Option Text
  fragment : Option Text
  deriving Repr, DecidableEq

namespace Parts

/-- A character that a scheme may hold. -/
def inScheme (c : Char) : Bool := !(['/', ':', '?', '#'].contains c)

/-- A character that an authority may hold. -/
def inAuthority (c : Char) : Bool := !(['/', '?', '#'].contains c)

/-- A character that a path may hold. -/
def inPath (c : Char) : Bool := !(['?', '#'].contains c)

/-- The scheme in front of a colon, and the text after it. A scheme is not empty. -/
def readScheme (url : Text) : Option Text × Text :=
  match url.span inScheme with
  | (first :: scheme, ':' :: rest) => (some (first :: scheme), rest)
  | _ => (none, url)

/-- The authority after two slashes, and the text after it. -/
def readAuthority : Text → Option Text × Text
  | '/' :: '/' :: rest =>
    let (authority, rest) := rest.span inAuthority
    (some authority, rest)
  | rest => (none, rest)

/-- The query after a question mark, and the text after it. -/
def readQuery : Text → Option Text × Text
  | '?' :: rest =>
    let (query, rest) := rest.span (· != '#')
    (some query, rest)
  | rest => (none, rest)

/-- The fragment after a number sign. -/
def readFragment : Text → Option Text
  | '#' :: fragment => some fragment
  | _ => none

/-- The parts of a URL. -/
def read (url : Text) : Parts :=
  let (scheme, rest) := readScheme url
  let (authority, rest) := readAuthority rest
  let (path, rest) := rest.span inPath
  let (query, rest) := readQuery rest
  ⟨scheme, authority, path, query, readFragment rest⟩

end Parts

/-- Everything that is known about a URL. Parts that a URL lacks are empty. -/
structure UrlRecord where
  /-- What stands before the path, normalized. -/
  rootUrl : Text
  /-- The URL as it was given. -/
  givenUrl : Text
  /-- The URL put together again from its normalized parts. -/
  href : Text
  /-- The scheme in lower case. -/
  protocol : Text
  /-- The credentials in front of the at sign of the authority. -/
  auth : Text
  /-- The host in lower case, with its port. -/
  host : Text
  hostname : Text
  port : Text
  /-- The scheme with the host, if there are both. -/
  origin : Text
  /-- The path with the query. -/
  path : Text
  /-- The path alone, as it is written. -/
  pathname : Text
  /-- The query with its question mark. -/
  search : Text
  query : Text
  /-- The pairs of the query. -/
  queryObject : Table Text
  fragment : Text
  /-- The URL has an authority, perhaps an empty one. -/
  slashes : Bool
  deriving Repr, DecidableEq

namespace UrlRecord

/-- The record of the empty URL. -/
def empty : UrlRecord where
  rootUrl := []
  givenUrl := []
  href := []
  protocol := []
  auth := []
  host := []
  hostname := []
  port := []
  origin := []
  path := []
  pathname := []
  search := []
  query := []
  queryObject := Table.empty
  fragment := []
  slashes := false

/-- The record comes from the empty URL. -/
def isEmpty (record : UrlRecord) : Bool := record.givenUrl.isEmpty

/-- Credentials, host, and the authority with its host in lower case. An authority with more
than one at sign has neither credentials nor a host. -/
def readAuthority (authority : Text) : Text × Text × Text :=
  match Text.split '@' authority with
  | [_] =>
    let host := Text.lower authority
    ([], host, host)
  | [auth, host] =>
    let host := Text.lower host
    (auth, host, auth ++ '@' :: host)
  | _ => ([], [], Text.lower authority)

/-- The name of a host and its port: the first two of the pieces between colons. -/
def readHost (host : Text) : Text × Text :=
  match Text.split ':' host with
  | hostname :: port :: _ => (hostname, port)
  | [hostname] => (hostname, [])
  | [] => ([], [])

/-- The query and the fragment. A fragment gives up what follows its first question mark to a URL
without a query of its own. The query comes with its question mark and without it. -/
def readSearch (query : Option Text) (fragment : Text) : Text × Text × Text :=
  match query with
  | some query => ('?' :: query, query, fragment)
  | none =>
    let (fragment, search) := fragment.span (· != '?')
    (search, search.drop 1, fragment)

/-- The record of a URL with the given parts. -/
def ofParts (url : Text) (parts : Parts) : UrlRecord :=
  let protocol := Text.lower (parts.scheme.getD [])
  let slashes := parts.authority.isSome
  let (auth, host, authority) := readAuthority (parts.authority.getD [])
  let (hostname, port) := readHost host
  let (search, query, fragment) := readSearch parts.query (parts.fragment.getD [])
  let rootUrl :=
    (if protocol.isEmpty then [] else protocol ++ [':']) ++
      (if slashes then ['/', '/'] else []) ++ authority
  let path := parts.path ++ search
  { rootUrl := rootUrl
    givenUrl := url
    href := rootUrl ++ path ++ (if fragment.isEmpty then [] else '#' :: fragment)
    protocol := protocol
    auth := auth
    host := host
    hostname := hostname
    port := port
    origin :=
      if protocol.isEmpty || host.isEmpty then [] else protocol ++ [':', '/', '/'] ++ host
    path := path
    pathname := parts.path
    search := search
    query := query
    queryObject := Query.read query
    fragment := fragment
    slashes := slashes }

/-- The record of a URL. -/
def read (url : Text) : UrlRecord :=
  if url.isEmpty then empty else ofParts url (Parts.read url)

end UrlRecord

/-- A path with a slash in front and, unless it is that slash alone, none at its end. -/
def normalizePath (path : Text) : Text :=
  let path := if path.head? == some '/' then path else '/' :: path
  if 1 < path.length && path.getLast? == some '/' then path.dropLast else path

/-- The path of a URL, normalized. The empty URL stays as it is. -/
def normalize (url : Text) : Text :=
  if url.isEmpty then url else normalizePath (Parts.read url).path

/-!
## The fields of a URL by name

Everything that a record knows about its URL can also be listed: each field with its name, in the
order in which records are printed.
-/

/-- The value of a field. -/
inductive UrlField where
  | text (value : Text)
  | flag (value : Bool)
  | table (value : Table Text)
  deriving Repr, DecidableEq

namespace UrlRecord

/-- The fields of a record with their names. -/
def fields (record : UrlRecord) : List (Text × UrlField) :=
  [("root_url".toList, .text record.rootUrl),
    ("original_url".toList, .text record.givenUrl),
    ("href".toList, .text record.href),
    ("protocol".toList, .text record.protocol),
    ("auth".toList, .text record.auth),
    ("host".toList, .text record.host),
    ("hostname".toList, .text record.hostname),
    ("port".toList, .text record.port),
    ("origin".toList, .text record.origin),
    ("path".toList, .text record.path),
    ("pathname".toList, .text record.pathname),
    ("search".toList, .text record.search),
    ("query".toList, .text record.query),
    ("query_object".toList, .table record.queryObject),
    ("hash".toList, .text record.fragment),
    ("slashes".toList, .flag record.slashes)]

/-- The fields that are printed: the record of the empty URL prints none. -/
def printedFields (record : UrlRecord) : List (Text × UrlField) :=
  if record.isEmpty then [] else record.fields

end UrlRecord

end RoutePattern
