import VegaAxes.Json.Reader

/-!
# Routes

The target of a request is a reference, whose path leads to a route. Scheme,
authority, query and fragment are no part of the path, dot segments are resolved,
and slashes at its end do not count.
-/

namespace VegaAxes.Service

structure Reference where
  scheme : List Char
  authority : List Char
  path : List Char
deriving DecidableEq, Repr

namespace Reference

def isSchemeChar (c : Char) : Bool :=
  c.isAlphanum || c == '+' || c == '-' || c == '.'

def splitScheme (cs : List Char) : List Char × List Char :=
  let name := cs.takeWhile isSchemeChar
  match cs.dropWhile isSchemeChar with
  | ':' :: rest => if name.head?.all Char.isAlpha then (name, rest) else ([], cs)
  | _ => ([], cs)

def read (target : String) : Reference :=
  let (scheme, rest) := splitScheme target.toList
  let endsPath := fun c => c == '?' || c == '#'
  match rest with
  | '/' :: '/' :: rest =>
    let endsAuthority := fun c => c == '/' || endsPath c
    { scheme
      authority := rest.takeWhile (!endsAuthority ·)
      path := (rest.dropWhile (!endsAuthority ·)).takeWhile (!endsPath ·) }
  | rest => { scheme, authority := [], path := rest.takeWhile (!endsPath ·) }

/-- The host: the authority without a user in front and what follows a colon. -/
def host (r : Reference) : List Char :=
  (r.authority.reverse.takeWhile (· != '@')).reverse.takeWhile (· != ':')

end Reference

def segments : List Char → List (List Char)
  | [] => [[]]
  | c :: cs =>
    match segments cs with
    | segment :: rest => if c = '/' then [] :: segment :: rest else (c :: segment) :: rest
    | [] => [[c]]

/-- Resolves the segments that stay where they are or go back by one. -/
def resolveDots (path : List Char) : List Char :=
  let step := fun (resolved : List (List Char)) segment =>
    if segment = ['.'] then resolved
    else if segment = ['.', '.'] then if resolved = [[]] then resolved else resolved.dropLast
    else resolved ++ [segment]
  ['/'].intercalate ((segments path).foldl step [])

/-- Undoes escapes. Bytes beyond ASCII, of which no route has any, stand for themselves. -/
def unescape : List Char → List Char
  | [] => []
  | '%' :: a :: b :: cs =>
    match Json.hexValue? a, Json.hexValue? b with
    | some high, some low => Char.ofNat (16 * high + low) :: unescape cs
    | _, _ => '%' :: unescape (a :: b :: cs)
  | c :: cs => c :: unescape cs

/-- The path of a target at this service. A reference without scheme and host starts at the root.
Escapes are undone by the sender and by the receiver. -/
def pathOf (target : String) : List Char :=
  let r := Reference.read target
  let own := if r.scheme.isEmpty && r.authority.isEmpty then r.path else resolveDots r.path
  let path := if r.scheme.isEmpty || r.host.isEmpty then
      resolveDots ('/' :: own.dropWhile (· == '/'))
    else own
  unescape (unescape path)

inductive Route where
  | health
  | compile
  /-- A page about the service. -/
  | description
deriving DecidableEq, Repr

namespace Route

def paths : List (String × Route) :=
  [("/health", health), ("/spec/axes", compile), ("/docs", description),
    ("/docs/oauth2-redirect", description), ("/redoc", description),
    ("/openapi.json", description)]

/-- The route of a path, after which there may be slashes and before them a line end. -/
def ofPath? (path : List Char) : Option Route :=
  let path := (path.reverse.dropWhile (· == '/')).reverse
  let path := if path.getLast? = some '\n' then path.dropLast else path
  paths.lookup (String.ofList path)

def ofTarget? (target : String) : Option Route :=
  ofPath? (pathOf target)

def methods : Route → List String
  | health => ["GET"]
  | compile => ["POST"]
  | description => ["GET", "HEAD"]

example : ofTarget? "/spec/x/../axes/?q=1" = some compile := by decide +kernel
example : ofTarget? "/he%61lth%2F" = some health ∧ ofTarget? "//health" = none := by decide +kernel

end Route

end VegaAxes.Service
