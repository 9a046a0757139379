/-
The pages of a service.

* `Page`: health, schema, and in development the pages for people.
* `Page.isAt`: a page is at a path; one line end behind the path does not count.
* `Page.content`: what a page shows.
* `routePath`: the path inside the service, without the root that it is under.
* `respond`: the answer to a request. It is the page of the path, or the remark
  that the method is not allowed, or the place of a page whose path has a slash
  more or less at its end, or the remark that there is no page.
-/
import AccessLog.Exchange.Scope
import AccessLog.Service.Answer
import AccessLog.Settings.Basic
import AccessLog.Text.Percent

namespace AccessLog

/-- The version of the service. -/
def serviceVersion : Text := "0.1.0"

/-- A page of the service. -/
inductive Page where
  | schema
  | documentation
  | signIn
  | health
deriving DecidableEq

namespace Page

/-- The path of a page. -/
def path : Page → Text
  | schema => "/openapi.json"
  | documentation => "/docs"
  | signIn => "/docs/oauth2-redirect"
  | health => "/health"

/-- The methods by which a page is asked for. -/
def methods : Page → List Text
  | health => ["GET"]
  | _ => ["GET", "HEAD"]

/-- The pages that there are: those for people only in development. -/
def all (s : Settings) : List Page :=
  if s.isDevelopment then [schema, documentation, signIn, health] else [schema, health]

/-- The page is at a path; one line end behind the path does not count. -/
def isAt (path : Text) (p : Page) : Bool :=
  path = p.path || path = p.path ++ Text.ofString "\n"

/-- How the service is. -/
def healthValue (s : Settings) : Value :=
  .dict [("status", "healthy"), ("app", .text s.name), ("version", .text serviceVersion),
    ("environment", .text s.environment.name)]

/-- The description of the page that tells how the service is. -/
def healthOperation : Value :=
  .dict [("tags", .list ["System"]), ("summary", "Health Check"),
    ("operationId", "health_check_health_get"),
    ("responses", .dict [("200", .dict [("description", "Successful Response"),
      ("content", .dict [("application/json", .dict [("schema", .dict [])])])])])]

/-- The description of the service, which is under a root or none. -/
def schemaValue (s : Settings) (root : Text) : Value :=
  let servers : List (Value × Value) :=
    if root.isEmpty then [] else [("servers", .list [.dict [("url", .text root)]])]
  let heading : List (Value × Value) := [("openapi", "3.1.0"),
    ("info", .dict [("title", .text s.name), ("version", .text serviceVersion)])]
  let pages : List (Value × Value) :=
    [("paths", .dict [(.text health.path, .dict [("get", healthOperation)])])]
  .dict (heading ++ servers ++ pages)

/-- A page for people with a heading and a paragraph. -/
def document (heading paragraph : Text) : Text :=
  "<!DOCTYPE html>\n<html lang=\"en\">\n<head>\n<meta charset=\"utf-8\">\n<title>" ++ heading ++
    "</title>\n</head>\n<body>\n<h1>" ++ heading ++ "</h1>\n<p>" ++ paragraph ++ "</p>\n" ++
    "<p>The description of all pages for programs is at <a href=\"" ++ schema.path ++ "\">" ++
    schema.path ++ "</a>.</p>\n</body>\n</html>\n"

/-- What a page shows. -/
def content (s : Settings) (root : Text) : Page → Except EncodingFault Answer
  | schema => Answer.ofValue 200 [] (schemaValue s root)
  | documentation => Answer.ofPage (document s.name (health.path ++ " tells how the service is."))
  | signIn => Answer.ofPage (document s.name "The sign-in is done, and this window may be closed.")
  | health => Answer.ofValue 200 [] (healthValue s)

end Page

/-! ### Paths -/

/-- What the parts of a path end with. -/
def slash : CodePoint := '/'

/-- A path without slashes at its end. -/
def trimSlashes (path : Text) : Text :=
  (path.reverse.dropWhile (· = slash)).reverse

/-- A path is a text. -/
def textOf : Value → Except Failure Text
  | .text t => .ok t
  | _ => .error .wrongType

/-- The root that the service is under, if there is one. -/
def rootOf (scope : Scope) : Except Failure Text :=
  let root := scope.value "root_path"
  if root.truthy then textOf root else .ok []

/-- A path inside the service, without the root that it is under. -/
def routePath (root path : Text) : Text :=
  match Text.dropLead? root path with
  | none => path
  | some [] => []
  | some (c :: rest) => if c = slash then c :: rest else path

/-- The path with a slash at its end instead of none, or without those that are
there. -/
def otherPath (inside path : Text) : Text :=
  if inside.getLast? = some slash then trimSlashes path else path ++ [slash]

/-- The name of the host in the headers of a request. -/
def hostHeader (scope : Scope) : Except Failure (Option Text) := do
  let headers ← scope.headers
  return (headers.find? fun header => header.1 = "host".toUTF8.toList).map fun header =>
    Text.ofLatin1 header.2

/-- Where a path is, as far as the request tells. -/
def addressOf (scope : Scope) (path : Text) : Except Failure Text := do
  let scheme := ((scope.get? "scheme").getD "http").shown
  let base : Text ← match ← hostHeader scope with
    | some host => pure (scheme ++ "://" ++ host)
    | none => match scope.value "server" with
      | .null => pure []
      | .tuple [host, port] | .list [host, port] =>
        let standard : Int := if scheme = Text.ofString "https" then 443 else 80
        let behind : Text := if port.same (.int standard) then [] else ":" ++ port.shown
        pure (scheme ++ "://" ++ host.shown ++ behind)
      | _ => throw .wrongType
  match (scope.get? "query_string").getD (.bytes []) with
  | .bytes [] => return base ++ path
  | .bytes query => match Text.ofUtf8 query with
    | .ok t => return base ++ path ++ "?" ++ t
    | .error fault => throw (.decoding fault)
  | _ => throw .missingAttribute

/-- The signs that stand for themselves in the address of a page. -/
def addressSigns : List Char := ":/%#?=@[]!$&'()*+,;".toList

/-! ### Answers -/

/-- An answer that could be written. -/
def settled (r : Except EncodingFault Answer) : Except Failure Answer :=
  r.mapError .encoding

/-- The page at a path inside the service. -/
def lookUp (s : Settings) (inside : Text) : Option Page :=
  (Page.all s).find? (Page.isAt inside)

/-- The answer to a request. -/
def respond (s : Settings) (scope : Scope) : Except Failure Answer := do
  let path ← textOf (← scope.need "path")
  let root ← rootOf scope
  let inside := routePath root path
  match lookUp s inside with
  | some page =>
    let method ← scope.method
    if page.methods.any fun m => method = .text m then
      settled (page.content s (trimSlashes root))
    else
      settled (Answer.refusal 405 [("allow", Text.join ", " page.methods)] "Method Not Allowed")
  | none =>
    let other := otherPath inside path
    if inside ≠ [slash] ∧ (lookUp s (routePath root other)).isSome then
      let address ← addressOf scope other
      match address.percent addressSigns with
      | .ok location => return .redirect location
      | .error fault => throw (.encoding fault)
    else settled (Answer.refusal 404 [] "Not Found")

end AccessLog
