import PageAudit.Service.Target
import PageAudit.Text.Blank
import PageAudit.Text.Lead

/-!
# Routes of the service

Which route a request is for. A path that is a route but for slashes in a row is told where the
route is. The files that the service could serve have a route too, though it has none of them. No
route keeps a connection open.
-/

namespace PageAudit.Service

/-- What the service offers. -/
inductive Route where
  | verify
  | ranges
  | status
  | file
  deriving DecidableEq, Repr

namespace Route

/-- The routes with one path each. -/
def fixed : List (Text × Route) :=
  [("/api/verify", verify), ("/api/ranges", ranges), ("/api/status", status)]

/-- The path of a file: below its directory, and without a slash or a break where none can be. -/
def isFilePath (path : Text) : Bool :=
  match Text.after? "/static/" path with
  | some (c :: rest) => c != '/' && !rest.contains (.char '\n')
  | _ => false

/-- The route at a path. -/
def ofPath? (path : Text) : Option Route := if isFilePath path then some file else fixed.lookup path

/-- The methods that a route answers. -/
def methods : Route → List Text
  | verify | ranges => ["POST", "OPTIONS"]
  | status | file => ["GET", "HEAD", "OPTIONS"]

end Route

/-- Puts one more character before a path in which no two slashes stand in a row. -/
def growMerged (c : CodePoint) (merged : Text) : Text :=
  if c = '/' ∧ merged.head? = some (.char '/') then merged else c :: merged

/-- A path with every run of slashes made one. -/
def mergeSlashes (path : Text) : Text := path.foldr growMerged []

/-- Where a request leads. -/
inductive Destination where
  | route (r : Route)
  /-- To a path that is a route once its slashes are merged. -/
  | moved
  /-- To a route that does not answer the method. -/
  | wrongMethod
  /-- To a route that keeps no connection open. -/
  | wrongConnection
  | nowhere
  deriving DecidableEq, Repr

/-- Where a request for a route leads, when it leads to `found` if nothing is wrong with it. -/
def Destination.checked (found : Destination) (route : Route) (socket : Bool) (method : Text) :
    Destination :=
  if !route.methods.contains method then .wrongMethod
  else if socket then .wrongConnection
  else found

/-- Where a method, in upper case, and a path lead, over a connection that stays open or not. -/
def Destination.of (socket : Bool) (method path : Text) : Destination :=
  match Route.ofPath? path with
  | some r => Destination.checked (.route r) r socket method
  | none =>
    match Route.ofPath? (mergeSlashes path) with
    | some r => Destination.checked .moved r socket method
    | none => .nowhere

/-- What may stand around a media type. -/
def isPadding (c : CodePoint) : Bool := c == ' ' || c == '\t'

/-- Whether a content type is that of JSON, whatever its parameters. -/
def isJsonType (contentType : Text) : Bool :=
  let mediaType := Text.toLower (Text.trim isPadding (Text.cutAt ';' contentType).1)
  mediaType == "application/json" ||
    (List.isPrefixOf (Text.ofString "application/") mediaType &&
      List.isSuffixOf (Text.ofString "+json") mediaType)

end PageAudit.Service
