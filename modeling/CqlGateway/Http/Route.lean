import CqlGateway.Http.Request

/-!
# Routes

The paths that the gateway answers, and how a request finds its route.  A path that matches only
after the slashes that follow each other have been made one is redirected.
-/

namespace CqlGateway.Http

/-- What a path asks for. -/
inductive Route where
  | keyspaces
  | keyspaceExists (name : String)
  | tables
  | tableExists (name : String)
  | columns
  | indexes
  | query
  /-- A file of the application; there are none. -/
  | staticFile (path : String)
  deriving DecidableEq, Repr

namespace Route

/-- The patterns of the routes, in alphabetical order. -/
def patterns : List String :=
  ["/columns", "/indexes", "/keyspaces", "/keyspaces/<name>/exists", "/query",
    "/static/<path:filename>", "/tables", "/tables/<name>/exists"]

/-- The path of a file begins with no slash and is one line; only its first character may be a line
break. -/
def isFilePath : List Char → Bool
  | [] => false
  | c :: rest => c != '/' && !rest.contains '\n'

/-- The route of a decoded path. -/
def ofPath? (path : List Char) : Option Route :=
  match (splitAt '/' path).map String.ofList with
  | ["", "keyspaces"] => some .keyspaces
  | ["", "keyspaces", name, "exists"] => if name.isEmpty then none else some (.keyspaceExists name)
  | ["", "tables"] => some .tables
  | ["", "tables", name, "exists"] => if name.isEmpty then none else some (.tableExists name)
  | ["", "columns"] => some .columns
  | ["", "indexes"] => some .indexes
  | ["", "query"] => some .query
  | "" :: "static" :: segments =>
    let file := "/".intercalate segments
    if isFilePath file.toList then some (.staticFile file) else none
  | _ => none

/-- The methods that a route answers itself. -/
def methods : Route → List Method
  | .query => [.post]
  | _ => [.get, .head]

end Route

/-- Where a request leads. -/
inductive Target where
  | route (route : Route)
  /-- The methods of a route are asked for. -/
  | methods
  | redirect
  | notFound
  | notAllowed
  deriving DecidableEq, Repr

/-- The path with one slash wherever several follow each other. -/
def mergeSlashes : List Char → List Char
  | [] => []
  | c :: rest =>
    if c == '/' && rest.head? == some '/' then mergeSlashes rest else c :: mergeSlashes rest

/-- The target of a method on a route. -/
def Route.target (route : Route) (method : Method) : Target :=
  if method == .options then .methods
  else if route.methods.contains method then .route route
  else .notAllowed

/-- The target of a request. -/
def Request.target (r : Request) : Target :=
  match Route.ofPath? r.decodedPath with
  | some route => route.target r.method
  | none =>
    match Route.ofPath? (mergeSlashes r.decodedPath) with
    | none => .notFound
    | some route =>
      match route.target r.method with
      | .notAllowed => .notAllowed
      | _ => .redirect

end CqlGateway.Http
