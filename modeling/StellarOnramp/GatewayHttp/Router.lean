import StellarOnramp.Gateway.JwsSigning
import StellarOnramp.GatewayHttp.Routing
import StellarOnramp.Library.PatternText

/-! The router over any table: path templates compiled to regular expressions, the patterns that
may constrain a parameter, and the scan over the compiled routes.
-/

namespace StellarOnramp.GatewayHttp.Routes

open JsText RegularExpressions
open StellarOnramp.Gateway (objectPrototypeNames)

-----------------------------------------------------------------------------------------
-- Patterns
-----------------------------------------------------------------------------------------

/-- ``new RegExp(`^(?:${source})$`)`` -/
def anchored (source : JsString) : Option Node :=
  newRegExp (js "^(?:" ++ source ++ js ")$")

/-- A regular expression as a route declares it. -/
structure ParamPattern where
  source : JsString
  flags : JsString
  /-- What it matches from end to end under its own flags. -/
  accepts : JsString → Prop
  flagless
    : flags = [] →
      ∀ value, accepts value ↔ (anchored source).any (fun tree => tree.test value) = true

/-- `new RegExp(source)` as a route declares it. -/
def ParamPattern.ofSource (source : JsString) : ParamPattern where
  source
  flags := []
  accepts value := (anchored source).any (fun tree => tree.test value) = true
  flagless _ _ := Iff.rfl

/-- No group of a source captures: every parenthesis that is not escaped opens with `?:`, `?=` or
`?!`. What stands before the rest is kept with its last unit first.
-/
def capturesNothing : JsString → JsString → Bool
  | _, [] => true
  | before, unit :: rest =>
      let escapes := (before.takeWhile (· == 92)).length
      (unit != 40 || escapes % 2 == 1
          || (rest.head? == some 63
            && rest.tail.head?.any (fun kind => kind == 58 || kind == 61 || kind == 33)))
        && capturesNothing (unit :: before) rest

/-- `false` where it throws. -/
def assertUsableParamPattern (pattern : ParamPattern) : Bool :=
  (anchored pattern.source).any (fun tree => !tree.test [] && !tree.test [47])
    && capturesNothing [] pattern.source
    && pattern.source.all (fun unit => unit != 94 && unit != 36)

-----------------------------------------------------------------------------------------
-- Templates
-----------------------------------------------------------------------------------------

/-- `.*+?^${}()|[]\` -/
def metacharacters : JsString := [46, 42, 43, 63, 94, 36, 123, 125, 40, 41, 124, 91, 93, 92]

def escapeRegex (text : JsString) : JsString :=
  text.flatMap (fun unit => if unit ∈ metacharacters then [92, unit] else [unit])

/-- The parameters of a template, each behind the literal text before it, and the text that is
left.
-/
structure Template where
  params : List (JsString × JsString)
  last : JsString
  deriving DecidableEq

def Template.paramNames (template : Template) : List JsString := template.params.map Prod.snd

/-- `/^[A-Za-z0-9_]+$/` -/
def isParamName (name : JsString) : Bool := name != [] && name.all isWordUnit

/-- The loop over a template; `none` where it throws. -/
def readTemplate : Nat → JsString → JsString → Option Template
  | _, literal, [] => some { params := [], last := literal }
  | 0, _, _ :: _ => none
  | fuel + 1, literal, unit :: rest =>
      if unit = 123 then
        let name := rest.takeWhile (· != 125)
        match rest.dropWhile (· != 125) with
        | [] => none
        | _ :: later =>
            if isParamName name then
              (readTemplate fuel [] later).map
                (fun template => { template with params := (literal, name) :: template.params })
            else
              none
      else
        readTemplate fuel (literal ++ [unit]) rest

def Template.read (text : JsString) : Option Template := readTemplate text.length [] text

abbrev ParamPatterns := Option (List (JsString × ParamPattern))

/-- `paramPatterns?.[name]`. A name that every object inherits finds a function there, and the
router throws at it.
-/
def declared (patterns : ParamPatterns) (name : JsString) : Option (Option ParamPattern) :=
  match patterns with
  | none => some none
  | some table =>
      match table.lookup name with
      | some pattern => some (some pattern)
      | none => if name ∈ objectPrototypeNames then none else some none

/-- The group of one parameter. -/
def paramGroup (patterns : ParamPatterns) (name : JsString) : Option JsString := do
  match ← declared patterns name with
  | none => some (js "([^/]+)")
  | some pattern =>
      if assertUsableParamPattern pattern then some (40 :: pattern.source ++ [41]) else none

def paramParts (patterns : ParamPatterns) : List (JsString × JsString) → Option JsString
  | [] => some []
  | (literal, name) :: later => do
      let group ← paramGroup patterns name
      let parts ← paramParts patterns later
      some (escapeRegex literal ++ group ++ parts)

structure CompiledTemplate where
  regex : Node
  paramNames : List JsString

def compile (text : JsString) (patterns : ParamPatterns) : Option CompiledTemplate := do
  let template ← Template.read text
  let parts ← paramParts patterns template.params
  if (patterns.getD []).all (fun entry => entry.1 ∈ template.paramNames) then
    let regex ← newRegExp (94 :: parts ++ escapeRegex template.last ++ js "\\/?$")
    some { regex, paramNames := template.paramNames }
  else
    none

-----------------------------------------------------------------------------------------
-- The router
-----------------------------------------------------------------------------------------

/-- A row of the table, with a handler of any kind. -/
structure Route (Handler : Type) where
  method : JsString
  pathTemplate : JsString
  paramPatterns : ParamPatterns
  jsonBody : Bool
  auth : Option RouteAuth
  handler : Handler

structure CompiledRoute (Handler : Type) extends CompiledTemplate where
  method : JsString
  jsonBody : Bool
  auth : RouteAuth
  handler : Handler

/-- What the groups captured under the names of the parameters, in the order in which the names
were set.
-/
abbrev RouteParams := List (JsString × Option JsString)

inductive MatchResult (Handler : Type) where
  | ok (handler : Handler) (jsonBody : Bool) (auth : RouteAuth) (params : RouteParams)
  | noPath
  | methodNotAllowed (allow : List JsString)
  deriving DecidableEq

/-- `params[name] = value`. Setting `__proto__` to a text changes nothing. -/
def setParam (params : RouteParams) (name : JsString) (value : Option JsString) : RouteParams :=
  if name = js "__proto__" then
    params
  else if name ∈ params.map Prod.fst then
    params.map (fun entry => if entry.1 = name then (name, value) else entry)
  else
    params ++ [(name, value)]

def setParams (captures : Nat → Option JsString) : Nat → List JsString → RouteParams → RouteParams
  | _, [], params => params
  | index, name :: names, params =>
      setParams captures (index + 1) names (setParam params name (captures index))

section

variable {Handler : Type}

def Route.compile? (route : Route Handler) : Option (CompiledRoute Handler) := do
  let compiled ← compile route.pathTemplate route.paramPatterns
  some
    { compiled with
      method := route.method
      jsonBody := route.jsonBody
      auth := route.auth.getD .none
      handler := route.handler }

/-- `new Router(routes)`; `none` where it throws. -/
def newRouter (routes : List (Route Handler)) : Option (List (CompiledRoute Handler)) :=
  routes.mapM Route.compile?

def CompiledRoute.params (route : CompiledRoute Handler) (path : JsString) : RouteParams :=
  match route.regex.exec path with
  | none => []
  | some found => setParams found.captures 1 route.paramNames []

def anyMethodForPath (router : List (CompiledRoute Handler)) (path : JsString) : List JsString :=
  (router.filter (fun route => route.regex.test path)).map CompiledRoute.method

/-- The scan, from the routes that are left; it does not stop where only the path matches. -/
def matchFrom (method path : JsString) (allow : List JsString)
    : Bool → List (CompiledRoute Handler) → MatchResult Handler
  | true, [] => .methodNotAllowed allow
  | false, [] => .noPath
  | pathMatched, route :: later =>
      if route.regex.test path = false then matchFrom method path allow pathMatched later
      else if route.method ≠ method then matchFrom method path allow true later
      else .ok route.handler route.jsonBody route.auth (route.params path)

def matchRoute (router : List (CompiledRoute Handler)) (method path : JsString)
    : MatchResult Handler :=
  matchFrom method path (anyMethodForPath router path) false router

end

end StellarOnramp.GatewayHttp.Routes
