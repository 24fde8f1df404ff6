import StellarOnramp.GatewayHttp.RouteMatching

/-! The router is exact where every pattern keeps to its segment: the first route of the table
that has the method and whose template is the path answers, under the values that its parameters
stand for, if they have names of their own.
-/

namespace StellarOnramp.GatewayHttp.Routes

open JsText RegularExpressions

-----------------------------------------------------------------------------------------
-- What the table says
-----------------------------------------------------------------------------------------

section

variable {Handler : Type}

/-- The template is the path with these values under the names of its parameters. -/
def Route.Takes (route : Route Handler) (path : JsString) (params : RouteParams) : Prop :=
  ∃ template values, Template.read route.pathTemplate = some template
    ∧ Fits route.paramPatterns template.last template.params path values
    ∧ params = template.paramNames.zip (values.map some)

def Route.Matches (route : Route Handler) (path : JsString) : Prop :=
  ∃ params, route.Takes path params

open Classical in
/-- What the table answers to a method and a path. -/
noncomputable def allowedMethods (table : List (Route Handler)) (path : JsString)
    : List JsString :=
  (table.filter (fun route => decide (route.Matches path))).map Route.method

/-- The answer that a table gives to a method and a path. -/
def Expected (table : List (Route Handler)) (method path : JsString)
    : MatchResult Handler → Prop
  | .ok handler jsonBody auth params =>
      ∃ before route after, table = before ++ route :: after
        ∧ (∀ earlier ∈ before, earlier.method = method → ¬ earlier.Matches path)
        ∧ route.method = method ∧ route.Takes path params
        ∧ handler = route.handler ∧ jsonBody = route.jsonBody ∧ auth = route.auth.getD .none
  | .methodNotAllowed allow =>
      (∀ route ∈ table, route.method = method → ¬ route.Matches path)
        ∧ (∃ route ∈ table, route.Matches path) ∧ allow = allowedMethods table path
  | .noPath => ∀ route ∈ table, ¬ route.Matches path

/-- The row is the first of the table with the method whose template is the path. -/
def Answers (table : List (Route Handler)) (method path : JsString) (route : Route Handler)
    : Prop :=
  ∃ before after, table = before ++ route :: after
    ∧ (∀ earlier ∈ before, earlier.method = method → ¬ earlier.Matches path)
    ∧ route.method = method ∧ route.Matches path

/-- Every declared pattern reads, where the route has it, the values that it accepts. -/
def Route.KeepsToSegments (route : Route Handler) : Prop :=
  ∀ template, Template.read route.pathTemplate = some template →
    InPlace route.paramPatterns template.params.length template.last template.params

/-- The parameters have names of their own, under which an object can hold them. -/
def Route.NamesApart (route : Route Handler) : Prop :=
  ∀ template, Template.read route.pathTemplate = some template →
    template.paramNames.Nodup ∧ js "__proto__" ∉ template.paramNames

-----------------------------------------------------------------------------------------
-- One route
-----------------------------------------------------------------------------------------

theorem setParams_eq (captures : Nat → Option JsString) (index : Nat) {names : List JsString}
    (distinct : names.Nodup) (ordinary : js "__proto__" ∉ names) {params : RouteParams}
    (fresh : ∀ name ∈ names, name ∉ params.map Prod.fst)
    : setParams captures index names params
      = params ++ names.zip ((List.range' index names.length).map captures) := by
  induction names generalizing index params with
  | nil => simp [setParams]
  | cons name names ih =>
      rw [List.nodup_cons] at distinct
      rw [List.mem_cons, not_or] at ordinary
      have added : setParam params name (captures index) = params ++ [(name, captures index)] := by
        rw [setParam, if_neg (Ne.symm ordinary.1), if_neg (fresh name List.mem_cons_self)]
      have fresh_later
          : ∀ other ∈ names, other ∉ (params ++ [(name, captures index)]).map Prod.fst := by
        intro other member
        rw [List.map_append, List.mem_append, not_or]
        refine ⟨fresh other (List.mem_cons_of_mem _ member), ?_⟩
        intro listed
        have same : other = name := List.mem_singleton.mp listed
        exact distinct.1 (same ▸ member)
      rw [setParams, added, ih (index + 1) distinct.2 ordinary.2 fresh_later, List.length_cons,
        List.range'_succ, List.map_cons, List.zip_cons_cons, List.append_assoc,
        List.singleton_append]

/-- The names under which an object holds parameters are all different, and ordinary. -/
theorem setParam_names {params : RouteParams} (distinct : (params.map Prod.fst).Nodup)
    (ordinary : js "__proto__" ∉ params.map Prod.fst) (name : JsString)
    (value : Option JsString)
    : ((setParam params name value).map Prod.fst).Nodup
      ∧ js "__proto__" ∉ (setParam params name value).map Prod.fst := by
  unfold setParam
  split
  case isTrue => exact ⟨distinct, ordinary⟩
  case isFalse other =>
    split
    case isTrue =>
      have same
          : (params.map (fun entry => if entry.1 = name then (name, value) else entry)).map
              Prod.fst
            = params.map Prod.fst := by
        rw [List.map_map]
        refine List.map_congr_left fun entry _ => ?_
        rw [Function.comp_apply]
        split
        case isTrue here => exact here.symm
        case isFalse => rfl
      rw [same]
      exact ⟨distinct, ordinary⟩
    case isFalse unheld =>
      rw [List.map_append, List.map_singleton, List.nodup_append_comm, List.mem_append, not_or]
      exact ⟨List.nodup_cons.mpr ⟨unheld, distinct⟩, ordinary,
        fun listed => other (List.mem_singleton.mp listed).symm⟩

theorem setParams_names (captures : Nat → Option JsString) (index : Nat) (names : List JsString)
    {params : RouteParams} (distinct : (params.map Prod.fst).Nodup)
    (ordinary : js "__proto__" ∉ params.map Prod.fst)
    : ((setParams captures index names params).map Prod.fst).Nodup
      ∧ js "__proto__" ∉ (setParams captures index names params).map Prod.fst := by
  induction names generalizing index params with
  | nil => exact ⟨distinct, ordinary⟩
  | cons name names ih =>
      obtain ⟨apart, plain⟩ := setParam_names distinct ordinary name (captures index)
      exact ih (index + 1) apart plain

theorem Fits.length_eq {patterns : ParamPatterns} {last : JsString}
    {params : List (JsString × JsString)} {path : JsString} {values : List JsString}
    (fits : Fits patterns last params path values)
    : values.length = params.length := by
  induction params generalizing path values with
  | nil => rw [fits.1, List.length_nil, List.length_nil]
  | cons param params ih =>
      obtain ⟨value, rest, later, -, -, fits, rfl⟩ := fits
      rw [List.length_cons, List.length_cons, ih fits]

/-- A compiled route tests and captures as its template says, where its names allow. -/
structure Compiled (route : Route Handler) (compiled : CompiledRoute Handler) (path : JsString)
    : Prop where
  method : compiled.method = route.method
  handler : compiled.handler = route.handler
  jsonBody : compiled.jsonBody = route.jsonBody
  auth : compiled.auth = route.auth.getD .none
  test : compiled.regex.test path = true ↔ route.Matches path
  params
    : compiled.regex.test path = true
      → (route.Takes path (compiled.params path) ↔ route.NamesApart)

theorem Route.KeepsToSegments.compiled {route : Route Handler} (keeps : route.KeepsToSegments)
    {compiled : CompiledRoute Handler} (accepted : route.compile? = some compiled)
    (path : JsString) : Compiled route compiled path := by
  simp only [Route.compile?, Option.bind_eq_bind, Option.bind_eq_some_iff] at accepted
  obtain ⟨result, here, pair⟩ := accepted
  cases pair
  have exists_template : ∃ template, Template.read route.pathTemplate = some template := by
    simp only [compile, Option.bind_eq_bind, Option.bind_eq_some_iff] at here
    exact here.imp fun _ found => found.1
  obtain ⟨template, read⟩ := exists_template
  obtain ⟨names, sound, complete⟩ := compile_fits here read (keeps template read) path
  have captured (tested : result.regex.test path = true)
      : ∃ (after : State) (values : List JsString),
          Fits route.paramPatterns template.last template.params path values
          ∧ CompiledRoute.params
              {
                toCompiledTemplate := result
                method := route.method
                jsonBody := route.jsonBody
                auth := route.auth.getD .none
                handler := route.handler
              } path
            = setParams after.captures 1 template.paramNames []
          ∧ values.map some
            = (List.range' 1 template.params.length).map (fun group => after.captures group) := by
    obtain ⟨after, found⟩ := Option.isSome_iff_exists.mp tested
    obtain ⟨values, fits, captured⟩ := sound after found
    refine ⟨after, values, fits, ?_, captured⟩
    rw [CompiledRoute.params, found]
    dsimp only
    rw [names]
  refine ⟨rfl, rfl, rfl, rfl, ⟨fun tested => ?_, ?_⟩, fun tested => ⟨?_, fun apart => ?_⟩⟩
  · obtain ⟨_, values, fits, -⟩ := captured tested
    exact ⟨_, template, values, read, fits, rfl⟩
  · rintro ⟨params, other, values, again, fits, -⟩
    cases read.symm.trans again
    exact complete ⟨values, fits⟩
  · -- An object holds every name once; the template's names are those it holds.
    rintro ⟨other, values, again, fits, whole⟩ same reread
    cases read.symm.trans again
    cases read.symm.trans reread
    obtain ⟨after, _, -, params, -⟩ := captured tested
    have held :=
      @setParams_names after.captures 1 template.paramNames [] List.nodup_nil List.not_mem_nil
    rwa [← params, whole, List.map_fst_zip] at held
    rw [List.length_map, fits.length_eq, Template.paramNames, List.length_map]
  · obtain ⟨distinct, ordinary⟩ := apart template read
    obtain ⟨after, values, fits, params, found⟩ := captured tested
    refine ⟨template, values, read, fits, ?_⟩
    rw [params, setParams_eq after.captures 1 distinct ordinary (by simp), List.nil_append,
      found]
    rw [Template.paramNames, List.length_map]

-----------------------------------------------------------------------------------------
-- The table
-----------------------------------------------------------------------------------------

theorem forall₂_of_newRouter {table : List (Route Handler)} {router : List (CompiledRoute Handler)}
    (accepted : newRouter table = some router)
    : List.Forall₂ (fun route compiled => route.compile? = some compiled) table router := by
  induction table generalizing router with
  | nil => cases accepted; exact .nil
  | cons route table ih =>
      simp only [newRouter, List.mapM_cons, Option.bind_eq_bind, Option.bind_eq_some_iff]
        at accepted
      obtain ⟨compiled, here, rest, later, whole⟩ := accepted
      cases whole
      exact .cons here (ih later)

section

variable {method path : JsString} {allow : List JsString}

/-- Where a compiled route has the method and matches. -/
def Serves (method path : JsString) (compiled : CompiledRoute Handler) : Prop :=
  compiled.method = method ∧ compiled.regex.test path = true

/-- The scan ends at the first route that has the method and matches. -/
theorem matchFrom_found {before after : List (CompiledRoute Handler)}
    {found : CompiledRoute Handler} (earlier : ∀ route ∈ before, ¬ Serves method path route)
    (serves : Serves method path found) (pathMatched : Bool)
    : matchFrom method path allow pathMatched (before ++ found :: after)
      = .ok found.handler found.jsonBody found.auth (found.params path) := by
  induction before generalizing pathMatched with
  | nil =>
      rw [List.nil_append, matchFrom, if_neg (by rw [serves.2]; decide),
        if_neg (not_not.mpr serves.1)]
  | cons route before ih =>
      have later := ih (fun other member => earlier other (List.mem_cons_of_mem _ member))
      rw [List.cons_append, matchFrom]
      split
      case isTrue => exact later pathMatched
      case isFalse tested =>
        rw [if_pos]
        · exact later true
        · intro same
          exact earlier route List.mem_cons_self ⟨same, by simpa using tested⟩

/-- The scan to the end of the table. -/
theorem matchFrom_none {router : List (CompiledRoute Handler)}
    (none_serves : ∀ route ∈ router, ¬ Serves method path route) (pathMatched : Bool)
    : matchFrom method path allow pathMatched router
      = if pathMatched || router.any (fun route => route.regex.test path) then
          .methodNotAllowed allow
        else
          .noPath := by
  induction router generalizing pathMatched with
  | nil => cases pathMatched <;> rfl
  | cons route router ih =>
      have later := ih (fun other member => none_serves other (List.mem_cons_of_mem _ member))
      rw [matchFrom]
      split
      case isTrue tested => rw [later pathMatched, List.any_cons, tested, Bool.false_or]
      case isFalse tested =>
        have positive : route.regex.test path = true := by simpa using tested
        rw [if_pos, later true, List.any_cons, positive]
        · simp
        · intro same
          exact none_serves route List.mem_cons_self ⟨same, positive⟩

end

/-- The methods that the router lists are those that the table has for the path. -/
theorem anyMethodForPath_eq {table : List (Route Handler)} {router : List (CompiledRoute Handler)}
    {path : JsString}
    (paired : List.Forall₂ (fun route compiled => Compiled route compiled path) table router)
    : anyMethodForPath router path = allowedMethods table path := by
  unfold anyMethodForPath allowedMethods
  induction paired with
  | nil => rfl
  | @cons route compiled table router here _ ih =>
      by_cases fits : route.Matches path
      · have tested := here.test.mpr fits
        simp [tested, fits, ih, here.method]
      · have failed : compiled.regex.test path = false :=
          Bool.eq_false_iff.mpr (mt here.test.mp fits)
        simp [failed, fits, ih]

/-- The row of the table behind a compiled route, and those before it. -/
theorem exists_row {table : List (Route Handler)} {path : JsString}
    {before after : List (CompiledRoute Handler)} {found : CompiledRoute Handler}
    (paired
      : List.Forall₂ (fun route compiled => Compiled route compiled path) table
        (before ++ found :: after))
    : ∃ earlier route later, table = earlier ++ route :: later ∧ Compiled route found path
      ∧ List.Forall₂ (fun route compiled => Compiled route compiled path) earlier before := by
  induction before generalizing table with
  | nil =>
      cases paired with
      | @cons route _ later _ here _ => exact ⟨[], route, later, rfl, here, .nil⟩
  | cons compiled before ih =>
      cases paired with
      | @cons first _ rest _ here more =>
          obtain ⟨earlier, route, later, rfl, row, pairs⟩ := ih more
          exact ⟨first :: earlier, route, later, rfl, row, .cons here pairs⟩

theorem not_matches_of_not_serves {table : List (Route Handler)}
    {router : List (CompiledRoute Handler)} {method path : JsString}
    (paired : List.Forall₂ (fun route compiled => Compiled route compiled path) table router)
    (none_serves : ∀ compiled ∈ router, ¬ Serves method path compiled)
    : ∀ route ∈ table, route.method = method → ¬ route.Matches path := by
  induction paired with
  | nil => exact nofun
  | cons here _ ih =>
      intro route member same fits
      rcases List.mem_cons.mp member with rfl | member
      · exact none_serves _ List.mem_cons_self ⟨here.method.trans same, here.test.mpr fits⟩
      · exact
          ih (fun other inside => none_serves other (List.mem_cons_of_mem _ inside)) route member
            same fits

/-- A compiled route tests positive exactly where some row is the path. -/
theorem any_test_iff {table : List (Route Handler)} {router : List (CompiledRoute Handler)}
    {path : JsString}
    (paired : List.Forall₂ (fun route compiled => Compiled route compiled path) table router)
    : router.any (fun compiled => compiled.regex.test path) = true
      ↔ ∃ route ∈ table, route.Matches path := by
  induction paired with
  | nil => simp
  | cons here _ ih => simp [ih, here.test]

/-- Every row of a table in which the patterns keep to their segments. -/
theorem forall₂_compiled {table : List (Route Handler)} {router : List (CompiledRoute Handler)}
    (accepted : newRouter table = some router)
    (keeps
      : ∀ route ∈ table, ∀ compiled, route.compile? = some compiled → route.KeepsToSegments)
    (path : JsString)
    : List.Forall₂ (fun route compiled => Compiled route compiled path) table router := by
  have each := forall₂_of_newRouter accepted
  clear accepted
  induction each with
  | nil => exact .nil
  | cons here _ ih =>
      exact
        .cons ((keeps _ List.mem_cons_self _ here).compiled here path)
          (ih fun route member => keeps route (List.mem_cons_of_mem _ member))

/-- At most one row answers. -/
theorem Answers.unique {table : List (Route Handler)} {method path : JsString}
    {first second : Route Handler} (here : Answers table method path first)
    (there : Answers table method path second)
    : first = second := by
  classical
  have found {route : Route Handler} (answers : Answers table method path route)
      : table.find? (fun row => decide (row.method = method ∧ row.Matches path)) = some route := by
    obtain ⟨before, after, rfl, earlier, same, fits⟩ := answers
    refine
      List.find?_eq_some_iff_append.mpr ⟨decide_eq_true ⟨same, fits⟩, before, after, rfl, ?_⟩
    intro row member
    rw [Bool.not_eq_true', decide_eq_false_iff_not]
    exact fun serves => earlier row member serves.1 serves.2
  exact Option.some.inj ((found here).symm.trans (found there))

/-- Routes that test and capture as their templates say answer what the table says, where the
row that answers has names that allow it.
-/
theorem expected_iff_of_compiled {table : List (Route Handler)}
    {router : List (CompiledRoute Handler)} {method path : JsString}
    (paired : List.Forall₂ (fun route compiled => Compiled route compiled path) table router)
    : Expected table method path (matchRoute router method path)
      ↔ ∀ route, Answers table method path route → route.NamesApart := by
  by_cases served : ∃ compiled ∈ router, Serves method path compiled
  · -- The first compiled route that serves is the first row of the table that does.
    classical
    obtain ⟨found, here⟩ : ∃ found,
        router.find? (fun compiled => decide (Serves method path compiled)) = some found :=
      Option.isSome_iff_exists.mp (List.find?_isSome.mpr (by simpa using served))
    obtain ⟨serves, before, after, rfl, earlier⟩ := List.find?_eq_some_iff_append.mp here
    have none_before : ∀ compiled ∈ before, ¬ Serves method path compiled := by simpa using earlier
    have serves := of_decide_eq_true serves
    obtain ⟨rows, route, later, rfl, row, pairs⟩ := exists_row paired
    have unmatched := not_matches_of_not_serves pairs none_before
    have same := row.method.symm.trans serves.1
    have answers : Answers (rows ++ route :: later) method path route :=
      ⟨rows, later, rfl, unmatched, same, row.test.mp serves.2⟩
    rw [matchRoute, matchFrom_found none_before serves]
    constructor
    · rintro ⟨front, other, back, whole, first, named, takes, -⟩ asked asked_answers
      obtain rfl : asked = route := asked_answers.unique answers
      have other_answers : Answers (rows ++ asked :: later) method path other :=
        ⟨front, back, whole, first, named, _, takes⟩
      obtain rfl : other = asked := other_answers.unique answers
      exact (row.params serves.2).mp takes
    · intro apart
      exact
        ⟨rows, route, later, rfl, unmatched, same,
          (row.params serves.2).mpr (apart route answers), row.handler, row.jsonBody, row.auth⟩
  · have none_serves : ∀ compiled ∈ router, ¬ Serves method path compiled := by
      simpa using served
    have unmatched := not_matches_of_not_serves paired none_serves
    refine iff_of_true ?_ ?_
    · rw [matchRoute, matchFrom_none none_serves, Bool.false_or]
      split
      case isTrue some_fits =>
        exact ⟨unmatched, (any_test_iff paired).mp some_fits, anyMethodForPath_eq paired⟩
      case isFalse none_fits =>
        intro route member fits
        exact none_fits ((any_test_iff paired).mpr ⟨route, member, fits⟩)
    · rintro route ⟨before, after, rfl, -, same, fits⟩
      exact absurd fits (unmatched route (by simp) same)

-----------------------------------------------------------------------------------------
-- Plain tables
-----------------------------------------------------------------------------------------

/-- Every declared pattern is plain in its route, and the parameters have names of their own. -/
def Route.plain (route : Route Handler) : Bool :=
  (Template.read route.pathTemplate).all
    (fun template =>
      decide template.paramNames.Nodup && !template.paramNames.contains (js "__proto__")
        && (route.paramPatterns.getD []).all
          (fun entry => entry.2.plain template.params.length))

theorem mem_of_declared {patterns : ParamPatterns} {name : JsString} {pattern : ParamPattern}
    (found : declared patterns name = some (some pattern))
    : (name, pattern) ∈ patterns.getD [] := by
  unfold declared at found
  split at found
  case h_1 => cases found
  case h_2 table =>
    split at found
    case h_1 here =>
      cases found
      exact List.lookup_eq_some_iff.mp here |> fun ⟨front, back, whole, _⟩ => by
        rw [Option.getD_some, whole]
        simp
    case h_2 => split at found <;> cases found

theorem usable_of_paramParts {patterns : ParamPatterns} {params : List (JsString × JsString)}
    {parts : JsString} (joined : paramParts patterns params = some parts)
    {param : JsString × JsString} (member : param ∈ params) {pattern : ParamPattern}
    (declares : declared patterns param.2 = some (some pattern))
    : assertUsableParamPattern pattern = true := by
  induction params generalizing parts with
  | nil => cases member
  | cons first params ih =>
      obtain ⟨literal, name⟩ := first
      simp only [paramParts, Option.bind_eq_bind, Option.bind_eq_some_iff] at joined
      obtain ⟨group, grouped, rest, joined, -⟩ := joined
      rcases List.mem_cons.mp member with rfl | member
      · simp only [paramGroup, declares, Option.bind_eq_bind, Option.bind_some] at grouped
        split at grouped
        case isTrue usable => exact usable
        case isFalse => cases grouped
      · exact ih joined member

theorem Route.plain.namesApart {route : Route Handler} (plain : route.plain = true)
    : route.NamesApart := by
  intro template read
  simp only [Route.plain, read, Option.all_some, Bool.and_eq_true, decide_eq_true_eq,
    Bool.not_eq_true'] at plain
  exact ⟨plain.1.1, by simpa using plain.1.2⟩

theorem Route.plain.keepsToSegments {route : Route Handler} (plain : route.plain = true)
    {compiled : CompiledRoute Handler} (accepted : route.compile? = some compiled)
    : route.KeepsToSegments := by
  intro template read
  simp only [Route.compile?, compile, read, Option.bind_eq_bind, Option.bind_some,
    Option.bind_eq_some_iff] at accepted
  obtain ⟨_, ⟨parts, joined, -⟩, -⟩ := accepted
  simp only [Route.plain, read, Option.all_some, Bool.and_eq_true, decide_eq_true_eq,
    Bool.not_eq_true', List.all_eq_true] at plain
  obtain ⟨-, patterns⟩ := plain
  have each : ∀ param ∈ template.params, ∀ pattern,
      declared route.paramPatterns param.2 = some (some pattern) →
        assertUsableParamPattern pattern = true ∧ pattern.plain template.params.length = true :=
    fun param member pattern declares =>
      ⟨usable_of_paramParts joined member declares, patterns _ (mem_of_declared declares)⟩
  generalize template.params.length = groups at each
  generalize template.params = params at each
  induction params with
  | nil => trivial
  | cons param params ih =>
      refine ⟨?_, ih fun other member => each other (List.mem_cons_of_mem _ member)⟩
      intro pattern declares
      obtain ⟨usable, plain⟩ := each param List.mem_cons_self pattern declares
      exact inPlace_of_plain declares usable plain

/-- A table of plain patterns is matched exactly. -/
theorem matchRoute_expected_of_plain {table : List (Route Handler)}
    {router : List (CompiledRoute Handler)} (accepted : newRouter table = some router)
    (plain : table.all Route.plain = true) (method path : JsString)
    : Expected table method path (matchRoute router method path) := by
  have every := List.all_eq_true.mp plain
  refine (expected_iff_of_compiled (forall₂_compiled accepted ?_ path)).mpr ?_
  · intro route member compiled here
    exact Route.plain.keepsToSegments (every route member) here
  · rintro route ⟨before, after, rfl, -⟩
    exact Route.plain.namesApart (every route (by simp))

-----------------------------------------------------------------------------------------
-- Every table
-----------------------------------------------------------------------------------------

/-- The router answers what its table says, to every method and path, exactly where the row that
answers has parameters with names of their own.
-/
theorem matchRoute_expected {table : List (Route Handler)} {router : List (CompiledRoute Handler)}
    (accepted : newRouter table = some router)
    (keeps : ∀ route ∈ table, route.KeepsToSegments) (method path : JsString)
    : Expected table method path (matchRoute router method path)
      ↔ ∀ route, Answers table method path route → route.NamesApart :=
  expected_iff_of_compiled
    (forall₂_compiled accepted (fun route member _ _ => keeps route member) path)

end

/-- A route that answers with nothing but its parameters. -/
def bareRoute (method pathTemplate : JsString) (paramPatterns : ParamPatterns) : Route Unit :=
  {
    method
    pathTemplate
    paramPatterns
    jsonBody := false
    auth := none
    handler := ()
  }

/-- Accounts by their address, and by any name. -/
def sampleTable : List (Route Unit) :=
  [
    bareRoute (js "GET") (js "/accounts/{account}/trustlines")
      (some [(js "account", .ofSource (js "G[A-Z2-7]{55}"))]),
    bareRoute (js "PUT") (js "/accounts/{name}/{line}") none
  ]

theorem matchRoute_expected_sample
    : ∃ router, newRouter sampleTable = some router
      ∧ Expected sampleTable (js "PUT") (js "/accounts/alice/usd/")
        (matchRoute router (js "PUT") (js "/accounts/alice/usd/")) := by
  obtain ⟨router, accepted⟩ : ∃ router, newRouter sampleTable = some router :=
    Option.isSome_iff_exists.mp (by decide +kernel)
  have plain : sampleTable.all Route.plain = true := by decide +kernel
  have compiled : ∀ route ∈ sampleTable, route.compile?.isSome = true := by decide +kernel
  have every := List.all_eq_true.mp plain
  refine ⟨router, accepted, (matchRoute_expected accepted ?_ _ _).mpr ?_⟩
  · intro route member
    obtain ⟨result, here⟩ := Option.isSome_iff_exists.mp (compiled route member)
    exact Route.plain.keepsToSegments (every route member) here
  · rintro route ⟨before, after, whole, -⟩
    exact Route.plain.namesApart (every route (by rw [whole]; simp))

/-- A pattern that admits any unit in its middle. -/
def dottedTable : List (Route Unit) :=
  [bareRoute (js "GET") (js "/t/{id}") (some [(js "id", .ofSource (js "a.b"))])]

/-- The router takes the pattern, and it matches across a slash. -/
theorem dot_spans_segments
    : ¬ ∀ (table : List (Route Unit)) (router : List (CompiledRoute Unit)),
        newRouter table = some router →
        ∀ method path, Expected table method path (matchRoute router method path) := by
  intro exact_everywhere
  obtain ⟨router, accepted⟩ : ∃ router, newRouter dottedTable = some router :=
    Option.isSome_iff_exists.mp (by decide +kernel)
  have answered : (newRouter dottedTable).map
        (fun router => matchRoute router (js "GET") (js "/t/a/b"))
      = some (.ok () false .none [(js "id", some (js "a/b"))]) := by decide +kernel
  rw [accepted, Option.map_some, Option.some.injEq] at answered
  have expected := exact_everywhere dottedTable router accepted (js "GET") (js "/t/a/b")
  rw [answered] at expected
  obtain ⟨before, route, after, table, -, -, ⟨template, values, read, fits, params⟩, -⟩ := expected
  have only : route ∈ dottedTable := by
    rw [table]
    simp
  cases List.mem_singleton.mp only
  have parsed : Template.read (js "/t/{id}")
      = some { params := [(js "/t/", js "id")], last := [] } := by decide +kernel
  cases parsed.symm.trans read
  obtain ⟨value, rest, later, -, valued, -, rfl⟩ := fits
  have same : value = js "a/b" := by
    simp [Template.paramNames] at params
    exact params.symm
  exact valued.within (by rw [same]; decide)

end StellarOnramp.GatewayHttp.Routes
