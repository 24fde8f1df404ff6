import StellarOnramp.Library.SlashPaths
import StellarOnramp.Library.JsText

/-! The files that the public server hands out. A path is resolved against the web root after its
escapes are undone, so it may hold anything; what it may not do is lead out of the root.
-/

namespace StellarOnramp.Onboard

open JsText Octets SlashPaths

-----------------------------------------------------------------------------------------
-- Answers
-----------------------------------------------------------------------------------------

/-- The web root: names from the top. -/
structure WebRoot where
  names : List JsString
  filled : names ≠ []
  named : ∀ name ∈ names, IsName 47 46 name

def WebRoot.path (root : WebRoot) : JsString := spell 47 root.names

/-- The file system; `none` where a call throws. -/
structure Files where
  /-- `statSync(path).isFile()` -/
  isFile : JsString → Option Bool
  readFileSync : JsString → Option Bytes

structure WebAnswer where
  status : Nat
  headers : List (JsString × JsString)
  body : Bytes
  deriving DecidableEq

def respondText (status : Nat) (text : JsString) : WebAnswer :=
  {
    status
    headers :=
      [
        (js "content-type", js "text/plain; charset=utf-8"),
        (js "content-length", numberText (utf8ToBytes text).length)
      ]
    body := utf8ToBytes text
  }

def respondFile (contentType : JsString) (body : Bytes) : WebAnswer :=
  {
    status := 200
    headers :=
      [
        (js "content-type", contentType),
        (js "content-length", numberText body.length),
        (js "cache-control", js "no-cache")
      ]
    body
  }

def serveFile (files : Files) (path contentType : JsString) : WebAnswer :=
  match files.readFileSync path with
  | none => respondText 404 (js "not found")
  | some body => respondFile contentType body

def webMime : List (JsString × JsString) :=
  [
    (js ".html", js "text/html; charset=utf-8"),
    (js ".css", js "text/css; charset=utf-8"),
    (js ".js", js "text/javascript; charset=utf-8"),
    (js ".svg", js "image/svg+xml"),
    (js ".png", js "image/png"),
    (js ".ico", js "image/x-icon"),
    (js ".txt", js "text/plain; charset=utf-8")
  ]

/-- From the last dot of the last name on, unless the name starts with it. -/
def extname (path : JsString) : JsString :=
  let base := (path.splitOn 47).getLastD []
  let inner := base.drop 1
  if inner.contains 46 ∧ base ≠ js ".." then
    46 :: (inner.reverse.takeWhile (· != 46)).reverse
  else
    []

/-- The file at a resolved path. -/
def respondPath (toLowerCase : JsString → JsString) (files : Files) (resolvedPath : JsString)
    : WebAnswer :=
  if files.isFile resolvedPath = some true then
    serveFile files resolvedPath
      ((webMime.lookup (toLowerCase (extname resolvedPath))).getD (js "application/octet-stream"))
  else
    respondText 404 (js "not found")

def relativePath (pathname : JsString) : JsString :=
  if pathname = js "/" ∨ pathname = [] then js "index.html"
  else if pathname = js "/portal" ∨ pathname = js "/portal/" then js "portal.html"
  else if pathname = js "/deck" ∨ pathname = js "/deck/" then js "deck.html"
  else pathname.dropWhile (· == 47)

def serveStatic (toLowerCase : JsString → JsString) (root : WebRoot) (files : Files)
    (pathname : JsString)
    : WebAnswer :=
  let relative := relativePath pathname
  if relative.contains 0 then
    respondText 404 (js "not found")
  else
    let resolvedPath := resolve 47 46 root.path relative
    if resolvedPath ≠ root.path ∧ ¬(root.path ++ [47]).isPrefixOf resolvedPath then
      respondText 404 (js "not found")
    else
      respondPath toLowerCase files resolvedPath

-----------------------------------------------------------------------------------------
-- The public server
-----------------------------------------------------------------------------------------

/-- Health and the portal's interface answer from elsewhere. -/
inductive PublicAnswer where
  | health
  | portalApi
  | answered (answer : WebAnswer)
  deriving DecidableEq

def vendorPath : JsString := js "/vendor/stellar-sdk.min.js"

/-- `pathname` has its escapes undone. -/
def handleRequest (toLowerCase : JsString → JsString) (root : WebRoot) (bundlePath : JsString)
    (files : Files) (method pathname : JsString)
    : PublicAnswer :=
  if pathname = js "/healthz" then .health
  else if pathname = vendorPath then
    if method ≠ js "GET" ∧ method ≠ js "HEAD" then
      .answered (respondText 405 (js "method not allowed"))
    else
      .answered (serveFile files bundlePath (js "text/javascript; charset=utf-8"))
  else if pathname = js "/api" ∨ (js "/api/").isPrefixOf pathname then .portalApi
  else if method ≠ js "GET" ∧ method ≠ js "HEAD" then
    .answered (respondText 405 (js "method not allowed"))
  else
    .answered (serveStatic toLowerCase root files pathname)

-----------------------------------------------------------------------------------------
-- Below the root
-----------------------------------------------------------------------------------------

theorem head_dropWhile_slash (text : JsString)
    : (text.dropWhile (· == 47)).head? ≠ some 47 := by
  intro starts
  have other := List.head?_dropWhile_not (· == 47) text
  rw [starts] at other
  simp at other

theorem relativePath_relative (pathname : JsString)
    : (relativePath pathname).head? ≠ some 47 := by
  unfold relativePath
  split_ifs
  · decide
  · decide
  · decide
  · exact head_dropWhile_slash pathname

/-- A path that is not refused leads to names below the root. -/
theorem exists_names_of_inside {root : WebRoot} {pathname : JsString}
    (inside
      : ¬(resolve 47 46 root.path (relativePath pathname) ≠ root.path
        ∧ ¬(root.path ++ [47]).isPrefixOf (resolve 47 46 root.path (relativePath pathname))))
    : ∃ names,
        (∀ name ∈ names, IsName 47 46 name)
        ∧ resolve 47 46 root.path (relativePath pathname) = spell 47 (root.names ++ names) := by
  by_cases whole : resolve 47 46 root.path (relativePath pathname) = root.path
  · exact ⟨[], fun name member => absurd member List.not_mem_nil,
      by rw [whole, List.append_nil, WebRoot.path]⟩
  · have begins := not_not.mp (not_and.mp inside whole)
    by_cases empty : relativePath pathname = []
    · rw [empty, WebRoot.path] at whole
      exact absurd (resolve_nil root.filled root.named) whole
    · have below := resolve_below root.filled root.named empty (relativePath_relative pathname)
      have leads := @isName_walk _ 47 46 _ root.names ((relativePath pathname).splitOn 47)
        root.named fun _ => not_mem_of_mem_splitOn
      rw [WebRoot.path] at begins ⊢
      rw [below] at begins ⊢
      obtain ⟨more, -, names⟩ :=
        (spell_prefix_iff root.filled (fun name member => (root.named name member).whole)
            fun name member => (leads name member).whole).mp
          (List.isPrefixOf_iff_prefix.mp begins)
      rw [names] at leads ⊢
      exact ⟨more, fun name member => leads name (List.mem_append_right _ member), rfl⟩

/-- A path leads to one place, at or below the root, or to no file at all. -/
theorem serveStatic_cases (toLowerCase : JsString → JsString) (root : WebRoot)
    (pathname : JsString)
    : (∀ files, serveStatic toLowerCase root files pathname = respondText 404 (js "not found"))
      ∨ ∃ names,
          (∀ name ∈ names, IsName 47 46 name)
          ∧ ∀ files,
              serveStatic toLowerCase root files pathname
                = respondPath toLowerCase files (spell 47 (root.names ++ names)) := by
  unfold serveStatic
  by_cases terminated : (relativePath pathname).contains 0 = true
  · exact .inl fun files => if_pos terminated
  · simp only [if_neg terminated]
    by_cases outside
        : resolve 47 46 root.path (relativePath pathname) ≠ root.path
          ∧ ¬(root.path ++ [47]).isPrefixOf (resolve 47 46 root.path (relativePath pathname))
    · exact .inl fun files => if_pos outside
    · refine .inr ?_
      simp only [if_neg outside]
      obtain ⟨more, named, resolved⟩ := exists_names_of_inside outside
      exact ⟨more, named, fun files => by rw [resolved]⟩

/-- Whatever a request asks for, the answer is the same whatever the files are, or that of one
file: the bundle, or a file at names below the web root.
-/
theorem handleRequest_below (toLowerCase : JsString → JsString) (root : WebRoot)
    (bundlePath method pathname : JsString)
    : (∃ answer,
        ∀ files, handleRequest toLowerCase root bundlePath files method pathname = answer)
      ∨ (pathname = vendorPath
        ∧ ∀ files,
            handleRequest toLowerCase root bundlePath files method pathname
              = .answered
                  (serveFile files bundlePath (js "text/javascript; charset=utf-8")))
      ∨ ∃ names,
          (∀ name ∈ names, IsName 47 46 name)
          ∧ ∀ files,
              handleRequest toLowerCase root bundlePath files method pathname
                = .answered
                    (respondPath toLowerCase files (spell 47 (root.names ++ names))) := by
  unfold handleRequest
  by_cases health : pathname = js "/healthz"
  · exact .inl ⟨.health, fun _ => if_pos health⟩
  · simp only [if_neg health]
    by_cases vendor : pathname = vendorPath
    · simp only [if_pos vendor]
      by_cases refused : method ≠ js "GET" ∧ method ≠ js "HEAD"
      · exact .inl ⟨_, fun _ => if_pos refused⟩
      · exact .inr (.inl ⟨vendor, fun _ => if_neg refused⟩)
    · simp only [if_neg vendor]
      by_cases api : pathname = js "/api" ∨ (js "/api/").isPrefixOf pathname = true
      · exact .inl ⟨.portalApi, fun _ => if_pos api⟩
      · simp only [if_neg api]
        by_cases refused : method ≠ js "GET" ∧ method ≠ js "HEAD"
        · exact .inl ⟨_, fun _ => if_pos refused⟩
        · simp only [if_neg refused]
          rcases serveStatic_cases toLowerCase root pathname with missing | ⟨names, named, found⟩
          · exact .inl ⟨_, fun files => congrArg PublicAnswer.answered (missing files)⟩
          · exact .inr
              (.inr ⟨names, named, fun files => congrArg PublicAnswer.answered (found files)⟩)

-----------------------------------------------------------------------------------------
-- All of what is below the root
-----------------------------------------------------------------------------------------

/-- The paths that stand for something else than the file of that name. -/
def ownPaths : List JsString := [js "/healthz", vendorPath, js "/portal", js "/deck"]

section

variable {names : List JsString} (filled : names ≠ []) (named : ∀ name ∈ names, IsName 47 46 name)

include filled named

/-- No path of names ends with a slash. -/
theorem spell_ne_of_closed {closed : JsString} (ends : [] ∈ (closed.splitOn 47).tail)
    : spell 47 names ≠ closed := by
  rintro rfl
  rw [splitOn_spell filled fun name member => (named name member).whole, List.tail_cons] at ends
  exact (named [] ends).filled rfl

theorem intercalate_relative
    : [47].intercalate names ≠ [] ∧ ([47].intercalate names).head? ≠ some 47 := by
  obtain ⟨first, rest, rfl⟩ := List.exists_cons_of_ne_nil filled
  have own := named first List.mem_cons_self
  obtain ⟨letter, later, rfl⟩ := List.exists_cons_of_ne_nil own.filled
  have begins : ([47].intercalate ((letter :: later) :: rest)).head? = some letter := by
    cases rest with
    | nil => rw [List.intercalate_singleton, List.head?_cons]
    | cons second rest => rw [List.intercalate_cons_cons, List.cons_append]; rfl
  refine ⟨?_, ?_⟩
  · intro empty
    rw [empty] at begins
    cases begins
  · rw [begins]
    intro same
    exact own.whole (Option.some.inj same ▸ List.mem_cons_self)

theorem relativePath_spell (other : spell 47 names ∉ ownPaths)
    : relativePath (spell 47 names) = [47].intercalate names := by
  have kept {own : JsString} (listed : own ∈ ownPaths) : spell 47 names ≠ own :=
    fun same => other (same ▸ listed)
  have closed {ends : JsString} := @spell_ne_of_closed _ filled named ends
  have relative := (intercalate_relative filled named).2
  have started : spell 47 names ≠ [] := List.cons_ne_nil _ _
  rw [relativePath, if_neg (not_or.mpr ⟨closed (by decide), started⟩),
    if_neg (not_or.mpr ⟨kept (by decide), closed (by decide)⟩),
    if_neg (not_or.mpr ⟨kept (by decide), closed (by decide)⟩), spell,
    List.dropWhile_cons_of_pos rfl]
  cases joined : [47].intercalate names with
  | nil => rfl
  | cons letter later =>
      rw [joined] at relative
      exact List.dropWhile_cons_of_neg fun same => relative (congrArg some (beq_iff_eq.mp same))

end

theorem mem_intercalate {slash letter : UInt16} {names : List JsString}
    (member : letter ∈ [slash].intercalate names)
    : letter = slash ∨ ∃ name ∈ names, letter ∈ name := by
  induction names with
  | nil => cases member
  | cons first rest ih =>
      by_cases last : rest = []
      · rw [last, List.intercalate_singleton] at member
        exact .inr ⟨first, List.mem_cons_self, member⟩
      · rw [List.intercalate_cons_of_ne_nil last, List.append_assoc] at member
        rcases List.mem_append.mp member with here | later
        · exact .inr ⟨first, List.mem_cons_self, here⟩
        · rcases List.mem_cons.mp later with same | later
          · exact .inl same
          · exact (ih later).imp_right fun ⟨name, listed, inside⟩ =>
              ⟨name, List.mem_cons_of_mem _ listed, inside⟩

theorem not_api {names : List JsString} (filled : names ≠ [])
    (named : ∀ name ∈ names, IsName 47 46 name) (api : names.head? ≠ some (js "api"))
    : ¬(spell 47 names = js "/api" ∨ (js "/api/").isPrefixOf (spell 47 names) = true) := by
  have plain : ∀ name ∈ names, 47 ∉ name := fun name member => (named name member).whole
  rintro (same | begins)
  · have split := congrArg (List.splitOn 47) same
    have alone : (js "/api").splitOn 47 = [[], js "api"] := by decide
    rw [splitOn_spell filled plain, alone] at split
    exact api (congrArg List.head? (List.cons.inj split).2)
  · have below : spell 47 [js "api"] ++ [47] <+: spell 47 names :=
      List.isPrefixOf_iff_prefix.mp begins
    obtain ⟨more, -, rfl⟩ :=
      (spell_prefix_iff (List.cons_ne_nil _ _) (by decide) plain).mp below
    exact api rfl

/-- Every file below the root is handed out under its names, but for the paths that the server
answers itself.
-/
theorem handleRequest_reaches (toLowerCase : JsString → JsString) (root : WebRoot)
    (bundlePath : JsString) (files : Files) {method : JsString} {names : List JsString}
    (reads : method = js "GET" ∨ method = js "HEAD") (filled : names ≠ [])
    (named : ∀ name ∈ names, IsName 47 46 name) (terminated : ∀ name ∈ names, 0 ∉ name)
    (other : spell 47 names ∉ ownPaths) (api : names.head? ≠ some (js "api"))
    : handleRequest toLowerCase root bundlePath files method (spell 47 names)
      = .answered (respondPath toLowerCase files (spell 47 (root.names ++ names))) := by
  have kept {own : JsString} (listed : own ∈ ownPaths) : spell 47 names ≠ own :=
    fun same => other (same ▸ listed)
  have plain : ∀ name ∈ names, 47 ∉ name := fun name member => (named name member).whole
  have allowed : ¬(method ≠ js "GET" ∧ method ≠ js "HEAD") := by
    rintro ⟨get, head⟩
    exact reads.elim get head
  have open_ended : ¬([47].intercalate names).contains 0 = true := by
    rw [List.contains_iff_mem]
    intro member
    rcases mem_intercalate member with slash | ⟨name, listed, inside⟩
    · cases slash
    · exact terminated name listed inside
  have resolved
      : resolve 47 46 root.path ([47].intercalate names) = spell 47 (root.names ++ names) := by
    obtain ⟨asked, relative⟩ := intercalate_relative filled named
    rw [WebRoot.path, resolve_below root.filled root.named asked relative,
      List.splitOn_intercalate 47 plain filled, walk_names named]
  have below : (root.path ++ [47]).isPrefixOf (spell 47 (root.names ++ names)) = true := by
    rw [List.isPrefixOf_iff_prefix, WebRoot.path, spell_append root.filled filled]
    exact (List.prefix_append_right_inj _).mpr (List.cons_prefix_cons.mpr ⟨rfl, List.nil_prefix⟩)
  rw [handleRequest, if_neg (kept (by decide)), if_neg (kept (by decide)),
    if_neg (not_api filled named api), if_neg allowed, serveStatic,
    relativePath_spell filled named other]
  simp only [if_neg open_ended, resolved, below, not_true_eq_false, and_false, ↓reduceIte]

def sampleRoot : WebRoot where
  names := [js "web"]
  filled := List.cons_ne_nil _ _
  named := List.forall_mem_singleton.mpr ⟨by decide, by decide, by decide, by decide⟩

/-- One script below the root and one file above it. -/
def sampleFiles : Files where
  isFile path := some (path = js "/web/portal.js" || path = js "/secret")
  readFileSync path :=
    if path = js "/web/portal.js" then some [59] else if path = js "/secret" then some [115]
    else none

theorem handleRequest_reaches_sample
    : handleRequest id sampleRoot [] sampleFiles (js "GET") (spell 47 [js "portal.js"])
      = .answered (respondPath id sampleFiles (js "/web/portal.js")) :=
  handleRequest_reaches id sampleRoot [] sampleFiles (.inl rfl) (List.cons_ne_nil _ _)
    (List.forall_mem_singleton.mpr ⟨by decide, by decide, by decide, by decide⟩)
    (List.forall_mem_singleton.mpr (by decide)) (by decide) (by decide)

example
    : handleRequest id sampleRoot [] sampleFiles (js "GET") (js "/../secret")
      = .answered (respondText 404 (js "not found")) := by
  decide

end StellarOnramp.Onboard
