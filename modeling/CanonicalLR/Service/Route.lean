/-! # Routes

A path leads to one of the resources of the service, or to a file. Every resource takes the methods
that it allows. A path that leads nowhere, but does with every run of slashes made single, has moved to
the latter. No resource is open to sockets.
-/
namespace CanonicalLR

inductive Route where
  | health
  | buildTable
  | validate
  | file
deriving DecidableEq

namespace Route

def filePlace : List Char := "/static/".toList

/-- A file name begins with no slash, and only its first character can be a line feed. -/
def isFileName : List Char → Bool
  | [] => false
  | c :: rest => c != '/' && !rest.contains '\n'

def ofPath? (path : List Char) : Option Route :=
  if path = "/health".toList then some health
  else if path = "/build-parse-table".toList then some buildTable
  else if path = "/validate-string".toList then some validate
  else if filePlace.isPrefixOf path && isFileName (path.drop filePlace.length) then some file
  else none

/-- Methods are written in capital letters here. -/
def methods : Route → List String
  | health => ["GET", "HEAD", "OPTIONS"]
  | buildTable => ["POST", "OPTIONS"]
  | validate => ["POST", "OPTIONS"]
  | file => ["GET", "HEAD", "OPTIONS"]

def allows (route : Route) (method : String) : Bool := route.methods.contains method

end Route

inductive Destination where
  | found (route : Route)
  | moved
  | refused
  | noSocket
  | unknown
deriving DecidableEq

namespace Destination

/-- Of the slashes that stand together one is left. -/
def mergeSlashes : List Char → List Char
  | [] => []
  | c :: rest =>
    if c = '/' && rest.head? = some '/' then mergeSlashes rest else c :: mergeSlashes rest

def ofPath (path : List Char) (method : String) (isSocket : Bool) : Destination :=
  match Route.ofPath? path, Route.ofPath? (mergeSlashes path) with
  | some route, _ =>
    if !route.allows method then refused else if isSocket then noSocket else found route
  | none, some route =>
    if !route.allows method then refused else if isSocket then noSocket else moved
  | none, none => unknown

theorem mergeSlashes_of_single {path : List Char}
    (h : ∀ before behind, path ≠ before ++ '/' :: '/' :: behind) : mergeSlashes path = path := by
  induction path with
  | nil => rfl
  | cons c rest ih =>
    have hrest := ih fun before behind hpath => h (c :: before) behind (by rw [hpath]; rfl)
    unfold mergeSlashes
    split
    · next hc =>
      simp only [Bool.and_eq_true, decide_eq_true_eq] at hc
      obtain ⟨rfl, hhead⟩ := hc
      cases rest with
      | nil => cases hhead
      | cons d rest =>
        cases hhead
        exact absurd rfl (h [] rest)
    · rw [hrest]

end Destination

end CanonicalLR
