import LlmopsPlatform.Foundations.Separators
import LlmopsPlatform.Foundations.Templates
import LlmopsPlatform.Python.Words

/-!
# The routes of the application

Each router has a path that its routes start with, and a route has a path with parameters
in it. The value of a parameter is one segment, so it is not empty and has no slash.

A path has the segments that it was made of, and no others (`split_strip_pathOf`), so two
lists of segments have one path only when they are equal (`pathOf_inj`).
-/

set_option autoImplicit false

namespace LlmopsPlatform.Api

open Foundations Python

/-- A text that can stand between two slashes of a path. -/
def IsSegment (text : String) : Prop := text ≠ "" ∧ '/' ∉ text.toList

instance (text : String) : Decidable (IsSegment text) :=
  inferInstanceAs (Decidable (text ≠ "" ∧ '/' ∉ text.toList))

/-- A segment of a path. -/
structure Segment where
  text : String
  isSegment : IsSegment text
deriving DecidableEq

theorem Segment.text_injective : Function.Injective Segment.text := by
  rintro ⟨first, _⟩ ⟨second, _⟩ same
  cases same
  rfl

/-- A method, and a path with parameters. -/
structure Route where
  method : String
  path : List (Piece Segment String)
deriving DecidableEq

/-! ## Routers -/

/-- `APIRouter(prefix=...)`, with the routes that the decorators add to it. -/
structure APIRouter where
  base : List (Piece Segment String)
  routes : List Route

/-- `app.include_router(router)` -/
def APIRouter.included (router : APIRouter) : List Route :=
  router.routes.map fun route => { route with path := router.base ++ route.path }

/-- A segment that is written in a path. -/
def literal (text : String) (isSegment : IsSegment text) : Piece Segment String :=
  .literal ⟨text, isSegment⟩

def v1 : Piece Segment String := literal "v1" (by decide)

def pipelines : Piece Segment String := literal "pipelines" (by decide)

def results : Piece Segment String := literal "results" (by decide)

def versions : Piece Segment String := literal "versions" (by decide)

def experiments : Piece Segment String := literal "experiments" (by decide)

def admin : APIRouter where
  base := []
  routes := [
    ⟨"GET", [literal "healthz" (by decide)]⟩,
    ⟨"GET", [literal "readyz" (by decide)]⟩,
    ⟨"GET", [v1, literal "usage" (by decide), literal "summary" (by decide)]⟩
  ]

def gateway : APIRouter where
  base := [v1]
  routes := [
    ⟨"POST", [literal "chat" (by decide), literal "completions" (by decide)]⟩
  ]

def scoring : APIRouter where
  base := [v1, literal "scoring" (by decide)]
  routes := [
    ⟨"GET", [literal "strategies" (by decide)]⟩,
    ⟨"POST", [pipelines]⟩,
    ⟨"GET", [pipelines]⟩,
    ⟨"GET", [pipelines, .parameter "pipeline_id"]⟩,
    ⟨"POST", [literal "evaluate" (by decide)]⟩,
    ⟨"GET", [results, .parameter "trace_id"]⟩
  ]

def prompts : APIRouter where
  base := [v1, literal "prompts" (by decide)]
  routes := [
    ⟨"POST", []⟩,
    ⟨"GET", []⟩,
    ⟨"GET", [.parameter "name"]⟩,
    ⟨"GET", [.parameter "name", versions]⟩,
    ⟨"POST", [.parameter "name", versions]⟩,
    ⟨"POST", [.parameter "name", literal "compile" (by decide)]⟩,
    ⟨"POST", [.parameter "name", literal "promote" (by decide)]⟩
  ]

def tuning : APIRouter where
  base := [v1, literal "tuning" (by decide)]
  routes := [
    ⟨"POST", [experiments]⟩,
    ⟨"GET", [experiments]⟩,
    ⟨"GET", [experiments, .parameter "experiment_id"]⟩,
    ⟨"POST", [experiments, .parameter "experiment_id", literal "start" (by decide)]⟩,
    ⟨"POST", [experiments, .parameter "experiment_id", literal "allocate" (by decide)]⟩,
    ⟨"POST", [experiments, .parameter "experiment_id", literal "trials" (by decide)]⟩,
    ⟨"GET", [experiments, .parameter "experiment_id", results]⟩,
    ⟨"POST", [experiments, .parameter "experiment_id", literal "conclude" (by decide)]⟩,
    ⟨"POST", [experiments, .parameter "experiment_id", literal "cancel" (by decide)]⟩
  ]

/-- The routes of the routers, in the order in which `create_app` includes them. -/
def routes : List Route :=
  admin.included ++ gateway.included ++ scoring.included ++ prompts.included ++ tuning.included

theorem path_ne_nil_of_mem_routes : ∀ route ∈ routes, route.path ≠ [] := by decide

/-! ## Paths -/

/-- The path of some segments. -/
def pathOf (segments : List Segment) : String :=
  "/" ++ "/".intercalate (segments.map Segment.text)

/-- The path of a request to a route, with values for its parameters. -/
def Route.url (route : Route) (values : String → Segment) : String :=
  pathOf (Piece.fillAll values route.path)

theorem toList_pathOf (segments : List Segment) :
    (pathOf segments).toList =
      '/' :: ['/'].intercalate (segments.map fun segment => segment.text.toList) := by
  rw [pathOf, String.toList_append, String.toList_intercalate, List.map_map]
  rfl

/-- **The segments of a path** are the parts between its slashes, without the slash that it
starts with. -/
theorem split_strip_pathOf {segments : List Segment} (nonempty : segments ≠ []) :
    split '/' (String.ofList (strip ['/'] (pathOf segments).toList)) =
      segments.map Segment.text := by
  have filled : ∀ part ∈ segments.map fun segment => segment.text.toList, part ≠ [] := by
    intro part member
    obtain ⟨segment, -, rfl⟩ := List.mem_map.mp member
    exact fun empty => segment.isSegment.1 (String.toList_eq_nil_iff.mp empty)
  have absent : ∀ part ∈ segments.map fun segment => segment.text.toList, '/' ∉ part := by
    intro part member
    obtain ⟨segment, -, rfl⟩ := List.mem_map.mp member
    exact segment.isSegment.2
  have unpadded := strip_of_ends fun char => separator_not_end filled absent
  rw [toList_pathOf, strip_cons_of_mem List.mem_cons_self, unpadded, split, String.toList_ofList,
    List.splitOn_intercalate _ absent (mt List.map_eq_nil_iff.mp nonempty), List.map_map]
  exact List.map_congr_left fun segment _ => String.ofList_toList

/-- **Paths of segments** are equal only when the segments are. -/
theorem pathOf_inj {first second : List Segment} (firstNonempty : first ≠ [])
    (secondNonempty : second ≠ []) : pathOf first = pathOf second ↔ first = second := by
  constructor
  · intro same
    have texts := split_strip_pathOf firstNonempty
    rw [same, split_strip_pathOf secondNonempty] at texts
    exact List.map_injective_iff.mpr Segment.text_injective texts.symm
  · rintro rfl
    rfl

end LlmopsPlatform.Api
