import LlmopsPlatform.Api.Routes
import LlmopsPlatform.Foundations.OrderedDict
import LlmopsPlatform.Python.Json

/-!
# The endpoint labels of the request metrics

`PrometheusMiddleware` labels a request by its path, in which a segment is replaced by a
placeholder when it looks like an identifier: when it has 36 characters and four of them
are dashes, or when it has only digits.

So two requests to one route have one label when every parameter has the same value in
both, or has values that are replaced (`normalizePath_url_eq_iff`). Other values are kept,
and a trace id without dashes or the name of a prompt is such a value. Requests whose
values agree in this way have no more labels than there are routes (`labels_agree_iff`), and
values that are kept have a label each (`card_endpoints_of_kept`).
-/

set_option autoImplicit false

namespace LlmopsPlatform.Middleware

open Foundations Python Api

/-! ## Normalised paths -/

section Normalize

variable (isDigit : Char → Bool)

/-- `part.isdigit()` -/
def isdigit (part : String) : Bool := part ≠ "" && part.toList.all isDigit

/-- What is left of a part of a path: a placeholder for a UUID, which is recognised by its
length and its dashes, and for a number. -/
def normalizePart (part : String) : String :=
  if part.toList.length = 36 ∧ part.toList.count '-' = 4 then "\x7bid\x7d"
  else if isdigit isDigit part then "\x7bid\x7d"
  else part

/-- `_normalize_path(path)` -/
def normalizePath (path : String) : String :=
  let parts := split '/' (String.ofList (strip ['/'] path.toList))
  "/" ++ "/".intercalate (parts.map (normalizePart isDigit))

/-- A part that is replaced. -/
def isIdentifier (part : String) : Bool :=
  (part.toList.length = 36 ∧ part.toList.count '-' = 4) || isdigit isDigit part

def placeholder : Segment := ⟨"\x7bid\x7d", by decide⟩

/-- What is left of a segment. -/
def normalizeSegment : Segment → Segment :=
  collapse (fun segment => isIdentifier isDigit segment.text) placeholder

/-- The values of every parameter of a route are the same, or both are replaced by the
placeholder, or are the placeholder already. -/
def AgreeingValues (route : Route) (first second : String → Segment) : Prop :=
  ∀ name ∈ Piece.parameters route.path, first name = second name ∨
    Collapses (fun segment => isIdentifier isDigit segment.text) placeholder (first name) ∧
      Collapses (fun segment => isIdentifier isDigit segment.text) placeholder (second name)

variable {isDigit}

theorem text_normalizeSegment (segment : Segment) :
    (normalizeSegment isDigit segment).text = normalizePart isDigit segment.text := by
  rw [normalizeSegment, collapse, normalizePart, isIdentifier]
  by_cases dashed : segment.text.toList.length = 36 ∧ segment.text.toList.count '-' = 4
  · simp [dashed, placeholder]
  · by_cases digits : isdigit isDigit segment.text = true
    · simp [digits, placeholder]
    · simp [dashed, digits]

/-- A path is normalised segment by segment. -/
theorem normalizePath_pathOf {segments : List Segment} (nonempty : segments ≠ []) :
    normalizePath isDigit (pathOf segments) =
      pathOf (segments.map (normalizeSegment isDigit)) := by
  have texts : (segments.map Segment.text).map (normalizePart isDigit) =
      (segments.map (normalizeSegment isDigit)).map Segment.text := by
    rw [List.map_map, List.map_map]
    exact List.map_congr_left fun segment _ => (text_normalizeSegment segment).symm
  rw [normalizePath, split_strip_pathOf nonempty, texts, pathOf]

example : normalizePath Char.isDigit "/v1/prompts/123" = "/v1/prompts/\x7bid\x7d" := by
  decide +kernel

/-- **Two requests to one route have one label** just when their values agree. -/
theorem normalizePath_url_eq_iff {route : Route} (nonempty : route.path ≠ [])
    (first second : String → Segment) :
    normalizePath isDigit (route.url first) = normalizePath isDigit (route.url second) ↔
      AgreeingValues isDigit route first second := by
  have filled : ∀ values, Piece.fillAll values route.path ≠ [] :=
    fun values => mt List.map_eq_nil_iff.mp nonempty
  rw [Route.url, Route.url, normalizePath_pathOf (filled first),
    normalizePath_pathOf (filled second), pathOf_inj (mt List.map_eq_nil_iff.mp (filled first))
      (mt List.map_eq_nil_iff.mp (filled second)), Piece.map_fillAll_eq_iff]
  exact forall₂_congr fun name _ => collapse_eq_iff

end Normalize

/-! ## The middleware -/

structure HttpRequest where
  method : String
  path : String

structure HttpResponse where
  status_code : ℕ

/-- The labels of `REQUEST_COUNT`. -/
structure CountLabels where
  method : String
  endpoint : String
  status_code : String
deriving DecidableEq

/-- The labels of `REQUEST_LATENCY`. -/
structure LatencyLabels where
  method : String
  endpoint : String
deriving DecidableEq

/-- The count and the observed durations for each list of labels. -/
structure RequestMetrics where
  request_count : OrderedDict CountLabels ℕ
  request_latency : OrderedDict LatencyLabels (List ℚ)

namespace RequestMetrics

def empty : RequestMetrics := ⟨.empty, .empty⟩

/-- The values of the label `endpoint`. -/
def endpoints (metrics : RequestMetrics) : Finset String :=
  (metrics.request_count.keys.map CountLabels.endpoint).toFinset ∪
    (metrics.request_latency.keys.map LatencyLabels.endpoint).toFinset

end RequestMetrics

section Dispatch

variable (isDigit : Char → Bool)

/-- `PrometheusMiddleware.dispatch`, where `call_next` takes a duration. -/
def dispatch (request : HttpRequest) (call_next : HttpRequest → Except PyException HttpResponse)
    (duration : ℚ) (metrics : RequestMetrics) :
    Except PyException HttpResponse × RequestMetrics :=
  if request.path = "/metrics" then (call_next request, metrics)
  else
    let method := request.method
    let path := normalizePath isDigit request.path
    match call_next request with
    | .error raised => (.error raised, metrics)
    | .ok response =>
        let status := toString response.status_code
        (.ok response, {
          request_count := metrics.request_count.upsert
            { method := method, endpoint := path, status_code := status }
            fun count => count.getD 0 + 1
          request_latency := metrics.request_latency.upsert
            { method := method, endpoint := path }
            fun durations => durations.getD [] ++ [duration]
        })

/-- **A request adds its own label**, if it is answered, and no other. -/
theorem mem_endpoints_dispatch {request : HttpRequest}
    {call_next : HttpRequest → Except PyException HttpResponse} {duration : ℚ}
    {metrics : RequestMetrics} {found : String} :
    found ∈ (dispatch isDigit request call_next duration metrics).2.endpoints ↔
      found ∈ metrics.endpoints ∨
        (request.path ≠ "/metrics" ∧ ∃ response, call_next request = .ok response) ∧
          normalizePath isDigit request.path = found := by
  rw [dispatch]
  split
  case isTrue own =>
    exact (or_iff_left fun recorded => recorded.1.1 own).symm
  case isFalse other =>
    cases answer : call_next request with
    | error raised => simp
    | ok response =>
        have recorded : request.path ≠ "/metrics" ∧
            ∃ found, (Except.ok response : Except PyException HttpResponse) = .ok found :=
          ⟨other, response, rfl⟩
        rw [and_iff_right recorded]
        simp only [RequestMetrics.endpoints, Finset.mem_union, List.mem_toFinset, List.mem_map,
          OrderedDict.mem_keys_upsert]
        constructor
        · rintro (⟨labels, rfl | old, rfl⟩ | ⟨labels, rfl | old, rfl⟩)
          · exact .inr rfl
          · exact .inl (.inl ⟨labels, old, rfl⟩)
          · exact .inr rfl
          · exact .inl (.inr ⟨labels, old, rfl⟩)
        · rintro ((⟨labels, old, rfl⟩ | ⟨labels, old, rfl⟩) | rfl)
          · exact .inl ⟨labels, .inr old, rfl⟩
          · exact .inr ⟨labels, .inr old, rfl⟩
          · exact .inl ⟨_, .inl rfl, rfl⟩

/-! ## Runs -/

/-- A request to a route, with what the application makes of it. -/
structure Visit where
  route : Route
  values : String → Segment
  call_next : HttpRequest → Except PyException HttpResponse
  duration : ℚ

namespace Visit

def request (visit : Visit) : HttpRequest where
  method := visit.route.method
  path := visit.route.url visit.values

def label (visit : Visit) : String := normalizePath isDigit visit.request.path

/-- The request is answered, and it is not one for the metrics themselves. -/
def IsRecorded (visit : Visit) : Prop :=
  visit.request.path ≠ "/metrics" ∧ ∃ response, visit.call_next visit.request = .ok response

end Visit

/-- The metrics after some visits, in the order in which they end. -/
def serve (visits : List Visit) (metrics : RequestMetrics) : RequestMetrics :=
  visits.foldl (fun metrics visit =>
    (dispatch isDigit visit.request visit.call_next visit.duration metrics).2) metrics

variable {isDigit} {visits : List Visit}

theorem mem_endpoints_serve {metrics : RequestMetrics} {found : String} :
    found ∈ (serve isDigit visits metrics).endpoints ↔
      found ∈ metrics.endpoints ∨
        ∃ visit ∈ visits, visit.IsRecorded ∧ visit.label isDigit = found := by
  induction visits generalizing metrics with
  | nil => simp [serve]
  | cons visit rest ih =>
      rw [serve, List.foldl_cons, ← serve, ih, mem_endpoints_dispatch, or_assoc,
        List.exists_mem_cons_iff]
      rfl

/-- **The labels of a run** are those of the visits that are recorded. -/
theorem mem_endpoints_run {found : String} :
    found ∈ (serve isDigit visits .empty).endpoints ↔
      ∃ visit ∈ visits, visit.IsRecorded ∧ visit.label isDigit = found :=
  mem_endpoints_serve.trans (or_iff_right (Finset.notMem_empty found))

/-- Two visits to one route have one label just when their values agree. -/
theorem label_eq_iff {route : Route} (isRoute : route ∈ routes) {first second : Visit}
    (firstRoute : first.route = route) (secondRoute : second.route = route) :
    first.label isDigit = second.label isDigit ↔
      AgreeingValues isDigit route first.values second.values := by
  subst secondRoute
  rw [Visit.label, Visit.label, Visit.request, Visit.request, firstRoute]
  exact normalizePath_url_eq_iff (path_ne_nil_of_mem_routes _ isRoute) _ _

/-- **Agreeing values have few labels**: no more than there are routes. -/
theorem card_endpoints_le (onRoutes : ∀ visit ∈ visits, visit.route ∈ routes)
    (agreeing : ∀ first ∈ visits, ∀ second ∈ visits, first.route = second.route →
      AgreeingValues isDigit first.route first.values second.values) :
    (serve isDigit visits .empty).endpoints.card ≤ routes.length := by
  have fromVisits : (serve isDigit visits .empty).endpoints ⊆
      (visits.map (Visit.label isDigit)).toFinset := by
    intro found isEndpoint
    obtain ⟨visit, isVisit, -, isLabel⟩ := mem_endpoints_run.mp isEndpoint
    exact List.mem_toFinset.mpr (List.mem_map.mpr ⟨visit, isVisit, isLabel⟩)
  have fewRoutes : (visits.map Visit.route).toFinset ⊆ routes.toFinset := by
    intro route isVisited
    obtain ⟨visit, isVisit, rfl⟩ := List.mem_map.mp (List.mem_toFinset.mp isVisited)
    exact List.mem_toFinset.mpr (onRoutes visit isVisit)
  calc (serve isDigit visits .empty).endpoints.card
      ≤ (visits.map (Visit.label isDigit)).toFinset.card := Finset.card_le_card fromVisits
    _ ≤ (visits.map Visit.route).toFinset.card :=
        card_labels_le fun first isFirst second isSecond sameRoute =>
          (label_eq_iff (onRoutes first isFirst) rfl sameRoute.symm).mpr
            (agreeing first isFirst second isSecond sameRoute)
    _ ≤ routes.toFinset.card := Finset.card_le_card fewRoutes
    _ ≤ routes.length := List.toFinset_card_le routes

/-- **Values that are kept have a label each.** When no value of a parameter is replaced, the
visits to a route have as many labels as they have values. -/
theorem card_endpoints_of_kept {route : Route} (isRoute : route ∈ routes) {name : String}
    (isParameter : name ∈ Piece.parameters route.path)
    (recorded : ∀ visit ∈ visits, visit.IsRecorded ∧ visit.route = route)
    (kept : ∀ visit ∈ visits, ¬Collapses (fun segment => isIdentifier isDigit segment.text)
      placeholder (visit.values name))
    (distinct : (visits.map fun visit => visit.values name).Nodup) :
    (serve isDigit visits .empty).endpoints.card = visits.length := by
  have labels : (serve isDigit visits .empty).endpoints =
      (visits.map (Visit.label isDigit)).toFinset := by
    ext found
    rw [mem_endpoints_run, List.mem_toFinset, List.mem_map]
    exact exists_congr fun visit =>
      and_congr_right fun isVisit => and_iff_right (recorded visit isVisit).1
  have labelsDistinct : (visits.map (Visit.label isDigit)).Nodup := by
    rw [List.Nodup, List.pairwise_map] at distinct ⊢
    refine distinct.imp_of_mem ?_
    intro first second isFirst isSecond differ sameLabel
    have agree := (label_eq_iff isRoute (recorded first isFirst).2 (recorded second isSecond).2).mp
      sameLabel name isParameter
    rcases agree with same | ⟨firstReplaced, -⟩
    · exact differ same
    · exact kept first isFirst firstReplaced
  rw [labels, List.toFinset_card_of_nodup labelsDistinct, List.length_map]

end Dispatch

/-! ## Labels and identifiers -/

/-- **When labels do not depend on identifiers.** Two requests to a route have one label
just when their values agree, and in a run of requests whose values agree there are no more
labels than routes. -/
theorem labels_agree_iff (isDigit : Char → Bool) :
    (∀ route ∈ routes, ∀ first second : String → Segment,
      normalizePath isDigit (route.url first) = normalizePath isDigit (route.url second) ↔
        AgreeingValues isDigit route first second) ∧
      ∀ visits : List Visit, (∀ visit ∈ visits, visit.route ∈ routes) →
        (∀ first ∈ visits, ∀ second ∈ visits, first.route = second.route →
          AgreeingValues isDigit first.route first.values second.values) →
        (serve isDigit visits .empty).endpoints.card ≤ routes.length :=
  ⟨fun route isRoute => normalizePath_url_eq_iff (path_ne_nil_of_mem_routes route isRoute),
    fun _ => card_endpoints_le⟩

/-- The route of `get_pipeline`. -/
def pipelineRoute : Route where
  method := "GET"
  path := scoring.base ++ [pipelines, .parameter "pipeline_id"]

def pipelineVisit (pipeline_id : Segment) : Visit where
  route := pipelineRoute
  values := fun _ => pipeline_id
  call_next := fun _ => .ok ⟨200⟩
  duration := 1 / 8

/-- Two pipelines with UUIDs have one label. -/
theorem pipeline_ids_agree :
    let first : Segment := ⟨"550e8400-e29b-41d4-a716-446655440000", by decide⟩
    let second : Segment := ⟨"6ba7b810-9dad-11d1-80b4-00c04fd430c8", by decide⟩
    normalizePath Char.isDigit (pipelineRoute.url fun _ => first) =
        normalizePath Char.isDigit (pipelineRoute.url fun _ => second) ∧
      (serve Char.isDigit ([first, second].map pipelineVisit) .empty).endpoints.card ≤
        routes.length := by
  intro first second
  have replaced : ∀ segment ∈ [first, second],
      Collapses (fun segment => isIdentifier Char.isDigit segment.text) placeholder segment := by
    decide
  constructor
  · exact ((labels_agree_iff Char.isDigit).1 pipelineRoute (by decide) _ _).mpr fun _ _ =>
      .inr ⟨replaced first (by simp), replaced second (by simp)⟩
  · refine (labels_agree_iff Char.isDigit).2 _ ?_ ?_
    · intro visit isVisit
      obtain ⟨segment, -, rfl⟩ := List.mem_map.mp isVisit
      have isRoute : pipelineRoute ∈ routes := by decide
      exact isRoute
    · intro visit isVisit other isOther _ _ _
      obtain ⟨segment, isSegment, rfl⟩ := List.mem_map.mp isVisit
      obtain ⟨otherSegment, isOtherSegment, rfl⟩ := List.mem_map.mp isOther
      exact .inr ⟨replaced segment isSegment, replaced otherSegment isOtherSegment⟩

/-- The route of `get_results`. -/
def resultsRoute : Route where
  method := "GET"
  path := scoring.base ++ [results, .parameter "trace_id"]

/-- Two trace ids of 32 hexadecimal digits are kept in the labels. -/
theorem trace_ids_are_kept :
    resultsRoute ∈ routes ∧
      normalizePath Char.isDigit
          (resultsRoute.url fun _ => ⟨"0af7651916cd43dd8448eb211c80319c", by decide⟩) ≠
        normalizePath Char.isDigit
          (resultsRoute.url fun _ => ⟨"4bf92f3577b34da6a3ce929d0e0e4736", by decide⟩) := by
  refine ⟨by decide, fun sameLabel => ?_⟩
  have agree := (normalizePath_url_eq_iff (by decide) _ _).mp sameLabel "trace_id" (by decide)
  rcases agree with same | ⟨replaced, -⟩
  · exact absurd same (by decide)
  · exact absurd replaced (by decide)

end LlmopsPlatform.Middleware
