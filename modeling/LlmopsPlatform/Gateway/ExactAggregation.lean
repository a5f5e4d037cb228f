import LlmopsPlatform.Gateway.Langfuse

/-!
# Langfuse aggregation with exact arithmetic

`_aggregate` is a tally in two levels: each observation is added to the totals of its service,
and to those of its model within the service. Rounding aside, neither the pages in which the
observations arrive nor their order matter, except for the order of the services and models.

The counts of a service are the sums over its models, and those of all services the sums over
all observations. A summary of one service is the entry that this service has in the summary
of all (`aggregation_is_a_homomorphism`).
-/

set_option autoImplicit false

namespace LlmopsPlatform.Gateway

open Foundations Python Database

/-- `_query_langfuse` with exact arithmetic. -/
def LangfuseCostTracker.exactQuery : ObservationsApi → Option String → Option Timestamp →
    Option Timestamp → Except PyException UsageSummary := queryLangfuseWith id

/-! ## Well-formed observations -/

namespace Observation

/-- A service name in the metadata is a text. -/
def NamesText (obs : Observation) : Prop :=
  ∀ entries name, obs.metadata = some (.dict entries) →
    OrderedDict.find "service_name" entries = some name → ∃ text, name = .str text

/-- The service of an observation whose service name is a text. -/
def serviceText (obs : Observation) : String :=
  match obs.service with
  | .str text => text
  | _ => ""

theorem NamesText.service_eq {obs : Observation} (named : obs.NamesText) :
    obs.service = .str obs.serviceText := by
  have isText : ∃ text, obs.service = .str text := by
    unfold service
    split
    · rename_i entry rest isDict
      cases found : OrderedDict.find "service_name" (entry :: rest) with
      | none => exact ⟨"unknown", rfl⟩
      | some name => exact named _ name isDict found
    · exact ⟨"unknown", rfl⟩
  obtain ⟨text, same⟩ := isText
  rw [serviceText, same]

end Observation

/-- Whether a query counts an observation. -/
def isCounted (service_name : Option String) (obs : Observation) : Bool :=
  (service_name.filter (· ≠ "")).all fun wanted => obs.serviceText = wanted

/-! ## The tallies -/

/-- The totals of all services. -/
def servicesOf (float : ℚ → ℚ) (observations : List Observation) :
    OrderedDict DictKey ServiceUsage :=
  OrderedDict.tally (fun obs => .str obs.serviceText) (ServiceUsage.addWith float) .zero
    observations

/-- The totals of all models. -/
def modelsOf (float : ℚ → ℚ) (observations : List Observation) : OrderedDict String ModelUsage :=
  OrderedDict.tally Observation.model (ModelUsage.addWith float) .zero observations

theorem models_foldl (float : ℚ → ℚ) (observations : List Observation) :
    (observations.foldl (ServiceUsage.addWith float) .zero).models =
      modelsOf float observations :=
  (List.foldl_hom ServiceUsage.models fun _ _ => rfl).symm

namespace LangfuseCostTracker

variable {observations : List Observation} {wanted : String}

theorem addObservationWith_of_named (float : ℚ → ℚ) (service_name : Option String)
    (services : OrderedDict DictKey ServiceUsage) {obs : Observation} (named : obs.NamesText) :
    addObservationWith float service_name services obs =
      if isCounted service_name obs then
        .ok (services.upsert (.str obs.serviceText) fun old => (old.getD .zero).addWith float obs)
      else .ok services := by
  unfold addObservationWith isCounted
  rw [named.service_eq]
  cases service_name.filter (· ≠ "") with
  | none => rfl
  | some wanted =>
      by_cases same : obs.serviceText = wanted
      · simp [same, Json.equalsText, Json.hashKey, bind, Except.bind, pure, Except.pure]
      · simp [same, Json.equalsText]

/-- The loop is a tally of the observations that are counted. -/
theorem foldlM_addObservationWith (float : ℚ → ℚ) (service_name : Option String)
    (named : ∀ obs ∈ observations, obs.NamesText)
    (services : OrderedDict DictKey ServiceUsage) :
    observations.foldlM (addObservationWith float service_name) services =
      .ok (OrderedDict.accumulate (fun obs => DictKey.str obs.serviceText)
        (fun old obs => (old.getD .zero).addWith float obs)
        (observations.filter (isCounted service_name)) services) := by
  induction observations generalizing services with
  | nil => rfl
  | cons obs rest ih =>
      obtain ⟨here, others⟩ := List.forall_mem_cons.mp named
      rw [List.foldlM_cons, addObservationWith_of_named float service_name services here]
      by_cases counted : isCounted service_name obs
      · rw [if_pos counted, List.filter_cons_of_pos counted]
        exact ih others _
      · rw [if_neg counted, List.filter_cons_of_neg counted]
        exact ih others _

/-- Without a name, all services are summarised. -/
theorem aggregateWith_of_unfiltered (float : ℚ → ℚ)
    (named : ∀ obs ∈ observations, obs.NamesText) :
    aggregateWith float observations none =
      .ok (.services ((servicesOf float observations).entries.map fun entry =>
        entry.2.summaryWith float entry.1)) := by
  have all : observations.filter (isCounted none) = observations :=
    List.filter_eq_self.mpr fun _ _ => rfl
  unfold aggregateWith
  rw [foldlM_addObservationWith float none named, all]
  rfl

theorem isCounted_some (nonempty : wanted ≠ "") (obs : Observation) :
    isCounted (some wanted) obs = decide (obs.serviceText = wanted) := by
  simp [isCounted, nonempty]

/-- Skipping the other services leaves the total of a service as it is. -/
theorem get?_servicesOf_filter (float : ℚ → ℚ) (observations : List Observation)
    (nonempty : wanted ≠ "") :
    (servicesOf float (observations.filter (isCounted (some wanted)))).get? (.str wanted) =
      (servicesOf float observations).get? (.str wanted) := by
  have same : (observations.filter (isCounted (some wanted))).filter
      (fun obs => DictKey.str obs.serviceText = .str wanted) =
        observations.filter fun obs => DictKey.str obs.serviceText = .str wanted := by
    rw [List.filter_filter]
    refine List.filter_congr fun obs _ => ?_
    simp [isCounted_some nonempty]
  rw [servicesOf, servicesOf, OrderedDict.get?_tally, OrderedDict.get?_tally, same]

/-- With a name, one total is looked up. -/
theorem aggregateWith_of_filtered (float : ℚ → ℚ)
    (named : ∀ obs ∈ observations, obs.NamesText) (nonempty : wanted ≠ "") :
    aggregateWith float observations (some wanted) =
      .ok (.service (((servicesOf float observations).get? (.str wanted)).elim (.zero wanted)
        fun usage => usage.summaryWith float (.str wanted))) := by
  have isWanted : (some wanted).filter (· ≠ "") = some wanted := by
    simpa using nonempty
  have added : observations.foldlM (addObservationWith float (some wanted)) .empty =
      .ok (servicesOf float (observations.filter (isCounted (some wanted)))) :=
    foldlM_addObservationWith float (some wanted) named .empty
  unfold aggregateWith
  rw [added, isWanted, ← get?_servicesOf_filter float observations nonempty]
  dsimp only [bind, Except.bind]
  cases (servicesOf float (observations.filter (isCounted (some wanted)))).get?
    (.str wanted) <;> rfl

end LangfuseCostTracker

/-! ## Counts -/

/-- A whole number that is added up for services and for models. -/
inductive Count where
  | requests
  | inputTokens
  | outputTokens

namespace Count

def ofObservation : Count → Observation → Int
  | requests, _ => 1
  | inputTokens, obs => obs.tokens "input"
  | outputTokens, obs => obs.tokens "output"

def ofModel : Count → ModelUsage → Int
  | requests => ModelUsage.requests
  | inputTokens => ModelUsage.input_tokens
  | outputTokens => ModelUsage.output_tokens

def ofUsage : Count → ServiceUsage → Int
  | requests => ServiceUsage.total_requests
  | inputTokens => ServiceUsage.total_input_tokens
  | outputTokens => ServiceUsage.total_output_tokens

def ofService : Count → ServiceSummary → Int
  | requests => ServiceSummary.total_requests
  | inputTokens => ServiceSummary.total_input_tokens
  | outputTokens => ServiceSummary.total_output_tokens

variable (count : Count) (float : ℚ → ℚ)

theorem ofModel_addWith (usage : ModelUsage) (obs : Observation) :
    count.ofModel (usage.addWith float obs) = count.ofModel usage + count.ofObservation obs := by
  cases count <;> rfl

theorem ofUsage_addWith (usage : ServiceUsage) (obs : Observation) :
    count.ofUsage (usage.addWith float obs) = count.ofUsage usage + count.ofObservation obs := by
  cases count <;> rfl

theorem ofModel_zero : count.ofModel .zero = 0 := by
  cases count <;> rfl

theorem ofUsage_zero : count.ofUsage .zero = 0 := by
  cases count <;> rfl

theorem ofService_summaryWith (service : DictKey) (usage : ServiceUsage) :
    count.ofService (usage.summaryWith float service) = count.ofUsage usage := by
  cases count <;> rfl

/-- A count of the observations added to a service. -/
theorem ofUsage_foldl (observations : List Observation) :
    count.ofUsage (observations.foldl (ServiceUsage.addWith float) .zero) =
      (observations.map count.ofObservation).sum := by
  have total := foldl_quantity (count.ofUsage_addWith float) observations .zero
  rwa [ofUsage_zero, zero_add] at total

/-- **The counts of a service** are the sums over its models. -/
theorem ofUsage_foldl_eq_sum (observations : List Observation) :
    count.ofUsage (observations.foldl (ServiceUsage.addWith float) .zero) =
      (((observations.foldl (ServiceUsage.addWith float) .zero).models.entries).map
        fun entry => count.ofModel entry.2).sum := by
  rw [models_foldl, modelsOf, OrderedDict.sum_tally (count.ofModel_addWith float)
    count.ofModel_zero, ofUsage_foldl]

/-- **The counts of all services** add up to those of all observations. -/
theorem sum_servicesOf (observations : List Observation) :
    ((servicesOf float observations).entries.map fun entry => count.ofUsage entry.2).sum =
      (observations.map count.ofObservation).sum :=
  OrderedDict.sum_tally (count.ofUsage_addWith float) count.ofUsage_zero observations

end Count

/-! ## Summaries up to order -/

/-- The same totals, and the same models up to their order. -/
structure ServiceUsage.Same (first second : ServiceUsage) : Prop where
  total_cost : first.total_cost = second.total_cost
  counts : ∀ count : Count, count.ofUsage first = count.ofUsage second
  models : first.models.entries.Perm second.models.entries

/-- The same summary of a service, up to the order of its models. -/
structure ServiceSummary.Same (first second : ServiceSummary) : Prop where
  service : first.service = second.service
  total_cost : first.total_cost = second.total_cost
  counts : ∀ count : Count, count.ofService first = count.ofService second
  models : Option.Rel (fun one other => one.entries.Perm other.entries) first.models second.models

/-- The same summary, up to the order of the services and of their models. -/
inductive UsageSummary.Same : UsageSummary → UsageSummary → Prop
  | service {first second : ServiceSummary} :
      first.Same second → Same (.service first) (.service second)
  | services {first middle second : List ServiceSummary} :
      first.Perm middle → List.Forall₂ ServiceSummary.Same middle second →
        Same (.services first) (.services second)

theorem ServiceUsage.Same.summaryWith (float : ℚ → ℚ) {first second : ServiceUsage}
    (same : first.Same second) (service : DictKey) :
    (first.summaryWith float service).Same (second.summaryWith float service) where
  service := rfl
  total_cost := congrArg (fun cost => float (roundDecimals 8 cost)) same.total_cost
  counts count := by
    rw [count.ofService_summaryWith, count.ofService_summaryWith, same.counts]
  models := .some same.models

/-- The order in which two observations are added to a model does not matter. -/
theorem ModelUsage.addWith_comm (usage : ModelUsage) (one other : Observation) :
    (usage.addWith id one).addWith id other = (usage.addWith id other).addWith id one := by
  simp only [addWith, id]
  congr 1 <;> ring

/-- **The totals of a service** do not depend on the order of its observations. -/
theorem ServiceUsage.same_of_perm {first second : List Observation} (perm : first.Perm second) :
    (first.foldl (addWith id) zero).Same (second.foldl (addWith id) zero) where
  total_cost := by
    have total := @foldl_quantity _ _ _ _ (addWith id) total_cost
      (fun obs => obs.total_cost.getD 0) (fun _ _ => rfl)
    rw [total, total, (perm.map _).sum_eq]
  counts count := by
    rw [count.ofUsage_foldl, count.ofUsage_foldl, (perm.map _).sum_eq]
  models := by
    rw [models_foldl, models_foldl]
    exact OrderedDict.tally_perm perm ModelUsage.addWith_comm

/-- The totals of every service do not depend on the order of all observations. -/
theorem servicesOf_perm {first second : List Observation} (perm : first.Perm second)
    (service : DictKey) :
    Option.Rel ServiceUsage.Same ((servicesOf id first).get? service)
      ((servicesOf id second).get? service) := by
  have own := perm.filter fun obs => DictKey.str obs.serviceText = service
  rw [servicesOf, servicesOf, OrderedDict.get?_tally, OrderedDict.get?_tally]
  simp only [← List.length_eq_zero_iff, own.length_eq]
  split
  · exact .none
  · exact .some (ServiceUsage.same_of_perm own)

/-! ## Pages and orders -/

/-- For a time range, the API returns these observations in some pages. -/
def ObservationsApi.Lists (api : ObservationsApi) (from_time to_time : Option Timestamp)
    (observations : List Observation) : Prop :=
  ∃ pages, CompletePages pages ∧ api.answers from_time to_time = pages.map .ok ∧
    pages.flatMap ObservationPage.data = observations

namespace LangfuseCostTracker

/-- **The pages** do not matter. -/
theorem exactQuery_of_lists {api : ObservationsApi} {from_time to_time : Option Timestamp}
    {observations : List Observation} (lists : api.Lists from_time to_time observations)
    (service_name : Option String) :
    exactQuery api service_name from_time to_time =
      aggregateWith id observations service_name := by
  obtain ⟨pages, complete, answers, rfl⟩ := lists
  unfold exactQuery queryLangfuseWith
  rw [answers, collectPages_of_complete complete]
  rfl

/-- An empty name asks for all services. -/
theorem aggregateWith_of_empty (float : ℚ → ℚ) (observations : List Observation) :
    aggregateWith float observations (some "") = aggregateWith float observations none := by
  have noName : (some "").filter (· ≠ "") = none := by simp
  have sameRound : addObservationWith float (some "") = addObservationWith float none := by
    funext services obs
    unfold addObservationWith
    rw [noName]
    rfl
  unfold aggregateWith
  rw [sameRound, noName]
  rfl

/-- **The order** of the observations does not matter, up to the order of the services and
models. -/
theorem aggregate_of_perm {first second : List Observation} (perm : first.Perm second)
    (named : ∀ obs ∈ first, obs.NamesText) (service_name : Option String) :
    ∃ one other, aggregateWith id first service_name = .ok one ∧
      aggregateWith id second service_name = .ok other ∧ one.Same other := by
  have secondNamed : ∀ obs ∈ second, obs.NamesText :=
    fun obs member => named obs (perm.mem_iff.mpr member)
  have unfiltered : ∃ one other, aggregateWith id first none = .ok one ∧
      aggregateWith id second none = .ok other ∧ one.Same other := by
    refine ⟨_, _, aggregateWith_of_unfiltered id named,
      aggregateWith_of_unfiltered id secondNamed, ?_⟩
    obtain ⟨middle, reordered, related⟩ :=
      OrderedDict.exists_perm_forall₂ (servicesOf_perm perm)
    refine .services (reordered.map _) ?_
    rw [List.forall₂_map_left_iff, List.forall₂_map_right_iff]
    refine related.imp fun one other both => ?_
    rw [both.1]
    exact both.2.summaryWith id _
  rcases service_name with _ | wanted
  · exact unfiltered
  · by_cases nonempty : wanted = ""
    · rw [nonempty, aggregateWith_of_empty, aggregateWith_of_empty]
      exact unfiltered
    · refine ⟨_, _, aggregateWith_of_filtered id named nonempty,
        aggregateWith_of_filtered id secondNamed nonempty, .service ?_⟩
      have related := servicesOf_perm perm (.str wanted)
      generalize (servicesOf id first).get? (.str wanted) = one at related ⊢
      generalize (servicesOf id second).get? (.str wanted) = other at related ⊢
      cases related with
      | none => exact ⟨rfl, rfl, fun _ => rfl, .none⟩
      | some same => exact same.summaryWith id _

/-- Every entry is the total of the observations of its service. -/
theorem counts_of_entry {observations : List Observation} {entry : DictKey × ServiceUsage}
    (member : entry ∈ (servicesOf id observations).entries) (count : Count) :
    count.ofService (entry.2.summaryWith id entry.1) =
      (entry.2.models.entries.map fun model => count.ofModel model.2).sum := by
  obtain ⟨-, total⟩ := OrderedDict.get?_tally_eq_some_iff.mp
    ((servicesOf id observations).mem_entries_iff.mp member)
  rw [count.ofService_summaryWith, ← total]
  exact count.ofUsage_foldl_eq_sum id _

/-- A service that occurs has an entry, which is the summary of the service alone. -/
theorem aggregate_of_occurring {observations : List Observation} {wanted : String}
    (named : ∀ obs ∈ observations, obs.NamesText) (nonempty : wanted ≠ "")
    (occurs : ∃ obs ∈ observations, obs.service = .str wanted) :
    ∃ entry ∈ (servicesOf id observations).entries, entry.1 = .str wanted ∧
      aggregateWith id observations (some wanted) =
        .ok (.service (entry.2.summaryWith id entry.1)) := by
  obtain ⟨obs, member, isWanted⟩ := occurs
  rw [(named obs member).service_eq, Json.str.injEq] at isWanted
  obtain ⟨usage, found⟩ : ∃ usage, (servicesOf id observations).get? (.str wanted) =
      some usage := by
    rw [← isWanted]
    exact OrderedDict.exists_get?_tally member
  refine ⟨_, (servicesOf id observations).mem_entries_iff.mpr found, rfl, ?_⟩
  rw [aggregateWith_of_filtered id named nonempty, found, Option.elim_some]

/-- A service that does not occur has a summary of zeros. -/
theorem aggregate_of_absent {observations : List Observation} {wanted : String}
    (named : ∀ obs ∈ observations, obs.NamesText) (nonempty : wanted ≠ "")
    (absent : ∀ obs ∈ observations, obs.service ≠ .str wanted) :
    aggregateWith id observations (some wanted) = .ok (.service (.zero wanted)) := by
  have none : observations.filter
      (fun obs => DictKey.str obs.serviceText = .str wanted) = [] := by
    refine List.filter_eq_nil_iff.mpr fun obs member => ?_
    have other := absent obs member
    rw [(named obs member).service_eq] at other
    simpa using other
  rw [aggregateWith_of_filtered id named nonempty, servicesOf, OrderedDict.get?_tally,
    if_pos none, Option.elim_none]

/-- **Langfuse aggregation is a homomorphism.** With exact arithmetic, for every listing of
observations whose service names are texts:

* listing the same observations in other pages and another order gives the same summary, up
  to the order of services and models;
* the counts of a service are the sums over its models;
* the counts of all services add up to those of all observations;
* asked for a service that occurs, the query returns its entry in the summary of all services,
  and asked for one that does not occur, a summary of zeros. -/
theorem aggregation_is_a_homomorphism (observations : List Observation)
    (named : ∀ obs ∈ observations, obs.NamesText) (api : ObservationsApi)
    (from_time to_time : Option Timestamp) (lists : api.Lists from_time to_time observations) :
    (∀ (other : ObservationsApi) (reordered : List Observation) (service_name : Option String),
      reordered.Perm observations → other.Lists from_time to_time reordered →
        ∃ one two, exactQuery other service_name from_time to_time = .ok one ∧
          exactQuery api service_name from_time to_time = .ok two ∧ one.Same two) ∧
    ∃ summaries, exactQuery api none from_time to_time = .ok (.services summaries) ∧
      (summaries.map ServiceSummary.service).Nodup ∧
      (∀ summary ∈ summaries, ∃ models, summary.models = some models ∧
        ∀ count : Count, count.ofService summary =
          (models.entries.map fun entry => count.ofModel entry.2).sum) ∧
      (∀ count : Count, (summaries.map count.ofService).sum =
        (observations.map count.ofObservation).sum) ∧
      ∀ wanted, wanted ≠ "" →
        ((∃ obs ∈ observations, obs.service = .str wanted) →
          ∃ summary ∈ summaries, summary.service = .str wanted ∧
            exactQuery api (some wanted) from_time to_time = .ok (.service summary)) ∧
        ((∀ obs ∈ observations, obs.service ≠ .str wanted) →
          exactQuery api (some wanted) from_time to_time =
            .ok (.service (.zero wanted))) := by
  refine ⟨?_, _, (exactQuery_of_lists lists none).trans
    (aggregateWith_of_unfiltered id named), ?_, ?_, ?_, ?_⟩
  · intro other reordered service_name perm otherLists
    rw [exactQuery_of_lists otherLists, exactQuery_of_lists lists]
    exact aggregate_of_perm perm (fun obs member => named obs (perm.mem_iff.mp member)) _
  · rw [List.map_map]
    exact (servicesOf id observations).keysUnique
  · intro summary member
    obtain ⟨entry, inServices, rfl⟩ := List.mem_map.mp member
    exact ⟨_, rfl, counts_of_entry inServices⟩
  · intro count
    rw [List.map_map, ← count.sum_servicesOf id]
    refine congrArg List.sum (List.map_congr_left fun entry _ => ?_)
    exact count.ofService_summaryWith id entry.1 entry.2
  · intro wanted nonempty
    rw [exactQuery_of_lists lists]
    refine ⟨fun occurs => ?_, aggregate_of_absent named nonempty⟩
    obtain ⟨entry, member, isWanted, found⟩ := aggregate_of_occurring named nonempty occurs
    exact ⟨_, List.mem_map_of_mem member, isWanted, found⟩

/-- An observation of a service, and one without any details. -/
def chatObservation : Observation where
  metadata := some (.dict [("service_name", .str "chat")])
  provided_model_name := some "m"
  total_cost := some (1 / 1000)
  usage_details := some [("input", some 3), ("output", none)]

def bareObservation : Observation := ⟨none, none, none, none⟩

/-- The two observations in one page. -/
def onePage : ObservationsApi where
  answers _ _ := [.ok ⟨[chatObservation, bareObservation], none⟩]

/-- The two observations in two pages, the other way round. -/
def twoPages : ObservationsApi where
  answers _ _ := [.ok ⟨[bareObservation], some "next"⟩, .ok ⟨[chatObservation], none⟩]

theorem onePage_lists : onePage.Lists none none [chatObservation, bareObservation] :=
  ⟨[⟨[chatObservation, bareObservation], none⟩], ⟨[], _, rfl, by simp, .inl rfl⟩, rfl, rfl⟩

theorem twoPages_lists : twoPages.Lists none none [bareObservation, chatObservation] :=
  ⟨[⟨[bareObservation], some "next"⟩, ⟨[chatObservation], none⟩],
    ⟨[_], _, rfl, by simp, .inl rfl⟩, rfl, rfl⟩

theorem chat_and_bare_named : ∀ obs ∈ [chatObservation, bareObservation], obs.NamesText := by
  intro obs member entries name isDict found
  rcases List.mem_pair.mp member with rfl | rfl
  · cases isDict
    cases found
    exact ⟨"chat", rfl⟩
  · cases isDict

/-- Both listings give the same summary. -/
theorem twoPages_agree :
    ∃ one two, exactQuery twoPages none none none = .ok one ∧
      exactQuery onePage none none none = .ok two ∧ one.Same two :=
  (aggregation_is_a_homomorphism _ chat_and_bare_named onePage none none onePage_lists).1
    twoPages _ none (.swap _ _ _) twoPages_lists

end LangfuseCostTracker

end LlmopsPlatform.Gateway
