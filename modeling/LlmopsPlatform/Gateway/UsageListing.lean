import LlmopsPlatform.Gateway.RecordedTotals

/-!
# The summary of all services

The summary of all services scans the keys of Redis, and takes the third part of a key for
a service when the key has three parts. A model key has four parts at least, so that it is
passed over. But so is the key of a service whose name has a colon: the name falls apart
into several parts, and the service is left out.

The summary is complete exactly when no recorded service has a colon in its name
(`summary_complete_iff`).
-/

set_option autoImplicit false

namespace LlmopsPlatform.Gateway

open Foundations Python CounterStore

namespace RedisCostTracker

/-! ## Keys -/

/-- The service that a key is listed under. -/
def listedService (key : String) : Option String :=
  match split ':' key with
  | [_, _, svc] => some svc
  | _ => none

/-- A usage key has two parts before those of its name. -/
theorem split_serviceKey (name : String) :
    split ':' (serviceKey name) = "llmops" :: "usage" :: split ':' name := by
  have parts : serviceKey name =
      "llmops" ++ String.singleton ':' ++ ("usage" ++ String.singleton ':' ++ name) := by
    change "llmops:usage:" ++ name = _
    simp [← String.append_assoc]
  rw [parts, split_append (by decide), split_append (by decide)]

theorem listedService_of_plain {name : String} (plain : ':' ∉ name.toList) :
    listedService (serviceKey name) = some name := by
  rw [listedService, split_serviceKey, split_of_not_mem plain]

theorem listedService_of_colon {name : String} (colon : ':' ∈ name.toList) :
    listedService (serviceKey name) = none := by
  have several : (split ':' name).length ≠ 1 := fun single =>
    length_split_eq_one_iff.mp single colon
  rw [listedService, split_serviceKey]
  rcases parts : split ':' name with - | ⟨first, - | ⟨second, rest⟩⟩
  · rfl
  · rw [parts] at several
    exact absurd rfl several
  · rfl

/-- A usage key is listed under the name in it, where this name has no colon. -/
theorem listedService_serviceKey_iff {name service : String} :
    listedService (serviceKey name) = some service ↔ name = service ∧ ':' ∉ service.toList := by
  by_cases colon : ':' ∈ name.toList
  · rw [listedService_of_colon colon]
    constructor
    · intro impossible
      cases impossible
    · rintro ⟨rfl, plain⟩
      exact absurd colon plain
  · rw [listedService_of_plain colon, Option.some.injEq]
    constructor
    · rintro rfl
      exact ⟨rfl, colon⟩
    · exact fun both => both.1

/-- A model key is the key of the service whose name has the model after a colon. -/
theorem modelKey_eq (service model : String) :
    modelKey service model = serviceKey (service ++ ":" ++ model) := by
  change "llmops:usage:" ++ service ++ ":" ++ model =
    "llmops:usage:" ++ (service ++ ":" ++ model)
  simp only [String.append_assoc]

/-- The keys that a call writes. -/
theorem exists_recordCommands_iff {entry : CostRecord} {key : String} :
    (∃ change ∈ recordCommands entry, change.key = key) ↔
      serviceKey entry.service_name = key ∨ modelKey entry.service_name entry.model = key := by
  simp only [recordCommands, List.exists_mem_cons_iff, List.not_mem_nil, false_and, exists_false,
    or_false]
  tauto

/-- The keys after some calls are those of their services and of their models. -/
theorem hasKey_recordAll_iff {calls : List CostRecord} {key : String} :
    HasKey (recordAll calls) key ↔
      ∃ call ∈ calls, serviceKey call.service_name = key ∨
        modelKey call.service_name call.model = key := by
  have nothing : ¬HasKey (.empty : RedisHashes) key := by simp [HasKey]
  rw [recordAll_eq, hasKey_incrementAll_iff, or_iff_left nothing]
  constructor
  · rintro ⟨change, member, named⟩
    obtain ⟨call, recorded, made⟩ := List.mem_flatMap.mp member
    exact ⟨call, recorded, exists_recordCommands_iff.mp ⟨change, made, named⟩⟩
  · rintro ⟨call, recorded, own⟩
    obtain ⟨change, made, named⟩ := exists_recordCommands_iff.mpr own
    exact ⟨change, List.mem_flatMap.mpr ⟨call, recorded, made⟩, named⟩

/-- Without a colon in its name, a service has a key just when it was recorded. -/
theorem hasKey_serviceKey_iff {calls : List CostRecord} {service : String}
    (plain : ':' ∉ service.toList) :
    HasKey (recordAll calls) (serviceKey service) ↔
      ∃ call ∈ calls, call.service_name = service := by
  rw [hasKey_recordAll_iff]
  constructor
  · rintro ⟨call, recorded, own | other⟩
    · exact ⟨call, recorded, serviceKey_inj.mp own⟩
    · rw [modelKey_eq, serviceKey_inj] at other
      subst other
      simp at plain
  · rintro ⟨call, recorded, own⟩
    exact ⟨call, recorded, .inl (congrArg serviceKey own)⟩

/-! ## The scan -/

/-- The listed services are those of a set, each with its totals. -/
def Lists (totalsOf : String → ServiceTotals) (names : Set String)
    (services : OrderedDict String ServiceTotals) : Prop :=
  ∀ service totals,
    services.get? service = some totals ↔ service ∈ names ∧ totals = totalsOf service

/-- The services that some keys are listed under. -/
def listedServices (keys : List String) : Set String :=
  {service | ∃ key ∈ keys, listedService key = some service}

variable {redis : RedisHashes} {totalsOf : String → ServiceTotals} {names : Set String}
  {services : OrderedDict String ServiceTotals}

theorem Lists.of_get? (lists : Lists totalsOf names services) {service : String} :
    (services.get? service).isSome ↔ service ∈ names := by
  rw [Option.isSome_iff_exists]
  constructor
  · rintro ⟨totals, found⟩
    exact ((lists service totals).mp found).1
  · intro member
    exact ⟨totalsOf service, (lists service _).mpr ⟨member, rfl⟩⟩

/-- A new service is listed with its totals. -/
theorem Lists.set (lists : Lists totalsOf names services) (svc : String) :
    Lists totalsOf (insert svc names) (services.set svc (totalsOf svc)) := by
  intro service totals
  rw [OrderedDict.set, OrderedDict.get?_upsert]
  by_cases same : service = svc
  · subst same
    rw [if_pos rfl, Option.some.injEq]
    exact ⟨fun eq => ⟨.inl rfl, eq.symm⟩, fun both => both.2.symm⟩
  · rw [if_neg same, lists service totals, Set.mem_insert_iff, or_iff_right same]

/-- A key that has no service is passed over, and the service of any other key is added once. -/
theorem addKey_eq (redis : RedisHashes) (services : OrderedDict String ServiceTotals)
    (key : String) :
    addKey redis services key =
      match listedService key with
      | some svc =>
          if (services.get? svc).isSome then .ok services
          else (getServiceSummary redis svc).map fun totals => services.set svc totals
      | none => .ok services := by
  unfold addKey listedService
  rcases split ':' key with - | ⟨first, - | ⟨second, - | ⟨svc, - | ⟨fourth, rest⟩⟩⟩⟩
  · rfl
  · rfl
  · rfl
  · cases getServiceSummary redis svc with
    | ok totals => rfl
    | error failure => rfl
  · rfl

/-- One key. -/
theorem addKey_lists
    (summaries : ∀ service, getServiceSummary redis service = .ok (totalsOf service))
    (lists : Lists totalsOf names services) (key : String) :
    ∃ found, addKey redis services key = .ok found ∧
      Lists totalsOf (names ∪ {service | listedService key = some service}) found := by
  rw [addKey_eq]
  rcases listed : listedService key with - | svc
  · refine ⟨services, rfl, ?_⟩
    have same : names ∪ {service | (none : Option String) = some service} = names := by
      simp
    rwa [same]
  · have added : names ∪ {service | some svc = some service} = insert svc names := by
      ext service
      simp [eq_comm]
    rw [added]
    by_cases known : (services.get? svc).isSome
    · refine ⟨services, if_pos known, ?_⟩
      rwa [Set.insert_eq_of_mem (lists.of_get?.mp known)]
    · refine ⟨services.set svc (totalsOf svc), ?_, lists.set svc⟩
      simp only [if_neg known, summaries]
      rfl

/-- The keys of one answer. -/
theorem foldlM_addKey_lists
    (summaries : ∀ service, getServiceSummary redis service = .ok (totalsOf service))
    (lists : Lists totalsOf names services) (keys : List String) :
    ∃ found, keys.foldlM (addKey redis) services = .ok found ∧
      Lists totalsOf (names ∪ listedServices keys) found := by
  induction keys generalizing names services with
  | nil =>
      refine ⟨services, rfl, ?_⟩
      have same : names ∪ listedServices [] = names := by simp [listedServices]
      rwa [same]
  | cons key rest ih =>
      obtain ⟨next, step, nextLists⟩ := addKey_lists summaries lists key
      obtain ⟨found, run, foundLists⟩ := ih nextLists
      refine ⟨found, ?_, ?_⟩
      · rw [List.foldlM_cons, step]
        exact run
      · have same : names ∪ listedServices (key :: rest) =
            names ∪ {service | listedService key = some service} ∪ listedServices rest := by
          ext service
          simp [listedServices, or_assoc]
        rwa [same]

/-- A scan whose answers have a cursor up to the last one goes through all of their keys. -/
theorem scanServices_lists
    (summaries : ∀ service, getServiceSummary redis service = .ok (totalsOf service))
    (lists : Lists totalsOf names services) {before : List ScanReply} {last : ScanReply}
    (further : ∀ reply ∈ before, reply.cursor ≠ 0) (ended : last.cursor = 0) :
    ∃ found, scanServices redis (before ++ [last]) services = .ok (some found) ∧
      Lists totalsOf (names ∪ listedServices ((before ++ [last]).flatMap ScanReply.keys))
        found := by
  induction before generalizing names services with
  | nil =>
      obtain ⟨found, run, foundLists⟩ := foldlM_addKey_lists summaries lists last.keys
      refine ⟨found, ?_, ?_⟩
      · rw [List.nil_append, scanServices, run]
        simp [ended, Bind.bind, Except.bind, Pure.pure, Except.pure]
      · simpa using foundLists
  | cons reply rest ih =>
      obtain ⟨next, batch, nextLists⟩ := foldlM_addKey_lists summaries lists reply.keys
      obtain ⟨found, run, foundLists⟩ :=
        ih nextLists fun later member => further later (List.mem_cons_of_mem _ member)
      have goesOn : reply.cursor ≠ 0 := further reply List.mem_cons_self
      refine ⟨found, ?_, ?_⟩
      · rw [List.cons_append, scanServices, batch]
        simpa [goesOn, Bind.bind, Except.bind] using run
      · have same : names ∪ listedServices ((reply :: rest ++ [last]).flatMap ScanReply.keys) =
            names ∪ listedServices reply.keys ∪
              listedServices ((rest ++ [last]).flatMap ScanReply.keys) := by
          ext service
          simp [listedServices, or_assoc, or_and_right, exists_or]
        rwa [same]

/-! ## Completeness -/

/-- Redis answers a scan with the keys that match the pattern, each at least once and in any
batches, and the cursor of the last answer alone is 0. -/
structure CompleteScan (redis : RedisHashes) (replies : List ScanReply) : Prop where
  ends : ∃ before last, replies = before ++ [last] ∧
    (∀ reply ∈ before, reply.cursor ≠ 0) ∧ last.cursor = 0
  matching : ∀ key, (∃ reply ∈ replies, key ∈ reply.keys) ↔
    HasKey redis key ∧ ∃ rest, key = "llmops:usage:" ++ rest

/-- The summary of all services lists those that were recorded, each with the totals that
its own summary has. -/
def SummaryComplete (calls : List CostRecord) (replies : List ScanReply) : Prop :=
  ∃ services, getSummary (recordAll calls) replies none = .ok (some (.services services)) ∧
    (∀ service, (services.get? service).isSome ↔ ∃ call ∈ calls, call.service_name = service) ∧
    ∀ service totals, services.get? service = some totals →
      getSummary (recordAll calls) replies (some service) = .ok (some (.service totals))

/-- A complete scan finds the recorded services without a colon in their name. -/
theorem mem_listedServices_iff {calls : List CostRecord} {replies : List ScanReply}
    (scan : CompleteScan (recordAll calls) replies) {service : String} :
    service ∈ listedServices (replies.flatMap ScanReply.keys) ↔
      (∃ call ∈ calls, call.service_name = service) ∧ ':' ∉ service.toList := by
  constructor
  · rintro ⟨key, member, listed⟩
    obtain ⟨present, name, rfl⟩ := (scan.matching key).mp (List.mem_flatMap.mp member)
    obtain ⟨rfl, plain⟩ := listedService_serviceKey_iff.mp listed
    exact ⟨(hasKey_serviceKey_iff plain).mp present, plain⟩
  · rintro ⟨recorded, plain⟩
    have present := (hasKey_serviceKey_iff plain).mpr recorded
    have member := (scan.matching (serviceKey service)).mpr ⟨present, service, rfl⟩
    exact ⟨serviceKey service, List.mem_flatMap.mpr member, listedService_of_plain plain⟩

/-- **What the summary of all services lists.** -/
theorem getSummary_of_completeScan {calls : List CostRecord} {replies : List ScanReply}
    (scan : CompleteScan (recordAll calls) replies) :
    ∃ services, getSummary (recordAll calls) replies none = .ok (some (.services services)) ∧
      Lists (fun service => .ofCalls service (callsUnder service calls))
        {service | (∃ call ∈ calls, call.service_name = service) ∧ ':' ∉ service.toList}
        services := by
  obtain ⟨before, last, rfl, further, ended⟩ := scan.ends
  have nothing : Lists (fun service => .ofCalls service (callsUnder service calls)) ∅
      .empty := by
    intro service totals
    simp
  obtain ⟨services, run, lists⟩ :=
    scanServices_lists (getServiceSummary_recordAll calls) nothing further ended
  refine ⟨services, ?_, ?_⟩
  · unfold getSummary
    rw [Option.filter_none, run]
    rfl
  · have same : ∅ ∪ listedServices ((before ++ [last]).flatMap ScanReply.keys) =
        {service | (∃ call ∈ calls, call.service_name = service) ∧ ':' ∉ service.toList} := by
      ext service
      rw [Set.empty_union, mem_listedServices_iff scan]
      rfl
    rwa [same] at lists

/-- The summary misses a recorded service with a colon in its name. -/
theorem SummaryComplete.plain {calls : List CostRecord} {replies : List ScanReply}
    (complete : SummaryComplete calls replies) (scan : CompleteScan (recordAll calls) replies)
    {call : CostRecord} (recorded : call ∈ calls) : ':' ∉ call.service_name.toList := by
  obtain ⟨services, summary, lists⟩ := getSummary_of_completeScan scan
  obtain ⟨completed, sameSummary, listed, -⟩ := complete
  rw [summary] at sameSummary
  cases sameSummary
  have present := (listed call.service_name).mpr ⟨call, recorded, rfl⟩
  exact (lists.of_get?.mp present).2

/-- **The summary of all services.** After calls under any services and models, and with any
complete scan, the summary is complete exactly when no recorded service name has a colon. -/
theorem summary_complete_iff (calls : List CostRecord) (replies : List ScanReply)
    (named : ∀ call ∈ calls, call.service_name ≠ "")
    (scan : CompleteScan (recordAll calls) replies) :
    SummaryComplete calls replies ↔ ∀ call ∈ calls, ':' ∉ call.service_name.toList := by
  constructor
  · intro complete call recorded
    exact complete.plain scan recorded
  · intro plain
    obtain ⟨services, summary, lists⟩ := getSummary_of_completeScan scan
    refine ⟨services, summary, fun service => ?_, fun service totals found => ?_⟩
    · rw [lists.of_get?, Set.mem_ofPred_eq, and_iff_left_of_imp]
      rintro ⟨call, recorded, rfl⟩
      exact plain call recorded
    · obtain ⟨⟨⟨call, recorded, rfl⟩, -⟩, rfl⟩ := (lists service totals).mp found
      rw [getSummary_of_named (named call recorded), getServiceSummary_recordAll]
      rfl

/-- A scan that answers with all keys at once is complete. -/
theorem completeScan_recordAll (calls : List CostRecord) :
    CompleteScan (recordAll calls)
      [⟨0, calls.flatMap fun call =>
        [serviceKey call.service_name, modelKey call.service_name call.model]⟩] where
  ends := ⟨[], _, rfl, by simp, rfl⟩
  matching key := by
    rw [hasKey_recordAll_iff]
    constructor
    · rintro ⟨reply, answered, member⟩
      rw [List.mem_singleton.mp answered] at member
      obtain ⟨call, recorded, own⟩ := List.mem_flatMap.mp member
      rcases List.mem_pair.mp own with rfl | rfl
      · exact ⟨⟨call, recorded, .inl rfl⟩, call.service_name, rfl⟩
      · exact ⟨⟨call, recorded, .inr rfl⟩, _, modelKey_eq call.service_name call.model⟩
    · rintro ⟨⟨call, recorded, own⟩, -⟩
      refine ⟨_, List.mem_singleton_self _, List.mem_flatMap.mpr ⟨call, recorded, ?_⟩⟩
      rcases own with rfl | rfl <;> simp

/-- Two calls under one service and one model are listed once. -/
theorem chat_summary_complete :
    SummaryComplete [⟨"chat", "gemini-2.0-flash", 3, 4⟩, ⟨"chat", "gemini-2.0-flash", 5, 6⟩]
      [⟨0, ["llmops:usage:chat", "llmops:usage:chat:gemini-2.0-flash",
        "llmops:usage:chat", "llmops:usage:chat:gemini-2.0-flash"]⟩] :=
  (summary_complete_iff _ _ (by simp) (completeScan_recordAll
    [⟨"chat", "gemini-2.0-flash", 3, 4⟩, ⟨"chat", "gemini-2.0-flash", 5, 6⟩])).mpr (by decide)

/-- The service "team:app" is recorded and not listed. -/
theorem colon_service_not_listed :
    ¬∀ (calls : List CostRecord) (replies : List ScanReply),
      (∀ call ∈ calls, call.service_name ≠ "") → CompleteScan (recordAll calls) replies →
        SummaryComplete calls replies := by
  intro always
  have scan := completeScan_recordAll [⟨"team:app", "gemini-2.0-flash", 3, 4⟩]
  have complete := always _ _ (by simp) scan
  have plain := complete.plain scan List.mem_cons_self
  exact plain (by decide)

end RedisCostTracker

end LlmopsPlatform.Gateway
