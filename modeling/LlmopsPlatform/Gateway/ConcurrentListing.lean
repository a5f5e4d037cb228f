import LlmopsPlatform.Foundations.Tallies
import LlmopsPlatform.Foundations.TransitionSystem
import LlmopsPlatform.Gateway.UsageListing

/-!
# Listing all services while calls are recorded

A summary of all services is no snapshot. Between two answers to `SCAN`, and between two
`HGETALL`, other requests record their calls, so each listed service has the totals of a moment
of its own.

These moments all lie between the request for the summary and its answer, no service that was
recorded before is missing, and no call is counted twice: with no colon in the names, the requests
of all listed services together are at least the calls recorded before the request, and at
most those recorded by the answer (`listing_is_bracketed`). A later summary never goes
back behind an earlier one (`later_listing_has_seen_more`).

Redis answers with keys that exist, and gives each key that exists all along at least once. It
need not give a key that is written meanwhile.
-/

set_option autoImplicit false

namespace LlmopsPlatform.Gateway

open Foundations Python CounterStore TransitionSystem

/-! ## Summaries under way -/

/-- A request for all services between two of its commands. -/
inductive ListingPhase where
  /-- The next command is a `SCAN` from the cursor. -/
  | scanning (cursor : Nat) (services : OrderedDict String ServiceTotals)
  /-- In the loop over the keys of an answer, which also had the cursor. -/
  | visiting (cursor : Nat) (keys : List String) (services : OrderedDict String ServiceTotals)
  | answered (services : OrderedDict String ServiceTotals)
  | failed (failure : PyException)

namespace ListingPhase

/-- The services found so far. -/
def services : ListingPhase → OrderedDict String ServiceTotals
  | .scanning _ services => services
  | .visiting _ _ services => services
  | .answered services => services
  | .failed _ => .empty

/-- The keys that the loop has still to visit. -/
def pending : ListingPhase → List String
  | .visiting _ keys _ => keys
  | _ => []

/-- The answer with the cursor 0 has come. -/
def Scanned : ListingPhase → Prop
  | .visiting cursor _ _ => cursor = 0
  | .answered _ => True
  | _ => False

/-- Redis answers a `SCAN`. -/
def scan (reply : ScanReply) : ListingPhase → Option ListingPhase
  | .scanning _ services => some (.visiting reply.cursor reply.keys services)
  | _ => none

/-- The loop visits the next key, or ends. -/
def visit (redis : RedisHashes) : ListingPhase → Option ListingPhase
  | .visiting cursor (key :: rest) services =>
      match RedisCostTracker.addKey redis services key with
      | .ok services => some (.visiting cursor rest services)
      | .error failure => some (.failed failure)
  | .visiting cursor [] services =>
      if cursor = 0 then some (.answered services) else some (.scanning cursor services)
  | _ => none

end ListingPhase

/-- A request for all services, with what Redis goes by: the hashes that it had when the scan
began, and the keys that it has given since. -/
structure Listing where
  phase : ListingPhase
  present : RedisHashes
  returned : List String

/-- Redis, the calls that were recorded in it, and the requests for all services. -/
structure UsageStore (Reader : Type) where
  redis : RedisHashes
  calls : List CostRecord
  listings : Reader → Option Listing

/-- A command that Redis executes. A request that loses Redis takes no more steps. -/
inductive UsageStep (Reader : Type) where
  | record (entry : CostRecord)
  | list (reader : Reader)
  | scan (reader : Reader) (reply : ScanReply)
  | visit (reader : Reader)

namespace UsageStore

variable {Reader : Type} [DecidableEq Reader]

def setListing (store : UsageStore Reader) (reader : Reader) (listing : Listing) :
    UsageStore Reader :=
  { store with listings := Function.update store.listings reader (some listing) }

/-- Go on with a listing. -/
def resume (store : UsageStore Reader) (reader : Reader) (returned : List String)
    (advance : ListingPhase → Option ListingPhase) : Option (UsageStore Reader) :=
  match store.listings reader with
  | none => none
  | some listing => (advance listing.phase).map fun phase =>
      store.setListing reader ⟨phase, listing.present, listing.returned ++ returned⟩

omit [DecidableEq Reader] in
/-- The services in the answer to a request. -/
def answer (store : UsageStore Reader) (reader : Reader) :
    Option (OrderedDict String ServiceTotals) :=
  match store.listings reader with
  | some ⟨.answered services, _, _⟩ => some services
  | _ => none

end UsageStore

section System

variable {Reader : Type} [DecidableEq Reader]

/-- The commands of `record` are one transaction. -/
def usageNext (store : UsageStore Reader) : UsageStep Reader → Option (UsageStore Reader)
  | .record entry => some {
      store with
      redis := (RedisCostTracker.record store.redis entry).2
      calls := store.calls ++ [entry] }
  | .list reader =>
      match store.listings reader with
      | none => some (store.setListing reader ⟨.scanning 0 .empty, store.redis, []⟩)
      | some _ => none
  | .scan reader reply => store.resume reader reply.keys (ListingPhase.scan reply)
  | .visit reader => store.resume reader [] (ListingPhase.visit store.redis)

variable (Reader) in
/-- Calls are recorded while requests for all services are under way. -/
def usageSystem : TransitionSystem (UsageStore Reader) (UsageStep Reader) where
  initial store := store.redis = .empty ∧ store.calls = [] ∧ ∀ reader, store.listings reader = none
  next := usageNext

/-- Redis gives keys that exist and match the pattern. With the cursor 0, it has given all
matching keys that it had when the scan began. -/
def ScanGuarantee (step : Transition (UsageStore Reader) (UsageStep Reader)) : Prop :=
  ∀ reader reply listing, step.label = .scan reader reply →
    step.before.listings reader = some listing →
      (∀ key ∈ reply.keys, HasKey step.before.redis key ∧ ∃ rest, key = "llmops:usage:" ++ rest) ∧
      (reply.cursor = 0 → ∀ rest, HasKey listing.present ("llmops:usage:" ++ rest) →
        "llmops:usage:" ++ rest ∈ listing.returned ++ reply.keys)

/-- What one step does. -/
theorem usageNext_cases {before after : UsageStore Reader} {label : UsageStep Reader}
    (step : usageNext before label = some after) :
    (∃ entry, label = .record entry ∧
        after = { before with
          redis := (RedisCostTracker.record before.redis entry).2
          calls := before.calls ++ [entry] }) ∨
      (∃ reader, label = .list reader ∧ before.listings reader = none ∧
        after = before.setListing reader ⟨.scanning 0 .empty, before.redis, []⟩) ∨
      (∃ reader reply listing phase, label = .scan reader reply ∧
        before.listings reader = some listing ∧ listing.phase.scan reply = some phase ∧
        after = before.setListing reader
          ⟨phase, listing.present, listing.returned ++ reply.keys⟩) ∨
      ∃ reader listing phase, label = .visit reader ∧
        before.listings reader = some listing ∧
        listing.phase.visit before.redis = some phase ∧
        after = before.setListing reader ⟨phase, listing.present, listing.returned⟩ := by
  cases label with
  | record entry => exact .inl ⟨entry, rfl, (Option.some.inj step).symm⟩
  | list reader =>
      rw [usageNext] at step
      split at step
      · rename_i absent
        exact .inr (.inl ⟨reader, rfl, absent, (Option.some.inj step).symm⟩)
      · cases step
  | scan reader reply =>
      rw [usageNext, UsageStore.resume] at step
      split at step
      · cases step
      · rename_i listing found
        obtain ⟨phase, advanced, rfl⟩ := Option.map_eq_some_iff.mp step
        exact .inr (.inr (.inl ⟨reader, reply, listing, phase, rfl, found, advanced, rfl⟩))
  | visit reader =>
      rw [usageNext, UsageStore.resume] at step
      split at step
      · cases step
      · rename_i listing found
        obtain ⟨phase, advanced, rfl⟩ := Option.map_eq_some_iff.mp step
        refine .inr (.inr (.inr ⟨reader, listing, phase, rfl, found, advanced, ?_⟩))
        rw [List.append_nil]

end System

/-! ## Between the request and its answer -/

open RedisCostTracker

/-- The calls at some moment, after those of `base` and before the end of `calls`, that the totals
of a service are of. -/
def ReadBetween (base calls : List CostRecord) (service : String) (totals : ServiceTotals) : Prop :=
  ∃ seen, base <+: seen ∧ seen <+: calls ∧ totals = .ofCalls service (callsUnder service seen) ∧
    callsUnder service seen ≠ []

/-- What holds of a listing that began when the calls of `base` were recorded. -/
structure Listing.Fresh (base calls : List CostRecord) (listing : Listing) : Prop where
  present : ∀ key, HasKey (recordAll base) key → HasKey listing.present key
  pending : ∀ key ∈ listing.phase.pending,
    HasKey (recordAll calls) key ∧ ∃ rest, key = serviceKey rest
  listed : ∀ service totals, listing.phase.services.get? service = some totals →
    ':' ∉ service.toList ∧ ReadBetween base calls service totals
  visited : ∀ key ∈ listing.returned, key ∈ listing.phase.pending ∨
    ∀ service, listedService key = some service → (listing.phase.services.get? service).isSome
  scanned : listing.phase.Scanned → ∀ rest, HasKey listing.present (serviceKey rest) →
    serviceKey rest ∈ listing.returned
  running : ∀ failure, listing.phase ≠ .failed failure

theorem recordAll_append (calls : List CostRecord) (entry : CostRecord) :
    recordAll (calls ++ [entry]) = (record (recordAll calls) entry).2 := by
  unfold recordAll
  rw [List.foldl_append]
  rfl

/-- Keys stay. -/
theorem hasKey_recordAll_mono {calls more : List CostRecord} (longer : calls <+: more)
    {key : String} (present : HasKey (recordAll calls) key) : HasKey (recordAll more) key := by
  rw [hasKey_recordAll_iff] at present ⊢
  obtain ⟨call, member, named⟩ := present
  exact ⟨call, longer.subset member, named⟩

theorem prefixOf_callsUnder {calls more : List CostRecord} (longer : calls <+: more)
    (service : String) : callsUnder service calls <+: callsUnder service more :=
  longer.filter _

theorem ReadBetween.mono {base calls more : List CostRecord} {service : String}
    {totals : ServiceTotals} (read : ReadBetween base calls service totals)
    (longer : calls <+: more) : ReadBetween base more service totals := by
  obtain ⟨seen, after, before, eq, some⟩ := read
  exact ⟨seen, after, before.trans longer, eq, some⟩

namespace Listing.Fresh

variable {base calls : List CostRecord} {listing : Listing}

/-- More calls do not disturb a listing. -/
theorem mono {more : List CostRecord} (fresh : listing.Fresh base calls) (longer : calls <+: more) :
    listing.Fresh base more where
  present := fresh.present
  pending key member :=
    ⟨hasKey_recordAll_mono longer (fresh.pending key member).1, (fresh.pending key member).2⟩
  listed service totals found :=
    ⟨(fresh.listed service totals found).1, (fresh.listed service totals found).2.mono longer⟩
  visited := fresh.visited
  scanned := fresh.scanned
  running := fresh.running

/-- A listing begins. -/
theorem begin (longer : base <+: calls) :
    Listing.Fresh base calls ⟨.scanning 0 .empty, recordAll calls, []⟩ where
  present _ present := hasKey_recordAll_mono longer present
  pending _ member := absurd member (List.not_mem_nil)
  listed _ _ found := by cases found
  visited _ member := absurd member (List.not_mem_nil)
  scanned impossible := impossible.elim
  running _ := by rintro ⟨⟩

/-- An answer of Redis with keys that exist. -/
theorem scan {reply : ScanReply} {phase : ListingPhase} (fresh : listing.Fresh base calls)
    (given : ∀ key ∈ reply.keys, HasKey (recordAll calls) key ∧ ∃ rest, key = serviceKey rest)
    (whole : reply.cursor = 0 → ∀ rest, HasKey listing.present (serviceKey rest) →
      serviceKey rest ∈ listing.returned ++ reply.keys)
    (scanned : listing.phase.scan reply = some phase) :
    Listing.Fresh base calls ⟨phase, listing.present, listing.returned ++ reply.keys⟩ := by
  obtain ⟨before, present, returned⟩ := listing
  cases before with
  | scanning cursor services =>
      cases scanned
      refine ⟨fresh.present, given, fresh.listed, ?_, whole, fun _ => by rintro ⟨⟩⟩
      intro key member
      rcases List.mem_append.mp member with earlier | new
      · rcases fresh.visited key earlier with impossible | done
        · exact absurd impossible List.not_mem_nil
        · exact .inr done
      · exact .inl new
  | visiting cursor keys services => cases scanned
  | answered services => cases scanned
  | failed failure => cases scanned

/-- The loop finds no further service at a key. -/
theorem skip {cursor : Nat} {key : String} {rest : List String}
    {services : OrderedDict String ServiceTotals} {present : RedisHashes} {returned : List String}
    (fresh : Listing.Fresh base calls ⟨.visiting cursor (key :: rest) services, present, returned⟩)
    (known : ∀ service, listedService key = some service → (services.get? service).isSome) :
    Listing.Fresh base calls ⟨.visiting cursor rest services, present, returned⟩ where
  present := fresh.present
  pending other member := fresh.pending other (List.mem_cons_of_mem _ member)
  listed := fresh.listed
  visited other member := by
    rcases fresh.visited other member with waiting | done
    · rcases List.mem_cons.mp waiting with rfl | later
      · exact .inr known
      · exact .inl later
    · exact .inr done
  scanned := fresh.scanned
  running _ := by rintro ⟨⟩

/-- The loop finds a service, and reads the totals that it has now. -/
theorem add {cursor : Nat} {key svc : String} {rest : List String}
    {services : OrderedDict String ServiceTotals} {present : RedisHashes} {returned : List String}
    (fresh : Listing.Fresh base calls ⟨.visiting cursor (key :: rest) services, present, returned⟩)
    (longer : base <+: calls) (listed : listedService key = some svc) :
    Listing.Fresh base calls
      ⟨.visiting cursor rest (services.set svc (.ofCalls svc (callsUnder svc calls))), present,
        returned⟩ := by
  obtain ⟨exists_key, name, rfl⟩ := fresh.pending _ List.mem_cons_self
  obtain ⟨rfl, plain⟩ := listedService_serviceKey_iff.mp listed
  have recorded : callsUnder name calls ≠ [] := by
    obtain ⟨call, member, own⟩ := (hasKey_serviceKey_iff plain).mp exists_key
    exact List.ne_nil_of_mem (List.mem_filter.mpr ⟨member, decide_eq_true own⟩)
  have get (service : String) :
      (services.set name (.ofCalls name (callsUnder name calls))).get? service =
        if service = name then some (.ofCalls name (callsUnder name calls))
        else services.get? service :=
    OrderedDict.get?_upsert _ _ _ _
  have kept {service : String} (found : (services.get? service).isSome) :
      ((services.set name (.ofCalls name (callsUnder name calls))).get? service).isSome := by
    rw [get]
    split
    · rfl
    · exact found
  refine ⟨fresh.present, fun other member => fresh.pending other (List.mem_cons_of_mem _ member),
    ?_, ?_, fresh.scanned, fun _ => by rintro ⟨⟩⟩
  · intro service totals found
    have here := (get service).symm.trans found
    split at here
    · rename_i same
      subst same
      cases here
      exact ⟨plain, calls, longer, List.prefix_rfl, rfl, recorded⟩
    · exact fresh.listed service totals here
  · intro other member
    rcases fresh.visited other member with waiting | done
    · rcases List.mem_cons.mp waiting with rfl | later
      · refine .inr fun service own => ?_
        obtain ⟨rfl, -⟩ := listedService_serviceKey_iff.mp own
        have found := get name
        rw [if_pos rfl] at found
        exact Option.isSome_of_eq_some found
      · exact .inl later
    · exact .inr fun service own => kept (done service own)

/-- The loop has visited all keys of an answer. -/
theorem leave {cursor : Nat} {services : OrderedDict String ServiceTotals} {present : RedisHashes}
    {returned : List String} {next : ListingPhase}
    (fresh : Listing.Fresh base calls ⟨.visiting cursor [] services, present, returned⟩)
    (same : next.services = services) (nothing : next.pending = [])
    (last : next.Scanned → cursor = 0) (running : ∀ failure, next ≠ .failed failure) :
    Listing.Fresh base calls ⟨next, present, returned⟩ where
  present := fresh.present
  pending key member := by
    rw [nothing] at member
    cases member
  listed := by
    rw [same]
    exact fresh.listed
  visited := by
    rw [same, nothing]
    exact fresh.visited
  scanned done := fresh.scanned (last done)
  running := running

/-- One turn of the loop, or its end. -/
theorem visit {phase : ListingPhase} (fresh : listing.Fresh base calls) (longer : base <+: calls)
    (visited : listing.phase.visit (recordAll calls) = some phase) :
    Listing.Fresh base calls ⟨phase, listing.present, listing.returned⟩ := by
  obtain ⟨before, present, returned⟩ := listing
  cases before with
  | scanning cursor services => cases visited
  | visiting cursor keys services =>
      cases keys with
      | nil =>
          rw [ListingPhase.visit] at visited
          split at visited
          · rename_i last
            cases visited
            exact fresh.leave rfl rfl (fun _ => last) fun _ => by rintro ⟨⟩
          · cases visited
            exact fresh.leave rfl rfl False.elim fun _ => by rintro ⟨⟩
      | cons key rest =>
          rw [ListingPhase.visit, addKey_eq] at visited
          cases listed : listedService key with
          | none =>
              rw [listed] at visited
              cases visited
              exact fresh.skip fun service own => by cases listed.symm.trans own
          | some svc =>
              by_cases known : (services.get? svc).isSome
              · simp only [listed, known, if_true, Option.some.injEq] at visited
                subst visited
                refine fresh.skip fun service own => ?_
                rwa [← Option.some.inj (listed.symm.trans own)]
              · simp only [listed, known, Bool.false_eq_true, if_false, getServiceSummary_recordAll,
                  Except.map, Option.some.injEq] at visited
                subst visited
                exact fresh.add longer listed
  | answered services => cases visited
  | failed failure => cases visited

end Listing.Fresh

/-! ## Answers -/

section Answers

variable {Reader : Type} {reader : Reader}

/-- What holds of a request from the calls of `base` on. -/
structure UsageStore.Tracked (store : UsageStore Reader) (base : List CostRecord)
    (reader : Reader) : Prop where
  redis : store.redis = recordAll store.calls
  longer : base <+: store.calls
  fresh : ∀ listing, store.listings reader = some listing → listing.Fresh base store.calls

/-- A listing that was answered. -/
theorem UsageStore.exists_listing {store : UsageStore Reader}
    {services : OrderedDict String ServiceTotals} (answered : store.answer reader = some services) :
    ∃ present returned, store.listings reader = some ⟨.answered services, present, returned⟩ := by
  unfold UsageStore.answer at answered
  split at answered
  · rename_i found
    cases answered
    exact ⟨_, _, found⟩
  · cases answered

namespace UsageStore.Tracked

variable {store : UsageStore Reader} {base : List CostRecord}
  {services : OrderedDict String ServiceTotals}

theorem read (tracked : store.Tracked base reader) (answered : store.answer reader = some services)
    {service : String} {totals : ServiceTotals} (found : services.get? service = some totals) :
    ':' ∉ service.toList ∧ ReadBetween base store.calls service totals := by
  obtain ⟨present, returned, listing⟩ := UsageStore.exists_listing answered
  exact (tracked.fresh _ listing).listed service totals found

/-- The service of a call of the base is listed. -/
theorem complete (tracked : store.Tracked base reader)
    (answered : store.answer reader = some services) {call : CostRecord} (recorded : call ∈ base)
    (plain : ':' ∉ call.service_name.toList) : (services.get? call.service_name).isSome := by
  obtain ⟨present, returned, listing⟩ := UsageStore.exists_listing answered
  have fresh := tracked.fresh _ listing
  have known : HasKey (recordAll base) (serviceKey call.service_name) :=
    (hasKey_serviceKey_iff plain).mpr ⟨call, recorded, rfl⟩
  have given := fresh.scanned trivial call.service_name (fresh.present _ known)
  rcases fresh.visited _ given with impossible | done
  · exact absurd impossible List.not_mem_nil
  · exact done _ (listedService_of_plain plain)

/-- A listed service has the requests of the base, and none that was not recorded. -/
theorem requests_between (tracked : store.Tracked base reader)
    (answered : store.answer reader = some services) {service : String} {totals : ServiceTotals}
    (found : services.get? service = some totals) :
    (callsUnder service base).length ≤ totals.total_requests ∧
      totals.total_requests ≤ (callsUnder service store.calls).length := by
  obtain ⟨-, seen, after, before, rfl, -⟩ := tracked.read answered found
  exact ⟨Int.ofNat_le.mpr (prefixOf_callsUnder after service).length_le,
    Int.ofNat_le.mpr (prefixOf_callsUnder before service).length_le⟩

end UsageStore.Tracked

end Answers

/-! ## Runs -/

section Runs

variable {Reader : Type} [DecidableEq Reader]

namespace UsageStore.Tracked

variable {store : UsageStore Reader} {base : List CostRecord} {reader : Reader}

/-- A step that leaves the calls alone and sets a listing. -/
theorem setListing (tracked : store.Tracked base reader) {other : Reader} {listing : Listing}
    (fresh : other = reader → listing.Fresh base store.calls) :
    (store.setListing other listing).Tracked base reader where
  redis := tracked.redis
  longer := tracked.longer
  fresh found there := by
    change Function.update store.listings other (some listing) reader = some found at there
    rw [Function.update_apply] at there
    split at there
    · rename_i same
      cases there
      exact fresh same.symm
    · exact tracked.fresh found there

theorem next (step : Transition (UsageStore Reader) (UsageStep Reader))
    (tracked : step.before.Tracked base reader)
    (taken : usageNext step.before step.label = some step.after)
    (guarantee : ScanGuarantee step) : step.after.Tracked base reader := by
  obtain ⟨before, label, after⟩ := step
  dsimp only at tracked taken ⊢
  rcases usageNext_cases taken with ⟨entry, rfl, rfl⟩ | ⟨other, rfl, absent, rfl⟩ |
    ⟨other, reply, listing, phase, rfl, found, scanned, rfl⟩ |
    ⟨other, listing, phase, rfl, found, visited, rfl⟩
  · have longer : before.calls <+: before.calls ++ [entry] := List.prefix_append _ _
    exact {
      redis := by
        change (record before.redis entry).2 = recordAll (before.calls ++ [entry])
        rw [recordAll_append, ← tracked.redis]
      longer := tracked.longer.trans longer
      fresh := fun listing there => (tracked.fresh listing there).mono longer }
  · refine tracked.setListing fun _ => ?_
    have begun := Listing.Fresh.begin tracked.longer
    rwa [← tracked.redis] at begun
  · refine tracked.setListing fun same => ?_
    obtain ⟨given, whole⟩ := guarantee other reply listing rfl found
    subst same
    exact (tracked.fresh listing found).scan (by rwa [← tracked.redis]) whole scanned
  · refine tracked.setListing fun same => ?_
    subst same
    exact (tracked.fresh listing found).visit tracked.longer (by rwa [← tracked.redis])

end UsageStore.Tracked

variable {start middle finish : UsageStore Reader}
  {before during : List (Transition (UsageStore Reader) (UsageStep Reader))} {reader : Reader}

/-- Redis has the calls that were recorded. -/
theorem redis_of_run (initial : (usageSystem Reader).initial start)
    (run : (usageSystem Reader).Run start before middle) :
    middle.redis = recordAll middle.calls := by
  obtain ⟨empty, nothing, -⟩ := initial
  induction run with
  | nil =>
      rw [empty, nothing]
      rfl
  | snoc earlier step ih =>
      rcases usageNext_cases step with ⟨entry, rfl, rfl⟩ | ⟨other, rfl, -, rfl⟩ |
        ⟨other, reply, listing, phase, rfl, -, -, rfl⟩ | ⟨other, listing, phase, rfl, -, -, rfl⟩
      · rw [recordAll_append, ← ih]
      · exact ih
      · exact ih
      · exact ih

/-- A request that has not begun is tracked from the calls recorded so far. -/
theorem tracked_of_run (initial : (usageSystem Reader).initial start)
    (earlier : (usageSystem Reader).Run start before middle)
    (absent : middle.listings reader = none)
    (run : (usageSystem Reader).Run middle during finish)
    (guarantee : ∀ step ∈ during, ScanGuarantee step) : finish.Tracked middle.calls reader := by
  have base : middle.Tracked middle.calls reader := {
    redis := redis_of_run initial earlier
    longer := List.prefix_rfl
    fresh := fun listing found => by cases absent.symm.trans found }
  exact (run.invariant (fun store => store.Tracked middle.calls reader)
    (fun step tracked taken guarded => tracked.next step taken guarded) base guarantee).1

/-- The requests of all listed services. -/
def listedRequests (services : OrderedDict String ServiceTotals) : Int :=
  (services.entries.map fun entry => entry.2.total_requests).sum

/-- The calls under the listed services, one service after another. -/
theorem sum_length_callsUnder (services : OrderedDict String ServiceTotals)
    (calls : List CostRecord) :
    (services.entries.map fun entry => ((callsUnder entry.1 calls).length : Int)).sum =
      (calls.filter fun call => call.service_name ∈ services.keys).length := by
  have counted := sum_length_filter_key CostRecord.service_name services.keysUnique calls
  rw [OrderedDict.keys, ← counted, Nat.cast_list_sum, List.map_map, List.map_map]
  rfl

/-- **A listing while calls are recorded.** Whatever calls are recorded between a request for
all services and its answer, each listed service has the totals of one moment in between, and
each service without a colon that was recorded before is listed. All listed requests together
are at most those recorded by the answer, and without colons at least those recorded before. -/
theorem listing_is_bracketed {services : OrderedDict String ServiceTotals}
    (initial : (usageSystem Reader).initial start)
    (earlier : (usageSystem Reader).Run start before middle)
    (absent : middle.listings reader = none)
    (run : (usageSystem Reader).Run middle during finish)
    (guarantee : ∀ step ∈ during, ScanGuarantee step)
    (answered : finish.answer reader = some services) :
    (∀ service totals, services.get? service = some totals →
      ∃ seen, middle.calls <+: seen ∧ seen <+: finish.calls ∧
        totals = .ofCalls service (callsUnder service seen)) ∧
      (∀ call ∈ middle.calls, ':' ∉ call.service_name.toList →
        (services.get? call.service_name).isSome) ∧
      listedRequests services ≤ finish.calls.length ∧
      ((∀ call ∈ middle.calls, ':' ∉ call.service_name.toList) →
        middle.calls.length ≤ listedRequests services) := by
  have tracked := tracked_of_run initial earlier absent run guarantee
  have between (entry : String × ServiceTotals) (member : entry ∈ services.entries) :=
    tracked.requests_between answered (services.mem_entries_iff.mp member)
  refine ⟨?_, ?_, ?_, ?_⟩
  · intro service totals found
    obtain ⟨-, seen, after, before, eq, -⟩ := tracked.read answered found
    exact ⟨seen, after, before, eq⟩
  · intro call recorded plain
    exact tracked.complete answered recorded plain
  · calc listedRequests services
        ≤ (services.entries.map fun entry =>
            ((callsUnder entry.1 finish.calls).length : Int)).sum :=
          List.sum_le_sum fun entry member => (between entry member).2
      _ = (finish.calls.filter fun call => call.service_name ∈ services.keys).length :=
          sum_length_callsUnder services finish.calls
      _ ≤ finish.calls.length := Int.ofNat_le.mpr (List.length_filter_le _ _)
  · intro plain
    have all : (middle.calls.filter fun call => call.service_name ∈ services.keys) =
        middle.calls := by
      refine List.filter_eq_self.mpr fun call recorded => decide_eq_true ?_
      exact services.mem_keys_iff.mpr (Option.isSome_iff_exists.mp
        (tracked.complete answered recorded (plain call recorded)))
    calc (middle.calls.length : Int)
        = (services.entries.map fun entry =>
            ((callsUnder entry.1 middle.calls).length : Int)).sum := by
          rw [sum_length_callsUnder, all]
      _ ≤ listedRequests services := List.sum_le_sum fun entry member => (between entry member).1

/-- **A later listing has seen more.** A request that comes after the answer to another one
lists every service that the other listed, with totals of the same calls and perhaps more. -/
theorem later_listing_has_seen_more {firstReader : Reader}
    {firstServices services : OrderedDict String ServiceTotals}
    (initial : (usageSystem Reader).initial start)
    (earlier : (usageSystem Reader).Run start before middle)
    (earlierGuarantee : ∀ step ∈ before, ScanGuarantee step)
    (firstAnswered : middle.answer firstReader = some firstServices)
    (absent : middle.listings reader = none)
    (run : (usageSystem Reader).Run middle during finish)
    (guarantee : ∀ step ∈ during, ScanGuarantee step)
    (answered : finish.answer reader = some services)
    {service : String} {totals : ServiceTotals}
    (found : firstServices.get? service = some totals) :
    ∃ later seen more, services.get? service = some later ∧
      seen <+: more ∧ more <+: finish.calls ∧
      totals = .ofCalls service (callsUnder service seen) ∧
      later = .ofCalls service (callsUnder service more) ∧
      totals.total_requests ≤ later.total_requests := by
  have trackedFirst :=
    tracked_of_run initial .nil (initial.2.2 firstReader) earlier earlierGuarantee
  have tracked := tracked_of_run initial earlier absent run guarantee
  obtain ⟨plain, seen, -, seenBefore, rfl, some⟩ := trackedFirst.read firstAnswered found
  obtain ⟨call, member⟩ := List.exists_mem_of_ne_nil _ some
  obtain ⟨inSeen, own⟩ := List.mem_filter.mp member
  obtain rfl := of_decide_eq_true own
  have present := tracked.complete answered (seenBefore.subset inSeen) plain
  obtain ⟨later, there⟩ := Option.isSome_iff_exists.mp present
  obtain ⟨-, more, moreAfter, moreBefore, rfl, -⟩ := tracked.read answered there
  have longer : seen <+: more := seenBefore.trans moreAfter
  exact ⟨_, seen, more, there, longer, moreBefore, rfl, rfl,
    Int.ofNat_le.mpr (prefixOf_callsUnder longer _).length_le⟩

/-! ## A request on its own -/

theorem UsageStore.resume_eq {store : UsageStore Reader} {listing : Listing}
    {advance : ListingPhase → Option ListingPhase} {phase : ListingPhase}
    (found : store.listings reader = some listing) (advanced : advance listing.phase = some phase)
    (returned : List String) :
    store.resume reader returned advance =
      some (store.setListing reader ⟨phase, listing.present, listing.returned ++ returned⟩) := by
  rw [UsageStore.resume, found]
  change Option.map _ (advance listing.phase) = _
  rw [advanced]
  rfl

omit [DecidableEq Reader] in
theorem UsageStore.answer_of_phase {store : UsageStore Reader} {listing : Listing}
    {services : OrderedDict String ServiceTotals} (there : store.listings reader = some listing)
    (answered : listing.phase = .answered services) : store.answer reader = some services := by
  obtain ⟨phase, present, returned⟩ := listing
  cases answered
  rw [UsageStore.answer, there]

@[simp] theorem UsageStore.listings_setListing (store : UsageStore Reader) (reader : Reader)
    (listing : Listing) : (store.setListing reader listing).listings reader = some listing :=
  Function.update_self _ _ _

/-- Only the listing of one request has changed. -/
structure UsageStore.ChangedFor (reader : Reader) (store after : UsageStore Reader) : Prop where
  redis : after.redis = store.redis
  calls : after.calls = store.calls
  others : ∀ other, other ≠ reader → after.listings other = store.listings other

theorem UsageStore.ChangedFor.of_setListing (store : UsageStore Reader) (reader : Reader)
    (listing : Listing) : store.ChangedFor reader (store.setListing reader listing) where
  redis := rfl
  calls := rfl
  others _ different := Function.update_of_ne different _ _

omit [DecidableEq Reader] in
theorem UsageStore.ChangedFor.trans {store middle after : UsageStore Reader}
    (first : store.ChangedFor reader middle) (second : middle.ChangedFor reader after) :
    store.ChangedFor reader after where
  redis := second.redis.trans first.redis
  calls := second.calls.trans first.calls
  others other different := (second.others other different).trans (first.others other different)

/-- The loop over the keys of an answer, while nothing else happens. -/
theorem execute_visits {cursor : Nat} {keys : List String}
    {services found : OrderedDict String ServiceTotals} {store : UsageStore Reader}
    {listing : Listing} (there : store.listings reader = some listing)
    (visiting : listing.phase = .visiting cursor keys services)
    (looped : keys.foldlM (addKey store.redis) services = .ok found) :
    ∃ after last, (usageSystem Reader).execute
        (List.replicate (keys.length + 1) (.visit reader)) store = some after ∧
      store.ChangedFor reader after ∧ after.listings reader = some last ∧
      last.phase = if cursor = 0 then .answered found else .scanning cursor found := by
  induction keys generalizing store listing services with
  | nil =>
      cases looped
      have left : listing.phase.visit store.redis =
          some (if cursor = 0 then .answered found else .scanning cursor found) := by
        rw [visiting, ListingPhase.visit]
        split <;> rfl
      have step : (usageSystem Reader).next store (.visit reader) = _ :=
        UsageStore.resume_eq there left []
      exact ⟨_, _, execute_cons step, .of_setListing _ _ _, UsageStore.listings_setListing _ _ _,
        rfl⟩
  | cons key rest ih =>
      rw [List.foldlM_cons] at looped
      cases added : addKey store.redis services key with
      | error failure =>
          rw [added] at looped
          cases looped
      | ok more =>
          rw [added] at looped
          have turned : listing.phase.visit store.redis = some (.visiting cursor rest more) := by
            rw [visiting, ListingPhase.visit, added]
          have step : (usageSystem Reader).next store (.visit reader) = _ :=
            UsageStore.resume_eq there turned []
          have here := UsageStore.listings_setListing store reader
            ⟨.visiting cursor rest more, listing.present, listing.returned ++ []⟩
          obtain ⟨after, last, executed, changed, kept, ended⟩ := ih here rfl looped
          exact ⟨after, last, (execute_cons step).trans executed,
            (UsageStore.ChangedFor.of_setListing _ _ _).trans changed, kept, ended⟩

/-- The loop over the answers, while nothing else happens. -/
theorem exists_steps_of_scanServices {cursor : Nat} {replies : List ScanReply}
    {services found : OrderedDict String ServiceTotals} {store : UsageStore Reader}
    {listing : Listing} (there : store.listings reader = some listing)
    (scanning : listing.phase = .scanning cursor services)
    (scanned : scanServices store.redis replies services = .ok (some found)) :
    ∃ steps after, (usageSystem Reader).execute steps store = some after ∧
      store.ChangedFor reader after ∧ after.answer reader = some found := by
  induction replies generalizing store listing cursor services with
  | nil => cases scanned
  | cons reply further ih =>
      rw [scanServices] at scanned
      cases looped : reply.keys.foldlM (addKey store.redis) services with
      | error failure =>
          rw [looped] at scanned
          cases scanned
      | ok more =>
          rw [looped] at scanned
          have given : listing.phase.scan reply =
              some (.visiting reply.cursor reply.keys services) := by
            rw [scanning, ListingPhase.scan]
          have step : (usageSystem Reader).next store (.scan reader reply) = _ :=
            UsageStore.resume_eq there given reply.keys
          have here := UsageStore.listings_setListing store reader
            ⟨.visiting reply.cursor reply.keys services, listing.present,
              listing.returned ++ reply.keys⟩
          obtain ⟨after, last, visits, visitChange, kept, ended⟩ := execute_visits here rfl looped
          have changed := (UsageStore.ChangedFor.of_setListing _ _ _).trans visitChange
          have visited := (execute_cons step).trans visits
          by_cases final : reply.cursor = 0
          · simp only [Bind.bind, Except.bind, final, if_true] at scanned ended
            cases scanned
            exact ⟨_, after, visited, changed, UsageStore.answer_of_phase kept ended⟩
          · simp only [Bind.bind, Except.bind, final, if_false] at scanned ended
            have sameRedis : after.redis = store.redis := changed.redis
            obtain ⟨steps, finish, executed, further, answered⟩ :=
              ih kept ended (by rwa [sameRedis])
            have whole := @execute_append _ _ (usageSystem Reader)
              (.scan reader reply :: List.replicate (reply.keys.length + 1) (.visit reader)) steps
              store
            rw [visited] at whole
            exact ⟨_, finish, whole.trans executed, changed.trans further, answered⟩

/-- **A request that is alone** gets what the loops of `get_summary` compute. -/
theorem exists_steps_of_getSummary {replies : List ScanReply}
    {services : OrderedDict String ServiceTotals} {store : UsageStore Reader}
    (absent : store.listings reader = none)
    (summary : getSummary store.redis replies none = .ok (some (.services services))) :
    ∃ steps after, (usageSystem Reader).execute (.list reader :: steps) store = some after ∧
      store.ChangedFor reader after ∧ after.answer reader = some services := by
  have scanned : scanServices store.redis replies .empty = .ok (some services) := by
    unfold getSummary at summary
    rw [Option.filter_none] at summary
    cases loops : scanServices store.redis replies .empty with
    | error failure =>
        rw [loops] at summary
        cases summary
    | ok found =>
        rw [loops] at summary
        cases found with
        | none => cases summary
        | some found =>
            cases summary
            rfl
  have step : (usageSystem Reader).next store (.list reader) =
      some (store.setListing reader ⟨.scanning 0 .empty, store.redis, []⟩) := by
    change usageNext store (.list reader) = _
    rw [usageNext, absent]
  have here := UsageStore.listings_setListing store reader ⟨.scanning 0 .empty, store.redis, []⟩
  obtain ⟨steps, after, executed, changed, answered⟩ :=
    exists_steps_of_scanServices here rfl scanned
  exact ⟨steps, after, (execute_cons step).trans executed,
    (UsageStore.ChangedFor.of_setListing _ _ _).trans changed, answered⟩

end Runs

/-! ## A call in between -/

/-- The keys of some calls. -/
def usageKeys (calls : List CostRecord) : List String :=
  calls.flatMap fun call => [serviceKey call.service_name, modelKey call.service_name call.model]

/-- Redis may give all keys at once. -/
theorem scanGuarantee_usageKeys {Reader : Type} {store after : UsageStore Reader} {reader : Reader}
    (redis : store.redis = recordAll store.calls)
    (present : ∀ listing, store.listings reader = some listing →
      ∃ base, base <+: store.calls ∧ listing.present = recordAll base) :
    ScanGuarantee ⟨store, .scan reader ⟨0, usageKeys store.calls⟩, after⟩ := by
  rintro other reply listing ⟨⟩ found
  dsimp only at found ⊢
  have given (key : String) := (completeScan_recordAll store.calls).matching key
  simp only [List.mem_singleton, exists_eq_left] at given
  refine ⟨fun key member => ?_, fun _ rest known => List.mem_append_right _ ?_⟩
  · rw [redis]
    exact (given key).mp member
  · obtain ⟨base, shorter, same⟩ := present listing found
    rw [same] at known
    exact (given _).mpr ⟨hasKey_recordAll_mono shorter known, rest, rfl⟩

/-- A call can be recorded while the request visits the keys of an answer. -/
theorem exists_listing_run {Reader : Type} [DecidableEq Reader] {store : UsageStore Reader}
    {reader : Reader} (redis : store.redis = recordAll store.calls)
    (absent : store.listings reader = none) (entry : CostRecord) :
    ∃ during finish services, (usageSystem Reader).Run store during finish ∧
      (∀ step ∈ during, ScanGuarantee step) ∧ finish.answer reader = some services ∧
      finish.calls = store.calls ++ [entry] ∧
      ∀ other, other ≠ reader → finish.listings other = store.listings other := by
  let begun := store.setListing reader ⟨.scanning 0 .empty, store.redis, []⟩
  let given := begun.setListing reader
    ⟨.visiting 0 (usageKeys store.calls) .empty, store.redis, usageKeys store.calls⟩
  let recorded := { given with
    redis := (record given.redis entry).2, calls := given.calls ++ [entry] }
  have list : (usageSystem Reader).next store (.list reader) = some begun := by
    change usageNext store (.list reader) = _
    rw [usageNext, absent]
  have scan : (usageSystem Reader).next begun (.scan reader ⟨0, usageKeys store.calls⟩) =
      some given := by
    have scanning := UsageStore.listings_setListing store reader
      ⟨.scanning 0 .empty, store.redis, []⟩
    have answered : (ListingPhase.scanning 0 .empty).scan ⟨0, usageKeys store.calls⟩ =
        some (.visiting 0 (usageKeys store.calls) .empty) := rfl
    exact UsageStore.resume_eq scanning answered (usageKeys store.calls)
  have record : (usageSystem Reader).next given (.record entry) = some recorded := rfl
  have sameRedis : recorded.redis = recordAll (store.calls ++ [entry]) := by
    rw [recordAll_append, ← redis]
    rfl
  have nothing : Lists (fun service => .ofCalls service (callsUnder service
      (store.calls ++ [entry]))) ∅ .empty := by
    intro service totals
    simp
  obtain ⟨services, looped, -⟩ := foldlM_addKey_lists
    (getServiceSummary_recordAll (store.calls ++ [entry])) nothing (usageKeys store.calls)
  rw [← sameRedis] at looped
  have there : recorded.listings reader = some _ := UsageStore.listings_setListing begun reader _
  obtain ⟨finish, last, visits, changed, kept, ended⟩ := execute_visits there rfl looped
  obtain ⟨further, run, labels⟩ := Run.extend_of_execute
    (((Run.nil.snoc list).snoc scan).snoc record) visits
  refine ⟨_, finish, services, run, ?_, UsageStore.answer_of_phase kept ended, changed.calls, ?_⟩
  · intro step member
    rcases List.mem_append.mp member with begin | visiting
    · simp only [List.nil_append, List.cons_append, List.mem_cons, List.not_mem_nil,
        or_false] at begin
      rcases begin with rfl | rfl | rfl
      · rintro other reply listing ⟨⟩
      · refine scanGuarantee_usageKeys redis fun listing found => ?_
        cases (UsageStore.listings_setListing _ _ _).symm.trans found
        exact ⟨store.calls, List.prefix_rfl, redis⟩
      · rintro other reply listing ⟨⟩
    · have visit : step.label = .visit reader :=
        List.eq_of_mem_replicate (labels ▸ List.mem_map_of_mem visiting)
      intro other reply listing scanned
      cases visit.symm.trans scanned
  · intro other different
    rw [changed.others other different]
    exact ((UsageStore.ChangedFor.of_setListing _ _ _).trans (.of_setListing _ _ _)).others
      other different

def chatCall : CostRecord := ⟨"chat", "gemini-2.0-flash", 3, 4⟩

def docsCall : CostRecord := ⟨"docs", "gemini-2.0-flash", 5, 6⟩

/-- Nothing is recorded. -/
def unread : UsageStore ℕ := ⟨.empty, [], fun _ => none⟩

/-- Nobody has asked for a summary. -/
def afterChat : UsageStore ℕ := ⟨recordAll [chatCall], [chatCall], fun _ => none⟩

theorem run_afterChat :
    (usageSystem ℕ).Run unread [⟨unread, .record chatCall, afterChat⟩] afterChat :=
  Run.nil.snoc rfl

/-- A call for "chat" is recorded before the request, and one for "docs" while it visits the
keys. -/
theorem one_or_two_calls_listed :
    ∃ (finish : UsageStore ℕ) (services : OrderedDict String ServiceTotals),
      finish.calls = [chatCall, docsCall] ∧ finish.answer 1 = some services ∧
        1 ≤ listedRequests services ∧ listedRequests services ≤ 2 := by
  have absent : afterChat.listings 1 = none := rfl
  obtain ⟨during, finish, services, run, guarantee, answered, calls, -⟩ :=
    exists_listing_run rfl absent docsCall
  obtain ⟨-, -, most, least⟩ := listing_is_bracketed ⟨rfl, rfl, fun _ => rfl⟩ run_afterChat
    absent run guarantee answered
  rw [calls] at most
  exact ⟨finish, services, calls, answered, least (by decide), most⟩

/-- The second request lists the service that the first one listed. -/
theorem chat_is_listed_again :
    ∃ (middle finish : UsageStore ℕ) (firstServices services : OrderedDict String ServiceTotals),
      middle.answer 1 = some firstServices ∧ finish.answer 2 = some services ∧
        finish.calls = [chatCall, docsCall, chatCall] ∧
        ∃ totals later, firstServices.get? "chat" = some totals ∧
          services.get? "chat" = some later ∧ totals.total_requests ≤ later.total_requests := by
  have absent : afterChat.listings 1 = none := rfl
  obtain ⟨before, middle, firstServices, earlier, earlierGuarantee, firstAnswered, calls, others⟩ :=
    exists_listing_run rfl absent docsCall
  have tracked := tracked_of_run ⟨rfl, rfl, fun _ => rfl⟩ run_afterChat absent earlier
    earlierGuarantee
  obtain ⟨totals, found⟩ := Option.isSome_iff_exists.mp
    (tracked.complete firstAnswered (List.mem_singleton_self chatCall) (by decide))
  have second : middle.listings 2 = none := others 2 (by decide)
  obtain ⟨during, finish, services, run, guarantee, answered, more, -⟩ :=
    exists_listing_run tracked.redis second chatCall
  have whole := run_afterChat.append earlier
  have wholeGuarantee : ∀ step ∈ [⟨unread, .record chatCall, afterChat⟩] ++ before,
      ScanGuarantee step := by
    intro step member
    rcases List.mem_append.mp member with first | later
    · rw [List.mem_singleton.mp first]
      rintro other reply listing ⟨⟩
    · exact earlierGuarantee step later
  obtain ⟨later, -, -, there, -, -, -, -, le⟩ := later_listing_has_seen_more
    ⟨rfl, rfl, fun _ => rfl⟩ whole wholeGuarantee firstAnswered second run guarantee answered found
  rw [calls] at more
  exact ⟨middle, finish, firstServices, services, firstAnswered, answered, more, totals, later,
    found, there, le⟩

end LlmopsPlatform.Gateway
