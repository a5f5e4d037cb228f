import LlmopsPlatform.Foundations.Effectful
import LlmopsPlatform.Scoring.Base

/-!
# Processing one scoring job

`process_job` scores the texts of a job, commits one row to `score_results`, and then
submits every score to the observability backend and flushes it. The commit and the
submissions are separate effects, and each of them may fail. What the services do on
one attempt is a parameter, `Services`.
-/

set_option autoImplicit false

namespace LlmopsPlatform.Workers

open Foundations Python Scoring

/-- A score submitted to the observability backend. -/
structure ScoreSubmission where
  trace_id : Json
  name : String
  value : Double
  comment : Option String

/-- The behaviour of everything `process_job` calls, on one attempt. A failure is the
exception that the call raises. -/
structure Services where
  /-- The validation of `ScorerConfig(strategy=…, weight=…, config=…)`. -/
  scorerConfig : Json → Json → Json → Except PyException ScorerConfig
  /-- `ScoringPipeline(scorer_configs)`. -/
  construct : List ScorerConfig → Except PyException Unit
  /-- `pipeline.run(input_text=…, output_text=…, reference=…)`. -/
  runPipeline : List ScorerConfig → Json → Json → Json → Except PyException PipelineResult
  commit : ScoreResultModel → Except PyException Unit
  /-- `get_observability_backend()`. -/
  observability : Except PyException Unit
  /-- `observability.score(…)`, for the score at a position. -/
  score : Nat → ScoreSubmission → Except PyException Unit
  flush : Except PyException Unit

/-- What processing a job changes. -/
structure ScoringBackend where
  score_results : List ScoreResultModel
  submissions : List ScoreSubmission
  flushes : Nat

variable (services : Services)

/-- The scorer configurations of a job. -/
def scorerConfigs (job_data : Json) : Except PyException (List ScorerConfig) := do
  let scorers ← (← job_data.item "scorers_config").iterate
  scorers.mapM fun s => do
    let strategy ← s.item "strategy"
    let weight ← s.getMethod "weight" (.float (.finite 1))
    let config ← s.getMethod "config" (.dict [])
    services.scorerConfig strategy weight config

/-- The part of `process_job` before the commit. It returns the row to store. -/
def scoreJob (job_data : Json) : Except PyException ScoreResultModel := do
  let scorer_configs ← scorerConfigs services job_data
  services.construct scorer_configs
  let input_text ← job_data.item "input_text"
  let output_text ← job_data.item "output_text"
  let reference_text ← job_data.getMethod "reference_text" .null
  let result ← services.runPipeline scorer_configs input_text output_text reference_text
  let pipeline_id ← job_data.item "pipeline_id"
  let trace_id ← job_data.item "trace_id"
  pure {
    pipeline_id, trace_id, input_text, output_text, reference_text
    aggregate_score := result.aggregate_score
    individual_scores := result.individual_scores }

/-- The loop over the individual scores, from a position on. -/
def submitScores (trace_id : Json) :
    Nat → List ScoreResult → Effectful ScoringBackend PyException Unit
  | _, [] => pure ()
  | position, score :: rest => do
      let submission : ScoreSubmission := ⟨trace_id, score.name, score.value, score.comment⟩
      .ofExcept (services.score position submission)
      .modify fun backend => { backend with submissions := backend.submissions ++ [submission] }
      submitScores trace_id (position + 1) rest

/-- The part of `process_job` after the commit. -/
def submitRecord (record : ScoreResultModel) : Effectful ScoringBackend PyException Unit := do
  .ofExcept services.observability
  submitScores services record.trace_id 0 record.individual_scores
  .ofExcept services.flush
  .modify fun backend => { backend with flushes := backend.flushes + 1 }

/-- `process_job`. -/
def processJob (job_data : Json) : Effectful ScoringBackend PyException Unit := do
  let record ← .ofExcept (scoreJob services job_data)
  .ofExcept (services.commit record)
  .modify fun backend => { backend with score_results := backend.score_results ++ [record] }
  submitRecord services record

/-! ## What it stores -/

/-- On this attempt nothing fails after the commit. -/
structure Services.Delivers : Prop where
  observability : services.observability = .ok ()
  score : ∀ position submission, services.score position submission = .ok ()
  flush : services.flush = .ok ()

variable {services}

/-- The submissions store no row. -/
theorem submitScores_keeps (trace_id : Json) (position : Nat) (scores : List ScoreResult) :
    (submitScores services trace_id position scores).Keeps ScoringBackend.score_results := by
  induction scores generalizing position with
  | nil => exact .pure ()
  | cons score rest ih =>
      apply Effectful.Keeps.bind (.ofExcept _)
      intro _
      apply Effectful.Keeps.bind
      · exact .modify fun _ => rfl
      intro _
      exact ih (position + 1)

theorem submitRecord_keeps (record : ScoreResultModel) :
    (submitRecord services record).Keeps ScoringBackend.score_results := by
  apply Effectful.Keeps.bind (.ofExcept _)
  intro _
  apply Effectful.Keeps.bind (submitScores_keeps record.trace_id 0 record.individual_scores)
  intro _
  apply Effectful.Keeps.bind (.ofExcept _)
  intro _
  exact .modify fun _ => rfl

/-- When the services deliver, the submissions succeed. -/
theorem submitScores_succeeds (delivers : services.Delivers) (trace_id : Json) (position : Nat)
    (scores : List ScoreResult) : (submitScores services trace_id position scores).Succeeds := by
  induction scores generalizing position with
  | nil => exact .pure ()
  | cons score rest ih =>
      apply Effectful.Succeeds.bind (.ofExcept (delivers.score _ _))
      intro _
      apply Effectful.Succeeds.bind (.modify _)
      intro _
      exact ih (position + 1)

theorem submitRecord_succeeds (delivers : services.Delivers) (record : ScoreResultModel) :
    (submitRecord services record).Succeeds := by
  apply Effectful.Succeeds.bind (.ofExcept delivers.observability)
  intro _
  apply Effectful.Succeeds.bind (submitScores_succeeds delivers _ _ _)
  intro _
  apply Effectful.Succeeds.bind (.ofExcept delivers.flush)
  intro _
  exact .modify _

/-- What they submit: each score in its turn. -/
theorem run_submitScores (delivers : services.Delivers) (trace_id : Json) (position : Nat)
    (scores : List ScoreResult) (backend : ScoringBackend) :
    (submitScores services trace_id position scores).run backend =
      (.ok (), { backend with
        submissions := backend.submissions ++ scores.map fun score =>
          ⟨trace_id, score.name, score.value, score.comment⟩ }) := by
  induction scores generalizing position backend with
  | nil => simp [submitScores]
  | cons score rest ih =>
      rw [submitScores]
      simp only [delivers.score, Effectful.run_ofExcept_ok_bind, Effectful.run_modify_bind, ih]
      simp

/-- **One attempt.** Either it raises before it stores anything, or it stores one row
and then submits it. -/
theorem run_processJob (services : Services) (job_data : Json) (backend : ScoringBackend) :
    (∃ failure, (processJob services job_data).run backend = (.error failure, backend)) ∨
    (∃ record, scoreJob services job_data = .ok record ∧
      (processJob services job_data).run backend =
        (submitRecord services record).run
          { backend with score_results := backend.score_results ++ [record] }) := by
  cases scored : scoreJob services job_data with
  | error failure => exact .inl ⟨failure, by simp [processJob, scored]⟩
  | ok record =>
      cases committed : services.commit record with
      | error failure => exact .inl ⟨failure, by simp [processJob, scored, committed]⟩
      | ok done => exact .inr ⟨record, rfl, by simp [processJob, scored, committed]⟩

/-- An attempt stores at most one row, and when nothing fails after the commit, an
attempt that stored its row succeeds. -/
theorem processJob_score_results (services : Services) (job_data : Json)
    (backend : ScoringBackend) :
    ∃ stored, ((processJob services job_data).run backend).2.score_results =
        backend.score_results ++ stored ∧ stored.length ≤ 1 ∧
      (services.Delivers → stored ≠ [] →
        ((processJob services job_data).run backend).1 = .ok ()) := by
  rcases run_processJob services job_data backend with ⟨failure, raised⟩ | ⟨record, -, submitted⟩
  · exact ⟨[], by simp [raised], by simp, fun _ nonempty => absurd rfl nonempty⟩
  · refine ⟨[record], ?_, le_rfl, ?_⟩
    · rw [submitted]
      exact submitRecord_keeps record _
    · intro delivers _
      rw [submitted]
      obtain ⟨result, isOk⟩ := submitRecord_succeeds delivers record _
      exact isOk

end LlmopsPlatform.Workers
