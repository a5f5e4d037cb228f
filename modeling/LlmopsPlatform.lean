import LlmopsPlatform.Foundations.TransitionSystem
import LlmopsPlatform.Foundations.Execution
import LlmopsPlatform.Foundations.KeyedRows
import LlmopsPlatform.Database.Query
import LlmopsPlatform.Prompts.Store
import LlmopsPlatform.Prompts.Manager
import LlmopsPlatform.Prompts.Promotion
import LlmopsPlatform.Foundations.OrderedDict
import LlmopsPlatform.Foundations.Tallies
import LlmopsPlatform.Foundations.Rounding
import LlmopsPlatform.Foundations.Effectful
import LlmopsPlatform.Python.Json
import LlmopsPlatform.Python.Float
import LlmopsPlatform.Python.Text
import LlmopsPlatform.Tuning.Experiment
import LlmopsPlatform.Tuning.Winner
import LlmopsPlatform.Tuning.ConcurrentLifecycle
import LlmopsPlatform.Workers.ScoringWorker
import LlmopsPlatform.Workers.TuningWorker
import LlmopsPlatform.Workers.PoisonMessages
import LlmopsPlatform.Scoring.Base
import LlmopsPlatform.Workers.ProcessJob
import LlmopsPlatform.Workers.PersistedResults
import LlmopsPlatform.Workers.ScoringFleet
import LlmopsPlatform.Workers.JobConservation
import LlmopsPlatform.Workers.JobLifecycle
import LlmopsPlatform.Workers.RetryAccounting
import LlmopsPlatform.Gateway.Schemas
import LlmopsPlatform.Gateway.Anthropic
import LlmopsPlatform.Gateway.Gemini
import LlmopsPlatform.Gateway.Completions
import LlmopsPlatform.Gateway.ManagedPrompt
import LlmopsPlatform.Gateway.Router
import LlmopsPlatform.Gateway.UsageAccounting
import LlmopsPlatform.Gateway.Langfuse
import LlmopsPlatform.Gateway.ExactAggregation
import LlmopsPlatform.Gateway.CostAttribution
import LlmopsPlatform.Gateway.GeminiAgreement
import LlmopsPlatform.Foundations.WeightedSum
import LlmopsPlatform.Scoring.Pipeline
import LlmopsPlatform.Scoring.Outage
import LlmopsPlatform.Foundations.SortedSet
import LlmopsPlatform.Middleware.RateLimiter
import LlmopsPlatform.Middleware.RateLimitSafety
import LlmopsPlatform.Prompts.Production
import LlmopsPlatform.Prompts.ConcurrentVersions
import LlmopsPlatform.Python.Hashlib
import LlmopsPlatform.Tuning.ParameterSpace
import LlmopsPlatform.Tuning.Allocation
import LlmopsPlatform.Tuning.Runner
import LlmopsPlatform.Tuning.Lifecycle
import LlmopsPlatform.Tuning.StoredWinner
import LlmopsPlatform.Tuning.ResultPartition
import LlmopsPlatform.Tuning.TrafficRamp
import LlmopsPlatform.Tuning.FrozenResults
import LlmopsPlatform.Tuning.Attribution
import LlmopsPlatform.Foundations.WeightedTree
import LlmopsPlatform.Foundations.RelativeWeights
import LlmopsPlatform.Scoring.Composite
import LlmopsPlatform.Scoring.NestedTree
import LlmopsPlatform.Scoring.ScorerTree
import LlmopsPlatform.Scoring.Strategies
import LlmopsPlatform.Scoring.LLMJudge
import LlmopsPlatform.Scoring.JudgeRoundTrip
import LlmopsPlatform.Scoring.RuleBased
import LlmopsPlatform.Scoring.Embedding
import LlmopsPlatform.Scoring.Flattening
import LlmopsPlatform.Api.Scoring
import LlmopsPlatform.Scoring.ScoreRange
import LlmopsPlatform.Scoring.Validation
import LlmopsPlatform.Api.BackgroundScoring
import LlmopsPlatform.Middleware.RequestCounting
import LlmopsPlatform.Gateway.Conversation
import LlmopsPlatform.Gateway.StreamedText
import LlmopsPlatform.Prompts.Listing
import LlmopsPlatform.Prompts.History
import LlmopsPlatform.Foundations.CounterStore
import LlmopsPlatform.Gateway.CostTracker
import LlmopsPlatform.Gateway.RecordedTotals
import LlmopsPlatform.Gateway.UsageListing
import LlmopsPlatform.Foundations.CosineSimilarity
import LlmopsPlatform.Foundations.Words
import LlmopsPlatform.Foundations.Delimiters
import LlmopsPlatform.Python.Conversions
import LlmopsPlatform.Python.JsonText
import LlmopsPlatform.Python.Words
import LlmopsPlatform.Foundations.Separators
import LlmopsPlatform.Gateway.ModelCounters
import LlmopsPlatform.Gateway.TimeRange
import LlmopsPlatform.Api.EventStream
import LlmopsPlatform.Tuning.StickyAllocation
import LlmopsPlatform.Foundations.Combinations
import LlmopsPlatform.Foundations.Residues
import LlmopsPlatform.Tuning.FairSplit
import LlmopsPlatform.Foundations.Rounds
import LlmopsPlatform.Tuning.GridExpansion
import LlmopsPlatform.Tuning.GridVariants
import LlmopsPlatform.Tuning.GeneratorAgreement
import LlmopsPlatform.Tuning.DeclaredRange
import LlmopsPlatform.Middleware.FullLog
import LlmopsPlatform.Foundations.Templates
import LlmopsPlatform.Api.Routes
import LlmopsPlatform.Middleware.Metrics
import LlmopsPlatform.Foundations.Linearization
import LlmopsPlatform.Prompts.ConcurrentPromotions
import LlmopsPlatform.Prompts.Linearizability
import LlmopsPlatform.Prompts.ReleaseOrder
import LlmopsPlatform.Foundations.Ranking
import LlmopsPlatform.Workers.GracefulShutdown
import LlmopsPlatform.Workers.TuningLoop
import LlmopsPlatform.Api.ChatCompletions
import LlmopsPlatform.Foundations.Stuttering
import LlmopsPlatform.Workers.WorkerMetrics
import LlmopsPlatform.Workers.StartOrder
import LlmopsPlatform.Foundations.Noninterference
import LlmopsPlatform.Middleware.ClientIsolation
import LlmopsPlatform.Python.JsonStrings
import LlmopsPlatform.Python.JsonNumbers
import LlmopsPlatform.Python.JsonReader
import LlmopsPlatform.Python.JsonFuel
import LlmopsPlatform.Python.JsonRoundTrip
import LlmopsPlatform.Workers.QueueTexts
import LlmopsPlatform.Api.WireFormat
import LlmopsPlatform.Gateway.ConcurrentListing
import LlmopsPlatform.Api.BilledTotals
import LlmopsPlatform.Api.ScoringStore
