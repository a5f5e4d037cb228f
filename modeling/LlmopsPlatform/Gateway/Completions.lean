import LlmopsPlatform.Foundations.Effectful
import LlmopsPlatform.Gateway.Schemas
import LlmopsPlatform.Prompts.Manager

/-!
# The completions endpoint

The request of the endpoint, the resolution of a managed prompt into its messages, and
the conversion to the unified request. The template engine that renders the prompt is a
parameter, since it is not part of the repository.
-/

set_option autoImplicit false

namespace LlmopsPlatform.Gateway

open Foundations Python Prompts

/-- The body of `POST /v1/chat/completions`. Messages are dictionaries of strings. -/
structure CompletionRequest extends GenerationOptions where
  messages : List (List (String × String))
  prompt_name : Option String
  prompt_version : Option Int
  prompt_env : Option String
  prompt_variables : List (String × String)

/-- What the template engine raises. `other` stands for every exception but the two
that the renderer translates. -/
inductive JinjaError where
  | templateSyntaxError (message : String)
  | undefinedError (message : String)
  | other (raised : PyException)

/-- The call `_jinja_env.from_string(template).render(**variables)`. -/
abbrev Jinja := String → List (String × String) → Except JinjaError String

/-- `PromptRenderer.render`. -/
def PromptRenderer.render (jinja : Jinja) (template : String)
    (prompt_variables : List (String × String)) : Except PyException String :=
  match jinja template prompt_variables with
  | .ok text => .ok text
  | .error (.templateSyntaxError message)
  | .error (.undefinedError message) =>
      .error (.valueError ("Template rendering failed: " ++ message))
  | .error (.other raised) => .error raised

/-- `_resolve_prompt`. -/
def resolvePrompt (jinja : Jinja) (tables : PromptTables) (req : CompletionRequest) :
    Except PyException CompletionRequest :=
  match req.prompt_name.filter (· ≠ "") with
  | none => .ok req
  | some prompt_name => do
      let version_data ←
        PromptManager.get tables prompt_name req.prompt_version req.prompt_env
      let rendered ←
        PromptRenderer.render jinja version_data.template req.prompt_variables
      -- The rendered prompt is put in front, the messages of the client are kept.
      let prompt_message := [("role", "system"), ("content", rendered)]
      let metadata := req.metadata
        |> OrderedDict.write "prompt_name" (fun _ => .str prompt_name)
        |> OrderedDict.write "prompt_version" (fun _ => .int version_data.version)
        |> OrderedDict.write "prompt_environment" (fun _ => .str version_data.environment)
      pure { req with messages := prompt_message :: req.messages, metadata }

/-- One message of the loop of `_to_chat_request`. -/
def toMessage (msg : List (String × String)) : Except PyException Message := do
  let role ← Role.ofValue ((OrderedDict.find "role" msg).getD "user")
  pure { role, content := (OrderedDict.find "content" msg).getD "" }

/-- `_to_chat_request`. -/
def toChatRequest (req : CompletionRequest) : Except PyException ChatRequest := do
  let messages ← req.messages.mapM toMessage
  pure { req with messages }

/-- The system messages of the client, by their contents. -/
def clientSystemContents (messages : List (List (String × String))) : List String :=
  (messages.filter fun msg => (OrderedDict.find "role" msg).getD "user" = "system").map
    fun msg => (OrderedDict.find "content" msg).getD ""

/-! ## The messages that are sent on -/

theorem toMessage_inversion {msg : List (String × String)} {message : Message}
    (isOk : toMessage msg = .ok message) :
    (message.role = .system ↔ (OrderedDict.find "role" msg).getD "user" = "system") ∧
      message.content = (OrderedDict.find "content" msg).getD "" := by
  cases parsed : Role.ofValue ((OrderedDict.find "role" msg).getD "user") with
  | error failure =>
      rw [toMessage, parsed] at isOk
      cases isOk
  | ok role =>
      rw [toMessage, parsed] at isOk
      cases isOk
      refine ⟨?_, rfl⟩
      rw [← Role.value_of_ofValue parsed]
      cases role <;> simp [Role.value]

/-- Converting messages keeps the contents of the system messages. -/
theorem systemContents_of_mapM {messages : List (List (String × String))}
    {converted : List Message} (isOk : messages.mapM toMessage = .ok converted) :
    systemContents converted = clientSystemContents messages := by
  have corresponding := forall₂_of_mapM_ok isOk
  clear isOk
  induction corresponding with
  | nil => rfl
  | cons first others same =>
      obtain ⟨isSystem, content⟩ := toMessage_inversion first
      unfold systemContents clientSystemContents at same ⊢
      rw [List.filter_cons, List.filter_cons]
      rename_i msg message rest further
      by_cases system : message.role = .system
      · simp [system, isSystem.mp system, content, same]
      · simp [system, mt isSystem.mpr system, same]

/-- **The system messages of the unified request.** When the managed prompt resolves
and renders, they are the rendered prompt and then those of the client. -/
theorem systemContents_of_resolvePrompt {jinja : Jinja} {tables : PromptTables}
    {req : CompletionRequest} {name rendered : String} {version_data : VersionDict}
    {chat : ChatRequest} (named : req.prompt_name = some name) (nonempty : name ≠ "")
    (found : PromptManager.get tables name req.prompt_version req.prompt_env = .ok version_data)
    (renders :
      PromptRenderer.render jinja version_data.template req.prompt_variables = .ok rendered)
    (converted : (resolvePrompt jinja tables req >>= toChatRequest) = .ok chat) :
    systemContents chat.messages = rendered :: clientSystemContents req.messages := by
  have present : req.prompt_name.filter (· ≠ "") = some name := by simp [named, nonempty]
  rw [resolvePrompt, present] at converted
  simp only [found, renders, bind, Except.bind, pure, Except.pure, toChatRequest] at converted
  split at converted
  · cases converted
  · rename_i messages isOk
    cases converted
    have same := systemContents_of_mapM isOk
    rw [same]
    rfl

end LlmopsPlatform.Gateway
