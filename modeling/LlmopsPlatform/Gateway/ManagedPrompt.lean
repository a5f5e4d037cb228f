import LlmopsPlatform.Gateway.Anthropic
import LlmopsPlatform.Gateway.Completions
import LlmopsPlatform.Gateway.Gemini

/-!
# When the managed prompt reaches the model

The endpoint puts the rendered prompt in front of the messages of the client, as a
system message. Both adapters send the last system message only. So a system message
of the client replaces the managed prompt.

The prompt, and every system message besides it, is in the instruction that both
adapters send exactly when the last system message is not empty and contains all the
others (`managed_prompt_arrives_iff`).
-/

set_option autoImplicit false

namespace LlmopsPlatform.Gateway

open Foundations Python Prompts

/-- The instruction is present and has the content in it. -/
def Contains (instruction : Option String) (content : String) : Prop :=
  ∃ text, instruction = some text ∧ content.toList <:+: text.toList

/-- Both adapters send an instruction that has the content in it. -/
def Arrives (chat : ChatRequest) (content : String) : Prop :=
  Contains (AnthropicProvider.buildParams chat).system content ∧
    Contains (GeminiProvider.buildConfig chat
      (GeminiProvider.buildContents chat).2).system_instruction content

/-- The last of the contents is not empty and contains all of them. Without contents
there is nothing to contain. -/
def LastCoversAll (contents : List String) : Prop :=
  match contents.getLast? with
  | none => True
  | some last => last ≠ "" ∧ ∀ content ∈ contents, content.toList <:+: last.toList

/-- A content arrives if the last system message is not empty and contains it. -/
theorem arrives_iff (chat : ChatRequest) (content : String) :
    Arrives chat content ↔
      ∃ last, (systemContents chat.messages).getLast? = some last ∧ last ≠ "" ∧
        content.toList <:+: last.toList := by
  rw [Arrives, AnthropicProvider.buildParams_system,
    GeminiProvider.buildConfig_system_instruction, and_self, Contains]
  constructor
  · rintro ⟨text, isLast, contained⟩
    obtain ⟨last, nonempty⟩ := Option.filter_eq_some_iff.mp isLast
    exact ⟨text, last, by simpa using nonempty, contained⟩
  · rintro ⟨last, isLast, nonempty, contained⟩
    exact ⟨last, Option.filter_eq_some_iff.mpr ⟨isLast, by simpa using nonempty⟩, contained⟩

/-- All system messages arrive exactly if the last one covers them. -/
theorem all_arrive_iff (chat : ChatRequest) :
    (∀ content ∈ systemContents chat.messages, Arrives chat content) ↔
      LastCoversAll (systemContents chat.messages) := by
  simp only [arrives_iff, LastCoversAll]
  cases isLast : (systemContents chat.messages).getLast? with
  | none =>
      have nothing := List.getLast?_eq_none_iff.mp isLast
      simp [nothing]
  | some last =>
      have member : last ∈ systemContents chat.messages := List.mem_of_getLast? isLast
      constructor
      · intro arrive
        refine ⟨?_, ?_⟩
        · obtain ⟨other, same, nonempty, -⟩ := arrive last member
          cases same
          exact nonempty
        · intro content isSystem
          obtain ⟨other, same, -, contained⟩ := arrive content isSystem
          cases same
          exact contained
      · rintro ⟨nonempty, covers⟩ content isSystem
        exact ⟨last, rfl, nonempty, covers content isSystem⟩

/-- **The managed prompt.** It and every system message of the client arrive exactly
if the last system message covers them; and the same holds of the system messages of
any other request. -/
theorem managed_prompt_arrives_iff (jinja : Jinja) (tables : PromptTables)
    (req : CompletionRequest) (name rendered : String) (version_data : VersionDict)
    (chat : ChatRequest) (named : req.prompt_name = some name) (nonempty : name ≠ "")
    (found : PromptManager.get tables name req.prompt_version req.prompt_env = .ok version_data)
    (renders :
      PromptRenderer.render jinja version_data.template req.prompt_variables = .ok rendered)
    (converted : (resolvePrompt jinja tables req >>= toChatRequest) = .ok chat) :
    ((Arrives chat rendered ∧ ∀ content ∈ systemContents chat.messages, Arrives chat content) ↔
        LastCoversAll (rendered :: clientSystemContents req.messages)) ∧
      ∀ other : ChatRequest,
        (∀ content ∈ systemContents other.messages, Arrives other content) ↔
          LastCoversAll (systemContents other.messages) := by
  have contents := systemContents_of_resolvePrompt named nonempty found renders converted
  have covered := all_arrive_iff chat
  rw [contents] at covered
  refine ⟨?_, all_arrive_iff⟩
  rw [← covered, contents]
  constructor
  · intro arrive
    exact arrive.2
  · intro arrive
    exact ⟨arrive rendered List.mem_cons_self, arrive⟩

/-! ## A client that sends a system message -/

/-- An installation with one prompt. -/
def supportTables : PromptTables :=
  PromptTables.afterRun [.create 1 1 0 "support-bot" "You are a support agent." "" none]

/-- A request for the prompt with these messages. -/
def supportRequest (messages : List (List (String × String))) : CompletionRequest where
  toGenerationOptions := .defaults "claude-sonnet-4-20250514"
  messages
  prompt_name := some "support-bot"
  prompt_version := none
  prompt_env := none
  prompt_variables := []

/-- The template has no placeholder, and it renders to itself. -/
def plainJinja : Jinja := fun template _ => .ok template

/-- The user asks, and sends no system message. -/
theorem support_prompt_arrives :
    ∃ version_data chat,
      PromptManager.get supportTables "support-bot" none none = .ok version_data ∧
      (resolvePrompt plainJinja supportTables
        (supportRequest [[("role", "user"), ("content", "Hi")]]) >>= toChatRequest) = .ok chat ∧
      ((Arrives chat version_data.template ∧
          ∀ content ∈ systemContents chat.messages, Arrives chat content) ↔
        LastCoversAll (version_data.template ::
          clientSystemContents [[("role", "user"), ("content", "Hi")]])) ∧
      ∀ other : ChatRequest,
        (∀ content ∈ systemContents other.messages, Arrives other content) ↔
          LastCoversAll (systemContents other.messages) :=
  ⟨_, _, rfl, rfl, managed_prompt_arrives_iff plainJinja supportTables
    (supportRequest [[("role", "user"), ("content", "Hi")]]) "support-bot" _ _ _ rfl
    (by decide) rfl rfl rfl⟩

/-- **A system message of the client replaces the managed prompt.** -/
theorem client_system_message_replaces_the_prompt :
    ¬ ∀ (jinja : Jinja) (tables : PromptTables) (req : CompletionRequest)
        (name rendered : String) (version_data : VersionDict) (chat : ChatRequest),
        req.prompt_name = some name → name ≠ "" →
        PromptManager.get tables name req.prompt_version req.prompt_env = .ok version_data →
        PromptRenderer.render jinja version_data.template req.prompt_variables = .ok rendered →
        (resolvePrompt jinja tables req >>= toChatRequest) = .ok chat →
        Arrives chat rendered := by
  intro always
  have arrives := always plainJinja supportTables
    (supportRequest [[("role", "system"), ("content", "Answer in French.")],
      [("role", "user"), ("content", "Hi")]])
    "support-bot" "You are a support agent." _ _ rfl (by decide) rfl rfl rfl
  obtain ⟨last, isLast, -, contained⟩ := (arrives_iff _ _).mp arrives
  have french : last = "Answer in French." := by
    cases isLast
    rfl
  rw [french] at contained
  -- The text that is sent is shorter than the prompt.
  have shorter := contained.length_le
  revert shorter
  decide

end LlmopsPlatform.Gateway
