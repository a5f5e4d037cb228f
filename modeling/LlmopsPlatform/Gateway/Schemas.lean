import LlmopsPlatform.Python.Json

/-!
# Requests and responses of the gateway

The models that are the same for every provider. The bounds that pydantic enforces on
the numeric fields of a request are fields of `GenerationOptions`, so a request that
breaks one cannot be built.
-/

set_option autoImplicit false

namespace LlmopsPlatform.Gateway

open Python

/-- The enumeration `Role`. -/
inductive Role where
  | system
  | user
  | assistant
deriving DecidableEq, Repr

namespace Role

def value : Role → String
  | system => "system"
  | user => "user"
  | assistant => "assistant"

/-- The call `Role(text)`. -/
def ofValue (text : String) : Except PyException Role :=
  match [system, user, assistant].find? fun role => role.value = text with
  | some role => .ok role
  | none => .error (.valueError ("'" ++ text ++ "' is not a valid Role"))

@[simp] theorem ofValue_value (role : Role) : ofValue role.value = .ok role := by
  cases role <;> rfl

theorem value_of_ofValue {text : String} {role : Role} (parsed : ofValue text = .ok role) :
    role.value = text := by
  rw [ofValue] at parsed
  split at parsed
  · rename_i found matched
    cases parsed
    simpa using List.find?_some matched
  · cases parsed

end Role

structure Message where
  role : Role
  content : String
deriving DecidableEq, Repr

/-- The fields that a completion request and the unified request share. -/
structure GenerationOptions where
  model : String
  temperature : ℚ
  max_tokens : Nat
  top_p : ℚ
  stop : Option (List String)
  stream : Bool
  metadata : List (String × Json)
  temperatureInRange : 0 ≤ temperature ∧ temperature ≤ 2
  max_tokensInRange : 1 ≤ max_tokens ∧ max_tokens ≤ 128000
  top_pInRange : 0 ≤ top_p ∧ top_p ≤ 1

/-- The options of a request that names only its model. -/
def GenerationOptions.defaults (model : String) : GenerationOptions where
  model
  -- the float that is written 0.7
  temperature := 3152519739159347 / 4503599627370496
  max_tokens := 1024
  top_p := 1
  stop := none
  stream := false
  metadata := []
  temperatureInRange := by decide +kernel
  max_tokensInRange := by decide
  top_pInRange := by decide +kernel

/-- The unified request. -/
structure ChatRequest extends GenerationOptions where
  messages : List Message

structure Usage where
  input_tokens : Int
  output_tokens : Int
  total_tokens : Int
deriving DecidableEq, Repr

structure Choice where
  index : Nat
  message : Message
  finish_reason : String
deriving DecidableEq, Repr

structure ChatResponse where
  id : String
  model : String
  choices : List Choice
  usage : Usage
  metadata : List (String × Json)

/-- The property `ChatResponse.content`. -/
def ChatResponse.content (response : ChatResponse) : String :=
  match response.choices with
  | choice :: _ => choice.message.content
  | [] => ""

structure ChatResponseChunk where
  id : String
  model : String
  delta_content : String
  finish_reason : Option String
  usage : Option Usage
deriving DecidableEq, Repr

/-- The contents of the system messages, in order. -/
def systemContents (messages : List Message) : List String :=
  (messages.filter fun msg => msg.role = .system).map Message.content

/-- A loop over messages that lets each system message overwrite the instruction ends
with the last one. -/
theorem foldl_system {Rest : Type} (step : Option String × Rest → Message → Option String × Rest)
    (overwrites : ∀ taken msg, (step taken msg).1 =
      if msg.role = .system then some msg.content else taken.1)
    (messages : List Message) (taken : Option String × Rest) :
    (messages.foldl step taken).1 = (systemContents messages).getLast?.or taken.1 := by
  induction messages generalizing taken with
  | nil => rfl
  | cons msg rest ih =>
      rw [List.foldl_cons, ih, overwrites]
      by_cases isSystem : msg.role = .system
      · simp [systemContents, isSystem, List.getLast?_cons]
      · simp [systemContents, isSystem]

end LlmopsPlatform.Gateway
