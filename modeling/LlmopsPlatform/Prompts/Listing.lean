import LlmopsPlatform.Prompts.ConcurrentVersions

/-!
# Looking up the latest version

Four queries find the latest version of a prompt: `get` and the repository order and limit
the versions, `list_prompts` takes the first one of an ordered relationship, and
`list_versions` lists them all.

When the versions of a prompt are numbered from one without a gap, the four agree
(`Numbered.lookupsAgree`).
-/

set_option autoImplicit false

namespace LlmopsPlatform.Prompts

open Foundations Python Database PromptManager PromptTables

/-- `PromptRepository.get_version`. -/
def PromptRepository.getVersion (tables : PromptTables) (prompt_id : Nat) (version : Option Int)
    (environment : Option PromptEnvironment) : Except PyException (Option PromptVersionModel) :=
  match version with
  | some number =>
      scalarOneOrNone (tables.versions.filter fun row => row.versionKey = (prompt_id, number))
  | none =>
      match environment with
      | some label =>
          scalarOneOrNone (newest (tables.versions.filter fun row =>
            row.prompt_id = prompt_id ∧ row.environment = label))
      | none =>
          scalarOneOrNone (newest (tables.versions.filter fun row => row.prompt_id = prompt_id))

/-- The number of versions of a prompt. -/
def versionCount (tables : PromptTables) (prompt : PromptModel) : Nat :=
  (selectVersions tables prompt).length

/-- The listing is complete and in descending order, and the three other lookups return
the version with the greatest number. -/
structure LookupsAgree (tables : PromptTables) (prompt : PromptModel) : Prop where
  listed : ∃ versions, listVersions tables prompt.name = .ok versions ∧
    versions.map VersionDict.version = (oneTo (versionCount tables prompt)).reverse
  latest : ∃ row ∈ selectVersions tables prompt, row.version = versionCount tables prompt ∧
    PromptManager.get tables prompt.name none none = .ok (versionToDict row) ∧
    PromptRepository.getVersion tables prompt.id none none = .ok (some row) ∧
    promptToDict prompt (some row) ∈ listPrompts tables ∧
    ∀ entry ∈ listPrompts tables, entry.id = prompt.id →
      entry.latest_version = some (versionToDict row)

variable {tables : PromptTables} {prompt : PromptModel}

theorem versionCount_eq {count : Nat} (numbers : versionNumbers tables prompt.id = oneTo count) :
    versionCount tables prompt = count := by
  have sameLength := congrArg List.length numbers
  rwa [versionNumbers, List.length_map, length_oneTo] at sameLength

/-- **The lookups agree** on every active prompt, when the versions of all prompts are
numbered. -/
theorem Numbered.lookupsAgree (numbered : Numbered tables) (member : prompt ∈ tables.prompts)
    (active : prompt.is_active = true) : LookupsAgree tables prompt := by
  obtain ⟨count, positive, numbers⟩ := numbered prompt member
  have found := getPromptByName_eq_ok_iff.mpr ⟨member, rfl⟩
  obtain ⟨row, selected, isNewest, first⟩ := exists_newest positive numbers
  have queried : scalarOneOrNone (newest (selectVersions tables prompt)) = .ok (some row) := by
    rw [scalarOneOrNone_newest, first]
  have listedPrompt : ∀ other ∈ tables.prompts, other.id = prompt.id → other = prompt :=
    fun other isPrompt sameId => tables.promptIdUnique.eq_of_key_eq isPrompt member sameId
  refine ⟨⟨_, by rw [listVersions, found]; rfl, ?_⟩, row, selected, ?_, ?_, queried, ?_, ?_⟩
  · rw [versionCount_eq numbers, ← map_version_selectVersions numbers, List.map_map]
    rfl
  · rw [versionCount_eq numbers, isNewest]
  · unfold PromptManager.get
    simp only [found, bind, Except.bind, Option.filter_none, queried]
    rfl
  · refine List.mem_map.mpr ⟨prompt, List.mem_filter.mpr ⟨member, active⟩, ?_⟩
    rw [first]
  · intro entry isListed sameId
    obtain ⟨other, isActive, rfl⟩ := List.mem_map.mp isListed
    obtain rfl := listedPrompt other (List.mem_filter.mp isActive).1 sameId
    rw [first]
    rfl

end LlmopsPlatform.Prompts
