/-
What an entry of the execution log says. Its text is four fields behind tags, and the
hash at its end is a hash of that text, so an entry commits to its text and to nothing
else. The frame id and the token count are numbers and can be read back. The model and the
content come from the body of a response and are not escaped: where one of them holds
`|ACTION:`, the border between them can be put elsewhere.
-/
import SovereignEdgeTee.Separator
import SovereignEdgeTee.TeeLog

set_option autoImplicit false

namespace SovereignEdgeTee

open Separator

variable {T : Type}

/-- The content of the first choice. -/
def QwenResponse.action (self : QwenResponse) : Option String :=
  self.choices.head?.map fun choice => choice.message.content

/-- The entry of one pair shows what is in the other as well. -/
def EntryCommits (D : Dependencies) (gateway : TeeGateway T) (frame_id frame_id' : UInt64)
    (response response' : QwenResponse) : Prop :=
  gateway.generate_execution_log D frame_id response =
      gateway.generate_execution_log D frame_id' response' →
    frame_id = frame_id' ∧ response.model = response'.model ∧
      response.action = response'.action ∧
      response.usage.total_tokens = response'.usage.total_tokens

/-- A piece of the second model, with its tag, is the start of the first content. -/
def Shifted (model content model' content' : String) : Prop :=
  ∃ piece : String, model' = model ++ "|ACTION:" ++ piece ∧
    content = piece ++ "|ACTION:" ++ content'

/-! ## The text of an entry

As a list of characters: four fields, each behind its tag. The numbers hold no bar, so the
first and the last field are found at once, and what is between them is the model and the
content with one tag. The hash has a fixed length and is cut off from the end. -/

def frame_tag : List Char := "FRAME:".toList
def model_tag : List Char := "|MODEL:".toList
def action_tag : List Char := "|ACTION:".toList
def tokens_tag : List Char := "|TOKENS:".toList

theorem marked_model_tag : Marked '|' model_tag := ⟨_, rfl, by decide⟩

theorem marked_action_tag : Marked '|' action_tag := ⟨_, rfl, by decide⟩

theorem marked_tokens_tag : Marked '|' tokens_tag := ⟨_, rfl, by decide⟩

theorem toList_log_text (frame_id : UInt64) (model content : String) (total_tokens : ℕ) :
    (TeeGateway.log_text frame_id model content total_tokens).toList =
      frame_tag ++ ((toString frame_id).toList ++ (model_tag ++
        ((model.toList ++ (action_tag ++ content.toList)) ++ (tokens_tag ++
          (toString total_tokens).toList)))) := by
  simp only [TeeGateway.log_text, String.toList_append, List.append_assoc]
  rfl

/-- A number holds no tag. -/
theorem digits_clear {tag : List Char} (htag : Marked '|' tag) (n : ℕ) :
    ¬ tag <:+: (toString n).toList :=
  htag.not_infix fun hbar => absurd (isDigit_of_mem_toString hbar) (by decide)

/-- The numbers are read back from the text, and the rest is the model and the content. -/
theorem log_text_inj {frame_id frame_id' : UInt64} {model model' content content' : String}
    {total_tokens total_tokens' : ℕ} :
    TeeGateway.log_text frame_id model content total_tokens =
        TeeGateway.log_text frame_id' model' content' total_tokens' ↔
      frame_id = frame_id' ∧
        model.toList ++ (action_tag ++ content.toList) =
          model'.toList ++ (action_tag ++ content'.toList) ∧
        total_tokens = total_tokens' := by
  rw [← String.toList_inj, toList_log_text, toList_log_text]
  constructor
  · intro h
    have hfields := List.append_cancel_left h
    obtain ⟨hframe, hfields⟩ := cut_of_left_clear marked_model_tag
      (digits_clear marked_model_tag frame_id.toNat)
      (digits_clear marked_model_tag frame_id'.toNat) hfields
    obtain ⟨hmiddle, htokens⟩ := cut_of_right_clear marked_tokens_tag
      (digits_clear marked_tokens_tag total_tokens)
      (digits_clear marked_tokens_tag total_tokens') hfields
    exact ⟨toString_uint64_injective (String.toList_inj.mp hframe), hmiddle,
      toString_injective (String.toList_inj.mp htokens)⟩
  · rintro ⟨rfl, hmiddle, rfl⟩
    rw [hmiddle]

/-- The entry commits to its text. -/
theorem generate_execution_log_inj (D : Dependencies) (gateway : TeeGateway T)
    {frame_id frame_id' : UInt64} {response response' : QwenResponse}
    {choice choice' : QwenChoice} {others others' : List QwenChoice}
    (hchoices : response.choices = choice :: others)
    (hchoices' : response'.choices = choice' :: others') :
    gateway.generate_execution_log D frame_id response =
        gateway.generate_execution_log D frame_id' response' ↔
      TeeGateway.log_text frame_id response.model choice.message.content
          response.usage.total_tokens =
        TeeGateway.log_text frame_id' response'.model choice'.message.content
          response'.usage.total_tokens := by
  simp only [TeeGateway.generate_execution_log, hchoices, hchoices', Option.some.injEq,
    as_bytes_injective.eq_iff]
  constructor
  · -- the other way round: one text, and so one hash
    intro h
    have htext := congrArg String.toList h
    rw [String.toList_append, String.toList_append, String.toList_append,
      String.toList_append, List.append_assoc, List.append_assoc] at htext
    -- the hashes are of the same length
    refine String.toList_inj.mp (List.append_inj_left' htext ?_)
    rw [List.length_append, List.length_append, length_lower_hex, length_lower_hex]
  · intro h
    rw [h]

/-! ## The border between the model and the content

Two readings of one text cut it at two occurrences of the tag (`cut_cases`), and then one
model goes on with a tag and a piece of the other's content. Conversely, wherever the tag
occurs in a field the border can be put there, and there is a response that has it there. -/

theorem toList_tagged (model content : String) :
    (model ++ "|ACTION:" ++ content).toList =
      model.toList ++ (action_tag ++ content.toList) := by
  rw [String.toList_append, String.toList_append, List.append_assoc]
  rfl

theorem shifted_of_toList {model content model' content' : String} {piece : List Char}
    (hmodel : model'.toList = model.toList ++ (action_tag ++ piece))
    (hcontent : content.toList = piece ++ (action_tag ++ content'.toList)) :
    Shifted model content model' content' := by
  refine ⟨String.ofList piece, ?_, ?_⟩
  · rw [← String.toList_inj, toList_tagged, String.toList_ofList, hmodel]
  · rw [← String.toList_inj, toList_tagged, String.toList_ofList, hcontent]

/-- A border that was shifted is not where it was. -/
theorem Shifted.model_ne {model content model' content' : String}
    (h : Shifted model content model' content') : model' ≠ model := by
  obtain ⟨piece, rfl, -⟩ := h
  intro hsame
  rw [← String.toList_inj, toList_tagged] at hsame
  exact marked_action_tag.append_ne hsame

theorem Shifted.middle_eq {model content model' content' : String}
    (h : Shifted model content model' content') :
    model.toList ++ (action_tag ++ content.toList) =
      model'.toList ++ (action_tag ++ content'.toList) := by
  obtain ⟨piece, rfl, rfl⟩ := h
  rw [toList_tagged, toList_tagged, List.append_assoc, List.append_assoc]

/-- The first choice of a response that has this content to show. -/
theorem QwenResponse.exists_choice {response : QwenResponse} {content : String}
    (h : response.action = some content) :
    ∃ choice others, response.choices = choice :: others ∧ choice.message.content = content := by
  unfold QwenResponse.action at h
  rcases hchoices : response.choices with _ | ⟨choice, others⟩
  · rw [hchoices] at h
    cases h
  · rw [hchoices] at h
    exact ⟨choice, others, rfl, Option.some.inj h⟩

section Commitment

variable (D : Dependencies) (gateway : TeeGateway T) {response response' : QwenResponse}
  {content content' : String}

/-- **Two pairs with one entry** agree but for a shifted border. -/
theorem generate_execution_log_eq_iff (hcontent : response.action = some content)
    (hcontent' : response'.action = some content') (frame_id frame_id' : UInt64) :
    gateway.generate_execution_log D frame_id response =
        gateway.generate_execution_log D frame_id' response' ↔
      frame_id = frame_id' ∧ response.usage.total_tokens = response'.usage.total_tokens ∧
        ((response.model = response'.model ∧ content = content') ∨
          Shifted response.model content response'.model content' ∨
          Shifted response'.model content' response.model content) := by
  obtain ⟨choice, others, hchoices, hfirst⟩ := QwenResponse.exists_choice hcontent
  obtain ⟨choice', others', hchoices', hfirst'⟩ := QwenResponse.exists_choice hcontent'
  rw [generate_execution_log_inj D gateway hchoices hchoices', log_text_inj, hfirst, hfirst']
  constructor
  · rintro ⟨hframe, hmiddle, htokens⟩
    refine ⟨hframe, htokens, ?_⟩
    rcases cut_cases marked_action_tag hmiddle with ⟨hmodel, hrest⟩ | ⟨piece, hmodel, hrest⟩ |
      ⟨piece, hmodel, hrest⟩
    · exact Or.inl ⟨String.toList_inj.mp hmodel, String.toList_inj.mp hrest⟩
    · exact Or.inr (Or.inl (shifted_of_toList hmodel hrest))
    · exact Or.inr (Or.inr (shifted_of_toList hmodel hrest))
  · rintro ⟨hframe, htokens, hborder⟩
    refine ⟨hframe, ?_, htokens⟩
    rcases hborder with ⟨hmodel, hrest⟩ | hshift | hshift
    · rw [hmodel, hrest]
    · exact hshift.middle_eq
    · exact hshift.middle_eq.symm

theorem commits_iff_not_shifted (hcontent : response.action = some content)
    (hcontent' : response'.action = some content') (frame_id frame_id' : UInt64) :
    EntryCommits D gateway frame_id frame_id' response response' ↔
      ¬ (frame_id = frame_id' ∧
        response.usage.total_tokens = response'.usage.total_tokens ∧
        (Shifted response.model content response'.model content' ∨
          Shifted response'.model content' response.model content)) := by
  unfold EntryCommits
  rw [generate_execution_log_eq_iff D gateway hcontent hcontent', hcontent, hcontent',
    Option.some.injEq]
  constructor
  · rintro hcommits ⟨hframe, htokens, hshift⟩
    obtain ⟨-, hmodel, -⟩ := hcommits ⟨hframe, htokens, Or.inr hshift⟩
    rcases hshift with hshift | hshift
    · exact hshift.model_ne hmodel.symm
    · exact hshift.model_ne hmodel
  · rintro hnot ⟨hframe, htokens, ⟨hmodel, hrest⟩ | hshift⟩
    · exact ⟨hframe, hmodel, hrest, htokens⟩
    · exact absurd ⟨hframe, htokens, hshift⟩ hnot

/-- A response with this model and content, and the token counts of another. -/
def QwenResponse.retold (self : QwenResponse) (model content : String) : QwenResponse :=
  { self with model := model, choices := [⟨0, ⟨"assistant", content⟩, "stop"⟩] }

/-- An entry commits against all pairs where the model and the content hold no tag. -/
theorem commits_to_all_iff (hcontent : response.action = some content) (frame_id : UInt64) :
    (∀ (frame_id' : UInt64) (response' : QwenResponse), response'.choices ≠ [] →
        EntryCommits D gateway frame_id frame_id' response response') ↔
      ¬ ContainsText "|ACTION:" response.model ∧ ¬ ContainsText "|ACTION:" content := by
  constructor
  · -- wherever the border can be put, there is a response that has it there
    intro hcommits
    have hborder : ∀ model' content' : String,
        ¬ (Shifted response.model content model' content' ∨
          Shifted model' content' response.model content) := by
      intro model' content' hshift
      have hretold : (response.retold model' content').action = some content' := rfl
      exact (commits_iff_not_shifted D gateway hcontent hretold frame_id frame_id).mp
        (hcommits frame_id _ (List.cons_ne_nil _ _)) ⟨rfl, rfl, hshift⟩
    refine ⟨?_, ?_⟩
    · rw [containsText_iff]
      rintro ⟨before, piece, hmodel⟩
      exact hborder before (piece ++ "|ACTION:" ++ content) (Or.inr ⟨piece, hmodel, rfl⟩)
    · rw [containsText_iff]
      rintro ⟨piece, after, hpiece⟩
      exact hborder (response.model ++ "|ACTION:" ++ piece) after (Or.inl ⟨piece, rfl, hpiece⟩)
  · -- where the tag is in neither field there is one place to cut
    rintro ⟨hmodel, hclear⟩ frame_id' response' hne
    obtain ⟨choice, others, hchoices⟩ := List.exists_cons_of_ne_nil hne
    have hcontent' : response'.action = some choice.message.content := by
      rw [QwenResponse.action, hchoices]
      rfl
    rw [commits_iff_not_shifted D gateway hcontent hcontent']
    rintro ⟨-, -, ⟨piece, -, hpiece⟩ | ⟨piece, hpiece, -⟩⟩
    · exact hclear (containsText_iff.mpr ⟨piece, _, hpiece⟩)
    · exact hmodel (containsText_iff.mpr ⟨_, piece, hpiece⟩)

end Commitment

/-- **What an entry commits to.** Two pairs with one entry are told apart except by a border
shifted at `|ACTION:`, and an entry commits to its fields against all others exactly if the
model and the content do not hold that tag. -/
theorem entry_commits_iff (D : Dependencies) (gateway : TeeGateway T)
    {response response' : QwenResponse} {content content' : String}
    (hcontent : response.action = some content) (hcontent' : response'.action = some content')
    (frame_id frame_id' : UInt64) :
    (EntryCommits D gateway frame_id frame_id' response response' ↔
      ¬ (frame_id = frame_id' ∧
        response.usage.total_tokens = response'.usage.total_tokens ∧
        (Shifted response.model content response'.model content' ∨
          Shifted response'.model content' response.model content))) ∧
    ((∀ (frame_id' : UInt64) (response' : QwenResponse), response'.choices ≠ [] →
        EntryCommits D gateway frame_id frame_id' response response') ↔
      ¬ ContainsText "|ACTION:" response.model ∧ ¬ ContainsText "|ACTION:" content) :=
  ⟨commits_iff_not_shifted D gateway hcontent hcontent' frame_id frame_id',
    commits_to_all_iff D gateway hcontent frame_id⟩

/-! ## Two answers with one entry

A pair that is told apart, and a pair that is not. -/

/-- A gateway that is not live. -/
def offline_gateway : TeeGateway Unit := TeeGateway.new () "https://dashscope.aliyuncs.com/api/v1"

theorem entry_commits_iff_stop_go :
    (EntryCommits short_digest offline_gateway 1 1 (answer "STOP") (answer "GO") ↔
      ¬ ((1 : UInt64) = 1 ∧ 0 = 0 ∧
        (Shifted "qwen-max" "STOP" "qwen-max" "GO" ∨
          Shifted "qwen-max" "GO" "qwen-max" "STOP"))) ∧
    ((∀ (frame_id' : UInt64) (response' : QwenResponse), response'.choices ≠ [] →
        EntryCommits short_digest offline_gateway 1 frame_id' (answer "STOP") response') ↔
      ¬ ContainsText "|ACTION:" "qwen-max" ∧ ¬ ContainsText "|ACTION:" "STOP") :=
  entry_commits_iff short_digest offline_gateway
    (rfl : (answer "STOP").action = some "STOP") (rfl : (answer "GO").action = some "GO") 1 1

/-- The model `qwen` that answers `x|ACTION:STOP` has the entry of the model `qwen|ACTION:x`
that answers `STOP`. -/
theorem shifted_answer_same_entry :
    ¬ ∀ (frame_id frame_id' : UInt64) (response response' : QwenResponse),
      response.choices ≠ [] → response'.choices ≠ [] →
        EntryCommits short_digest offline_gateway frame_id frame_id' response response' := by
  intro h
  have hsame := h 1 1 ((answer "").retold "qwen" "x|ACTION:STOP")
    ((answer "").retold "qwen|ACTION:x" "STOP") (List.cons_ne_nil _ _) (List.cons_ne_nil _ _)
    (by decide +kernel)
  exact absurd hsame.2.1 (by decide)

end SovereignEdgeTee
