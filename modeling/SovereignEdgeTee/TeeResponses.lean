/-
What a gateway answers, whatever the network sends. The body of a response is any JSON
value. It is read through accessors that have a default for everything, so no shape of it
stops the gateway, and the one that is refused is the one without choices. So the log can
be written of every answer: its first choice is there.
-/
import SovereignEdgeTee.TeeAttestation
import Mathlib.Data.List.Indexes

set_option autoImplicit false

namespace SovereignEdgeTee

variable {T : Type}

/-! ## Choices

An element of the array may be any JSON value, and is read with a default for each of its
fields. So there are as many choices as elements, numbered in their order. -/

/-- What the element `c` of the array of choices is read as. -/
def read_choice (i : ℕ) (c : Value) : QwenChoice where
  index := i
  message :=
    { role := (((c.index "message").index "role").as_str).getD "assistant"
      content := (((c.index "message").index "content").as_str).getD "" }
  finish_reason := ((c.index "finish_reason").as_str).getD "stop"

/-- There are no choices but those of an array, one for each element, in order. -/
theorem qwen_choices_cases (v : Value) :
    qwen_choices v = [] ∨
      ∃ arr, v.index "choices" = .array arr ∧ qwen_choices v = arr.mapIdx read_choice := by
  unfold qwen_choices
  cases hchoices : v.index "choices" with
  | array arr => exact Or.inr ⟨arr, rfl, rfl⟩
  | null => exact Or.inl rfl
  | bool b => exact Or.inl rfl
  | number n => exact Or.inl rfl
  | string s => exact Or.inl rfl
  | object entries => exact Or.inl rfl

/-- The choices of a response: there are some, and they are numbered. -/
structure Numbered (choices : List QwenChoice) : Prop where
  ne_nil : choices ≠ []
  indices : choices.map QwenChoice.index = List.range choices.length

theorem numbered_mapIdx {arr : List Value} (h : arr.mapIdx read_choice ≠ []) :
    Numbered (arr.mapIdx read_choice) := by
  refine ⟨h, ?_⟩
  apply List.ext_getElem
  · rw [List.length_map, List.length_range]
  · intro i _ _
    rw [List.getElem_map, List.getElem_mapIdx, List.getElem_range, read_choice]

/-! ## Responses

The outcomes of `call_qwen_api`, one after the other. The last one has at least one choice,
which is why `choices[0]` in `generate_execution_log` is there for every answer of a gateway. -/

namespace TeeGateway

/-- The response was read from the array of choices of a body that `send` answered with. -/
def FromBody (D : Dependencies) (send : HttpRequest → HttpOutcome) (response : QwenResponse) :
    Prop :=
  ∃ request status text v arr, send request = .answered status (.ok text) ∧
    status.is_success = true ∧ D.from_str text = .ok v ∧ v.index "choices" = .array arr ∧
    response.choices = arr.mapIdx read_choice

theorem response_of_cases (self : TeeGateway T) (v : Value) :
    self.response_of v = .error (.QwenApiError "response contained no choices") ∨
      ∃ response arr, self.response_of v = .ok response ∧ v.index "choices" = .array arr ∧
        response.choices = arr.mapIdx read_choice ∧ response.choices ≠ [] := by
  unfold response_of
  by_cases hempty : (qwen_choices v).isEmpty = true
  · rw [if_pos hempty]
    exact Or.inl rfl
  · rw [if_neg hempty]
    have hne : qwen_choices v ≠ [] := fun hnil => hempty (List.isEmpty_iff.mpr hnil)
    rcases qwen_choices_cases v with hnil | ⟨arr, harr, hchoices⟩
    · exact absurd hnil hne
    · exact Or.inr ⟨_, arr, rfl, harr, hchoices, hne⟩

/-- A request that does not end in an API error ends in choices read from its body. -/
theorem receive_cases (D : Dependencies) (self : TeeGateway T) (send : HttpRequest → HttpOutcome)
    (request : HttpRequest) :
    (∃ message, self.receive D (send request) = .error (.QwenApiError message)) ∨
      ∃ response, self.receive D (send request) = .ok response ∧
        Numbered response.choices ∧ FromBody D send response := by
  rcases hsent : send request with e | ⟨status, e | text⟩
  · exact Or.inl ⟨_, rfl⟩
  · exact Or.inl ⟨_, rfl⟩
  · rw [receive]
    by_cases hstatus : status.is_success = true
    · rw [hstatus, if_neg (by decide)]
      rcases hbody : D.from_str text with e | v
      · exact Or.inl ⟨_, rfl⟩
      · rcases self.response_of_cases v with hnone | ⟨response, arr, hok, harr, hchoices, hne⟩
        · exact Or.inl ⟨_, hnone⟩
        · refine Or.inr ⟨response, hok, ?_, request, status, text, v, arr, hsent, hstatus, hbody,
            harr, hchoices⟩
          rw [hchoices] at hne ⊢
          exact numbered_mapIdx hne
    · rw [Bool.not_eq_true] at hstatus
      rw [hstatus, if_pos (by decide)]
      exact Or.inl ⟨_, rfl⟩

/-- A call fails for want of a key exactly if there is none. -/
theorem call_qwen_api_cases (D : Dependencies) (self : TeeGateway T) (prompt : String)
    (send : HttpRequest → HttpOutcome) :
    (∃ e, self.call_qwen_api D prompt send = .error e ∧
      (e = .ApiKeyNotInitialized ↔ self.qwen_api_key = none)) ∨
      ∃ response, self.call_qwen_api D prompt send = .ok response ∧
        Numbered response.choices ∧ (self.live = true → FromBody D send response) := by
  unfold call_qwen_api
  cases self.qwen_api_key with
  | none => exact Or.inl ⟨.ApiKeyNotInitialized, rfl, iff_of_true rfl rfl⟩
  | some api_key =>
      have hapi : ∀ message : String,
          (GatewayError.QwenApiError message = .ApiKeyNotInitialized ↔ some api_key = none) :=
        fun message => iff_of_false (by rintro ⟨⟩) (by rintro ⟨⟩)
      dsimp only
      by_cases hlive : self.live = true
      · rw [if_pos hlive]
        cases self.http_client with
        | none => exact Or.inl ⟨_, rfl, hapi _⟩
        | some client =>
            rcases receive_cases D self send (self.request api_key prompt) with
              ⟨message, herror⟩ | ⟨response, hok, hnumbered, hbody⟩
            · exact Or.inl ⟨_, herror, hapi message⟩
            · exact Or.inr ⟨response, hok, hnumbered, fun _ => hbody⟩
      · rw [if_neg hlive]
        exact Or.inr ⟨_, rfl, ⟨List.cons_ne_nil _ _, rfl⟩, fun h => absurd h hlive⟩

/-- The log panics on a response without choices alone. -/
theorem generate_execution_log_isSome (D : Dependencies) (self : TeeGateway T)
    (frame_id : UInt64) {response : QwenResponse} (h : response.choices ≠ []) :
    (self.generate_execution_log D frame_id response).isSome = true := by
  obtain ⟨choice, others, hchoices⟩ := List.exists_cons_of_ne_nil h
  rw [generate_execution_log, hchoices]
  rfl

/-- **Every answer is whole.** Whatever the state of the gateway, the frame, and what the
network and the parser make of the request, `process_frame` ends in an error or in a
response that has choices, numbered in the order of the array they were read from, and of
which any gateway can write the log. -/
theorem process_frame_total (D : Dependencies) (self : TeeGateway T) (frame : TelemetryFrame)
    (now : ℕ) (send : HttpRequest → HttpOutcome) :
    (∃ e, (self.process_frame D frame now send).1 = .error e) ∨
      ∃ response, (self.process_frame D frame now send).1 = .ok response ∧
        response.choices ≠ [] ∧
        response.choices.map QwenChoice.index = List.range response.choices.length ∧
        (self.live = true → FromBody D send response) ∧
        ∀ (any : TeeGateway T) (frame_id : UInt64),
          (any.generate_execution_log D frame_id response).isSome = true := by
  obtain ⟨prompt, hreply⟩ := process_frame_reply D self frame now send
  rw [hreply]
  rcases call_qwen_api_cases D (self.count_frame frame now) prompt send with
    ⟨e, herror, -⟩ | ⟨response, hok, hnumbered, hbody⟩
  · exact Or.inl ⟨e, herror⟩
  · exact Or.inr ⟨response, hok, hnumbered.ne_nil, hnumbered.indices, hbody,
      fun any frame_id => any.generate_execution_log_isSome D frame_id hnumbered.ne_nil⟩

end TeeGateway

end SovereignEdgeTee
