/-
The limits of local generation. Whatever the model answers, a call of `infer` ends. If it
does not fail, it has generated no more tokens than asked for, the positions it decoded are
`0, 1, .., n - 1` with `n` at most the size of the context, and every sample was read from
the last token of the batch decoded last, which had its logits asked for.
-/
import SovereignEdgeTee.LlamaBackend

set_option autoImplicit false

namespace SovereignEdgeTee

/-! ## What was decoded and sampled

Read off the events of a call: the positions of the tokens decoded, the batch decoded last,
and the text that was said. `Within` is what a call promises in these terms, and `Generating`
adds what the next round needs: the position that is next, and a batch whose last token has
logits. -/

section Events

variable {Token : Type}

/-- The positions decoded, oldest first. -/
def positions : List (LlamaEvent Token) → List Int32
  | [] => []
  | .decoded batch :: older => positions older ++ batch.map BatchToken.pos
  | .sampled _ _ :: older => positions older

/-- The batch decoded last. -/
def last_batch : List (LlamaEvent Token) → Option (List (BatchToken Token))
  | [] => none
  | .decoded batch :: _ => some batch
  | .sampled _ _ :: older => last_batch older

/-- The index is that of the last token of the batch, whose logits were asked for. -/
def ReadsLast (batch : List (BatchToken Token)) (index : Int32) : Prop :=
  ∃ before newest, batch = before ++ [newest] ∧ newest.logits = true ∧
    index.toInt = before.length

/-- Every sample reads the last token of the batch decoded last. -/
def SamplesLast : List (LlamaEvent Token) → Prop
  | [] => True
  | .decoded _ :: older => SamplesLast older
  | .sampled index _ :: older =>
    (∃ batch, last_batch older = some batch ∧ ReadsLast batch index) ∧ SamplesLast older

end Events

/-- The pieces of the tokens sampled, one after the other, but for the end of generation. -/
def spoken (model : LlamaModel) : List (LlamaEvent model.Token) → String
  | [] => ""
  | .decoded _ :: older => spoken model older
  | .sampled index token :: older =>
    if model.is_eog_token token then spoken model older
    else spoken model older ++ model.piece (.sampled index token :: older) token

/-- What a call has kept to that was asked for `max_tokens` tokens after a prompt of `length`
tokens. -/
structure Within (model : LlamaModel) (length max_tokens : ℕ)
    (events : List (LlamaEvent model.Token)) (output : String) (generated : ℕ) : Prop where
  generated_le : generated ≤ max_tokens
  room : length + generated ≤ CTX_SIZE.toNat
  positions_eq : positions events = (List.range (length + generated)).map Int32.ofNat
  samples : SamplesLast events
  output_eq : output = spoken model events

/-- The invariant of the loop: the next position is the number of tokens decoded, and the
batch was decoded last and has the token to sample from at its end. -/
structure Generating (model : LlamaModel) (length max_tokens : ℕ)
    (st : LlamaModel.Generation model.Token) : Prop where
  within : Within model length max_tokens st.events st.output st.generated
  n_cur : st.n_cur = Int32.ofNat (length + st.generated)
  allocated : st.batch.allocated = CTX_SIZE.toNat
  last : last_batch st.events = some st.batch.tokens
  ready : ∃ before newest, st.batch.tokens = before ++ [newest] ∧ newest.logits = true

namespace Generating

variable {model : LlamaModel} {length max_tokens : ℕ} {st next : LlamaModel.Generation model.Token}

/-- The index a sample is taken at. -/
theorem reads_last (h : Generating model length max_tokens st) :
    ReadsLast st.batch.tokens (st.batch.n_tokens - 1) := by
  obtain ⟨before, newest, hbatch, hlogits⟩ := h.ready
  have hfits := st.batch.fits
  rw [h.allocated, hbatch, List.length_append, List.length_singleton] at hfits
  have hsize : CTX_SIZE.toNat = 512 := rfl
  have hone : Int32.ofNat 1 = 1 := rfl
  refine ⟨before, newest, hbatch, hlogits, ?_⟩
  rw [LlamaBatch.n_tokens, hbatch, List.length_append, List.length_singleton, Int32.ofNat_add, hone,
    Int32.add_sub_cancel, Int32.toInt_ofNat_of_lt (by omega)]

/-- The condition of the loop, on the numbers it compares. -/
theorem cond_iff (h : Generating model length max_tokens st) :
    (model.generation max_tokens).cond st = true ↔
      st.generated < max_tokens ∧ length + st.generated < CTX_SIZE.toNat := by
  have hroom := h.within.room
  have hsize : CTX_SIZE.toNat = 512 := rfl
  have hcond : (model.generation max_tokens).cond st =
      (decide (st.generated < max_tokens) && decide (st.n_cur.toUInt32 < CTX_SIZE)) := rfl
  rw [hcond, Bool.and_eq_true, decide_eq_true_eq, decide_eq_true_eq, h.n_cur,
    Int32.toUInt32_ofNat', UInt32.lt_iff_toNat_lt, UInt32.toNat_ofNat', Nat.mod_eq_of_lt (by omega)]

theorem sampled (h : Generating model length max_tokens st) (token : model.Token) :
    SamplesLast (.sampled (st.batch.n_tokens - 1) token :: st.events) :=
  ⟨⟨_, h.last, h.reads_last⟩, h.within.samples⟩

/-- At the end of generation nothing is said. -/
theorem done (h : Generating model length max_tokens st)
    (hbody : model.round st = .ok (.done next)) :
    Within model length max_tokens next.events next.output next.generated := by
  obtain ⟨token, ⟨heog, hdone⟩ | ⟨-, batch, -, -, hyield⟩⟩ := model.round_ok hbody
  · cases hdone
    refine ⟨h.within.generated_le, h.within.room, h.within.positions_eq, h.sampled token, ?_⟩
    rw [spoken, if_pos heog]
    exact h.within.output_eq
  · cases hyield

/-- A token that is generated is decoded at the next position. -/
theorem yield (h : Generating model length max_tokens st)
    (hcond : (model.generation max_tokens).cond st = true)
    (hbody : model.round st = .ok (.yield next)) : Generating model length max_tokens next := by
  obtain ⟨hmore, hroom⟩ := h.cond_iff.mp hcond
  obtain ⟨token, ⟨-, hdone⟩ | ⟨hspeaks, batch, hallocated, htokens, hyield⟩⟩ :=
    model.round_ok hbody
  · cases hdone
  · cases hyield
    -- the condition of the loop is what bounds the token just generated
    refine ⟨⟨hmore, hroom, ?_, h.sampled token, ?_⟩, ?_, ?_, rfl, ?_⟩
    · dsimp only
      rw [positions, positions, h.within.positions_eq, htokens, h.n_cur, ← Nat.add_assoc,
        List.range_succ, List.map_append]
      rfl
    · dsimp only
      rw [spoken, spoken, hspeaks, if_neg Bool.false_ne_true, ← h.within.output_eq]
    · dsimp only
      rw [h.n_cur, ← Nat.add_assoc, Int32.ofNat_add (length + st.generated)]
      rfl
    · exact hallocated.trans h.allocated
    · -- the batch was cleared, so the token is the only one in it
      exact ⟨[], _, htokens, rfl⟩

end Generating

/-! ## The prompt

The prompt is one batch with the positions from zero on, and the logits are asked for at
`last_idx` only. That is the last token, so the loop can sample from it. With no token at all
there would be nothing to sample from, which is why a prompt that makes none is excluded. -/

section Prompt

variable (model : LlamaModel)

/-- The tokens of the prompt as `infer` puts them into a batch, from the position `i` on. -/
def prompt_tokens (last_idx i : ℕ) (tokens : List model.Token) : List (BatchToken model.Token) :=
  tokens.mapIdx fun k token => ⟨token, Int32.ofNat (i + k), [0], i + k == last_idx⟩

theorem add_prompt_ok {last_idx i : ℕ} {tokens : List model.Token}
    {batch after : LlamaBatch model.Token}
    (h : model.add_prompt last_idx i tokens batch = .ok after) :
    after.allocated = batch.allocated ∧
      after.tokens = batch.tokens ++ prompt_tokens model last_idx i tokens := by
  induction tokens generalizing i batch with
  | nil =>
      rw [← Except.ok.inj h]
      exact ⟨rfl, (List.append_nil _).symm⟩
  | cons token tokens ih =>
      obtain ⟨added, hadd, hrest⟩ := LlamaModel.bind_ok h
      obtain ⟨hallocated, htokens⟩ := model.batch_add_ok hadd
      obtain ⟨hallocated', htokens'⟩ := ih hrest
      refine ⟨hallocated'.trans hallocated, ?_⟩
      have hnext : prompt_tokens model last_idx i (token :: tokens) =
          ⟨token, Int32.ofNat i, [0], i == last_idx⟩ ::
            prompt_tokens model last_idx (i + 1) tokens := by
        -- one token further on, an index is one more and what is left starts one later
        have hshift : (fun (k : ℕ) (token : model.Token) => (⟨token, Int32.ofNat (i + (k + 1)), [0],
            i + (k + 1) == last_idx⟩ : BatchToken model.Token)) =
            fun k token => ⟨token, Int32.ofNat (i + 1 + k), [0], i + 1 + k == last_idx⟩ := by
          funext k token
          rw [Nat.add_assoc i 1 k, Nat.add_comm 1 k]
        rw [prompt_tokens, List.mapIdx_cons, hshift]
        rfl
      rw [htokens', htokens, hnext, List.append_assoc]
      rfl

theorem prompt_tokens_pos (last_idx : ℕ) (tokens : List model.Token) :
    (prompt_tokens model last_idx 0 tokens).map BatchToken.pos =
      (List.range tokens.length).map Int32.ofNat := by
  apply List.ext_getElem
  · rw [prompt_tokens, List.length_map, List.length_mapIdx, List.length_map, List.length_range]
  · intro k _ _
    simp only [prompt_tokens, List.getElem_map, List.getElem_mapIdx, List.getElem_range,
      Nat.zero_add]

/-- The logits of the last token of the prompt are asked for. -/
theorem prompt_tokens_last {tokens : List model.Token} (hne : tokens ≠ []) :
    ∃ before newest, prompt_tokens model (tokens.length - 1) 0 tokens = before ++ [newest] ∧
      newest.logits = true := by
  obtain ⟨earlier, token, rfl⟩ := (List.eq_nil_or_concat' tokens).resolve_left hne
  refine ⟨_, _, List.mapIdx_concat, ?_⟩
  dsimp only
  rw [List.length_append, List.length_singleton, Nat.add_sub_cancel, Nat.zero_add, beq_self_eq_true]

/-- The loop starts with the invariant. -/
theorem prompt_generating {tokens : List model.Token} (hne : tokens ≠ []) (max_tokens : ℕ)
    {batch : LlamaBatch model.Token}
    (h : model.add_prompt (tokens.length - 1) 0 tokens (LlamaBatch.new CTX_SIZE.toNat) =
      .ok batch) :
    Generating model tokens.length max_tokens
      ⟨[.decoded batch.tokens], batch, "", Int32.ofNat tokens.length, 0⟩ := by
  obtain ⟨hallocated, htokens⟩ := add_prompt_ok model h
  have htokens : batch.tokens = prompt_tokens model (tokens.length - 1) 0 tokens := htokens
  have hfits := batch.fits
  rw [hallocated, htokens, prompt_tokens, List.length_mapIdx] at hfits
  refine ⟨⟨Nat.zero_le _, hfits, ?_, trivial, rfl⟩, rfl, hallocated, rfl, ?_⟩
  · dsimp only
    rw [positions, positions, htokens, prompt_tokens_pos]
    rfl
  · rw [htokens]
    exact prompt_tokens_last model hne

end Prompt

/-! ## The call

The stages of `infer` in their order, by `bind_ok`, and then the rule of `BoundedLoop`. A call
ends because all of it is total; that it may fail is the other half of `infer_within_limits`. -/

namespace LlamaCppBackend

/-- A call that does not fail keeps to the limits. No stage before the loop has failed then, so
the loop starts with its invariant (`prompt_generating`), and `BoundedLoop.run_ok` carries
`Generating` to the end of it: by `yield` from round to round, and by `done` where the model ends
its text. -/
theorem infer_traced_within {self : LlamaCppBackend} {prompt : String} {max_tokens : ℕ}
    {output : InferenceOutput} {events : List (LlamaEvent self.model.Token)}
    (hprompt : self.model.str_to_token prompt ≠ .ok [])
    (h : self.infer_traced prompt max_tokens = .ok (output, events)) :
    ∃ tokens, self.model.str_to_token prompt = .ok tokens ∧
      Within self.model tokens.length max_tokens events output.text output.tokens_generated := by
  obtain ⟨-, -, h⟩ := LlamaModel.bind_ok h
  obtain ⟨tokens, htokens, h⟩ := LlamaModel.bind_ok h
  obtain ⟨batch, hbatch, h⟩ := LlamaModel.bind_ok h
  obtain ⟨decoded, hdecode, h⟩ := LlamaModel.bind_ok h
  obtain ⟨final, hrun, h⟩ := LlamaModel.bind_ok h
  cases h
  have hne : tokens ≠ [] := by
    rintro rfl
    exact hprompt (map_err_ok htokens)
  rw [self.model.decode_batch_ok hdecode] at hrun
  refine ⟨tokens, map_err_ok htokens, ?_⟩
  exact BoundedLoop.run_ok (I := Generating self.model tokens.length max_tokens)
    (P := fun st => Within self.model tokens.length max_tokens st.events st.output st.generated)
    (fun _ _ h hcond hbody => h.yield hcond hbody) (fun _ _ h _ hbody => h.done hbody)
    (fun _ h _ => h.within) (prompt_generating self.model hne max_tokens hbatch) hrun

/-- **The limits of `infer`.** For every model that tokenizes the prompt to some tokens, a call
ends: it fails, or keeps to the limits. -/
theorem infer_within_limits (self : LlamaCppBackend) (prompt : String) (max_tokens : ℕ)
    (hprompt : self.model.str_to_token prompt ≠ .ok []) :
    (∃ e, self.infer prompt max_tokens = .error e) ∨
      ∃ output events, self.infer_traced prompt max_tokens = .ok (output, events) ∧
        self.infer prompt max_tokens = .ok output ∧
        output.tokens_generated ≤ max_tokens ∧
        (∃ tokens, self.model.str_to_token prompt = .ok tokens ∧
          tokens.length + output.tokens_generated ≤ CTX_SIZE.toNat ∧
          positions events =
            (List.range (tokens.length + output.tokens_generated)).map Int32.ofNat) ∧
        SamplesLast events ∧
        output.text = spoken self.model events := by
  rcases htraced : self.infer_traced prompt max_tokens with e | ⟨output, events⟩
  · refine Or.inl ⟨e, ?_⟩
    rw [infer, htraced]
    rfl
  · refine Or.inr ⟨output, events, rfl, ?_, ?_⟩
    · rw [infer, htraced]
      rfl
    · obtain ⟨tokens, htokens, hwithin⟩ := infer_traced_within hprompt htraced
      exact ⟨hwithin.generated_le, ⟨tokens, htokens, hwithin.room, hwithin.positions_eq⟩,
        hwithin.samples, hwithin.output_eq⟩

/-- A model that says one word to every prompt of two tokens, and then ends. -/
def brief_model : LlamaModel where
  Token := ℕ
  new_context := .ok ()
  str_to_token _ := .ok [1, 2]
  batch_full := "Insufficient Space of 512"
  decode _ _ := .ok ()
  sample events _ := if events.length ≤ 1 then 7 else 0
  is_eog_token token := token = 0
  token_to_piece _ _ := .ok "STOP"

/-- The backend of that model. -/
def brief : LlamaCppBackend := ⟨brief_model, "brief"⟩

theorem infer_within_limits_brief :
    ∃ events, brief.infer_traced "Safety assessment:" 32 = .ok (⟨"STOP", 1, "brief"⟩, events) ∧
      positions events = [0, 1, 2] ∧ SamplesLast events ∧ spoken brief.model events = "STOP" := by
  have hinfer : brief.infer "Safety assessment:" 32 = .ok ⟨"STOP", 1, "brief"⟩ := by
    decide +kernel
  have hprompt : brief.model.str_to_token "Safety assessment:" ≠ .ok [] := by
    rintro ⟨⟩
  rcases brief.infer_within_limits "Safety assessment:" 32 hprompt with ⟨e, herror⟩ |
    ⟨output, events, htraced, hok, -, ⟨tokens, htokens, -, hpositions⟩, hsamples, htext⟩
  · rw [hinfer] at herror
    cases herror
  · rw [hinfer] at hok
    cases hok
    cases htokens
    exact ⟨events, htraced, hpositions, hsamples, htext.symm⟩

end LlamaCppBackend

end SovereignEdgeTee
