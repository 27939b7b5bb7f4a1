/-
`crates/edge-agent/src/inference.rs`: the backend that runs a local model.

The model, its context and its sampler come from another crate and are a parameter. What one
call of `infer` meets is a `LlamaModel`. The context and the sampler are made by that call and
keep a state, which is what they were made to do, so their answers are functions of the events
so far. Tokenizing, decoding and sampling may answer anything; a batch is the crate's own in one
point only, that it refuses a token once it is full.

From call to call the library may change its mind: a context that could not be made may be made
the next time. A `LoadedBackend` has a `LlamaModel` for every list of calls it has had.

The prompt goes into one batch, and then one token at a time. `Generating` is the invariant
of that loop: the position the next token gets is the number of tokens decoded so far.
-/
import SovereignEdgeTee.BoundedLoop
import SovereignEdgeTee.EdgeAgent

set_option autoImplicit false

namespace SovereignEdgeTee

/-! ## Batches

A `LlamaBatch` has room for a fixed number of tokens, and `add` refuses one more. The bound is
a field, so a batch of more tokens than it was made for cannot be built. -/

/-- A token of a batch: its position, the sequences it belongs to, and whether its logits
are asked for. -/
structure BatchToken (Token : Type) where
  token : Token
  pos : Int32
  seq_ids : List Int32
  logits : Bool
deriving DecidableEq

/-- A batch never holds more tokens than it was made for. -/
structure LlamaBatch (Token : Type) where
  allocated : ℕ
  tokens : List (BatchToken Token)
  fits : tokens.length ≤ allocated

namespace LlamaBatch

variable {Token : Type}

def new (n_tokens : ℕ) : LlamaBatch Token := ⟨n_tokens, [], Nat.zero_le _⟩

def clear (self : LlamaBatch Token) : LlamaBatch Token := ⟨self.allocated, [], Nat.zero_le _⟩

def n_tokens (self : LlamaBatch Token) : Int32 := Int32.ofNat self.tokens.length

/-- `LlamaBatch::add`, or `none` where the batch is full. -/
def add (self : LlamaBatch Token) (token : Token) (pos : Int32) (seq_ids : List Int32)
    (logits : Bool) : Option (LlamaBatch Token) :=
  if h : self.tokens.length < self.allocated then
    some ⟨self.allocated, self.tokens ++ [⟨token, pos, seq_ids, logits⟩], by
      rw [List.length_append, List.length_singleton]
      exact h⟩
  else none

theorem add_some {self batch : LlamaBatch Token} {token : Token} {pos : Int32}
    {seq_ids : List Int32} {logits : Bool} (h : self.add token pos seq_ids logits = some batch) :
    batch.allocated = self.allocated ∧
      batch.tokens = self.tokens ++ [⟨token, pos, seq_ids, logits⟩] := by
  unfold add at h
  split at h
  · cases h
    exact ⟨rfl, rfl⟩
  · cases h

end LlamaBatch

/-! ## The model

Everything the library answers is a field of `LlamaModel`, and every stage of `infer` that can
fail fails with its own prefix, through `map_err`. The two loops of `infer` are `add_prompt`,
a recursion over the tokens of the prompt, and `generation`, which ends because each round
that goes on counts a token. `round_ok` is the one lemma about a round. -/

/-- What a context was made to do. -/
inductive LlamaEvent (Token : Type) where
  | decoded (batch : List (BatchToken Token))
  | sampled (index : Int32) (token : Token)

/-- What one call of `infer` meets: the model, and the context, the sampler and the decoder of
pieces that the call makes. What they answer depends on the events so far, newest first. An error
is its text. -/
structure LlamaModel where
  Token : Type
  /-- `LlamaModel::new_context`. -/
  new_context : Except String Unit
  /-- `LlamaModel::str_to_token`. -/
  str_to_token : String → Except String (List Token)
  /-- The text of the error of a full batch. -/
  batch_full : String
  /-- `LlamaContext::decode`. -/
  decode : List (LlamaEvent Token) → List (BatchToken Token) → Except String Unit
  /-- `LlamaSampler::sample`. -/
  sample : List (LlamaEvent Token) → Int32 → Token
  is_eog_token : Token → Bool
  /-- `LlamaModel::token_to_piece`. -/
  token_to_piece : List (LlamaEvent Token) → Token → Except String String

/-- `LlamaCppBackend`, as one call of `infer` finds it. The handle of the library is left out,
nothing is read from it. -/
structure LlamaCppBackend where
  model : LlamaModel
  model_name : String

def CTX_SIZE : UInt32 := 512

/-- `map_err` with the texts of `infer`. -/
def map_err {α : Type} (stage : String) (result : Except String α) : Except AgentError α :=
  result.mapError fun e => .InferenceFailed (stage ++ ": " ++ e)

theorem map_err_ok {α : Type} {stage : String} {result : Except String α} {a : α}
    (h : map_err stage result = .ok a) : result = .ok a := by
  cases result with
  | error e => cases h
  | ok b => rw [Except.ok.inj h]

namespace LlamaModel

variable (model : LlamaModel)

/-- `batch.add`, with its error. -/
def batch_add (batch : LlamaBatch model.Token) (token : model.Token) (pos : Int32)
    (logits : Bool) : Except AgentError (LlamaBatch model.Token) :=
  match batch.add token pos [0] logits with
  | some batch => .ok batch
  | none => .error (.InferenceFailed ("batch add: " ++ model.batch_full))

/-- `ctx.decode`, which is one more event. -/
def decode_batch (events : List (LlamaEvent model.Token)) (batch : LlamaBatch model.Token) :
    Except AgentError (List (LlamaEvent model.Token)) := do
  map_err "decode" (model.decode events batch.tokens)
  return .decoded batch.tokens :: events

/-- The loop over the tokens of the prompt, from the `i`-th on. -/
def add_prompt (last_idx : ℕ) :
    ℕ → List model.Token → LlamaBatch model.Token → Except AgentError (LlamaBatch model.Token)
  | _, [], batch => .ok batch
  | i, token :: tokens, batch => do
    let batch ← model.batch_add batch token (Int32.ofNat i) (i == last_idx)
    add_prompt last_idx (i + 1) tokens batch

/-- The variables of the loop that generates. -/
structure Generation (Token : Type) where
  events : List (LlamaEvent Token)
  batch : LlamaBatch Token
  output : String
  n_cur : Int32
  generated : ℕ

/-- The piece of the token sampled last, empty where it cannot be decoded. -/
def piece (events : List (LlamaEvent model.Token)) (token : model.Token) : String :=
  (model.token_to_piece events token).toOption.getD ""

/-- One round. -/
def round (self : Generation model.Token) :
    Except AgentError (ForInStep (Generation model.Token)) := do
  let index := self.batch.n_tokens - 1
  let token := model.sample self.events index
  let events := .sampled index token :: self.events
  if model.is_eog_token token then
    return .done { self with events := events }
  let output := self.output ++ model.piece events token
  let batch ← model.batch_add self.batch.clear token self.n_cur true
  let events ← model.decode_batch events batch
  return .yield ⟨events, batch, output, self.n_cur + 1, self.generated + 1⟩

theorem bind_ok {ε α β : Type} {x : Except ε α} {f : α → Except ε β} {b : β}
    (h : (x >>= f) = .ok b) : ∃ a, x = .ok a ∧ f a = .ok b := by
  cases x with
  | error e => cases h
  | ok a => exact ⟨a, rfl, h⟩

theorem batch_add_ok {batch after : LlamaBatch model.Token} {token : model.Token} {pos : Int32}
    {logits : Bool} (h : model.batch_add batch token pos logits = .ok after) :
    after.allocated = batch.allocated ∧
      after.tokens = batch.tokens ++ [⟨token, pos, [0], logits⟩] := by
  unfold batch_add at h
  split at h
  · rename_i added hadd
    rw [← Except.ok.inj h]
    exact LlamaBatch.add_some hadd
  · cases h

theorem decode_batch_ok {events after : List (LlamaEvent model.Token)}
    {batch : LlamaBatch model.Token} (h : model.decode_batch events batch = .ok after) :
    after = .decoded batch.tokens :: events := by
  obtain ⟨-, -, hafter⟩ := bind_ok h
  exact (Except.ok.inj hafter).symm

/-- A round samples a token, and breaks at the end of generation; else it decodes that token
alone, at the position that is next. -/
theorem round_ok {self : Generation model.Token} {result : ForInStep (Generation model.Token)}
    (h : model.round self = .ok result) :
    ∃ token, (model.is_eog_token token = true ∧
        result = .done { self with
          events := .sampled (self.batch.n_tokens - 1) token :: self.events }) ∨
      (model.is_eog_token token = false ∧ ∃ batch : LlamaBatch model.Token,
        batch.allocated = self.batch.allocated ∧
        batch.tokens = [⟨token, self.n_cur, [0], true⟩] ∧
        result = .yield
          ⟨.decoded batch.tokens :: .sampled (self.batch.n_tokens - 1) token :: self.events, batch,
            self.output ++
              model.piece (.sampled (self.batch.n_tokens - 1) token :: self.events) token,
            self.n_cur + 1, self.generated + 1⟩) := by
  unfold round at h
  dsimp only at h
  refine ⟨model.sample self.events (self.batch.n_tokens - 1), ?_⟩
  by_cases heog : model.is_eog_token (model.sample self.events (self.batch.n_tokens - 1)) = true
  · rw [if_pos heog] at h
    exact Or.inl ⟨heog, (Except.ok.inj h).symm⟩
  · rw [if_neg heog] at h
    rw [Bool.not_eq_true] at heog
    -- the two stages that can fail here have not, since the round has a result
    obtain ⟨batch, hadd, h⟩ := bind_ok h
    obtain ⟨events, hdecode, h⟩ := bind_ok h
    obtain ⟨hallocated, htokens⟩ := model.batch_add_ok hadd
    rw [model.decode_batch_ok hdecode] at h
    exact Or.inr ⟨heog, batch, hallocated, htokens, (Except.ok.inj h).symm⟩

/-- The loop that generates. Every round that goes on generates a token, so there are
`max_tokens` of them at most. -/
def generation (max_tokens : ℕ) : BoundedLoop (Generation model.Token) AgentError where
  cond self := self.generated < max_tokens && self.n_cur.toUInt32 < CTX_SIZE
  body := model.round
  measure self := max_tokens - self.generated
  decreases := by
    intro s t hcond hbody
    rw [Bool.and_eq_true, decide_eq_true_eq] at hcond
    obtain ⟨token, ⟨-, hdone⟩ | ⟨-, batch, -, -, hyield⟩⟩ := model.round_ok hbody
    · cases hdone
    · cases hyield
      dsimp only
      omega

end LlamaModel

namespace LlamaCppBackend

/-- `LlamaCppBackend::infer`, and what its context was made to do, newest first. -/
def infer_traced (self : LlamaCppBackend) (prompt : String) (max_tokens : ℕ) :
    Except AgentError (InferenceOutput × List (LlamaEvent self.model.Token)) := do
  map_err "context" self.model.new_context
  let tokens ← map_err "tokenize" (self.model.str_to_token prompt)
  let last_idx := tokens.length - 1
  let batch ← self.model.add_prompt last_idx 0 tokens (LlamaBatch.new CTX_SIZE.toNat)
  let events ← self.model.decode_batch [] batch
  let final ← (self.model.generation max_tokens).run
    ⟨events, batch, "", Int32.ofNat tokens.length, 0⟩
  return (⟨final.output, final.generated, self.model_name⟩, final.events)

def infer (self : LlamaCppBackend) (prompt : String) (max_tokens : ℕ) :
    Except AgentError InferenceOutput := do
  let result ← self.infer_traced prompt max_tokens
  return result.1

end LlamaCppBackend

/-! ## From call to call

`new_context` asks for memory in every call, and the rest of the library keeps what it likes
between two of them. So nothing is assumed of one call because of another. -/

/-- A `LlamaCppBackend` from its load on: what a call meets, after those calls, newest first. -/
structure LoadedBackend where
  model_after : List (String × ℕ) → LlamaModel
  model_name : String

namespace LoadedBackend

/-- The backend as the call after those calls finds it. -/
def after (self : LoadedBackend) (calls : List (String × ℕ)) : LlamaCppBackend :=
  ⟨self.model_after calls, self.model_name⟩

/-- The `Box<dyn InferenceBackend>`, after those calls. -/
def boxed (self : LoadedBackend) (calls : List (String × ℕ)) : InferenceBackend where
  calls := calls
  name_after _ := "llama.cpp"
  infer_after calls prompt max_tokens := (self.after calls).infer prompt max_tokens

end LoadedBackend

end SovereignEdgeTee
