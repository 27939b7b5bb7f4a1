/-
`crates/tee-gateway/src/main.rs`: the program that sends one telemetry text to the model service
and prints the answer and its log entry.

It depends on its arguments, the variable of the environment, the clock, the network and two more
things that decide whether it lives: the HTTP client, which may fail to be built, and the standard
output, to which a line may fail to be written. Both end in a panic. A `MainRun` is what is seen of
it: the requests it sent, the lines it printed and how it ended. The runtime, the parsing of the
arguments and the log are left out.

The program is a run of a gateway with three calls, so `Configured` says what it is answered and
what it sends; the texts that go through bytes and back (the token, the payload, the log) come back
as they were.
-/
import SovereignEdgeTee.TeeCredentials
import SovereignEdgeTee.TeeTrace

set_option autoImplicit false

namespace SovereignEdgeTee

open Mealy

/-! ## The program

`println!` is a function of the number of lines printed before, `writes` says which of them come
through. The prints of the source stand in two groups, and `choices[0]` is read between them and
once more for the log entry. -/

def DASHSCOPE_INTL_ENDPOINT : String := "https://dashscope-intl.aliyuncs.com/compatible-mode/v1"

/-- `Args`, as the command line is parsed, with its defaults. -/
structure Args where
  prompt : String := "temp=41C vib=0.2g rpm=1450 battery=87% gps_drift=0.4m"
  endpoint : String := DASHSCOPE_INTL_ENDPOINT
  model : String := "qwen-max"
  simulate : Bool := false

/-- What the program fails with: a message of its own, or an error of the gateway. -/
inductive MainError where
  | message (text : String)
  | gateway (e : GatewayError)

/-- How the program ends. -/
inductive MainEnding where
  | returned
  | failed (e : MainError)
  | panicked

/-- A run of the program: the requests it has sent, the lines it has printed, and its end. -/
structure MainRun where
  requests : List HttpRequest
  printed : List String
  ending : MainEnding

/-- `println!` of these lines in turn, behind `i` others: the ones that were printed. It panics at
the first that cannot be written. -/
def println (writes : ℕ → Bool) : ℕ → List String → List String
  | _, [] => []
  | i, line :: lines => if writes i then line :: println writes (i + 1) lines else []

/-- The message for a variable that is not set. -/
def missing_key : String :=
  "QWEN_API_KEY is not set. Get a DashScope key from the Alibaba Cloud " ++
    "Model Studio console, or run with --simulate for the offline demo."

namespace Args

/-- The frame the program makes of its prompt. -/
def frame (args : Args) (timestamp_ns : UInt64) : TelemetryFrame where
  frame_id := 1
  source_ip := "edge-node-01"
  dest_ip := none
  timestamp_ns := timestamp_ns
  payload := as_bytes args.prompt

/-- The gateway of the arguments, and its token. `qwen_api_key` is the variable `QWEN_API_KEY`,
if it is set and is text. -/
def gateway (D : Dependencies) (args : Args) (qwen_api_key : Option String) :
    Except MainError (TeeGateway (SimulatedTee D.sha256) × String) :=
  if args.simulate then
    .ok (TeeGateway.new (SimulatedTee.new D.sha256) args.endpoint, "simulated-key")
  else
    let key := qwen_api_key.getD ""
    if key = "" then .error (.message missing_key)
    else .ok (TeeGateway.new_live (SimulatedTee.new D.sha256) args.endpoint args.model, key)

/-- The lines that are to be printed, and whether `choices[0]` panics behind them. -/
def report (D : Dependencies) (gateway : TeeGateway (SimulatedTee D.sha256)) (frame_id : UInt64)
    (response : QwenResponse) : List String × Bool :=
  let lines := [
    "\n=== Qwen Cloud response ===",
    "request_id : " ++ response.request_id,
    "model      : " ++ response.model,
    "tokens     : " ++ toString response.usage.prompt_tokens ++ " in / " ++
      toString response.usage.completion_tokens ++ " out"]
  match response.choices with
  | [] => (lines, true)
  | choice :: _ =>
    let lines := lines ++ ["content    :\n" ++ choice.message.content]
    match gateway.generate_execution_log D frame_id response with
    | none => (lines, true)
    | some log =>
      (lines ++ ["\n=== Execution log (hash-chained, for verification) ===",
        Utf8.from_utf8_lossy log], false)

/-- `main`. `client_builds` is whether `initialize` gets its client. -/
def main (D : Dependencies) (args : Args) (qwen_api_key : Option String) (client_builds : Bool)
    (timestamp_ns : UInt64) (now : ℕ) (send : HttpRequest → HttpOutcome) (writes : ℕ → Bool) :
    MainRun :=
  match args.gateway D qwen_api_key with
  | .error e => ⟨[], [], .failed e⟩
  | .ok (gateway, api_key) =>
    let requests := sent (gateway.initialize_effects (as_bytes api_key))
    match gateway.initialize_with (as_bytes api_key) with
    | (.error e, _) => ⟨requests, [], .failed (.gateway e)⟩
    | (.ok (), gateway) =>
      -- the `expect` of `initialize`
      if !client_builds then ⟨requests, [], .panicked⟩
      else
        let frame := args.frame timestamp_ns
        let requests := requests ++ sent (gateway.process_effects frame now)
        match gateway.process_frame D frame now send with
        | (.error e, _) => ⟨requests, [], .failed (.gateway e)⟩
        | (.ok response, gateway) =>
          let (lines, out_of_bounds) := report D gateway frame.frame_id response
          let printed := println writes 0 lines
          ⟨requests, printed,
            if out_of_bounds || printed.length < lines.length then .panicked else .returned⟩

/-! ## What the program does

What is printed is stated without the gateway: the request and the lines are written out as
functions of the arguments and of the response. `Reports` says which runs belong to an answer.
`main_answers` at the end is the whole of the program, and the lemmas before it are about its
two parts, what goes to the standard output and what the gateway makes of its one frame. -/

/-- The request of a live run. The prompt and the key are in it as they were typed. -/
def main_request (args : Args) (key : String) : HttpRequest where
  url := trim_end_matches args.endpoint '/' ++ "/chat/completions"
  bearer_auth := key
  json := .object [("model", .string args.model), ("messages", .array [.object
    [("role", .string "user"), ("content", .string (SYSTEM_PROMPT ++ "\n\n" ++
      ("Telemetry Frame #" ++ toString (1 : UInt64) ++ " from " ++ "edge-node-01" ++ "\nData: " ++
        args.prompt ++ "\n\nAnalyze and provide decision:")))]])]

/-- The entry of the log for the first choice of a response, with its hash. -/
def logged_line (D : Dependencies) (response : QwenResponse) (choice : QwenChoice) : String :=
  let log := TeeGateway.log_text 1 response.model choice.message.content response.usage.total_tokens
  log ++ "|HASH:" ++ lower_hex (D.sha256 (as_bytes log))

/-- What is printed of a response, with its first choice. -/
def printed (D : Dependencies) (response : QwenResponse) (choice : QwenChoice) : List String :=
  ["\n=== Qwen Cloud response ===",
    "request_id : " ++ response.request_id,
    "model      : " ++ response.model,
    "tokens     : " ++ toString response.usage.prompt_tokens ++ " in / " ++
      toString response.usage.completion_tokens ++ " out",
    "content    :\n" ++ choice.message.content,
    "\n=== Execution log (hash-chained, for verification) ===",
    logged_line D response choice]

/-- The program has sent these requests and makes this of an answer: it fails as the gateway
failed, or prints the response with its first choice, up to the first line that cannot be
written. -/
inductive Reports (D : Dependencies) (writes : ℕ → Bool) (requests : List HttpRequest) :
    Except GatewayError QwenResponse → MainRun → Prop where
  | failed (e : GatewayError) :
      Reports D writes requests (.error e) ⟨requests, [], .failed (.gateway e)⟩
  | answered (response : QwenResponse) (choice : QwenChoice) (others : List QwenChoice)
      (hchoices : response.choices = choice :: others) (hwrites : ∀ i < 7, writes i = true) :
      Reports D writes requests (.ok response) ⟨requests, printed D response choice, .returned⟩
  | cut_short (response : QwenResponse) (choice : QwenChoice) (others : List QwenChoice) (n : ℕ)
      (hchoices : response.choices = choice :: others) (hn : n < 7) (hcut : writes n = false)
      (hwrites : ∀ i < n, writes i = true) :
      Reports D writes requests (.ok response)
        ⟨requests, (printed D response choice).take n, .panicked⟩

/-! ### Printing

A line that cannot be written ends the program, so what is printed is always a part of the
lines, from the first one on. The panic at `choices[0]` stays in the model of `main`, but no
run comes to it: a response of the gateway has a choice. -/

/-- All lines are printed, or those in front of the first that cannot be written. -/
theorem println_cases (writes : ℕ → Bool) (i : ℕ) (lines : List String) :
    (println writes i lines = lines ∧ ∀ k < lines.length, writes (i + k) = true) ∨
      ∃ n < lines.length, println writes i lines = lines.take n ∧ writes (i + n) = false ∧
        ∀ k < n, writes (i + k) = true := by
  induction lines generalizing i with
  | nil => exact Or.inl ⟨rfl, fun k hk => absurd hk (Nat.not_lt_zero k)⟩
  | cons line lines ih =>
      have hshift (k : ℕ) : i + 1 + k = i + (k + 1) := by omega
      rw [println]
      cases hline : writes i with
      | false =>
          exact Or.inr ⟨0, Nat.succ_pos _, rfl, hline, fun k hk => absurd hk (Nat.not_lt_zero k)⟩
      | true =>
          -- this line comes through, so what the others do decides
          have hbelow {n : ℕ} (hlater : ∀ k < n, writes (i + 1 + k) = true) :
              ∀ k < n + 1, writes (i + k) = true := by
            intro k hk
            rcases k with _ | k
            · exact hline
            · rw [← hshift]
              exact hlater k (Nat.lt_of_succ_lt_succ hk)
          rw [if_pos rfl]
          rcases ih (i + 1) with ⟨hall, hwrites⟩ | ⟨n, hn, hcut, hfails, hwrites⟩
          · rw [hall]
            exact Or.inl ⟨rfl, hbelow hwrites⟩
          · rw [hcut]
            refine Or.inr ⟨n + 1, Nat.succ_lt_succ hn, rfl, ?_, hbelow hwrites⟩
            rw [← hshift]
            exact hfails

variable {D : Dependencies} {args : Args} {qwen_api_key : Option String}

/-- The lines of a response with a choice. The entry of the log goes through bytes and comes back
as it was. -/
theorem report_eq (gateway : TeeGateway (SimulatedTee D.sha256)) {response : QwenResponse}
    {choice : QwenChoice} {others : List QwenChoice}
    (hchoices : response.choices = choice :: others) :
    report D gateway 1 response = (printed D response choice, false) := by
  have hlog : gateway.generate_execution_log D 1 response =
      some (as_bytes (logged_line D response choice)) := by
    rw [TeeGateway.generate_execution_log, hchoices]
    rfl
  -- the log is a string made of strings, so the lossy reading of its bytes loses nothing
  rw [report, hchoices, hlog]
  dsimp only
  rw [from_utf8_lossy_as_bytes]
  rfl

theorem reports_printed {response : QwenResponse} {choice : QwenChoice} {others : List QwenChoice}
    (hchoices : response.choices = choice :: others) (writes : ℕ → Bool)
    (requests : List HttpRequest) :
    Reports D writes requests (.ok response)
      ⟨requests, println writes 0 (printed D response choice),
        if false || (println writes 0 (printed D response choice)).length <
          (printed D response choice).length then .panicked else .returned⟩ := by
  have hlength : (printed D response choice).length = 7 := rfl
  -- the two ways `println` can go are the last two constructors of `Reports`
  rcases println_cases writes 0 (printed D response choice) with
    ⟨hall, hwrites⟩ | ⟨n, hn, hcut, hfails, hwrites⟩
  · have hnot : ¬ (false || decide ((printed D response choice).length <
        (printed D response choice).length)) = true := by
      rw [Bool.false_or, decide_eq_true_iff]
      exact Nat.lt_irrefl _
    rw [hall, if_neg hnot]
    simp only [Nat.zero_add] at hwrites
    exact .answered response choice others hchoices hwrites
  · have hshort : (false || decide (((printed D response choice).take n).length <
        (printed D response choice).length)) = true := by
      rw [Bool.false_or, decide_eq_true_iff, List.length_take, Nat.min_eq_left hn.le]
      exact hn
    rw [hcut, if_pos hshort]
    simp only [Nat.zero_add] at hfails hwrites
    exact .cut_short response choice others n hchoices hn hfails hwrites

/-! ### The run

The gateway of the program is initialized once and processes one frame, so its history is the one
entry of `initialize`. -/

variable {start : TeeGateway (SimulatedTee D.sha256)} {key : String}

/-- A gateway that is given its token, and cannot build its client. -/
theorem main_panics (hgateway : args.gateway D qwen_api_key = .ok (start, key))
    (timestamp_ns : UInt64) (now : ℕ) (send : HttpRequest → HttpOutcome) (writes : ℕ → Bool) :
    args.main D qwen_api_key false timestamp_ns now send writes = ⟨[], [], .panicked⟩ := by
  rw [main, hgateway]
  dsimp only
  rw [initialize_sends_nothing, initialize_with_simulated]
  rfl

/-- A gateway that is given its token answers the frame, and the answer is reported: there is a
choice to print, because a response that comes from the gateway has one
(`call_qwen_api_cases`). -/
theorem main_reports (hgateway : args.gateway D qwen_api_key = .ok (start, key))
    (hstart : Configured start start []) (timestamp_ns : UInt64) (now : ℕ)
    (send : HttpRequest → HttpOutcome) (writes : ℕ → Bool) :
    ∃ e : GatewayEntry (SimulatedTee D.sha256), last_token [e] = some (as_bytes key) ∧
      frame_sources [e] = [] ∧
      Reports D writes (requests_of start [e] (args.frame timestamp_ns))
        (answer_of D start [e] (args.frame timestamp_ns) send)
        (args.main D qwen_api_key true timestamp_ns now send writes) := by
  have hinit := initialize_with_simulated start (as_bytes key)
  have hok : (start.initialize_with (as_bytes key)).1 = .ok () := congrArg Prod.fst hinit
  have houtput : (entry (TeeGateway.step D) start (.initialize_with (as_bytes key))).output =
      .initialized (.ok ()) := congrArg GatewayReply.initialized hok
  have hinitialized := hstart.completed
    (e := entry (TeeGateway.step D) start (.initialize_with (as_bytes key))) rfl houtput
    (congrArg Prod.snd hinit)
  generalize hafter : (start.initialize_with (as_bytes key)).2 = gateway at hinitialized
  have hpair : start.initialize_with (as_bytes key) = (.ok (), gateway) :=
    Prod.ext hok hafter
  refine ⟨entry (TeeGateway.step D) start (.initialize_with (as_bytes key)), ?_, rfl, ?_⟩
  · rw [last_token, houtput]
    rfl
  -- from here on the frame: the answer and the requests of the gateway are those of its
  -- history, which is the one call of `initialize`
  rw [← hinitialized.answer D (args.frame timestamp_ns) now send,
    ← hinitialized.sent_eq (args.frame timestamp_ns) now, main, hgateway]
  dsimp only
  rw [hpair, initialize_sends_nothing]
  dsimp only
  rw [if_neg (by decide), List.nil_append]
  rcases hprocess : gateway.process_frame D (args.frame timestamp_ns) now send with
    ⟨e | response, after⟩
  · exact .failed e
  · obtain ⟨prompt, hreply⟩ := gateway.process_frame_reply D (args.frame timestamp_ns) now send
    rw [hprocess] at hreply
    rcases TeeGateway.call_qwen_api_cases D (gateway.count_frame (args.frame timestamp_ns) now)
      prompt send with ⟨e, herror, -⟩ | ⟨answer, hok, hnumbered, -⟩
    · rw [herror] at hreply
      cases hreply
    · rw [hok] at hreply
      obtain rfl := Except.ok.inj hreply
      -- no response comes without a choice, so `choices[0]` is in bounds
      obtain ⟨choice, others, hchoices⟩ := List.exists_cons_of_ne_nil hnumbered.ne_nil
      have hreport : report D after (args.frame timestamp_ns).frame_id response =
          (printed D response choice, false) := report_eq after hchoices
      dsimp only
      rw [hreport]
      exact reports_printed hchoices writes _

/-- **The program.** Without `--simulate` it needs a key, and ends with the message if there is
none. Otherwise it panics if the HTTP client cannot be built, having sent and printed nothing. With
a client, a simulated run sends nothing, and prints the demo answer to its prompt whatever the
environment and the network; a live run sends one request, in which the key and the prompt are as
they were typed, and reports what is made of its outcome. The log entry it prints comes with the
hash of its text. A report is cut short by a panic at the first line that cannot be written, and
there is no other panic. -/
theorem main_answers (D : Dependencies) (args : Args) (qwen_api_key : Option String)
    (client_builds : Bool) (timestamp_ns : UInt64) (now : ℕ) (send : HttpRequest → HttpOutcome)
    (writes : ℕ → Bool) :
    let run := args.main D qwen_api_key client_builds timestamp_ns now send writes
    (args.simulate = false → qwen_api_key.getD "" = "" →
      run = ⟨[], [], .failed (.message missing_key)⟩) ∧
    (args.simulate = true ∨ qwen_api_key.getD "" ≠ "" → client_builds = false →
      run = ⟨[], [], .panicked⟩) ∧
    (args.simulate = true → client_builds = true →
      Reports D writes [] (.ok (canned_response "qwen-max" 1 (args.frame timestamp_ns))) run) ∧
    ∀ key, args.simulate = false → qwen_api_key = some key → key ≠ "" → client_builds = true →
      Reports D writes [args.main_request key]
        ((TeeGateway.new_live (SimulatedTee.new D.sha256) args.endpoint args.model).receive D
          (send (args.main_request key))) run := by
  -- the gateway of the arguments, one of two: a simulated one, or a live one with its key
  have hsimulated (hsimulate : args.simulate = true) : args.gateway D qwen_api_key =
      .ok (TeeGateway.new (SimulatedTee.new D.sha256) args.endpoint, "simulated-key") := by
    rw [gateway, if_pos hsimulate]
  have hlive (hsimulate : args.simulate = false) (hkey : qwen_api_key.getD "" ≠ "") :
      args.gateway D qwen_api_key =
        .ok (TeeGateway.new_live (SimulatedTee.new D.sha256) args.endpoint args.model,
          qwen_api_key.getD "") := by
    rw [gateway, if_neg (by rw [hsimulate]; decide)]
    exact if_neg hkey
  intro run
  refine ⟨?_, ?_, ?_, ?_⟩
  · intro hsimulate hmissing
    have hgateway : args.gateway D qwen_api_key = .error (.message missing_key) := by
      rw [gateway, if_neg (by rw [hsimulate]; decide)]
      exact if_pos hmissing
    unfold run main
    rw [hgateway]
  · rintro hgiven rfl
    cases hsimulate : args.simulate with
    | true => exact main_panics (hsimulated hsimulate) timestamp_ns now send writes
    | false =>
        rw [hsimulate] at hgiven
        have hkey := hgiven.resolve_left Bool.false_ne_true
        exact main_panics (hlive hsimulate hkey) timestamp_ns now send writes
  · rintro hsimulate rfl
    obtain ⟨e, htoken, hsources, hreports⟩ :=
      main_reports (hsimulated hsimulate) (start_configured _ _ none) timestamp_ns now send writes
    rw [answer_of, requests_of, htoken, hsources] at hreports
    exact hreports
  · rintro key hsimulate rfl hkey rfl
    obtain ⟨e, htoken, -, hreports⟩ :=
      main_reports (hlive hsimulate hkey) (start_configured _ _ (some args.model)) timestamp_ns now
        send writes
    -- the token and the payload are read back from their bytes
    have hrequest : chat_request args.endpoint args.model (as_bytes key)
        (args.frame timestamp_ns) = args.main_request key := by
      rw [chat_request, frame_prompt, frame, from_utf8_lossy_as_bytes, from_utf8_lossy_as_bytes]
      rfl
    rw [← hrequest]
    rw [answer_of, requests_of, htoken] at hreports
    exact hreports

end Args

end SovereignEdgeTee
