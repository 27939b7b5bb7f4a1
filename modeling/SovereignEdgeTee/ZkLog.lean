/-
`crates/zk-proofs/src/lib.rs`: the execution log a generator exports.

An entry is four fields, each behind its tag, and the fields are not escaped. A tag may
occur in a field, and then the same bytes are the log of other proofs. Two proofs can
always be taken for one whose key hash spells out the rest of the first entry and the
start of the second, so a log says what it records by itself only if it has one entry
whose fields hold no tag (`unambiguous_iff`). Among proofs whose fields hold no tag that
could follow them, every log does (`recorded_eq_of_plain`).
-/
import SovereignEdgeTee.Separator
import SovereignEdgeTee.ZkGuarantees

set_option autoImplicit false

namespace SovereignEdgeTee

open Separator

variable {G : Groth16}

/-- The entry of a proof. -/
def log_entry (proof : ZkProof) : String :=
  "PROOF:" ++ proof.proof_id ++ "|POLICY:" ++ proof.policy_id ++ "|VK_HASH:" ++
    proof.verification_key_hash ++ "|TS:" ++ toString proof.timestamp ++ "\n"

/-- `ZkProofGenerator::export_execution_log`. -/
def ZkProofGenerator.export_execution_log (_self : ZkProofGenerator G) (proofs : List ZkProof) :
    List UInt8 :=
  proofs.foldl (fun log proof => log ++ as_bytes (log_entry proof)) []

/-- The fields of a proof that its entry records. -/
structure Recorded where
  proof_id : String
  policy_id : String
  verification_key_hash : String
  timestamp : UInt64
deriving DecidableEq

def ZkProof.recorded (proof : ZkProof) : Recorded :=
  ⟨proof.proof_id, proof.policy_id, proof.verification_key_hash, proof.timestamp⟩

/-- The log of `ps` is the log of no other proofs. -/
def Unambiguous (gen : ZkProofGenerator G) (ps : List ZkProof) : Prop :=
  ∀ qs : List ZkProof, gen.export_execution_log ps = gen.export_execution_log qs →
    ps.map ZkProof.recorded = qs.map ZkProof.recorded

/-! ## The text of a log

The bytes of a log are the UTF-8 of its text, so that logs can be compared as lists of
characters. An entry is written as its tags and fields in turn, bracketed to the right, which
is the form the lemmas of `Separator` have. -/

def proof_tag : List Char := "PROOF:".toList
def policy_tag : List Char := "|POLICY:".toList
def vk_tag : List Char := "|VK_HASH:".toList
def ts_tag : List Char := "|TS:".toList

theorem marked_policy_tag : Marked '|' policy_tag := ⟨_, rfl, by decide⟩

theorem marked_vk_tag : Marked '|' vk_tag := ⟨_, rfl, by decide⟩

theorem marked_ts_tag : Marked '|' ts_tag := ⟨_, rfl, by decide⟩

/-- The end of an entry, behind the key hash. -/
def ts_chars (timestamp : UInt64) : List Char := (toString timestamp).toList ++ ['\n']

/-- An entry of these fields. -/
def entry_chars (proof_id policy_id vk_hash : List Char) (timestamp : UInt64) : List Char :=
  proof_tag ++ (proof_id ++ (policy_tag ++ (policy_id ++ (vk_tag ++ (vk_hash ++ (ts_tag ++
    ts_chars timestamp))))))

theorem toList_log_entry (p : ZkProof) :
    (log_entry p).toList =
      entry_chars p.proof_id.toList p.policy_id.toList p.verification_key_hash.toList
        p.timestamp := by
  simp only [log_entry, entry_chars, ts_chars, String.toList_append, List.append_assoc]
  rfl

/-- The characters of a log. -/
def log_chars (ps : List ZkProof) : List Char := ps.flatMap fun p => (log_entry p).toList

theorem log_chars_cons (p : ZkProof) (ps : List ZkProof) :
    log_chars (p :: ps) =
      entry_chars p.proof_id.toList p.policy_id.toList p.verification_key_hash.toList
        p.timestamp ++ log_chars ps := by
  rw [log_chars, List.flatMap_cons, toList_log_entry]
  rfl

theorem export_execution_log_eq (gen : ZkProofGenerator G) (ps : List ZkProof) :
    gen.export_execution_log ps = as_bytes (String.ofList (log_chars ps)) := by
  have hfold : ∀ log : List UInt8,
      ps.foldl (fun log proof => log ++ as_bytes (log_entry proof)) log =
        log ++ as_bytes (String.ofList (log_chars ps)) := by
    induction ps with
    | nil =>
        intro log
        exact (List.append_nil log).symm
    | cons p ps ih =>
        intro log
        have htext : String.ofList (log_chars (p :: ps)) =
            log_entry p ++ String.ofList (log_chars ps) := by
          rw [log_chars, List.flatMap_cons, String.ofList_append, String.ofList_toList, log_chars]
        rw [List.foldl_cons, ih, List.append_assoc, ← as_bytes_append, htext]
  exact hfold []

/-- Two logs have the same bytes exactly if they have the same text. -/
theorem export_execution_log_inj {gen : ZkProofGenerator G} {ps qs : List ZkProof} :
    gen.export_execution_log ps = gen.export_execution_log qs ↔ log_chars ps = log_chars qs := by
  rw [export_execution_log_eq, export_execution_log_eq, as_bytes_injective.eq_iff,
    String.ofList_inj]

theorem entry_chars_append (proof_id policy_id vk_hash rest : List Char) (timestamp : UInt64) :
    entry_chars proof_id policy_id vk_hash timestamp ++ rest =
      proof_tag ++ (proof_id ++ (policy_tag ++ (policy_id ++ (vk_tag ++ (vk_hash ++ (ts_tag ++
        (ts_chars timestamp ++ rest))))))) := by
  simp only [entry_chars, List.append_assoc]

theorem not_mem_ts_chars {c : Char} (timestamp : UInt64) (hc : c.isDigit = false)
    (hne : c ≠ '\n') : c ∉ ts_chars timestamp := by
  intro h
  rcases List.mem_append.mp h with hdigit | hnewline
  · exact absurd (isDigit_of_mem_toString hdigit) (by rw [hc]; exact Bool.false_ne_true)
  · exact hne (List.mem_singleton.mp hnewline)

/-- The first line break ends the time. -/
theorem ts_chars_append_inj {timestamp timestamp' : UInt64} {rest rest' : List Char}
    (h : ts_chars timestamp ++ rest = ts_chars timestamp' ++ rest') :
    timestamp = timestamp' ∧ rest = rest' := by
  have hnewline : Marked '\n' ['\n'] := ⟨[], rfl, List.not_mem_nil⟩
  -- a number in decimal has no line break
  have hclear : ∀ n : UInt64, ¬ ['\n'] <:+: (toString n).toList := fun n =>
    hnewline.not_infix fun hmem => absurd (isDigit_of_mem_toString hmem) (by decide)
  rw [ts_chars, ts_chars, List.append_assoc, List.append_assoc] at h
  obtain ⟨hdigits, hrest⟩ := cut_of_left_clear hnewline (hclear _) (hclear _) h
  exact ⟨toString_uint64_injective (String.toList_inj.mp hdigits), hrest⟩

/-! ## Fields without tags

Within logs of plain proofs the first place where a tag occurs is where it belongs. So the
fields of an entry can be cut off one by one, and behind the line break the next entry begins. -/

/-- No field holds the tag that follows it. -/
structure PlainProof (p : ZkProof) : Prop where
  proof_id : ¬ ContainsText "|POLICY:" p.proof_id
  policy_id : ¬ ContainsText "|VK_HASH:" p.policy_id
  verification_key_hash : ¬ ContainsText "|TS:" p.verification_key_hash

/-- The first entry of a log is read back field by field. -/
theorem recorded_eq_of_plain_entry {p q : ZkProof} (hp : PlainProof p) (hq : PlainProof q)
    {ps qs : List ZkProof} (h : log_chars (p :: ps) = log_chars (q :: qs)) :
    p.recorded = q.recorded ∧ log_chars ps = log_chars qs := by
  rw [log_chars_cons, log_chars_cons, entry_chars_append, entry_chars_append] at h
  -- both texts begin with the tag of the id; what is left begins with the id
  have hfields := List.append_cancel_left h
  obtain ⟨hid, hfields⟩ := cut_of_left_clear marked_policy_tag hp.proof_id hq.proof_id hfields
  obtain ⟨hpolicy, hfields⟩ := cut_of_left_clear marked_vk_tag hp.policy_id hq.policy_id hfields
  obtain ⟨hvk, hfields⟩ := cut_of_left_clear marked_ts_tag hp.verification_key_hash
    hq.verification_key_hash hfields
  obtain ⟨hts, hrest⟩ := ts_chars_append_inj hfields
  refine ⟨?_, hrest⟩
  rw [ZkProof.recorded, ZkProof.recorded, String.toList_inj.mp hid, String.toList_inj.mp hpolicy,
    String.toList_inj.mp hvk, hts]

theorem log_chars_cons_ne_nil (p : ZkProof) (ps : List ZkProof) : log_chars (p :: ps) ≠ [] := by
  rw [log_chars_cons, entry_chars_append]
  exact List.append_ne_nil_of_left_ne_nil (by decide) _

/-- **Plain proofs are told apart.** -/
theorem recorded_eq_of_plain {ps qs : List ZkProof} (hps : ∀ p ∈ ps, PlainProof p)
    (hqs : ∀ q ∈ qs, PlainProof q) (h : log_chars ps = log_chars qs) :
    ps.map ZkProof.recorded = qs.map ZkProof.recorded := by
  induction ps generalizing qs with
  | nil =>
      cases qs with
      | nil => rfl
      | cons q qs => exact absurd h.symm (log_chars_cons_ne_nil q qs)
  | cons p ps ih =>
      cases qs with
      | nil => exact absurd h (log_chars_cons_ne_nil p ps)
      | cons q qs =>
          obtain ⟨hp, hps⟩ := List.forall_mem_cons.mp hps
          obtain ⟨hq, hqs⟩ := List.forall_mem_cons.mp hqs
          obtain ⟨hfirst, hrest⟩ := recorded_eq_of_plain_entry hp hq h
          rw [List.map_cons, List.map_cons, hfirst, ih hps hqs hrest]

/-! ## A log against all others

Here the other log may be of any proofs. One that has the same text has to put some tag at
another place, and that place is in a field of this log; `TagFree` rules out every place where
the rest of the text could be read as an entry. -/

/-- No tag occurs where it could be taken for the tag that follows the id or the policy. -/
structure TagFree (p : ZkProof) : Prop where
  proof_id : ¬ ContainsText "|POLICY:" p.proof_id
  policy_id : ¬ ContainsText "|POLICY:" p.policy_id
  policy_id_vk : ¬ ContainsText "|VK_HASH:" p.policy_id
  verification_key_hash : ¬ ContainsText "|VK_HASH:" p.verification_key_hash

/-- The proof these fields are the entry of. -/
def forged (proof_id policy_id vk_hash : List Char) (timestamp : UInt64) : ZkProof where
  proof_id := String.ofList proof_id
  policy_id := String.ofList policy_id
  proof_bytes := []
  public_inputs := []
  verification_key_hash := String.ofList vk_hash
  timestamp := timestamp

theorem log_chars_forged (proof_id policy_id vk_hash : List Char) (timestamp : UInt64)
    (ps : List ZkProof) :
    log_chars (forged proof_id policy_id vk_hash timestamp :: ps) =
      entry_chars proof_id policy_id vk_hash timestamp ++ log_chars ps := by
  rw [log_chars_cons, forged, String.toList_ofList, String.toList_ofList, String.toList_ofList]

/-- The text of an entry that is not ambiguous is the text of its own fields alone. -/
theorem fields_eq_of_unambiguous {gen : ZkProofGenerator G} {p : ZkProof}
    (h : Unambiguous gen [p]) (proof_id policy_id vk_hash : List Char)
    (htext : entry_chars p.proof_id.toList p.policy_id.toList p.verification_key_hash.toList
        p.timestamp = entry_chars proof_id policy_id vk_hash p.timestamp) :
    p.proof_id.toList = proof_id ∧ p.policy_id.toList = policy_id := by
  have hlog : log_chars [p] = log_chars [forged proof_id policy_id vk_hash p.timestamp] := by
    rw [log_chars_cons, log_chars_forged, htext]
  -- so the log of `p` is the log of that other proof, and the two have to be recorded alike
  have hrecorded := h _ (export_execution_log_inj.mpr hlog)
  rw [List.map_singleton, List.map_singleton, List.singleton_inj, ZkProof.recorded,
    ZkProof.recorded, Recorded.mk.injEq] at hrecorded
  obtain ⟨hid, hpolicy, -, -⟩ := hrecorded
  rw [hid, hpolicy]
  exact ⟨String.toList_ofList, String.toList_ofList⟩

/-- A tag in the id can be taken for the one behind it, and one in the policy for the one
before it. -/
theorem entry_chars_shift_policy (id₁ id₂ policy_id vk_hash : List Char) (timestamp : UInt64) :
    entry_chars (id₁ ++ policy_tag ++ id₂) policy_id vk_hash timestamp =
      entry_chars id₁ (id₂ ++ policy_tag ++ policy_id) vk_hash timestamp := by
  simp only [entry_chars, List.append_assoc]

/-- The same for the tag between the policy and the key hash. -/
theorem entry_chars_shift_vk (proof_id policy₁ policy₂ vk_hash : List Char)
    (timestamp : UInt64) :
    entry_chars proof_id (policy₁ ++ vk_tag ++ policy₂) vk_hash timestamp =
      entry_chars proof_id policy₁ (policy₂ ++ vk_tag ++ vk_hash) timestamp := by
  simp only [entry_chars, List.append_assoc]

/-- A tag in a field shifts the border of that field. -/
theorem tagFree_of_unambiguous {gen : ZkProofGenerator G} {p : ZkProof}
    (h : Unambiguous gen [p]) : TagFree p := by
  constructor
  · rintro ⟨id₁, id₂, (hid : id₁ ++ policy_tag ++ id₂ = p.proof_id.toList)⟩
    have hshift := entry_chars_shift_policy id₁ id₂ p.policy_id.toList
      p.verification_key_hash.toList p.timestamp
    rw [hid] at hshift
    obtain ⟨hsame, -⟩ := fields_eq_of_unambiguous h _ _ _ hshift
    rw [← hid, List.append_assoc] at hsame
    exact marked_policy_tag.append_ne hsame
  · -- here the other proof has the longer id, so the shift is read backwards
    rintro ⟨policy₁, policy₂, (hpolicy : policy₁ ++ policy_tag ++ policy₂ = p.policy_id.toList)⟩
    have hshift := entry_chars_shift_policy p.proof_id.toList policy₁ policy₂
      p.verification_key_hash.toList p.timestamp
    rw [hpolicy] at hshift
    obtain ⟨hsame, -⟩ := fields_eq_of_unambiguous h _ _ _ hshift.symm
    rw [List.append_assoc] at hsame
    exact marked_policy_tag.append_ne hsame.symm
  · rintro ⟨policy₁, policy₂, (hpolicy : policy₁ ++ vk_tag ++ policy₂ = p.policy_id.toList)⟩
    have hshift := entry_chars_shift_vk p.proof_id.toList policy₁ policy₂
      p.verification_key_hash.toList p.timestamp
    rw [hpolicy] at hshift
    obtain ⟨-, hsame⟩ := fields_eq_of_unambiguous h _ _ _ hshift
    rw [← hpolicy, List.append_assoc] at hsame
    exact marked_vk_tag.append_ne hsame
  · rintro ⟨vk₁, vk₂, (hvk : vk₁ ++ vk_tag ++ vk₂ = p.verification_key_hash.toList)⟩
    have hshift := entry_chars_shift_vk p.proof_id.toList p.policy_id.toList vk₁ vk₂ p.timestamp
    rw [hvk] at hshift
    obtain ⟨-, hsame⟩ := fields_eq_of_unambiguous h _ _ _ hshift.symm
    rw [List.append_assoc] at hsame
    exact marked_vk_tag.append_ne hsame.symm

/-- Two entries are the entry of one proof, whose key hash holds the end of the first and
the start of the second. -/
theorem two_entries_ambiguous (gen : ZkProofGenerator G) (p q : ZkProof) (ps : List ZkProof) :
    ¬ Unambiguous gen (p :: q :: ps) := by
  intro h
  have hlog : log_chars (p :: q :: ps) =
      log_chars (forged p.proof_id.toList p.policy_id.toList
        (p.verification_key_hash.toList ++ (ts_tag ++ (ts_chars p.timestamp ++
          (proof_tag ++ (q.proof_id.toList ++ (policy_tag ++ (q.policy_id.toList ++
            (vk_tag ++ q.verification_key_hash.toList)))))))) q.timestamp :: ps) := by
    rw [log_chars_forged, log_chars_cons, log_chars_cons]
    simp only [entry_chars, List.append_assoc]
  have hlength := congrArg List.length (h _ (export_execution_log_inj.mpr hlog))
  simp at hlength

/-- The end of an entry holds no further tag. -/
theorem vk_tag_clear {p : ZkProof} (hp : TagFree p) :
    ¬ vk_tag <:+: p.verification_key_hash.toList ++ (ts_tag ++ ts_chars p.timestamp) := by
  intro h
  have hclear : '|' ∉ "TS:".toList ++ ts_chars p.timestamp := by
    rw [List.mem_append, not_or]
    exact ⟨by decide, not_mem_ts_chars p.timestamp (by decide) (by decide)⟩
  -- the tag would have to begin at the bar of `|TS:`, which is no prefix of it, or be in the
  -- key hash
  refine hp.verification_key_hash (marked_vk_tag.infix_of_append hclear ?_ h)
  rintro ⟨rest, hrest⟩
  cases hrest

/-- Every further entry brings another one. -/
theorem vk_tag_infix_log_chars (before : List Char) (p : ZkProof) (ps : List ZkProof) :
    vk_tag <:+: before ++ log_chars (p :: ps) := by
  rw [log_chars_cons, entry_chars_append]
  refine ⟨before ++ (proof_tag ++ (p.proof_id.toList ++ (policy_tag ++ p.policy_id.toList))),
    p.verification_key_hash.toList ++ (ts_tag ++ (ts_chars p.timestamp ++ log_chars ps)), ?_⟩
  simp only [List.append_assoc]

/-- What is behind the policy of a tag-free entry is read back, and ends the log. -/
theorem end_eq_of_tagFree {p q : ZkProof} {qs : List ZkProof} (hp : TagFree p)
    (h : p.verification_key_hash.toList ++ (ts_tag ++ ts_chars p.timestamp) =
      q.verification_key_hash.toList ++ (ts_tag ++ (ts_chars q.timestamp ++ log_chars qs))) :
    qs = [] ∧ p.verification_key_hash = q.verification_key_hash ∧ p.timestamp = q.timestamp := by
  cases qs with
  | cons q' qs =>
      -- a further entry would bring a tag that this log does not have
      have hfurther := vk_tag_infix_log_chars
        (q.verification_key_hash.toList ++ (ts_tag ++ ts_chars q.timestamp)) q' qs
      rw [List.append_assoc, List.append_assoc, ← h] at hfurther
      exact absurd hfurther (vk_tag_clear hp)
  | nil =>
      have hclear : ∀ n : UInt64, ¬ ts_tag <:+: ts_chars n := fun n =>
        marked_ts_tag.not_infix (not_mem_ts_chars n (by decide) (by decide))
      have hnil : ts_chars q.timestamp ++ log_chars [] = ts_chars q.timestamp := List.append_nil _
      rw [hnil] at h
      obtain ⟨hvk, hts⟩ := cut_of_right_clear marked_ts_tag (hclear _) (hclear _) h
      have hts : ts_chars p.timestamp ++ [] = ts_chars q.timestamp ++ [] := by rw [hts]
      exact ⟨rfl, String.toList_inj.mp hvk, (ts_chars_append_inj hts).1⟩

/-- **An entry without tags in its fields is the log of its proof alone.** Another log has
the tag of its first policy where this one has it, or else inside the id, or behind it with
a tag for a key hash still to come. -/
theorem unambiguous_of_tagFree (gen : ZkProofGenerator G) {p : ZkProof} (hp : TagFree p) :
    Unambiguous gen [p] := by
  intro qs hexport
  have hlog := export_execution_log_inj.mp hexport
  cases qs with
  | nil => exact absurd hlog (log_chars_cons_ne_nil p [])
  | cons q qs =>
      rw [log_chars_cons, log_chars_cons, entry_chars_append, entry_chars_append] at hlog
      have hfields := List.append_cancel_left hlog
      have hnil : ts_chars p.timestamp ++ log_chars [] = ts_chars p.timestamp := List.append_nil _
      rw [hnil] at hfields
      -- the tag before the policy: at the same place, later in the other text, or earlier
      rcases cut_cases marked_policy_tag hfields with ⟨hid, hfields⟩ | ⟨mid, -, hlater⟩ |
        ⟨mid, hid, -⟩
      · obtain ⟨hpolicy, hend⟩ := cut_of_clear marked_vk_tag hp.policy_id_vk
          (vk_tag_clear hp) hfields
        obtain ⟨rfl, hvk, hts⟩ := end_eq_of_tagFree hp hend
        rw [List.map_singleton, List.map_singleton, ZkProof.recorded, ZkProof.recorded,
          String.toList_inj.mp hid, String.toList_inj.mp hpolicy, hvk, hts]
      · -- up to the tag for the key hash both texts are the same policy
        rw [← List.append_assoc policy_tag, ← List.append_assoc mid] at hlater
        obtain ⟨hpolicy, -⟩ := cut_of_clear marked_vk_tag hp.policy_id_vk
          (vk_tag_clear hp) hlater
        refine absurd ?_ hp.policy_id
        rw [ContainsText, hpolicy]
        exact List.infix_append' _ _ _
      · refine absurd ?_ hp.proof_id
        rw [ContainsText, hid]
        exact List.infix_append' _ _ _

/-- **The logs that say what they record.** -/
theorem unambiguous_iff (gen : ZkProofGenerator G) (ps : List ZkProof) :
    Unambiguous gen ps ↔ ps = [] ∨ ∃ p, ps = [p] ∧ TagFree p := by
  constructor
  · intro h
    -- by the number of entries: none, one, or at least two
    rcases ps with _ | ⟨p, _ | ⟨q, ps⟩⟩
    · exact Or.inl rfl
    · exact Or.inr ⟨p, rfl, tagFree_of_unambiguous h⟩
    · exact absurd h (two_entries_ambiguous gen p q ps)
  · rintro (rfl | ⟨p, rfl, hp⟩)
    · intro qs hexport
      have hlog := export_execution_log_inj.mp hexport
      cases qs with
      | nil => rfl
      | cons q qs => exact absurd hlog.symm (log_chars_cons_ne_nil q qs)
    · exact unambiguous_of_tagFree gen hp

/-- **What the exported log commits to.** Against all other logs, the empty log and the
logs of one tag-free proof commit to what they record, and no others do; among the logs of
plain proofs, all do. -/
theorem export_execution_log_commits_iff (gen : ZkProofGenerator G) (ps : List ZkProof) :
    ((∀ qs : List ZkProof, gen.export_execution_log ps = gen.export_execution_log qs →
        ps.map ZkProof.recorded = qs.map ZkProof.recorded) ↔
      ps = [] ∨ ∃ p, ps = [p] ∧ TagFree p) ∧
    ((∀ p ∈ ps, PlainProof p) → ∀ qs : List ZkProof, (∀ q ∈ qs, PlainProof q) →
      gen.export_execution_log ps = gen.export_execution_log qs →
        ps.map ZkProof.recorded = qs.map ZkProof.recorded) :=
  ⟨unambiguous_iff gen ps, fun hps _ hqs hexport =>
    recorded_eq_of_plain hps hqs (export_execution_log_inj.mp hexport)⟩

/-! ## Two policies with one log

The border between the policy and the key hash can be moved, as a tag for the key hash may
stand in either of the two fields. -/

/-- The policy `drive|VK_HASH:00` under the key hash `11` has the log of the policy `drive`
under the key hash `00|VK_HASH:11`. -/
theorem shifted_policy_same_log :
    ¬ ∀ ps qs : List ZkProof,
      (ZkProofGenerator.new Groth16.sized).export_execution_log ps =
          (ZkProofGenerator.new Groth16.sized).export_execution_log qs →
        ps.map ZkProof.recorded = qs.map ZkProof.recorded := by
  intro h
  have hsame := h [⟨"zk-proof-1", "drive|VK_HASH:00", [], [], "11", 5⟩]
    [⟨"zk-proof-1", "drive", [], [], "00|VK_HASH:11", 5⟩] (by decide +kernel)
  exact absurd hsame (by decide)

end SovereignEdgeTee
