/-
`crates/xdp-ingest/bpf/xdp_prog.c` once more, as the kernel's verifier sees it: the loads it
makes, what it has compared `data_end` with by then, and the record it reserves.

`filter_program` follows the source statement by statement. `filter_verified` walks its
branches, and the rules of `PacketProgram` give the rest. It is the function
`xdp_filter_telemetry` of the model, which reads a zero where the program would not read at
all.
-/
import SovereignEdgeTee.PacketProgram
import SovereignEdgeTee.XdpFilter
import Mathlib.Data.List.Range

set_option autoImplicit false

namespace SovereignEdgeTee

/-- What the filter is: it loads bytes, submits events and returns a verdict. -/
abbrev FilterProgram := PacketProgram UInt8 TelemetryMeta XdpAction

namespace FilterProgram

/-- A load of two bytes on a little-endian host. -/
def load_u16 (offset : ℕ) (next : UInt16 → FilterProgram) : FilterProgram :=
  .load offset fun low => .load (offset + 1) fun high =>
    next (.ofNat (low.toNat + 256 * high.toNat))

def load_u32 (offset : ℕ) (next : UInt32 → FilterProgram) : FilterProgram :=
  load_u16 offset fun low => load_u16 (offset + 2) fun high =>
    next (.ofNat (low.toNat + 65536 * high.toNat))

end FilterProgram

open FilterProgram

/-- `xdp_filter_telemetry`, with its loads. -/
def filter_program (now : UInt64) : FilterProgram :=
  .check sizeof_ethhdr (.ret .XDP_PASS) <|
  load_u16 12 fun h_proto =>
  if h_proto ≠ bpf_htons ETH_P_IP then .ret .XDP_PASS
  else
  let iph := sizeof_ethhdr
  .check (iph + sizeof_iphdr) (.ret .XDP_PASS) <|
  .load (iph + 9) fun protocol =>
  if protocol ≠ IPPROTO_UDP then .ret .XDP_PASS
  else
  let udph := sizeof_ethhdr + sizeof_iphdr
  .check (udph + sizeof_udphdr) (.ret .XDP_PASS) <|
  load_u16 (udph + 2) fun dest =>
  let dst_port := bpf_ntohs dest
  if dst_port ≠ EDGE_TELEMETRY_UDP_PORT then .ret .XDP_PASS
  else
  .reserve (.ret .XDP_PASS) <|
  load_u32 (iph + 12) fun saddr =>
  load_u32 (iph + 16) fun daddr =>
  load_u16 udph fun source =>
  load_u16 (udph + 4) fun len =>
  .submit
    { src_ip := saddr
      dst_ip := daddr
      src_port := bpf_ntohs source
      dst_port := dst_port
      payload_len := bpf_ntohs len - 8
      timestamp_ns := now } <|
  .ret .XDP_PASS

/-- The farthest end the program compares `data_end` with, behind the UDP header. -/
def headers_len : ℕ := sizeof_ethhdr + sizeof_iphdr + sizeof_udphdr

/-! ## The verifier

The comparisons with `data_end` stand in three places of the program, and after each of them
more bytes may be loaded. The proof follows the program from top to bottom. At a load there is
one thing to show, that its offset is below the end compared with last. -/

theorem verified_load_u16 {limit known offset : ℕ} {held : Bool} {next : UInt16 → FilterProgram}
    (hoffset : offset + 1 < known) (hnext : ∀ x, (next x).Verified limit known held) :
    (load_u16 offset next).Verified limit known held := by
  refine ⟨by omega, fun low => ⟨hoffset, fun high => ?_⟩⟩
  exact hnext _

theorem verified_load_u32 {limit known offset : ℕ} {held : Bool} {next : UInt32 → FilterProgram}
    (hoffset : offset + 3 < known) (hnext : ∀ x, (next x).Verified limit known held) :
    (load_u32 offset next).Verified limit known held := by
  apply verified_load_u16 (by omega)
  intro low
  apply verified_load_u16 (by omega)
  intro high
  exact hnext _

/-- **The filter passes the verifier.** -/
theorem filter_verified (now : UInt64) : (filter_program now).Verified headers_len 0 false := by
  refine ⟨by decide, rfl, ?_⟩
  apply verified_load_u16 (by decide)
  intro h_proto
  apply PacketProgram.verified_ite
  · rfl
  refine ⟨by decide, rfl, by decide, fun protocol => ?_⟩
  apply PacketProgram.verified_ite
  · rfl
  refine ⟨by decide, rfl, ?_⟩
  apply verified_load_u16 (by decide)
  intro dest
  apply PacketProgram.verified_ite
  · rfl
  -- the reservation is open from here to the submission
  refine ⟨rfl, rfl, ?_⟩
  apply verified_load_u32 (by decide)
  intro saddr
  apply verified_load_u32 (by decide)
  intro daddr
  apply verified_load_u16 (by decide)
  intro source
  apply verified_load_u16 (by decide)
  intro len
  exact ⟨rfl, rfl⟩

/-! ## The program and the function

A branch that the program takes is taken by the function, and the other way round. So the two
are compared by the tests that they share, with one lemma for a check and one for each width
of a load. -/

section Run

variable (data : Frame) (room : Bool)

/-- A run of the program on a frame. -/
def FilterProgram.on (p : FilterProgram) (held : Bool) : Option (XdpAction × List TelemetryMeta) :=
  p.run data.load_u8 data.length room held

theorem check_on {n : ℕ} {outside inside : FilterProgram} {held : Bool} :
    FilterProgram.on data room (.check n outside inside) held =
      if n > data.length then FilterProgram.on data room outside held
      else FilterProgram.on data room inside held := by
  rfl

theorem load_on {offset : ℕ} (next : UInt8 → FilterProgram) {held : Bool}
    (hoffset : offset < data.length) :
    FilterProgram.on data room (.load offset next) held =
      FilterProgram.on data room (next (data.load_u8 offset)) held := by
  exact if_pos hoffset

theorem load_u16_on {offset : ℕ} (next : UInt16 → FilterProgram) {held : Bool}
    (hoffset : offset + 1 < data.length) :
    FilterProgram.on data room (load_u16 offset next) held =
      FilterProgram.on data room (next (data.load_u16 offset)) held := by
  rw [load_u16, load_on data room _ (by omega), load_on data room _ hoffset]
  rfl

theorem load_u32_on {offset : ℕ} (next : UInt32 → FilterProgram) {held : Bool}
    (hoffset : offset + 3 < data.length) :
    FilterProgram.on data room (load_u32 offset next) held =
      FilterProgram.on data room (next (data.load_u32 offset)) held := by
  rw [load_u32, load_u16_on data room _ (by omega), load_u16_on data room _ hoffset]
  rfl

/-- On every frame the program comes to the verdict of the function, and submits its event. One
comparison and one load of the program after the other, as the function makes them. -/
theorem filter_program_on (now : UInt64) :
    FilterProgram.on data room (filter_program now) false =
      some ((xdp_filter_telemetry data room now).1,
        (xdp_filter_telemetry data room now).2.toList) := by
  unfold filter_program xdp_filter_telemetry
  dsimp only
  have hethhdr : sizeof_ethhdr = 14 := rfl
  have hiphdr : sizeof_iphdr = 20 := rfl
  have hudphdr : sizeof_udphdr = 8 := rfl
  rw [check_on]
  -- what has to be shown of a branch that lets the packet pass is that both sides do
  by_cases heth : sizeof_ethhdr > data.length
  · rw [if_pos heth, if_pos heth]
    rfl
  rw [if_neg heth, if_neg heth, load_u16_on data room _ (by omega)]
  by_cases hip : data.load_u16 12 ≠ bpf_htons ETH_P_IP
  · rw [if_pos hip, if_pos hip]
    rfl
  rw [if_neg hip, if_neg hip, check_on]
  by_cases hiph : sizeof_ethhdr + sizeof_iphdr > data.length
  · rw [if_pos hiph, if_pos hiph]
    rfl
  rw [if_neg hiph, if_neg hiph, load_on data room _ (by omega)]
  by_cases hudp : data.load_u8 (sizeof_ethhdr + 9) ≠ IPPROTO_UDP
  · rw [if_pos hudp, if_pos hudp]
    rfl
  rw [if_neg hudp, if_neg hudp, check_on]
  by_cases hudph : sizeof_ethhdr + sizeof_iphdr + sizeof_udphdr > data.length
  · rw [if_pos hudph, if_pos hudph]
    rfl
  rw [if_neg hudph, if_neg hudph, load_u16_on data room _ (by omega)]
  by_cases hport :
      bpf_ntohs (data.load_u16 (sizeof_ethhdr + sizeof_iphdr + 2)) ≠ EDGE_TELEMETRY_UDP_PORT
  · rw [if_pos hport, if_pos hport]
    rfl
  rw [if_neg hport, if_neg hport]
  cases room with
  | false => rfl
  | true =>
      rw [if_pos rfl]
      -- the record is reserved, and all that is left are loads behind comparisons
      have hreserve : ∀ taken : FilterProgram,
          FilterProgram.on data true (.reserve (.ret .XDP_PASS) taken) false =
            FilterProgram.on data true taken true := fun _ => rfl
      rw [hreserve, load_u32_on data true _ (by omega), load_u32_on data true _ (by omega),
        load_u16_on data true _ (by omega), load_u16_on data true _ (by omega)]
      rfl

end Run

/-! ## Any packet in memory

The program runs on addresses, the function on the list of bytes of a frame. A packet is a
memory and a length, and its frame is what lies below the length. -/

/-- The first `len` bytes of a memory. -/
def Frame.of_memory (mem : ℕ → UInt8) (len : ℕ) : Frame := (List.range len).map mem

theorem Frame.length_of_memory (mem : ℕ → UInt8) (len : ℕ) :
    (Frame.of_memory mem len).length = len := by
  rw [Frame.of_memory, List.length_map, List.length_range]

theorem Frame.load_of_memory {mem : ℕ → UInt8} {len i : ℕ} (h : i < len) :
    (Frame.of_memory mem len).load_u8 i = mem i := by
  rw [Frame.load_u8, Frame.of_memory, List.getD_eq_getElem?_getD, List.getElem?_map,
    List.getElem?_range h]
  rfl

/-- What the program does with a packet is what the function does with its bytes. -/
theorem run_filter_program (mem : ℕ → UInt8) (len : ℕ) (room : Bool) (now : UInt64) :
    (filter_program now).run mem len room false =
      some ((xdp_filter_telemetry (Frame.of_memory mem len) room now).1,
        (xdp_filter_telemetry (Frame.of_memory mem len) room now).2.toList) := by
  rw [← filter_program_on, FilterProgram.on, Frame.length_of_memory]
  refine PacketProgram.run_congr (filter_verified now) (Nat.zero_le _) (Nat.zero_le _) rfl ?_
  intro i hi
  exact (Frame.load_of_memory (by omega)).symm

/-- **The filter is safe, and sees the headers only.** On every packet in every memory the
program makes no load at or behind `data_end` and none behind the UDP header, submits the
record it reserves, and comes to the verdict and the event of the model. And packets with the
same first 42 bytes, as far as they reach, get the same verdict and event, whatever they carry. -/
theorem filter_safe (mem : ℕ → UInt8) (len : ℕ) (room : Bool) (now : UInt64) :
    (∀ offset ∈ (filter_program now).offsets mem len room, offset < min len headers_len) ∧
      (filter_program now).run mem len room false =
        some ((xdp_filter_telemetry (Frame.of_memory mem len) room now).1,
          (xdp_filter_telemetry (Frame.of_memory mem len) room now).2.toList) ∧
      ∀ (mem' : ℕ → UInt8) (len' : ℕ), min len headers_len = min len' headers_len →
        (∀ i < min len headers_len, mem i = mem' i) →
          xdp_filter_telemetry (Frame.of_memory mem' len') room now =
            xdp_filter_telemetry (Frame.of_memory mem len) room now := by
  refine ⟨?_, run_filter_program mem len room now, ?_⟩
  · exact PacketProgram.offsets_lt (filter_verified now) (Nat.zero_le _) (Nat.zero_le _)
  · intro mem' len' hlen hmem
    have hrun : (filter_program now).run mem len room false =
        (filter_program now).run mem' len' room false :=
      PacketProgram.run_congr (filter_verified now) (Nat.zero_le len)
        (Nat.zero_le headers_len) hlen hmem
    rw [run_filter_program, run_filter_program, Option.some.injEq, Prod.mk.injEq] at hrun
    -- the events of both runs are one or none, and equal as lists
    have hevent := congrArg List.head? hrun.2
    rw [Option.head?_toList, Option.head?_toList] at hevent
    exact Prod.ext hrun.1.symm hevent.symm

end SovereignEdgeTee
