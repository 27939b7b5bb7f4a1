/-
`crates/xdp-ingest/bpf/xdp_prog.c`: the packet filter that reports telemetry datagrams.

The program looks for the UDP header at a fixed place, right behind an IP header of twenty
bytes. `ip_payload` and `starts_payload` say where the packet itself puts it: behind the
options, if there are any, and nowhere if the packet is a later fragment. The two are the
same place in the common case only, and `recognised_iff` says when the difference shows.

A frame is the list of its bytes, `data` to `data_end`. The program is compiled for a
little-endian host: a load of two or four bytes has the first one lowest.
-/
import Mathlib.Data.List.Basic
import Mathlib.Data.Nat.Notation

set_option autoImplicit false

namespace SovereignEdgeTee

abbrev Frame := List UInt8

inductive XdpAction where
  | XDP_ABORTED
  | XDP_DROP
  | XDP_PASS
  | XDP_TX
  | XDP_REDIRECT
deriving DecidableEq, Repr

/-- `struct telemetry_meta`. -/
structure TelemetryMeta where
  src_ip : UInt32
  dst_ip : UInt32
  src_port : UInt16
  dst_port : UInt16
  payload_len : UInt16
  timestamp_ns : UInt64
deriving DecidableEq, Repr

def EDGE_TELEMETRY_UDP_PORT : UInt16 := 47821
def ETH_P_IP : UInt16 := 0x0800
def IPPROTO_UDP : UInt8 := 17

def sizeof_ethhdr : ℕ := 14
def sizeof_iphdr : ℕ := 20
def sizeof_udphdr : ℕ := 8

namespace Frame

/-- A load of one byte. The verifier admits no load beyond `data_end`, and the program
makes none. -/
def load_u8 (data : Frame) (offset : ℕ) : UInt8 := data.getD offset 0

def load_u16 (data : Frame) (offset : ℕ) : UInt16 :=
  .ofNat ((data.load_u8 offset).toNat + 256 * (data.load_u8 (offset + 1)).toNat)

def load_u32 (data : Frame) (offset : ℕ) : UInt32 :=
  .ofNat ((data.load_u16 offset).toNat + 65536 * (data.load_u16 (offset + 2)).toNat)

end Frame

/-- `__builtin_bswap16`. -/
def bpf_ntohs (x : UInt16) : UInt16 := .ofNat (x.toNat % 256 * 256 + x.toNat / 256)

def bpf_htons (x : UInt16) : UInt16 := bpf_ntohs x

/-- `xdp_filter_telemetry`: the verdict and the event that is submitted. `reserved` says
whether the ring buffer has room, `now` is the clock. -/
def xdp_filter_telemetry (data : Frame) (reserved : Bool) (now : UInt64) :
    XdpAction × Option TelemetryMeta :=
  -- `eth->h_proto` is at byte 12 of the Ethernet header
  if sizeof_ethhdr > data.length then (.XDP_PASS, none)
  else if data.load_u16 12 ≠ bpf_htons ETH_P_IP then (.XDP_PASS, none)
  else
    let iph := sizeof_ethhdr
    if iph + sizeof_iphdr > data.length then (.XDP_PASS, none)
    else if data.load_u8 (iph + 9) ≠ IPPROTO_UDP then (.XDP_PASS, none)
    else
      let udph := sizeof_ethhdr + sizeof_iphdr
      if udph + sizeof_udphdr > data.length then (.XDP_PASS, none)
      else
        let dst_port := bpf_ntohs (data.load_u16 (udph + 2))
        if dst_port ≠ EDGE_TELEMETRY_UDP_PORT then (.XDP_PASS, none)
        else if reserved then
          (.XDP_PASS, some
            { src_ip := data.load_u32 (iph + 12)
              dst_ip := data.load_u32 (iph + 16)
              src_port := bpf_ntohs (data.load_u16 udph)
              dst_port := dst_port
              -- the difference is computed in 64 bits and cut down to 16
              payload_len := bpf_ntohs (data.load_u16 (udph + 4)) - 8
              timestamp_ns := now })
        else (.XDP_PASS, none)

/-! ## The fields of a packet

These definitions are not of the program. They say what the bytes of a frame mean, by the
layout of the headers, so that the place the program looks at can be compared with the place
the packet points to. -/

namespace Frame

/-- A field of two bytes, most significant byte first. -/
def be16 (data : Frame) (offset : ℕ) : ℕ :=
  256 * (data.load_u8 offset).toNat + (data.load_u8 (offset + 1)).toNat

/-- The Ethernet frame carries IPv4. -/
def is_ipv4 (data : Frame) : Bool := sizeof_ethhdr ≤ data.length && data.be16 12 = 0x0800

/-- The version of the IP header. -/
def ip_version (data : Frame) : ℕ := (data.load_u8 14).toNat / 16

/-- The length of the IP header in words of four bytes, as it says itself. -/
def ihl (data : Frame) : ℕ := (data.load_u8 14).toNat % 16

/-- The low thirteen bits of the field at byte 6 of the IP header. -/
def fragment_offset (data : Frame) : ℕ := data.be16 20 % 8192

def ip_protocol (data : Frame) : UInt8 := data.load_u8 23

/-- The first byte behind the IP header. -/
def ip_payload (data : Frame) : ℕ := 14 + 4 * data.ihl

/-- A complete UDP header with the telemetry port as its destination. -/
def telemetry_header (data : Frame) (offset : ℕ) : Bool :=
  offset + sizeof_udphdr ≤ data.length && data.be16 (offset + 2) = 47821

/-- What there is to learn from the header at `offset`: the source port, if it is the header
of a telemetry datagram. -/
def telemetry_source (data : Frame) (offset : ℕ) : Option ℕ :=
  if data.telemetry_header offset then some (data.be16 offset) else none

/-- An IP header of version 4 that is as long as it has to be, on the first fragment. -/
def starts_payload (data : Frame) : Bool :=
  data.ip_version = 4 && 5 ≤ data.ihl && data.fragment_offset = 0

/-- A frame that carries UDP over IPv4, be it the start of a datagram or not. -/
def is_udp (data : Frame) : Bool := data.is_ipv4 && data.ip_protocol = IPPROTO_UDP

/-- A telemetry datagram: an IPv4 packet with the start of a UDP datagram to the telemetry
port, the header of which is behind the IP header and complete. -/
def is_telemetry (data : Frame) : Bool :=
  data.is_udp && data.starts_payload && data.telemetry_header data.ip_payload

/-- The event of a frame whose UDP header is taken to be at byte 34. -/
def reported (data : Frame) (now : UInt64) : TelemetryMeta where
  src_ip := data.load_u32 26
  dst_ip := data.load_u32 30
  src_port := bpf_ntohs (data.load_u16 34)
  dst_port := bpf_ntohs (data.load_u16 36)
  payload_len := bpf_ntohs (data.load_u16 38) - 8
  timestamp_ns := now

variable (data : Frame) (offset : ℕ) (now : UInt64)

/-! ## What the program computes

The program tests one thing after the other and lets the frame pass at the first test that
fails. Put together, its tests ask for UDP over IPv4 and for a telemetry header at byte 34.
The fields come in network byte order and are compared as they are loaded, or after a swap. -/

theorem load_u16_toNat : (data.load_u16 offset).toNat
    = (data.load_u8 offset).toNat + 256 * (data.load_u8 (offset + 1)).toNat := by
  have hlow := (data.load_u8 offset).toNat_lt
  have hhigh := (data.load_u8 (offset + 1)).toNat_lt
  rw [load_u16, UInt16.toNat_ofNat_of_lt']
  show _ < 2 ^ 16
  omega

/-- A field in network byte order is read as the number it is. -/
theorem ntohs_load : (bpf_ntohs (data.load_u16 offset)).toNat = data.be16 offset := by
  have hlow := (data.load_u8 offset).toNat_lt
  have hhigh := (data.load_u8 (offset + 1)).toNat_lt
  have hload := data.load_u16_toNat offset
  rw [bpf_ntohs, be16, UInt16.toNat_ofNat_of_lt' (by show _ < 2 ^ 16; omega)]
  omega

/-- The check of the Ethernet type, which is made in network byte order. -/
theorem load_ne_htons_iff :
    data.load_u16 offset ≠ bpf_htons ETH_P_IP ↔ data.be16 offset ≠ 0x0800 := by
  have hlow := (data.load_u8 offset).toNat_lt
  have hhigh := (data.load_u8 (offset + 1)).toNat_lt
  have hload := data.load_u16_toNat offset
  have hhtons : (bpf_htons ETH_P_IP).toNat = 8 := by decide
  rw [not_iff_not, ← UInt16.toNat_inj, hload, hhtons, be16]
  omega

theorem ntohs_ne_port_iff :
    bpf_ntohs (data.load_u16 offset) ≠ EDGE_TELEMETRY_UDP_PORT ↔ data.be16 offset ≠ 47821 := by
  have hport : EDGE_TELEMETRY_UDP_PORT.toNat = 47821 := by decide
  rw [not_iff_not, ← UInt16.toNat_inj, ntohs_load, hport]

/-- The program lets every frame pass, and reports those that carry UDP and look like
telemetry at byte 34. -/
theorem xdp_filter_telemetry_eq : xdp_filter_telemetry data true now
    = (.XDP_PASS,
        if data.is_udp && data.telemetry_header 34 then some (data.reported now) else none) := by
  have hchecks : (data.is_udp && data.telemetry_header 34) = true ↔
      14 ≤ data.length ∧ data.be16 12 = 0x0800 ∧ data.ip_protocol = IPPROTO_UDP ∧
        42 ≤ data.length ∧ data.be16 36 = 47821 := by
    simp only [is_udp, is_ipv4, telemetry_header, Bool.and_eq_true, decide_eq_true_iff, and_assoc]
    rfl
  -- one check of the program after the other; each that fails makes the filter fail
  rw [xdp_filter_telemetry]
  simp only [load_ne_htons_iff, ntohs_ne_port_iff, sizeof_ethhdr, sizeof_iphdr, sizeof_udphdr]
  by_cases heth : 14 > data.length
  · rw [if_pos heth, if_neg fun h => absurd (hchecks.mp h).1 (by omega)]
  rw [if_neg heth]
  by_cases hip : data.be16 12 ≠ 0x0800
  · rw [if_pos hip, if_neg fun h => hip (hchecks.mp h).2.1]
  rw [if_neg hip]
  by_cases hiph : 34 > data.length
  · rw [if_pos hiph, if_neg fun h => absurd (hchecks.mp h).2.2.2.1 (by omega)]
  rw [if_neg hiph]
  by_cases hudp : data.load_u8 23 ≠ IPPROTO_UDP
  · rw [if_pos hudp, if_neg fun h => hudp (hchecks.mp h).2.2.1]
  rw [if_neg hudp]
  by_cases hudph : 42 > data.length
  · rw [if_pos hudph, if_neg fun h => absurd (hchecks.mp h).2.2.2.1 (by omega)]
  rw [if_neg hudph]
  by_cases hport : data.be16 36 ≠ 47821
  · rw [if_pos hport, if_neg fun h => hport (hchecks.mp h).2.2.2.2]
  rw [if_neg hport, if_pos trivial, if_pos]
  · rfl
  · rw [hchecks]
    exact ⟨by omega, not_not.mp hip, not_not.mp hudp, by omega, not_not.mp hport⟩

/-! ## What it should compute

`Recognised` speaks of the packet alone. Where it and the program part, the frame is UDP over
IPv4, and the header at byte 34 is not as good as the one behind the IP header: there is none
there, or none here, or the two have different source ports. -/

/-- The event of a frame is the right one: there is one just for telemetry datagrams, with
the ports of the UDP header that the IP header points at, and with the addresses as the IP
header has them. -/
structure Recognised (event : Option TelemetryMeta) : Prop where
  submitted : event.isSome = data.is_telemetry
  ports : ∀ info, event = some info →
    info.src_port.toNat = data.be16 data.ip_payload ∧
      info.dst_port.toNat = data.be16 (data.ip_payload + 2)
  addresses : ∀ info, event = some info →
    info.src_ip = data.load_u32 26 ∧ info.dst_ip = data.load_u32 30

/-- What the header at byte 34 says is what the header the packet points at says; there is
nothing at byte 34 to be taken for a telemetry header where the packet points at none. -/
def PlainHeader : Prop :=
  data.is_udp = true →
    data.telemetry_source 34
      = if data.starts_payload then data.telemetry_source data.ip_payload else none

theorem telemetry_source_of {offset : ℕ} (h : data.telemetry_header offset = true) :
    data.telemetry_source offset = some (data.be16 offset) :=
  if_pos h

theorem telemetry_source_of_not {offset : ℕ} (h : ¬ data.telemetry_header offset = true) :
    data.telemetry_source offset = none :=
  if_neg h

/-- A telemetry header has the telemetry port as its destination. -/
theorem telemetry_header_port {offset : ℕ} (h : data.telemetry_header offset = true) :
    data.be16 (offset + 2) = 47821 := by
  rw [telemetry_header, Bool.and_eq_true, decide_eq_true_iff, decide_eq_true_iff] at h
  exact h.2

theorem is_telemetry_iff : data.is_telemetry = true ↔
    data.is_udp = true ∧ data.starts_payload = true ∧
      data.telemetry_header data.ip_payload = true := by
  rw [is_telemetry, Bool.and_eq_true, Bool.and_eq_true, and_assoc]

/-- A frame without a UDP header at byte 34 is not reported, and rightly so just when the
packet points at none. -/
theorem recognised_none_iff : Recognised data none ↔ data.is_telemetry = false := by
  constructor
  · intro h
    exact h.submitted.symm
  · intro hnot
    exact ⟨hnot.symm, fun _ h => absurd h (by simp), fun _ h => absurd h (by simp)⟩

/-- A frame with a telemetry header at byte 34 is reported, and rightly so just when the
packet points at one with the same source port. -/
theorem recognised_some_iff (h34 : data.telemetry_header 34 = true) :
    Recognised data (some (data.reported now)) ↔
      data.is_telemetry = true ∧ data.be16 34 = data.be16 data.ip_payload := by
  constructor
  · intro h
    refine ⟨h.submitted.symm, ?_⟩
    have hports := h.ports _ rfl
    rw [← hports.1]
    exact (data.ntohs_load 34).symm
  · rintro ⟨htelemetry, hsource⟩
    have hheader := (data.is_telemetry_iff.mp htelemetry).2.2
    -- both headers have the telemetry port as their destination, and the source ports are
    -- equal by assumption
    refine ⟨htelemetry.symm, ?_, ?_⟩
    · intro info hinfo
      obtain rfl := Option.some.inj hinfo
      refine ⟨(data.ntohs_load 34).trans hsource, (data.ntohs_load 36).trans ?_⟩
      rw [data.telemetry_header_port hheader]
      exact data.telemetry_header_port h34
    · intro info hinfo
      obtain rfl := Option.some.inj hinfo
      exact ⟨rfl, rfl⟩

/-- Behind a telemetry header at byte 34 there has to be the one the packet points at, with
the same source port. -/
theorem plainHeader_telemetry_iff (hudp : data.is_udp = true)
    (h34 : data.telemetry_header 34 = true) :
    data.PlainHeader ↔ data.is_telemetry = true ∧ data.be16 34 = data.be16 data.ip_payload := by
  rw [PlainHeader, is_telemetry_iff, data.telemetry_source_of h34]
  -- where the packet points at no payload, or at no telemetry header, it has nothing to set
  -- against the one at byte 34
  by_cases hstart : data.starts_payload = true
  · rw [if_pos hstart]
    by_cases hheader : data.telemetry_header data.ip_payload = true
    · rw [data.telemetry_source_of hheader, Option.some.injEq]
      exact ⟨fun h => ⟨⟨hudp, hstart, hheader⟩, h hudp⟩, fun h _ => h.2⟩
    · rw [data.telemetry_source_of_not hheader]
      exact ⟨fun h => absurd (h hudp) (by simp), fun h => absurd h.1.2.2 hheader⟩
  · rw [if_neg hstart]
    exact ⟨fun h => absurd (h hudp) (by simp), fun h => absurd h.1.2.1 hstart⟩

/-- Where there is no telemetry header at byte 34, there has to be none at all. -/
theorem plainHeader_other_iff (hudp : data.is_udp = true)
    (h34 : ¬ data.telemetry_header 34 = true) :
    data.PlainHeader ↔ data.is_telemetry = false := by
  rw [PlainHeader, ← Bool.not_eq_true, is_telemetry_iff, data.telemetry_source_of_not h34]
  by_cases hstart : data.starts_payload = true
  · rw [if_pos hstart]
    by_cases hheader : data.telemetry_header data.ip_payload = true
    · rw [data.telemetry_source_of hheader]
      exact ⟨fun h => absurd (h hudp) (by simp), fun h => absurd ⟨hudp, hstart, hheader⟩ h⟩
    · rw [data.telemetry_source_of_not hheader]
      exact ⟨fun _ h => hheader h.2.2, fun _ _ => rfl⟩
  · rw [if_neg hstart]
    exact ⟨fun _ h => hstart h.2.1, fun _ _ => rfl⟩

/-- **Which frames are recognised.** The event of a frame is the right one just when the
header at byte 34 is as good as the one the packet points at. -/
theorem recognised_iff :
    Recognised data (xdp_filter_telemetry data true now).2 ↔ data.PlainHeader := by
  rw [xdp_filter_telemetry_eq]
  -- the three cases: the program reports the frame, it sees no telemetry at byte 34, or the
  -- frame is no UDP at all
  by_cases hudp : data.is_udp = true
  · by_cases h34 : data.telemetry_header 34 = true
    · rw [if_pos (by rw [hudp, h34]; rfl), recognised_some_iff data now h34,
        data.plainHeader_telemetry_iff hudp h34]
    · rw [if_neg (by simp [h34]), recognised_none_iff, data.plainHeader_other_iff hudp h34]
  · -- neither the program nor the packet has a UDP header
    rw [if_neg (by simp [hudp]), recognised_none_iff, ← Bool.not_eq_true, is_telemetry_iff]
    exact ⟨fun _ h => absurd h hudp, fun _ h => hudp h.1⟩

/-- A packet without options is classified as it should be, unless it is a later fragment. -/
theorem recognised_of_ihl (hihl : data.ihl = 5) (hstart : data.starts_payload = true) :
    Recognised data (xdp_filter_telemetry data true now).2 := by
  rw [recognised_iff, PlainHeader, if_pos hstart, ip_payload, hihl]
  exact fun _ => rfl

/-- A telemetry datagram of two bytes behind an IP header with four bytes of options. -/
def with_options : Frame :=
  [0, 0, 0, 0, 0, 1, 0, 0, 0, 0, 0, 2, 0x08, 0x00,
    0x46, 0, 0, 34, 0, 0, 0, 0, 64, 17, 0, 0, 10, 0, 0, 1, 10, 0, 0, 2, 1, 1, 1, 1,
    0x30, 0x39, 0xba, 0xcd, 0, 10, 0, 0, 7, 7]

/-- The program takes the options for the UDP header and misses the datagram. -/
theorem datagram_with_options_missed :
    ¬ ∀ (data : Frame) (now : UInt64),
      Recognised data (xdp_filter_telemetry data true now).2 := by
  intro h
  have hsubmitted := (h with_options 0).submitted
  revert hsubmitted
  decide +kernel

/-! ## The length of the payload

The length is a field that the sender fills in, less eight, in sixteen bits. Nothing compares
it with the frame. -/

/-- The length reported is one of bytes that are there: those behind the UDP header of the
program at byte 34. It was computed without a wrap. -/
structure Present (info : TelemetryMeta) : Prop where
  in_frame : info.payload_len.toNat ≤ data.length - 42
  no_wrap : info.payload_len.toNat + 8 = data.be16 38

/-- An event is the one of its frame. -/
theorem reported_of_event {info : TelemetryMeta}
    (hevent : (xdp_filter_telemetry data true now).2 = some info) :
    info = data.reported now ∧ 42 ≤ data.length := by
  rw [xdp_filter_telemetry_eq] at hevent
  by_cases h : (data.is_udp && data.telemetry_header 34) = true
  · rw [if_pos h] at hevent
    rw [Bool.and_eq_true, telemetry_header, Bool.and_eq_true, decide_eq_true_iff] at h
    exact ⟨(Option.some.inj hevent).symm, h.2.1⟩
  · rw [if_neg h] at hevent
    cases hevent

/-- **When the length can be trusted.** Just when the UDP length field, which the sender
fills in, covers the UDP header and no more than what is in the frame. -/
theorem payload_len_iff {info : TelemetryMeta}
    (hevent : (xdp_filter_telemetry data true now).2 = some info) :
    Present data info ↔ 8 ≤ data.be16 38 ∧ data.be16 38 ≤ data.length - 34 := by
  obtain ⟨rfl, hlength⟩ := data.reported_of_event now hevent
  have hfield := data.ntohs_load 38
  have hlen : (data.reported now).payload_len = bpf_ntohs (data.load_u16 38) - 8 := rfl
  have hbound := (bpf_ntohs (data.load_u16 38)).toNat_lt
  -- in sixteen bits, what is less than eight comes round to the top
  have hsub : (bpf_ntohs (data.load_u16 38) - 8).toNat = (2 ^ 16 - 8 + data.be16 38) % 2 ^ 16 := by
    rw [UInt16.toNat_sub, hfield]
    rfl
  constructor
  · -- a length below eight wraps to more than 65527, and `no_wrap` says that it does not
    rintro ⟨hin, hwrap⟩
    rw [hlen, hsub] at hin hwrap
    omega
  · rintro ⟨hheader, hrest⟩
    refine ⟨?_, ?_⟩
    · rw [hlen, hsub]
      omega
    · rw [hlen, hsub]
      omega

/-- A telemetry datagram of two bytes whose UDP header gives its length as `len`. -/
def with_length (len : UInt8) : Frame :=
  [0, 0, 0, 0, 0, 1, 0, 0, 0, 0, 0, 2, 0x08, 0x00,
    0x45, 0, 0, 30, 0, 0, 0, 0, 64, 17, 0, 0, 10, 0, 0, 1, 10, 0, 0, 2,
    0x30, 0x39, 0xba, 0xcd, 0, len, 0, 0, 7, 7]

/-- A length of ten: the header and the two bytes. -/
theorem payload_len_of_ten : Present (with_length 10) ((with_length 10).reported 0) :=
  ((with_length 10).payload_len_iff 0 (by decide +kernel)).mpr (by decide +kernel)

/-- A length of zero is reported as a payload of 65528 bytes. -/
theorem zero_length_wraps :
    ¬ ∀ (data : Frame) (now : UInt64) (info : TelemetryMeta),
      (xdp_filter_telemetry data true now).2 = some info → Present data info := by
  intro h
  have hpresent := h (with_length 0) 0 ((with_length 0).reported 0) (by decide +kernel)
  have hin := hpresent.in_frame
  revert hin
  decide +kernel

end Frame

end SovereignEdgeTee
