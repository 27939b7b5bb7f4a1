/-
`crates/xdp-ingest/src/main.rs`, the daemon: a thread that receives packets in a loop, and the
main thread, which lowers a flag when it is interrupted.

The two share the flag and nothing else, so a run is a sequence of rounds of the loop and of
interruptions. A round of the source receives a packet of its own making into the first frame
of the region. The counters count rounds, whether or not there is a frame to receive into. The
name of the interface and the queue are only logged, and left out.

Two things outside the daemon decide whether it lives. The allocator may refuse the region, and
a region that is to be longer than a vector can be is not even asked for (`new_eq_none_iff`).
And each round reads the clock, which panics before 1970. `daemon_receives` is about every
allocator and every clock. The arithmetic is that of a release build, which wraps around.
-/
import SovereignEdgeTee.Common
import SovereignEdgeTee.Mealy
import SovereignEdgeTee.UmemRegion
import Mathlib.Data.List.TakeWhile

set_option autoImplicit false

namespace SovereignEdgeTee

open Mealy

namespace UmemRegion

/-- The bytes of a range of the vector. -/
def bytes (self : UmemRegion) (r : ByteRange) : List UInt8 :=
  (self.buffer.drop r.start.toNat).take (r.stop.toNat - r.start.toNat)

/-- `fill`, on a range of the vector. -/
def fill (self : UmemRegion) (r : ByteRange) (byte : UInt8) : UmemRegion where
  frame_size := self.frame_size
  frame_count := self.frame_count
  buffer := self.buffer.mapIdx fun i b =>
    if r.start.toNat ≤ i ∧ i < r.stop.toNat then byte else b
  fits := self.fits
  length_buffer := by rw [List.length_mapIdx, self.length_buffer]

end UmemRegion

/-- `frame[..packet_len]`, which panics beyond the end of the frame. -/
def ByteRange.slice_to (self : ByteRange) (packet_len : UInt64) : Option ByteRange :=
  if packet_len ≤ self.stop - self.start then some ⟨self.start, self.start + packet_len⟩ else none

structure SocketStats where
  packets_received : UInt64
  bytes_received : UInt64
  errors : UInt64
deriving DecidableEq

structure XdpSocket where
  running : Bool
  umem : UmemRegion
  stats : SocketStats

/-- `parse_telemetry_frame`. The clock is read for a frame only; the outer `none` is its
panic. -/
def parse_telemetry_frame (data : List UInt8) (frame_id : UInt64) (time : SystemTime) :
    Option (Option TelemetryFrame) :=
  if data.length < 20 then some none
  else
    time.now_ns.map fun timestamp_ns => some
      { frame_id := frame_id
        source_ip := "0.0.0.0"
        dest_ip := none
        timestamp_ns := timestamp_ns
        payload := data }

/-- The number of frames of a socket. The product wraps around. -/
def frame_count_of (ring_size_kb : UInt64) : UInt64 := ring_size_kb * 1024 / 2048

/-- The frames of a socket can be counted in bytes, whatever the product was. -/
theorem frame_count_fits (ring_size_kb : UInt64) :
    (2048 : UInt64).toNat * (frame_count_of ring_size_kb).toNat < 2 ^ 64 := by
  have hlt := (ring_size_kb * 1024).toNat_lt
  have hsize : (2048 : UInt64).toNat = 2048 := rfl
  rw [frame_count_of, UInt64.toNat_div, hsize]
  omega

/-- The bytes of the region that the daemon asks for. -/
def region_bytes (ring_size_kb : UInt64) : ℕ :=
  (2048 : UInt64).toNat * (frame_count_of ring_size_kb).toNat

/-- Whether `vec![0u8; bytes]` returns. A vector longer than `isize::MAX` panics, one that the
allocator refuses aborts, and an empty one is not allocated. -/
def vec_allocates (allocator : ℕ → Bool) (bytes : ℕ) : Bool :=
  decide (bytes < 2 ^ 63) && (decide (bytes = 0) || allocator bytes)

namespace XdpSocket

/-- `XdpSocket::new`, or `none` where its region cannot be had. -/
def new (allocator : ℕ → Bool) (ring_size_kb : UInt64) : Option XdpSocket :=
  if vec_allocates allocator (region_bytes ring_size_kb) then some
    { running := true
      umem := .new 2048 (frame_count_of ring_size_kb) (frame_count_fits ring_size_kb)
      stats := ⟨0, 0, 0⟩ }
  else none

/-- A region is too long when the product has wrapped around to the upper half. -/
theorem region_bytes_lt_iff (ring_size_kb : UInt64) :
    region_bytes ring_size_kb < 2 ^ 63 ↔ ring_size_kb.toNat % 2 ^ 54 < 2 ^ 53 := by
  have hsize : (2048 : UInt64).toNat = 2048 := rfl
  have hcount : (frame_count_of ring_size_kb).toNat =
      ring_size_kb.toNat * 1024 % 2 ^ 64 / 2048 := by
    rw [frame_count_of, UInt64.toNat_div, UInt64.toNat_mul]
    rfl
  rw [region_bytes, hsize, hcount]
  omega

/-- The rings that the daemon does not survive. -/
theorem new_eq_none_iff (allocator : ℕ → Bool) (ring_size_kb : UInt64) :
    new allocator ring_size_kb = none ↔
      2 ^ 53 ≤ ring_size_kb.toNat % 2 ^ 54 ∨
        0 < region_bytes ring_size_kb ∧ allocator (region_bytes ring_size_kb) = false := by
  have hlong := region_bytes_lt_iff ring_size_kb
  have hallocates : vec_allocates allocator (region_bytes ring_size_kb) = true ↔
      region_bytes ring_size_kb < 2 ^ 63 ∧
        (region_bytes ring_size_kb = 0 ∨ allocator (region_bytes ring_size_kb) = true) := by
    rw [vec_allocates, Bool.and_eq_true, Bool.or_eq_true, decide_eq_true_iff, decide_eq_true_iff]
  rw [← Bool.not_eq_true (allocator _), ← not_lt, ← hlong, Nat.pos_iff_ne_zero, ← not_or,
    ← not_and_or, ← hallocates]
  unfold new
  split
  · rename_i h
    exact iff_of_false (Option.some_ne_none _) (not_not.mpr h)
  · rename_i h
    exact iff_of_true rfl h

/-- The packet that a round receives, and what it is parsed to. `none` is a panic. -/
def receive (self : XdpSocket) (time : SystemTime) :
    Option (UmemRegion × Option TelemetryFrame) :=
  if 0 < self.umem.frame_count then do
    let frame ← self.umem.get_frame_mut 0
    let packet_len := usize_min 100 (frame.stop - frame.start)
    let packet ← frame.slice_to packet_len
    let umem := self.umem.fill packet 0xAB
    let frame ← umem.get_frame 0
    let packet ← frame.slice_to packet_len
    let telemetry ←
      parse_telemetry_frame (umem.bytes packet) (self.stats.packets_received + 1) time
    return (umem, telemetry)
  else some (self.umem, none)

/-- One round of `receive_loop`, behind its check of the flag. -/
def round (self : XdpSocket) (time : SystemTime) : Option (XdpSocket × Option TelemetryFrame) :=
  (self.receive time).map fun received =>
    ({ self with
        umem := received.1
        stats := { self.stats with
          packets_received := self.stats.packets_received + 1
          bytes_received := self.stats.bytes_received + 100 } },
      received.2)

end XdpSocket

/-! ## Runs

The events are the rounds of the loop and the interruptions, in any order. A thread that has
panicked takes its socket with it; the model keeps the socket as it was before that round. -/

/-- What the threads are doing: the loop goes on, it has come to its end, or it has panicked. -/
inductive DaemonThread where
  | receiving
  | stopped
  | panicked
deriving DecidableEq

structure Daemon where
  sock : XdpSocket
  thread : DaemonThread

/-- A check of the flag by the loop, with the round that follows it at this time, or a
`ctrl_c`. -/
inductive DaemonEvent where
  | round (time : SystemTime)
  | ctrl_c

namespace Daemon

def new (allocator : ℕ → Bool) (ring_size_kb : UInt64) : Option Daemon :=
  (XdpSocket.new allocator ring_size_kb).map fun sock => ⟨sock, .receiving⟩

/-- One event, and the frame it received. -/
def step (self : Daemon) : DaemonEvent → Daemon × Option TelemetryFrame
  | .ctrl_c => ({ self with sock := { self.sock with running := false } }, none)
  | .round time =>
    match self.thread with
    | .receiving =>
      if self.sock.running then
        match self.sock.round time with
        | some (sock, frame) => ({ self with sock := sock }, frame)
        | none => ({ self with thread := .panicked }, none)
      else ({ self with thread := .stopped }, none)
    | _ => (self, none)

/-- A step of the daemon. -/
abbrev LogEntry := Entry Daemon DaemonEvent (Option TelemetryFrame)

/-- The run of `events` on a new daemon, if it has come to be. -/
def run (allocator : ℕ → Bool) (ring_size_kb : UInt64) (events : List DaemonEvent) :
    Option (Daemon × List LogEntry) :=
  (new allocator ring_size_kb).map fun daemon => exec step daemon events

/-! ## The first frame

The loop asks both accessors for frame zero and for no other. A region with a frame has it at
the start of the vector, whole, so the packet is written into the first hundred bytes and read
from there. -/

section FirstFrame

variable {umem : UmemRegion}

/-- The packet that is written into a frame. -/
def packet : ByteRange := ⟨0, 100⟩

/-- A region of frames as long as the daemon's, with one of them at least. -/
structure HasFrame (umem : UmemRegion) : Prop where
  frame_size : umem.frame_size = 2048
  frame_count : 0 < umem.frame_count

theorem HasFrame.len_le (h : HasFrame umem) : 2048 ≤ umem.len.toNat := by
  have hcount : 0 < umem.frame_count.toNat := UInt64.lt_iff_toNat_lt.mp h.frame_count
  have hsize : (2048 : UInt64).toNat = 2048 := rfl
  rw [umem.len_toNat, h.frame_size, hsize]
  omega

/-- The first frame starts the vector, for both accessors. -/
theorem HasFrame.first (h : HasFrame umem) :
    umem.get_frame 0 = some ⟨0, 2048⟩ ∧ umem.get_frame_mut 0 = some ⟨0, 2048⟩ := by
  have hlen := h.len_le
  have hzero : (0 : UInt64).toNat = 0 := rfl
  have hsize : umem.frame_size.toNat = 2048 := by
    rw [h.frame_size]
    rfl
  have hstart : umem.start_of 0 = 0 := by
    rw [UmemRegion.start_of, UInt64.zero_mul]
  have hle : (0 : UInt64) ≤ umem.len := UInt64.zero_le
  have hframe : umem.frame_at 0 = ⟨0, 2048⟩ := by
    rw [UmemRegion.frame_at, hzero, hsize, Nat.zero_add, Nat.min_eq_left hlen]
    rfl
  refine ⟨?_, ?_⟩
  · rw [umem.get_frame_eq, hstart, if_pos hle, hframe]
  · rw [umem.get_frame_mut_eq, hstart, if_pos ⟨hle, by rw [hzero, hsize]; decide⟩, hframe]

/-- The bytes that were written are read. -/
theorem HasFrame.bytes_fill (h : HasFrame umem) (byte : UInt8) :
    (umem.fill packet byte).bytes packet = List.replicate 100 byte := by
  have hlen := h.len_le
  rw [UmemRegion.len_toNat, ← umem.length_buffer] at hlen
  apply List.ext_getElem
  · -- the packet is within the frame, and the frame within the vector
    simp [UmemRegion.bytes, UmemRegion.fill, packet]
    omega
  · intro i hi _
    have hlt : i < 100 := by
      simp [UmemRegion.bytes, packet] at hi
      omega
    rw [List.getElem_replicate]
    simp [UmemRegion.bytes, UmemRegion.fill, packet, hlt]

/-- Behind the packet nothing is written. -/
theorem drop_fill (umem : UmemRegion) (byte : UInt8) :
    (umem.fill packet byte).buffer.drop 100 = umem.buffer.drop 100 := by
  apply List.ext_getElem
  · simp [UmemRegion.fill]
  · intro i _ _
    have hout : ¬ (100 + i < 100) := by omega
    simp [UmemRegion.fill, packet, hout]

end FirstFrame

/-! ## What was received

What a run has done is read off its log: the rounds that were begun before the first
interruption, and those of them that came to their end. A round that has a frame to receive
into reads the clock, so the first of them before 1970 is the last one. -/

/-- The frame that the `n`-th round receives at this time. -/
def mock_frame (n : ℕ) (time : SystemTime) : TelemetryFrame where
  frame_id := UInt64.ofNat n
  source_ip := "0.0.0.0"
  dest_ip := none
  timestamp_ns := time.as_nanos
  payload := List.replicate 100 0xAB

/-- The main thread was interrupted. -/
def interrupted : List LogEntry → Bool
  | [] => false
  | e :: older =>
    match e.input with
    | .ctrl_c => true
    | .round _ => interrupted older

/-- The times of the rounds before that, oldest first. -/
def rounds : List LogEntry → List SystemTime
  | [] => []
  | e :: older =>
    match e.input with
    | .ctrl_c => rounds older
    | .round time => if interrupted older then rounds older else rounds older ++ [time]

/-- The rounds that the clock lets come to their end, of those at these times. -/
def completed (frame_count : UInt64) (times : List SystemTime) : List SystemTime :=
  if 0 < frame_count then times.takeWhile fun time => time.SinceEpoch else times

/-- The frames received, oldest first. -/
def received : List LogEntry → List TelemetryFrame
  | [] => []
  | e :: older => received older ++ e.output.toList

/-- The frames that rounds at these times receive, if there is a frame to receive into. -/
def mock_frames (frame_count : UInt64) (times : List SystemTime) : List TelemetryFrame :=
  if 0 < frame_count then times.mapIdx fun i time => mock_frame (i + 1) time else []

/-- A round at one of these times panics. -/
def Unreadable (frame_count : UInt64) (times : List SystemTime) : Prop :=
  0 < frame_count ∧ ∃ time ∈ times, ¬ time.SinceEpoch

section Rounds

variable {count : UInt64} {times : List SystemTime} {time : SystemTime}

theorem completed_eq (h : ¬ Unreadable count times) : completed count times = times := by
  unfold completed
  split
  · rename_i hcount
    refine List.takeWhile_eq_self_iff.mpr ?_
    intro time htime
    by_contra hearly
    exact h ⟨hcount, time, htime, by simpa using hearly⟩
  · rfl

/-- Behind a round that panics no other one is completed. -/
theorem completed_concat_unreadable (h : Unreadable count times) :
    completed count (times ++ [time]) = completed count times := by
  obtain ⟨hcount, early, hmem, hearly⟩ := h
  have hlast : ¬ ∀ time ∈ times, decide time.SinceEpoch = true := by
    intro hall
    exact hearly (of_decide_eq_true (hall early hmem))
  unfold completed
  rw [if_pos hcount, if_pos hcount, List.takeWhile_append, if_neg]
  intro hlength
  exact hlast (List.takeWhile_eq_self_iff.mp
    ((List.takeWhile_prefix _).eq_of_length hlength))

/-- The round that panics is not completed itself. -/
theorem completed_concat_early (h : ¬ Unreadable count times) (hcount : 0 < count)
    (hearly : ¬ time.SinceEpoch) : completed count (times ++ [time]) = times := by
  have hall := completed_eq h
  unfold completed at hall ⊢
  rw [if_pos hcount] at hall
  rw [if_pos hcount, List.takeWhile_append, if_pos (by rw [hall]),
    List.takeWhile_cons_of_neg (by simpa using hearly), List.append_nil]

theorem mock_frames_concat (count : UInt64) (times : List SystemTime) (time : SystemTime) :
    mock_frames count (times ++ [time]) = mock_frames count times ++
      if 0 < count then [mock_frame (times.length + 1) time] else [] := by
  unfold mock_frames
  split
  · rw [List.mapIdx_concat]
  · rfl

theorem unreadable_concat_iff :
    Unreadable count (times ++ [time]) ↔
      Unreadable count times ∨ 0 < count ∧ ¬ time.SinceEpoch := by
  unfold Unreadable
  simp only [List.mem_append, List.mem_singleton, or_and_right, exists_or, exists_eq_left,
    and_or_left]

end Rounds

/-- What holds between two events. The thread has panicked just when a round before the first
interruption has read a clock before 1970. -/
structure Receiving (count : UInt64) (daemon : Daemon) (log : List LogEntry) : Prop where
  running : daemon.sock.running = !interrupted log
  stopped : daemon.thread = .stopped → interrupted log = true
  panicked : daemon.thread = .panicked ↔ Unreadable count (rounds log)
  frame_size : daemon.sock.umem.frame_size = 2048
  frame_count : daemon.sock.umem.frame_count = count
  rest : ∀ byte ∈ daemon.sock.umem.buffer.drop 100, byte = 0
  stats : daemon.sock.stats = ⟨UInt64.ofNat (completed count (rounds log)).length,
    UInt64.ofNat (100 * (completed count (rounds log)).length), 0⟩
  frames : received log = mock_frames count (completed count (rounds log))

/-- One round of a socket receives one packet, if the clock can be read, or nothing where there
is no frame to receive into. -/
theorem receive_eq {sock : XdpSocket} (hsize : sock.umem.frame_size = 2048) (time : SystemTime) :
    sock.receive time = if 0 < sock.umem.frame_count then
      time.now_ns.map fun now =>
        (sock.umem.fill packet 0xAB, some
          { frame_id := sock.stats.packets_received + 1
            source_ip := "0.0.0.0"
            dest_ip := none
            timestamp_ns := now
            payload := List.replicate 100 0xAB })
      else some (sock.umem, none) := by
  by_cases hcount : 0 < sock.umem.frame_count
  · have hframe : HasFrame sock.umem := ⟨hsize, hcount⟩
    have hfilled : HasFrame (sock.umem.fill packet 0xAB) := ⟨hsize, hcount⟩
    have hslice : (⟨0, 2048⟩ : ByteRange).slice_to (usize_min 100 (2048 - 0)) = some packet := by
      decide
    have hparse : parse_telemetry_frame (List.replicate 100 0xAB)
        (sock.stats.packets_received + 1) time = time.now_ns.map fun now => some
          ⟨sock.stats.packets_received + 1, "0.0.0.0", none, now, List.replicate 100 0xAB⟩ := by
      rw [parse_telemetry_frame, List.length_replicate, if_neg (by decide)]
    -- both accessors give the whole frame, and both slices are its first hundred bytes
    rw [XdpSocket.receive, if_pos hcount, if_pos hcount, hframe.first.2]
    dsimp only [Option.bind_eq_bind, Option.bind_some]
    rw [hslice]
    dsimp only [Option.bind_some]
    rw [hfilled.first.1]
    dsimp only [Option.bind_some]
    rw [hslice]
    dsimp only [Option.bind_some]
    rw [hframe.bytes_fill, hparse]
    cases time.now_ns with
    | none => rfl
    | some now => rfl
  · rw [XdpSocket.receive, if_neg hcount, if_neg hcount]

section Steps

variable {count : UInt64} {daemon : Daemon} {log : List LogEntry}

/-- An interruption lowers the flag, and the loop has yet to look at it. -/
theorem Receiving.ctrl_c (h : Receiving count daemon log) :
    Receiving count (daemon.step .ctrl_c).1 (entry step daemon .ctrl_c :: log) :=
  ⟨rfl, fun _ => rfl, h.panicked, h.frame_size, h.frame_count, h.rest, h.stats,
    (List.append_nil _).trans h.frames⟩

/-- A step that makes no round: the thread has left, or finds the flag down and leaves. -/
theorem Receiving.idle (h : Receiving count daemon log) {time : SystemTime} {thread : DaemonThread}
    (hstep : daemon.step (.round time) = ({ daemon with thread := thread }, none))
    (hstopped : thread = .stopped → interrupted log = true)
    (hpanicked : thread = .panicked ↔
      Unreadable count (rounds (entry step daemon (.round time) :: log)))
    (hcompleted : completed count (rounds (entry step daemon (.round time) :: log)) =
      completed count (rounds log)) :
    Receiving count (daemon.step (.round time)).1 (entry step daemon (.round time) :: log) := by
  have hreceived : received (entry step daemon (.round time) :: log) = received log := by
    rw [received, entry, hstep]
    exact List.append_nil _
  rw [hstep]
  refine ⟨h.running, hstopped, hpanicked, h.frame_size, h.frame_count, h.rest, ?_, ?_⟩
  · rw [hcompleted]
    exact h.stats
  · rw [hreceived, hcompleted]
    exact h.frames

/-- A thread that is gone does not come to the next check of the flag. -/
theorem step_gone (hgone : daemon.thread ≠ .receiving) (time : SystemTime) :
    daemon.step (.round time) = (daemon, none) := by
  rw [step]
  cases hthread : daemon.thread with
  | receiving => exact absurd hthread hgone
  | stopped => rfl
  | panicked => rfl

/-- After an interruption no round is made any more. -/
theorem Receiving.late (h : Receiving count daemon log) (hinterrupted : interrupted log = true)
    (time : SystemTime) :
    Receiving count (daemon.step (.round time)).1 (entry step daemon (.round time) :: log) := by
  have hrunning : daemon.sock.running = false := by rw [h.running, hinterrupted]; rfl
  have hrounds : rounds (entry step daemon (.round time) :: log) = rounds log := by
    rw [rounds, entry]
    dsimp only
    rw [hinterrupted, if_pos rfl]
  have hpanicked := h.panicked
  rw [← hrounds] at hpanicked
  -- whatever the thread is doing, it makes no round: it finds the flag down, or is not there
  -- to look
  by_cases hthread : daemon.thread = .receiving
  · have hstep : daemon.step (.round time) = ({ daemon with thread := .stopped }, none) := by
      rw [step, hthread]
      dsimp only
      rw [hrunning, if_neg Bool.false_ne_true]
    refine h.idle hstep (fun _ => hinterrupted) ?_ (congrArg _ hrounds)
    rw [hthread] at hpanicked
    exact iff_of_false (by decide) (mt hpanicked.mpr (by decide))
  · exact h.idle (step_gone hthread time) (fun _ => hinterrupted) hpanicked (congrArg _ hrounds)

/-- A round before any interruption: it comes too late, it panics, or it receives a packet. -/
theorem Receiving.round (h : Receiving count daemon log) (hinterrupted : interrupted log = false)
    (time : SystemTime) :
    Receiving count (daemon.step (.round time)).1 (entry step daemon (.round time) :: log) := by
  have hrunning : daemon.sock.running = true := by rw [h.running, hinterrupted]; rfl
  have hrounds : rounds (entry step daemon (.round time) :: log) = rounds log ++ [time] := by
    rw [rounds, entry]
    dsimp only
    rw [hinterrupted, if_neg Bool.false_ne_true]
  have hreceive := receive_eq h.frame_size time
  rw [h.frame_count] at hreceive
  by_cases hdead : daemon.thread = .panicked
  · -- the thread is gone, and what it had completed stays
    have hgone : daemon.thread ≠ .receiving := by
      rw [hdead]
      decide
    have hunreadable := h.panicked.mp hdead
    refine h.idle (step_gone hgone time) h.stopped (iff_of_true hdead ?_) ?_
    · rw [hrounds, unreadable_concat_iff]
      exact Or.inl hunreadable
    · rw [hrounds, completed_concat_unreadable hunreadable]
  · have hreadable : ¬ Unreadable count (rounds log) := mt h.panicked.mpr hdead
    have hthread : daemon.thread = .receiving := by
      cases hthread : daemon.thread with
      | receiving => rfl
      | stopped =>
          rw [h.stopped hthread] at hinterrupted
          cases hinterrupted
      | panicked => exact absurd hthread hdead
    by_cases hearly : 0 < count ∧ ¬ time.SinceEpoch
    · -- the clock panics, and the round with it
      have hround : daemon.sock.round time = none := by
        rw [if_pos hearly.1, SystemTime.now_ns, if_neg hearly.2] at hreceive
        rw [XdpSocket.round, hreceive]
        rfl
      have hstep : daemon.step (.round time) = ({ daemon with thread := .panicked }, none) := by
        rw [step, hthread]
        dsimp only
        rw [hrunning, if_pos rfl, hround]
      refine h.idle hstep (fun heq => by cases heq) (iff_of_true rfl ?_) ?_
      · rw [hrounds, unreadable_concat_iff]
        exact Or.inr hearly
      · rw [hrounds, completed_concat_early hreadable hearly.1 hearly.2, completed_eq hreadable]
    · have hnext : ¬ Unreadable count (rounds log ++ [time]) := by
        rw [unreadable_concat_iff]
        exact not_or.mpr ⟨hreadable, hearly⟩
      have hcompleted : completed count (rounds (entry step daemon (.round time) :: log)) =
          rounds log ++ [time] := by
        rw [hrounds, completed_eq hnext]
      have hstats := h.stats
      have hframes := h.frames
      rw [completed_eq hreadable] at hstats hframes
      -- the counters count what was completed so far, and this round with it
      have hpackets : daemon.sock.stats.packets_received + 1 =
          UInt64.ofNat ((rounds log).length + 1) := by
        rw [hstats, UInt64.ofNat_add]
        rfl
      have hbytes : daemon.sock.stats.bytes_received + 100 =
          UInt64.ofNat (100 * ((rounds log).length + 1)) := by
        rw [hstats, Nat.mul_add, UInt64.ofNat_add]
        rfl
      have herrors : daemon.sock.stats.errors = 0 := by rw [hstats]
      have hlength : (rounds log ++ [time]).length = (rounds log).length + 1 := List.length_append
      -- the region and the frame depend on whether there is a frame to receive into
      obtain ⟨umem, frame, hreceive, hsize, hcount, hrest, hframe⟩ : ∃ umem frame,
          daemon.sock.receive time = some (umem, frame) ∧ umem.frame_size = 2048 ∧
            umem.frame_count = count ∧ (∀ byte ∈ umem.buffer.drop 100, byte = 0) ∧
            frame.toList =
              if 0 < count then [mock_frame ((rounds log).length + 1) time] else [] := by
        by_cases hcount : 0 < count
        · have hsince : time.SinceEpoch := not_not.mp fun hnot => hearly ⟨hcount, hnot⟩
          rw [if_pos hcount, SystemTime.now_ns, if_pos hsince, Option.map_some] at hreceive
          refine ⟨_, _, hreceive, h.frame_size, h.frame_count, ?_, ?_⟩
          · rw [drop_fill]
            exact h.rest
          · rw [if_pos hcount, hpackets]
            rfl
        · rw [if_neg hcount] at hreceive
          exact ⟨_, _, hreceive, h.frame_size, h.frame_count, h.rest, (if_neg hcount).symm⟩
      have hstep : daemon.step (.round time) =
          ({ daemon with sock :=
            { running := daemon.sock.running
              umem := umem
              stats := ⟨UInt64.ofNat ((rounds log).length + 1),
                UInt64.ofNat (100 * ((rounds log).length + 1)), 0⟩ } }, frame) := by
        rw [step, hthread]
        dsimp only
        rw [hrunning, if_pos rfl, XdpSocket.round, hreceive, Option.map_some, hpackets, hbytes]
        dsimp only
        rw [herrors, hrunning]
      have hreceived : received (entry step daemon (.round time) :: log) =
          received log ++ frame.toList := by
        rw [received, entry, hstep]
      rw [hstep]
      refine ⟨h.running, h.stopped, ?_, hsize, hcount, hrest, ?_, ?_⟩
      · rw [hrounds]
        exact iff_of_false hdead hnext
      · rw [hcompleted, hlength]
      · rw [hreceived, hcompleted, mock_frames_concat, hframes, hframe]

end Steps

theorem receiving_new {allocator : ℕ → Bool} {ring_size_kb : UInt64} {daemon : Daemon}
    (h : new allocator ring_size_kb = some daemon) :
    Receiving (frame_count_of ring_size_kb) daemon [] := by
  unfold new XdpSocket.new at h
  split at h
  · cases h
    have hnone : ¬ Unreadable (frame_count_of ring_size_kb) [] := by
      rintro ⟨-, time, hmem, -⟩
      exact absurd hmem List.not_mem_nil
    refine ⟨rfl, ?_, iff_of_false ?_ hnone, rfl, rfl, ?_, ?_, ?_⟩
    · intro heq
      cases heq
    · intro heq
      cases heq
    · intro byte hbyte
      exact List.eq_of_mem_replicate (List.mem_of_mem_drop hbyte)
    · rw [rounds, completed_eq hnone]
      rfl
    · rw [rounds, completed_eq hnone]
      unfold mock_frames
      split <;> rfl
  · cases h

theorem receiving_step {count : UInt64} {daemon : Daemon} {log : List LogEntry}
    (h : Receiving count daemon log) (event : DaemonEvent) :
    Receiving count (daemon.step event).1 (entry step daemon event :: log) := by
  cases event with
  | ctrl_c => exact h.ctrl_c
  | round time =>
      -- what a round does depends on whether the flag is down already
      cases hinterrupted : interrupted log with
      | true => exact h.late hinterrupted time
      | false => exact h.round hinterrupted time

/-- **What the daemon receives.** It does not come to be if its region would be longer than a
vector can be, or the allocator refuses it. Otherwise, in any interleaving of rounds and
interruptions, its thread panics just when a round before the first interruption reads a clock
before 1970 for a frame. The statistics count the rounds before that, modulo their width, and no
errors. The frames are one for each of those rounds, in order and numbered from one, if the ring
has room for one frame, and none otherwise; and no byte of the region behind the first hundred is
ever written. -/
theorem daemon_receives (allocator : ℕ → Bool) (ring_size_kb : UInt64)
    (events : List DaemonEvent) :
    (run allocator ring_size_kb events = none ↔
      2 ^ 53 ≤ ring_size_kb.toNat % 2 ^ 54 ∨
        0 < region_bytes ring_size_kb ∧ allocator (region_bytes ring_size_kb) = false) ∧
      ∀ r ∈ run allocator ring_size_kb events,
        let made := completed (frame_count_of ring_size_kb) (rounds r.2)
        (r.1.thread = .panicked ↔ Unreadable (frame_count_of ring_size_kb) (rounds r.2)) ∧
          r.1.sock.stats = ⟨UInt64.ofNat made.length, UInt64.ofNat (100 * made.length), 0⟩ ∧
          received r.2 = mock_frames (frame_count_of ring_size_kb) made ∧
          ∀ byte ∈ r.1.sock.umem.buffer.drop 100, byte = 0 := by
  refine ⟨?_, ?_⟩
  · rw [run, Option.map_eq_none_iff, new, Option.map_eq_none_iff]
    exact XdpSocket.new_eq_none_iff allocator ring_size_kb
  · intro r hr
    obtain ⟨daemon, hdaemon, rfl⟩ := Option.map_eq_some_iff.mp hr
    -- the invariant holds of the new daemon and is kept by every event
    have h := exec_induction step (receiving_new hdaemon)
      (fun _ _ event h => receiving_step h event) events
    exact ⟨h.panicked, h.stats, h.frames, h.rest⟩

/-- A ring of one frame: one round, one at which the clock has been set back, and one more. -/
def set_back : List DaemonEvent := [.round ⟨7⟩, .round ⟨-1⟩, .round ⟨8⟩]

theorem daemon_receives_set_back : ∃ r ∈ run (fun _ => true) 2 set_back,
    r.1.thread = .panicked ∧ r.1.sock.stats = ⟨1, 100, 0⟩ ∧ received r.2 = [mock_frame 1 ⟨7⟩] := by
  obtain ⟨r, hr⟩ : ∃ r, run (fun _ => true) 2 set_back = some r :=
    Option.ne_none_iff_exists'.mp
      (mt (daemon_receives (fun _ => true) 2 set_back).1.mp (by decide))
  obtain ⟨hpanicked, hstats, hreceived, -⟩ :=
    (daemon_receives (fun _ => true) 2 set_back).2 r hr
  have hrounds : rounds r.2 = [⟨7⟩, ⟨-1⟩, ⟨8⟩] := by
    obtain ⟨daemon, -, rfl⟩ := Option.map_eq_some_iff.mp hr
    rfl
  have hmade : completed (frame_count_of 2) [⟨7⟩, ⟨-1⟩, ⟨8⟩] = [⟨7⟩] := by decide
  rw [hrounds] at hpanicked hstats hreceived
  rw [hmade] at hstats hreceived
  exact ⟨r, hr, hpanicked.mpr ⟨by decide, ⟨-1⟩, by decide, by decide⟩, hstats, hreceived⟩

end Daemon

end SovereignEdgeTee
