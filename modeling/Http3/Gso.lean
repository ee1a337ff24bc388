import Http3.Lib.Chunks
import Http3.Quiche

/-! Datagrams that go out, and the grouping of datagrams of one size and destination into
batches that the kernel cuts up again. -/

namespace Http3

abbrev Addressed := SocketAddr × Bytes

/-- A datagram in a buffer that may be larger than its payload. -/
structure TxDatagram where
  data : Bytes
  payloadLen : ℕ
  dest : SocketAddr
  /-- The payload size that was negotiated for the connection, if it is known. -/
  maxSegmentSize : Option ℕ
  fits : payloadLen ≤ data.length

namespace TxDatagram

def fromPayload (data : Bytes) (dest : SocketAddr) (maxSegmentSize : Option ℕ) : TxDatagram :=
  ⟨data, data.length, dest, maxSegmentSize, le_rfl⟩

def payload (pkt : TxDatagram) : Bytes := pkt.data.take pkt.payloadLen

def addressed (pkt : TxDatagram) : Addressed := (pkt.dest, pkt.payload)

@[simp] theorem length_payload (pkt : TxDatagram) : pkt.payload.length = pkt.payloadLen := by
  simp [payload, pkt.fits]

@[simp] theorem addressed_fromPayload (data : Bytes) (dest : SocketAddr) (cap : Option ℕ) :
    (fromPayload data dest cap).addressed = (dest, data) := by
  simp [addressed, payload, fromPayload]

end TxDatagram

/-- Datagrams of one size and destination in one buffer. A batch of segment size 0 is one
datagram. -/
structure GsoBatch where
  data : Bytes
  payloadLen : ℕ
  dest : SocketAddr
  segmentSize : ℕ
  fits : payloadLen ≤ data.length

structure GsoBatching where
  batches : List GsoBatch
  recycled : List Bytes

def gsoMaxPayload : ℕ := 65535

/-- The payload of an Ethernet frame without IPv4 and UDP headers. -/
def gsoMaxSegment : ℕ := 1472

/-- `u16::try_from`. -/
def toU16 (n : ℕ) : Option ℕ := if n < 65536 then some n else none

def GsoBatch.takes (last : GsoBatch) (pkt : TxDatagram) (segSize : ℕ) : Bool :=
  let segCap := pkt.maxSegmentSize.getD gsoMaxSegment
  last.dest = pkt.dest && last.segmentSize == segSize && decide (0 < segSize) &&
    decide (segSize ≤ segCap) && decide (last.payloadLen / segSize < 64) &&
    decide (last.payloadLen + pkt.payloadLen ≤ gsoMaxPayload)

/-- A buffer with room up to `stop`. -/
def resized (data : Bytes) (stop : ℕ) : Bytes :=
  if data.length < stop then data ++ List.replicate (stop - data.length) 0 else data

theorem le_length_resized (data : Bytes) (stop : ℕ) : stop ≤ (resized data stop).length := by
  unfold resized
  split_ifs with hshort
  · simp
    omega
  · omega

theorem take_resized {data : Bytes} {start : ℕ} (stop : ℕ) (hstart : start ≤ data.length) :
    (resized data stop).take start = data.take start := by
  unfold resized
  split_ifs
  · exact List.take_append_of_le_length hstart
  · rfl

/-- Copy a datagram behind the payload of a batch, in the buffer of the batch. -/
def GsoBatch.grow (last : GsoBatch) (pkt : TxDatagram) : GsoBatch :=
  let start := last.payloadLen
  let stop := start + pkt.payloadLen
  { last with
    data := (resized last.data stop).take start ++ pkt.payload ++ (resized last.data stop).drop stop
    payloadLen := stop
    fits := by
      have hroom := le_length_resized last.data stop
      simp
      omega }

/-- Put one datagram into the last batch, or into a batch of its own. -/
def GsoBatching.add (g : GsoBatching) (pkt : TxDatagram) : GsoBatching :=
  match toU16 pkt.payloadLen with
  | none => { g with batches := g.batches ++ [⟨pkt.data, pkt.payloadLen, pkt.dest, 0, pkt.fits⟩] }
  | some segSize =>
    match g.batches.getLast? with
    | some last =>
      if last.takes pkt segSize then
        { batches := g.batches.dropLast ++ [last.grow pkt], recycled := g.recycled ++ [pkt.data] }
      else
        { g with batches := g.batches ++ [⟨pkt.data, pkt.payloadLen, pkt.dest, segSize, pkt.fits⟩] }
    | none =>
      { g with batches := g.batches ++ [⟨pkt.data, pkt.payloadLen, pkt.dest, segSize, pkt.fits⟩] }

def groupForGso (packets : List TxDatagram) : GsoBatching := packets.foldl .add ⟨[], []⟩

namespace GsoBatch

def payload (batch : GsoBatch) : Bytes := batch.data.take batch.payloadLen

/-- Whether a batch goes out with a segment size for the kernel to cut it by. -/
def segmented (batch : GsoBatch) : Bool :=
  decide (0 < batch.segmentSize) && decide (batch.segmentSize < batch.payloadLen)

/-- The datagrams that the kernel makes of a batch. -/
def datagrams (batch : GsoBatch) : List Addressed :=
  if batch.segmented then (Chunks.cut batch.segmentSize batch.payload).map fun p => (batch.dest, p)
  else [(batch.dest, batch.payload)]

end GsoBatch

/-- Split a batch that was not sent into datagrams that wait. -/
def requeueGsoBatch (unsent : List TxDatagram) (batch : GsoBatch) : List TxDatagram :=
  let seg := batch.segmentSize
  if seg = 0 ∨ batch.payloadLen ≤ seg then
    unsent ++ [⟨batch.data, batch.payloadLen, batch.dest, none, batch.fits⟩]
  else
    unsent ++ (Chunks.cut seg (batch.data.take batch.payloadLen)).map fun chunk =>
      .fromPayload chunk batch.dest none

/-- The packets the receive loop makes of one read, which may hold several segments. -/
def splitReceived (segmentSize : Option ℕ) (data : Bytes) : List Bytes :=
  match segmentSize with
  | some seg => Chunks.cut seg data
  | none => [data]

namespace GsoBatch

/-- The payloads that went into a batch. Several ones are of one size, at most 64, and
small enough together for one call. -/
structure Holds (batch : GsoBatch) (payloads : List Bytes) : Prop where
  payload : batch.payload = payloads.flatten
  nonempty : payloads ≠ []
  single : batch.segmentSize = 0 → payloads.length = 1
  equal : 0 < batch.segmentSize → ∀ p ∈ payloads, p.length = batch.segmentSize
  several : 1 < payloads.length → payloads.length ≤ 64 ∧ batch.payloadLen ≤ gsoMaxPayload

variable {batch last : GsoBatch} {payloads : List Bytes} {pkt : TxDatagram}

@[simp] theorem length_payload (batch : GsoBatch) : batch.payload.length = batch.payloadLen := by
  simp [payload, batch.fits]

theorem Holds.payloadLen (h : batch.Holds payloads) (hseg : 0 < batch.segmentSize) :
    batch.payloadLen = payloads.length * batch.segmentSize := by
  rw [← length_payload, h.payload]
  have hlength := h.equal hseg
  generalize batch.segmentSize = seg at hlength
  clear h
  induction payloads with
  | nil => simp
  | cons p ps ih =>
    have hp : p.length = seg := hlength p List.mem_cons_self
    have hps := ih fun q hq => hlength q (List.mem_cons_of_mem _ hq)
    simp only [List.flatten_cons, List.length_append, List.length_cons, hp, hps, Nat.succ_mul]
    omega

theorem Holds.datagrams (h : batch.Holds payloads) :
    batch.datagrams = payloads.map fun p => (batch.dest, p) := by
  unfold GsoBatch.datagrams segmented
  by_cases hseg : 0 < batch.segmentSize
  · have hlen := h.payloadLen hseg
    by_cases hmore : 1 < payloads.length
    · have hlong : batch.segmentSize < batch.payloadLen := by
        rw [hlen]
        exact (Nat.lt_mul_iff_one_lt_left hseg).2 hmore
      simp only [hseg, hlong, decide_true, Bool.and_self, if_true]
      rw [h.payload, Chunks.cut_flatten hseg (h.equal hseg)]
    · obtain ⟨p, rfl⟩ : ∃ p, payloads = [p] := by
        have hone : payloads.length = 1 := by
          have hpos := List.length_pos_iff.2 h.nonempty
          omega
        exact List.length_eq_one_iff.1 hone
      have hshort : ¬batch.segmentSize < batch.payloadLen := by
        rw [hlen]
        simp
      simp [hshort, h.payload]
  · obtain ⟨p, rfl⟩ := List.length_eq_one_iff.1 (h.single (by omega))
    simp [hseg, h.payload]

theorem holds_new {segSize : ℕ} (hseg : 0 < segSize → segSize = pkt.payloadLen) :
    Holds ⟨pkt.data, pkt.payloadLen, pkt.dest, segSize, pkt.fits⟩ [pkt.payload] := by
  refine ⟨?_, by simp, fun _ => rfl, ?_, ?_⟩
  · simp [payload, TxDatagram.payload]
  · intro hpos p hp
    rw [List.mem_singleton.1 hp, pkt.length_payload]
    exact (hseg hpos).symm
  · intro hmore
    simp at hmore

theorem payload_grow (last : GsoBatch) (pkt : TxDatagram) :
    (last.grow pkt).payload = last.payload ++ pkt.payload := by
  show (((resized last.data (last.payloadLen + pkt.payloadLen)).take last.payloadLen ++
      pkt.payload ++
    _).take (last.payloadLen + pkt.payloadLen)) = _
  rw [take_resized _ last.fits]
  apply List.take_left'
  simp [last.fits]

theorem Holds.grow (h : last.Holds payloads) {segSize : ℕ} (hsize : segSize = pkt.payloadLen)
    (htakes : last.takes pkt segSize = true) :
    (last.grow pkt).Holds (payloads ++ [pkt.payload]) ∧ last.dest = pkt.dest := by
  unfold takes at htakes
  simp only [Bool.and_eq_true, decide_eq_true_eq, beq_iff_eq] at htakes
  obtain ⟨⟨⟨⟨⟨hto, hseg⟩, hpos⟩, -⟩, hcount⟩, hbytes⟩ := htakes
  have hlen := h.payloadLen (by omega)
  have hfew : payloads.length < 64 := by
    rw [hlen, hseg, Nat.mul_div_cancel _ hpos] at hcount
    exact hcount
  refine ⟨⟨?_, by simp, ?_, ?_, ?_⟩, hto⟩
  · rw [payload_grow, h.payload]
    simp
  · intro hzero
    have hzero : last.segmentSize = 0 := hzero
    omega
  · intro _ p hp
    show p.length = last.segmentSize
    obtain hp | hp := List.mem_append.1 hp
    · exact h.equal (by omega) p hp
    · rw [List.mem_singleton.1 hp, pkt.length_payload]
      omega
  · intro _
    refine ⟨?_, hbytes⟩
    simp
    omega

end GsoBatch

/-- The batches hold the datagrams seen so far, in order, and every datagram has a batch
of its own or has left its buffer behind. -/
structure GsoBatching.Groups (g : GsoBatching) (packets : List TxDatagram) : Prop where
  holds : ∀ batch ∈ g.batches, ∃ payloads, batch.Holds payloads
  datagrams : g.batches.flatMap GsoBatch.datagrams = packets.map TxDatagram.addressed
  count : g.batches.length + g.recycled.length = packets.length

namespace GsoBatching

variable {g : GsoBatching} {packets : List TxDatagram} {pkt : TxDatagram}

theorem Groups.push (h : g.Groups packets) {segSize : ℕ}
    (hseg : 0 < segSize → segSize = pkt.payloadLen) :
    Groups { g with batches := g.batches ++
      [⟨pkt.data, pkt.payloadLen, pkt.dest, segSize, pkt.fits⟩] }
      (packets ++ [pkt]) := by
  have hnew := GsoBatch.holds_new hseg
  refine ⟨?_, ?_, ?_⟩
  · intro batch hbatch
    obtain hold | hlast := List.mem_append.1 hbatch
    · exact h.holds batch hold
    · rw [List.mem_singleton.1 hlast]
      exact ⟨_, hnew⟩
  · simp [h.datagrams, hnew.datagrams, TxDatagram.addressed]
  · have hcount := h.count
    simp
    omega

theorem Groups.add (h : g.Groups packets) (pkt : TxDatagram) :
    (g.add pkt).Groups (packets ++ [pkt]) := by
  unfold GsoBatching.add
  cases hsize : toU16 pkt.payloadLen with
  | none => exact h.push fun hpos => absurd hpos (Nat.lt_irrefl 0)
  | some segSize =>
    have hlen : segSize = pkt.payloadLen := by
      unfold toU16 at hsize
      split_ifs at hsize
      exact (Option.some.inj hsize).symm
    cases hlast : g.batches.getLast? with
    | none => exact h.push fun _ => hlen
    | some last =>
      dsimp only
      split_ifs with htakes
      · obtain ⟨front, hfront⟩ := List.getLast?_eq_some_iff.1 hlast
        obtain ⟨payloads, hholds⟩ := h.holds last (by simp [hfront])
        obtain ⟨hgrown, hto⟩ := hholds.grow hlen htakes
        refine ⟨?_, ?_, ?_⟩
        · intro batch hbatch
          obtain hold | hnew := List.mem_append.1 hbatch
          · exact h.holds batch (List.mem_of_mem_dropLast hold)
          · rw [List.mem_singleton.1 hnew]
            exact ⟨_, hgrown⟩
        · have hdatagrams := h.datagrams
          rw [hfront] at hdatagrams ⊢
          simp only [List.dropLast_concat, List.flatMap_append, List.flatMap_singleton,
            List.map_append, List.map_singleton] at hdatagrams ⊢
          rw [hgrown.datagrams, List.map_append, ← hdatagrams, hholds.datagrams]
          simp [GsoBatch.grow, TxDatagram.addressed, hto]
        · have hcount := h.count
          rw [hfront] at hcount ⊢
          simp at hcount ⊢
          omega
      · exact h.push fun _ => hlen

end GsoBatching

theorem groups_groupForGso (packets : List TxDatagram) : (groupForGso packets).Groups packets := by
  unfold groupForGso
  induction packets using List.reverseRecOn with
  | nil => exact ⟨by simp, rfl, rfl⟩
  | append_singleton packets pkt ih =>
    rw [List.foldl_append]
    exact ih.add pkt

theorem addressed_requeueGsoBatch (unsent : List TxDatagram) (batch : GsoBatch) :
    (requeueGsoBatch unsent batch).map TxDatagram.addressed =
      unsent.map TxDatagram.addressed ++ batch.datagrams := by
  unfold requeueGsoBatch GsoBatch.datagrams GsoBatch.segmented
  by_cases hone : batch.segmentSize = 0 ∨ batch.payloadLen ≤ batch.segmentSize
  · have hwhole : (decide (0 < batch.segmentSize) &&
        decide (batch.segmentSize < batch.payloadLen)) = false := by
      simp
      omega
    simp [hone, hwhole, TxDatagram.addressed, TxDatagram.payload, GsoBatch.payload]
  · have hcut : (decide (0 < batch.segmentSize) &&
        decide (batch.segmentSize < batch.payloadLen)) = true := by
      simp
      omega
    simp only [hone, hcut, if_true, if_false, List.map_append, List.map_map]
    congr 1
    refine List.map_congr_left fun chunk _ => ?_
    simp

theorem splitReceived_payload (batch : GsoBatch) :
    (splitReceived (if batch.segmented then some batch.segmentSize else none) batch.payload).map
      (fun p => (batch.dest, p)) = batch.datagrams := by
  unfold GsoBatch.datagrams
  split_ifs
  · rfl
  · rfl

/-- Cutting the batches up again gives the datagrams they were made of, in order; a batch
of several datagrams keeps to what the kernel takes; and every datagram has a batch of its
own or has left its buffer behind. -/
theorem gso_grouping_reversible (packets : List TxDatagram) :
    (groupForGso packets).batches.flatMap GsoBatch.datagrams =
      packets.map TxDatagram.addressed ∧
    (∀ batch ∈ (groupForGso packets).batches,
      (requeueGsoBatch [] batch).map TxDatagram.addressed = batch.datagrams ∧
      (splitReceived (if batch.segmented then some batch.segmentSize else none) batch.payload).map
        (fun p => (batch.dest, p)) = batch.datagrams ∧
      (1 < batch.datagrams.length → batch.datagrams.length ≤ 64 ∧ batch.payloadLen ≤ 65535 ∧
        ∀ d ∈ batch.datagrams, d.1 = batch.dest ∧ d.2.length = batch.segmentSize)) ∧
    (groupForGso packets).batches.length + (groupForGso packets).recycled.length =
      packets.length := by
  have hgroups := groups_groupForGso packets
  refine ⟨hgroups.datagrams, ?_, hgroups.count⟩
  intro batch hbatch
  obtain ⟨payloads, hholds⟩ := hgroups.holds batch hbatch
  refine ⟨addressed_requeueGsoBatch [] batch, splitReceived_payload batch, ?_⟩
  rw [hholds.datagrams, List.length_map]
  intro hmore
  obtain ⟨hcount, hbytes⟩ := hholds.several hmore
  refine ⟨hcount, hbytes, ?_⟩
  intro d hd
  obtain ⟨p, hp, rfl⟩ := List.mem_map.1 hd
  have hseg : 0 < batch.segmentSize := by
    by_contra hzero
    have hone := hholds.single (by omega)
    omega
  exact ⟨rfl, hholds.equal hseg p hp⟩

/-- Three datagrams of two bytes for one peer, the last of them in a larger buffer. -/
def threeDatagrams : List TxDatagram :=
  [.fromPayload [1, 2] ⟨"192.0.2.1", 443⟩ none, .fromPayload [3, 4] ⟨"192.0.2.1", 443⟩ none,
    ⟨[5, 6, 9, 9], 2, ⟨"192.0.2.1", 443⟩, none, by decide⟩]

theorem gso_grouping_reversible_three :
    (groupForGso threeDatagrams).batches.length = 1 ∧
      (groupForGso threeDatagrams).batches.flatMap GsoBatch.datagrams =
        threeDatagrams.map TxDatagram.addressed ∧
      ∀ batch ∈ (groupForGso threeDatagrams).batches, batch.datagrams.length ≤ 64 := by
  have hone : (groupForGso threeDatagrams).batches.length = 1 := by decide
  have hsplit : ∀ batch ∈ (groupForGso threeDatagrams).batches, 1 < batch.datagrams.length := by
    decide
  obtain ⟨hdatagrams, hbatches, -⟩ := gso_grouping_reversible threeDatagrams
  exact ⟨hone, hdatagrams, fun batch hbatch =>
    ((hbatches batch hbatch).2.2 (hsplit batch hbatch)).1⟩

end Http3
