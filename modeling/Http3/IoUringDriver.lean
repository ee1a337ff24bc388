import Http3.Gso
import Http3.Lib.Action
import Http3.Lib.Runs
import Mathlib.Data.List.Perm.Subperm
import Mathlib.Algebra.BigOperators.Group.List.Basic

/-! The driver that sends through an `io_uring`, without send bundles: the slots that hold
what the kernel is sending, the queue of what waits for a slot, and the counters that say
how much is under way. -/

namespace Http3

/-- The slot of one `sendmsg`. -/
structure TxSlot where
  data : Bytes
  peer : SocketAddr
  payloadLen : ℕ
  /-- Not 0 when the slot holds a batch for the kernel to cut. -/
  gsoSegmentSize : ℕ
  inFlight : Bool
  fits : payloadLen ≤ data.length

namespace TxSlot

def new : TxSlot := ⟨[], ⟨"0.0.0.0", 0⟩, 0, 0, false, Nat.le_refl 0⟩

-- both ways to fill a slot write every field
def prepare (packet : TxDatagram) : TxSlot :=
  ⟨packet.data, packet.dest, packet.payloadLen, 0, true, packet.fits⟩

def prepareGso (batch : GsoBatch) : TxSlot :=
  ⟨batch.data, batch.dest, batch.payloadLen, batch.segmentSize, true, batch.fits⟩

def emptied (slot : TxSlot) : TxSlot := ⟨[], slot.peer, 0, 0, false, Nat.le_refl 0⟩

def takePacket (slot : TxSlot) : TxDatagram × TxSlot :=
  (⟨slot.data, slot.payloadLen, slot.peer, none, slot.fits⟩, slot.emptied)

def recycleBuffer (slot : TxSlot) : Bytes × TxSlot := (slot.data, slot.emptied)

def datagrams (slot : TxSlot) : List Addressed :=
  if slot.gsoSegmentSize = 0 then [(slot.peer, slot.data.take slot.payloadLen)]
  else (Chunks.cut slot.gsoSegmentSize (slot.data.take slot.payloadLen)).map fun p => (slot.peer, p)

end TxSlot

def enqueueRetryData (pendingTx : List TxDatagram) (data : Bytes) (payloadLen : ℕ)
    (peer : SocketAddr) (gsoSegmentSize : ℕ) (fits : payloadLen ≤ data.length) : List TxDatagram :=
  if gsoSegmentSize = 0 then pendingTx ++ [⟨data, payloadLen, peer, none, fits⟩]
  else
    pendingTx ++ (Chunks.cut gsoSegmentSize (data.take payloadLen)).map fun chunk =>
      .fromPayload chunk peer none

def enqueueGsoBatchForRetry (pendingTx : List TxDatagram) (batch : GsoBatch) : List TxDatagram :=
  enqueueRetryData pendingTx batch.data batch.payloadLen batch.dest batch.segmentSize batch.fits

def requeueTxSlotForRetry (pendingTx : List TxDatagram) (slot : TxSlot) :
    List TxDatagram × TxSlot :=
  if slot.gsoSegmentSize = 0 then (pendingTx ++ [slot.takePacket.1], slot.takePacket.2)
  else
    (enqueueRetryData pendingTx slot.recycleBuffer.1 slot.payloadLen slot.peer slot.gsoSegmentSize
      slot.fits, slot.recycleBuffer.2)

inductive Errno
  | eagain
  | enobufs
  | eintr
  | emsgsize
  | other
  deriving DecidableEq, Repr

def TxSlot.retryable (slot : TxSlot) : Errno → Bool
  | .eagain | .enobufs | .eintr => true
  | .emsgsize => decide (0 < slot.gsoSegmentSize)
  | .other => false

/-- A completion, by the operation in its user data. `more` tells whether the receive stays
armed. -/
inductive Cqe
  | recv (more : Bool)
  | send (idx : ℕ) (result : Except Errno ℕ)
  | waker
  | other

def Cqe.sends (cqes : List Cqe) : List ℕ :=
  cqes.filterMap fun
    | .send idx _ => some idx
    | _ => none

inductive RingCall
  | ok
  | timedOut
  | interrupted
  | failed
  deriving DecidableEq, Repr

/-- What the kernel does at each moment it is asked. Sends are completed only if they were
pushed, and each push is completed once. -/
structure RingKernel where
  /-- Whether the submission queue has no room. -/
  full : ℕ → Bool
  /-- How a system call returns. -/
  call : ℕ → RingCall
  /-- Whether deferred completions wait to be processed. -/
  taskrun : ℕ → Bool
  /-- What is in the completion queue, given the sends that are not completed. -/
  completion : ℕ → List ℕ → List Cqe
  lawful : ∀ moment outstanding, (Cqe.sends (completion moment outstanding)).Subperm outstanding

def txSlotCount : ℕ := 256

def tier2BlockingWaitLimit : ℕ := 4

/-- Not part of the program are the fields after `recycledTx`: the number of times the
kernel was asked, the sends that it was asked for and has not completed, and what was
completed and given up. A completion for a slot that is not in flight is a stray. -/
structure IoUringDriver where
  gsoSupported : Bool
  deferTaskrunEnabled : Bool
  needsEnable : Bool
  rxArmed : Bool
  wakerReadArmed : Bool
  txSlots : List TxSlot
  txInFlight : ℕ
  txBytesInFlight : ℕ
  txBytesCap : ℕ
  pendingTx : List TxDatagram
  recycledTx : List Bytes
  moment : ℕ
  outstanding : List ℕ
  completed : List Addressed
  dropped : List Addressed
  strays : List ℕ

namespace IoUringDriver

def new (gsoSupported deferTaskrunEnabled : Bool) (txBytesCap : ℕ) : IoUringDriver where
  gsoSupported := gsoSupported
  deferTaskrunEnabled := deferTaskrunEnabled
  needsEnable := deferTaskrunEnabled
  rxArmed := false
  wakerReadArmed := false
  txSlots := List.replicate txSlotCount .new
  txInFlight := 0
  txBytesInFlight := 0
  txBytesCap := txBytesCap
  pendingTx := []
  recycledTx := []
  moment := 0
  outstanding := []
  completed := []
  dropped := []
  strays := []

def freeSlot (d : IoUringDriver) : Option ℕ := d.txSlots.findIdx? fun slot => !slot.inFlight

section Driver

variable (kernel : RingKernel)

/-- Push the entry of a filled slot. Whether it went into the queue is the second result. -/
def pushSend (idx : ℕ) (slot : TxSlot) (d : IoUringDriver) : IoUringDriver × Bool :=
  let d := { d with txSlots := d.txSlots.set idx slot }
  if kernel.full d.moment then ({ d with moment := d.moment + 1 }, false)
  else
    ({ d with
      moment := d.moment + 1
      outstanding := d.outstanding ++ [idx]
      txInFlight := d.txInFlight + 1
      txBytesInFlight := d.txBytesInFlight + slot.payloadLen }, true)

def giveBack (idx : ℕ) (slot : TxSlot) (d : IoUringDriver) : IoUringDriver :=
  let (pendingTx, slot) := requeueTxSlotForRetry d.pendingTx slot
  { d with pendingTx := pendingTx, txSlots := d.txSlots.set idx slot }

def splitToPending (batch : GsoBatch) (d : IoUringDriver) : IoUringDriver :=
  { d with pendingTx := enqueueGsoBatchForRetry d.pendingTx batch }

/-- One batch of `submit_sends`. -/
def submitBatch (d : IoUringDriver) (batch : GsoBatch) : IoUringDriver :=
  if batch.segmented then
    if d.txBytesCap < d.txBytesInFlight + batch.payloadLen ∧ 0 < d.txInFlight then
      d.splitToPending batch
    else
      match d.freeSlot with
      | none => d.splitToPending batch
      | some idx =>
        match pushSend kernel idx (.prepareGso batch) d with
        | (d, false) => d.giveBack idx (.prepareGso batch)
        | (d, true) => d
  else
    { d with pendingTx := d.pendingTx ++
      [⟨batch.data, batch.payloadLen, batch.dest, none, batch.fits⟩] }

/-- The batches of `submit_sends_gso`: there is no cap on bytes, and after a push that
found no room every other batch waits. -/
def submitBatchesGso : List GsoBatch → IoUringDriver → IoUringDriver
  | [], d => d
  | batch :: batches, d =>
    match d.freeSlot with
    | none => submitBatchesGso batches (d.splitToPending batch)
    | some idx =>
      let slot := if batch.segmented then .prepareGso batch
        else .prepare ⟨batch.data, batch.payloadLen, batch.dest, none, batch.fits⟩
      match pushSend kernel idx slot d with
      | (d, false) => batches.foldl (fun d batch => d.splitToPending batch) (d.giveBack idx slot)
      | (d, true) => submitBatchesGso batches d

/-- Fill slots from the front of the queue while there are slots and bytes are below the cap. -/
def submitPendingLoop : List TxDatagram → IoUringDriver → IoUringDriver
  | [], d => d
  | packet :: rest, d =>
    let d := { d with pendingTx := rest }
    if d.txBytesCap ≤ d.txBytesInFlight ∧ 0 < d.txInFlight then
      { d with pendingTx := packet :: rest }
    else
      match d.freeSlot with
      | none => { d with pendingTx := packet :: rest }
      | some idx =>
        match pushSend kernel idx (.prepare packet) d with
        | (d, false) =>
          let (packet, slot) := (TxSlot.prepare packet).takePacket
          { d with pendingTx := packet :: rest, txSlots := d.txSlots.set idx slot }
        | (d, true) => submitPendingLoop rest d

def submitPendingTx (d : IoUringDriver) : IoUringDriver := submitPendingLoop kernel d.pendingTx d

def completeSend (idx : ℕ) (result : Except Errno ℕ) (d : IoUringDriver) : IoUringDriver :=
  match d.txSlots[idx]? with
  | none => { d with strays := d.strays ++ [idx] }
  | some slot =>
    let d := { d with
      txInFlight := d.txInFlight - 1
      txBytesInFlight := d.txBytesInFlight - slot.payloadLen
      strays := if slot.inFlight then d.strays else d.strays ++ [idx] }
    let recycled := { d with
      recycledTx := d.recycledTx ++ [slot.recycleBuffer.1]
      txSlots := d.txSlots.set idx slot.recycleBuffer.2 }
    match result with
    | .ok _ => { recycled with completed := d.completed ++ slot.datagrams }
    | .error errno =>
      if slot.retryable errno then d.giveBack idx slot
      else { recycled with dropped := d.dropped ++ slot.datagrams }

/-- Results of the operations; an error leaves the state as it is then. -/
abbrev RingAction := Action Unit IoUringDriver

/-- Push an entry that is not a send. A queue without room is an error. -/
def pushEntry : RingAction Unit := do
  let full ← modifyGet fun d => (kernel.full d.moment, { d with moment := d.moment + 1 })
  if full then throw ()

def systemCall : RingAction RingCall :=
  modifyGet fun d => (kernel.call d.moment, { d with moment := d.moment + 1 })

/-- A call whose errors are passed on, those in `ignored` apart. -/
def tryCall (ignored : List RingCall) : RingAction Unit := do
  let result ← systemCall kernel
  if result = .ok ∨ result ∈ ignored then pure () else throw ()

def armMultishotRecv : RingAction Unit := do
  pushEntry kernel
  modify fun d => { d with rxArmed := true }

def submitWakerRead : RingAction Unit := do
  let d ← get
  if d.wakerReadArmed then pure ()
  else
    pushEntry kernel
    modify fun d => { d with wakerReadArmed := true }

def armAll : RingAction Unit := do
  armMultishotRecv kernel
  submitWakerRead kernel
  tryCall kernel []

def enableOnWorkerThread : RingAction Unit := do
  tryCall kernel []
  modify fun d => { d with needsEnable := false }
  armAll kernel

def takeCompletions : RingAction (List Cqe) :=
  modifyGet fun d =>
    let cqes := kernel.completion d.moment d.outstanding
    (cqes, { d with moment := d.moment + 1, outstanding := d.outstanding.diff (Cqe.sends cqes) })

def processCqe : Cqe → RingAction ℕ
  | .recv more => do
    if more then pure 0
    else
      tryCatch (armMultishotRecv kernel) fun _ => modify fun d => { d with rxArmed := false }
      pure 0
  | .send idx result => do
    modify (completeSend idx result)
    pure 1
  | .waker => do
    modify fun d => { d with wakerReadArmed := false }
    submitWakerRead kernel
    pure 0
  | .other => pure 0

-- what is left of the list is forgotten when one completion fails
def processCqes : List Cqe → RingAction ℕ
  | [] => pure 0
  | cqe :: cqes => do
    let freed ← processCqe kernel cqe
    let others ← processCqes cqes
    pure (freed + others)

def rearm : RingAction Unit := do
  let d ← get
  if d.rxArmed then pure () else armMultishotRecv kernel

def processCqesInline (cqes : List Cqe) : RingAction ℕ := do
  let freed ← processCqes kernel cqes
  rearm kernel
  pure freed

def drainReadyCqesInline : RingAction ℕ := do
  let cqes ← takeCompletions kernel
  if cqes.isEmpty then pure 0 else processCqesInline kernel cqes

/-- Whether deferred completions are to be processed. -/
def taskrunWaits : RingAction Bool :=
  modifyGet fun d =>
    (d.deferTaskrunEnabled && kernel.taskrun d.moment, { d with moment := d.moment + 1 })

def drainCompletionsForTx : RingAction ℕ := do
  let waits ← taskrunWaits kernel
  if waits then
    tryCall kernel []
    drainReadyCqesInline kernel
  else pure 0

def stuck (d : IoUringDriver) : Bool := !d.pendingTx.isEmpty && decide (0 < d.txInFlight)

-- every path through the body of the source's loop leaves it, so it runs once
def taskrunPrefetch : RingAction Bool := do
  let waits ← taskrunWaits kernel
  let d ← get
  if waits && d.stuck then
    let freed ← drainCompletionsForTx kernel
    if freed = 0 then pure false
    else
      modify (submitPendingTx kernel)
      pure true
  else pure false

def blockingWaits : ℕ → RingAction Unit
  | 0 => pure ()
  | waits + 1 => do
    let d ← get
    if d.stuck then
      let waited ← systemCall kernel
      match waited with
      | .interrupted => blockingWaits waits
      | .ok =>
        let freed ← drainReadyCqesInline kernel
        if freed = 0 then blockingWaits waits else modify (submitPendingTx kernel)
      | _ => pure ()
    else pure ()

/-- Hand datagrams over: into slots, or to the end of the queue. -/
def offer (packets : List TxDatagram) (d : IoUringDriver) : IoUringDriver :=
  if d.gsoSupported && decide (1 < packets.length) then
    let batching := groupForGso packets
    batching.batches.foldl (submitBatch kernel)
      { d with recycledTx := d.recycledTx ++ batching.recycled }
  else { d with pendingTx := d.pendingTx ++ packets }

def submitSends (packets : List TxDatagram) : RingAction Unit := do
  modify (offer kernel packets)
  modify (submitPendingTx kernel)
  let d ← get
  if d.stuck then
    let madeProgress ← taskrunPrefetch kernel
    if madeProgress then pure () else blockingWaits kernel tier2BlockingWaitLimit
  else pure ()

/-- The way of the datagrams that a send bundle has no room for. -/
def submitSendsGso (packets : List TxDatagram) : RingAction Unit :=
  modify fun d =>
    let batching := groupForGso packets
    submitBatchesGso kernel batching.batches
      { d with recycledTx := d.recycledTx ++ batching.recycled }

def enableOnFirstPoll : RingAction Unit := do
  let d ← get
  if d.needsEnable then enableOnWorkerThread kernel else pure ()

def poll : RingAction Unit := do
  enableOnFirstPoll kernel
  modify (submitPendingTx kernel)
  submitWakerRead kernel
  tryCall kernel [.timedOut, .interrupted]
  let cqes ← takeCompletions kernel
  let _ ← processCqes kernel cqes
  rearm kernel
  modify (submitPendingTx kernel)

inductive Op
  | submitSends (packets : List TxDatagram)
  | submitSendsGso (packets : List TxDatagram)
  | poll

/-- The datagrams that a call hands to the driver. -/
def Op.submitted : Op → List Addressed
  | .submitSends packets | .submitSendsGso packets => packets.map TxDatagram.addressed
  | .poll => []

def step : Op → IoUringDriver → IoUringDriver
  | .submitSends packets => (submitSends kernel packets).after
  | .submitSendsGso packets => (submitSendsGso kernel packets).after
  | .poll => (poll kernel).after

end Driver

end IoUringDriver

namespace TxSlot

def underWay (slot : TxSlot) : List Addressed := if slot.inFlight then slot.datagrams else []

def bytesUnderWay (slot : TxSlot) : ℕ := if slot.inFlight then slot.payloadLen else 0

@[simp] theorem datagrams_prepare (packet : TxDatagram) :
    (prepare packet).datagrams = [packet.addressed] := rfl

theorem datagrams_prepareGso {batch : GsoBatch} (hsegmented : batch.segmented = true) :
    (prepareGso batch).datagrams = batch.datagrams := by
  have hseg : batch.segmentSize ≠ 0 := by
    simp [GsoBatch.segmented] at hsegmented
    omega
  simp [datagrams, prepareGso, GsoBatch.datagrams, GsoBatch.payload, hsegmented, hseg]

end TxSlot

theorem addressed_enqueueRetryData (pendingTx : List TxDatagram) (slot : TxSlot) :
    (enqueueRetryData pendingTx slot.data slot.payloadLen slot.peer slot.gsoSegmentSize
      slot.fits).map TxDatagram.addressed = pendingTx.map TxDatagram.addressed ++
        slot.datagrams := by
  unfold enqueueRetryData TxSlot.datagrams
  split_ifs
  · simp [TxDatagram.addressed, TxDatagram.payload]
  · simp only [List.map_append, List.map_map]
    congr 1
    refine List.map_congr_left fun chunk _ => ?_
    simp

theorem addressed_requeueTxSlotForRetry (pendingTx : List TxDatagram) (slot : TxSlot) :
    (requeueTxSlotForRetry pendingTx slot).1.map TxDatagram.addressed =
      pendingTx.map TxDatagram.addressed ++ slot.datagrams := by
  unfold requeueTxSlotForRetry
  split_ifs with hseg
  · simp [TxSlot.takePacket, TxSlot.datagrams, hseg, TxDatagram.addressed, TxDatagram.payload]
  · exact addressed_enqueueRetryData pendingTx slot

theorem requeueTxSlotForRetry_slot (pendingTx : List TxDatagram) (slot : TxSlot) :
    (requeueTxSlotForRetry pendingTx slot).2 = slot.emptied := by
  unfold requeueTxSlotForRetry
  split_ifs
  · rfl
  · rfl

theorem addressed_enqueueGsoBatchForRetry (pendingTx : List TxDatagram) {batch : GsoBatch}
    {payloads : List Bytes} (hholds : batch.Holds payloads) :
    (enqueueGsoBatchForRetry pendingTx batch).map TxDatagram.addressed =
      pendingTx.map TxDatagram.addressed ++ batch.datagrams := by
  have hretry := addressed_enqueueRetryData pendingTx (.prepareGso batch)
  rw [enqueueGsoBatchForRetry]
  refine hretry.trans (congrArg _ ?_)
  rw [hholds.datagrams, TxSlot.datagrams]
  -- unlike the kernel, the driver also cuts a batch of one datagram
  by_cases hseg : batch.segmentSize = 0
  · obtain ⟨p, rfl⟩ := List.length_eq_one_iff.1 (hholds.single hseg)
    have hpayload : batch.data.take batch.payloadLen = p :=
      hholds.payload.trans List.flatten_singleton
    simp [TxSlot.prepareGso, hseg, hpayload]
  · have hpayload : batch.data.take batch.payloadLen = payloads.flatten := hholds.payload
    have hcut := Chunks.cut_flatten (Nat.pos_of_ne_zero hseg)
      (hholds.equal (Nat.pos_of_ne_zero hseg))
    simp [TxSlot.prepareGso, hseg, hpayload, hcut]

section Replace

variable {α : Type} {l : List α} {i : ℕ} {a b : α}

theorem sum_map_set (f : α → ℕ) (hi : l[i]? = some b) :
    ((l.set i a).map f).sum + f b = (l.map f).sum + f a := by
  obtain ⟨hlt, hb⟩ := List.getElem?_eq_some_iff.1 hi
  have hlength : i < (l.map f).length := by simpa using hlt
  have hself : (l.map f).set i (f b) = l.map f := by
    rw [← List.map_set, ← hb, List.set_getElem_self]
  have hnew := List.sum_set (l.map f) i (f a)
  have hold := List.sum_set (l.map f) i (f b)
  rw [hself] at hold
  rw [List.map_set]
  simp only [hlength, if_true] at hnew hold
  omega

end Replace

namespace IoUringDriver

/-- The counters agree with the slots, completions come for slots in flight, and every
datagram submitted is in one place. `taken` are the slots of completions that are still to
be processed, `hand` the datagrams that are still to be placed. -/
structure Accounts (submitted : List Addressed) (d : IoUringDriver) (taken : List ℕ)
    (hand : List Addressed) : Prop where
  count : d.txInFlight = d.txSlots.countP TxSlot.inFlight
  bytes : d.txBytesInFlight = (d.txSlots.map TxSlot.bytesUnderWay).sum
  once : (taken ++ d.outstanding).Nodup
  marked : ∀ idx ∈ taken ++ d.outstanding, ∃ slot, d.txSlots[idx]? = some slot ∧
    slot.inFlight = true
  strays : d.strays = []
  places : submitted.Perm (hand ++ d.pendingTx.map TxDatagram.addressed ++
    d.txSlots.flatMap TxSlot.underWay ++ d.completed ++ d.dropped)

section Accounts

variable {kernel : RingKernel} {d d' : IoUringDriver} {taken : List ℕ}
  {submitted hand : List Addressed}
  {idx : ℕ} {slot slot' : TxSlot}

theorem freeSlot_spec (hfree : d.freeSlot = some idx) :
    ∃ slot, d.txSlots[idx]? = some slot ∧ slot.inFlight = false := by
  obtain ⟨hlt, hslot, -⟩ := List.findIdx?_eq_some_iff_getElem.1 hfree
  exact ⟨d.txSlots[idx], List.getElem?_eq_getElem hlt, by simpa using hslot⟩

theorem count_underWay_set (slot' : TxSlot) (x : Addressed) (hslot : d.txSlots[idx]? = some slot) :
    ((d.txSlots.set idx slot').flatMap TxSlot.underWay).count x + slot.underWay.count x =
      (d.txSlots.flatMap TxSlot.underWay).count x + slot'.underWay.count x := by
  rw [List.count_flatMap, List.count_flatMap]
  exact sum_map_set _ hslot

/-- A free slot is filled, and its entry is pushed. -/
theorem Accounts.pushed (h : d.Accounts submitted taken (slot'.datagrams ++ hand))
    (hfree : d.freeSlot = some idx) (hmarked : slot'.inFlight = true) :
    Accounts submitted { d with
      txSlots := d.txSlots.set idx slot'
      moment := d.moment + 1
      outstanding := d.outstanding ++ [idx]
      txInFlight := d.txInFlight + 1
      txBytesInFlight := d.txBytesInFlight + slot'.payloadLen } taken hand := by
  obtain ⟨slot, hslot, hidle⟩ := freeSlot_spec hfree
  obtain ⟨hlt, hget⟩ := List.getElem?_eq_some_iff.1 hslot
  have hnew : idx ∉ taken ++ d.outstanding := by
    intro hmem
    obtain ⟨held, hheld, hbusy⟩ := h.marked idx hmem
    rw [hslot, Option.some.injEq] at hheld
    rw [← hheld, hidle] at hbusy
    exact Bool.false_ne_true hbusy
  constructor
  · show d.txInFlight + 1 = _
    rw [List.countP_set hlt, hget, h.count]
    simp [hidle, hmarked]
  · show d.txBytesInFlight + slot'.payloadLen = _
    have hsum := sum_map_set (a := slot') TxSlot.bytesUnderWay hslot
    simp only [TxSlot.bytesUnderWay, hidle, hmarked, if_true, Bool.false_eq_true, if_false] at hsum
    rw [h.bytes]
    exact hsum.symm
  · show (taken ++ (d.outstanding ++ [idx])).Nodup
    rw [← List.append_assoc]
    exact h.once.append (List.nodup_singleton idx) (by simpa using hnew)
  · intro i hi
    show ∃ slot, (d.txSlots.set idx slot')[i]? = some slot ∧ _
    rw [← List.append_assoc, List.mem_append, List.mem_singleton] at hi
    obtain hi | rfl := hi
    · have hne : idx ≠ i := by
        rintro rfl
        exact hnew hi
      rw [List.getElem?_set_ne hne]
      exact h.marked i hi
    · exact ⟨slot', List.getElem?_set_self hlt, hmarked⟩
  · exact h.strays
  · rw [List.perm_iff_count]
    intro x
    have hplaces := List.perm_iff_count.1 h.places x
    have hset := count_underWay_set slot' x hslot
    simp only [TxSlot.underWay, hidle, hmarked, if_true, Bool.false_eq_true, if_false,
      List.count_append, List.count_nil] at hplaces hset ⊢
    omega

variable {pendingTx : List TxDatagram}

/-- A free slot stays free, and datagrams in hand join the queue. -/
theorem Accounts.requeued (h : d.Accounts submitted taken (slot.datagrams ++ hand))
    (hfree : d.freeSlot = some idx) (hidle' : slot'.inFlight = false)
    (hpending : (pendingTx.map TxDatagram.addressed).Perm
      (slot.datagrams ++ d.pendingTx.map TxDatagram.addressed)) :
    Accounts submitted { d with
      txSlots := d.txSlots.set idx slot', moment := d.moment + 1, pendingTx := pendingTx }
      taken hand := by
  obtain ⟨old, hold, hidle⟩ := freeSlot_spec hfree
  obtain ⟨hlt, hget⟩ := List.getElem?_eq_some_iff.1 hold
  constructor
  · show d.txInFlight = _
    rw [List.countP_set hlt, hget, h.count]
    simp [hidle, hidle']
  · have hsum := sum_map_set (a := slot') TxSlot.bytesUnderWay hold
    simp only [TxSlot.bytesUnderWay, hidle, hidle', Bool.false_eq_true, if_false] at hsum
    exact h.bytes.trans hsum.symm
  · exact h.once
  · intro i hi
    obtain ⟨held, hheld, hbusy⟩ := h.marked i hi
    have hne : idx ≠ i := by
      rintro rfl
      rw [hold, Option.some.injEq] at hheld
      rw [← hheld, hidle] at hbusy
      exact Bool.false_ne_true hbusy
    exact ⟨held, (List.getElem?_set_ne hne).trans hheld, hbusy⟩
  · exact h.strays
  · rw [List.perm_iff_count]
    intro x
    have hplaces := List.perm_iff_count.1 h.places x
    have hmoved := List.perm_iff_count.1 hpending x
    have hset := count_underWay_set slot' x hold
    simp only [TxSlot.underWay, hidle, hidle', Bool.false_eq_true, if_false, List.count_append,
      List.count_nil] at hplaces hset hmoved ⊢
    omega

theorem Accounts.enqueued {moved : List Addressed} (h : d.Accounts submitted taken (moved ++ hand))
    (hpending : pendingTx.map TxDatagram.addressed =
      d.pendingTx.map TxDatagram.addressed ++ moved) :
    Accounts submitted { d with pendingTx := pendingTx } taken hand := by
  refine ⟨h.count, h.bytes, h.once, h.marked, h.strays, ?_⟩
  rw [List.perm_iff_count]
  intro x
  have hplaces := List.perm_iff_count.1 h.places x
  simp only [hpending, List.count_append] at hplaces ⊢
  omega

/-- A slot in flight is emptied, and its datagrams go elsewhere. -/
theorem Accounts.freed (h : d.Accounts submitted (idx :: taken) hand)
    (hslot : d.txSlots[idx]? = some slot) {recycledTx : List Bytes}
    {completed dropped : List Addressed}
    (hplaced : (pendingTx.map TxDatagram.addressed ++ completed ++ dropped).Perm
      (d.pendingTx.map TxDatagram.addressed ++ d.completed ++ d.dropped ++ slot.datagrams)) :
    Accounts submitted { d with
      txSlots := d.txSlots.set idx slot.emptied
      txInFlight := d.txInFlight - 1
      txBytesInFlight := d.txBytesInFlight - slot.payloadLen
      pendingTx := pendingTx, recycledTx := recycledTx
      completed := completed, dropped := dropped } taken hand := by
  obtain ⟨held, hheld, hbusy⟩ := h.marked idx (by simp)
  rw [hslot, Option.some.injEq] at hheld
  rw [← hheld] at hbusy
  obtain ⟨hlt, hget⟩ := List.getElem?_eq_some_iff.1 hslot
  have hidle : slot.emptied.inFlight = false := rfl
  constructor
  · show d.txInFlight - 1 = _
    rw [List.countP_set hlt, hget, h.count]
    simp [hbusy, hidle]
  · show d.txBytesInFlight - slot.payloadLen =
      ((d.txSlots.set idx slot.emptied).map TxSlot.bytesUnderWay).sum
    have hsum := sum_map_set (a := slot.emptied) TxSlot.bytesUnderWay hslot
    have hheld : slot.bytesUnderWay = slot.payloadLen := by simp [TxSlot.bytesUnderWay, hbusy]
    have hgone : slot.emptied.bytesUnderWay = 0 := rfl
    have hbytes := h.bytes
    omega
  · exact (List.nodup_cons.1 h.once).2
  · intro i hi
    obtain ⟨other, hother, hmarked⟩ := h.marked i (List.mem_cons_of_mem _ hi)
    have hne : idx ≠ i := by
      rintro rfl
      exact (List.nodup_cons.1 h.once).1 hi
    exact ⟨other, (List.getElem?_set_ne hne).trans hother, hmarked⟩
  · exact h.strays
  · rw [List.perm_iff_count]
    intro x
    have hplaces := List.perm_iff_count.1 h.places x
    have hmoved := List.perm_iff_count.1 hplaced x
    have hset := count_underWay_set slot.emptied x hslot
    simp only [TxSlot.underWay, hbusy, hidle, if_true, Bool.false_eq_true, if_false,
      List.count_append, List.count_nil] at hplaces hset hmoved ⊢
    omega

theorem Accounts.pushSend (h : d.Accounts submitted taken (slot.datagrams ++ hand))
    (hfree : d.freeSlot = some idx) (hmarked : slot.inFlight = true)
    (hpush : IoUringDriver.pushSend kernel idx slot d = (d', true)) :
    d'.Accounts submitted taken hand := by
  unfold IoUringDriver.pushSend at hpush
  dsimp only at hpush
  split_ifs at hpush
  · exact absurd (congrArg Prod.snd hpush) Bool.false_ne_true
  · obtain ⟨rfl, -⟩ := Prod.mk.inj hpush
    exact h.pushed hfree hmarked

theorem pushSend_full (hpush : IoUringDriver.pushSend kernel idx slot d = (d', false)) :
    d' = { d with txSlots := d.txSlots.set idx slot, moment := d.moment + 1 } := by
  unfold IoUringDriver.pushSend at hpush
  dsimp only at hpush
  split_ifs at hpush
  · exact (congrArg Prod.fst hpush).symm
  · exact absurd (congrArg Prod.snd hpush).symm Bool.false_ne_true

theorem Accounts.giveBack (h : d.Accounts submitted taken (slot.datagrams ++ hand))
    (hfree : d.freeSlot = some idx)
    (hpush : IoUringDriver.pushSend kernel idx slot d = (d', false)) :
    (d'.giveBack idx slot).Accounts submitted taken hand := by
  rw [pushSend_full hpush]
  unfold IoUringDriver.giveBack
  dsimp only
  rw [List.set_set]
  apply h.requeued hfree
  · rw [requeueTxSlotForRetry_slot]
    rfl
  · rw [addressed_requeueTxSlotForRetry]
    exact List.perm_append_comm

theorem Accounts.splitToPending {batch : GsoBatch} {payloads : List Bytes}
    (hholds : batch.Holds payloads) (h : d.Accounts submitted taken (batch.datagrams ++ hand)) :
    (d.splitToPending batch).Accounts submitted taken hand :=
  h.enqueued (addressed_enqueueGsoBatchForRetry d.pendingTx hholds)

theorem Accounts.submitBatch {batch : GsoBatch} {payloads : List Bytes}
    (hholds : batch.Holds payloads) (h : d.Accounts submitted taken (batch.datagrams ++ hand)) :
    (IoUringDriver.submitBatch kernel d batch).Accounts submitted taken hand := by
  unfold IoUringDriver.submitBatch
  split_ifs with hsegmented hcap
  · exact h.splitToPending hholds
  · cases hfree : d.freeSlot with
    | none => exact h.splitToPending hholds
    | some idx =>
      have hdatagrams := TxSlot.datagrams_prepareGso hsegmented
      rw [← hdatagrams] at h
      dsimp only
      split
      case _ d' hpush => exact h.giveBack hfree hpush
      case _ d' hpush => exact h.pushSend hfree rfl hpush
  · have hone : batch.datagrams = [(batch.dest, batch.payload)] := by
      simp [GsoBatch.datagrams, hsegmented]
    rw [hone] at h
    apply h.enqueued
    simp [TxDatagram.addressed, TxDatagram.payload, GsoBatch.payload]

theorem Accounts.submitBatches {batches : List GsoBatch}
    (hholds : ∀ batch ∈ batches, ∃ payloads, batch.Holds payloads)
    (h : d.Accounts submitted taken (batches.flatMap GsoBatch.datagrams)) :
    (batches.foldl (IoUringDriver.submitBatch kernel) d).Accounts submitted taken [] := by
  induction batches generalizing d with
  | nil => exact h
  | cons batch batches ih =>
    obtain ⟨payloads, hfirst⟩ := hholds batch List.mem_cons_self
    exact ih (fun other hother => hholds other (List.mem_cons_of_mem _ hother))
      (h.submitBatch hfirst)

theorem Accounts.splitAll {batches : List GsoBatch}
    (hholds : ∀ batch ∈ batches, ∃ payloads, batch.Holds payloads)
    (h : d.Accounts submitted taken (batches.flatMap GsoBatch.datagrams)) :
    (batches.foldl (fun d batch => d.splitToPending batch) d).Accounts submitted taken [] := by
  induction batches generalizing d with
  | nil => exact h
  | cons batch batches ih =>
    obtain ⟨payloads, hfirst⟩ := hholds batch List.mem_cons_self
    exact ih (fun other hother => hholds other (List.mem_cons_of_mem _ hother))
      (h.splitToPending hfirst)

theorem Accounts.submitBatchesGso {batches : List GsoBatch}
    (hholds : ∀ batch ∈ batches, ∃ payloads, batch.Holds payloads)
    (h : d.Accounts submitted taken (batches.flatMap GsoBatch.datagrams)) :
    (IoUringDriver.submitBatchesGso kernel batches d).Accounts submitted taken [] := by
  induction batches generalizing d with
  | nil => exact h
  | cons batch batches ih =>
    obtain ⟨payloads, hfirst⟩ := hholds batch List.mem_cons_self
    have hothers : ∀ other ∈ batches, ∃ payloads, other.Holds payloads :=
      fun other hother => hholds other (List.mem_cons_of_mem _ hother)
    unfold IoUringDriver.submitBatchesGso
    cases hfree : d.freeSlot with
    | none => exact ih hothers (h.splitToPending hfirst)
    | some idx =>
      dsimp only
      generalize hslot : (if batch.segmented then TxSlot.prepareGso batch
        else TxSlot.prepare ⟨batch.data, batch.payloadLen, batch.dest, none, batch.fits⟩) = slot
      have hmarked : slot.inFlight = true := by
        rw [← hslot]
        split_ifs
        · rfl
        · rfl
      have hdatagrams : slot.datagrams = batch.datagrams := by
        rw [← hslot]
        split_ifs with hsegmented
        · exact TxSlot.datagrams_prepareGso hsegmented
        · simp [GsoBatch.datagrams, hsegmented, TxDatagram.addressed, TxDatagram.payload,
            GsoBatch.payload]
      rw [List.flatMap_cons, ← hdatagrams] at h
      split
      case _ d' hpush => exact (h.giveBack hfree hpush).splitAll hothers
      case _ d' hpush => exact ih hothers (h.pushSend hfree hmarked hpush)

theorem Accounts.popped {packet : TxDatagram} {rest : List TxDatagram}
    (h : d.Accounts submitted taken hand)
    (hpending : d.pendingTx = packet :: rest) :
    Accounts submitted { d with pendingTx := rest } taken
      ((TxSlot.prepare packet).datagrams ++ hand) := by
  refine ⟨h.count, h.bytes, h.once, h.marked, h.strays, ?_⟩
  rw [List.perm_iff_count]
  intro x
  have hplaces := List.perm_iff_count.1 h.places x
  simp only [hpending, TxSlot.datagrams_prepare, List.map_cons, List.count_append, List.count_cons,
    List.count_nil] at hplaces ⊢
  omega

theorem pushSend_pendingTx {pushed : Bool} (hpush : pushSend kernel idx slot d = (d', pushed)) :
    d'.pendingTx = d.pendingTx := by
  unfold pushSend at hpush
  dsimp only at hpush
  split_ifs at hpush
  · rw [← (Prod.mk.inj hpush).1]
  · rw [← (Prod.mk.inj hpush).1]

theorem Accounts.submitPendingLoop (hpending : d.pendingTx = pendingTx)
    (h : d.Accounts submitted taken hand) :
    (IoUringDriver.submitPendingLoop kernel pendingTx d).Accounts submitted taken hand := by
  induction pendingTx generalizing d with
  | nil => exact h
  | cons packet rest ih =>
    -- where the loop stops, the datagram is put back in front
    have hback : Accounts submitted { d with pendingTx := packet :: rest } taken hand := by
      rw [← hpending]
      exact h
    have hpopped := h.popped hpending
    unfold IoUringDriver.submitPendingLoop
    dsimp only
    split_ifs
    · exact hback
    · cases hfree : freeSlot { d with pendingTx := rest } with
      | none => exact hback
      | some idx =>
        dsimp only
        split
        case _ d' hpush =>
          rw [pushSend_full hpush]
          dsimp only
          rw [List.set_set]
          exact hpopped.requeued hfree rfl (.refl _)
        case _ d' hpush =>
          exact ih (pushSend_pendingTx hpush) (hpopped.pushSend hfree rfl hpush)

theorem Accounts.completeSend {result : Except Errno ℕ}
    (h : d.Accounts submitted (idx :: taken) hand) :
    (IoUringDriver.completeSend idx result d).Accounts submitted taken hand := by
  obtain ⟨slot, hslot, hbusy⟩ := h.marked idx (by simp)
  unfold IoUringDriver.completeSend
  simp only [hslot, hbusy, if_true]
  cases result with
  | ok _ =>
    apply h.freed hslot
    rw [List.perm_iff_count]
    intro x
    simp only [List.count_append]
    omega
  | error errno =>
    dsimp only
    split_ifs
    · unfold IoUringDriver.giveBack
      dsimp only
      rw [requeueTxSlotForRetry_slot]
      apply h.freed hslot
      rw [addressed_requeueTxSlotForRetry, List.perm_iff_count]
      intro x
      simp only [List.count_append]
      omega
    · apply h.freed hslot
      rw [← List.append_assoc]

theorem Accounts.forget {taken' : List ℕ} (h : d.Accounts submitted taken hand)
    (hsub : taken'.Sublist taken) :
    d.Accounts submitted taken' hand := by
  have hpart : (taken' ++ d.outstanding).Sublist (taken ++ d.outstanding) := hsub.append_right _
  exact ⟨h.count, h.bytes, h.once.sublist hpart, fun i hi => h.marked i (hpart.subset hi), h.strays,
    h.places⟩

theorem Accounts.completions (h : d.Accounts submitted [] hand) (kernel : RingKernel) :
    Accounts submitted { d with
      moment := d.moment + 1
      outstanding := d.outstanding.diff (Cqe.sends (kernel.completion d.moment d.outstanding)) }
      (Cqe.sends (kernel.completion d.moment d.outstanding)) hand := by
  have hlawful := kernel.lawful d.moment d.outstanding
  generalize Cqe.sends (kernel.completion d.moment d.outstanding) = sends at hlawful ⊢
  have hall : (sends ++ d.outstanding.diff sends).Perm d.outstanding :=
    List.subperm_append_diff_self_of_count_le fun x _ => hlawful.count_le x
  refine ⟨h.count, h.bytes, ?_, ?_, h.strays, h.places⟩
  · exact hall.nodup_iff.2 h.once
  · intro i hi
    exact h.marked i (hall.subset hi)

theorem Accounts.handed (h : d.Accounts submitted taken []) (moved : List Addressed)
    (recycledTx : List Bytes) :
    Accounts (submitted ++ moved) { d with recycledTx := recycledTx } taken moved := by
  refine ⟨h.count, h.bytes, h.once, h.marked, h.strays, ?_⟩
  rw [List.perm_iff_count]
  intro x
  have hplaces := List.perm_iff_count.1 h.places x
  simp only [List.count_append, List.count_nil] at hplaces ⊢
  omega

theorem Accounts.offer (h : d.Accounts submitted [] []) (packets : List TxDatagram) :
    (IoUringDriver.offer kernel packets d).Accounts
      (submitted ++ packets.map TxDatagram.addressed) [] [] := by
  have hgroups := groups_groupForGso packets
  have hhanded := h.handed (packets.map TxDatagram.addressed)
  unfold IoUringDriver.offer
  dsimp only
  split_ifs
  · apply Accounts.submitBatches hgroups.holds
    rw [hgroups.datagrams]
    exact hhanded _
  · have hall : d.Accounts (submitted ++ packets.map TxDatagram.addressed) []
        (packets.map TxDatagram.addressed ++ []) := by
      rw [List.append_nil]
      exact hhanded d.recycledTx
    exact hall.enqueued List.map_append

theorem Accounts.control {needsEnable rxArmed wakerReadArmed : Bool} {moment : ℕ}
    (h : d.Accounts submitted taken hand) :
    Accounts submitted { d with
      needsEnable := needsEnable, rxArmed := rxArmed, wakerReadArmed := wakerReadArmed
      moment := moment } taken hand :=
  ⟨h.count, h.bytes, h.once, h.marked, h.strays, h.places⟩

end Accounts

open Http3.Action

section Actions

variable {taken : List ℕ} {submitted hand : List Addressed} (kernel : RingKernel)

theorem keeps_pushEntry : Keeps (Accounts submitted · taken hand) (pushEntry kernel) :=
  Keeps.bind (ensures_modifyGet fun _ h => h.control) fun _ => .ite (keeps_throw ()) (keeps_pure ())

theorem keeps_systemCall : Keeps (Accounts submitted · taken hand) (systemCall kernel) :=
  ensures_modifyGet fun _ h => h.control

theorem keeps_armMultishotRecv :
    Keeps (Accounts submitted · taken hand) (armMultishotRecv kernel) :=
  (keeps_pushEntry kernel).bind fun _ => ensures_modify fun _ h => h.control

theorem keeps_submitWakerRead :
    Keeps (Accounts submitted · taken hand) (submitWakerRead kernel) := by
  refine Keeps.bind keeps_get fun d => .ite ?_ ?_
  · exact keeps_pure ()
  · exact (keeps_pushEntry kernel).bind fun _ => ensures_modify fun _ h => h.control

theorem keeps_tryCall (ignored : List RingCall) :
    Keeps (Accounts submitted · taken hand) (tryCall kernel ignored) :=
  (keeps_systemCall kernel).bind fun _ => .ite (keeps_pure ()) (keeps_throw ())

theorem keeps_armAll : Keeps (Accounts submitted · taken hand) (armAll kernel) := by
  refine (keeps_armMultishotRecv kernel).bind fun _ => ?_
  exact (keeps_submitWakerRead kernel).bind fun _ => keeps_tryCall kernel []

theorem keeps_enableOnWorkerThread :
    Keeps (Accounts submitted · taken hand) (enableOnWorkerThread kernel) := by
  refine (keeps_tryCall kernel []).bind fun _ => ?_
  exact Keeps.bind (ensures_modify fun _ h => h.control) fun _ => keeps_armAll kernel

theorem keeps_rearm : Keeps (Accounts submitted · taken hand) (rearm kernel) :=
  Keeps.bind keeps_get fun _ => .ite (keeps_pure ()) (keeps_armMultishotRecv kernel)

theorem keeps_submitPendingTx :
    Keeps (Accounts submitted · taken hand) (modify (submitPendingTx kernel) : RingAction Unit) :=
  ensures_modify fun _ h => h.submitPendingLoop rfl

theorem ensures_processCqe (cqe : Cqe) (cqes : List Cqe) :
    Ensures (Accounts submitted · (Cqe.sends (cqe :: cqes)) hand) (processCqe kernel cqe)
      (Accounts submitted · (Cqe.sends cqes) hand) := by
  cases cqe with
  | recv more =>
    refine .ite (keeps_pure 0) (Keeps.bind ?_ fun _ => keeps_pure 0)
    exact (keeps_armMultishotRecv kernel).tryCatch fun _ => ensures_modify fun _ h => h.control
  | send idx result =>
    refine Ensures.bind (ensures_modify fun d h => ?_) (fun _ => keeps_pure 1) fun _ h => h
    exact h.completeSend
  | waker =>
    refine Keeps.bind (ensures_modify fun _ h => h.control) fun _ => ?_
    exact (keeps_submitWakerRead kernel).bind fun _ => keeps_pure 0
  | other => exact keeps_pure 0

theorem ensures_processCqes (cqes : List Cqe) :
    Ensures (Accounts submitted · (Cqe.sends cqes) hand) (processCqes kernel cqes)
      (Accounts submitted · [] hand) := by
  induction cqes with
  | nil => exact keeps_pure 0
  | cons cqe cqes ih =>
    refine Ensures.bind (ensures_processCqe kernel cqe cqes) (fun freed => ?_) ?_
    · exact Ensures.bind ih (fun others => keeps_pure _) fun _ h => h
    · exact fun _ h => h.forget (List.nil_sublist _)

theorem keeps_takeCompletions {α : Type} {f : List Cqe → RingAction α}
    (hf : ∀ cqes, Ensures (Accounts submitted · (Cqe.sends cqes) hand) (f cqes)
      (Accounts submitted · [] hand)) :
    Keeps (Accounts submitted · [] hand) (takeCompletions kernel >>= f) :=
  ensures_modifyGet_bind fun _ h => hf _ _ (h.completions kernel)

theorem keeps_drainReadyCqesInline :
    Keeps (Accounts submitted · [] hand) (drainReadyCqesInline kernel) := by
  refine keeps_takeCompletions kernel fun cqes => .ite ?_ ?_
  · exact ensures_pure (fun _ h => h.forget (List.nil_sublist _)) 0
  · refine Ensures.bind (ensures_processCqes kernel cqes) (fun freed => ?_) fun _ h => h
    exact (keeps_rearm kernel).bind fun _ => keeps_pure freed

theorem keeps_taskrunWaits : Keeps (Accounts submitted · taken hand) (taskrunWaits kernel) :=
  ensures_modifyGet fun _ h => h.control

theorem keeps_drainCompletionsForTx :
    Keeps (Accounts submitted · [] hand) (drainCompletionsForTx kernel) := by
  refine (keeps_taskrunWaits kernel).bind fun _ => .ite ?_ (keeps_pure 0)
  exact (keeps_tryCall kernel []).bind fun _ => keeps_drainReadyCqesInline kernel

theorem keeps_taskrunPrefetch : Keeps (Accounts submitted · [] hand) (taskrunPrefetch kernel) := by
  refine (keeps_taskrunWaits kernel).bind fun waits => Keeps.bind keeps_get fun d => ?_
  refine .ite ?_ (keeps_pure false)
  refine (keeps_drainCompletionsForTx kernel).bind fun freed => .ite (keeps_pure false) ?_
  exact (keeps_submitPendingTx kernel).bind fun _ => keeps_pure true

theorem keeps_blockingWaits (waits : ℕ) :
    Keeps (Accounts submitted · [] hand) (blockingWaits kernel waits) := by
  induction waits with
  | zero => exact keeps_pure ()
  | succ waits ih =>
    refine Keeps.bind keeps_get fun d => .ite ?_ (keeps_pure ())
    refine (keeps_systemCall kernel).bind fun waited => ?_
    cases waited with
    | interrupted => exact ih
    | ok =>
      refine (keeps_drainReadyCqesInline kernel).bind fun freed => .ite ih ?_
      exact keeps_submitPendingTx kernel
    | timedOut => exact keeps_pure ()
    | failed => exact keeps_pure ()

theorem ensures_submitSends (packets : List TxDatagram) :
    Ensures (Accounts submitted · [] []) (submitSends kernel packets)
      (Accounts (submitted ++ packets.map TxDatagram.addressed) · [] []) := by
  refine Ensures.bind (ensures_modify fun _ h => h.offer packets) (fun _ => ?_) fun _ h => h
  refine (keeps_submitPendingTx kernel).bind fun _ => Keeps.bind keeps_get fun d => ?_
  refine .ite ?_ (keeps_pure ())
  refine (keeps_taskrunPrefetch kernel).bind fun madeProgress => .ite (keeps_pure ()) ?_
  exact keeps_blockingWaits kernel tier2BlockingWaitLimit

theorem ensures_submitSendsGso (packets : List TxDatagram) :
    Ensures (Accounts submitted · [] []) (submitSendsGso kernel packets)
      (Accounts (submitted ++ packets.map TxDatagram.addressed) · [] []) := by
  have hgroups := groups_groupForGso packets
  refine ensures_modify fun d h => Accounts.submitBatchesGso hgroups.holds ?_
  rw [hgroups.datagrams]
  exact h.handed _ _

theorem keeps_poll : Keeps (Accounts submitted · [] []) (poll kernel) := by
  have henable : Keeps (Accounts submitted · [] []) (enableOnFirstPoll kernel) :=
    Keeps.bind keeps_get fun _ => .ite (keeps_enableOnWorkerThread kernel) (keeps_pure ())
  refine henable.bind fun _ => (keeps_submitPendingTx kernel).bind fun _ => ?_
  refine (keeps_submitWakerRead kernel).bind fun _ => (keeps_tryCall kernel _).bind fun _ => ?_
  refine keeps_takeCompletions kernel fun cqes => ?_
  refine Ensures.bind (ensures_processCqes kernel cqes) (fun _ => ?_) fun _ h => h
  exact (keeps_rearm kernel).bind fun _ => keeps_submitPendingTx kernel

end Actions

section Run

variable {kernel : RingKernel} {submitted : List Addressed} {d : IoUringDriver}

theorem Accounts.step (h : d.Accounts submitted [] []) (op : Op) :
    (IoUringDriver.step kernel op d).Accounts (submitted ++ op.submitted) [] [] := by
  cases op with
  | submitSends packets => exact ensures_submitSends kernel packets d h
  | submitSendsGso packets => exact ensures_submitSendsGso kernel packets d h
  | poll =>
    rw [Op.submitted, List.append_nil]
    exact keeps_poll kernel d h

theorem Accounts.run (h : d.Accounts submitted [] []) (ops : List Op) :
    (Runs.run (IoUringDriver.step kernel) ops d).Accounts (submitted ++ ops.flatMap Op.submitted)
      [] [] := by
  induction ops generalizing submitted d with
  | nil => rwa [List.flatMap_nil, List.append_nil]
  | cons op ops ih =>
    rw [List.flatMap_cons, ← List.append_assoc]
    exact ih (h.step op)

end Run

end IoUringDriver

end Http3
