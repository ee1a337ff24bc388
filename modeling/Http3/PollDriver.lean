import Http3.Gso
import Http3.Lib.Runs
import Mathlib.Data.List.Perm.Basic

/-! The driver that sends through `sendmmsg` and `send_to`: what it keeps, what it gives
up, and what the kernel has reported as sent. -/

namespace Http3

/-- Why the kernel takes nothing. -/
inductive SendError
  | wouldBlock
  | emsgsize
  | other
  deriving DecidableEq, Repr

def shouldRequeueGsoSendError : SendError → Bool
  | .wouldBlock | .emsgsize => true
  | .other => false

/-- A call of the driver and its result. A message of `sendmmsg` may stand for several
datagrams. `permanent` tells whether the driver gives up on an error of the call. -/
inductive SendCall
  | sendmmsg (messages : List (List Addressed)) (permanent : SendError → Bool)
      (result : Except SendError ℕ)
  | sendTo (datagram : Addressed) (result : Except SendError Unit)

namespace SendCall

def sent : SendCall → List Addressed
  | .sendmmsg messages _ (.ok count) => (messages.take count).flatten
  | .sendTo datagram (.ok ()) => [datagram]
  | _ => []

/-- What is given up because of a permanent error. -/
def dropped : SendCall → List Addressed
  | .sendmmsg messages permanent (.error e) => if permanent e then messages.flatten else []
  | .sendTo datagram (.error e) => if e = .wouldBlock then [] else [datagram]
  | _ => []

end SendCall

/-- `calls` is not part of the program: the calls of the kernel so far. -/
structure PollDriver where
  gsoSupported : Bool
  unsent : List TxDatagram
  recycledTx : List Bytes
  calls : List SendCall

namespace PollDriver

def new (gsoSupported : Bool) : PollDriver := ⟨gsoSupported, [], [], []⟩

/-- How many messages went out, and whether the others are kept. -/
def outcome (requeues : SendError → Bool) : Except SendError ℕ → ℕ × Bool
  | .ok sent => (sent, true)
  | .error e => (0, requeues e)

/-- Go through the messages of a call from the one with index `i` on: buffers of messages
that went out or are given up are recycled, the others are kept. -/
def settle {α : Type} (buffer : α → Bytes) (requeue : List TxDatagram → α → List TxDatagram)
    (sentCount : ℕ) (requeueRemainder : Bool) : ℕ → List α → PollDriver → PollDriver
  | _, [], d => d
  | i, m :: messages, d =>
    settle buffer requeue sentCount requeueRemainder (i + 1) messages
      (if i < sentCount || !requeueRemainder then
        { d with recycledTx := d.recycledTx ++ [buffer m] }
      else { d with unsent := requeue d.unsent m })

/-- Keep a datagram; the size that was negotiated is forgotten. -/
def requeueDatagram (unsent : List TxDatagram) (pkt : TxDatagram) : List TxDatagram :=
  unsent ++ [{ pkt with maxSegmentSize := none }]

def sendBatchGso (result : Except SendError ℕ) (packets : List TxDatagram) (d : PollDriver) :
    PollDriver :=
  let batching := groupForGso packets
  let (sentCount, requeueRemainder) := outcome shouldRequeueGsoSendError result
  settle GsoBatch.data requeueGsoBatch sentCount requeueRemainder 0 batching.batches
    { d with
      recycledTx := d.recycledTx ++ batching.recycled
      calls := d.calls ++ [.sendmmsg (batching.batches.map GsoBatch.datagrams)
        (fun e => !shouldRequeueGsoSendError e) result] }

def sendBatch (result : Except SendError ℕ) (packets : List TxDatagram) (d : PollDriver) :
    PollDriver :=
  if d.gsoSupported && decide (1 < packets.length) then sendBatchGso result packets d
  else
    let (sentCount, requeueRemainder) := outcome (· == .wouldBlock) result
    settle TxDatagram.data requeueDatagram sentCount requeueRemainder 0 packets
      { d with calls := d.calls ++ [.sendmmsg (packets.map fun pkt => [pkt.addressed])
        (fun e => e != .wouldBlock) result] }

/-- Send what was kept one by one, with the result of each call, until one would block. -/
def drainLoop (results : ℕ → Except SendError Unit) : ℕ → List TxDatagram → PollDriver → PollDriver
  | _, [], d => { d with unsent := [] }
  | i, front :: rest, d =>
    let d := { d with calls := d.calls ++ [SendCall.sendTo front.addressed (results i)] }
    match results i with
    | .error .wouldBlock => { d with unsent := front :: rest }
    | .ok () | .error _ =>
      drainLoop results (i + 1) rest { d with recycledTx := d.recycledTx ++ [front.data] }

def drainUnsent (results : ℕ → Except SendError Unit) (d : PollDriver) : PollDriver :=
  drainLoop results 0 d.unsent d

inductive Op
  | sendBatch (result : Except SendError ℕ) (packets : List TxDatagram)
  | drainUnsent (results : ℕ → Except SendError Unit)

def step : Op → PollDriver → PollDriver
  | .sendBatch result packets, d => d.sendBatch result packets
  | .drainUnsent results, d => d.drainUnsent results

/-- The datagrams that a call hands to the driver. -/
def Op.submitted : Op → List Addressed
  | .sendBatch _ packets => packets.map TxDatagram.addressed
  | .drainUnsent _ => []

/-- What the kernel has reported as sent, over all calls. -/
def sent (d : PollDriver) : List Addressed := d.calls.flatMap SendCall.sent

def dropped (d : PollDriver) : List Addressed := d.calls.flatMap SendCall.dropped

def kept (d : PollDriver) : List Addressed := d.unsent.map TxDatagram.addressed

/-- Every datagram submitted is in one place, and those that are kept are in the order they
came in. -/
structure Conserves (submitted : List Addressed) (d : PollDriver) : Prop where
  places : submitted.Perm (d.sent ++ d.kept ++ d.dropped)
  ordered : d.kept.Sublist submitted

section Settle

variable {α : Type} {buffer : α → Bytes} {requeue : List TxDatagram → α → List TxDatagram}
  {datagrams : α → List Addressed} {sentCount : ℕ} {requeueRemainder : Bool}

theorem settle_calls (i : ℕ) (messages : List α) (d : PollDriver) :
    (settle buffer requeue sentCount requeueRemainder i messages d).calls = d.calls := by
  induction messages generalizing i d with
  | nil => rfl
  | cons m messages ih =>
    unfold settle
    rw [ih]
    split_ifs <;> rfl

theorem kept_settle
    (hrequeue : ∀ unsent m, (requeue unsent m).map TxDatagram.addressed =
      unsent.map TxDatagram.addressed ++ datagrams m) (i : ℕ) (messages : List α) (d : PollDriver) :
    (settle buffer requeue sentCount requeueRemainder i messages d).kept = d.kept ++
      if requeueRemainder then (messages.drop (sentCount - i)).flatMap datagrams else [] := by
  induction messages generalizing i d with
  | nil => simp [settle]
  | cons m messages ih =>
    unfold settle
    rw [ih]
    cases requeueRemainder with
    | false => simp [kept]
    | true =>
      by_cases hsent : i < sentCount
      · obtain ⟨n, hn⟩ : ∃ n, sentCount - i = n + 1 := ⟨sentCount - i - 1, by omega⟩
        have hnext : sentCount - (i + 1) = n := by omega
        simp [hsent, hn, hnext, kept]
      · have hdone : sentCount - i = 0 := by omega
        have hnext : sentCount - (i + 1) = 0 := by omega
        simp [hsent, hdone, hnext, kept, hrequeue]

end Settle

variable {submitted : List Addressed} {d d' : PollDriver}

/-- One call of `sendmmsg`: the messages up to the count it reports are sent, and the
others are kept or given up together. -/
theorem Conserves.call (h : d.Conserves submitted) {messages : List (List Addressed)}
    {requeues : SendError → Bool} {result : Except SendError ℕ}
    (hcalls : d'.calls = d.calls ++ [.sendmmsg messages (fun e => !requeues e) result])
    (hkept : d'.kept = d.kept ++ if (outcome requeues result).2 then
      (messages.drop (outcome requeues result).1).flatten else []) :
    d'.Conserves (submitted ++ messages.flatten) := by
  have hsent : d'.sent =
      d.sent ++ (SendCall.sendmmsg messages (fun e => !requeues e) result).sent := by
    simp [PollDriver.sent, hcalls]
  have hdropped : d'.dropped =
      d.dropped ++ (SendCall.sendmmsg messages (fun e => !requeues e) result).dropped := by
    simp [PollDriver.dropped, hcalls]
  -- places are compared datagram by datagram
  have hcount : ∀ x, submitted.count x = (d.sent ++ d.kept ++ d.dropped).count x :=
    List.perm_iff_count.1 h.places
  simp only [List.count_append] at hcount
  cases result with
  | ok count =>
    have hflatten : messages.flatten =
        (messages.take count).flatten ++ (messages.drop count).flatten := by
      rw [← List.flatten_append, List.take_append_drop]
    simp only [SendCall.sent, SendCall.dropped, outcome, if_true,
      List.append_nil] at hsent hdropped hkept
    constructor
    · rw [hsent, hdropped, hkept, hflatten, List.perm_iff_count]
      intro x
      simp only [List.count_append, hcount x]
      omega
    · rw [hkept, hflatten]
      exact h.ordered.append (List.sublist_append_right _ _)
  | error e =>
    simp only [SendCall.sent, SendCall.dropped, outcome, List.append_nil] at hsent hdropped hkept
    cases hrequeues : requeues e with
    | true =>
      simp only [hrequeues, Bool.not_true, Bool.false_eq_true, if_true, if_false, List.append_nil,
        List.drop_zero] at hdropped hkept
      constructor
      · rw [hsent, hdropped, hkept, List.perm_iff_count]
        intro x
        simp only [List.count_append, hcount x]
        omega
      · rw [hkept]
        exact h.ordered.append (.refl _)
    | false =>
      simp only [hrequeues, Bool.not_false, if_true, Bool.false_eq_true, if_false,
        List.append_nil] at hdropped hkept
      constructor
      · rw [hsent, hdropped, hkept, ← List.append_assoc]
        exact h.places.append_right _
      · rw [hkept]
        exact h.ordered.trans (List.sublist_append_left _ _)

theorem Conserves.settled {α : Type} {buffer : α → Bytes}
    {requeue : List TxDatagram → α → List TxDatagram} {datagrams : α → List Addressed}
    (hrequeue : ∀ unsent m, (requeue unsent m).map TxDatagram.addressed =
      unsent.map TxDatagram.addressed ++ datagrams m)
    (h : d.Conserves submitted) {messages : List α} {requeues : SendError → Bool}
    {result : Except SendError ℕ} (hunsent : d'.unsent = d.unsent)
    (hcalls : d'.calls =
      d.calls ++ [.sendmmsg (messages.map datagrams) (fun e => !requeues e) result]) :
    (settle buffer requeue (outcome requeues result).1 (outcome requeues result).2 0 messages
      d').Conserves (submitted ++ messages.flatMap datagrams) := by
  rw [List.flatMap_def]
  apply h.call
  · rw [settle_calls, hcalls]
  · rw [kept_settle hrequeue, Nat.sub_zero, kept, hunsent, ← List.map_drop, ← List.flatMap_def]
    rfl

theorem Conserves.sendBatch (h : d.Conserves submitted) (result : Except SendError ℕ)
    (packets : List TxDatagram) :
    (d.sendBatch result packets).Conserves (submitted ++ packets.map TxDatagram.addressed) := by
  unfold PollDriver.sendBatch
  split_ifs
  · rw [← (groups_groupForGso packets).datagrams]
    exact h.settled addressed_requeueGsoBatch rfl rfl
  · have hrequeue : ∀ unsent (pkt : TxDatagram),
        (requeueDatagram unsent pkt).map TxDatagram.addressed =
          unsent.map TxDatagram.addressed ++ [pkt.addressed] := by
      intro unsent pkt
      rw [requeueDatagram, List.map_append]
      rfl
    rw [List.map_eq_flatMap]
    exact h.settled hrequeue rfl rfl

theorem Conserves.popped (h : d.Conserves submitted) {front : TxDatagram} {rest : List TxDatagram}
    {call : SendCall} (hunsent : d.unsent = front :: rest)
    (hcall : call.sent ++ call.dropped = [front.addressed])
    (hcalls : d'.calls = d.calls ++ [call]) (hunsent' : d'.unsent = rest) :
    d'.Conserves submitted := by
  have hkept : d.kept = front.addressed :: d'.kept := by
    rw [kept, hunsent, List.map_cons, kept, hunsent']
  constructor
  · rw [List.perm_iff_count]
    intro x
    have hplaces := List.perm_iff_count.1 h.places x
    have hone : (call.sent ++ call.dropped).count x = [front.addressed].count x := by rw [hcall]
    rw [hkept] at hplaces
    simp only [sent, dropped, hcalls, List.flatMap_append, List.flatMap_singleton,
      List.count_append, List.count_cons, List.count_nil] at hplaces hone ⊢
    omega
  · have hordered := h.ordered
    rw [hkept] at hordered
    exact (List.sublist_cons_self _ _).trans hordered

theorem Conserves.drainLoop (results : ℕ → Except SendError Unit) (i : ℕ) (unsent : List TxDatagram)
    (d : PollDriver) (h : { d with unsent := unsent }.Conserves submitted) :
    (PollDriver.drainLoop results i unsent d).Conserves submitted := by
  induction unsent generalizing i d with
  | nil => exact h
  | cons front rest ih =>
    unfold PollDriver.drainLoop
    dsimp only
    split
    case _ hblocked =>
      -- the datagram that would block is kept, and nothing has moved
      rw [hblocked]
      have hsame : ∀ (f : SendCall → List Addressed),
          f (.sendTo front.addressed (.error .wouldBlock)) = [] →
          (d.calls ++ [SendCall.sendTo front.addressed (.error .wouldBlock)]).flatMap f =
            d.calls.flatMap f := by
        intro f hf
        simp [hf]
      constructor
      · simpa only [sent, dropped, kept, hsame SendCall.sent rfl, hsame SendCall.dropped rfl] using
          h.places
      · exact h.ordered
    case _ hsent =>
      exact ih _ _ (h.popped rfl (by rw [hsent]; rfl) rfl rfl)
    case _ e hnever hgone =>
      refine ih _ _ (h.popped rfl ?_ rfl rfl)
      have hpermanent : e ≠ .wouldBlock := by
        rintro rfl
        exact hnever rfl
      rw [hgone]
      simp [SendCall.sent, SendCall.dropped, hpermanent]

theorem Conserves.step (h : d.Conserves submitted) (op : Op) :
    (d.step op).Conserves (submitted ++ op.submitted) := by
  cases op with
  | sendBatch result packets => exact h.sendBatch result packets
  | drainUnsent results =>
    rw [Op.submitted, List.append_nil]
    exact Conserves.drainLoop results 0 d.unsent d h

theorem Conserves.run (h : d.Conserves submitted) (ops : List Op) :
    (Runs.run PollDriver.step ops d).Conserves (submitted ++ ops.flatMap Op.submitted) := by
  induction ops generalizing submitted d with
  | nil => rwa [List.flatMap_nil, List.append_nil]
  | cons op ops ih =>
    rw [List.flatMap_cons, ← List.append_assoc]
    exact ih (h.step op)

def datagram (byte : UInt8) : TxDatagram := .fromPayload [byte] ⟨"192.0.2.1", 443⟩ none

end PollDriver

end Http3
