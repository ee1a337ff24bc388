import Http3.ServerStream

/-! What a stream offers to the loop below it, and what its writable is owed. -/

namespace Http3

/-- One call of `streamSend` and its answer. -/
structure Offer where
  data : Bytes
  fin : Bool
  answer : Except JsError ℕ

namespace Offer

/-- The slice was admitted whole. A FIN without data counts as admitted only
when something was. -/
def accepted (o : Offer) : Bool :=
  match o.answer with
  | .error _ => false
  | .ok written =>
    if o.data.isEmpty && o.fin then decide (0 < written) else decide (o.data.length ≤ written)

/-- The slice keeps to the limit of the loop; a limit of zero is none. -/
def Within (limit : Option ℕ) (o : Offer) : Prop :=
  ∀ n ∈ limit, n ≠ 0 → o.data.length ≤ n

end Offer

/-- Bytes that were admitted, in the order they were offered. -/
def acceptedBytes (offers : List Offer) : Bytes :=
  (offers.filter Offer.accepted).flatMap Offer.data

@[simp] theorem acceptedBytes_append (offers more : List Offer) :
    acceptedBytes (offers ++ more) = acceptedBytes offers ++ acceptedBytes more := by
  simp [acceptedBytes]

theorem acceptedBytes_singleton (o : Offer) :
    acceptedBytes [o] = if o.accepted then o.data else [] := by
  cases h : o.accepted with
  | true => simp [acceptedBytes, h]
  | false => simp [acceptedBytes, h]

/-- What was offered for `written`: the bytes admitted begin it, the FIN comes
last and only behind all of it, and no slice exceeds the limit. -/
structure Orderly (limit : Option ℕ) (offers : List Offer) (written : Bytes) : Prop where
  inOrder : acceptedBytes offers <+: written
  finLast : (offers.filter Offer.accepted).Pairwise fun a _ => a.fin = false
  finWhole : (∃ o ∈ offers, o.accepted = true ∧ o.fin = true) → acceptedBytes offers = written
  within : ∀ o ∈ offers, o.Within limit

/-- A loop with a record of what it was offered. -/
structure Recorded (L : Type) where
  loop : L
  offers : List Offer

instance {L : Type} [ServerEventLoopLike L] : ServerEventLoopLike (Recorded L) where
  maxStreamSendBytes r := ServerEventLoopLike.maxStreamSendBytes r.loop
  sendResponseHeaders ref headers fin r :=
    let (answer, loop) := ServerEventLoopLike.sendResponseHeaders ref headers fin r.loop
    (answer, { r with loop })
  sendResponse ref headers data fin r :=
    let (answer, loop) := ServerEventLoopLike.sendResponse ref headers data fin r.loop
    (answer, { r with loop })
  streamSend ref data fin r :=
    let (answer, loop) := ServerEventLoopLike.streamSend ref data fin r.loop
    (answer, ⟨loop, r.offers ++ [⟨data, fin, answer⟩]⟩)
  streamClose ref errorCode r :=
    { r with loop := ServerEventLoopLike.streamClose ref errorCode r.loop }
  sendTrailers ref headers r :=
    let (answer, loop) := ServerEventLoopLike.sendTrailers ref headers r.loop
    (answer, { r with loop })

/-- A loop that admits a slice whole or not at all, and whose limit is fixed. -/
structure WholeOrNothing (L : Type) [ServerEventLoopLike L] : Prop where
  answer : ∀ ref data fin (loop : L) written,
    (ServerEventLoopLike.streamSend ref data fin loop).1 = .ok written →
      written = 0 ∨ data.length ≤ written
  streamSend_limit : ∀ ref data fin (loop : L),
    ServerEventLoopLike.maxStreamSendBytes (ServerEventLoopLike.streamSend ref data fin loop).2 =
      ServerEventLoopLike.maxStreamSendBytes loop
  streamClose_limit : ∀ ref errorCode (loop : L),
    ServerEventLoopLike.maxStreamSendBytes (ServerEventLoopLike.streamClose ref errorCode loop) =
      ServerEventLoopLike.maxStreamSendBytes loop

/-- Where the calls of a writable stand: the kind of the call that is not called
back yet, and whether the stream is over. -/
structure CallState where
  outstanding : Option Bool
  ended : Bool
  deriving DecidableEq, Repr

/-- There is one call at a time, each is called back once, and a stream that is
over gets no new call and calls back with an error. -/
def CallState.next (c : CallState) : CallRecord → Option CallState
  | .called fin =>
    if c.outstanding = none ∧ c.ended = false then some { c with outstanding := some fin } else none
  | .calledBack fin error =>
    if c.outstanding = some fin ∧ (c.ended = true → error.isSome) then
      some { c with outstanding := none }
    else none
  | .destroyed => if c.ended then none else some { c with ended := true }

def callState (calls : List CallRecord) : Option CallState :=
  calls.foldlM CallState.next ⟨none, false⟩

@[simp] theorem callState_append_singleton (calls : List CallRecord) (entry : CallRecord) :
    callState (calls ++ [entry]) = (callState calls).bind fun c => c.next entry := by
  simp [callState, List.foldlM_append]

def CallRecord.isCallBack (fin : Bool) : CallRecord → Bool
  | .calledBack fin' _ => fin' = fin
  | _ => false

theorem count_called_of_callState {calls : List CallRecord} {c : CallState}
    (h : callState calls = some c) (fin : Bool) :
    calls.count (.called fin) =
      calls.countP (CallRecord.isCallBack fin) + if c.outstanding = some fin then 1 else 0 := by
  induction calls using List.reverseRecOn generalizing c with
  | nil =>
    cases h
    rfl
  | append_singleton calls entry ih =>
    rw [callState_append_singleton] at h
    obtain ⟨before, hbefore, hnext⟩ := Option.bind_eq_some_iff.1 h
    have ih := ih hbefore
    rw [List.count_append, List.countP_append, ih]
    obtain ⟨outstanding, ended⟩ := before
    cases entry with
    | destroyed =>
      simp only [CallState.next] at hnext
      split_ifs at hnext
      cases hnext
      simp [CallRecord.isCallBack]
    | called made =>
      simp only [CallState.next] at hnext
      split_ifs at hnext with hfree
      cases hnext
      obtain ⟨hnone, -⟩ := hfree
      rw [hnone]
      simp [CallRecord.isCallBack, List.count_singleton]
    | calledBack back error =>
      simp only [CallState.next] at hnext
      split_ifs at hnext with hout
      cases hnext
      obtain ⟨hsome, -⟩ := hout
      rw [hsome]
      simp [CallRecord.isCallBack, List.countP_singleton]

end Http3
