import Http3.H3Server.Worker
import Http3.H3ConnectionSpec
import Http3.Scripted

/-! Body sends through the wasm interface of the HTTP/3 server. The answer tells who owns the
bytes afterwards: the caller, or the server and its transport. -/

namespace Http3

def errAgain : ℤ := -1
def errProtocol : ℤ := -2
def errInvalidHandle : ℤ := -3
def errMemory : ℤ := -5

def requestedUnits (len : ℕ) (fin : Bool) : ℕ := if len = 0 ∧ fin then 1 else len

theorem requestedUnits_eq (len : ℕ) (fin : Bool) :
    requestedUnits len fin = outboundPayloadUnits len fin := by
  unfold requestedUnits outboundPayloadUnits
  cases fin <;> simp
  split_ifs <;> omega

def classifySendOutcome (events : List JsH3Event) (len : ℕ) (fin : Bool) (released : ℕ)
    (retained : Bool) : ℤ :=
  if events.any fun e => e.eventType == .error then errProtocol
  else if retained || released == requestedUnits len fin then requestedUnits len fin
  else errAgain

namespace H3Server

variable {Q : Type} [Quiche Q]

/-- Queue body bytes and perhaps a FIN; the units given back include bytes dropped on an error. -/
def queueStreamSend (connHandle : UInt32) (streamId : ℕ) (chunk : Bytes) (fin : Bool)
    (s : H3Server Q) : ℕ × H3Server Q :=
  match s.pendingResponses.lookup (connHandle, streamId) with
  | some response =>
    (0, s.insertPendingResponse (connHandle, streamId) (response.pushBodyChunk chunk fin))
  | none =>
    match s.pendingWrites.lookup (connHandle, streamId) with
    | some write => (0, s.insertPendingWrite (connHandle, streamId) (write.merge chunk fin))
    | none =>
      match s.conn? connHandle with
      | none => (0, s)
      | some conn =>
        let (result, conn) := conn.sendBodyArcbuf streamId chunk fin
        let s := s.setConn connHandle conn
        match result with
        | .ok outcome =>
          let released := acceptedOutboundPayloadUnits chunk.length fin outcome.written
            outcome.finAccepted
          match outcome.remainder with
          | some remainder =>
            (released, (s.insertPendingWrite (connHandle, streamId) (.new remainder fin)).emit
              (refOf connHandle conn) (.streamBlocked (s.handleOffset ||| connHandle) streamId))
          | none => (released, s)
        | .error e =>
          (outboundPayloadUnits chunk.length fin,
            s.emitH3SendErrorAndReset connHandle conn streamId "stream send" e)

def hasPendingStreamWrite (connHandle : UInt32) (streamId : ℕ) (s : H3Server Q) : Bool :=
  (s.pendingWrites.lookup (connHandle, streamId)).isSome ||
    (s.pendingResponses.lookup (connHandle, streamId)).isSome

/-- The exported call. There is no payload if it could not be copied, and no session if the
handle is not one of a live session. -/
def hsStreamSend (connHandle : UInt32) (streamId : ℕ) (payload : Option Bytes) (fin : Bool)
    (session : Option (H3Server Q)) : ℤ × Option (H3Server Q) :=
  match payload, session with
  | none, session => (errMemory, session)
  | some _, none => (errInvalidHandle, none)
  | some data, some s =>
    let (released, s') := s.queueStreamSend connHandle streamId data fin
    (classifySendOutcome ((s'.batch.drop s.batch.length).map Emitted.event) data.length fin released
      (s'.hasPendingStreamWrite connHandle streamId), some s')

/-- The exported call for response headers; headers that wait for capacity are kept. -/
def hsSendResponseHeaders (connHandle : UInt32) (streamId : ℕ) (headers : Headers) (fin : Bool)
    (session : Option (H3Server Q)) : ℤ × Option (H3Server Q) :=
  match session with
  | none => (errInvalidHandle, none)
  | some s =>
    match s.conn? connHandle with
    | none => (errProtocol, some s)
    | some conn =>
      let (result, conn) := conn.sendResponse streamId headers fin
      let s := s.setConn connHandle conn
      match result with
      | .ok _ => (0, some s)
      | .error e =>
        if isH3StreamBlocked e then
          (errAgain, some ((s.insertPendingResponse (connHandle, streamId)
            (.headersOnly headers fin)).emit (refOf connHandle conn)
              (.streamBlocked (s.handleOffset ||| connHandle) streamId)))
        else
          (errProtocol,
            some (s.emitH3SendErrorAndReset connHandle conn streamId "send_response_headers" e))

end H3Server

/-- Who holds what was sent on a stream: what quiche accepted, and the bytes and the FIN that
are kept for it. -/
structure StreamBooks where
  sent : List Item
  retained : Option (Bytes × Bool)
  deriving DecidableEq

namespace StreamBooks

/-- What the kept bytes and FIN ask quiche to accept. -/
def items (b : StreamBooks) : List Item := b.retained.elim [] fun kept => bodyItems kept.1 kept.2

/-- A payload changed hands: behind what was kept already, or else to quiche as far as it accepts
it and the rest to be kept. `finOut` tells that the FIN went out with the trailers before. -/
def Took (b b' : StreamBooks) (data : Bytes) (fin finOut : Bool) : Prop :=
  match b.retained with
  | some (bytes, _) => b'.sent = b.sent ∧
      ∃ kept, b'.retained = some (bytes ++ data, kept) ∧ (fin = true → kept = true)
  | none => b'.sent ++ b'.items = b.sent ++ bodyItems data fin ∨
      data = [] ∧ fin = true ∧ finOut = true ∧ b' = b

end StreamBooks

def PendingResponse.kept (r : PendingResponse) : Bytes × Bool :=
  (r.body.elim [] fun write => write.chunks.flatten, r.body.elim r.headersFin PendingWrite.fin)

namespace H3Server

variable {Q : Type}

/-- The bytes and the FIN of a stream's pending write. -/
def writeKept (s : H3Server Q) (key : StreamKey) : Bytes × Bool :=
  (s.pendingWrites.lookup key).elim ([], false) fun write => (write.chunks.flatten, write.fin)

/-- What is kept for a stream, in the order of the flush: a response whose headers wait, and then
the pending write. -/
def retained (s : H3Server Q) (key : StreamKey) : Option (Bytes × Bool) :=
  match s.pendingResponses.lookup key with
  | some response =>
    some (response.kept.1 ++ (s.writeKept key).1, response.kept.2 || (s.writeKept key).2)
  | none => (s.pendingWrites.lookup key).map fun _ => s.writeKept key

/-- No bytes are kept in a write beside a response whose headers wait. -/
def KeptApart (s : H3Server Q) (key : StreamKey) : Prop :=
  (s.pendingResponses.lookup key).isSome → (s.writeKept key).1 = []

def streamBooks (s : H3Server Q) (key : StreamKey) : StreamBooks where
  sent := (s.conn? key.1).elim [] fun c => c.sentOn key.2
  retained := s.retained key

/-- The FIN of a stream went out with its trailers. -/
def finOut (s : H3Server Q) (key : StreamKey) : Bool :=
  (s.conn? key.1).elim false fun c => decide (key.2 ∈ c.trailerFinStreams)

end H3Server

@[simp] theorem PendingWrite.flatten_merge (write : PendingWrite) (chunk : Bytes) (fin : Bool) :
    (write.merge chunk fin).chunks.flatten = write.chunks.flatten ++ chunk := by
  have hpush : (write.pushChunk chunk).chunks.flatten = write.chunks.flatten ++ chunk := by
    unfold PendingWrite.pushChunk
    split_ifs with hlen
    · simp
    · have hnil : chunk = [] := List.length_eq_zero_iff.1 (Nat.eq_zero_of_not_pos hlen)
      simp [hnil]
  cases fin <;> exact hpush

theorem PendingResponse.kept_pushBodyChunk (r : PendingResponse) (chunk : Bytes) (fin : Bool) :
    ∃ kept, (r.pushBodyChunk chunk fin).kept = (r.kept.1 ++ chunk, kept) ∧
      (fin = true → kept = true) := by
  unfold pushBodyChunk PendingResponse.kept
  cases r.body with
  | none => exact ⟨fin, by simp [PendingWrite.new], fun h => h⟩
  | some write => exact ⟨write.fin || fin, by simp, fun h => by simp [h]⟩

theorem bodyItems_take_drop (data : Bytes) (written : ℕ) (fin : Bool) :
    bodyItems (data.take written) false ++ bodyItems (data.drop written) fin =
      bodyItems data fin := by
  simp only [bodyItems, Bool.false_eq_true, if_false, List.append_nil, ← List.append_assoc,
    ← List.map_append, List.take_append_drop]

namespace H3Connection

variable {Q : Type} {c c' : H3Connection Q} {streamId : ℕ}

theorem sentOn_of_append {items : List Item}
    (h : c'.sent = c.sent ++ items.map fun item => (streamId, item)) :
    c'.sentOn streamId = c.sentOn streamId ++ items := by
  simp [sentOn, h, List.filter_append, List.filter_map, Function.comp_def]

theorem sentOn_of_append_of_ne {items : List Item} {id : ℕ} (hne : id ≠ streamId)
    (h : c'.sent = c.sent ++ items.map fun item => (streamId, item)) :
    c'.sentOn id = c.sentOn id := by
  simp [sentOn, h, List.filter_append, hne.symm]

end H3Connection

namespace H3Server

variable {Q : Type} {s : H3Server Q} {key : StreamKey}

theorem conn?_setConn {connHandle : UInt32} {c : H3Connection Q} (hc : s.conn? connHandle = some c)
    (c' : H3Connection Q) (k : UInt32) :
    (s.setConn connHandle c').conn? k = if k = connHandle then some c' else s.conn? k := by
  have hget : (s.connMap.set connHandle.toNat c').get k.toNat = _ := ConnectionMap.get_set _
  have hsome : (s.connMap.get connHandle.toNat).isSome := by
    have hc' : s.connMap.get connHandle.toNat = some c := hc
    rw [hc']
    rfl
  refine hget.trans ?_
  by_cases hk : k = connHandle
  · rw [if_pos hk, if_pos ⟨congrArg UInt32.toNat hk, hsome⟩]
  · rw [if_neg hk, if_neg fun h => hk (UInt32.toNat_inj.1 h.1)]
    rfl

theorem streamBooks_setConn {connHandle : UInt32} {streamId : ℕ} {c c' : H3Connection Q}
    {items : List Item} (hc : s.conn? connHandle = some c)
    (hsent : c'.sent = c.sent ++ items.map fun item => (streamId, item)) (key : StreamKey) :
    (s.setConn connHandle c').streamBooks key =
      { s.streamBooks key with
        sent := if key = (connHandle, streamId) then (s.streamBooks key).sent ++ items
          else (s.streamBooks key).sent } := by
  obtain ⟨k, id⟩ := key
  have hretained : (s.setConn connHandle c').retained (k, id) = s.retained (k, id) := rfl
  unfold streamBooks
  rw [hretained, conn?_setConn hc]
  by_cases hk : k = connHandle
  · subst hk
    by_cases hid : id = streamId
    · subst hid
      simp [hc, H3Connection.sentOn_of_append hsent]
    · simp [hc, H3Connection.sentOn_of_append_of_ne hid hsent, hid]
  · simp [hk]

theorem streamBooks_setConn_of_sent {connHandle : UInt32} {c c' : H3Connection Q}
    (hc : s.conn? connHandle = some c) (hsent : c'.sent = c.sent) (key : StreamKey) :
    (s.setConn connHandle c').streamBooks key = s.streamBooks key := by
  have hnone : c'.sent = c.sent ++ ([] : List Item).map fun item => (0, item) := by
    rw [hsent, List.map_nil, List.append_nil]
  rw [streamBooks_setConn hc hnone, List.append_nil, ite_self]

theorem streamBooks_insertPendingWrite (write : PendingWrite)
    (hnone : s.pendingResponses.lookup key = none) (key' : StreamKey) :
    (s.insertPendingWrite key write).streamBooks key' =
      if key' = key then
        { s.streamBooks key' with retained := some (write.chunks.flatten, write.fin) }
      else s.streamBooks key' := by
  unfold streamBooks retained writeKept insertPendingWrite
  by_cases hkey : key' = key
  · subst hkey
    simp [hnone, AList.lookup_insert, conn?]
  · simp [hkey, AList.lookup_insert_ne hkey, conn?]

theorem streamBooks_insertPendingResponse (response : PendingResponse) (key' : StreamKey) :
    (s.insertPendingResponse key response).streamBooks key' =
      if key' = key then
        { s.streamBooks key' with retained := some (response.kept.1 ++ (s.writeKept key').1,
          response.kept.2 || (s.writeKept key').2) }
      else s.streamBooks key' := by
  unfold streamBooks retained writeKept insertPendingResponse
  by_cases hkey : key' = key
  · subst hkey
    simp [AList.lookup_insert, conn?]
  · simp [hkey, AList.lookup_insert_ne hkey, conn?]

/-- The answer to a send, from the state before and after it. -/
def sendCode (connHandle : UInt32) (streamId : ℕ) (data : Bytes) (fin : Bool) (s : H3Server Q)
    (r : ℕ × H3Server Q) : ℤ :=
  classifySendOutcome ((r.2.batch.drop s.batch.length).map Emitted.event) data.length fin r.1
    (r.2.hasPendingStreamWrite connHandle streamId)

/-- What a send can do: it takes the payload and answers with all its units, or it takes nothing
and answers with an error. Other streams are left alone. -/
structure SendSpec (connHandle : UInt32) (streamId : ℕ) (data : Bytes) (fin : Bool) (s : H3Server Q)
    (r : ℕ × H3Server Q) : Prop where
  others : ∀ key, key ≠ (connHandle, streamId) → r.2.streamBooks key = s.streamBooks key
  taken : sendCode connHandle streamId data fin s r = requestedUnits data.length fin ∧
        (s.streamBooks (connHandle, streamId)).Took
          (r.2.streamBooks (connHandle, streamId)) data fin
          (s.finOut (connHandle, streamId)) ∨
      sendCode connHandle streamId data fin s r < 0 ∧
        r.2.streamBooks (connHandle, streamId) = s.streamBooks (connHandle, streamId)

variable {connHandle : UInt32} {streamId : ℕ} {data : Bytes} {fin : Bool}

theorem sendCode_of_quiet {r : ℕ × H3Server Q} (added : List Emitted)
    (hbatch : r.2.batch = s.batch ++ added)
    (hquiet : ∀ e ∈ added, e.event.eventType ≠ .error)
    (howned : r.2.hasPendingStreamWrite connHandle streamId = true ∨
      r.1 = requestedUnits data.length fin) :
    sendCode connHandle streamId data fin s r = requestedUnits data.length fin := by
  have hnone : ((added.map Emitted.event).any fun e => e.eventType == .error) = false := by
    simpa using hquiet
  have hif : (r.2.hasPendingStreamWrite connHandle streamId ||
      r.1 == requestedUnits data.length fin) = true := by
    rcases howned with hretained | hreleased
    · simp [hretained]
    · simp [hreleased]
  unfold sendCode classifySendOutcome
  rw [hbatch, List.drop_left, hnone, hif]
  rfl

/-- A payload goes behind the body of a response, so in front of a write beside it. -/
theorem queueStreamSend_of_response [Quiche Q] {response : PendingResponse}
    (h : s.pendingResponses.lookup (connHandle, streamId) = some response)
    (hapart : (s.writeKept (connHandle, streamId)).1 = []) :
    SendSpec connHandle streamId data fin s (s.queueStreamSend connHandle streamId data fin) := by
  obtain ⟨kept, hkept, hfin⟩ := response.kept_pushBodyChunk data fin
  have hretained : (s.streamBooks (connHandle, streamId)).retained = some (response.kept.1,
      response.kept.2 || (s.writeKept (connHandle, streamId)).2) := by
    simp [streamBooks, retained, h, hapart]
  unfold queueStreamSend
  rw [h]
  dsimp only
  constructor
  · intro key hkey
    rw [streamBooks_insertPendingResponse, if_neg hkey]
  · left
    constructor
    · apply sendCode_of_quiet [] (List.append_nil s.batch).symm (by simp)
      left
      simp [hasPendingStreamWrite, insertPendingResponse, AList.lookup_insert]
    · rw [streamBooks_insertPendingResponse, if_pos rfl]
      unfold StreamBooks.Took
      rw [hretained, hkept, hapart]
      exact ⟨rfl, kept || (s.writeKept (connHandle, streamId)).2, by simp,
        fun h => by simp [hfin h]⟩

theorem queueStreamSend_of_write [Quiche Q] {write : PendingWrite}
    (hnone : s.pendingResponses.lookup (connHandle, streamId) = none)
    (h : s.pendingWrites.lookup (connHandle, streamId) = some write) :
    SendSpec connHandle streamId data fin s (s.queueStreamSend connHandle streamId data fin) := by
  have hretained : (s.streamBooks (connHandle, streamId)).retained =
      some (write.chunks.flatten, write.fin) := by
    simp [streamBooks, retained, writeKept, hnone, h]
  unfold queueStreamSend
  rw [hnone, h]
  dsimp only
  constructor
  · intro key hkey
    rw [streamBooks_insertPendingWrite _ hnone, if_neg hkey]
  · left
    constructor
    · apply sendCode_of_quiet [] (List.append_nil s.batch).symm (by simp)
      left
      simp [hasPendingStreamWrite, insertPendingWrite, AList.lookup_insert]
    · rw [streamBooks_insertPendingWrite _ hnone, if_pos rfl]
      unfold StreamBooks.Took
      rw [hretained]
      exact ⟨rfl, write.fin || fin, by simp, fun hfin => by simp [hfin]⟩

section Unkept

variable [Quiche Q] (hresponse : s.pendingResponses.lookup (connHandle, streamId) = none)
  (hwrite : s.pendingWrites.lookup (connHandle, streamId) = none)

include hresponse hwrite

omit [Quiche Q] in
theorem streamBooks_retained_eq_none : (s.streamBooks (connHandle, streamId)).retained = none := by
  simp [streamBooks, retained, hresponse, hwrite]

theorem queueStreamSend_of_none (hconn : s.conn? connHandle = none) :
    SendSpec connHandle streamId data fin s (s.queueStreamSend connHandle streamId data fin) := by
  have hresult : s.queueStreamSend connHandle streamId data fin = (0, s) := by
    unfold queueStreamSend
    rw [hresponse, hwrite, hconn]
  rw [hresult]
  constructor
  · exact fun _ _ => rfl
  · by_cases hzero : requestedUnits data.length fin = 0
    · left
      constructor
      · exact sendCode_of_quiet [] (List.append_nil s.batch).symm (by simp) (.inr hzero.symm)
      · have hempty : bodyItems data fin = [] := by
          unfold requestedUnits at hzero
          split_ifs at hzero with hbare
          · have hnil : data = [] := List.length_eq_zero_iff.1 hzero
            have hfin : fin = false := by simpa [hnil] using hbare
            simp [bodyItems, hnil, hfin]
        unfold StreamBooks.Took
        rw [streamBooks_retained_eq_none hresponse hwrite]
        left
        rw [hempty, StreamBooks.items, streamBooks_retained_eq_none hresponse hwrite]
        rfl
    · right
      constructor
      · have hpending : s.hasPendingStreamWrite connHandle streamId = false := by
          simp [hasPendingStreamWrite, hresponse, hwrite]
        simp [sendCode, classifySendOutcome, hpending, Ne.symm hzero, errAgain]
      · rfl

variable {c c' : H3Connection Q} (hconn : s.conn? connHandle = some c)

include hconn

/-- A send that fails takes nothing, and says so. -/
theorem queueStreamSend_of_error {e : Http3NativeError}
    (hsend : c.sendBodyArcbuf streamId data fin = (.error e, c'))
    (hunsent : c'.sent = c.sent) :
    SendSpec connHandle streamId data fin s (s.queueStreamSend connHandle streamId data fin) := by
  have hresult : s.queueStreamSend connHandle streamId data fin =
      (outboundPayloadUnits data.length fin,
        (s.setConn connHandle c').emitH3SendErrorAndReset connHandle c' streamId
          "stream send" e) := by
    unfold queueStreamSend
    rw [hresponse, hwrite, hconn]
    dsimp only
    rw [hsend]
  have hsame : ∀ key, ((s.setConn connHandle c').emitH3SendErrorAndReset connHandle c' streamId
      "stream send" e).streamBooks key = s.streamBooks key := by
    intro key
    have hset : ∀ ref event,
        ((s.setConn connHandle c').emit ref event).conn? connHandle = some c' := by
      intro ref event
      exact (conn?_setConn hconn c' connHandle).trans (if_pos rfl)
    have hclosed : (c'.streamClose streamId h3InternalError).sent = c'.sent := rfl
    exact (streamBooks_setConn_of_sent (hset _ _) hclosed key).trans
      (streamBooks_setConn_of_sent hconn hunsent key)
  rw [hresult]
  constructor
  · exact fun key _ => hsame key
  · right
    constructor
    · have hbatch : ((s.setConn connHandle c').emitH3SendErrorAndReset connHandle c' streamId
          "stream send" e).batch = s.batch ++ [⟨some (refOf connHandle c'), .error
            (s.handleOffset ||| connHandle) streamId 0 s!"stream send failed: {e.display}"⟩] := rfl
      unfold sendCode classifySendOutcome
      rw [hbatch, List.drop_left]
      simp [JsH3Event.error, errProtocol]
    · exact hsame _

/-- Whatever quiche accepts of a payload, the rest is kept. -/
theorem queueStreamSend_of_ok {outcome : SendOutcome}
    (hsend : c.sendBodyArcbuf streamId data fin = (.ok outcome, c')) {items : List Item}
    (hsent : c'.sent = c.sent ++ items.map fun item => (streamId, item))
    (htook : items ++ outcome.remainder.elim [] (fun rest => bodyItems rest fin) =
        bodyItems data fin ∨
      data = [] ∧ fin = true ∧ streamId ∈ c.trailerFinStreams ∧ items = [] ∧
        outcome.remainder = none) :
    SendSpec connHandle streamId data fin s (s.queueStreamSend connHandle streamId data fin) := by
  have hunits := (c.sendBodyArcbuf_fits streamId hsend).units
  have hkept := streamBooks_retained_eq_none hresponse hwrite
  have hbooks := streamBooks_setConn hconn hsent
  have hnone : (s.setConn connHandle c').pendingResponses.lookup (connHandle, streamId) = none :=
    hresponse
  unfold queueStreamSend
  rw [hresponse, hwrite, hconn]
  dsimp only
  rw [hsend]
  dsimp only
  cases hrest : outcome.remainder with
  | none =>
    dsimp only
    constructor
    · intro key hkey
      rw [hbooks, if_neg hkey]
    · left
      constructor
      · apply sendCode_of_quiet [] (List.append_nil s.batch).symm (by simp)
        right
        rw [requestedUnits_eq, ← hunits, SendOutcome.owedUnits, hrest, Nat.add_zero]
      · unfold StreamBooks.Took
        rw [hkept, hbooks, if_pos rfl]
        rcases htook with hitems | ⟨hdata, hfin, htrailers, hitems, -⟩
        · left
          rw [hrest, Option.elim_none, List.append_nil] at hitems
          simp [StreamBooks.items, hkept, hitems]
        · right
          refine ⟨hdata, hfin, ?_, ?_⟩
          · simp [finOut, hconn, htrailers]
          · simp [hitems]
  | some rest =>
    dsimp only
    constructor
    · intro key hkey
      refine (streamBooks_insertPendingWrite _ hnone key).trans ?_
      rw [if_neg hkey, hbooks, if_neg hkey]
    · left
      constructor
      · refine sendCode_of_quiet [⟨some (refOf connHandle c'), .streamBlocked
          (s.handleOffset ||| connHandle) streamId⟩] rfl
            (by simp [JsH3Event.streamBlocked]) (.inl ?_)
        simp [hasPendingStreamWrite, insertPendingWrite, emit, AList.lookup_insert]
      · have hafter : ((s.setConn connHandle c').insertPendingWrite (connHandle, streamId)
            (.new rest fin)).streamBooks (connHandle, streamId) =
              ⟨(s.streamBooks (connHandle, streamId)).sent ++ items, some (rest, fin)⟩ := by
          rw [streamBooks_insertPendingWrite _ hnone, if_pos rfl, hbooks, if_pos rfl]
          simp [PendingWrite.new]
        have hitems : items ++ bodyItems rest fin = bodyItems data fin := by
          rcases htook with hitems | ⟨-, -, -, -, hnever⟩
          · rwa [hrest] at hitems
          · cases hrest.symm.trans hnever
        unfold StreamBooks.Took
        rw [hkept]
        left
        refine (congrArg (fun b : StreamBooks => b.sent ++ b.items) hafter).trans ?_
        simp [StreamBooks.items, hitems]

end Unkept

theorem queueStreamSend_spec [Quiche Q] (data : Bytes) (fin : Bool)
    (hapart : s.KeptApart (connHandle, streamId)) :
    SendSpec connHandle streamId data fin s (s.queueStreamSend connHandle streamId data fin) := by
  cases hresponse : s.pendingResponses.lookup (connHandle, streamId) with
  | some response =>
    exact queueStreamSend_of_response hresponse (hapart (by rw [hresponse]; rfl))
  | none =>
    cases hwrite : s.pendingWrites.lookup (connHandle, streamId) with
    | some write => exact queueStreamSend_of_write hresponse hwrite
    | none =>
      cases hconn : s.conn? connHandle with
      | none => exact queueStreamSend_of_none hresponse hwrite hconn
      | some c =>
        rcases c.sendBodyArcbuf_cases streamId data fin with ⟨e, c', hsend, hunsent⟩ |
          ⟨hdata, hfin, htrailers, hsend⟩ | ⟨c', written, hsend, -, hsent⟩ |
          ⟨c', written, hsend, -, hsent⟩
        · exact queueStreamSend_of_error hresponse hwrite hconn hsend hunsent
        · have hsent : c.sent = c.sent ++ ([] : List Item).map fun item => (streamId, item) := by
            simp
          exact queueStreamSend_of_ok hresponse hwrite hconn hsend hsent
            (.inr ⟨hdata, hfin, htrailers, rfl, rfl⟩)
        · exact queueStreamSend_of_ok hresponse hwrite hconn hsend hsent (.inl (List.append_nil _))
        · exact queueStreamSend_of_ok hresponse hwrite hconn hsend hsent
            (.inl (bodyItems_take_drop data written fin))

end H3Server

def Item.byte? : Item → Option UInt8
  | .byte b => some b
  | _ => none

theorem filterMap_bodyItems (data : Bytes) (fin : Bool) :
    (bodyItems data fin).filterMap Item.byte? = data := by
  have hbytes : (data.map Item.byte).filterMap Item.byte? = data := by
    rw [List.filterMap_map]
    exact List.filterMap_some
  cases fin <;> simp [bodyItems, hbytes, Item.byte?]

/-- Body bytes of a stream that the server or its transport owns, in order. -/
def StreamBooks.bytes (b : StreamBooks) : Bytes :=
  b.sent.filterMap Item.byte? ++ b.retained.elim [] Prod.fst

theorem StreamBooks.Took.bytes {b b' : StreamBooks} {data : Bytes} {fin finOut : Bool}
    (h : b.Took b' data fin finOut) : b'.bytes = b.bytes ++ data := by
  unfold Took at h
  unfold StreamBooks.bytes
  cases hretained : b.retained with
  | some kept =>
    rw [hretained] at h
    obtain ⟨hsent, kept', hkept, -⟩ := h
    simp [hsent, hkept]
  | none =>
    rw [hretained] at h
    rcases h with hitems | ⟨hdata, -, -, hsame⟩
    · have hfilter := congrArg (List.filterMap Item.byte?) hitems
      rw [List.filterMap_append, List.filterMap_append, filterMap_bodyItems] at hfilter
      have hkept : b'.items.filterMap Item.byte? = b'.retained.elim [] Prod.fst := by
        unfold items
        cases b'.retained with
        | none => rfl
        | some kept => exact filterMap_bodyItems _ _
      rw [← hkept, hfilter]
      simp
    · simp [hsame, hretained, hdata]

namespace H3Server

variable {Q : Type} [Quiche Q] (connHandle : UInt32) (streamId : ℕ)

/-- One payload after the other on a stream, with the payloads that were not refused. -/
def sendAll : List (Bytes × Bool) → H3Server Q → List Bytes × H3Server Q
  | [], s => ([], s)
  | (data, fin) :: calls, s =>
    let r := s.queueStreamSend connHandle streamId data fin
    let (taken, s') := sendAll calls r.2
    (if 0 ≤ sendCode connHandle streamId data fin s r then data :: taken else taken, s')

/-- What a caller may conclude from the answer to a send: with the units of the payload every byte
and the FIN have changed hands, behind what was kept, and with an error none has. -/
structure Transfers (payload : Option Bytes) (fin : Bool)
    (session : Option (H3Server Q)) : Prop where
  taken : 0 ≤ (hsStreamSend connHandle streamId payload fin session).1 →
    ∃ (data : Bytes) (s s' : H3Server Q), payload = some data ∧ session = some s ∧
      hsStreamSend connHandle streamId payload fin session =
        ((requestedUnits data.length fin : ℤ), some s') ∧
      (s.streamBooks (connHandle, streamId)).Took (s'.streamBooks (connHandle, streamId)) data fin
        (s.finOut (connHandle, streamId)) ∧
      ∀ key, key ≠ (connHandle, streamId) → s'.streamBooks key = s.streamBooks key
  refused : (hsStreamSend connHandle streamId payload fin session).1 < 0 → ∀ key,
    (hsStreamSend connHandle streamId payload fin session).2.map (streamBooks · key) =
      session.map (streamBooks · key)

variable {connHandle streamId} {s : H3Server Q}

theorem hsStreamSend_some (data : Bytes) (fin : Bool) :
    hsStreamSend connHandle streamId (some data) fin (some s) =
      (sendCode connHandle streamId data fin s (s.queueStreamSend connHandle streamId data fin),
        some (s.queueStreamSend connHandle streamId data fin).2) := rfl

theorem transfers_of_keptApart (hapart : s.KeptApart (connHandle, streamId)) (data : Bytes)
    (fin : Bool) : Transfers connHandle streamId (some data) fin (some s) := by
  have hspec := queueStreamSend_spec data fin hapart
  rcases hspec.taken with ⟨hcode, htook⟩ | ⟨hcode, hsame⟩
  · constructor
    · intro _
      rw [hsStreamSend_some, hcode]
      exact ⟨data, s, _, rfl, rfl, rfl, htook, hspec.others⟩
    · intro hneg
      rw [hsStreamSend_some, hcode] at hneg
      exact absurd hneg (not_lt.2 (Int.natCast_nonneg _))
  · constructor
    · intro hnonneg
      rw [hsStreamSend_some] at hnonneg
      exact absurd hnonneg (not_le.2 hcode)
    · intro _ key
      rw [hsStreamSend_some]
      by_cases hkey : key = (connHandle, streamId)
      · rw [hkey]
        exact congrArg some hsame
      · exact congrArg some (hspec.others key hkey)

/-- A byte unlike the first one kept in the write comes to stand in front of it. -/
theorem keptApart_of_transfers
    (h : ∀ data, Transfers connHandle streamId (some data) false (some s)) :
    s.KeptApart (connHandle, streamId) := by
  intro hsome
  obtain ⟨response, hresponse⟩ := Option.isSome_iff_exists.1 hsome
  cases hwrite : (s.writeKept (connHandle, streamId)).1 with
  | nil => rfl
  | cons b bytes =>
    obtain ⟨_, hkept, -⟩ := response.kept_pushBodyChunk [b + 1] false
    have hqueued : s.queueStreamSend connHandle streamId [b + 1] false =
        (0, s.insertPendingResponse (connHandle, streamId)
          (response.pushBodyChunk [b + 1] false)) := by
      unfold queueStreamSend
      rw [hresponse]
    have hcode : sendCode connHandle streamId [b + 1] false s
        (s.queueStreamSend connHandle streamId [b + 1] false) = 1 := by
      rw [hqueued]
      apply sendCode_of_quiet [] (List.append_nil s.batch).symm (by simp)
      left
      simp [hasPendingStreamWrite, insertPendingResponse, AList.lookup_insert]
    obtain ⟨data, s₀, s', hdata, hs, hresult, htook, -⟩ := (h [b + 1]).taken (by
      rw [hsStreamSend_some, hcode]
      exact Int.one_nonneg)
    obtain rfl := Option.some.inj hdata
    obtain rfl := Option.some.inj hs
    obtain ⟨_, hbefore⟩ : ∃ kept, (s.streamBooks (connHandle, streamId)).retained =
        some (response.kept.1 ++ b :: bytes, kept) := by
      simp [streamBooks, retained, hresponse, hwrite]
    obtain ⟨_, hafter⟩ : ∃ kept, (s'.streamBooks (connHandle, streamId)).retained =
        some (response.kept.1 ++ [b + 1] ++ b :: bytes, kept) := by
      rw [hsStreamSend_some, hqueued] at hresult
      rw [← Option.some.inj (congrArg Prod.snd hresult), streamBooks_insertPendingResponse,
        if_pos rfl, hwrite, hkept]
      exact ⟨_, rfl⟩
    unfold StreamBooks.Took at htook
    rw [hbefore, hafter] at htook
    obtain ⟨-, _, hsame, -⟩ := htook
    have hbytes := congrArg Prod.fst (Option.some.inj hsame)
    simp at hbytes

theorem queueStreamSend_keptApart (hapart : s.KeptApart (connHandle, streamId)) (data : Bytes)
    (fin : Bool) :
    (s.queueStreamSend connHandle streamId data fin).2.KeptApart (connHandle, streamId) := by
  unfold queueStreamSend
  cases hresponse : s.pendingResponses.lookup (connHandle, streamId) with
  | some response => exact fun _ => hapart (by rw [hresponse]; rfl)
  | none =>
    have hstill : ∀ s' : H3Server Q, s'.pendingResponses = s.pendingResponses →
        s'.KeptApart (connHandle, streamId) := by
      intro s' hsame hsome
      rw [hsame, hresponse] at hsome
      cases hsome
    apply hstill
    dsimp only
    repeat' split
    all_goals rfl

variable (connHandle streamId)

/-- A send transfers ownership exactly if and only if no bytes are kept in a write beside a
response whose headers wait. As long as none are, one send after the other, the stream gets the
payloads that were not refused, each once and in order. -/
theorem hs_stream_send_ownership :
    (∀ session : Option (H3Server Q),
      (∀ payload fin, Transfers connHandle streamId payload fin session) ↔
        ∀ s ∈ session, s.KeptApart (connHandle, streamId)) ∧
    ∀ (calls : List (Bytes × Bool)) (s : H3Server Q), s.KeptApart (connHandle, streamId) →
      ((sendAll connHandle streamId calls s).2.streamBooks (connHandle, streamId)).bytes =
        (s.streamBooks (connHandle, streamId)).bytes ++
          (sendAll connHandle streamId calls s).1.flatten := by
  constructor
  · intro session
    constructor
    · rintro h s rfl
      exact keptApart_of_transfers fun data => h (some data) false
    · intro hapart payload fin
      cases payload with
      | none => exact ⟨fun hcode => absurd hcode (show ¬0 ≤ errMemory by decide), fun _ _ => rfl⟩
      | some data =>
        cases session with
        | none =>
          exact ⟨fun hcode => absurd hcode (show ¬0 ≤ errInvalidHandle by decide), fun _ _ => rfl⟩
        | some s => exact transfers_of_keptApart (hapart s rfl) data fin
  · intro calls
    induction calls with
    | nil => exact fun s _ => (List.append_nil _).symm
    | cons call calls ih =>
      intro s hapart
      obtain ⟨data, fin⟩ := call
      have hspec := queueStreamSend_spec data fin hapart
      unfold sendAll
      dsimp only
      rw [ih _ (queueStreamSend_keptApart hapart data fin)]
      rcases hspec.taken with ⟨hcode, htook⟩ | ⟨hcode, hsame⟩
      · rw [if_pos (hcode ▸ Int.natCast_nonneg _), htook.bytes, List.flatten_cons,
          List.append_assoc]
      · rw [if_neg (not_le.2 hcode), hsame]

/-- A server with one connection, on which flow control lets through four more bytes. -/
def fourBytesLeft : H3Server Scripted :=
  (Runs.run H3Worker.step
    [.work (.packet false (Scripted.packet .initial [1] [0]) 0 0 [[7]]),
      .work (.packet false (Scripted.packet .other [7] [4, 4]) 0 0 [])]
    (.init 0 1 true none false)).server

/-- The first send is taken in part and kept for the rest, the FIN behind it is kept, and a send
on a connection that does not exist is refused. -/
theorem hs_stream_send_ownership_fourBytesLeft :
    (hsStreamSend 0 4 (some [1, 2, 3, 4, 5, 6]) false (some fourBytesLeft)).1 = 6 ∧
    (hsStreamSend 9 4 (some [1]) false (some fourBytesLeft)).1 = errAgain ∧
    (∀ payload fin, Transfers 0 4 payload fin (some fourBytesLeft)) ∧
    (∀ payload fin, Transfers 9 4 payload fin (some fourBytesLeft)) ∧
    ((sendAll 0 4 [([1, 2, 3, 4, 5, 6], false), ([], true)] fourBytesLeft).2.streamBooks
      (0, 4)).bytes = [1, 2, 3, 4, 5, 6] := by
  have hapart : fourBytesLeft.KeptApart (0, 4) ∧ fourBytesLeft.KeptApart (9, 4) :=
    ⟨fun hsome => absurd hsome (by decide +kernel), fun hsome => absurd hsome (by decide +kernel)⟩
  refine ⟨by decide +kernel, by decide +kernel, ?_, ?_, ?_⟩
  · exact ((hs_stream_send_ownership 0 4).1 _).2 fun s hs => Option.some.inj hs ▸ hapart.1
  · exact ((hs_stream_send_ownership 9 4).1 _).2 fun s hs => Option.some.inj hs ▸ hapart.2
  · rw [(hs_stream_send_ownership 0 4).2 _ _ hapart.1]
    decide +kernel

/-- Flow control lets nothing through: a byte is sent, then the headers, then another byte, and
all three are kept. -/
def overtaken : Option (H3Server Scripted) :=
  let full := (Runs.run H3Worker.step
    [.work (.packet false (Scripted.packet .initial [1] [0]) 0 0 [[7]]),
      .work (.packet false (Scripted.packet .other [7] [4, 0]) 0 0 [])]
    (.init 0 1 true none false)).server
  let s := (hsStreamSend 0 4 (some [1]) false (some full)).2
  (hsSendResponseHeaders 0 4 [] false s).2

/-- The send of the second byte answers with its units, and the flush sends it first. -/
theorem later_byte_overtakes :
    (hsStreamSend 0 4 (some [2]) false overtaken).1 = 1 ∧
      (((hsStreamSend 0 4 (some [2]) false overtaken).2.map fun s =>
        ((s.packetArrives false (Scripted.packet .other [7] [4, 9]) 0 0 []).flushAllPendingWrites
          ).streamBooks (0, 4)) =
        some ⟨[.headers [], .byte 2, .byte 1], none⟩) := by
  decide +kernel

end H3Server

end Http3
