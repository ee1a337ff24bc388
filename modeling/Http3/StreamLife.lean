import Http3.LoggedQuiche
import Http3.QuicConnection
import Http3.Lib.Runs
import Http3.Scripted

/-! The receiving side of raw QUIC streams: NEW_STREAM first, then what was read, then the
end, once. When a connection reports the streams of its peer that way. -/

namespace Http3

def EventType.isLife : EventType → Bool
  | .newStream | .data | .finished => true
  | _ => false

namespace JsH3Event

def payload (e : JsH3Event) : Bytes := e.data.getD []

/-- The end of a stream: FINISHED, or a NEW_STREAM or DATA with its FIN. -/
def endsStream (e : JsH3Event) : Bool := e.fin || e.eventType == .finished

@[simp] theorem payload_newStreamWithData (connHandle : UInt32) (streamId : ℕ) (data : Bytes)
    (fin : Bool) : (newStreamWithData connHandle streamId data fin).payload = data := by
  cases data <;> rfl

end JsH3Event

/-- Events about the receiving side of one stream, in order. -/
def lifeOf (streamId : ℕ) (events : List Emitted) : List JsH3Event :=
  (events.map Emitted.event).filter fun e => e.streamId == streamId && e.eventType.isLife

theorem lifeOf_pushFor (streamId : ℕ) (ref : ConnRef) (event : JsH3Event) (events : List Emitted) :
    lifeOf streamId (pushFor ref event events) = lifeOf streamId events ++
      if event.streamId == streamId && event.eventType.isLife then [event] else [] := by
  unfold lifeOf pushFor
  rw [List.map_append, List.filter_append]
  simp [List.filter_cons]

theorem lifeOf_pushFor_of_not {streamId : ℕ} {ref : ConnRef} {event : JsH3Event}
    {events : List Emitted} (h : (event.streamId == streamId && event.eventType.isLife) = false) :
    lifeOf streamId (pushFor ref event events) = lifeOf streamId events := by
  rw [lifeOf_pushFor, h]
  simp

theorem lifeOf_pushFor_self {streamId : ℕ} {ref : ConnRef} {event : JsH3Event}
    {events : List Emitted} (hid : event.streamId = streamId)
    (hlife : event.eventType.isLife = true) :
    lifeOf streamId (pushFor ref event events) = lifeOf streamId events ++ [event] := by
  rw [lifeOf_pushFor, hid, hlife]
  simp

/-- What is known about the receiving side of one stream: what was reported, what was read,
and in which of the connection's sets it is. -/
structure StreamView where
  life : List JsH3Event
  received : Bytes
  /-- A read has failed. -/
  failed : Bool
  known : Bool
  /-- Read to the end of what had arrived, without a FIN. -/
  awaiting : Bool

namespace StreamView

def ended (v : StreamView) : Bool := v.life.any JsH3Event.endsStream

def isOver (v : StreamView) : Bool := v.ended || v.failed

/-- The reports of a stream are in order. The last three fields tie the connection's sets to
them: a stream of the peer is known from its NEW_STREAM to its end, and a stream that is
known and awaits its FIN has not ended. -/
structure Tracks (peer : Bool) (v : StreamView) : Prop where
  payload : (v.life.map JsH3Event.payload).flatten = v.received
  ended : ∀ e ∈ v.life.dropLast, e.endsStream = false
  opened : peer = true → ∀ e ∈ v.life.head?, e.eventType = .newStream
  once : peer = true → ∀ e ∈ v.life.tail, e.eventType ≠ .newStream
  known : peer = true → v.known = true → v.life ≠ []
  unknown : peer = true → v.known = false → v.life = [] ∨ v.isOver = true
  settled : v.known = true → v.awaiting = true → v.ended = false

/-- A stream that is being read. -/
structure Reading (peer : Bool) (v : StreamView) : Prop where
  tracks : v.Tracks peer
  known : v.known = true
  notOver : v.isOver = false

variable {peer : Bool} {v v' : StreamView}

theorem forall_not_ends (h : v.ended = false) : ∀ e ∈ v.life, e.endsStream = false := by
  simpa [StreamView.ended] using h

theorem Reading.notEnded (h : v.Reading peer) : v.ended = false := by
  have hover := h.notOver
  simp only [isOver, Bool.or_eq_false_iff] at hover
  exact hover.1

theorem ended_append {e : JsH3Event} (hlife : v'.life = v.life ++ [e]) :
    v'.ended = (v.ended || e.endsStream) := by
  simp [StreamView.ended, hlife]

theorem Tracks.append {e : JsH3Event} (h : v.Tracks peer) (hended : v.ended = false)
    (hnew : peer = true → (e.eventType = .newStream ↔ v.life = []))
    (hlife : v'.life = v.life ++ [e]) (hreceived : v'.received = v.received ++ e.payload)
    (hknown : v'.known = !e.endsStream) : v'.Tracks peer where
  payload := by
    rw [hlife, hreceived]
    simp [h.payload]
  ended := by
    rw [hlife, List.dropLast_concat]
    exact forall_not_ends hended
  opened := by
    intro hpeer x hx
    rw [hlife] at hx
    cases hl : v.life with
    | nil =>
      rw [hl] at hx
      cases hx
      exact (hnew hpeer).2 hl
    | cons first rest =>
      rw [hl] at hx
      exact h.opened hpeer x (by rw [hl]; exact hx)
  once := by
    intro hpeer x hx
    rw [hlife] at hx
    cases hl : v.life with
    | nil =>
      rw [hl] at hx
      cases hx
    | cons first rest =>
      rw [hl, List.cons_append, List.tail_cons] at hx
      rcases List.mem_append.1 hx with hx | hx
      · exact h.once hpeer x (by rw [hl]; exact hx)
      · rw [List.mem_singleton.1 hx]
        intro htype
        have hnil := (hnew hpeer).1 htype
        rw [hl] at hnil
        cases hnil
  known := by
    intro _ _
    simp [hlife]
  unknown := by
    intro _ hfalse
    rw [hknown] at hfalse
    right
    simp [isOver, ended_append hlife, (by simpa using hfalse : e.endsStream = true)]
  settled := by
    intro htrue _
    rw [hknown] at htrue
    rw [ended_append hlife, hended]
    simpa using htrue

theorem Reading.append {e : JsH3Event} (h : v.Reading peer) (hnew : e.eventType ≠ .newStream)
    (hlife : v'.life = v.life ++ [e]) (hreceived : v'.received = v.received ++ e.payload)
    (hknown : v'.known = !e.endsStream) : v'.Tracks peer := by
  refine h.tracks.append h.notEnded ?_ hlife hreceived hknown
  intro hpeer
  constructor
  · intro htype
    exact absurd htype hnew
  · intro hnil
    exact absurd hnil (h.tracks.known hpeer h.known)

theorem Tracks.reading {e : JsH3Event} (h : v'.Tracks peer) (hended : v.isOver = false)
    (hlife : v'.life = v.life ++ [e]) (hfailed : v'.failed = v.failed)
    (hends : e.endsStream = false)
    (hknown : v'.known = true) : v'.Reading peer := by
  refine ⟨h, hknown, ?_⟩
  simp only [isOver, Bool.or_eq_false_iff] at hended
  simp [isOver, ended_append hlife, hfailed, hended, hends]

theorem Tracks.settle (h : v.Tracks peer) (hlife : v'.life = v.life)
    (hreceived : v'.received = v.received) (hfailed : v'.failed = v.failed)
    (hknown : v'.known = v.known)
    (hsettled : v.known = true → v'.awaiting = true → v.ended = false) : v'.Tracks peer where
  payload := by rw [hlife, hreceived]; exact h.payload
  ended := by rw [hlife]; exact h.ended
  opened := by rw [hlife]; exact h.opened
  once := by rw [hlife]; exact h.once
  known := by rw [hlife, hknown]; exact h.known
  unknown := by
    unfold isOver StreamView.ended
    rw [hlife, hknown, hfailed]
    exact h.unknown
  settled := by
    unfold StreamView.ended
    rw [hlife, hknown]
    exact hsettled

theorem Reading.await (h : v.Reading peer) : { v with awaiting := true }.Tracks peer :=
  h.tracks.settle rfl rfl rfl rfl fun _ _ => h.notEnded

theorem Tracks.knowLocal (h : v.Tracks false) (hended : v.ended = true → v.awaiting = false) :
    { v with known := true }.Tracks false where
  payload := h.payload
  ended := h.ended
  opened := by intro hpeer; cases hpeer
  once := by intro hpeer; cases hpeer
  known := by intro hpeer; cases hpeer
  unknown := by intro hpeer; cases hpeer
  settled := by
    intro _ hawaiting
    by_contra hends
    have hnot : v.awaiting = false := hended (Bool.of_not_eq_false hends)
    have hboth : true = false := hawaiting.symm.trans hnot
    cases hboth

theorem Tracks.fail (h : v.Tracks peer) (hlife : v'.life = v.life)
    (hreceived : v'.received = v.received) (hfailed : v'.failed = true)
    (hknown : v'.known = false) : v'.Tracks peer where
  payload := by rw [hlife, hreceived]; exact h.payload
  ended := by rw [hlife]; exact h.ended
  opened := by rw [hlife]; exact h.opened
  once := by rw [hlife]; exact h.once
  known := by
    intro _ htrue
    rw [hknown] at htrue
    cases htrue
  unknown := by
    intro _ _
    right
    simp [isOver, hfailed]
  settled := by
    intro htrue
    rw [hknown] at htrue
    cases htrue

end StreamView

namespace Answer

def bytesOn (streamId : ℕ) : Answer → Bytes
  | .streamRecv id (.ok (data, _)) => if id = streamId then data else []
  | _ => []

def finOn (streamId : ℕ) : Answer → Bool
  | .streamRecv id (.ok (_, fin)) => fin && decide (id = streamId)
  | _ => false

def failsOn (streamId : ℕ) : Answer → Bool
  | .streamRecv id (.error e) => decide (id = streamId ∧ e ≠ .done)
  | _ => false

end Answer

namespace QuicConnection

variable {server : Bool} {Q : Type}

/-- One stream as the connection and its reports show it. -/
def view (streamId : ℕ) (c : QuicConnection (Logged server Q)) (events : List Emitted) :
    StreamView where
  life := lifeOf streamId events
  received := c.quicheConn.answers.flatMap (Answer.bytesOn streamId)
  failed := c.quicheConn.answers.any (Answer.failsOn streamId)
  known := decide (streamId ∈ c.knownStreams)
  awaiting := decide (streamId ∈ c.pendingFin)

def Polling.view (streamId : ℕ) (st : Polling (Logged server Q)) : StreamView :=
  st.conn.view streamId st.events

variable [Quiche Q]

section Other

variable {ref : ConnRef} {connHandle : UInt32} {id streamId : ℕ} (hne : id ≠ streamId)

include hne

omit [Quiche Q] in
theorem view_pushApp_of_ne (st : Polling (Logged server Q)) {event : JsH3Event}
    (hid : event.streamId = id) :
    (pushApp ref event st).view streamId = st.view streamId := by
  have hother : (event.streamId == streamId && event.eventType.isLife) = false := by
    rw [hid]
    simp [hne]
  unfold Polling.view view pushApp
  rw [lifeOf_pushFor_of_not hother]

theorem view_streamRecv_of_ne {st : Polling (Logged server Q)} {len : ℕ} {q : Logged server Q}
    {result : Except QuicheError (Bytes × Bool)}
    (hq : Quiche.streamRecv st.conn.quicheConn id len = (result, q)) :
    (st.mapConn ({ · with quicheConn := q })).view streamId = st.view streamId := by
  have hbytes : Answer.bytesOn streamId (.streamRecv id result) = [] := by
    rcases result with e | ⟨data, fin⟩
    · rfl
    · simp [Answer.bytesOn, hne]
  have hfails : Answer.failsOn streamId (.streamRecv id result) = false := by
    rcases result with e | ⟨data, fin⟩
    · simp [Answer.failsOn, hne]
    · rfl
  unfold Polling.view view Polling.mapConn
  simp [Logged.streamRecv_answers hq, hbytes, hfails]

theorem view_finishRead_of_ne (st : Polling (Logged server Q)) :
    (st.mapConn (finishRead · id)).view streamId = st.view streamId := by
  have hkeep : ∀ known : List ℕ, (streamId ∈ known.filter (· ≠ id)) = (streamId ∈ known) := by
    intro known
    simp [hne.symm]
  unfold Polling.view view Polling.mapConn finishRead forget
  simp only [hkeep]
  rfl

omit [Quiche Q] in
theorem view_forget_of_ne (st : Polling (Logged server Q)) :
    (st.mapConn (forget · id)).view streamId = st.view streamId := by
  unfold Polling.view view Polling.mapConn forget
  simp [hne.symm]

omit [Quiche Q] in
theorem view_awaitFin_of_ne (st : Polling (Logged server Q)) :
    (st.mapConn (awaitFin · id)).view streamId = st.view streamId := by
  unfold Polling.view view Polling.mapConn awaitFin
  simp [hne.symm]

omit [Quiche Q] in
theorem view_unawait_of_ne (st : Polling (Logged server Q)) :
    (st.mapConn fun c => { c with pendingFin := c.pendingFin.filter (· ≠ id) }).view streamId =
      st.view streamId := by
  unfold Polling.view view Polling.mapConn
  simp [hne.symm]

omit [Quiche Q] in
theorem view_know_of_ne (st : Polling (Logged server Q)) :
    (st.mapConn (know · id)).view streamId = st.view streamId := by
  unfold Polling.view view Polling.mapConn know
  simp [hne.symm]

theorem view_readLoop_of_ne (fuel : ℕ) (st : Polling (Logged server Q)) :
    (readLoop ref connHandle id fuel st).view streamId = st.view streamId := by
  induction fuel generalizing st with
  | zero => rfl
  | succ fuel ih =>
    unfold readLoop
    split_ifs
    · rfl
    · split
      · next data fin q hq =>
        have hread := view_streamRecv_of_ne hne hq
        have hdata : (if 0 < data.length then pushApp ref (.ofData connHandle id data fin)
              (st.mapConn ({ · with quicheConn := q }))
            else st.mapConn ({ · with quicheConn := q })).view streamId = st.view streamId := by
          split_ifs
          · exact (view_pushApp_of_ne hne _ rfl).trans hread
          · exact hread
        dsimp only
        generalize (if 0 < data.length then pushApp ref (.ofData connHandle id data fin)
            (st.mapConn ({ · with quicheConn := q }))
          else st.mapConn ({ · with quicheConn := q })) = st' at hdata ⊢
        split_ifs
        · exact (view_finishRead_of_ne hne _).trans hdata
        · exact (view_finishRead_of_ne hne _).trans ((view_pushApp_of_ne hne _ rfl).trans hdata)
        · exact (view_awaitFin_of_ne hne _).trans hdata
        · exact hdata
        · exact (ih _).trans hdata
      · next q hq =>
        have hread := view_streamRecv_of_ne hne hq
        dsimp only
        split_ifs
        · have hpushed : (pushApp ref (.finished connHandle id)
              (st.mapConn ({ · with quicheConn := q }))).view streamId = st.view streamId :=
            (view_pushApp_of_ne hne _ rfl).trans hread
          exact ((view_finishRead_of_ne hne _).trans (view_unawait_of_ne hne _)).trans hpushed
        · exact (view_awaitFin_of_ne hne _).trans hread
      · next e q _ hq =>
        have hread := view_streamRecv_of_ne hne hq
        exact (view_forget_of_ne hne _).trans ((view_pushApp_of_ne hne _ rfl).trans hread)

theorem view_openStream_of_ne (st : Polling (Logged server Q)) :
    (openStream ref connHandle id st).view streamId = st.view streamId := by
  unfold openStream
  split
  · next data fin q hq =>
    have hopened : (pushApp ref (.newStreamWithData connHandle id data fin)
        (st.mapConn ({ · with quicheConn := q }))).view streamId = st.view streamId :=
      (view_pushApp_of_ne hne _ rfl).trans (view_streamRecv_of_ne hne hq)
    dsimp only
    split_ifs
    · exact (view_finishRead_of_ne hne _).trans hopened
    · exact (view_readLoop_of_ne hne _ _).trans hopened
  · next q hq => exact (view_pushApp_of_ne hne _ rfl).trans (view_streamRecv_of_ne hne hq)
  · next e q _ hq =>
    have hopened : (pushApp ref (.newStream connHandle id)
        (st.mapConn ({ · with quicheConn := q }))).view streamId = st.view streamId :=
      (view_pushApp_of_ne hne _ rfl).trans (view_streamRecv_of_ne hne hq)
    dsimp only
    split_ifs
    · exact (view_forget_of_ne hne _).trans hopened
    · exact (view_forget_of_ne hne _).trans ((view_pushApp_of_ne hne _ rfl).trans hopened)

theorem view_pollStream_of_ne (st : Polling (Logged server Q)) :
    (pollStream ref connHandle id st).view streamId = st.view streamId := by
  have hknow := view_know_of_ne hne st
  unfold pollStream
  dsimp only
  split_ifs
  · exact (view_readLoop_of_ne hne _ _).trans hknow
  · exact (view_openStream_of_ne hne _).trans hknow

end Other

section Self

variable {ref : ConnRef} {connHandle : UInt32} {streamId : ℕ} {peer : Bool}

variable {st : Polling (Logged server Q)}

omit [Quiche Q] in
theorem view_pushApp_life {event : JsH3Event} (hid : event.streamId = streamId)
    (hlife : event.eventType.isLife = true) :
    (pushApp ref event st).view streamId =
      { st.view streamId with life := (st.view streamId).life ++ [event] } := by
  unfold Polling.view view pushApp
  rw [lifeOf_pushFor_self hid hlife]

omit [Quiche Q] in
theorem view_pushApp_other {event : JsH3Event} (hlife : event.eventType.isLife = false) :
    (pushApp ref event st).view streamId = st.view streamId := by
  have hnot : (event.streamId == streamId && event.eventType.isLife) = false := by
    rw [hlife, Bool.and_false]
  unfold Polling.view view pushApp
  rw [lifeOf_pushFor_of_not hnot]

variable {q : Logged server Q}

theorem view_streamRecv_ok {len : ℕ} {data : Bytes} {fin : Bool}
    (hq : Quiche.streamRecv st.conn.quicheConn streamId len = (.ok (data, fin), q)) :
    (st.mapConn ({ · with quicheConn := q })).view streamId =
      { st.view streamId with received := (st.view streamId).received ++ data } := by
  unfold Polling.view view Polling.mapConn
  simp [Logged.streamRecv_answers hq, Answer.bytesOn, Answer.failsOn]

theorem view_streamRecv_done {len : ℕ}
    (hq : Quiche.streamRecv st.conn.quicheConn streamId len = (.error .done, q)) :
    (st.mapConn ({ · with quicheConn := q })).view streamId = st.view streamId := by
  unfold Polling.view view Polling.mapConn
  simp [Logged.streamRecv_answers hq, Answer.bytesOn, Answer.failsOn]

theorem view_streamRecv_error {len : ℕ} {e : QuicheError}
    (hq : Quiche.streamRecv st.conn.quicheConn streamId len = (.error e, q)) (he : e ≠ .done) :
    (st.mapConn ({ · with quicheConn := q })).view streamId =
      { st.view streamId with failed := true } := by
  unfold Polling.view view Polling.mapConn
  simp [Logged.streamRecv_answers hq, Answer.bytesOn, Answer.failsOn, he]

theorem view_finishRead (st : Polling (Logged server Q)) :
    (st.mapConn (finishRead · streamId)).view streamId =
      { st.view streamId with known := false } := by
  have hnot : ∀ ids : List ℕ, streamId ∉ ids.filter (· ≠ streamId) := by
    intro ids
    simp
  unfold Polling.view view Polling.mapConn finishRead forget
  simp only [hnot, decide_false]
  rfl

omit [Quiche Q] in
theorem view_forget (st : Polling (Logged server Q)) :
    (st.mapConn (forget · streamId)).view streamId =
      { st.view streamId with known := false } := by
  unfold Polling.view view Polling.mapConn forget
  simp

omit [Quiche Q] in
theorem view_awaitFin (st : Polling (Logged server Q)) :
    (st.mapConn (awaitFin · streamId)).view streamId =
      { st.view streamId with awaiting := true } := by
  unfold Polling.view view Polling.mapConn awaitFin
  simp

theorem view_finishAwaited (st : Polling (Logged server Q)) :
    (st.mapConn fun c => { c with pendingFin := c.pendingFin.filter (· ≠ streamId)
      }.finishRead streamId).view streamId =
      { st.view streamId with known := false, awaiting := false } := by
  have hnot : ∀ ids : List ℕ, streamId ∉ ids.filter (· ≠ streamId) := by
    intro ids
    simp
  unfold Polling.view view Polling.mapConn finishRead forget
  simp only [hnot, decide_false]
  rfl

omit [Quiche Q] in
theorem view_know (st : Polling (Logged server Q)) :
    (st.mapConn (know · streamId)).view streamId = { st.view streamId with known := true } := by
  unfold Polling.view view Polling.mapConn know
  simp

variable (ref connHandle) in
theorem readLoop_data {data : Bytes} {fin : Bool}
    (hq : Quiche.streamRecv st.conn.quicheConn streamId quicRecvChunk = (.ok (data, fin), q)) :
    (pushApp ref (.ofData connHandle streamId data fin)
      (st.mapConn ({ · with quicheConn := q }))).view streamId =
      { st.view streamId with
        life := (st.view streamId).life ++ [.ofData connHandle streamId data fin]
        received := (st.view streamId).received ++ data } := by
  rw [view_pushApp_life rfl rfl, view_streamRecv_ok hq]

theorem readLoop_tracks (fuel : ℕ) (h : (st.view streamId).Reading peer) :
    ((readLoop ref connHandle streamId fuel st).view streamId).Tracks peer := by
  induction fuel generalizing st with
  | zero => exact h.tracks
  | succ fuel ih =>
    unfold readLoop
    split_ifs
    · exact h.tracks
    · split
      · next data fin q hq =>
        dsimp only
        by_cases hdata : 0 < data.length
        · have hview := readLoop_data ref connHandle hq
          rw [if_pos hdata]
          split_ifs with hfin hempty
          · subst hfin
            rw [view_finishRead, hview]
            exact h.append (by simp [JsH3Event.ofData]) rfl rfl rfl
          · omega
          · have hfalse : fin = false := by simpa using hfin
            subst hfalse
            apply ih
            rw [hview]
            exact (h.append (by simp [JsH3Event.ofData]) rfl rfl h.known).reading h.notOver rfl rfl
              rfl h.known
        · have hnil : data = [] := by simpa using hdata
          subst hnil
          have hview : (st.mapConn ({ · with quicheConn := q })).view streamId =
              st.view streamId := by
            rw [view_streamRecv_ok hq, List.append_nil]
          rw [if_neg hdata]
          split_ifs
          · rw [view_finishRead, view_pushApp_life rfl rfl, hview]
            exact h.append (by simp [JsH3Event.finished]) rfl (List.append_nil _).symm rfl
          · rw [view_awaitFin, hview]
            exact h.await
          · rw [hview]
            exact h.tracks
          · contradiction
      · next q hq =>
        have hview := view_streamRecv_done hq
        dsimp only
        split_ifs
        · rw [view_finishAwaited, view_pushApp_life rfl rfl, hview]
          exact h.append (by simp [JsH3Event.finished]) rfl (List.append_nil _).symm rfl
        · rw [view_awaitFin, hview]
          exact h.await
      · next e q he hq =>
        rw [view_forget, view_pushApp_other rfl, view_streamRecv_error hq he]
        exact h.tracks.fail rfl rfl rfl rfl

/-- The first read of a stream: its NEW_STREAM comes before anything else of it. -/
theorem openStream_tracks {v : StreamView} (h : v.Tracks peer) (hnew : v.known = false)
    (hover : v.isOver = false) (hst : st.view streamId = { v with known := true }) :
    ((openStream ref connHandle streamId st).view streamId).Tracks peer := by
  have hended : v.ended = false := by
    simp only [StreamView.isOver, Bool.or_eq_false_iff] at hover
    exact hover.1
  have hfirst : ∀ e : JsH3Event, e.eventType = .newStream → peer = true →
      (e.eventType = .newStream ↔ v.life = []) := by
    intro e he hpeer
    have hnil := (h.unknown hpeer hnew).resolve_right (by simp [hover])
    exact ⟨fun _ => hnil, fun _ => he⟩
  unfold openStream
  split
  · next data fin q hq =>
    have hview : (pushApp ref (.newStreamWithData connHandle streamId data fin)
        (st.mapConn ({ · with quicheConn := q }))).view streamId =
        { v with
          life := v.life ++ [.newStreamWithData connHandle streamId data fin]
          received := v.received ++ data
          known := true } := by
      rw [view_pushApp_life rfl rfl, view_streamRecv_ok hq, hst]
    have hpayload : v.received ++ data = v.received ++
        (JsH3Event.newStreamWithData connHandle streamId data fin).payload := by simp
    dsimp only
    split_ifs with hfin
    · subst hfin
      rw [view_finishRead, hview]
      exact h.append hended (hfirst _ rfl) rfl hpayload rfl
    · have hfalse : fin = false := by simpa using hfin
      subst hfalse
      apply readLoop_tracks
      rw [hview]
      exact (h.append hended (hfirst _ rfl) rfl hpayload rfl).reading hover rfl rfl rfl rfl
  · next q hq =>
    rw [view_pushApp_life rfl rfl, view_streamRecv_done hq, hst]
    exact h.append hended (hfirst _ rfl) rfl (List.append_nil _).symm rfl
  · next e q he hq =>
    have hopened : StreamView.Tracks peer
        { v with life := v.life ++ [.newStream connHandle streamId], known := true } :=
      h.append hended (hfirst _ rfl) rfl (List.append_nil _).symm rfl
    have hview : (pushApp ref (.newStream connHandle streamId)
        (st.mapConn ({ · with quicheConn := q }))).view streamId =
        { v with
          life := v.life ++ [.newStream connHandle streamId]
          known := true
          failed := true } := by
      rw [view_pushApp_life rfl rfl, view_streamRecv_error hq he, hst]
    dsimp only
    split_ifs
    · rw [view_forget, hview]
      exact hopened.fail rfl rfl rfl rfl
    · rw [view_forget, view_pushApp_other rfl, hview]
      exact hopened.fail rfl rfl rfl rfl

theorem pollStream_tracks (h : (st.view streamId).Tracks peer)
    (hover : (st.view streamId).isOver = false) :
    ((pollStream ref connHandle streamId st).view streamId).Tracks peer := by
  have hknow : (st.mapConn (know · streamId)).view streamId =
      { st.view streamId with known := true } := view_know st
  have hknown : (st.view streamId).known = decide (streamId ∈ st.conn.knownStreams) := rfl
  unfold pollStream
  dsimp only
  split_ifs with hmem
  · have htrue : (st.view streamId).known = true := by simp [hknown, hmem]
    have hsame : { st.view streamId with known := true } = st.view streamId := by rw [← htrue]
    apply readLoop_tracks
    rw [hknow, hsame]
    exact ⟨h, htrue, hover⟩
  · exact openStream_tracks h (by simp [hknown, hmem]) hover hknow

theorem pollReadable_tracks (ids : List ℕ) (hnodup : ids.Nodup) (h : (st.view streamId).Tracks peer)
    (hover : streamId ∈ ids → (st.view streamId).isOver = false) :
    ((pollReadable ref connHandle ids st).view streamId).Tracks peer := by
  induction ids generalizing st with
  | nil => exact h
  | cons id ids ih =>
    obtain ⟨hid, hrest⟩ := List.nodup_cons.1 hnodup
    unfold pollReadable
    split_ifs
    · exact h
    · by_cases heq : id = streamId
      · subst heq
        apply ih hrest (pollStream_tracks h (hover List.mem_cons_self))
        intro hmem
        exact absurd hmem hid
      · have hview : (pollStream ref connHandle id st).view streamId = st.view streamId :=
          view_pollStream_of_ne heq st
        apply ih hrest
        · rw [hview]
          exact h
        · intro hmem
          rw [hview]
          exact hover (List.mem_cons_of_mem id hmem)

end Self

section Calls

variable {ref : ConnRef} {connHandle : UInt32} {streamId : ℕ} {peer : Bool}

theorem view_pollDatagramEvents (remaining : ℕ) (c : QuicConnection (Logged server Q))
    (events : List Emitted) :
    (pollDatagramEvents ref connHandle remaining c events).1.view streamId
      (pollDatagramEvents ref connHandle remaining c events).2 = c.view streamId events := by
  have hpush : ∀ (c : QuicConnection (Logged server Q)) after buf,
      c.view streamId (pushFor ref (.datagram connHandle buf) after) = c.view streamId after := by
    intro c after buf
    unfold view
    rw [lifeOf_pushFor_of_not (by simp [JsH3Event.datagram, EventType.isLife])]
  obtain ⟨_, h⟩ := pollDatagrams_induction ref connHandle (q := c.quicheConn)
    (P := fun _ q after => view streamId { c with quicheConn := q } after = c.view streamId events)
    (fun _ _ _ h => h) (fun _ _ _ _ h => (hpush _ _ _).trans h) remaining rfl
  exact h

omit [Quiche Q] in
theorem lifeOf_probe (capacity : ℕ → Except QuicheError ℕ) (n : ℕ) (b : BlockedStreams)
    (events : List Emitted) :
    lifeOf streamId (b.probe capacity ref connHandle n events).2 = lifeOf streamId events := by
  induction n generalizing b events with
  | zero => rfl
  | succ n ih =>
    unfold BlockedStreams.probe
    split
    · rfl
    · split
      · split_ifs
        · exact (ih _ _).trans (lifeOf_pushFor_of_not (by simp [JsH3Event.drain, EventType.isLife]))
        · exact ih _ _
      · exact (ih _ _).trans (lifeOf_pushFor_of_not (by simp [JsH3Event.error, EventType.isLife]))

theorem view_pollDrainEvents (c : QuicConnection (Logged server Q)) (events : List Emitted) :
    (c.pollDrainEvents ref connHandle events).1.view streamId
      (c.pollDrainEvents ref connHandle events).2 = c.view streamId events := by
  unfold pollDrainEvents view
  dsimp only
  rw [lifeOf_probe]

/-- The streams quiche reports as readable are listed once, and none of them is over. -/
def ReadsOn (c : QuicConnection (Logged server Q)) (events : List Emitted) : Prop :=
  (Quiche.readable c.quicheConn).Nodup ∧
    ∀ id ∈ Quiche.readable c.quicheConn, (c.view id events).isOver = false

theorem pollQuicEvents_tracks {budget : ℕ} {c : QuicConnection (Logged server Q)}
    {events : List Emitted}
    (h : (c.view streamId events).Tracks peer) (hreads : 0 < budget → c.ReadsOn events) :
    ((c.pollQuicEvents ref connHandle budget events).1.view streamId
      (c.pollQuicEvents ref connHandle budget events).2).Tracks peer := by
  unfold pollQuicEvents
  split_ifs with hbudget
  · rw [view_pollDrainEvents]
    exact h
  · obtain ⟨hnodup, hover⟩ := hreads (Nat.pos_of_ne_zero hbudget)
    have hread : ((pollReadable ref connHandle (Quiche.readable c.quicheConn)
        ⟨c, budget, events⟩).view streamId).Tracks peer :=
      pollReadable_tracks _ hnodup h (hover streamId)
    dsimp only
    generalize pollReadable ref connHandle (Quiche.readable c.quicheConn) ⟨c, budget, events⟩ = st
      at hread ⊢
    rw [view_pollDrainEvents]
    split_ifs
    · rw [view_pollDatagramEvents]
      exact hread
    · exact hread

theorem view_sweepStream_of_ne {id : ℕ} (hne : id ≠ streamId)
    (acc : QuicConnection (Logged server Q) × List Emitted) :
    (sweepStream ref connHandle acc id).1.view streamId (sweepStream ref connHandle acc id).2 =
      acc.1.view streamId acc.2 := by
  have hkeep : ∀ ids : List ℕ, (streamId ∈ ids.filter (· ≠ id)) = (streamId ∈ ids) := by
    intro ids
    simp [hne.symm]
  unfold sweepStream
  dsimp only
  split_ifs
  · have hlife : lifeOf streamId (pushFor ref (.finished connHandle id) acc.2) =
        lifeOf streamId acc.2 := lifeOf_pushFor_of_not (by simp [JsH3Event.finished, hne])
    unfold view finishRead forget
    simp only [hlife, hkeep]
    rfl
  · unfold view
    simp only [hkeep]

/-- A late FIN ends a stream that is known and has not ended. -/
theorem sweepStream_tracks {acc : QuicConnection (Logged server Q) × List Emitted}
    (h : (acc.1.view streamId acc.2).Tracks peer)
    (hopen : (acc.1.view streamId acc.2).known = true →
      (acc.1.view streamId acc.2).ended = false) :
    ((sweepStream ref connHandle acc streamId).1.view streamId
      (sweepStream ref connHandle acc streamId).2).Tracks peer ∧
      ((sweepStream ref connHandle acc streamId).1.view streamId
        (sweepStream ref connHandle acc streamId).2).known = false := by
  have hnot : ∀ ids : List ℕ, streamId ∉ ids.filter (· ≠ streamId) := by
    intro ids
    simp
  unfold sweepStream
  dsimp only
  split_ifs with hmem
  · have hknown : (acc.1.view streamId acc.2).known = true := by simpa [view] using hmem
    have hlife : lifeOf streamId (pushFor ref (.finished connHandle streamId) acc.2) =
        lifeOf streamId acc.2 ++ [.finished connHandle streamId] := lifeOf_pushFor_self rfl rfl
    have hview : ({ acc.1 with pendingFin := acc.1.pendingFin.filter (· ≠ streamId) }.finishRead
        streamId).view streamId (pushFor ref (.finished connHandle streamId) acc.2) =
        { acc.1.view streamId acc.2 with
          life := (acc.1.view streamId acc.2).life ++ [.finished connHandle streamId]
          known := false
          awaiting := false } := by
      unfold view finishRead forget
      simp only [hnot, decide_false, hlife]
      rfl
    rw [hview]
    refine ⟨h.append (hopen hknown) ?_ rfl (List.append_nil _).symm rfl, rfl⟩
    intro hpeer
    constructor
    · intro htype
      cases htype
    · intro hnil
      exact absurd hnil (h.known hpeer hknown)
  · have hknown : (acc.1.view streamId acc.2).known = false := by simpa [view] using hmem
    refine ⟨h.settle rfl rfl rfl rfl ?_, hknown⟩
    intro htrue
    rw [hknown] at htrue
    cases htrue

theorem sweepFinishedStreams_tracks {budget : ℕ} {c : QuicConnection (Logged server Q)}
    {events : List Emitted} (h : (c.view streamId events).Tracks peer) :
    ((c.sweepFinishedStreams ref connHandle budget events).1.view streamId
      (c.sweepFinishedStreams ref connHandle budget events).2).Tracks peer := by
  -- a stream the sweep comes to, if it is still known, has not ended
  have hfold : ∀ (ids : List ℕ) (acc : QuicConnection (Logged server Q) × List Emitted),
      (acc.1.view streamId acc.2).Tracks peer →
      (streamId ∈ ids → (acc.1.view streamId acc.2).known = true →
        (acc.1.view streamId acc.2).ended = false) →
      ((ids.foldl (sweepStream ref connHandle) acc).1.view streamId
        (ids.foldl (sweepStream ref connHandle) acc).2).Tracks peer := by
    intro ids
    induction ids with
    | nil => exact fun _ h _ => h
    | cons id ids ih =>
      intro acc h hopen
      by_cases heq : id = streamId
      · subst heq
        obtain ⟨htracks, hknown⟩ := sweepStream_tracks h (hopen List.mem_cons_self)
        apply ih _ htracks
        intro _ htrue
        rw [hknown] at htrue
        cases htrue
      · have hview : (sweepStream ref connHandle acc id).1.view streamId
            (sweepStream ref connHandle acc id).2 = acc.1.view streamId acc.2 :=
          view_sweepStream_of_ne heq acc
        apply ih
        · rw [hview]
          exact h
        · intro hmem
          rw [hview]
          exact hopen (List.mem_cons_of_mem id hmem)
  apply hfold _ (c, events) h
  intro hmem hknown
  have hpending := (List.mem_filter.1 (List.mem_of_mem_take hmem)).1
  exact h.settled hknown (by simpa [view] using hpending)

end Calls

def peerInitiated (server : Bool) (streamId : ℕ) : Bool := !(streamId % 2 == server.toNat)

section Send

variable {id streamId : ℕ}

/-- A send on a stream makes it known at most, and only if it is our own. -/
structure SendsOn (id streamId : ℕ) (c c' : QuicConnection (Logged server Q)) : Prop where
  answers : c'.quicheConn.answers = c.quicheConn.answers
  view : ∀ events, c'.view streamId events = c.view streamId events ∨
    (id = streamId ∧ peerInitiated server streamId = false ∧
      c'.view streamId events = { c.view streamId events with known := true })

variable {c d : QuicConnection (Logged server Q)}

omit [Quiche Q] in
theorem SendsOn.refl (c : QuicConnection (Logged server Q)) : SendsOn id streamId c c :=
  ⟨rfl, fun _ => .inl rfl⟩

omit [Quiche Q] in
theorem SendsOn.of_answers (hq : d.quicheConn.answers = c.quicheConn.answers)
    (hknown : d.knownStreams = c.knownStreams) (hfin : d.pendingFin = c.pendingFin) :
    SendsOn id streamId c d := by
  refine ⟨hq, ?_⟩
  intro events
  left
  unfold QuicConnection.view
  rw [hq, hknown, hfin]

theorem SendsOn.knowLocal (hq : d.quicheConn.answers = c.quicheConn.answers)
    (hknown : d.knownStreams = c.knownStreams) (hfin : d.pendingFin = c.pendingFin) :
    SendsOn id streamId c (d.knowLocal id) := by
  unfold QuicConnection.knowLocal
  split_ifs with hlocal
  · refine ⟨hq, ?_⟩
    intro events
    by_cases heq : id = streamId
    · subst heq
      right
      refine ⟨rfl, ?_, ?_⟩
      · have hmine : (id % 2 == server.toNat) = true := hlocal
        simp [peerInitiated, hmine]
      · unfold QuicConnection.view know
        simp [hq, hfin]
    · left
      unfold QuicConnection.view know
      simp [hq, hknown, hfin, Ne.symm heq]
  · exact .of_answers hq hknown hfin

theorem streamSendZc_sendsOn (buf : Bytes) (fin : Bool) :
    SendsOn id streamId c (c.streamSendZc id buf fin).2 := by
  unfold streamSendZc
  split
  · next written q hq =>
    have hanswers := Logged.streamSend_answers hq
    dsimp only
    split_ifs
    · exact .knowLocal hanswers rfl rfl
    · exact .knowLocal hanswers rfl rfl
  · next q hq => exact .of_answers (Logged.streamSend_answers hq) rfl rfl
  · next e q _ hq => exact .of_answers (Logged.streamSend_answers hq) rfl rfl

theorem streamSendArcbuf_sendsOn (buf : Bytes) (fin : Bool) :
    SendsOn id streamId c (c.streamSendArcbuf id buf fin).2 := by
  unfold streamSendArcbuf
  split_ifs
  · exact .refl c
  · split
    · next written q hq => exact .knowLocal (Logged.streamSend_answers hq) rfl rfl
    · next q hq => exact .of_answers (Logged.streamSend_answers hq) rfl rfl
    · next e q _ hq => exact .of_answers (Logged.streamSend_answers hq) rfl rfl
  · split
    · exact .refl c
    · split_ifs
      · exact .refl c
      · exact streamSendZc_sendsOn buf fin
  · exact streamSendZc_sendsOn buf fin

theorem reserveLocalBidiStream_sendsOn :
    SendsOn id streamId c (c.reserveLocalBidiStream id).2 := by
  unfold reserveLocalBidiStream
  split_ifs with hlocal
  · exact .refl c
  · split
    · next q hq =>
      have hmine : { c with quicheConn := q }.isLocalStream id = true := by
        simp only [Bool.or_eq_true, not_or, Bool.not_eq_true'] at hlocal
        exact Bool.of_not_eq_false hlocal.1
      have hknow : SendsOn id streamId c ({ c with quicheConn := q }.knowLocal id) :=
        .knowLocal (Logged.streamSend_answers hq) rfl rfl
      unfold QuicConnection.knowLocal at hknow
      rwa [if_pos hmine] at hknow
    · next written q _ hq => exact .of_answers (Logged.streamSend_answers hq) rfl rfl
    · next e q hq => exact .of_answers (Logged.streamSend_answers hq) rfl rfl

omit [Quiche Q] in
theorem SendsOn.tracks (h : SendsOn id streamId c d) {events : List Emitted}
    (htracks : (c.view streamId events).Tracks (peerInitiated server streamId))
    (hended : id = streamId → peerInitiated server streamId = false →
      (c.view streamId events).ended = true → (c.view streamId events).awaiting = false) :
    (d.view streamId events).Tracks (peerInitiated server streamId) := by
  rcases h.view events with hsame | ⟨heq, hmine, hknown⟩
  · rw [hsame]
    exact htracks
  · rw [hmine] at htracks ⊢
    rw [hknown]
    exact htracks.knowLocal (hended heq hmine)

end Send

end QuicConnection

/-- A raw QUIC connection over a logging transport, with everything it has reported. -/
structure StreamRun (server : Bool) (Q : Type) where
  conn : QuicConnection (Logged server Q)
  events : List Emitted

namespace StreamRun

variable {server : Bool} {Q : Type}

/-- Calls on the connection; in between the network may bring its transport into any state. -/
inductive Step (Q : Type)
  | network (inner : Q)
  | poll (budget : ℕ)
  | sweep (budget : ℕ)
  | send (streamId : ℕ) (buf : Bytes) (fin : Bool)
  | reserve (streamId : ℕ)

def init (uid : ℕ) (q : Q) (connId : Bytes) : StreamRun server Q :=
  ⟨.new uid (.new q) connId, []⟩

def view (streamId : ℕ) (r : StreamRun server Q) : StreamView := r.conn.view streamId r.events

variable [Quiche Q] (ref : ConnRef) (connHandle : UInt32)

def step : Step Q → StreamRun server Q → StreamRun server Q
  | .network inner, r =>
    { r with conn := { r.conn with quicheConn := r.conn.quicheConn.withInner inner } }
  | .poll budget, r =>
    let (conn, events) := r.conn.pollQuicEvents ref connHandle budget r.events
    ⟨conn, events⟩
  | .sweep budget, r =>
    let (conn, events) := r.conn.sweepFinishedStreams ref connHandle budget r.events
    ⟨conn, events⟩
  | .send streamId buf fin, r => { r with conn := (r.conn.streamSendArcbuf streamId buf fin).2 }
  | .reserve streamId, r => { r with conn := (r.conn.reserveLocalBidiStream streamId).2 }

/-- A stream of our own that has ended does not await its FIN any more. -/
def Sendable (streamId : ℕ) (r : StreamRun server Q) : Prop :=
  QuicConnection.peerInitiated server streamId = false →
    (r.view streamId).ended = true → (r.view streamId).awaiting = false

/-- quiche lists no stream as readable twice, and none again that has ended or failed; and
nothing is sent on a stream of our own that has ended and still awaits its FIN. -/
def Orderly : Step Q → StreamRun server Q → Prop
  | .poll budget, r => 0 < budget → r.conn.ReadsOn r.events
  | .send streamId buf fin, r => (buf ≠ [] ∨ fin = true) → r.Sendable streamId
  | .reserve streamId, r => r.Sendable streamId
  | _, _ => True

def Tracked (r : StreamRun server Q) : Prop :=
  ∀ streamId, (r.view streamId).Tracks (QuicConnection.peerInitiated server streamId)

omit [Quiche Q] in
theorem tracked_init (uid : ℕ) (q : Q) (connId : Bytes) :
    (init uid q connId : StreamRun server Q).Tracked := by
  intro streamId
  constructor
  · rfl
  · intro e he
    cases he
  · intro _ e he
    cases he
  · intro _ e he
    cases he
  · intro _ hknown
    cases hknown
  · intro _ _
    exact .inl rfl
  · intro _ _
    rfl

theorem step_tracked (i : Step Q) {r : StreamRun server Q} (h : r.Tracked) (hok : Orderly i r) :
    (step ref connHandle i r).Tracked := by
  intro streamId
  cases i with
  | network inner => exact h streamId
  | poll budget => exact QuicConnection.pollQuicEvents_tracks (h streamId) hok
  | sweep budget => exact QuicConnection.sweepFinishedStreams_tracks (h streamId)
  | send id buf fin =>
    by_cases hempty : buf ≠ [] ∨ fin = true
    · apply (QuicConnection.streamSendArcbuf_sendsOn buf fin).tracks (h streamId)
      rintro rfl
      exact hok hempty
    · -- nothing is handed over
      obtain ⟨hbuf, hfin⟩ : buf = [] ∧ fin = false := by simpa using hempty
      subst hbuf hfin
      exact h streamId
  | reserve id =>
    apply QuicConnection.reserveLocalBidiStream_sendsOn.tracks (h streamId)
    rintro rfl
    exact hok

instance (c : QuicConnection (Logged server Q)) (events : List Emitted) :
    Decidable (c.ReadsOn events) := inferInstanceAs (Decidable (_ ∧ _))

instance (streamId : ℕ) (r : StreamRun server Q) : Decidable (r.Sendable streamId) :=
  inferInstanceAs (Decidable (_ → _ → _))

instance (i : Step Q) (r : StreamRun server Q) : Decidable (Orderly i r) := by
  unfold Orderly
  split <;> infer_instance

end StreamRun

/-- The reports of one stream: a stream of the peer begins with its one NEW_STREAM, the
payloads are what was read, and nothing follows the end. -/
structure LifeCycle (server : Bool) (streamId : ℕ) (events : List Emitted)
    (answers : List Answer) : Prop where
  opened : QuicConnection.peerInitiated server streamId = true →
    ∀ e ∈ (lifeOf streamId events).head?, e.eventType = .newStream
  once : QuicConnection.peerInitiated server streamId = true →
    ∀ e ∈ (lifeOf streamId events).tail, e.eventType ≠ .newStream
  payload : ((lifeOf streamId events).map JsH3Event.payload).flatten =
    answers.flatMap (Answer.bytesOn streamId)
  ended : ∀ e ∈ (lifeOf streamId events).dropLast, e.endsStream = false

/-- In every orderly run the reports of every stream are in order. -/
theorem quic_stream_life_cycle {server : Bool} {Q : Type} [Quiche Q] (ref : ConnRef)
    (connHandle : UInt32) {uid : ℕ} {q : Q} {connId : Bytes} {r : StreamRun server Q}
    (h : Runs.Reach (StreamRun.step ref connHandle) StreamRun.Orderly (.init uid q connId) r)
    (streamId : ℕ) : LifeCycle server streamId r.events r.conn.quicheConn.answers := by
  have htracked : r.Tracked := h.invariant (StreamRun.tracked_init uid q connId)
    fun i r hr hok => StreamRun.step_tracked ref connHandle i hr hok
  have htracks := htracked streamId
  exact ⟨htracks.opened, htracks.once, htracks.payload, htracks.ended⟩

/-- The scripted transport, with streams finished once their FIN has been read. -/
structure Finishing where
  script : Scripted
  finished : List ℕ

namespace Finishing

def streamRecv (p : Finishing) (streamId len : ℕ) :
    Except QuicheError (Bytes × Bool) × Finishing :=
  match Quiche.streamRecv p.script streamId len with
  | (.ok (data, true), script) => (.ok (data, true), ⟨script, streamId :: p.finished⟩)
  | (result, script) => (result, { p with script })

instance : Quiche Finishing :=
  { Quiche.within script (fun p script => { p with script }) fun script => ⟨script, []⟩ with
    streamRecv := streamRecv
    streamFinished := fun p streamId => streamId ∈ p.finished }

/-- A client's end with room to send, and data waiting. -/
def arrived (unread : List (ℕ × Bytes × Bool)) : Finishing :=
  ⟨{ Scripted.fresh [7] with client := true, capacity := 100, unread }, []⟩

/-- A request on stream 0, and its answer in two parts. -/
def exchange : List (StreamRun.Step Finishing) :=
  [.send 0 [1] false, .network (arrived [(0, [5], false)]), .poll 10,
    .network (arrived [(0, [6], true)]), .poll 10]

def exchanged : StreamRun false Finishing :=
  Runs.run (StreamRun.step ⟨0, 0⟩ 0) exchange (.init 0 (arrived []) [7])

theorem quic_stream_life_cycle_exchange :
    Runs.Admitted (StreamRun.step ⟨0, 0⟩ 0) StreamRun.Orderly exchange
        (.init 0 (arrived []) [7] : StreamRun false Finishing) ∧
      LifeCycle false 0 exchanged.events exchanged.conn.quicheConn.answers :=
  ⟨by decide, quic_stream_life_cycle ⟨0, 0⟩ 0 (Runs.Reach.start.run (by decide)) 0⟩

/-- Once more sent on the stream, and its end is reported again, although quiche brought
its FIN once. -/
theorem end_reported_twice : ∃ r : StreamRun false Finishing,
    Runs.Reach (StreamRun.step ⟨0, 0⟩ 0) (fun _ _ => True) (.init 0 (arrived []) [7]) r ∧
      r.conn.quicheConn.answers.countP (Answer.finOn 0) = 1 ∧
      (lifeOf 0 r.events).map JsH3Event.endsStream = [false, true, true] ∧
      ¬LifeCycle false 0 r.events r.conn.quicheConn.answers := by
  refine ⟨Runs.run (StreamRun.step ⟨0, 0⟩ 0) [.send 0 [2] false, .sweep 10] exchanged,
    (Runs.Reach.start.run (by decide)).run (by decide), by decide, by decide, ?_⟩
  intro h
  have hends := h.ended (.ofData 0 0 [6] true) (by decide)
  cases hends

end Finishing

end Http3
