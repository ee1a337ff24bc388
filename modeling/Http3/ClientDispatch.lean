import Http3.ReceiveWindow

/-! Dispatch of native events to the request streams of an HTTP/3 client in JavaScript, and when
every byte that arrives with them reaches its stream. -/

namespace Http3

/-- What a request stream emits to its listeners. -/
inductive StreamSignal
  | response (headers : Headers) (endStream : Bool)
  | trailers (headers : Headers)
  | aborted
  deriving DecidableEq

/-- The receiving side of a request stream. `emitted` and `pushed` record what listeners were
told, and what was pushed; no chunk is the end of the body. -/
structure ClientHttp3Stream where
  responseSeen : Bool := false
  destroyed : Bool := false
  emitted : List StreamSignal := []
  pushed : List (Option Bytes) := []
  deriving DecidableEq

namespace ClientHttp3Stream

def emit (stream : ClientHttp3Stream) (signal : StreamSignal) : ClientHttp3Stream :=
  { stream with emitted := stream.emitted ++ [signal] }

def pushData (stream : ClientHttp3Stream) (chunk : Option Bytes) : ClientHttp3Stream :=
  { stream with pushed := stream.pushed ++ [chunk] }

def pushSome (stream : ClientHttp3Stream) (data : Option Bytes) : ClientHttp3Stream :=
  match data with
  | some chunk => stream.pushData (some chunk)
  | none => stream

def onHeaders (stream : ClientHttp3Stream) (headers : Headers) (fin : Bool) (data : Option Bytes) :
    ClientHttp3Stream :=
  if stream.responseSeen then stream.emit (.trailers headers)
  else ({ stream with responseSeen := true }.emit (.response headers fin)).pushSome data

def bytes (stream : ClientHttp3Stream) : Bytes := (stream.pushed.filterMap id).flatten

end ClientHttp3Stream

/-- The streams of a session, by their identifiers. -/
structure Http3ClientSession where
  streams : KeyMap ℤ ClientHttp3Stream

namespace Http3ClientSession

def update (s : Http3ClientSession) (id : ℤ) (f : ClientHttp3Stream → ClientHttp3Stream) :
    Http3ClientSession :=
  match s.streams.lookup id with
  | some stream => ⟨s.streams.insert id (f stream)⟩
  | none => s

def onHeaders (s : Http3ClientSession) (e : JsH3Event) : Http3ClientSession :=
  match e.headers with
  | some headers => s.update e.streamId fun stream => stream.onHeaders headers e.fin e.data
  | none => s

def onData (s : Http3ClientSession) (e : JsH3Event) : Http3ClientSession :=
  s.update e.streamId fun stream => stream.pushSome e.data

def onFinished (s : Http3ClientSession) (e : JsH3Event) : Http3ClientSession :=
  s.update e.streamId fun stream => stream.pushData none

def onReset (s : Http3ClientSession) (e : JsH3Event) : Http3ClientSession :=
  ⟨s.streams.erase e.streamId⟩

/-- Requests from the announced one on are rejected. -/
def onGoaway (s : Http3ClientSession) (e : JsH3Event) : Http3ClientSession :=
  ⟨KeyMap.retain (fun id => id < e.streamId) s.streams⟩

/-- A failed stream is destroyed; it leaves the map when it has closed. -/
def onError (s : Http3ClientSession) (e : JsH3Event) : Http3ClientSession :=
  if 0 ≤ e.streamId then s.update e.streamId fun stream => { stream with destroyed := true } else s

/-- One event. Those left out do not concern the receiving side of a stream. -/
def dispatchEvent (s : Http3ClientSession) (e : JsH3Event) : Http3ClientSession :=
  match e.eventType with
  | .headers => s.onHeaders e
  | .data => s.onData e
  | .finished => s.onFinished e
  | .reset => s.onReset e
  | .sessionClose => ⟨∅⟩
  | .goaway => s.onGoaway e
  | .error => s.onError e
  | _ => s

def dispatchEvents (s : Http3ClientSession) (events : List JsH3Event) : Http3ClientSession :=
  events.foldl dispatchEvent s

def opened (id : ℤ) : Http3ClientSession := ⟨(∅ : KeyMap ℤ ClientHttp3Stream).insert id {}⟩

end Http3ClientSession

/-- What an event does to a stream in the map; none if it leaves the map. -/
def ClientHttp3Stream.receive (id : ℤ) (stream : ClientHttp3Stream) (e : JsH3Event) :
    Option ClientHttp3Stream :=
  match e.eventType with
  | .sessionClose => none
  | .goaway => if id < e.streamId then some stream else none
  | type =>
    if e.streamId = id then
      match type with
      | .headers => some (e.headers.elim stream fun headers =>
          stream.onHeaders headers e.fin e.data)
      | .data => some (stream.pushSome e.data)
      | .finished => some (stream.pushData none)
      | .reset => none
      | .error => some (if 0 ≤ id then { stream with destroyed := true } else stream)
      | _ => some stream
    else some stream

namespace Http3ClientSession

variable (s : Http3ClientSession) (id : ℤ) (e : JsH3Event)

theorem lookup_update (id' : ℤ) (f : ClientHttp3Stream → ClientHttp3Stream) :
    (s.update id' f).streams.lookup id =
      if id' = id then (s.streams.lookup id).map f else s.streams.lookup id := by
  unfold update
  by_cases hid : id' = id
  · subst hid
    rw [if_pos rfl]
    cases hlookup : s.streams.lookup id' with
    | none => exact hlookup
    | some stream => exact AList.lookup_insert _
  · rw [if_neg hid]
    split
    · exact AList.lookup_insert_ne (Ne.symm hid)
    · rfl

/-- Streams see only the events for them. -/
theorem lookup_dispatchEvent :
    (s.dispatchEvent e).streams.lookup id =
      (s.streams.lookup id).bind fun stream => stream.receive id e := by
  have hkeep : (s.streams.lookup id).bind some = s.streams.lookup id := Option.bind_fun_some _
  have hmap : ∀ f : ClientHttp3Stream → ClientHttp3Stream,
      (s.streams.lookup id).map f = (s.streams.lookup id).bind fun stream => some (f stream) := by
    intro f
    cases s.streams.lookup id <;> rfl
  unfold dispatchEvent ClientHttp3Stream.receive
  cases htype : e.eventType with
  | headers =>
    unfold onHeaders
    cases e.headers with
    | none => split_ifs <;> exact hkeep.symm
    | some headers =>
      dsimp only
      rw [lookup_update]
      split_ifs
      · exact hmap _
      · exact hkeep.symm
  | data | finished =>
    unfold onData onFinished
    dsimp only
    rw [lookup_update]
    split_ifs
    · exact hmap _
    · exact hkeep.symm
  | reset =>
    unfold onReset
    dsimp only
    split_ifs with hid
    · rw [hid, AList.lookup_erase]
      exact (Option.bind_fun_none _).symm
    · rw [AList.lookup_erase_ne (Ne.symm hid)]
      exact hkeep.symm
  | sessionClose => exact (Option.bind_fun_none _).symm
  | goaway =>
    unfold onGoaway
    dsimp only
    rw [KeyMap.lookup_retain]
    by_cases hless : id < e.streamId
    · simp [hless]
    · simp [hless]
  | error =>
    unfold onError
    dsimp only
    by_cases hid : e.streamId = id
    · simp only [hid, if_true]
      split_ifs
      · rw [lookup_update, if_pos rfl]
        exact hmap _
      · exact hkeep.symm
    · simp only [hid, if_false]
      split_ifs
      · rw [lookup_update, if_neg hid]
        exact hkeep.symm
      · exact hkeep.symm
  | _ => split_ifs <;> exact hkeep.symm

theorem lookup_dispatchEvents (events : List JsH3Event) :
    (s.dispatchEvents events).streams.lookup id =
      (s.streams.lookup id).bind fun stream =>
        events.foldlM (ClientHttp3Stream.receive id) stream := by
  induction events generalizing s with
  | nil => exact (Option.bind_fun_some _).symm
  | cons e events ih =>
    refine (ih (s.dispatchEvent e)).trans ?_
    rw [lookup_dispatchEvent, Option.bind_assoc]
    rfl

end Http3ClientSession

def carried (id : ℤ) (e : JsH3Event) : Bytes :=
  if e.streamId = id ∧ (e.eventType = .headers ∨ e.eventType = .data) then e.payload else []

def isHeadersOf (id : ℤ) (e : JsH3Event) : Bool :=
  e.streamId == id && e.eventType == .headers && e.headers.isSome

/-- Bytes do not ride on headers after the first. -/
def Rides (id : ℤ) (seen : Bool) (e : JsH3Event) : Prop :=
  e.streamId = id → e.eventType = .headers → e.payload ≠ [] →
    seen = false ∧ e.headers.isSome = true

instance (id : ℤ) (seen : Bool) (e : JsH3Event) : Decidable (Rides id seen e) :=
  inferInstanceAs (Decidable (_ → _ → _ → _))

/-- Among the events of a stream, bytes ride on its first headers only. -/
def RidesFirst (id : ℤ) : Bool → List JsH3Event → Prop
  | _, [] => True
  | seen, e :: events => Rides id seen e ∧ RidesFirst id (seen || isHeadersOf id e) events

instance RidesFirst.decidable (id : ℤ) :
    (seen : Bool) → (events : List JsH3Event) → Decidable (RidesFirst id seen events)
  | _, [] => .isTrue trivial
  | seen, e :: events =>
    have := RidesFirst.decidable id (seen || isHeadersOf id e) events
    inferInstanceAs (Decidable (_ ∧ _))

namespace ClientHttp3Stream

variable {id : ℤ} {stream stream' : ClientHttp3Stream} {e : JsH3Event}

@[simp] theorem bytes_pushSome (stream : ClientHttp3Stream) (data : Option Bytes) :
    (stream.pushSome data).bytes = stream.bytes ++ data.getD [] := by
  cases data <;> simp [pushSome, pushData, bytes]

theorem receive_other (hother : ¬(e.streamId = id ∧ e.eventType = .headers))
    (h : stream.receive id e = some stream') :
    stream'.responseSeen = stream.responseSeen ∧ stream'.bytes = stream.bytes ++ carried id e := by
  unfold receive at h
  unfold carried
  by_cases hid : e.streamId = id
  · have hnot : e.eventType ≠ .headers := fun htype => hother ⟨hid, htype⟩
    cases htype : e.eventType with
    | headers => exact absurd htype hnot
    | data =>
      simp only [htype, hid, if_true, Option.some.injEq] at h
      subst h
      constructor
      · cases e.data <;> rfl
      · simp [hid, JsH3Event.payload]
    | finished =>
      simp only [htype, hid, if_true, Option.some.injEq] at h
      subst h
      simp [pushData, bytes]
    | goaway =>
      simp only [htype, hid, lt_irrefl, if_false] at h
      cases h
    | error =>
      simp only [htype, hid, if_true, Option.some.injEq] at h
      subst h
      simp only [reduceCtorEq, or_self, and_false, if_false, List.append_nil]
      split_ifs <;> exact ⟨rfl, rfl⟩
    | reset | sessionClose => simp [htype, hid] at h
    | _ =>
      simp only [htype, hid, if_true, Option.some.injEq] at h
      subst h
      simp
  · have hsame : stream' = stream := by
      split at h
      · cases h
      · split_ifs at h
        exact (Option.some.inj h).symm
      · rw [if_neg hid] at h
        exact (Option.some.inj h).symm
    subst hsame
    simp [hid]

/-- What one event leaves of the bytes it carries: all of them, unless they ride on later
headers. -/
theorem receive_spec (h : stream.receive id e = some stream') :
    stream'.responseSeen = (stream.responseSeen || isHeadersOf id e) ∧
      (Rides id stream.responseSeen e ∧ stream'.bytes = stream.bytes ++ carried id e ∨
        ¬Rides id stream.responseSeen e ∧ carried id e ≠ [] ∧ stream'.bytes = stream.bytes) := by
  by_cases hheaders : e.streamId = id ∧ e.eventType = .headers
  · obtain ⟨hid, htype⟩ := hheaders
    have hcarried : carried id e = e.payload := by simp [carried, hid, htype]
    have hrides : Rides id stream.responseSeen e ↔
        (e.payload ≠ [] → stream.responseSeen = false ∧ e.headers.isSome = true) := by
      simp [Rides, hid, htype]
    simp only [receive, htype, hid, if_true, Option.some.injEq] at h
    subst h
    rw [hrides, hcarried]
    cases hlist : e.headers with
    | none =>
      refine ⟨by simp [isHeadersOf, hlist], ?_⟩
      by_cases hempty : e.payload = [] <;> simp [hempty]
    | some headers =>
      have hseen : isHeadersOf id e = true := by simp [isHeadersOf, hid, htype, hlist]
      rw [hseen]
      simp only [Option.elim_some, onHeaders]
      split_ifs with hlater
      · refine ⟨by simp [emit, hlater], ?_⟩
        by_cases hempty : e.payload = [] <;> simp [hempty, hlater, emit, bytes]
      · refine ⟨?_, .inl ⟨?_, ?_⟩⟩
        · cases e.data <;> simp [pushSome, pushData, emit]
        · simp [Bool.not_eq_true _ ▸ hlater]
        · rw [bytes_pushSome]
          rfl
  · have hnot : isHeadersOf id e = false := by
      by_contra htrue
      simp only [isHeadersOf, Bool.not_eq_false, Bool.and_eq_true, beq_iff_eq] at htrue
      exact hheaders htrue.1
    obtain ⟨hseen, hbytes⟩ := receive_other hheaders h
    rw [hnot, Bool.or_false]
    exact ⟨hseen, .inl ⟨fun hid htype => absurd ⟨hid, htype⟩ hheaders, hbytes⟩⟩

theorem foldlM_receive (events : List JsH3Event)
    (h : events.foldlM (receive id) stream = some stream') :
    stream'.bytes.length ≤ stream.bytes.length + (events.flatMap (carried id)).length ∧
      (stream'.bytes = stream.bytes ++ events.flatMap (carried id) ↔
        RidesFirst id stream.responseSeen events) := by
  induction events generalizing stream with
  | nil =>
    cases h
    simp [RidesFirst]
  | cons e events ih =>
    rw [List.foldlM_cons] at h
    obtain ⟨next, hnext, hrest⟩ := Option.bind_eq_some_iff.1 h
    obtain ⟨hlen, hiff⟩ := ih hrest
    obtain ⟨hseen, hstep⟩ := receive_spec hnext
    rw [hseen] at hiff
    rw [List.flatMap_cons, List.length_append]
    rcases hstep with ⟨hrides, hbytes⟩ | ⟨hrides, hcarried, hbytes⟩
    · rw [hbytes, List.length_append] at hlen
      rw [hbytes, List.append_assoc] at hiff
      exact ⟨by omega, hiff.trans ⟨fun hfirst => ⟨hrides, hfirst⟩, And.right⟩⟩
    · rw [hbytes] at hlen
      have hlost := List.length_pos_iff.2 hcarried
      refine ⟨by omega, ⟨fun heq => ?_, fun hfirst => absurd hfirst.1 hrides⟩⟩
      rw [heq] at hlen
      simp only [List.length_append] at hlen
      omega

end ClientHttp3Stream

/-- As long as a request stream stays in the map, the bytes pushed to it are those its events
carry, exactly if they ride on its first headers only. -/
theorem response_bytes_delivered_iff (id : ℤ) (events : List JsH3Event)
    {stream : ClientHttp3Stream}
    (hstays : ((Http3ClientSession.opened id).dispatchEvents events).streams.lookup id =
      some stream) :
    stream.bytes = events.flatMap (carried id) ↔ RidesFirst id false events := by
  have hopened : (Http3ClientSession.opened id).streams.lookup id = some {} := AList.lookup_insert _
  rw [Http3ClientSession.lookup_dispatchEvents, hopened, Option.bind_some] at hstays
  exact (ClientHttp3Stream.foldlM_receive events hstays).2

theorem bodyLog_bytes (streamId : ℕ) (events : List Emitted) :
    (bodyLog streamId events).bytes = (events.map Emitted.event).flatMap (carried streamId) := by
  have hadd : ∀ (log : BodyLog) (e : JsH3Event),
      (log.add streamId e).bytes = log.bytes ++ carried streamId e := by
    intro log e
    unfold BodyLog.add carried
    by_cases hid : e.streamId = streamId
    · cases htype : e.eventType <;> simp [hid, BodyLog.take]
    · simp [hid]
  induction events using List.reverseRecOn with
  | nil => rfl
  | append_singleton events e ih =>
    rw [bodyLog_append_one, hadd, ih]
    simp

/-- What a client reads off the transport for a request is what its stream pushes. -/
theorem response_bytes_read {Q : Type} [Quiche Q] (hnever : NeverEmpty Q)
    (hrounds : ∀ q : Q, h3RecvChunk < Quiche.rounds q) (ref : ConnRef) (connHandle : UInt32)
    (streamId size uid : ℕ) (q : Q) (connId : Bytes) {r : H3BodyRun false Q}
    (hreach : Runs.Reach (H3BodyRun.step ref connHandle) (H3BodyRun.NotReset streamId)
      (.init uid q connId (some size)) r) {stream : ClientHttp3Stream}
    (hstays : ((Http3ClientSession.opened streamId).dispatchEvents
      (r.events.map Emitted.event)).streams.lookup (streamId : ℤ) = some stream)
    (hrides : RidesFirst streamId false (r.events.map Emitted.event)) :
    stream.bytes = receivedOn streamId r.answers := by
  have hsettled := H3BodyRun.reach_settled hnever hrounds hreach
  have hopened : (Http3ClientSession.opened streamId).streams.lookup (streamId : ℤ) = some {} :=
    AList.lookup_insert _
  rw [Http3ClientSession.lookup_dispatchEvents, hopened, Option.bind_some] at hstays
  have hdelivered := (ClientHttp3Stream.foldlM_receive _ hstays).2.2 hrides
  rw [← bodyLog_bytes] at hdelivered
  exact hdelivered.trans hsettled.sound.whole

namespace ClientDispatch

def polled : H3BodyRun false Bodied :=
  .step ⟨0, 0⟩ 0 (.poll 8)
    (.init 0 (.start [(0, .headers [] true), (0, .data)] 3) [7] (some 9))

theorem response_bytes_read_polled :
    ∃ stream : ClientHttp3Stream, stream.bytes = [7, 7, 7] ∧
      stream.bytes = receivedOn 0 polled.answers := by
  have hstays : ((Http3ClientSession.opened 0).dispatchEvents
      (polled.events.map Emitted.event)).streams.lookup 0 =
        some ⟨true, false, [.response [] false], [some [7, 7, 7]]⟩ := by
    decide +kernel
  exact ⟨_, rfl, response_bytes_read Bodied.neverEmpty
    (fun _ => show h3RecvChunk < 2 ^ 17 by decide) ⟨0, 0⟩ 0 0 9 0 _ _
    (.next _ .start (by decide +kernel)) hstays (by decide +kernel)⟩

/-- A response with a body, polled once; `interim` is the number of interim responses. -/
def response (interim : ℕ) : List JsH3Event :=
  (H3BodyRun.step ⟨0, 0⟩ 0 (.poll 8) (.init 0 (.h3
    (List.replicate interim (0, .headers [(":status", "103")] true) ++
      [(0, .headers [(":status", "200")] true), (0, .data)])
    [.ok [1, 2, 3]]) [7] none : H3BodyRun false Recited)).events.map Emitted.event

theorem response_bytes_delivered_iff_final :
    ((Http3ClientSession.opened 0).dispatchEvents (response 0)).streams.lookup 0 =
        some ⟨true, false, [.response [(":status", "200")] false], [some [1, 2, 3]]⟩ ∧
      RidesFirst 0 false (response 0) ∧ (response 0).flatMap (carried 0) = [1, 2, 3] := by
  have hstays : ((Http3ClientSession.opened 0).dispatchEvents (response 0)).streams.lookup 0 =
      some ⟨true, false, [.response [(":status", "200")] false], [some [1, 2, 3]]⟩ := by
    decide +kernel
  have hrides : RidesFirst 0 false (response 0) := by decide +kernel
  exact ⟨hstays, hrides, ((response_bytes_delivered_iff 0 (response 0) hstays).2 hrides).symm⟩

/-- The body of a final response rides on its headers, which after an interim response are taken
for trailers. -/
theorem body_lost_after_interim :
    ((Http3ClientSession.opened 0).dispatchEvents (response 1)).streams.lookup 0 =
        some ⟨true, false, [.response [(":status", "103")] false,
          .trailers [(":status", "200")]], []⟩ ∧
      (response 1).flatMap (carried 0) = [1, 2, 3] := by
  decide +kernel

end ClientDispatch

end Http3
