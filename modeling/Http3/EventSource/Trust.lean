import Http3.EventSource

/-! Which responses an event source reads messages from. The listeners of a stream are separate
callbacks on one object: what its response turned out to be does not reach the one for data. -/

namespace Http3

open TextStream

/-- What `_emitError` is called with. -/
inductive SourceError
  | unexpected (status contentType : Option Text)
  | failed (text : Text)

/-- Options of the source, and what its listeners do. `closesOn` and `closesAt`: a listener calls
`close()`. `throwsOn`: one throws, or nobody listens for errors. -/
structure SourceConfig where
  reconnect : Bool
  closesOn : SourceError → Bool
  throwsOn : SourceError → Bool
  closesAt : EventSourceMessage → Bool

/-- How far the connection is. -/
inductive Link
  /-- `_startConnection` waits for the session before to close. -/
  | starting
  | connecting
  /-- The listeners are on the stream; `rejected`: so was the response it has had. -/
  | streaming ( rejected : Bool)
  | down
  deriving DecidableEq

/-- The source with its connection. Not part of the program is `leaked`: a line was taken in that
the source should not have listened to. -/
structure SourceConnection where
  source : EventSource
  config : SourceConfig
  closed : Bool
  reconnectTimer : Bool
  link : Link
  leaked : Bool

inductive SourceEvent
  /-- The wait of `_startConnection` is over, and the session is made. -/
  | started
  /-- The session does not close, or the next one cannot be made. -/
  | startFailed (err : SourceError)
  | connected
  | sessionError (err : SourceError)
  | sessionClosed
  | response (status contentType : Option Text)
  | data (chunk : Bytes)
  /-- `end` or `aborted` -/
  | ended
  | streamError (err : SourceError)
  | timer
  | close

namespace SourceConnection

def new (source : EventSource) (config : SourceConfig) : SourceConnection :=
  ⟨source, config, false, false, .starting, false⟩

/-- `_closeSession` takes the listeners off the stream before it waits for anything. -/
def close (c : SourceConnection) : SourceConnection :=
  if c.closed then c else { c with closed := true, reconnectTimer := false, link := .down }

def scheduleReconnect (c : SourceConnection) : SourceConnection :=
  if c.closed then c
  else if c.config.reconnect then { c with reconnectTimer := true }
  else c.close

/-- `_emitError`, and `_scheduleReconnect` unless it throws. -/
def emitError (err : SourceError) (c : SourceConnection) : SourceConnection :=
  let c' := if c.config.closesOn err then c.close else c
  if c.config.throwsOn err then c' else c'.scheduleReconnect

/-- No ASCII letter of the type is the lower case of anything but ASCII. -/
def accepted (status contentType : Option Text) : Bool :=
  status = some "200".toList ∧
    "text/event-stream".toList <:+: (contentType.getD []).map Char.toLower

/-- Nothing of the body may count: the source is closed, or the response was rejected. -/
def untrusted (c : SourceConnection) : Bool := c.closed || c.link = .streaming true

/-- A line of the body. The listeners of a message are called in the middle of it. -/
def processLine (line : Text) (c : SourceConnection) : Bool × SourceConnection :=
  let (thrown, source) := c.source.processLine line
  let emits := line.length = 0 ∧ c.source.currentData.length ≠ 0
  let counts := emits ∨ source.lastEventId ≠ c.source.lastEventId ∨
    source.retryMs ≠ c.source.retryMs
  let c' := { c with source, leaked := c.leaked || (c.untrusted && counts) }
  (thrown, if emits ∧ c.config.closesAt c.source.message then c'.close else c')

/-- The loop of `_onChunk`; it does not ask whether a listener has closed the source. -/
def drainBuffer : ℕ → SourceConnection → SourceConnection
  | 0, c => c
  | fuel + 1, c =>
    match c.source.buffer.dropWhile (· ≠ '\n') with
    | [] => c
    | _ :: buffer =>
      match { c with source := { c.source with buffer } }.processLine
        (stripCr (c.source.buffer.takeWhile (· ≠ '\n'))) with
      | (true, c) => c
      | (false, c) => drainBuffer fuel c

def onChunk (chunk : Bytes) (c : SourceConnection) : SourceConnection :=
  let (text, decoder) := c.source.decoder.decode chunk
  drainBuffer (c.source.buffer ++ text).length
    { c with source := { c.source with decoder, buffer := c.source.buffer ++ text } }

def onResponse (status contentType : Option Text) (c : SourceConnection) : SourceConnection :=
  if accepted status contentType then { c with link := .streaming false }
  else { c with link := .streaming true }.emitError (.unexpected status contentType)

/-- A callback of the current session, and one of the current stream. -/
def onSession (f : SourceConnection → SourceConnection) (c : SourceConnection) : SourceConnection :=
  if c.link = .starting ∨ c.link = .down then c else f c

def onStream (f : SourceConnection → SourceConnection) (c : SourceConnection) : SourceConnection :=
  if c.link = .connecting then c else c.onSession f

def step (c : SourceConnection) : SourceEvent → SourceConnection
  | .started => if c.link = .starting ∧ ¬c.closed then { c with link := .connecting } else c
  | .startFailed err => if c.link = .starting then { c with link := .down }.emitError err else c
  | .connected => if c.link = .connecting then { c with link := .streaming false } else c
  | .sessionError err => c.onSession (emitError err)
  | .sessionClosed => c.onSession scheduleReconnect
  | .response status contentType => c.onStream (onResponse status contentType)
  | .data chunk => c.onStream (onChunk chunk)
  | .ended => c.onStream scheduleReconnect
  | .streamError err => c.onStream (emitError err)
  | .timer =>
    if c.reconnectTimer then
      if c.closed then { c with reconnectTimer := false }
      else { c with reconnectTimer := false, link := .starting }
    else c
  | .close => c.close

/-- Every rejected response takes the listeners off: one for errors closes the source, or they
let it give up on the connection. -/
def Guarded (config : SourceConfig) : Prop :=
  ∀ status contentType, accepted status contentType = false →
    config.closesOn (.unexpected status contentType) = true ∨
      config.throwsOn (.unexpected status contentType) = false ∧ config.reconnect = false

section Lines

variable {c : SourceConnection}

@[simp]
theorem source_close : c.close.source = c.source := by
  unfold close
  split <;> rfl

theorem processLine_source (line : Text) (c : SourceConnection) : c.source.processLine line =
    ((c.processLine line).1, (c.processLine line).2.source) := by
  dsimp only [processLine]
  split_ifs
  · rw [source_close]
  · rfl

/-- The connection reads a body as the parser alone does. -/
theorem source_drainBuffer (fuel : ℕ) :
    (c.drainBuffer fuel).source = c.source.drainBuffer fuel := by
  induction fuel generalizing c with
  | zero => rfl
  | succ fuel ih =>
    unfold drainBuffer EventSource.drainBuffer
    cases c.source.buffer.dropWhile (· ≠ '\n') with
    | nil => rfl
    | cons _ buffer =>
      have hline := processLine_source (stripCr (c.source.buffer.takeWhile (· ≠ '\n')))
        { c with source := { c.source with buffer } }
      dsimp only at hline ⊢
      rw [hline]
      rcases processLine _ _ with ⟨_ | _, c'⟩
      · exact ih
      · rfl

theorem source_onChunk (chunk : Bytes) : (c.onChunk chunk).source = c.source.onChunk chunk :=
  source_drainBuffer _

variable (hstay : ∀ m, c.config.closesAt m = false)
include hstay

theorem processLine_trusted (hc : c.untrusted = false) (line : Text) :
    ∃ source, (c.processLine line).2 = { c with source } := by
  refine ⟨(c.source.processLine line).2, ?_⟩
  simp [processLine, hstay, hc]

theorem drainBuffer_trusted (hc : c.untrusted = false) (fuel : ℕ) :
    ∃ source, c.drainBuffer fuel = { c with source } := by
  induction fuel generalizing c with
  | zero => exact ⟨c.source, rfl⟩
  | succ fuel ih =>
    unfold drainBuffer
    split
    · exact ⟨c.source, rfl⟩
    · rename_i buffer _
      obtain ⟨source, hline⟩ := processLine_trusted
        (c := { c with source := { c.source with buffer } }) hstay hc
        (stripCr (c.source.buffer.takeWhile (· ≠ '\n')))
      split
      · rename_i heq
        rw [heq] at hline
        exact ⟨source, hline⟩
      · rename_i heq
        rw [heq] at hline
        subst hline
        exact ih hstay hc

theorem onChunk_trusted (hc : c.untrusted = false) (chunk : Bytes) :
    ∃ source, c.onChunk chunk = { c with source } := by
  obtain ⟨source, heq⟩ := drainBuffer_trusted (c := { c with source := { c.source with
    decoder := (c.source.decoder.decode chunk).2
    buffer := c.source.buffer ++ (c.source.decoder.decode chunk).1 } }) hstay hc _
  exact ⟨source, heq⟩

end Lines

/-- The source listens to nothing that it should not listen to. -/
structure Trusted (config : SourceConfig) (c : SourceConnection) : Prop where
  config : c.config = config
  leaked : c.leaked = false
  link : c.link ≠ .streaming true
  closed : c.closed = true → c.link = .down

section Steps

variable {config : SourceConfig} {c : SourceConnection}

theorem close_trusted (hconfig : c.config = config) (hleaked : c.leaked = false)
    (hclosed : c.closed = true → c.link = .down) : c.close.Trusted config := by
  unfold close
  split_ifs with h
  · exact ⟨hconfig, hleaked, by simp [hclosed h], hclosed⟩
  · exact ⟨hconfig, hleaked, by simp, fun _ => rfl⟩

theorem Trusted.scheduleReconnect (h : c.Trusted config) :
    c.scheduleReconnect.Trusted config := by
  unfold SourceConnection.scheduleReconnect
  split_ifs
  · exact h
  · exact ⟨h.config, h.leaked, h.link, h.closed⟩
  · exact close_trusted h.config h.leaked h.closed

theorem Trusted.emitError (h : c.Trusted config) (err : SourceError) :
    (c.emitError err).Trusted config := by
  have hclose : (if c.config.closesOn err then c.close else c).Trusted config := by
    split_ifs
    · exact close_trusted h.config h.leaked h.closed
    · exact h
  dsimp only [SourceConnection.emitError]
  split_ifs at hclose ⊢
  all_goals first | exact hclose | exact hclose.scheduleReconnect

/-- The listeners are taken off before a byte of the rejected body comes. -/
theorem Guarded.rejected (h : Guarded config) (hconfig : c.config = config)
    (hleaked : c.leaked = false) (hopen : c.closed = false) {status contentType : Option Text}
    (hrejected : accepted status contentType = false) :
    (c.emitError (.unexpected status contentType)).Trusted config := by
  have hclose : c.close.Trusted config := close_trusted hconfig hleaked (by simp [hopen])
  rw [← hconfig] at h
  dsimp only [emitError]
  rcases h status contentType hrejected with hcloses | ⟨hthrows, hreconnect⟩
  · rw [if_pos hcloses]
    split_ifs
    · exact hclose
    · exact hclose.scheduleReconnect
  · have hgivesUp : c.scheduleReconnect = c.close := by simp [scheduleReconnect, hopen, hreconnect]
    rw [if_neg (by simp [hthrows])]
    split_ifs
    · exact hclose.scheduleReconnect
    · rw [hgivesUp]
      exact hclose

theorem Trusted.onSession {f : SourceConnection → SourceConnection} (h : c.Trusted config)
    (hf : c.closed = false → (f c).Trusted config) : (c.onSession f).Trusted config := by
  unfold SourceConnection.onSession
  split_ifs with hlink
  · exact h
  · refine hf (Bool.eq_false_iff.2 fun hclosed => hlink (.inr (h.closed hclosed)))

theorem Trusted.onStream {f : SourceConnection → SourceConnection} (h : c.Trusted config)
    (hf : c.closed = false → (f c).Trusted config) : (c.onStream f).Trusted config := by
  unfold SourceConnection.onStream
  split_ifs
  · exact h
  · exact h.onSession hf

theorem Trusted.step (hstay : ∀ m, config.closesAt m = false) (hguarded : Guarded config)
    (h : c.Trusted config) (e : SourceEvent) : (c.step e).Trusted config := by
  cases e with
  | response status contentType =>
    refine h.onStream fun hopen => ?_
    unfold onResponse
    split_ifs with haccepted
    · exact ⟨h.config, h.leaked, by simp, by simp [hopen]⟩
    · exact hguarded.rejected (c := { c with link := .streaming true }) h.config h.leaked hopen
        (by simpa using haccepted)
  | data chunk =>
    refine h.onStream fun hopen => ?_
    have hc : c.untrusted = false := by simp [untrusted, hopen, h.link]
    obtain ⟨source, heq⟩ := onChunk_trusted (h.config ▸ hstay) hc chunk
    rw [heq]
    exact ⟨h.config, h.leaked, h.link, h.closed⟩
  | sessionError err => exact h.onSession fun _ => h.emitError err
  | sessionClosed => exact h.onSession fun _ => h.scheduleReconnect
  | ended => exact h.onStream fun _ => h.scheduleReconnect
  | streamError err => exact h.onStream fun _ => h.emitError err
  | close => exact close_trusted h.config h.leaked h.closed
  | started =>
    dsimp only [SourceConnection.step]
    split_ifs with hlink
    · exact ⟨h.config, h.leaked, by simp, fun hc => absurd hc hlink.2⟩
    · exact h
  | startFailed err =>
    dsimp only [SourceConnection.step]
    split_ifs
    · exact Trusted.emitError (c := { c with link := .down })
        ⟨h.config, h.leaked, by simp, fun _ => rfl⟩ err
    · exact h
  | connected =>
    dsimp only [SourceConnection.step]
    split_ifs with hlink
    · exact ⟨h.config, h.leaked, by simp, fun hc => by simp [h.closed hc] at hlink⟩
    · exact h
  | timer =>
    dsimp only [SourceConnection.step]
    split_ifs with _ hclosed
    · exact ⟨h.config, h.leaked, h.link, h.closed⟩
    · exact ⟨h.config, h.leaked, by simp, fun hc => absurd hc hclosed⟩
    · exact h

end Steps

variable (url : SourceUrl) (headers : List (String × Text)) (initialRetryMs maxRetryMs : Option ℕ)
  (throws : EventSourceMessage → Bool)

end SourceConnection

end Http3
