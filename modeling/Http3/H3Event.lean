import Http3.PendingWrite
import Mathlib.Data.UInt

/-! Events a worker thread hands to JavaScript. -/

namespace Http3

abbrev Headers := List (String × String)

inductive EventType
  | newSession | newStream | headers | data | finished | reset | sessionClose | drain | goaway
  | error | handshakeComplete | sessionTicket | metrics | datagram | shutdownComplete
  | streamBlocked | pingAck | writeReady
  deriving DecidableEq, Repr

/-- Metadata of rare events; every field is absent unless a constructor sets it. -/
structure JsEventMeta where
  errorCode : Option ℕ := none
  errorReason : Option String := none
  errorCategory : Option String := none
  remoteAddr : Option String := none
  remotePort : Option ℕ := none
  serverName : Option String := none
  reasonCode : Option String := none
  runtimeDriver : Option String := none
  errno : Option ℤ := none
  syscall : Option String := none
  peerCertificatePresented : Option Bool := none
  peerCertificateChain : Option (List Bytes) := none
  durationMs : Option ℕ := none
  deriving DecidableEq, Repr

structure JsH3Event where
  eventType : EventType
  connHandle : UInt32
  streamId : ℤ := -1
  headers : Option Headers := none
  data : Option Bytes := none
  fin : Bool := false
  info : Option JsEventMeta := none
  deriving DecidableEq

namespace JsH3Event

def newSession (connHandle : UInt32) (remoteAddr : String) (remotePort : ℕ)
    (serverName : String) : JsH3Event :=
  { eventType := .newSession, connHandle,
    info := some { remoteAddr := some remoteAddr, remotePort := some remotePort,
                   serverName := some serverName } }

def newStream (connHandle : UInt32) (streamId : ℕ) : JsH3Event :=
  { eventType := .newStream, connHandle, streamId }

/-- NEW_STREAM with the first data and FIN folded in. -/
def newStreamWithData (connHandle : UInt32) (streamId : ℕ) (data : Bytes) (fin : Bool) :
    JsH3Event :=
  { eventType := .newStream, connHandle, streamId,
    data := if data.isEmpty then none else some data, fin }

def ofHeaders (connHandle : UInt32) (streamId : ℕ) (headers : Headers) (fin : Bool) : JsH3Event :=
  { eventType := .headers, connHandle, streamId, headers := some headers, fin }

def ofData (connHandle : UInt32) (streamId : ℕ) (data : Bytes) (fin : Bool) : JsH3Event :=
  { eventType := .data, connHandle, streamId, data := some data, fin }

def finished (connHandle : UInt32) (streamId : ℕ) : JsH3Event :=
  { eventType := .finished, connHandle, streamId }

def reset (connHandle : UInt32) (streamId errorCode : ℕ) : JsH3Event :=
  { eventType := .reset, connHandle, streamId,
    info := some { errorCode := some (errorCode % 2 ^ 32) } }

def sessionClose (connHandle : UInt32) : JsH3Event := { eventType := .sessionClose, connHandle }

def sessionCloseWithError (connHandle : UInt32) (errorCode : ℕ) (reason : String) : JsH3Event :=
  { eventType := .sessionClose, connHandle,
    info := some { errorCode := some (min errorCode (2 ^ 32 - 1)), errorReason := some reason } }

def drain (connHandle : UInt32) (streamId : ℕ) : JsH3Event :=
  { eventType := .drain, connHandle, streamId }

def streamBlocked (connHandle : UInt32) (streamId : ℕ) : JsH3Event :=
  { eventType := .streamBlocked, connHandle, streamId }

def writeReady (connHandle : UInt32) : JsH3Event := { eventType := .writeReady, connHandle }

def goaway (connHandle : UInt32) (streamId : ℕ) : JsH3Event :=
  { eventType := .goaway, connHandle, streamId }

def error (connHandle : UInt32) (streamId : ℤ) (errorCode : ℕ) (reason : String) : JsH3Event :=
  { eventType := .error, connHandle, streamId,
    info := some { errorCode := some errorCode, errorReason := some reason } }

def runtimeError (connHandle : UInt32) (driver syscall reasonCode reason : String)
    (errno : Option ℤ) : JsH3Event :=
  { eventType := .error, connHandle,
    info := some { errorReason := some reason, errorCategory := some "runtime",
                   reasonCode := some reasonCode, runtimeDriver := some driver,
                   errno, syscall := some syscall } }

def handshakeComplete (connHandle : UInt32) : JsH3Event :=
  { eventType := .handshakeComplete, connHandle }

def handshakeCompleteWithPeerCertificate (connHandle : UInt32) (presented : Bool)
    (chain : Option (List Bytes)) : JsH3Event :=
  { eventType := .handshakeComplete, connHandle,
    info := some { peerCertificatePresented := some presented, peerCertificateChain := chain } }

def sessionTicket (connHandle : UInt32) (ticket : Bytes) : JsH3Event :=
  { eventType := .sessionTicket, connHandle, data := some ticket }

def datagram (connHandle : UInt32) (data : Bytes) : JsH3Event :=
  { eventType := .datagram, connHandle, data := some data }

def pingAck (connHandle : UInt32) (durationMs : ℕ) : JsH3Event :=
  { eventType := .pingAck, connHandle, info := some { durationMs := some durationMs } }

/-- Sentinel emitted as the last event before a worker thread exits. -/
def shutdownComplete : JsH3Event := { eventType := .shutdownComplete, connHandle := 0 }

/-- Whether a DATA event can ride on the HEADERS event before it. -/
def coalesces (last dataEvent : JsH3Event) : Bool :=
  last.eventType == .headers && dataEvent.eventType == .data &&
    last.connHandle == dataEvent.connHandle && last.streamId == dataEvent.streamId &&
    last.data.isNone && !last.fin && !dataEvent.fin

theorem eventType_of_coalesces {last dataEvent : JsH3Event}
    (h : last.coalesces dataEvent = true) : last.eventType = .headers := by
  simp only [coalesces, Bool.and_eq_true, beq_iff_eq] at h
  exact h.1.1.1.1.1.1

end JsH3Event

/-- Which accepted connection an event is about: the slab slot and the position
of the connection in the order of acceptance. Kept beside the event for the
statements; JavaScript sees the handle only. -/
structure ConnRef where
  slot : ℕ
  uid : ℕ
  deriving DecidableEq, Repr

/-- An event in a batch. Events of the worker itself have no owner. -/
structure Emitted where
  owner : Option ConnRef
  event : JsH3Event
  deriving DecidableEq

def pushFor (ref : ConnRef) (event : JsH3Event) (batch : List Emitted) : List Emitted :=
  batch ++ [⟨some ref, event⟩]

def pushWorker (event : JsH3Event) (batch : List Emitted) : List Emitted := batch ++ [⟨none, event⟩]

/-- Append a DATA event, or fold it into the HEADERS event just before it. -/
def pushCoalescing (ref : ConnRef) (dataEvent : JsH3Event) (batch : List Emitted) :
    Bool × List Emitted :=
  match batch.getLast? with
  | some last =>
    if last.event.coalesces dataEvent then
      (false, batch.dropLast ++ [{ last with event := { last.event with data := dataEvent.data } }])
    else (true, pushFor ref dataEvent batch)
  | none => (true, pushFor ref dataEvent batch)

theorem pushCoalescing_cases (ref : ConnRef) (dataEvent : JsH3Event) (batch : List Emitted) :
    pushCoalescing ref dataEvent batch = (true, pushFor ref dataEvent batch) ∨
      ∃ front last, batch = front ++ [last] ∧ last.event.coalesces dataEvent = true ∧
        pushCoalescing ref dataEvent batch =
          (false, front ++
            [{ last with event := { last.event with data := dataEvent.data } }]) := by
  unfold pushCoalescing
  cases hlast : batch.getLast? with
  | none => exact .inl rfl
  | some last =>
    obtain ⟨front, rfl⟩ := List.getLast?_eq_some_iff.1 hlast
    dsimp only
    split_ifs with hcoalesces
    · exact .inr ⟨front, last, rfl, hcoalesces, by rw [List.dropLast_concat]⟩
    · exact .inl rfl

def drainsIn (events : List Emitted) : List Emitted :=
  events.filter fun e => e.event.eventType == .drain

theorem drainsIn_pushFor {ref : ConnRef} {event : JsH3Event} {events : List Emitted}
    (hkind : event.eventType ≠ .drain) : drainsIn (pushFor ref event events) = drainsIn events := by
  simp [drainsIn, pushFor, hkind]

theorem drainsIn_pushCoalescing {ref : ConnRef} {event : JsH3Event} {events : List Emitted}
    (hkind : event.eventType ≠ .drain) :
    drainsIn (pushCoalescing ref event events).2 = drainsIn events := by
  rcases pushCoalescing_cases ref event events with heq | ⟨front, last, rfl, hcoalesces, heq⟩
  · rw [heq]
    exact drainsIn_pushFor hkind
  · rw [heq]
    simp [drainsIn, JsH3Event.eventType_of_coalesces hcoalesces]

/-- How a batch may change while work goes on: events that satisfy `allowed`
are appended, DATA is folded into a HEADERS event, and DRAIN events are
withdrawn again. -/
inductive Grows (allowed : Emitted → Prop) (old : List Emitted) : List Emitted → Prop
  | refl : Grows allowed old old
  | push {batch : List Emitted} {e : Emitted} : Grows allowed old batch → allowed e →
      Grows allowed old (batch ++ [e])
  | refill {batch : List Emitted} {last : Emitted} {data : Option Bytes} :
      Grows allowed old (batch ++ [last]) → last.event.eventType = .headers →
      Grows allowed old (batch ++ [{ last with event := { last.event with data := data } }])
  | withdraw {batch : List Emitted} {keep : Emitted → Bool} : Grows allowed old batch →
      (∀ e ∈ batch, keep e = false → e.event.eventType = .drain) →
      Grows allowed old (batch.filter keep)

namespace Grows

variable {allowed allowed' : Emitted → Prop} {a b c : List Emitted}

theorem trans (hab : Grows allowed a b) (hbc : Grows allowed b c) : Grows allowed a c := by
  induction hbc with
  | refl => exact hab
  | push _ he ih => exact ih.push he
  | refill _ ht ih => exact ih.refill ht
  | withdraw _ hk ih => exact ih.withdraw hk

theorem mono (himp : ∀ e, allowed e → allowed' e) (h : Grows allowed a b) :
    Grows allowed' a b := by
  induction h with
  | refl => exact .refl
  | push _ he ih => exact ih.push (himp _ he)
  | refill _ ht ih => exact ih.refill ht
  | withdraw _ hk ih => exact ih.withdraw hk

theorem forall_mem {P : Emitted → Prop} (hallowed : ∀ e, allowed e → P e)
    (hdata : ∀ e d, P e → P { e with event := { e.event with data := d } })
    (h : Grows allowed a b) (ha : ∀ e ∈ a, P e) : ∀ e ∈ b, P e := by
  induction h with
  | refl => exact ha
  | push _ he ih =>
    intro e hmem
    rcases List.mem_append.1 hmem with hmem | hmem
    · exact ih e hmem
    · rw [List.mem_singleton.1 hmem]
      exact hallowed _ he
  | @refill batch last data _ _ ih =>
    intro e hmem
    rcases List.mem_append.1 hmem with hmem | hmem
    · exact ih e (List.mem_append_left _ hmem)
    · rw [List.mem_singleton.1 hmem]
      exact hdata _ _ (ih last (by simp))
  | withdraw _ _ ih =>
    intro e hmem
    exact ih e (List.mem_of_mem_filter hmem)

theorem pushFor {ref : ConnRef} {event : JsH3Event} (h : Grows allowed a b)
    (he : allowed ⟨some ref, event⟩) : Grows allowed a (pushFor ref event b) := h.push he

theorem append {added : List Emitted} (h : Grows allowed a b) (hadded : ∀ e ∈ added, allowed e) :
    Grows allowed a (b ++ added) := by
  induction added generalizing b with
  | nil => rwa [List.append_nil]
  | cons e added ih =>
    have hrest := ih (h.push (hadded e List.mem_cons_self)) fun x hx =>
      hadded x (List.mem_cons_of_mem e hx)
    rwa [List.append_assoc, List.singleton_append] at hrest

theorem pushWorker {event : JsH3Event} (h : Grows allowed a b) (he : allowed ⟨none, event⟩) :
    Grows allowed a (pushWorker event b) := h.push he

theorem pushCoalescing {ref : ConnRef} {event : JsH3Event} (h : Grows allowed a b)
    (he : allowed ⟨some ref, event⟩) : Grows allowed a (pushCoalescing ref event b).2 := by
  rcases pushCoalescing_cases ref event b with heq | ⟨front, last, rfl, hcoalesces, heq⟩
  · rw [heq]
    exact h.push he
  · rw [heq]
    exact h.refill (JsH3Event.eventType_of_coalesces hcoalesces)

end Grows

def NotSentinel (e : Emitted) : Prop := e.event.eventType ≠ .shutdownComplete

/-- A batch that only grows at its end, by events that satisfy `allowed`. -/
def Appends (allowed : Emitted → Prop) (old new : List Emitted) : Prop :=
  ∃ added, new = old ++ added ∧ ∀ e ∈ added, allowed e

namespace Appends

variable {allowed allowed' : Emitted → Prop} {a b c : List Emitted}

theorem refl (a : List Emitted) : Appends allowed a a := ⟨[], by simp⟩

theorem trans (hab : Appends allowed a b) (hbc : Appends allowed b c) : Appends allowed a c := by
  obtain ⟨x, rfl, hx⟩ := hab
  obtain ⟨y, rfl, hy⟩ := hbc
  refine ⟨x ++ y, by simp, ?_⟩
  intro e he
  rcases List.mem_append.1 he with he | he
  · exact hx e he
  · exact hy e he

theorem mono (himp : ∀ e, allowed e → allowed' e) (h : Appends allowed a b) :
    Appends allowed' a b := by
  obtain ⟨x, hb, hx⟩ := h
  exact ⟨x, hb, fun e he => himp e (hx e he)⟩

theorem pushFor (h : Appends allowed a b) {ref : ConnRef} {event : JsH3Event}
    (he : allowed ⟨some ref, event⟩) : Appends allowed a (pushFor ref event b) :=
  h.trans ⟨[⟨some ref, event⟩], rfl, by simpa using he⟩

theorem foldl_pushFor {α : Type} {ref : ConnRef} {event : α → JsH3Event}
    (he : ∀ x, allowed ⟨some ref, event x⟩) (xs : List α) (a : List Emitted) :
    Appends allowed a (xs.foldl (fun batch x => Http3.pushFor ref (event x) batch) a) := by
  induction xs generalizing a with
  | nil => exact .refl a
  | cons x xs ih => exact ((refl a).pushFor (he x)).trans (ih _)

end Appends

end Http3
