import Mathlib.Order.Basic
import Mathlib.Tactic.Common
import Mathlib.Algebra.Group.Nat.Defs

/-! The outbound admission window: how many payload units may sit in the
command channel and in native pending writes, and when a blocked writer is
told to retry. -/

namespace Http3

/-- Exclusive bound of a `usize` counter. -/
def usizeBound : ℕ := 2 ^ 64

structure AdmissionWatermarks where
  high : ℕ
  low : ℕ
  low_lt_high : low < high

def AdmissionWatermarks.new (high low : ℕ) : AdmissionWatermarks :=
  ⟨max high 1, min low (max high 1 - 1), by omega⟩

inductive AdmitOutcome
  | admitted (nextQueued : ℕ)
  | backpressured
  deriving DecidableEq, Repr

def outboundPayloadUnits (payloadLen : ℕ) (fin : Bool) : ℕ := max payloadLen fin.toNat

def acceptedOutboundPayloadUnits (payloadLen : ℕ) (fin : Bool) (written : ℕ)
    (finAccepted : Bool) : ℕ :=
  if payloadLen = 0 then (fin && finAccepted).toNat
  else
    let acceptedPayload := min written payloadLen
    if fin && !finAccepted && acceptedPayload == payloadLen then acceptedPayload - 1
    else acceptedPayload

def admitNext (current units highWater : ℕ) : AdmitOutcome :=
  if units = 0 then .admitted current
  else if usizeBound ≤ current + units then .backpressured
  else if current + units ≤ max highWater units then .admitted (current + units)
  else .backpressured

def releaseNext (current units : ℕ) : ℕ := current - units

def releaseEmitsWriteReady (nextQueued lowWater : ℕ) (wasPressured : Bool) : Bool :=
  decide (nextQueued ≤ lowWater) && wasPressured

def outboundAdmissionHighWater : ℕ := 4 * 1024 * 1024
def outboundAdmissionLowWater : ℕ := 2 * 1024 * 1024

structure OutboundAdmission where
  queued : ℕ
  marks : AdmissionWatermarks
  pressured : Bool

namespace OutboundAdmission

def new (highWater lowWater : ℕ) : OutboundAdmission :=
  ⟨0, AdmissionWatermarks.new highWater lowWater, false⟩

def default : OutboundAdmission := new outboundAdmissionHighWater outboundAdmissionLowWater

/-- One admission attempt as a single atomic step. A refusal raises the
pressured flag. -/
def tryAdmit (a : OutboundAdmission) (units : ℕ) : Bool × OutboundAdmission :=
  if units = 0 then (true, a)
  else
    match admitNext a.queued units a.marks.high with
    | .admitted next => (true, { a with queued := next })
    | .backpressured => (false, { a with pressured := true })

/-- Release previously admitted units. The flag says that a write-ready event
is due. -/
def release (a : OutboundAdmission) (units : ℕ) : Bool × OutboundAdmission :=
  if units = 0 then (false, a)
  else
    let next := releaseNext a.queued units
    let wasPressured := if next ≤ a.marks.low then a.pressured else false
    let pressured := if next ≤ a.marks.low then false else a.pressured
    (releaseEmitsWriteReady next a.marks.low wasPressured,
      { a with queued := next, pressured := pressured })

variable {a : OutboundAdmission}

theorem tryAdmit_of_admitted {units next : ℕ}
    (h : admitNext a.queued units a.marks.high = .admitted next) :
    a.tryAdmit units = (true, { a with queued := next }) := by
  unfold tryAdmit
  split_ifs with h0
  · subst h0
    cases h
    rfl
  · rw [h]

theorem tryAdmit_of_backpressured {units : ℕ}
    (h : admitNext a.queued units a.marks.high = .backpressured) :
    a.tryAdmit units = (false, { a with pressured := true }) := by
  unfold tryAdmit
  split_ifs with h0
  · subst h0
    cases h
  · rw [h]

theorem tryAdmit_true {units : ℕ} (h : (a.tryAdmit units).1 = true) :
    (a.tryAdmit units).2 = { a with queued := a.queued + units } := by
  unfold tryAdmit admitNext at h ⊢
  split_ifs at h ⊢ with h0 <;> simp_all

theorem tryAdmit_false {units : ℕ} (h : (a.tryAdmit units).1 = false) :
    (a.tryAdmit units).2 = { a with pressured := true } := by
  unfold tryAdmit admitNext at h ⊢
  split_ifs at h ⊢ <;> simp_all

@[simp] theorem release_queued (a : OutboundAdmission) (units : ℕ) :
    (a.release units).2.queued = a.queued - units := by
  unfold release
  split_ifs with h <;> simp [h, releaseNext]

theorem release_wakes_iff (a : OutboundAdmission) (units : ℕ) :
    (a.release units).1 = true ↔
      units ≠ 0 ∧ a.pressured = true ∧ a.queued - units ≤ a.marks.low := by
  unfold release releaseEmitsWriteReady releaseNext
  split_ifs with h <;> simp_all [and_comm]

theorem release_wakes_mono {units units' : ℕ} (hle : units ≤ units')
    (h : (a.release units).1 = true) : (a.release units').1 = true := by
  rw [release_wakes_iff] at h ⊢
  obtain ⟨hunits, hpressured, hlow⟩ := h
  exact ⟨by omega, hpressured, by omega⟩

theorem release_pressured_of_wakes {units : ℕ} (h : (a.release units).1 = true) :
    (a.release units).2.pressured = false := by
  obtain ⟨h0, -, hlow⟩ := (a.release_wakes_iff units).1 h
  simp [release, releaseNext, h0, hlow]

theorem release_wakes_iff_lowers (a : OutboundAdmission) (units : ℕ) :
    (a.release units).1 = true ↔ a.pressured = true ∧ (a.release units).2.pressured = false := by
  constructor
  · intro h
    exact ⟨((a.release_wakes_iff units).1 h).2.1, release_pressured_of_wakes h⟩
  · unfold release releaseEmitsWriteReady
    split_ifs with h0 <;> simp_all

end OutboundAdmission

end Http3
