import Http3.ServerStream.Offers
import Http3.Lib.Runs

/-! The write path of a response stream. The writable makes one call at a time,
and what that call still has to send waits in exactly one place: to be woken,
for the next turn, or for the callback of bytes that were admitted. -/

namespace Http3

/-- What is sent in one go: a whole chunk, or the next slice of a bounded write. -/
inductive Piece
  | whole (fin : Bool) (data : Bytes)
  | slice (bounded : BoundedStreamWrite)

namespace BoundedStreamWrite

def stop (b : BoundedStreamWrite) : ℕ := min (b.offset + b.limit) b.body.length

end BoundedStreamWrite

namespace Piece

/-- The kind of the writable's call the piece is sent for. -/
def kind : Piece → Bool
  | whole fin _ => fin
  | slice b => b.fin

def data : Piece → Bytes
  | whole _ data => data
  | slice b => (b.body.take b.stop).drop b.offset

def fin : Piece → Bool
  | whole fin _ => fin
  | slice b => b.fin && b.stop == b.body.length

def callback : Piece → WriteCallback
  | whole false _ => .write
  | whole true _ => .final
  | slice b => .slice b.stop

def bounded : Piece → Option BoundedStreamWrite
  | whole _ _ => none
  | slice b => some { b with scheduled := false }

/-- Bytes of the same call that come after the piece. -/
def after : Piece → Bytes
  | whole _ _ => []
  | slice b => b.body.drop b.stop

/-- The call that is outstanding once a bounded write is cancelled. -/
def uncancelled : Piece → Option Bool
  | whole fin _ => some fin
  | slice _ => none

/-- A slice is a proper one of a loop with a limit. -/
def Fits (limit : Option ℕ) : Piece → Prop
  | whole _ _ => True
  | slice b => limit = some b.limit ∧ b.limit ≠ 0 ∧ b.offset < b.body.length

def retry (p : Piece) : Retry := .send p.data p.fin p.callback

end Piece

/-- How far a piece is: being offered, waiting to be woken, admitted with its
callback held back, or admitted with its callback due now. -/
inductive PieceStage
  | trying
  | waiting
  | held
  | sent
  deriving DecidableEq, Repr

def PieceStage.admitted : PieceStage → Bool
  | trying | waiting => false
  | held | sent => true

/-- What the outstanding call of the writable is doing. -/
inductive Flight
  | idle
  | scheduled (bounded : BoundedStreamWrite)
  | piece (stage : PieceStage) (p : Piece)

namespace Flight

def kind : Flight → Option Bool
  | idle => none
  | scheduled b => some b.fin
  | piece _ p => some p.kind

/-- The call that is outstanding once a bounded write is cancelled. -/
def uncancelled : Flight → Option Bool
  | piece _ p => p.uncancelled
  | _ => none

def drains : Flight → List Retry
  | piece .waiting p => [p.retry]
  | _ => []

def delayed : Flight → List WriteCallback
  | piece .held p => [p.callback]
  | _ => []

def bounded : Flight → Option BoundedStreamWrite
  | idle => none
  | scheduled b => some { b with scheduled := true }
  | piece _ p => p.bounded

def rest : Flight → Bytes
  | idle => []
  | scheduled b => b.body.drop b.offset
  | piece stage p => (if stage.admitted then [] else p.data) ++ p.after

def finOut : Flight → Bool
  | piece stage p => stage.admitted && p.fin
  | _ => false

def Fits (limit : Option ℕ) : Flight → Prop
  | idle => True
  | scheduled b => (Piece.slice b).Fits limit
  | piece _ p => p.Fits limit

/-- The call waits for something to happen to the stream. -/
def Resting : Flight → Prop
  | piece .trying _ | piece .sent _ => False
  | _ => True

end Flight

namespace Piece

theorem data_append_after (b : BoundedStreamWrite) (h : b.offset ≤ b.stop) :
    (slice b).data ++ (slice b).after = b.body.drop b.offset := by
  show (b.body.take b.stop).drop b.offset ++ b.body.drop b.stop = b.body.drop b.offset
  rw [← List.drop_append_of_le_length, List.take_append_drop]
  rw [List.length_take]
  have : b.stop ≤ b.body.length := min_le_right _ _
  omega

theorem offset_lt_stop {b : BoundedStreamWrite} {limit : Option ℕ} (h : (slice b).Fits limit) :
    b.offset < b.stop := by
  obtain ⟨-, hlimit, hoffset⟩ := h
  unfold BoundedStreamWrite.stop
  omega

theorem after_of_fin {p : Piece} (h : p.fin = true) : p.kind = true ∧ p.after = [] := by
  cases p with
  | whole fin data => exact ⟨h, rfl⟩
  | slice b =>
    simp only [fin, Bool.and_eq_true, beq_iff_eq] at h
    refine ⟨h.1, ?_⟩
    show b.body.drop b.stop = []
    rw [h.2, List.drop_length]

theorem length_data_le {b : BoundedStreamWrite} : (slice b).data.length ≤ b.limit := by
  simp only [data, List.length_drop, List.length_take, BoundedStreamWrite.stop]
  omega

end Piece

namespace ServerHttp3Stream

variable {L : Type}

def offers (s : ServerHttp3Stream (Recorded L)) : List Offer := s.eventLoop.offers

variable [ServerEventLoopLike L]

def limit (s : ServerHttp3Stream (Recorded L)) : Option ℕ :=
  ServerEventLoopLike.maxStreamSendBytes s.eventLoop

/-- The outstanding call is where `f` says. -/
structure InFlight (s : ServerHttp3Stream (Recorded L)) (f : Flight) : Prop where
  drains : s.drainCallbacks = f.drains
  delayed : s.window.delayedCallbacks = f.delayed
  bounded : s.boundedWrite = f.bounded
  release : s.window.delayedCallbacks ≠ [] → s.window.releaseScheduled = true

/-- A live stream that has taken `written` and sends `f`: every byte is admitted
or still to be sent, in this order. -/
structure Sending (s : ServerHttp3Stream (Recorded L)) (f : Flight) (written : Bytes) : Prop where
  connected : s.connected = true
  alive : s.destroyed = false
  noTrailers : s.queuedWasmTrailers = none
  noTrailerCallback : s.trailerCallback = false
  finSent : s.finSent = s.finalCalled
  flight : s.InFlight f
  fits : f.Fits s.limit
  calls : callState s.calls = some ⟨f.kind, false⟩
  bytes : acceptedBytes s.offers ++ f.rest ++ s.buffered.flatten ++ s.finalChunk.getD [] = written
  within : ∀ o ∈ s.offers, o.Within s.limit
  finLast : (s.offers.filter Offer.accepted).Pairwise fun a _ => a.fin = false
  finOut : (∃ o ∈ s.offers, o.accepted = true ∧ o.fin = true) →
    f.finOut = true ∨ s.writableFinished = true
  beforeEnd : s.ending = false → s.finalChunk.getD [] = []
  finalDone : s.finalCalled = true →
    s.ending = true ∧ s.buffered = [] ∧ s.finalChunk.getD [] = []
  /-- Before `_final` only chunks are written; `_final` is under way until the
  writable has finished. -/
  phase : if s.finalCalled then s.writableFinished = (f.kind != some true) ∧ f.kind ≠ some false
    else s.writableFinished = false ∧ f.kind ≠ some true

/-- A destroyed stream: nothing is outstanding and what it offered was in order. -/
structure Over (s : ServerHttp3Stream (Recorded L)) (written : Bytes) : Prop where
  destroyed : s.destroyed = true
  flight : s.InFlight .idle
  calls : callState s.calls = some ⟨none, true⟩
  orderly : Orderly s.limit s.offers written

/-- Between two events the stream is over, or its one call rests; the writable
holds chunks only behind a call of `_write`. -/
def AtRest (s : ServerHttp3Stream (Recorded L)) (written : Bytes) : Prop :=
  s.Over written ∨ ∃ f : Flight, f.Resting ∧ s.Sending f written ∧
    s.writing = (f.kind == some false) ∧ (s.writing = false → s.buffered = [])

section

variable {s : ServerHttp3Stream (Recorded L)} {f : Flight} {written : Bytes}

theorem Sending.finWhole (h : s.Sending f written)
    (hfin : ∃ o ∈ s.offers, o.accepted = true ∧ o.fin = true) :
    acceptedBytes s.offers = written := by
  have hrest : f.rest = [] ∧ s.finalCalled = true := by
    have hphase := h.phase
    cases f with
    | idle =>
      obtain hout | hfinished := h.finOut hfin
      · cases hout
      · split_ifs at hphase with hcalled
        · exact ⟨rfl, hcalled⟩
        · rw [hphase.1] at hfinished
          cases hfinished
    | scheduled b =>
      obtain hout | hfinished := h.finOut hfin
      · cases hout
      · cases hb : b.fin <;> simp [Flight.kind, hfinished, hb] at hphase
    | piece stage p =>
      obtain hout | hfinished := h.finOut hfin
      · simp only [Flight.finOut, Bool.and_eq_true] at hout
        obtain ⟨hkind, hafter⟩ := Piece.after_of_fin hout.2
        have hcalled : s.finalCalled = true := by
          by_contra hnot
          rw [if_neg hnot] at hphase
          exact hphase.2 (congrArg some hkind)
        refine ⟨?_, hcalled⟩
        simp [Flight.rest, hout.1, hafter]
      · cases hp : p.kind <;> simp [Flight.kind, hfinished, hp] at hphase
  obtain ⟨-, hbuffered, hfinal⟩ := h.finalDone hrest.2
  have hbytes := h.bytes
  rw [hrest.1, hbuffered, hfinal] at hbytes
  simpa using hbytes

theorem Sending.orderly (h : s.Sending f written) : Orderly s.limit s.offers written where
  inOrder := by
    refine ⟨f.rest ++ s.buffered.flatten ++ s.finalChunk.getD [], ?_⟩
    simpa only [List.append_assoc] using h.bytes
  finLast := h.finLast
  finWhole := h.finWhole
  within := h.within

/-- The offer the stream makes when it sends `data` now, with its answer. -/
def offer (data : Bytes) (fin : Bool) (s : ServerHttp3Stream (Recorded L)) : Offer :=
  ⟨data, fin, (ServerEventLoopLike.streamSend s.ref data fin s.eventLoop.loop).1⟩

def offered (data : Bytes) (fin : Bool) (s : ServerHttp3Stream (Recorded L)) :
    ServerHttp3Stream (Recorded L) :=
  { s with eventLoop := (ServerEventLoopLike.streamSend s.ref data fin s.eventLoop).2 }

theorem offers_offered (data : Bytes) (fin : Bool) (s : ServerHttp3Stream (Recorded L)) :
    (s.offered data fin).offers = s.offers ++ [s.offer data fin] := rfl

theorem limit_offered (hL : WholeOrNothing L) (data : Bytes) (fin : Bool)
    (s : ServerHttp3Stream (Recorded L)) : (s.offered data fin).limit = s.limit :=
  hL.streamSend_limit s.ref data fin s.eventLoop.loop

/-- What one attempt to send `data` can come to. -/
inductive Attempted (s : ServerHttp3Stream (Recorded L)) (data : Bytes) (fin : Bool)
    (callback : WriteCallback) : Fired × ServerHttp3Stream (Recorded L) → Prop
  | blocked (hblocked : s.blocked = true) :
      Attempted s data fin callback (.later, s.pushRetry (.send data fin callback))
  | refused (hrefused : (s.offer data fin).accepted = false) :
      Attempted s data fin callback
        (.later, (s.offered data fin).pushRetry (.send data fin callback))
  | threw (e : JsError) (hrefused : (s.offer data fin).accepted = false) :
      Attempted s data fin callback (.failed e, s.offered data fin)
  | admitted (written : ℕ) (haccepted : (s.offer data fin).accepted = true) :
      Attempted s data fin callback ((s.offered data fin).completeNativeWrite written callback)

/-- Without a limit in the way, a send is one attempt. -/
theorem attempt_attempted (hL : WholeOrNothing L) (data : Bytes) (fin : Bool)
    (callback : WriteCallback) (hconnected : s.connected = true)
    (hlimit : s.sliceLimit data.length = none) :
    s.Attempted data fin callback (s.attempt (.send data fin callback)) := by
  have hsend : s.onLoop (ServerEventLoopLike.streamSend s.ref data fin) 0 =
      ((s.offer data fin).answer, s.offered data fin) := by
    unfold onLoop
    rw [if_pos hconnected]
    rfl
  have hwhole : ∀ n, (s.offer data fin).answer = .ok n → n = 0 ∨ data.length ≤ n :=
    hL.answer s.ref data fin s.eventLoop.loop
  -- what is admitted is read off the answer
  have haccepted : (s.offer data fin).accepted =
      Offer.accepted ⟨data, fin, (s.offer data fin).answer⟩ := rfl
  generalize hanswer : (s.offer data fin).answer = answer at hsend hwhole haccepted
  cases fin with
  | false =>
    show s.Attempted data false callback (s.writeChunk data callback)
    unfold writeChunk
    rw [hlimit]
    dsimp only
    split_ifs with hblocked
    · exact .blocked hblocked
    · rw [hsend]
      cases answer with
      | error e => exact .threw e haccepted
      | ok n =>
        dsimp only
        split_ifs with hn
        · exact .admitted n (haccepted.trans (by simp [Offer.accepted, hn]))
        · obtain rfl : n = 0 := (hwhole n rfl).resolve_right hn
          exact .refused (haccepted.trans (by simpa [Offer.accepted] using hn))
  | true =>
    show s.Attempted data true callback (s.writeFinalChunk data callback)
    unfold writeFinalChunk
    rw [hlimit]
    dsimp only
    by_cases hblocked : s.blocked = true
    · rw [if_pos hblocked]
      dsimp only
      by_cases hempty : data.length = 0
      · rw [if_pos hempty, if_neg (lt_irrefl 0)]
        exact .blocked hblocked
      · rw [if_neg hempty, if_neg (by omega)]
        exact .blocked hblocked
    · rw [if_neg hblocked, hsend]
      cases answer with
      | error e => exact .threw e haccepted
      | ok n =>
        dsimp only
        by_cases hempty : data.length = 0
        · obtain rfl := List.eq_nil_of_length_eq_zero hempty
          rw [if_pos hempty]
          split_ifs with hn
          · exact .admitted n (haccepted.trans (by simpa [Offer.accepted] using hn))
          · exact .refused (haccepted.trans (by simpa [Offer.accepted] using hn))
        · have hne : data.isEmpty = false := by
            cases data with
            | nil => exact absurd rfl hempty
            | cons _ _ => rfl
          rw [if_neg hempty]
          split_ifs with hn
          · exact .admitted n (haccepted.trans (by simpa [Offer.accepted, hne] using hn))
          · obtain rfl : n = 0 := (hwhole n rfl).resolve_right hn
            exact .refused (haccepted.trans (by simpa [Offer.accepted, hne] using hn))

theorem Sending.offered_refused (hL : WholeOrNothing L) {data : Bytes} {fin : Bool}
    (h : s.Sending f written) (hrefused : (s.offer data fin).accepted = false)
    (hwithin : (s.offer data fin).Within s.limit) :
    (s.offered data fin).Sending f written := by
  have hoffers := offers_offered data fin s
  have hlimit := limit_offered hL data fin s
  have hfilter : ((s.offered data fin).offers.filter Offer.accepted) =
      s.offers.filter Offer.accepted := by
    rw [hoffers, List.filter_append]
    simp [hrefused]
  exact { h with
    flight := ⟨h.flight.drains, h.flight.delayed, h.flight.bounded, h.flight.release⟩
    fits := by
      rw [hlimit]
      exact h.fits
    bytes := by
      have hbytes : acceptedBytes (s.offered data fin).offers = acceptedBytes s.offers := by
        unfold acceptedBytes
        rw [hfilter]
      rw [hbytes]
      exact h.bytes
    within := by
      intro o ho
      rw [hlimit]
      obtain hold | hnew := List.mem_append.1 (hoffers ▸ ho)
      · exact h.within o hold
      · rw [List.mem_singleton.1 hnew]
        exact hwithin
    finLast := by
      rw [hfilter]
      exact h.finLast
    finOut := by
      rintro ⟨o, ho, haccepted, hfin⟩
      apply h.finOut
      obtain hold | hnew := List.mem_append.1 (hoffers ▸ ho)
      · exact ⟨o, hold, haccepted, hfin⟩
      · rw [List.mem_singleton.1 hnew, hrefused] at haccepted
        cases haccepted
  }

theorem Sending.fin_eq_false {p : Piece} (h : s.Sending (.piece .trying p) written) {o : Offer}
    (ho : o ∈ s.offers) (haccepted : o.accepted = true) : o.fin = false := by
  cases hfin : o.fin with
  | false => rfl
  | true =>
    have hphase := h.phase
    obtain hout | hfinished := h.finOut ⟨o, ho, haccepted, hfin⟩
    · cases hout
    · cases hp : p.kind <;> simp [Flight.kind, hfinished, hp] at hphase

theorem Sending.offered_admitted (hL : WholeOrNothing L) {p : Piece}
    (h : s.Sending (.piece .trying p) written)
    (haccepted : (s.offer p.data p.fin).accepted = true)
    (hwithin : (s.offer p.data p.fin).Within s.limit) :
    (s.offered p.data p.fin).Sending (.piece .sent p) written := by
  have hoffers := offers_offered p.data p.fin s
  have hlimit := limit_offered hL p.data p.fin s
  exact { h with
    flight := ⟨h.flight.drains, h.flight.delayed, h.flight.bounded, h.flight.release⟩
    fits := by
      rw [hlimit]
      exact h.fits
    bytes := by
      have hbytes := h.bytes
      rw [hoffers, acceptedBytes_append, acceptedBytes_singleton, if_pos haccepted]
      simpa [Flight.rest, PieceStage.admitted, offered, offer] using hbytes
    within := by
      intro o ho
      rw [hlimit]
      obtain hold | hnew := List.mem_append.1 (hoffers ▸ ho)
      · exact h.within o hold
      · rw [List.mem_singleton.1 hnew]
        exact hwithin
    finLast := by
      rw [hoffers, List.filter_append, List.pairwise_append]
      refine ⟨h.finLast, List.Pairwise.filter _ (List.pairwise_singleton _ _), ?_⟩
      intro a ha _ _
      obtain ⟨hmem, hacc⟩ := List.mem_filter.1 ha
      exact h.fin_eq_false hmem hacc
    finOut := by
      rintro ⟨o, ho, haccepted', hfin⟩
      obtain hold | hnew := List.mem_append.1 (hoffers ▸ ho)
      · rw [h.fin_eq_false hold haccepted'] at hfin
        cases hfin
      · left
        rw [List.mem_singleton.1 hnew] at hfin
        exact hfin
  }

theorem Sending.pushRetry {p : Piece} (h : s.Sending (.piece .trying p) written) :
    (s.pushRetry p.retry).Sending (.piece .waiting p) written :=
  { h with
    flight := {
      drains := congrArg (· ++ [p.retry]) h.flight.drains
      delayed := h.flight.delayed
      bounded := h.flight.bounded
      release := h.flight.release } }

theorem Sending.completeNativeWrite {p : Piece} (h : s.Sending (.piece .sent p) written) (n : ℕ) :
    ∃ w : NativeWriteWindow,
      s.completeNativeWrite n p.callback = (.now, { s with window := w }) ∧
          ({ s with window := w } : ServerHttp3Stream (Recorded L)).Sending
            (.piece .sent p) written ∨
        s.completeNativeWrite n p.callback = (.later, { s with window := w }) ∧
          ({ s with window := w } : ServerHttp3Stream (Recorded L)).Sending
            (.piece .held p) written := by
  unfold ServerHttp3Stream.completeNativeWrite
  dsimp only
  have hdelayed : s.window.delayedCallbacks = [] := h.flight.delayed
  split_ifs
  · refine ⟨_, .inl ⟨rfl, { h with flight := ⟨h.flight.drains, hdelayed, h.flight.bounded, ?_⟩ }⟩⟩
    intro _
    rfl
  · refine ⟨_, .inr ⟨rfl, { h with flight := ⟨h.flight.drains, ?_, h.flight.bounded, ?_⟩ }⟩⟩
    · show s.window.delayedCallbacks ++ [p.callback] = [p.callback]
      rw [hdelayed, List.nil_append]
    · intro _
      rfl

theorem sliceLimit_eq (h : s.connected = true) (n : ℕ) :
    s.sliceLimit n = s.limit.filter fun limit => limit ≠ 0 ∧ limit < n := by
  unfold sliceLimit
  rw [if_pos h]
  rfl

theorem within_of_sliceLimit {o : Offer} (h : s.connected = true)
    (hnone : s.sliceLimit o.data.length = none) : o.Within s.limit := by
  intro n hn hzero
  rw [sliceLimit_eq h, Option.mem_def.1 hn] at hnone
  simpa [hzero] using hnone

theorem sliceLimit_slice {b : BoundedStreamWrite} (h : s.connected = true)
    (hfits : (Piece.slice b).Fits s.limit) : s.sliceLimit (Piece.slice b).data.length = none := by
  rw [sliceLimit_eq h, hfits.1]
  have := Piece.length_data_le (b := b)
  simp only [Option.filter_eq_none_iff, Option.some.injEq]
  rintro _ rfl
  simp [this]

theorem Sending.writeBounded {fin : Bool} {data : Bytes} {limit : ℕ}
    (h : s.Sending (.piece .trying (.whole fin data)) written)
    (hlimit : s.sliceLimit data.length = some limit) :
    (s.writeBounded data limit fin).Sending (.scheduled ⟨data, limit, fin, 0, true⟩) written := by
  rw [sliceLimit_eq h.connected, Option.filter_eq_some_iff] at hlimit
  obtain ⟨hlimit, hcut⟩ := hlimit
  simp only [decide_eq_true_eq] at hcut
  exact { h with
    flight := ⟨h.flight.drains, h.flight.delayed, rfl, h.flight.release⟩
    fits := ⟨hlimit, hcut.1, by show 0 < data.length; omega⟩
    bytes := by
      have hrest : Flight.rest (.piece .trying (.whole fin data)) = data := List.append_nil data
      have hbytes := h.bytes
      rw [hrest] at hbytes
      exact hbytes }

theorem attempt_cut {fin : Bool} {data : Bytes} {limit : ℕ}
    (hcut : s.sliceLimit data.length = some limit) :
    s.attempt (Piece.whole fin data).retry = (.later, s.writeBounded data limit fin) := by
  cases fin with
  | false =>
    show s.writeChunk data .write = _
    unfold writeChunk
    rw [hcut]
  | true =>
    show s.writeFinalChunk data .final = _
    unfold writeFinalChunk
    rw [hcut]

/-- What came of offering `p`. -/
def Tried (s : ServerHttp3Stream (Recorded L)) (p : Piece) (written : Bytes)
    (r : Fired × ServerHttp3Stream (Recorded L)) : Prop :=
  (r.2.writing = s.writing ∧ r.2.buffered = s.buffered) ∧
    match r.1 with
    | .now => r.2.Sending (.piece .sent p) written
    | .later => ∃ f : Flight, f.Resting ∧ f.kind = some p.kind ∧ r.2.Sending f written
    | .failed _ => r.2.Sending (.piece .trying p) written

theorem Sending.attempt (hL : WholeOrNothing L) {p : Piece}
    (h : s.Sending (.piece .trying p) written) :
    s.Tried p written (s.attempt p.retry) := by
  cases hcut : s.sliceLimit p.data.length with
  | some limit =>
    cases p with
    | slice b =>
      rw [sliceLimit_slice h.connected h.fits] at hcut
      cases hcut
    | whole fin data =>
      have hcut : s.sliceLimit data.length = some limit := hcut
      rw [attempt_cut hcut]
      exact ⟨⟨rfl, rfl⟩, .scheduled _, trivial, rfl, h.writeBounded hcut⟩
  | none =>
    have hattempted := attempt_attempted hL p.data p.fin p.callback h.connected hcut
    have hwithin : (s.offer p.data p.fin).Within s.limit :=
      within_of_sliceLimit h.connected hcut
    show s.Tried p written (s.attempt (.send p.data p.fin p.callback))
    generalize s.attempt (.send p.data p.fin p.callback) = r at hattempted
    cases hattempted with
    | blocked _ => exact ⟨⟨rfl, rfl⟩, .piece .waiting p, trivial, rfl, h.pushRetry⟩
    | refused hrefused =>
      have hs := h.offered_refused hL hrefused hwithin
      exact ⟨⟨rfl, rfl⟩, .piece .waiting p, trivial, rfl, hs.pushRetry⟩
    | threw e hrefused => exact ⟨⟨rfl, rfl⟩, h.offered_refused hL hrefused hwithin⟩
    | admitted n haccepted =>
      have hs := h.offered_admitted hL haccepted hwithin
      obtain ⟨w, ⟨hnow, hsent⟩ | ⟨hlater, hheld⟩⟩ := hs.completeNativeWrite n
      · rw [hnow]
        exact ⟨⟨rfl, rfl⟩, hsent⟩
      · rw [hlater]
        exact ⟨⟨rfl, rfl⟩, .piece .held p, trivial, rfl, hheld⟩

theorem closeTransport_eq (hL : WholeOrNothing L) (code : ℕ)
    (s : ServerHttp3Stream (Recorded L)) :
    ∃ (closeSent : Bool) (loop : L),
      s.closeTransport code = { s with closeSent, eventLoop := ⟨loop, s.eventLoop.offers⟩ } ∧
        ServerEventLoopLike.maxStreamSendBytes loop = s.limit := by
  unfold closeTransport
  split_ifs
  · exact ⟨s.closeSent, s.eventLoop.loop, rfl, rfl⟩
  · exact ⟨true, _, rfl, hL.streamClose_limit s.ref code s.eventLoop.loop⟩
  · exact ⟨true, s.eventLoop.loop, rfl, rfl⟩

/-- A stream about to be destroyed whose one call is in `f`. -/
structure Winding (s : ServerHttp3Stream (Recorded L)) (f : Flight) (written : Bytes) : Prop where
  alive : s.destroyed = false
  noTrailerCallback : s.trailerCallback = false
  flight : s.InFlight f
  calls : callState s.calls = some ⟨f.kind, false⟩
  orderly : Orderly s.limit s.offers written

theorem Sending.winding (h : s.Sending f written) : s.Winding f written :=
  ⟨h.alive, h.noTrailerCallback, h.flight, h.calls, h.orderly⟩

/-- A stream being destroyed, with its bounded write cancelled already: what is
left to reject, and the call that is still outstanding. -/
structure Rejecting (s : ServerHttp3Stream (Recorded L)) (drains : List Retry)
    (delayed : List WriteCallback) (outstanding : Option Bool) (written : Bytes) : Prop where
  destroyed : s.destroyed = true
  noTrailerCallback : s.trailerCallback = false
  bounded : s.boundedWrite = none
  drains : s.drainCallbacks = drains
  delayed : s.window.delayedCallbacks = delayed
  calls : callState s.calls = some ⟨outstanding, true⟩
  orderly : Orderly s.limit s.offers written

section Destroy

variable {drains : List Retry} {delayed : List WriteCallback} {p : Piece} {error : JsError}

theorem Rejecting.rejectCallback (h : s.Rejecting drains delayed p.uncancelled written) :
    (s.rejectCallback error p.callback).Rejecting drains delayed none written := by
  have hcalls := h.calls
  cases p with
  | whole fin data =>
    cases fin with
    | false =>
      refine { h with calls := ?_ }
      show callState (s.calls ++ [.calledBack false (some error)]) = _
      rw [callState_append_singleton, hcalls]
      rfl
    | true =>
      refine { h with calls := ?_ }
      show callState (s.calls ++ [.calledBack true (some error)]) = _
      rw [callState_append_singleton, hcalls]
      rfl
  | slice b =>
    have hself : s.rejectCallback error (Piece.slice b).callback = s := by
      unfold ServerHttp3Stream.rejectCallback Piece.callback
      dsimp only
      rw [h.bounded]
    rw [hself]
    exact h

theorem Rejecting.rejectDrainCallbacks
    (h : s.Rejecting [p.retry] delayed p.uncancelled written) :
    (s.rejectDrainCallbacks error).Rejecting [] delayed none written := by
  unfold ServerHttp3Stream.rejectDrainCallbacks
  rw [h.drains]
  have hempty : ({ s with drainCallbacks := [] } : ServerHttp3Stream (Recorded L)).Rejecting
      [] delayed p.uncancelled written := { h with drains := rfl }
  exact hempty.rejectCallback

theorem Rejecting.rejectNativeWriteWindow
    (h : s.Rejecting drains [p.callback] p.uncancelled written) :
    (s.rejectNativeWriteWindow error).Rejecting drains [] none written := by
  unfold ServerHttp3Stream.rejectNativeWriteWindow
  rw [h.delayed]
  have hempty : ({ s with window := { s.window with admittedBytes := 0, delayedCallbacks := [] } } :
      ServerHttp3Stream (Recorded L)).Rejecting drains [] p.uncancelled written :=
    { h with delayed := rfl }
  exact hempty.rejectCallback

theorem Rejecting.rejectDrainCallbacks_nil {outstanding : Option Bool}
    (h : s.Rejecting [] delayed outstanding written) :
    (s.rejectDrainCallbacks error).Rejecting [] delayed outstanding written := by
  unfold ServerHttp3Stream.rejectDrainCallbacks
  rw [h.drains]
  exact { h with drains := rfl }

theorem Rejecting.rejectNativeWriteWindow_nil {outstanding : Option Bool}
    (h : s.Rejecting drains [] outstanding written) :
    (s.rejectNativeWriteWindow error).Rejecting drains [] outstanding written := by
  unfold ServerHttp3Stream.rejectNativeWriteWindow
  rw [h.delayed]
  exact { h with delayed := rfl }

theorem Rejecting.closeTransport (hL : WholeOrNothing L) {outstanding : Option Bool}
    (h : s.Rejecting drains delayed outstanding written) (code : ℕ) :
    (s.closeTransport code).Rejecting drains delayed outstanding written := by
  obtain ⟨closeSent, loop, heq, hlimit⟩ := closeTransport_eq hL code s
  rw [heq]
  refine { h with orderly := ?_ }
  have horderly := h.orderly
  rw [← hlimit] at horderly
  exact horderly

omit [ServerEventLoopLike L] in
theorem rejectCallback_slice {b : BoundedStreamWrite} (h : s.boundedWrite = some b) (stop : ℕ) :
    s.rejectCallback error (.slice stop) =
      { s with boundedWrite := none }.record (.calledBack b.fin (some error)) := by
  simp only [ServerHttp3Stream.rejectCallback, h]

/-- Destruction begins by failing a bounded write as a whole. -/
theorem InFlight.cancel (h : s.InFlight f) (hdestroyed : s.destroyed = true)
    (htrailers : s.trailerCallback = false) (hcalls : callState s.calls = some ⟨f.kind, true⟩)
    (horderly : Orderly s.limit s.offers written) :
    (s.boundedWrite.elim s fun bounded => s.rejectCallback error (.slice bounded.offset)).Rejecting
      f.drains f.delayed f.uncancelled written := by
  have hwhole : f.bounded = none → f.uncancelled = f.kind →
      (s.boundedWrite.elim s fun bounded =>
        s.rejectCallback error (.slice bounded.offset)).Rejecting
          f.drains f.delayed f.uncancelled written := by
    intro hnone hkind
    have hbounded := h.bounded.trans hnone
    rw [hbounded, hkind]
    exact ⟨hdestroyed, htrailers, hbounded, h.drains, h.delayed, hcalls, horderly⟩
  have hslice : ∀ b : BoundedStreamWrite, f.bounded = some b → f.kind = some b.fin →
      f.uncancelled = none →
      (s.boundedWrite.elim s fun bounded =>
        s.rejectCallback error (.slice bounded.offset)).Rejecting
          f.drains f.delayed f.uncancelled written := by
    intro b hb hkind huncancelled
    have hbounded := h.bounded.trans hb
    have hback : callState (s.calls ++ [.calledBack b.fin (some error)]) = some ⟨none, true⟩ := by
      rw [callState_append_singleton, hcalls, hkind]
      simp [CallState.next]
    rw [hbounded, huncancelled]
    show (s.rejectCallback error (.slice b.offset)).Rejecting _ _ _ _
    rw [rejectCallback_slice hbounded]
    exact ⟨hdestroyed, htrailers, rfl, h.drains, h.delayed, hback, horderly⟩
  cases f with
  | idle => exact hwhole rfl rfl
  | scheduled b => exact hslice _ rfl rfl rfl
  | piece stage p =>
    cases p with
    | whole fin data => exact hwhole rfl rfl
    | slice b => exact hslice _ rfl rfl rfl

/-- Destruction calls back whatever call is outstanding, with the error. -/
theorem Winding.destroyWith (hL : WholeOrNothing L) (h : s.Winding f written)
    (hrest : f.Resting) : (s.destroyWith error).Over written := by
  unfold ServerHttp3Stream.destroyWith
  rw [if_neg (by rw [h.alive]; decide)]
  extract_lets s₁ s₂ s₃ s₄ s₅
  have h₂ : s₂.Rejecting f.drains f.delayed f.uncancelled written := by
    have hflight : s₁.InFlight f :=
      ⟨h.flight.drains, h.flight.delayed, h.flight.bounded, h.flight.release⟩
    apply hflight.cancel rfl h.noTrailerCallback ?_ h.orderly
    show callState (s.calls ++ [.destroyed]) = _
    rw [callState_append_singleton, h.calls]
    rfl
  have h₃ : s₃.Rejecting f.drains f.delayed f.uncancelled written := by
    show (ServerHttp3Stream.rejectWasmTrailers error
        { s₂ with finalChunk := none }).Rejecting _ _ _ _
    unfold ServerHttp3Stream.rejectWasmTrailers
    dsimp only
    rw [h₂.noTrailerCallback]
    exact { h₂ with noTrailerCallback := rfl }
  have h₄ : s₄.Rejecting f.drains f.delayed f.uncancelled written := by
    show (if _ then _ else _ : ServerHttp3Stream (Recorded L)).Rejecting _ _ _ _
    split_ifs
    · exact h₃.closeTransport hL _
    · exact h₃
  have h₅ : s₅.Rejecting [] [] none written := by
    show ((s₄.rejectDrainCallbacks error).rejectNativeWriteWindow error).Rejecting _ _ _ _
    cases f with
    | idle => exact h₄.rejectDrainCallbacks_nil.rejectNativeWriteWindow_nil
    | scheduled b => exact h₄.rejectDrainCallbacks_nil.rejectNativeWriteWindow_nil
    | piece stage p =>
      cases stage with
      | trying => exact hrest.elim
      | waiting => exact h₄.rejectDrainCallbacks.rejectNativeWriteWindow_nil
      | held => exact h₄.rejectDrainCallbacks_nil.rejectNativeWriteWindow
      | sent => exact hrest.elim
  exact ⟨h₅.destroyed, ⟨h₅.drains, h₅.delayed, h₅.bounded, fun hne => absurd h₅.delayed hne⟩,
    h₅.calls, h₅.orderly⟩

end Destroy

section Callbacks

variable {p : Piece} {error : JsError}

theorem Sending.rejectCallback (h : s.Sending (.piece .trying p) written) :
    (s.rejectCallback error p.callback).Winding .idle written := by
  obtain ⟨hdrains, hdelayed, hbounded, hrelease⟩ := h.flight
  have hcalls := h.calls
  cases p with
  | whole fin data =>
    have hback : callState (s.calls ++ [.calledBack fin (some error)]) = some ⟨none, false⟩ := by
      rw [callState_append_singleton, hcalls]
      simp [CallState.next, Flight.kind, Piece.kind]
    cases fin with
    | false =>
      exact ⟨h.alive, h.noTrailerCallback, ⟨hdrains, hdelayed, hbounded, hrelease⟩, hback,
        h.orderly⟩
    | true =>
      exact ⟨h.alive, h.noTrailerCallback, ⟨hdrains, hdelayed, hbounded, hrelease⟩, hback,
        h.orderly⟩
  | slice b =>
    have hback : callState (s.calls ++ [.calledBack b.fin (some error)]) = some ⟨none, false⟩ := by
      rw [callState_append_singleton, hcalls]
      simp [CallState.next, Flight.kind, Piece.kind]
    show (s.rejectCallback error (.slice b.stop)).Winding .idle written
    rw [rejectCallback_slice hbounded]
    exact ⟨h.alive, h.noTrailerCallback, ⟨hdrains, hdelayed, rfl, hrelease⟩, hback, h.orderly⟩

theorem Sending.fail (hL : WholeOrNothing L) (h : s.Sending (.piece .trying p) written) :
    ((s.rejectCallback error p.callback).destroyWith error).Over written :=
  h.rejectCallback.destroyWith hL trivial

theorem Sending.write_calledBack {data : Bytes}
    (h : s.Sending (.piece .sent (.whole false data)) written) :
    (s.record (.calledBack false none)).Sending .idle written ∧ s.finalCalled = false := by
  have hphase := h.phase
  have hcalled : s.finalCalled = false := by
    by_contra hnot
    rw [if_pos (Bool.eq_true_of_not_eq_false hnot)] at hphase
    exact hphase.2 rfl
  refine ⟨{ h with
    flight := ⟨h.flight.drains, h.flight.delayed, h.flight.bounded, h.flight.release⟩
    fits := trivial
    calls := ?_
    finOut := h.finOut
    phase := ?_ }, hcalled⟩
  · show callState (s.calls ++ [.calledBack false none]) = _
    rw [callState_append_singleton, h.calls]
    rfl
  · show if s.finalCalled then _ else _
    rw [hcalled] at hphase ⊢
    exact ⟨hphase.1, by decide⟩

theorem Sending.final_calledBack {data : Bytes}
    (h : s.Sending (.piece .sent (.whole true data)) written) :
    (({ s with writableFinished := true } : ServerHttp3Stream (Recorded L)).record
      (.calledBack true none)).Sending .idle written := by
  have hphase := h.phase
  have hcalled : s.finalCalled = true := by
    by_contra hnot
    rw [if_neg hnot] at hphase
    exact hphase.2 rfl
  refine { h with
    flight := ⟨h.flight.drains, h.flight.delayed, h.flight.bounded, h.flight.release⟩
    fits := trivial
    calls := ?_
    finOut := fun _ => .inr rfl
    phase := ?_ }
  · show callState (s.calls ++ [.calledBack true none]) = _
    rw [callState_append_singleton, h.calls]
    rfl
  · show if s.finalCalled then _ else _
    rw [if_pos hcalled]
    exact ⟨rfl, by decide⟩

theorem Sending.slice_complete {b : BoundedStreamWrite}
    (h : s.Sending (.piece .sent (.slice b)) written) (hstop : b.stop = b.body.length) :
    ({ s with boundedWrite := none } : ServerHttp3Stream (Recorded L)).Sending
      (.piece .sent (.whole b.fin [])) written := by
  refine { h with
    flight := ⟨h.flight.drains, h.flight.delayed, rfl, h.flight.release⟩
    fits := trivial
    bytes := ?_
    finOut := ?_ }
  · have hbytes := h.bytes
    have hrest : Flight.rest (.piece .sent (.slice b)) = [] := by
      show b.body.drop b.stop = []
      rw [hstop, List.drop_length]
    rw [hrest] at hbytes
    exact hbytes
  · intro hfin
    refine (h.finOut hfin).imp_left ?_
    intro hout
    exact (Piece.after_of_fin (p := .slice b) hout).1

theorem Sending.slice_next {b : BoundedStreamWrite}
    (h : s.Sending (.piece .sent (.slice b)) written) (hstop : b.stop ≠ b.body.length) :
    ({ s with boundedWrite := some { b with offset := b.stop, scheduled := true } } :
      ServerHttp3Stream (Recorded L)).Sending (.scheduled { b with offset := b.stop })
        written := by
  obtain ⟨hlimit, hzero, hoffset⟩ := h.fits
  have hle : b.stop ≤ b.body.length := min_le_right _ _
  refine { h with
    flight := ⟨h.flight.drains, h.flight.delayed, rfl, h.flight.release⟩
    fits := ⟨hlimit, hzero, lt_of_le_of_ne hle hstop⟩
    finOut := ?_ }
  intro hfin
  refine (h.finOut hfin).imp_left ?_
  intro hout
  simp only [Flight.finOut, Piece.fin, Bool.and_eq_true, beq_iff_eq] at hout
  exact absurd hout.2.2 hstop

end Callbacks

end

end ServerHttp3Stream

end Http3
