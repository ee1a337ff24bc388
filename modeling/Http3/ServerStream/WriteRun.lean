import Http3.ServerStream.WritePath

/-! The write path over whole runs: calls of the application, events of the
worker and turns of the JavaScript event loop in any order. -/

namespace Http3

namespace ServerHttp3Stream

variable {L : Type} [ServerEventLoopLike L] {s : ServerHttp3Stream (Recorded L)}
  {f : Flight} {p : Piece} {written : Bytes}

/-- A call of kind `kind` is all the writable is doing. -/
def Serial (s : ServerHttp3Stream (Recorded L)) (kind : Option Bool) : Prop :=
  s.writing = (kind == some false) ∧ (s.writing = false → s.buffered = [])

theorem Sending.atRest (h : s.Sending f written) (hrest : f.Resting) (hserial : s.Serial f.kind) :
    s.AtRest written :=
  .inr ⟨f, hrest, h, hserial⟩

theorem Flight.eq_idle (h : f.kind = none) : f = .idle := by
  cases f with
  | idle => rfl
  | scheduled b => cases h
  | piece stage p => cases h

theorem Sending.idle_of_not_writing (h : s.Sending f written) (hserial : s.Serial f.kind)
    (hwriting : s.writing = false) (hcalled : s.finalCalled = false) : f = .idle := by
  have hphase := h.phase
  rw [hcalled] at hphase
  have hnot := hserial.1
  rw [hwriting] at hnot
  apply Flight.eq_idle
  cases hkind : f.kind with
  | none => rfl
  | some kind =>
    rw [hkind] at hnot hphase
    cases kind with
    | false => cases hnot
    | true => exact absurd rfl hphase.2

theorem Sending.call_final (h : s.Sending .idle written) (hending : s.ending = true)
    (hbuffered : s.buffered = []) (hcalled : s.finalCalled = false) :
    ({ s with
        finalCalled := true
        finSent := true
        finalChunk := none
        calls := s.calls ++ [.called true] } : ServerHttp3Stream (Recorded L)).Sending
      (.piece .trying (.whole true (s.finalChunk.getD []))) written := by
  have hphase := h.phase
  rw [hcalled] at hphase
  refine { h with
    finSent := rfl
    flight := ⟨h.flight.drains, h.flight.delayed, h.flight.bounded, h.flight.release⟩
    fits := trivial
    calls := ?_
    bytes := ?_
    finOut := fun hfin => .inr ((h.finOut hfin).resolve_left (by decide))
    beforeEnd := fun _ => rfl
    finalDone := fun _ => ⟨hending, hbuffered, rfl⟩
    phase := ⟨hphase.1, by simp [Flight.kind, Piece.kind]⟩ }
  · show callState (s.calls ++ [.called true]) = _
    rw [callState_append_singleton, h.calls]
    rfl
  · have hbytes := h.bytes
    rw [hbuffered] at hbytes
    show acceptedBytes s.offers ++ (s.finalChunk.getD [] ++ []) ++
        s.buffered.flatten ++ [] = written
    rw [hbuffered]
    simpa [Flight.rest] using hbytes

theorem Sending.call_write {chunk : Bytes} {rest : List Bytes}
    (h : ({ s with buffered := chunk :: rest } : ServerHttp3Stream (Recorded L)).Sending
      .idle written) (hcalled : s.finalCalled = false) :
    (({ s with buffered := rest, writing := true } : ServerHttp3Stream (Recorded L)).record
      (.called false)).Sending (.piece .trying (.whole false chunk)) written := by
  have hphase : if s.finalCalled then _ else _ := h.phase
  rw [hcalled] at hphase
  refine { h with
    flight := ⟨h.flight.drains, h.flight.delayed, h.flight.bounded, h.flight.release⟩
    fits := trivial
    calls := ?_
    bytes := ?_
    finOut := h.finOut
    finalDone := fun hyes => absurd (hcalled.symm.trans hyes) (by decide)
    phase := ?_ }
  · show callState (s.calls ++ [.called false]) = _
    rw [callState_append_singleton]
    rw [show callState s.calls = _ from h.calls]
    rfl
  · have hbytes : acceptedBytes s.offers ++ [] ++ (chunk :: rest).flatten ++
        s.finalChunk.getD [] = written := h.bytes
    show acceptedBytes s.offers ++ (chunk ++ []) ++ rest.flatten ++ s.finalChunk.getD [] = written
    simpa using hbytes
  · show if s.finalCalled then _ else _
    rw [hcalled]
    exact ⟨hphase.1, by simp [Flight.kind, Piece.kind]⟩

theorem Tried.serial {r : Fired × ServerHttp3Stream (Recorded L)} (h : s.Tried p written r)
    {kind : Option Bool} (hserial : s.Serial kind) : r.2.Serial kind := by
  obtain ⟨⟨hwriting, hbuffered⟩, -⟩ := h
  refine ⟨hwriting.trans hserial.1, ?_⟩
  intro hnot
  rw [hwriting] at hnot
  exact hbuffered.trans (hserial.2 hnot)

theorem Tried.later {s' : ServerHttp3Stream (Recorded L)} (h : s.Tried p written (.later, s'))
    (hserial : s.Serial (some p.kind)) : s'.AtRest written := by
  have hserial' := h.serial hserial
  obtain ⟨-, f, hrest, hkind, hsending⟩ := h
  refine hsending.atRest hrest ?_
  rw [hkind]
  exact hserial'

/-- The end of the writable is reached or put off. -/
theorem AtRest.finishMaybe (hL : WholeOrNothing L) (h : s.AtRest written) :
    s.finishMaybe.AtRest written := by
  unfold ServerHttp3Stream.finishMaybe
  by_cases hdue : (s.ending && !s.finalCalled && !s.destroyed && !s.writing &&
      s.buffered.isEmpty) = true
  · rw [if_pos hdue]
    simp only [Bool.and_eq_true, Bool.not_eq_true', List.isEmpty_iff] at hdue
    obtain ⟨⟨⟨⟨hending, hcalled⟩, halive⟩, hwriting⟩, hbuffered⟩ := hdue
    obtain hover | ⟨f, -, hsending, hserial⟩ := h
    · exact absurd (hover.destroyed.symm.trans halive) (by decide)
    · obtain rfl := hsending.idle_of_not_writing hserial hwriting hcalled
      have hcall := hsending.call_final hending hbuffered hcalled
      have htried := hcall.attempt hL
      have hfinal : ServerHttp3Stream.attempt (Piece.whole true (s.finalChunk.getD [])).retry
          { s with
            finalCalled := true
            finSent := true
            finalChunk := none
            calls := s.calls ++ [.called true] } =
          (({ s with finalCalled := true } : ServerHttp3Stream (Recorded L)).record
            (.called true)).final := by
        unfold ServerHttp3Stream.final
        dsimp only [record]
        rw [hsending.noTrailers, hsending.finSent, hcalled, hsending.connected]
        rfl
      rw [hfinal] at htried
      rcases hr : (({ s with finalCalled := true } : ServerHttp3Stream (Recorded L)).record
        (.called true)).final with ⟨fired, s'⟩
      rw [hr] at htried
      have hserial' : s'.Serial (some true) := htried.serial ⟨hwriting, fun _ => hbuffered⟩
      cases fired with
      | now => exact htried.2.final_calledBack.atRest trivial hserial'
      | later => exact htried.later ⟨hwriting, fun _ => hbuffered⟩
      | failed e => exact .inl (htried.2.fail hL)
  · rw [if_neg hdue]
    exact h

theorem Sending.pump (hL : WholeOrNothing L) (chunks : List Bytes) :
    ∀ s : ServerHttp3Stream (Recorded L),
      ({ s with buffered := chunks } : ServerHttp3Stream (Recorded L)).Sending .idle written →
      s.finalCalled = false → (s.pump chunks).AtRest written := by
  induction chunks with
  | nil =>
    intro s h hcalled
    have hdone : ({ s with buffered := [], writing := false } :
        ServerHttp3Stream (Recorded L)).Sending .idle written :=
      { h with flight := ⟨h.flight.drains, h.flight.delayed, h.flight.bounded, h.flight.release⟩ }
    exact (hdone.atRest trivial ⟨rfl, fun _ => rfl⟩).finishMaybe hL
  | cons chunk rest ih =>
    intro s h hcalled
    have hcall := h.call_write hcalled
    have htried := hcall.attempt hL
    unfold ServerHttp3Stream.pump
    dsimp only
    rw [if_pos hcall.connected]
    change Tried _ _ _ (writeChunk chunk .write _) at htried
    rcases hr : writeChunk chunk .write
      (({ s with buffered := rest, writing := true } : ServerHttp3Stream (Recorded L)).record
        (.called false)) with ⟨fired, s'⟩
    rw [hr] at htried
    cases fired with
    | now =>
      obtain ⟨hidle, hcalled'⟩ := htried.2.write_calledBack
      have hbuffered : s'.buffered = rest := htried.1.2
      apply ih
      · rw [← hbuffered]
        exact hidle
      · exact hcalled'
    | later =>
      exact htried.later ⟨rfl, fun hnot => absurd (show true = false from hnot) (by decide)⟩
    | failed e => exact .inl (htried.2.fail hL)

theorem Sending.runCallback (hL : WholeOrNothing L) (h : s.Sending (.piece .sent p) written)
    (hserial : s.Serial (some p.kind)) : (s.runCallback p.callback).AtRest written := by
  -- the writable's own callback, of either kind
  have hown : ∀ (fin : Bool) (s : ServerHttp3Stream (Recorded L)),
      s.Sending (.piece .sent (.whole fin [])) written → s.Serial (some fin) →
        (s.writableCallback fin).AtRest written := by
    intro fin s h hserial
    unfold writableCallback
    dsimp only
    rw [if_neg (by rw [show (record _ s).destroyed = false from h.alive]; decide)]
    cases fin with
    | false =>
      obtain ⟨hidle, hcalled⟩ := h.write_calledBack
      exact Sending.pump hL _ _ hidle hcalled
    | true => exact h.final_calledBack.atRest trivial hserial
  cases p with
  | whole fin data =>
    have hempty : s.Sending (.piece .sent (.whole fin [])) written :=
      { h with flight := ⟨h.flight.drains, h.flight.delayed, h.flight.bounded, h.flight.release⟩ }
    cases fin with
    | false => exact hown false s hempty hserial
    | true => exact hown true s hempty hserial
  | slice b =>
    unfold ServerHttp3Stream.runCallback Piece.callback
    dsimp only
    rw [show s.boundedWrite = some { b with scheduled := false } from h.flight.bounded]
    dsimp only
    split_ifs with hstop
    · exact hown b.fin _ (h.slice_complete hstop) hserial
    · exact (h.slice_next hstop).atRest trivial hserial

theorem Sending.settle (hL : WholeOrNothing L) (h : s.Sending (.piece .trying p) written)
    (hserial : s.Serial (some p.kind)) :
    (settle p.callback (s.attempt p.retry)).AtRest written := by
  have htried := h.attempt hL
  generalize s.attempt p.retry = r at htried
  have hserial' := htried.serial hserial
  obtain ⟨fired, s'⟩ := r
  cases fired with
  | now => exact htried.2.runCallback hL hserial'
  | later => exact htried.later hserial
  | failed e => exact .inl (htried.2.fail hL)

section Events

theorem AtRest.fireDrainCallbacks (hL : WholeOrNothing L) (h : s.AtRest written) :
    s.fireDrainCallbacks.AtRest written := by
  unfold ServerHttp3Stream.fireDrainCallbacks
  obtain hover | ⟨f, hrest, hsending, hserial⟩ := h
  · rw [hover.flight.drains]
    exact .inl { hover with
      flight := ⟨rfl, hover.flight.delayed, hover.flight.bounded, hover.flight.release⟩ }
  · obtain ⟨hdrains, hdelayed, hbounded, hrelease⟩ := hsending.flight
    have hempty : f.drains = [] →
        ({ s with drainCallbacks := [] } : ServerHttp3Stream (Recorded L)).AtRest written := by
      intro hnone
      have hs : ({ s with drainCallbacks := [] } : ServerHttp3Stream (Recorded L)).Sending
          f written := { hsending with flight := ⟨hnone.symm, hdelayed, hbounded, hrelease⟩ }
      exact hs.atRest hrest hserial
    rw [hdrains]
    cases f with
    | idle => exact hempty rfl
    | scheduled b => exact hempty rfl
    | piece stage p =>
      cases stage with
      | trying => exact hrest.elim
      | sent => exact hrest.elim
      | held => exact hempty rfl
      | waiting =>
        have htrying : ({ s with drainCallbacks := [] } : ServerHttp3Stream (Recorded L)).Sending
            (.piece .trying p) written :=
          { hsending with flight := ⟨rfl, hdelayed, hbounded, hrelease⟩ }
        exact htrying.settle hL hserial

/-- The next turn runs a callback that was held back. -/
theorem AtRest.releaseWindow (hL : WholeOrNothing L) (h : s.AtRest written) :
    s.releaseWindow.AtRest written := by
  unfold ServerHttp3Stream.releaseWindow
  split_ifs with hscheduled
  · obtain hover | ⟨f, hrest, hsending, hserial⟩ := h
    · rw [hover.flight.delayed]
      exact .inl { hover with
        flight := ⟨hover.flight.drains, rfl, hover.flight.bounded, fun hne => absurd rfl hne⟩ }
    · obtain ⟨hdrains, hdelayed, hbounded, -⟩ := hsending.flight
      have hopen : ∀ g : Flight, g.drains = f.drains → g.delayed = [] → g.bounded = f.bounded →
          ({ s with window := ⟨s.window.highWaterMark, 0, false, []⟩ } :
            ServerHttp3Stream (Recorded L)).InFlight g := by
        intro g hd hw hb
        exact ⟨hdrains.trans hd.symm, hw.symm, hbounded.trans hb.symm, fun hne => absurd rfl hne⟩
      have hempty : f.delayed = [] →
          ({ s with window := ⟨s.window.highWaterMark, 0, false, []⟩ } :
            ServerHttp3Stream (Recorded L)).AtRest written := by
        intro hnone
        have hs : ({ s with window := ⟨s.window.highWaterMark, 0, false, []⟩ } :
            ServerHttp3Stream (Recorded L)).Sending f written :=
          { hsending with flight := hopen f rfl hnone rfl }
        exact hs.atRest hrest hserial
      rw [hdelayed]
      cases f with
      | idle => exact hempty rfl
      | scheduled b => exact hempty rfl
      | piece stage p =>
        cases stage with
        | trying => exact hrest.elim
        | sent => exact hrest.elim
        | waiting => exact hempty rfl
        | held =>
          have hsent : ({ s with window := ⟨s.window.highWaterMark, 0, false, []⟩ } :
              ServerHttp3Stream (Recorded L)).Sending (.piece .sent p) written :=
            { hsending with flight := hopen (.piece .sent p) rfl rfl rfl }
          exact hsent.runCallback hL hserial
  · exact h

theorem Sending.nextSlice {b : BoundedStreamWrite} (h : s.Sending (.scheduled b) written) :
    ({ s with boundedWrite := some { b with scheduled := false } } :
      ServerHttp3Stream (Recorded L)).Sending (.piece .trying (.slice b)) written :=
  { h with
    flight := ⟨h.flight.drains, h.flight.delayed, rfl, h.flight.release⟩
    bytes := by
      have hbytes := h.bytes
      have hrest : Flight.rest (.piece .trying (.slice b)) = b.body.drop b.offset :=
        Piece.data_append_after b (Piece.offset_lt_stop h.fits).le
      rw [hrest]
      exact hbytes }

theorem AtRest.sendSlice (hL : WholeOrNothing L) (h : s.AtRest written) :
    s.sendSlice.AtRest written := by
  unfold ServerHttp3Stream.sendSlice
  obtain hover | ⟨f, hrest, hsending, hserial⟩ := h
  · rw [hover.flight.bounded]
    exact .inl hover
  · obtain ⟨hdrains, hdelayed, hbounded, hrelease⟩ := hsending.flight
    rw [hbounded]
    cases f with
    | idle => exact hsending.atRest hrest hserial
    | scheduled b =>
      exact hsending.nextSlice.settle hL hserial
    | piece stage p =>
      cases p with
      | whole fin data => exact hsending.atRest hrest hserial
      | slice b => exact hsending.atRest hrest hserial

end Events

section Calls

theorem AtRest.destroyWith (hL : WholeOrNothing L) (h : s.AtRest written) (error : JsError) :
    (s.destroyWith error).Over written := by
  obtain hover | ⟨f, hrest, hsending, -⟩ := h
  · unfold ServerHttp3Stream.destroyWith
    rw [if_pos hover.destroyed]
    exact hover
  · exact hsending.winding.destroyWith hL hrest

/-- A write goes out, waits behind the call under way, or comes after the end. -/
theorem AtRest.write (hL : WholeOrNothing L) (h : s.AtRest written) (chunk : Bytes) :
    (s.write chunk).AtRest
      (if s.destroyed || s.ending then written else written ++ chunk) := by
  unfold ServerHttp3Stream.write
  obtain hover | ⟨f, hrest, hsending, hserial⟩ := h
  · rw [if_pos hover.destroyed, if_pos (by rw [hover.destroyed, Bool.true_or])]
    exact .inl hover
  · rw [if_neg (by rw [hsending.alive]; decide)]
    by_cases hending : s.ending = true
    · rw [if_pos hending, if_pos (by rw [hending, Bool.or_true])]
      exact .inl (hsending.winding.destroyWith hL hrest)
    · have hwritten : (if s.destroyed || s.ending then written else written ++ chunk) =
          written ++ chunk := if_neg (by simp [hsending.alive, hending])
      rw [if_neg hending, hwritten]
      have hending := Bool.eq_false_of_not_eq_true hending
      have hlast := hsending.beforeEnd hending
      have hbytes := hsending.bytes
      rw [hlast, List.append_nil] at hbytes
      by_cases hwriting : s.writing = true
      · rw [if_pos hwriting]
        have hs : ({ s with buffered := s.buffered ++ [chunk] } :
            ServerHttp3Stream (Recorded L)).Sending f (written ++ chunk) :=
          { hsending with
            flight := ⟨hsending.flight.drains, hsending.flight.delayed, hsending.flight.bounded,
              hsending.flight.release⟩
            bytes := by
              show acceptedBytes s.offers ++ f.rest ++ (s.buffered ++ [chunk]).flatten ++
                s.finalChunk.getD [] = written ++ chunk
              rw [hlast, ← hbytes]
              simp
            finalDone := fun hcalled => by
              have hdone := (hsending.finalDone hcalled).1
              rw [hending] at hdone
              cases hdone }
        exact hs.atRest hrest ⟨hserial.1, fun hnot => absurd (hwriting.symm.trans hnot) (by decide)⟩
      · rw [if_neg hwriting]
        have hwriting := Bool.eq_false_of_not_eq_true hwriting
        have hcalled : s.finalCalled = false := by
          by_contra hnot
          have hdone := (hsending.finalDone (Bool.eq_true_of_not_eq_false hnot)).1
          rw [hending] at hdone
          cases hdone
        have hbuffered := hserial.2 hwriting
        obtain rfl := hsending.idle_of_not_writing hserial hwriting hcalled
        have hs : ({ s with buffered := [chunk] } :
            ServerHttp3Stream (Recorded L)).Sending .idle (written ++ chunk) :=
          { hsending with
            flight := ⟨hsending.flight.drains, hsending.flight.delayed, hsending.flight.bounded,
              hsending.flight.release⟩
            bytes := by
              show acceptedBytes s.offers ++ [] ++ [chunk].flatten ++ s.finalChunk.getD [] =
                written ++ chunk
              rw [hlast, ← hbytes, hbuffered]
              simp [Flight.rest]
            finalDone := fun hyes => absurd (hcalled.symm.trans hyes) (by decide) }
        exact Sending.pump hL _ _ hs hcalled

/-- No bytes given to an earlier `end` are displaced, and none come after `_final`. -/
def EndsOnce (s : ServerHttp3Stream L) (finalChunk : Option Bytes) : Prop :=
  s.destroyed = true ∨ ∀ chunk ∈ finalChunk,
    s.finalChunk.getD [] = [] ∧ (s.finalCalled = true → chunk = [])

theorem AtRest.endWith (hL : WholeOrNothing L) (h : s.AtRest written) {finalChunk : Option Bytes}
    (honce : s.EndsOnce finalChunk) :
    (s.endWith finalChunk).AtRest
      (if s.destroyed then written else written ++ finalChunk.getD []) := by
  unfold ServerHttp3Stream.endWith
  dsimp only
  have hkept : ({ s with finalChunk := finalChunk.or s.finalChunk, ending := true } :
      ServerHttp3Stream (Recorded L)).AtRest
        (if s.destroyed then written else written ++ finalChunk.getD []) := by
    obtain hover | ⟨f, hrest, hsending, hserial⟩ := h
    · rw [show (if s.destroyed then written else _) = written from if_pos hover.destroyed]
      exact .inl { hover with
        flight := ⟨hover.flight.drains, hover.flight.delayed, hover.flight.bounded,
          hover.flight.release⟩ }
    · rw [show (if s.destroyed then written else written ++ finalChunk.getD []) =
        written ++ finalChunk.getD [] from if_neg (by rw [hsending.alive]; decide)]
      have honce := honce.resolve_left (by rw [hsending.alive]; decide)
      have hs : ({ s with finalChunk := finalChunk.or s.finalChunk, ending := true } :
          ServerHttp3Stream (Recorded L)).Sending f (written ++ finalChunk.getD []) :=
        { hsending with
          flight := ⟨hsending.flight.drains, hsending.flight.delayed, hsending.flight.bounded,
            hsending.flight.release⟩
          bytes := by
            have hbytes := hsending.bytes
            show acceptedBytes s.offers ++ f.rest ++ s.buffered.flatten ++
              (finalChunk.or s.finalChunk).getD [] = written ++ finalChunk.getD []
            cases finalChunk with
            | none => simpa using hbytes
            | some chunk =>
              rw [(honce chunk rfl).1, List.append_nil] at hbytes
              rw [hbytes]
              rfl
          beforeEnd := fun hnot => absurd (show true = false from hnot) (by decide)
          finalDone := fun hcalled => by
            obtain ⟨-, hbuffered, hnone⟩ := hsending.finalDone hcalled
            refine ⟨rfl, hbuffered, ?_⟩
            cases finalChunk with
            | none => exact hnone
            | some chunk => exact (honce chunk rfl).2 hcalled }
      exact hs.atRest hrest hserial
  by_cases hending : s.ending = true
  · have heq : ({ s with finalChunk := finalChunk.or s.finalChunk } :
        ServerHttp3Stream (Recorded L)) =
          { s with finalChunk := finalChunk.or s.finalChunk, ending := true } := by
      rw [← hending]
    rw [if_pos hending, heq]
    exact hkept
  · rw [if_neg hending]
    exact hkept.finishMaybe hL

theorem Sending.withLoop {loop : L} (h : s.Sending f written)
    (hlimit : ServerEventLoopLike.maxStreamSendBytes loop = s.limit) :
    ({ s with eventLoop := ⟨loop, s.offers⟩ } : ServerHttp3Stream (Recorded L)).Sending
      f written :=
  { h with
    flight := ⟨h.flight.drains, h.flight.delayed, h.flight.bounded, h.flight.release⟩
    fits := by
      have hfits := h.fits
      rw [← hlimit] at hfits
      exact hfits
    within := by
      have hwithin := h.within
      rw [← hlimit] at hwithin
      exact hwithin }

theorem AtRest.withLoop {loop : L} (h : s.AtRest written)
    (hlimit : ServerEventLoopLike.maxStreamSendBytes loop = s.limit) :
    ({ s with eventLoop := ⟨loop, s.offers⟩ } : ServerHttp3Stream (Recorded L)).AtRest
      written := by
  obtain hover | ⟨f, hrest, hsending, hserial⟩ := h
  · refine .inl { hover with
      flight := ⟨hover.flight.drains, hover.flight.delayed, hover.flight.bounded,
        hover.flight.release⟩
      orderly := ?_ }
    have horderly := hover.orderly
    rw [← hlimit] at horderly
    exact horderly
  · exact (hsending.withLoop hlimit).atRest hrest hserial

theorem AtRest.withFlags (h : s.AtRest written) (blocked readableEnded : Bool) :
    ({ s with blocked, readableEnded } : ServerHttp3Stream (Recorded L)).AtRest written := by
  obtain hover | ⟨f, hrest, hsending, hserial⟩ := h
  · exact .inl { hover with
      flight := ⟨hover.flight.drains, hover.flight.delayed, hover.flight.bounded,
        hover.flight.release⟩ }
  · refine .inr ⟨f, hrest, { hsending with flight := ?_ }, hserial⟩
    exact ⟨hsending.flight.drains, hsending.flight.delayed, hsending.flight.bounded,
      hsending.flight.release⟩

theorem Sending.rejectDrainCallbacks (h : s.Sending (.piece .waiting p) written)
    (error : JsError) : (s.rejectDrainCallbacks error).Winding .idle written := by
  obtain ⟨hdrains, hdelayed, hbounded, hrelease⟩ := h.flight
  have htrying : ({ s with drainCallbacks := [] } : ServerHttp3Stream (Recorded L)).Sending
      (.piece .trying p) written := { h with flight := ⟨rfl, hdelayed, hbounded, hrelease⟩ }
  unfold ServerHttp3Stream.rejectDrainCallbacks
  rw [hdrains]
  exact htrying.rejectCallback

theorem AtRest.close (hL : WholeOrNothing L) (h : s.AtRest written) (code : ℕ) :
    (s.close code).Over written := by
  unfold ServerHttp3Stream.close
  obtain hover | ⟨f, hrest, hsending, -⟩ := h
  · rw [if_pos hover.destroyed]
    exact hover
  · rw [if_neg (by rw [hsending.alive]; decide)]
    obtain ⟨closeSent, loop, heq, hlimit⟩ := closeTransport_eq hL code s
    have hclosed : (s.closeTransport code).Sending f written := by
      have hloop := hsending.withLoop hlimit
      rw [heq]
      exact { hloop with
        flight := ⟨hloop.flight.drains, hloop.flight.delayed, hloop.flight.bounded,
          hloop.flight.release⟩ }
    dsimp only
    split_ifs with hempty
    · exact hclosed.winding.destroyWith hL hrest
    · rw [hclosed.flight.drains] at hempty
      cases f with
      | idle => exact absurd rfl hempty
      | scheduled b => exact absurd rfl hempty
      | piece stage p =>
        cases stage with
        | trying => exact hrest.elim
        | sent => exact hrest.elim
        | held => exact absurd rfl hempty
        | waiting => exact (hclosed.rejectDrainCallbacks _).destroyWith hL trivial

end Calls

end ServerHttp3Stream

/-- What happens to a response stream: calls of the application, events, turns
of the JavaScript event loop, and the loop below going on by itself. -/
inductive WriteInput (L : Type)
  | write (chunk : Bytes)
  | endWith (finalChunk : Option Bytes)
  | close (code : ℕ)
  | destroy
  | blocked
  | drain
  | writeReady
  | releaseWindow
  | sendSlice
  | readEnd
  | elapse (loop : L)

/-- A stream with the bytes the writable took, in the order they were written. -/
structure WriteRun (L : Type) where
  stream : ServerHttp3Stream (Recorded L)
  written : Bytes

namespace WriteRun

open ServerHttp3Stream

variable {L : Type}

def start (ref : StreamRef) (loop : L) (highWaterMark : ℕ) : WriteRun L :=
  ⟨.new ref ⟨loop, []⟩ highWaterMark, []⟩

variable [ServerEventLoopLike L]

def step (i : WriteInput L) (r : WriteRun L) : WriteRun L :=
  let s := r.stream
  match i with
  | .write chunk =>
    ⟨s.write chunk, if s.destroyed || s.ending then r.written else r.written ++ chunk⟩
  | .endWith finalChunk =>
    ⟨s.endWith finalChunk, if s.destroyed then r.written else r.written ++ finalChunk.getD []⟩
  | .close code => { r with stream := s.close code }
  | .destroy => { r with stream := s.destroy }
  | .blocked => { r with stream := s.onNativeBlocked }
  | .drain => { r with stream := s.onNativeDrain }
  | .writeReady => { r with stream := s.onNativeWriteReady }
  | .releaseWindow => { r with stream := s.releaseWindow }
  | .sendSlice => { r with stream := s.sendSlice }
  | .readEnd => { r with stream := { s with readableEnded := true } }
  | .elapse loop => { r with stream := { s with eventLoop := ⟨loop, s.offers⟩ } }

def LimitKept : WriteInput L → WriteRun L → Prop
  | .elapse loop, r => ServerEventLoopLike.maxStreamSendBytes loop = r.stream.limit
  | _, _ => True

/-- `end` never brings a second chunk. -/
def EndsOnce : WriteInput L → WriteRun L → Prop
  | .endWith finalChunk, r => r.stream.EndsOnce finalChunk
  | _, _ => True

theorem start_atRest (ref : StreamRef) (loop : L) (highWaterMark : ℕ) :
    (start ref loop highWaterMark).stream.AtRest [] := by
  refine .inr ⟨.idle, trivial, ?_, rfl, fun _ => rfl⟩
  exact {
    connected := rfl
    alive := rfl
    noTrailers := rfl
    noTrailerCallback := rfl
    finSent := rfl
    flight := ⟨rfl, rfl, rfl, fun hne => absurd rfl hne⟩
    fits := trivial
    calls := rfl
    bytes := rfl
    within := fun _ ho => absurd ho List.not_mem_nil
    finLast := List.Pairwise.nil
    finOut := fun ⟨_, ho, _⟩ => absurd ho List.not_mem_nil
    beforeEnd := fun _ => rfl
    finalDone := fun hcalled => absurd (show false = true from hcalled) (by decide)
    phase := ⟨rfl, by decide⟩ }

theorem step_atRest (hL : WholeOrNothing L) (i : WriteInput L) (r : WriteRun L)
    (h : r.stream.AtRest r.written) (hlimit : LimitKept i r) (honce : EndsOnce i r) :
    (step i r).stream.AtRest (step i r).written := by
  cases i with
  | write chunk => exact h.write hL chunk
  | endWith finalChunk => exact h.endWith hL honce
  | close code => exact .inl (h.close hL code)
  | destroy => exact .inl (h.destroyWith hL _)
  | blocked => exact h.withFlags true r.stream.readableEnded
  | drain => exact (h.withFlags false r.stream.readableEnded).fireDrainCallbacks hL
  | writeReady => exact h.fireDrainCallbacks hL
  | releaseWindow => exact h.releaseWindow hL
  | sendSlice => exact h.sendSlice hL
  | readEnd => exact h.withFlags r.stream.blocked true
  | elapse loop => exact h.withLoop hlimit

end WriteRun

end Http3
