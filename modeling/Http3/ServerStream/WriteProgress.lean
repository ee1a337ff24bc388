import Http3.ServerStream.WriteRun

/-! A loop that admits what it is offered lets every call of the writable come
to its end: one wake-up and finitely many turns call it back. -/

namespace Http3

namespace ServerHttp3Stream

section Calls

variable {L : Type} [ServerEventLoopLike L]

omit [ServerEventLoopLike L] in
theorem calls_rejectCallback (error : JsError) (callback : WriteCallback)
    (s : ServerHttp3Stream L) : s.calls <+: (s.rejectCallback error callback).calls := by
  unfold rejectCallback record
  cases callback with
  | write => exact List.prefix_append _ _
  | final => exact List.prefix_append _ _
  | slice stop =>
    cases s.boundedWrite with
    | none => exact List.prefix_rfl
    | some bounded => exact List.prefix_append _ _

omit [ServerEventLoopLike L] in
theorem calls_rejectWasmTrailers (error : JsError) (s : ServerHttp3Stream L) :
    s.calls <+: (s.rejectWasmTrailers error).calls := by
  unfold rejectWasmTrailers record
  dsimp only
  split_ifs
  · exact List.prefix_append _ _
  · exact List.prefix_rfl

omit [ServerEventLoopLike L] in
theorem calls_foldl {α : Type} (g : ServerHttp3Stream L → α → ServerHttp3Stream L)
    (hg : ∀ s a, s.calls <+: (g s a).calls) (l : List α) (s : ServerHttp3Stream L) :
    s.calls <+: (l.foldl g s).calls := by
  induction l generalizing s with
  | nil => exact List.prefix_rfl
  | cons a l ih => exact (hg s a).trans (ih (g s a))

omit [ServerEventLoopLike L] in
theorem calls_onLoop {α : Type} (g : L → Except JsError α × L) (answer : α)
    (s : ServerHttp3Stream L) : (s.onLoop g answer).2.calls = s.calls := by
  unfold onLoop
  split_ifs
  · rfl
  · rfl

theorem calls_closeTransport (code : ℕ) (s : ServerHttp3Stream L) :
    (s.closeTransport code).calls = s.calls := by
  unfold closeTransport
  split_ifs <;> rfl

theorem calls_destroyWith (error : JsError) (s : ServerHttp3Stream L) :
    s.calls <+: (s.destroyWith error).calls := by
  unfold destroyWith
  split_ifs
  · exact List.prefix_rfl
  · extract_lets s₁ s₂ s₃ s₄ s₅
    have h₁ : s.calls <+: s₁.calls := List.prefix_append _ _
    have h₂ : s₁.calls <+: s₂.calls := by
      show s₁.calls <+: (s₁.boundedWrite.elim s₁ _).calls
      cases s₁.boundedWrite with
      | none => exact List.prefix_rfl
      | some bounded => exact calls_rejectCallback error (.slice bounded.offset) s₁
    have h₃ : s₂.calls <+: s₃.calls :=
      calls_rejectWasmTrailers error { s₂ with finalChunk := none }
    have h₄ : s₃.calls <+: s₄.calls := by
      show s₃.calls <+: (ite _ _ _ : ServerHttp3Stream L).calls
      split_ifs
      · rw [calls_closeTransport]
      · exact List.prefix_rfl
    have h₅ : s₄.calls <+: s₅.calls := by
      refine (calls_foldl _ ?_ s₄.drainCallbacks { s₄ with drainCallbacks := [] }).trans
        (calls_foldl _ ?_ _ { s₄.rejectDrainCallbacks error with
          window := { (s₄.rejectDrainCallbacks error).window with
            admittedBytes := 0, delayedCallbacks := [] } })
      · intro s retry
        cases retry with
        | send data fin callback => exact calls_rejectCallback _ _ _
        | trailers => exact calls_rejectWasmTrailers _ _
      · intro s callback
        exact calls_rejectCallback _ _ _
    exact h₁.trans (h₂.trans (h₃.trans (h₄.trans h₅)))

theorem calls_record_destroyWith (entry : CallRecord) (error : JsError)
    (s : ServerHttp3Stream L) : s.calls <+: ((s.record entry).destroyWith error).calls :=
  (List.prefix_append s.calls [entry]).trans (calls_destroyWith error (s.record entry))

omit [ServerEventLoopLike L] in
theorem calls_completeNativeWrite (n : ℕ) (callback : WriteCallback) (s : ServerHttp3Stream L) :
    (s.completeNativeWrite n callback).2.calls = s.calls := by
  unfold completeNativeWrite
  dsimp only
  split_ifs
  · rfl
  · rfl

theorem calls_writeChunk (chunk : Bytes) (callback : WriteCallback) (s : ServerHttp3Stream L) :
    (s.writeChunk chunk callback).2.calls = s.calls := by
  unfold writeChunk
  cases s.sliceLimit chunk.length with
  | some limit => rfl
  | none =>
    dsimp only
    split_ifs
    · rfl
    · have hcalls := calls_onLoop (ServerEventLoopLike.streamSend s.ref chunk false) 0 s
      rcases hr : s.onLoop (ServerEventLoopLike.streamSend s.ref chunk false) 0 with ⟨_ | n, s'⟩
      all_goals rw [hr] at hcalls
      · exact hcalls
      · dsimp only
        split_ifs
        · exact (calls_completeNativeWrite n callback s').trans hcalls
        · exact hcalls

theorem calls_writeFinalChunk (chunk : Bytes) (callback : WriteCallback)
    (s : ServerHttp3Stream L) : (s.writeFinalChunk chunk callback).2.calls = s.calls := by
  unfold writeFinalChunk
  cases s.sliceLimit chunk.length with
  | some limit => rfl
  | none =>
    -- blocked or not, an answer is followed up in the same way
    have hanswer : (if s.blocked then (.ok 0, s)
        else s.onLoop (ServerEventLoopLike.streamSend s.ref chunk true) 0).2.calls = s.calls := by
      split_ifs
      · rfl
      · exact calls_onLoop _ _ _
    generalize (if s.blocked then (.ok 0, s)
      else s.onLoop (ServerEventLoopLike.streamSend s.ref chunk true) 0) = r at hanswer ⊢
    obtain ⟨_ | n, s'⟩ := r
    · exact hanswer
    · have hcomplete := (calls_completeNativeWrite n callback s').trans hanswer
      dsimp only
      split_ifs
      · exact hcomplete
      · exact hanswer
      · exact hcomplete
      · exact hanswer

theorem calls_finishMaybe (s : ServerHttp3Stream L) : s.calls <+: s.finishMaybe.calls := by
  unfold finishMaybe
  split_ifs
  · have hcalls : s.calls <+: (({ s with finalCalled := true } : ServerHttp3Stream L).record
        (.called true)).final.2.calls := by
      refine (List.prefix_append s.calls [.called true]).trans ?_
      unfold final
      split_ifs
      · exact List.prefix_rfl
      · exact List.prefix_rfl
      · rw [calls_writeFinalChunk]
        exact List.prefix_rfl
    rcases hr : (({ s with finalCalled := true } : ServerHttp3Stream L).record
      (.called true)).final with ⟨_ | _ | e, s'⟩
    all_goals rw [hr] at hcalls
    · exact hcalls.trans (List.prefix_append _ _)
    · exact hcalls
    · exact hcalls.trans (calls_record_destroyWith _ e s')
  · exact List.prefix_rfl

theorem calls_pump (chunks : List Bytes) (s : ServerHttp3Stream L) :
    s.calls <+: (s.pump chunks).calls := by
  induction chunks generalizing s with
  | nil => exact calls_finishMaybe { s with buffered := [], writing := false }
  | cons chunk rest ih =>
    unfold pump
    have hcalled := List.prefix_append s.calls [.called false]
    dsimp only
    split_ifs
    · have hcalls := calls_writeChunk chunk .write
        (({ s with buffered := rest, writing := true } : ServerHttp3Stream L).record
          (.called false))
      rcases hr : writeChunk chunk .write
        (({ s with buffered := rest, writing := true } : ServerHttp3Stream L).record
          (.called false)) with ⟨_ | _ | e, s'⟩
      all_goals
        rw [hr] at hcalls
        change s'.calls = s.calls ++ [.called false] at hcalls
      · have hnext := (List.prefix_append s'.calls [.calledBack false none]).trans
          (ih (s'.record (.calledBack false none)))
        rw [hcalls] at hnext
        exact hcalled.trans hnext
      · dsimp only
        rw [hcalls]
        exact hcalled
      · have hnext := calls_record_destroyWith (.calledBack false (some e)) e s'
        rw [hcalls] at hnext
        exact hcalled.trans hnext
    · exact hcalled.trans (calls_record_destroyWith _ _
        (({ s with buffered := rest, writing := true } : ServerHttp3Stream L).record
          (.called false)))

theorem calls_writableCallback (fin : Bool) (s : ServerHttp3Stream L) :
    s.calls ++ [.calledBack fin none] <+: (s.writableCallback fin).calls := by
  unfold writableCallback
  dsimp only
  split_ifs
  · exact List.prefix_rfl
  · exact List.prefix_rfl
  · exact calls_pump _ (s.record (.calledBack fin none))

theorem calls_runCallback (callback : WriteCallback) (s : ServerHttp3Stream L) :
    s.calls <+: (s.runCallback callback).calls := by
  have hown : ∀ (fin : Bool) (s : ServerHttp3Stream L),
      s.calls <+: (s.writableCallback fin).calls := by
    intro fin s
    exact (List.prefix_append _ _).trans (calls_writableCallback fin s)
  unfold runCallback
  cases callback with
  | write => exact hown false s
  | final => exact hown true s
  | slice stop =>
    cases hbounded : s.boundedWrite with
    | none => exact List.prefix_rfl
    | some bounded =>
      dsimp only
      split_ifs
      · exact hown bounded.fin { s with boundedWrite := none }
      · exact List.prefix_rfl

theorem calls_releaseWindow (s : ServerHttp3Stream L) : s.calls <+: s.releaseWindow.calls := by
  unfold releaseWindow
  split_ifs
  · exact calls_foldl _ (fun s callback => calls_runCallback callback s) _
      { s with window := ⟨s.window.highWaterMark, 0, false, []⟩ }
  · exact List.prefix_rfl

/-- How often a call of this kind was called back. -/
def backs (kind : Bool) (s : ServerHttp3Stream L) : ℕ :=
  s.calls.countP (CallRecord.isCallBack kind)

omit [ServerEventLoopLike L] in
theorem backs_le {s s' : ServerHttp3Stream L} (h : s.calls <+: s'.calls) (kind : Bool) :
    s.backs kind ≤ s'.backs kind :=
  h.sublist.countP_le

omit [ServerEventLoopLike L] in
theorem backs_lt {s s' : ServerHttp3Stream L} {kind : Bool} {error : Option JsError}
    (h : s.calls ++ [.calledBack kind error] <+: s'.calls) : s.backs kind < s'.backs kind := by
  have hle := h.sublist.countP_le (p := CallRecord.isCallBack kind)
  rw [List.countP_append] at hle
  simp only [CallRecord.isCallBack, List.countP_singleton, decide_true, if_true] at hle
  exact hle

end Calls

def turn {L : Type} [ServerEventLoopLike L] (s : ServerHttp3Stream L) : ServerHttp3Stream L :=
  s.sendSlice.releaseWindow

section Progress

variable {L : Type} [ServerEventLoopLike L]

/-- Loops in `P` admit whatever they are offered, and stay in `P`. -/
def Admits (P : L → Prop) : Prop :=
  ∀ ref data fin loop, P loop → P (ServerEventLoopLike.streamSend ref data fin loop).2 ∧
    ∃ n, (ServerEventLoopLike.streamSend ref data fin loop).1 = .ok n ∧
      outboundPayloadUnits data.length fin ≤ n

/-- An unblocked stream on such a loop. -/
structure Going (P : L → Prop) (s : ServerHttp3Stream (Recorded L)) (f : Flight)
    (written : Bytes) : Prop where
  sending : s.Sending f written
  unblocked : s.blocked = false
  admits : P s.eventLoop.loop

variable {P : L → Prop} {s : ServerHttp3Stream (Recorded L)} {p : Piece} {written : Bytes}

theorem Going.accepted (hP : Admits P) {f : Flight} (h : Going P s f written) (data : Bytes)
    (fin : Bool) : (s.offer data fin).accepted = true := by
  obtain ⟨-, n, hn, hcharge⟩ := hP s.ref data fin s.eventLoop.loop h.admits
  have hanswer : (s.offer data fin).answer = .ok n := hn
  unfold Offer.accepted
  rw [hanswer]
  unfold outboundPayloadUnits at hcharge
  show (if data.isEmpty && fin then decide (0 < n) else decide (data.length ≤ n)) = true
  split_ifs with hempty
  · rw [Bool.and_eq_true] at hempty
    rw [hempty.2, Bool.toNat_true] at hcharge
    exact decide_eq_true (by omega)
  · exact decide_eq_true (by omega)

def remaining (b : BoundedStreamWrite) : ℕ := b.body.length - b.offset

/-- The call goes on with the next slice of `b` in the next turn. -/
def Continues (P : L → Prop) (s s' : ServerHttp3Stream (Recorded L)) (kind : Bool)
    (b : BoundedStreamWrite) (written : Bytes) : Prop :=
  b.fin = kind ∧ s'.calls = s.calls ∧ Going P s' (.scheduled b) written

/-- What is offered is admitted, or cut first. -/
theorem Going.attempt (hL : WholeOrNothing L) (hP : Admits P)
    (h : Going P s (.piece .trying p) written) :
    (∃ s', s.attempt p.retry = (.now, s') ∧ s'.calls = s.calls ∧
        Going P s' (.piece .sent p) written) ∨
      (∃ s', s.attempt p.retry = (.later, s') ∧ s'.calls = s.calls ∧
        Going P s' (.piece .held p) written) ∨
      (∃ s' b, s.attempt p.retry = (.later, s') ∧ p = .whole b.fin b.body ∧
        Continues P s s' p.kind b written) := by
  cases hcut : s.sliceLimit p.data.length with
  | some limit =>
    cases p with
    | slice b =>
      rw [sliceLimit_slice h.sending.connected h.sending.fits] at hcut
      cases hcut
    | whole fin data =>
      have hcut : s.sliceLimit data.length = some limit := hcut
      exact .inr (.inr ⟨_, ⟨data, limit, fin, 0, true⟩, attempt_cut hcut, rfl, rfl, rfl,
        h.sending.writeBounded hcut, h.unblocked, h.admits⟩)
  | none =>
    have hattempted :=
      attempt_attempted hL p.data p.fin p.callback h.sending.connected hcut
    have haccepted := h.accepted hP p.data p.fin
    have hwithin : (s.offer p.data p.fin).Within s.limit :=
      within_of_sliceLimit h.sending.connected hcut
    have hloop := (hP s.ref p.data p.fin s.eventLoop.loop h.admits).1
    change s.Attempted p.data p.fin p.callback (s.attempt p.retry) at hattempted
    generalize s.attempt p.retry = r at hattempted
    cases hattempted with
    | blocked hblocked => exact absurd (h.unblocked.symm.trans hblocked) (by decide)
    | refused hrefused => exact absurd (hrefused.symm.trans haccepted) (by decide)
    | threw e hrefused => exact absurd (hrefused.symm.trans haccepted) (by decide)
    | admitted n _ =>
      have hs := h.sending.offered_admitted hL haccepted hwithin
      obtain ⟨w, ⟨hnow, hsent⟩ | ⟨hlater, hheld⟩⟩ := hs.completeNativeWrite n
      · exact .inl ⟨_, hnow, rfl, hsent, h.unblocked, hloop⟩
      · exact .inr (.inl ⟨_, hlater, rfl, hheld, h.unblocked, hloop⟩)

/-- The callback of an admitted piece completes its call, or schedules the next slice. -/
theorem Going.runCallback (h : Going P s (.piece .sent p) written) :
    s.backs p.kind < (s.runCallback p.callback).backs p.kind ∨
      ∃ b₀ b, p = .slice b₀ ∧ remaining b < remaining b₀ ∧
        Continues P s (s.runCallback p.callback) p.kind b written := by
  cases p with
  | whole fin data =>
    left
    cases fin with
    | false => exact backs_lt (calls_writableCallback false s)
    | true => exact backs_lt (calls_writableCallback true s)
  | slice b =>
    have hrun : s.runCallback (.slice b.stop) =
        if b.stop = b.body.length then
          ServerHttp3Stream.writableCallback b.fin { s with boundedWrite := none }
        else { s with boundedWrite := some { b with offset := b.stop, scheduled := true } } := by
      unfold ServerHttp3Stream.runCallback
      dsimp only
      rw [show s.boundedWrite = some { b with scheduled := false } from h.sending.flight.bounded]
    have hlt := Piece.offset_lt_stop h.sending.fits
    show _ < (s.runCallback (.slice b.stop)).backs _ ∨ _
    by_cases hstop : b.stop = b.body.length
    · left
      rw [hrun, if_pos hstop]
      exact backs_lt (calls_writableCallback b.fin { s with boundedWrite := none })
    · right
      refine ⟨b, { b with offset := b.stop }, rfl, ?_, rfl, ?_⟩
      · have hle : b.stop ≤ b.body.length := min_le_right _ _
        show b.body.length - b.stop < b.body.length - b.offset
        omega
      · show (s.runCallback (.slice b.stop)).calls = _ ∧
          Going P (s.runCallback (.slice b.stop)) _ _
        rw [hrun, if_neg hstop]
        exact ⟨rfl, h.sending.slice_next hstop, h.unblocked, h.admits⟩

theorem Going.settle (hL : WholeOrNothing L) (hP : Admits P)
    (h : Going P s (.piece .trying p) written) :
    s.backs p.kind < (settle p.callback (s.attempt p.retry)).backs p.kind ∨
      (settle p.callback (s.attempt p.retry)).calls = s.calls ∧
        Going P (settle p.callback (s.attempt p.retry)) (.piece .held p) written ∨
      ∃ b, (∀ b₀, p = .slice b₀ → remaining b < remaining b₀) ∧
        Continues P s (settle p.callback (s.attempt p.retry)) p.kind b written := by
  obtain ⟨s', hnow, hcalls, hsent⟩ | ⟨s', hlater, hcalls, hheld⟩ |
    ⟨s', b, hlater, hwhole, hnext⟩ := h.attempt hL hP
  · rw [hnow]
    show _ < (s'.runCallback p.callback).backs p.kind ∨ _
    obtain hback | ⟨b₀, b, rfl, hlt, hkind, hsame, hgoing⟩ := hsent.runCallback
    · left
      unfold backs at hback ⊢
      rw [← hcalls]
      exact hback
    · refine .inr (.inr ⟨b, ?_, hkind, hsame.trans hcalls, hgoing⟩)
      intro b₁ hb₁
      cases hb₁
      exact hlt
  · rw [hlater]
    exact .inr (.inl ⟨hcalls, hheld⟩)
  · rw [hlater]
    refine .inr (.inr ⟨b, ?_, hnext⟩)
    intro b₀ hb₀
    rw [hwhole] at hb₀
    cases hb₀

theorem Going.releaseWindow_held (h : Going P s (.piece .held p) written) :
    s.backs p.kind < s.releaseWindow.backs p.kind ∨
      ∃ b, (∀ b₀, p = .slice b₀ → remaining b < remaining b₀) ∧
        Continues P s s.releaseWindow p.kind b written := by
  obtain ⟨hdrains, hdelayed, hbounded, hrelease⟩ := h.sending.flight
  have hne : s.window.delayedCallbacks ≠ [] := by
    rw [hdelayed]
    exact List.cons_ne_nil _ _
  have hrun : s.releaseWindow = ServerHttp3Stream.runCallback p.callback
      { s with window := ⟨s.window.highWaterMark, 0, false, []⟩ } := by
    unfold ServerHttp3Stream.releaseWindow
    rw [if_pos (hrelease hne), hdelayed]
    rfl
  have hsent : Going P { s with window := ⟨s.window.highWaterMark, 0, false, []⟩ }
      (.piece .sent p) written :=
    ⟨{ h.sending with flight := ⟨hdrains, rfl, hbounded, fun hne => absurd rfl hne⟩ },
      h.unblocked, h.admits⟩
  rw [hrun]
  obtain hback | ⟨b₀, b, rfl, hlt, hnext⟩ := hsent.runCallback
  · exact .inl hback
  · refine .inr ⟨b, ?_, hnext⟩
    intro b₁ hb₁
    cases hb₁
    exact hlt

variable {b : BoundedStreamWrite}

theorem Going.releaseWindow_scheduled (h : Going P s (.scheduled b) written) :
    s.releaseWindow.calls = s.calls ∧ Going P s.releaseWindow (.scheduled b) written := by
  obtain ⟨hdrains, hdelayed, hbounded, -⟩ := h.sending.flight
  unfold ServerHttp3Stream.releaseWindow
  split_ifs
  · rw [hdelayed]
    exact ⟨rfl, { h.sending with flight := ⟨hdrains, rfl, hbounded, fun hne => absurd rfl hne⟩ },
      h.unblocked, h.admits⟩
  · exact ⟨rfl, h⟩

theorem Going.sendSlice (h : Going P s (.scheduled b) written) :
    ∃ t : ServerHttp3Stream (Recorded L), t.calls = s.calls ∧
      Going P t (.piece .trying (.slice b)) written ∧
      s.sendSlice = ServerHttp3Stream.settle (Piece.slice b).callback
        (t.attempt (Piece.slice b).retry) := by
  obtain ⟨hdrains, hdelayed, hbounded, hrelease⟩ := h.sending.flight
  refine ⟨{ s with boundedWrite := some { b with scheduled := false } }, rfl,
    ⟨h.sending.nextSlice, h.unblocked, h.admits⟩, ?_⟩
  unfold ServerHttp3Stream.sendSlice
  rw [hbounded]
  rfl

theorem Going.turn (hL : WholeOrNothing L) (hP : Admits P) (h : Going P s (.scheduled b) written) :
    s.backs b.fin < s.turn.backs b.fin ∨
      ∃ b', remaining b' < remaining b ∧ Continues P s s.turn b.fin b' written := by
  obtain ⟨t, hcalls, hgoing, hslice⟩ := h.sendSlice
  have hbacks : s.backs b.fin = t.backs b.fin := by
    unfold backs
    rw [hcalls]
  unfold ServerHttp3Stream.turn
  obtain hback | ⟨hsame, hheld⟩ | ⟨b', hlt, hkind, hsame, hnext⟩ := hgoing.settle hL hP
  · left
    rw [← hslice] at hback
    rw [hbacks]
    exact hback.trans_le (backs_le (calls_releaseWindow _) _)
  · rw [← hslice] at hsame hheld
    obtain hback | ⟨b', hlt, hkind, hsame', hnext⟩ := hheld.releaseWindow_held
    · left
      unfold backs at hback ⊢
      rw [hsame, hcalls] at hback
      exact hback
    · exact .inr ⟨b', hlt b rfl, hkind, hsame'.trans (hsame.trans hcalls), hnext⟩
  · rw [← hslice] at hsame hnext
    obtain ⟨hsame', hnext'⟩ := hnext.releaseWindow_scheduled
    exact .inr ⟨b', hlt b rfl, hkind, hsame'.trans (hsame.trans hcalls), hnext'⟩

theorem Going.turns (hL : WholeOrNothing L) (hP : Admits P) (n : ℕ) :
    ∀ (s : ServerHttp3Stream (Recorded L)) (b : BoundedStreamWrite), remaining b ≤ n →
      Going P s (.scheduled b) written →
        ∃ k, s.backs b.fin < (ServerHttp3Stream.turn^[k] s).backs b.fin := by
  induction n with
  | zero =>
    intro s b hn h
    obtain ⟨-, -, hoffset⟩ := h.sending.fits
    unfold remaining at hn
    omega
  | succ n ih =>
    intro s b hn h
    obtain hback | ⟨b', hlt, hkind, hsame, hnext⟩ := h.turn hL hP
    · exact ⟨1, hback⟩
    · obtain ⟨k, hk⟩ := ih s.turn b' (by omega) hnext
      refine ⟨k + 1, ?_⟩
      rw [Function.iterate_succ_apply]
      unfold backs at hk ⊢
      rw [hkind, hsame] at hk
      exact hk

theorem Continues.called_back (hL : WholeOrNothing L) (hP : Admits P)
    {s s' : ServerHttp3Stream (Recorded L)} {kind : Bool} (h : Continues P s s' kind b written) :
    ∃ k, s.backs kind < (ServerHttp3Stream.turn^[k] s').backs kind := by
  obtain ⟨hkind, hsame, hgoing⟩ := h
  obtain ⟨k, hk⟩ := Going.turns hL hP _ s' b le_rfl hgoing
  refine ⟨k, ?_⟩
  unfold backs at hk ⊢
  rw [hkind, hsame] at hk
  exact hk

theorem Going.held_called_back (hL : WholeOrNothing L) (hP : Admits P)
    (h : Going P s (.piece .held p) written) :
    ∃ k, s.backs p.kind < (ServerHttp3Stream.turn^[k] s).backs p.kind := by
  -- the slice whose callback is held back is not sent again
  have hslice : s.sendSlice = s := by
    unfold ServerHttp3Stream.sendSlice
    rw [h.sending.flight.bounded]
    cases p with
    | whole fin data => rfl
    | slice b => rfl
  have hturn : s.turn = s.releaseWindow := congrArg ServerHttp3Stream.releaseWindow hslice
  obtain hback | ⟨b, -, hnext⟩ := h.releaseWindow_held
  · refine ⟨1, ?_⟩
    show _ < s.turn.backs p.kind
    rw [hturn]
    exact hback
  · obtain ⟨k, hk⟩ := hnext.called_back hL hP
    refine ⟨k + 1, ?_⟩
    rw [Function.iterate_succ_apply, hturn]
    exact hk

/-- A wake-up and finitely many turns complete the outstanding call. -/
theorem AtRest.called_back (hL : WholeOrNothing L) (hP : Admits P) (h : s.AtRest written)
    {kind ended : Bool} (hcall : callState s.calls = some ⟨some kind, ended⟩)
    (hloop : P s.eventLoop.loop) :
    ∃ k, s.backs kind < (ServerHttp3Stream.turn^[k] s.onNativeDrain).backs kind := by
  obtain hover | ⟨f, hrest, hsending, -⟩ := h
  · rw [hover.calls] at hcall
    cases hcall
  · have hkind : f.kind = some kind := by
      rw [hsending.calls] at hcall
      exact congrArg CallState.outstanding (Option.some.inj hcall)
    obtain ⟨hdrains, hdelayed, hbounded, hrelease⟩ := hsending.flight
    have hdrain : s.onNativeDrain = f.drains.foldl
        (fun s retry => ServerHttp3Stream.settle retry.callback (s.attempt retry))
        { s with blocked := false, drainCallbacks := [] } := by
      rw [← hdrains]
      rfl
    rw [hdrain]
    cases f with
    | idle => cases hkind
    | scheduled b =>
      cases hkind
      have hgoing : Going P { s with blocked := false, drainCallbacks := [] } (.scheduled b)
          written :=
        ⟨{ hsending with flight := ⟨rfl, hdelayed, hbounded, hrelease⟩ }, rfl, hloop⟩
      exact Going.turns hL hP _ _ b le_rfl hgoing
    | piece stage p =>
      cases hkind
      cases stage with
      | trying => exact hrest.elim
      | sent => exact hrest.elim
      | held =>
        have hgoing : Going P { s with blocked := false, drainCallbacks := [] } (.piece .held p)
            written :=
          ⟨{ hsending with flight := ⟨rfl, hdelayed, hbounded, hrelease⟩ }, rfl, hloop⟩
        exact hgoing.held_called_back hL hP
      | waiting =>
        have hgoing : Going P { s with blocked := false, drainCallbacks := [] } (.piece .trying p)
            written :=
          ⟨{ hsending with flight := ⟨rfl, hdelayed, hbounded, hrelease⟩ }, rfl, hloop⟩
        obtain hback | ⟨hsame, hheld⟩ | ⟨b, -, hnext⟩ := hgoing.settle hL hP
        · exact ⟨0, hback⟩
        · obtain ⟨k, hk⟩ := hheld.held_called_back hL hP
          refine ⟨k, ?_⟩
          unfold backs at hk ⊢
          rw [hsame] at hk
          exact hk
        · exact hnext.called_back hL hP

end Progress

end ServerHttp3Stream

namespace WriteRun

open ServerHttp3Stream

variable {L : Type} [ServerEventLoopLike L]

theorem reach_atRest (hL : WholeOrNothing L) {ref : StreamRef} {loop : L} {highWaterMark : ℕ}
    {r : WriteRun L}
    (hreach : Runs.Reach step (fun i r => LimitKept i r ∧ EndsOnce i r)
      (start ref loop highWaterMark) r) :
    r.stream.AtRest r.written := by
  induction hreach with
  | start => exact start_atRest ref loop highWaterMark
  | next i _ hok ih => exact step_atRest hL i _ ih hok.1 hok.2

/-- As long as `end` brings no second chunk, what the loop admits begins what was
written, the FIN comes last and behind all of it, and no slice exceeds the limit.
Each call of the writable is called back once, with an error once the stream is
over; the one call that may be outstanding is called back by the end of the
stream, or by a wake-up and finitely many turns on a loop that admits. -/
theorem write_path_served (hL : WholeOrNothing L) {ref : StreamRef} {loop : L}
    {highWaterMark : ℕ} {r : WriteRun L}
    (hreach : Runs.Reach step (fun i r => LimitKept i r ∧ EndsOnce i r)
      (start ref loop highWaterMark) r) :
    Orderly r.stream.limit r.stream.offers r.written ∧
      ∃ c : CallState, callState r.stream.calls = some c ∧ c.ended = r.stream.destroyed ∧
        (∀ fin, r.stream.calls.count (.called fin) =
          r.stream.backs fin + if c.outstanding = some fin then 1 else 0) ∧
        (r.stream.destroyed = true → c.outstanding = none) ∧
        ∀ kind, c.outstanding = some kind →
          ∀ P : L → Prop, Admits P → P r.stream.eventLoop.loop →
            ∃ k, r.stream.backs kind < (turn^[k] r.stream.onNativeDrain).backs kind := by
  have hrest := reach_atRest hL hreach
  obtain hover | ⟨f, -, hsending, -⟩ := id hrest
  · refine ⟨hover.orderly, ⟨none, true⟩, hover.calls, hover.destroyed.symm,
      count_called_of_callState hover.calls, fun _ => rfl, ?_⟩
    intro kind hkind
    cases hkind
  · refine ⟨hsending.orderly, ⟨f.kind, false⟩, hsending.calls, hsending.alive.symm,
      count_called_of_callState hsending.calls, ?_, ?_⟩
    · intro hdestroyed
      exact absurd (hsending.alive.symm.trans hdestroyed) (by decide)
    · intro kind hkind P hP hloop
      have hcalls := hsending.calls
      rw [show f.kind = some kind from hkind] at hcalls
      exact hrest.called_back hL hP hcalls hloop

instance (i : WriteInput L) (r : WriteRun L) : Decidable (LimitKept i r) := by
  unfold LimitKept
  split <;> infer_instance

instance (i : WriteInput L) (r : WriteRun L) : Decidable (EndsOnce i r) := by
  unfold EndsOnce ServerHttp3Stream.EndsOnce
  split <;> infer_instance

end WriteRun

/-- A loop that admits everything or nothing. -/
structure Gate where
  accepting : Bool
  limit : Option ℕ
  deriving DecidableEq, Repr

namespace Gate

instance : ServerEventLoopLike Gate where
  maxStreamSendBytes gate := gate.limit
  sendResponseHeaders _ _ _ gate := (.ok (), gate)
  sendResponse _ _ _ _ gate := (.ok (), gate)
  streamSend _ data fin gate :=
    (.ok (if gate.accepting then outboundPayloadUnits data.length fin else 0), gate)
  streamClose _ _ gate := gate
  sendTrailers _ _ gate := (.ok (), gate)

theorem wholeOrNothing : WholeOrNothing Gate where
  answer _ data fin gate written h := by
    have hwritten : (if gate.accepting then outboundPayloadUnits data.length fin else 0) =
        written := Except.ok.inj h
    unfold outboundPayloadUnits at hwritten
    split_ifs at hwritten
    · right
      omega
    · left
      omega
  streamSend_limit _ _ _ _ := rfl
  streamClose_limit _ _ _ := rfl

/-- Five bytes in slices of two, blocked on the way, and a last chunk. -/
def sliced : WriteRun Gate :=
  Runs.run WriteRun.step
    [.write [1, 2, 3, 4, 5], .endWith (some [6]), .sendSlice, .blocked, .sendSlice, .writeReady,
      .drain, .sendSlice, .releaseWindow, .elapse ⟨false, some 2⟩, .sendSlice]
    (.start ⟨0, 0, 0⟩ ⟨true, some 2⟩ 3)

theorem write_path_served_sliced :
    Orderly sliced.stream.limit sliced.stream.offers sliced.written ∧
      ∃ c : CallState, callState sliced.stream.calls = some c ∧
        c.ended = sliced.stream.destroyed ∧
        (∀ fin, sliced.stream.calls.count (.called fin) =
          sliced.stream.backs fin + if c.outstanding = some fin then 1 else 0) ∧
        (sliced.stream.destroyed = true → c.outstanding = none) ∧
        ∀ kind, c.outstanding = some kind →
          ∀ P : Gate → Prop, ServerHttp3Stream.Admits P → P sliced.stream.eventLoop.loop →
            ∃ k, sliced.stream.backs kind <
              (ServerHttp3Stream.turn^[k] sliced.stream.onNativeDrain).backs kind :=
  WriteRun.write_path_served wholeOrNothing (Runs.Reach.run .start (by decide +kernel))

/-- A write waits, the stream is ended with one chunk and then with another:
the first last chunk is lost. -/
theorem second_end_displaces_first :
    ∃ r : WriteRun Gate,
      Runs.Reach WriteRun.step WriteRun.LimitKept (.start ⟨0, 0, 0⟩ ⟨false, none⟩ 16) r ∧
        r.written = [1, 2, 3] ∧ acceptedBytes r.stream.offers = [1, 3] ∧
        ¬ Orderly r.stream.limit r.stream.offers r.written := by
  refine ⟨Runs.run WriteRun.step
    [.write [1], .endWith (some [2]), .endWith (some [3]), .elapse ⟨true, none⟩, .writeReady]
    (.start ⟨0, 0, 0⟩ ⟨false, none⟩ 16), Runs.Reach.run .start (by decide +kernel),
    by decide +kernel, by decide +kernel, ?_⟩
  intro horderly
  exact absurd horderly.inOrder (by decide +kernel)

end Gate

end Http3
