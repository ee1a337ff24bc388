import Http3.PendingWrite
import Http3.Lib.Runs

/-! Runs of one buffered write: payload is queued, FIN is requested, and flushes send
what the stream takes. Bytes, FIN and units are kept in step through all of them. -/

namespace Http3

/-- What a stream may answer to one send: it takes some of the bytes and hands back the
rest, and an empty FIN it refuses is handed back too. FIN is only taken at the end. -/
structure SendOutcome.Answers (o : SendOutcome) (buf : Bytes) (fin : Bool) : Prop where
  written : o.written ≤ buf.length
  remainder : o.remainder =
    if o.written < buf.length ∨ buf = [] ∧ fin = true ∧ o.finAccepted = false then
      some (buf.drop o.written)
    else none
  fin : o.finAccepted = true → fin = true ∧ o.remainder = none

/-- Payload that was queued, and sends with their answers, in the order they happened. -/
inductive WriteAct
  | pushed (chunk : Bytes)
  | sent (buf : Bytes) (fin : Bool) (outcome : SendOutcome)
  deriving DecidableEq, Repr

namespace WriteAct

def pushedBytes : List WriteAct → Bytes
  | [] => []
  | .pushed chunk :: acts => chunk ++ pushedBytes acts
  | .sent _ _ _ :: acts => pushedBytes acts

def acceptedBytes : List WriteAct → Bytes
  | [] => []
  | .pushed _ :: acts => acceptedBytes acts
  | .sent buf _ outcome :: acts => buf.take outcome.written ++ acceptedBytes acts

def finsAccepted : List WriteAct → ℕ
  | [] => 0
  | .pushed _ :: acts => finsAccepted acts
  | .sent _ _ outcome :: acts => outcome.finAccepted.toNat + finsAccepted acts

variable (acts acts' : List WriteAct)

@[simp] theorem pushedBytes_append :
    pushedBytes (acts ++ acts') = pushedBytes acts ++ pushedBytes acts' := by
  induction acts with
  | nil => rfl
  | cons act acts ih => cases act <;> simp [pushedBytes, ih]

@[simp] theorem acceptedBytes_append :
    acceptedBytes (acts ++ acts') = acceptedBytes acts ++ acceptedBytes acts' := by
  induction acts with
  | nil => rfl
  | cons act acts ih => cases act <;> simp [acceptedBytes, ih]

@[simp] theorem finsAccepted_append :
    finsAccepted (acts ++ acts') = finsAccepted acts + finsAccepted acts' := by
  induction acts with
  | nil => simp [finsAccepted]
  | cons act acts ih =>
    cases act with
    | pushed chunk => simpa [finsAccepted] using ih
    | sent buf fin outcome =>
      simp only [List.cons_append, finsAccepted, ih]
      omega

end WriteAct

open WriteAct

/-- What a stream answers may depend on everything that has happened. -/
abbrev StreamAnswer := List WriteAct → Bytes → Bool → SendOutcome

def StreamAnswer.Lawful (answer : StreamAnswer) : Prop :=
  ∀ acts buf fin, (answer acts buf fin).Answers buf fin

def StreamAnswer.send (answer : StreamAnswer) (buf : Bytes) (fin : Bool) (acts : List WriteAct) :
    Except Empty SendOutcome × List WriteAct :=
  (.ok (answer acts buf fin), acts ++ [.sent buf fin (answer acts buf fin)])

namespace SendOutcome.Answers

variable {o : SendOutcome} {buf r : Bytes} {fin : Bool}

theorem whole (h : o.Answers buf fin) (hr : o.remainder = none) :
    o.written = buf.length ∧ (buf = [] → fin = true → o.finAccepted = true) := by
  obtain ⟨hw, hrem, -⟩ := h
  rw [hr] at hrem
  split_ifs at hrem with hrest
  push Not at hrest
  obtain ⟨hle, hfin⟩ := hrest
  refine ⟨by omega, fun hbuf hf => ?_⟩
  simpa using hfin hbuf hf

theorem rest (h : o.Answers buf fin) (hr : o.remainder = some r) :
    o.finAccepted = false ∧ r = buf.drop o.written ∧
      (o.written < buf.length ∨ buf = [] ∧ fin = true) := by
  obtain ⟨hw, hrem, hacc⟩ := h
  rw [hr] at hrem hacc
  split_ifs at hrem with hrest
  refine ⟨?_, Option.some.inj hrem, ?_⟩
  · by_contra htaken
    obtain ⟨-, hnone⟩ := hacc (by simpa using htaken)
    cases hnone
  · obtain hlt | ⟨hbuf, hfin, -⟩ := hrest
    · exact .inl hlt
    · exact .inr ⟨hbuf, hfin⟩

theorem keepsUnits (h : o.Answers buf fin) : o.KeepsUnits buf fin := by
  unfold KeepsUnits keptUnits acceptedOutboundPayloadUnits outboundPayloadUnits
  cases hr : o.remainder with
  | some r =>
    obtain ⟨hacc, rfl, hrest⟩ := h.rest hr
    rw [hacc]
    by_cases hempty : buf.length = 0
    · simp [hempty]
    · have hlt : o.written < buf.length := by
        obtain hlt | ⟨rfl, -⟩ := hrest
        · exact hlt
        · exact absurd rfl hempty
      have hne : min o.written buf.length ≠ buf.length := by omega
      have hfin : fin.toNat ≤ 1 := Bool.toNat_le fin
      simp [hempty, hne]
      omega
  | none =>
    obtain ⟨hall, hfin⟩ := h.whole hr
    have hacc := h.fin
    rw [hall]
    generalize o.finAccepted = acc at hfin hacc
    by_cases hempty : buf = []
    · cases fin <;> cases acc <;> simp_all
    · have hpos : 0 < buf.length := List.length_pos_iff.2 hempty
      cases fin <;> cases acc <;> simp_all <;> omega

end SendOutcome.Answers

/-- What one flush of an entry with the bytes `queued` does: the sends it makes, whether
it reports the entry as done, and the entry it leaves. -/
structure Flushed (fin : Bool) (queued : Bytes) (sends : List WriteAct) (done : Bool)
    (write : PendingWrite) : Prop where
  keepsFin : write.fin = fin
  pushesNothing : pushedBytes sends = []
  bytes : acceptedBytes sends ++ write.chunks.flatten = queued
  offered : ∀ before buf outcome after, sends = before ++ .sent buf true outcome :: after →
    acceptedBytes before ++ buf = queued
  accepted : finsAccepted sends ≤ 1
  finished : done = true ↔
    write.chunks.flatten = [] ∧ (fin = true → finsAccepted sends = 1)

theorem Flushed.single {fin finSent done : Bool} {buf rest : Bytes} {outcome : SendOutcome}
    {write : PendingWrite} (hfin : write.fin = fin)
    (hwrite : write.chunks.flatten = buf.drop outcome.written ++ rest)
    (hlast : finSent = true → rest = [])
    (hdone : done = true ↔
      write.chunks.flatten = [] ∧ (fin = true → outcome.finAccepted = true)) :
    Flushed fin (buf ++ rest) [.sent buf finSent outcome] done write := by
  refine ⟨hfin, rfl, ?_, ?_, ?_, ?_⟩
  · rw [hwrite, acceptedBytes, acceptedBytes, List.append_nil, ← List.append_assoc,
      List.take_append_drop]
  · intro before buf' outcome' after hsplit
    cases before with
    | nil =>
      cases hsplit
      rw [hlast rfl]
      simp [acceptedBytes]
    | cons act before => simp at hsplit
  · have hle : outcome.finAccepted.toNat ≤ 1 := Bool.toNat_le _
    simpa [finsAccepted] using hle
  · have hone : finsAccepted [.sent buf finSent outcome] = 1 ↔ outcome.finAccepted = true := by
      simp [finsAccepted]
    rw [hdone, hone]

theorem Flushed.cons {fin finSent done : Bool} {buf queued : Bytes} {outcome : SendOutcome}
    {sends : List WriteAct} {write : PendingWrite} (hunsent : finSent = false)
    (hwhole : outcome.written = buf.length) (hfin : outcome.finAccepted = false)
    (h : Flushed fin queued sends done write) :
    Flushed fin (buf ++ queued) (.sent buf finSent outcome :: sends) done write := by
  have hfins : finsAccepted (.sent buf finSent outcome :: sends) = finsAccepted sends := by
    simp [finsAccepted, hfin]
  have hbytes : acceptedBytes [.sent buf finSent outcome] = buf := by
    simp [acceptedBytes, hwhole]
  refine ⟨h.keepsFin, h.pushesNothing, ?_, ?_, ?_, ?_⟩
  · rw [← List.singleton_append, acceptedBytes_append, hbytes, List.append_assoc, h.bytes]
  · intro before buf' outcome' after hsplit
    cases before with
    | nil =>
      cases hsplit
      cases hunsent
    | cons act before =>
      obtain ⟨rfl, htail⟩ := List.cons.inj hsplit
      rw [← List.singleton_append, acceptedBytes_append, hbytes, List.append_assoc,
        h.offered before buf' outcome' after htail]
  · rw [hfins]
    exact h.accepted
  · rw [hfins]
    exact h.finished

section Loop

variable {answer : StreamAnswer} {fin : Bool} {chunks : List Bytes} {h : ∀ c ∈ chunks.tail, c ≠ []}
  {released : ℕ} {acts : List WriteAct}

/-- The loop of a flush, on chunks of which only the first may be empty. -/
theorem flushLoop_flushed (hanswer : answer.Lawful) :
    ∃ o sends, (flushLoop answer.send fin chunks h released acts).outcome = .ok o ∧
      (flushLoop answer.send fin chunks h released acts).conn = acts ++ sends ∧
      Flushed fin chunks.flatten sends o.done
        (flushLoop answer.send fin chunks h released acts).write := by
  induction chunks generalizing released acts with
  | nil =>
    unfold flushLoop
    cases fin with
    | false =>
      refine ⟨⟨true, released⟩, [], rfl, (List.append_nil _).symm, rfl, rfl, rfl, ?_, ?_, ?_⟩
      · intro before buf outcome after hsplit
        simp at hsplit
      · exact Nat.zero_le 1
      · simp
    | true =>
      have hsent := hanswer acts [] true
      simp only [↓reduceIte, StreamAnswer.send]
      generalize answer acts [] true = outcome at hsent ⊢
      cases hr : outcome.remainder with
      | none =>
        have hacc := (hsent.whole hr).2 rfl rfl
        have hflushed : Flushed true ([] ++ []) [.sent [] true outcome] outcome.finAccepted
            ⟨[], true, h⟩ := .single rfl (by simp) (fun _ => rfl) (by simp [hacc])
        exact ⟨_, _, rfl, rfl, hflushed⟩
      | some r =>
        obtain ⟨hacc, rfl, -⟩ := hsent.rest hr
        have hflushed : Flushed true ([] ++ []) [.sent [] true outcome] false
            (.new (List.drop outcome.written []) true) :=
          .single rfl rfl (fun _ => rfl) (by simp [hacc])
        exact ⟨_, _, rfl, rfl, hflushed⟩
  | cons buf rest ih =>
    have hsent := hanswer acts buf (fin && rest.isEmpty)
    have hnil : (fin && rest.isEmpty) = true → rest = [] := by
      intro hfin
      simpa using (Bool.and_eq_true_iff.1 hfin).2
    have hlast : (fin && rest.isEmpty) = true → rest.flatten = [] := by
      intro hfin
      rw [hnil hfin]
      rfl
    unfold flushLoop
    simp only [StreamAnswer.send]
    generalize answer acts buf (fin && rest.isEmpty) = outcome at hsent ⊢
    rw [List.flatten_cons]
    cases hr : outcome.remainder with
    | some r =>
      obtain ⟨hacc, rfl, hleft⟩ := hsent.rest hr
      refine ⟨_, [.sent buf (fin && rest.isEmpty) outcome], rfl, rfl, .single rfl rfl hlast ?_⟩
      -- what is handed back is a byte, or the FIN that the entry still owes
      constructor
      · intro hdone
        cases hdone
      · rintro ⟨hbytes, hfin⟩
        rw [hacc] at hfin
        obtain hlt | ⟨-, hfinSent⟩ := hleft
        · have hdrop : buf.drop outcome.written = [] := by
            have hboth := List.flatten_cons ▸ hbytes
            exact (List.append_eq_nil_iff.1 hboth).1
          rw [List.drop_eq_nil_iff] at hdrop
          omega
        · exact hfin (Bool.and_eq_true_iff.1 hfinSent).1
    | none =>
      obtain ⟨hall, hempty⟩ := hsent.whole hr
      dsimp only
      by_cases hfin : (fin && rest.isEmpty) = true
      · rw [if_pos hfin]
        refine ⟨_, [.sent buf (fin && rest.isEmpty) outcome], rfl, rfl, .single rfl ?_ hlast ?_⟩
        · simp [hall]
        · simp [hnil hfin, (Bool.and_eq_true_iff.1 hfin).1]
      · rw [if_neg hfin]
        have hacc : outcome.finAccepted = false := by
          by_contra htaken
          exact hfin (hsent.fin (by simpa using htaken)).1
        obtain ⟨o, sends, ho, hconn, hflushed⟩ := ih
        refine ⟨o, .sent buf (fin && rest.isEmpty) outcome :: sends, ho, ?_, ?_⟩
        · rw [hconn, List.append_assoc]
          rfl
        · exact hflushed.cons (Bool.eq_false_iff.2 hfin) hall hacc

end Loop

/-- An entry and what has happened to it. -/
structure PendingRun where
  write : PendingWrite
  acts : List WriteAct

inductive PendingOp
  | pushChunk (chunk : Bytes)
  | setFin
  | flush (answer : StreamAnswer)

namespace PendingRun

def start (remainder : Bytes) (fin : Bool) : PendingRun := ⟨.new remainder fin, [.pushed remainder]⟩

def flush (answer : StreamAnswer) (st : PendingRun) : FlushResult Empty (List WriteAct) :=
  flushPendingWriteWithProgress answer.send st.write st.acts

def step : PendingOp → PendingRun → PendingRun
  | .pushChunk chunk, st => ⟨st.write.pushChunk chunk, st.acts ++ [.pushed chunk]⟩
  | .setFin, st => ⟨st.write.setFin, st.acts⟩
  | .flush answer, st => ⟨(st.flush answer).write, (st.flush answer).conn⟩

/-- The stream answers as it may, and an entry whose FIN was taken is not flushed again. -/
def Admits : PendingOp → PendingRun → Prop
  | .flush answer, st => answer.Lawful ∧ finsAccepted st.acts = 0
  | _, _ => True

/-- Bytes come out in the order they went in, and FIN behind the last of them. -/
structure InStep (st : PendingRun) : Prop where
  bytes : acceptedBytes st.acts ++ st.write.chunks.flatten = pushedBytes st.acts
  offered : ∀ before buf outcome after, st.acts = before ++ .sent buf true outcome :: after →
    acceptedBytes before ++ buf = pushedBytes before
  accepted : finsAccepted st.acts ≤ 1

theorem offered_append {acts added : List WriteAct}
    (hacts : ∀ before buf outcome after, acts = before ++ .sent buf true outcome :: after →
      acceptedBytes before ++ buf = pushedBytes before)
    (hadded : ∀ before buf outcome after, added = before ++ .sent buf true outcome :: after →
      acceptedBytes (acts ++ before) ++ buf = pushedBytes (acts ++ before))
    (before : List WriteAct) (buf : Bytes) (outcome : SendOutcome) (after : List WriteAct)
    (hsplit : acts ++ added = before ++ .sent buf true outcome :: after) :
    acceptedBytes before ++ buf = pushedBytes before := by
  obtain ⟨between, rfl, hadd⟩ | ⟨between, hact, hadd⟩ := List.append_eq_append_iff.1 hsplit
  · exact hadded between buf outcome after hadd
  · cases between with
    | nil =>
      rw [List.append_nil] at hact
      rw [← hact, ← List.append_nil acts]
      exact hadded [] buf outcome after hadd.symm
    | cons act between =>
      obtain ⟨rfl, -⟩ := List.cons.inj hadd
      exact hacts before buf outcome between hact

theorem inStep_start (remainder : Bytes) (fin : Bool) : (start remainder fin).InStep := by
  refine ⟨?_, ?_, ?_⟩
  · simp [start, PendingWrite.new, acceptedBytes, pushedBytes]
  · intro before buf outcome after hsplit
    cases before with
    | nil => cases hsplit
    | cons act before =>
      have htail := (List.cons.inj hsplit).2
      simp at htail
  · exact Nat.zero_le 1

theorem flatten_pushChunk (write : PendingWrite) (chunk : Bytes) :
    (write.pushChunk chunk).chunks.flatten = write.chunks.flatten ++ chunk := by
  unfold PendingWrite.pushChunk
  split_ifs with hpos
  · simp
  · have hempty : chunk = [] := List.eq_nil_of_length_eq_zero (by omega)
    simp [hempty]

theorem InStep.pushChunk {st : PendingRun} (chunk : Bytes) (h : st.InStep) :
    (step (.pushChunk chunk) st).InStep := by
  refine ⟨?_, ?_, ?_⟩
  · show acceptedBytes (st.acts ++ [.pushed chunk]) ++ (st.write.pushChunk chunk).chunks.flatten =
      pushedBytes (st.acts ++ [.pushed chunk])
    rw [flatten_pushChunk, acceptedBytes_append, pushedBytes_append, ← h.bytes]
    simp [acceptedBytes, pushedBytes]
  · apply offered_append h.offered
    intro before buf outcome after hsplit
    cases before with
    | nil => cases hsplit
    | cons act before =>
      have htail := (List.cons.inj hsplit).2
      simp at htail
  · have hsame : finsAccepted (st.acts ++ [.pushed chunk]) = finsAccepted st.acts := by
      simp [finsAccepted]
    show finsAccepted (st.acts ++ [.pushed chunk]) ≤ 1
    rw [hsame]
    exact h.accepted

theorem flush_flushed {answer : StreamAnswer} (hanswer : answer.Lawful) (st : PendingRun) :
    ∃ o sends, (st.flush answer).outcome = .ok o ∧ (st.flush answer).conn = st.acts ++ sends ∧
      Flushed st.write.fin st.write.chunks.flatten sends o.done (st.flush answer).write :=
  flushLoop_flushed hanswer

theorem InStep.flush {st : PendingRun} {answer : StreamAnswer} (hanswer : answer.Lawful)
    (hopen : finsAccepted st.acts = 0) (h : st.InStep) : (step (.flush answer) st).InStep := by
  obtain ⟨o, sends, -, hconn, hflushed⟩ := st.flush_flushed hanswer
  refine ⟨?_, ?_, ?_⟩
  · show acceptedBytes (st.flush answer).conn ++ (st.flush answer).write.chunks.flatten =
      pushedBytes (st.flush answer).conn
    rw [hconn, acceptedBytes_append, pushedBytes_append, hflushed.pushesNothing, List.append_nil,
      List.append_assoc, hflushed.bytes, h.bytes]
  · show ∀ before buf outcome after, (st.flush answer).conn = _ → _
    rw [hconn]
    apply offered_append h.offered
    intro before buf outcome after hsplit
    have hunpushed : pushedBytes before = [] := by
      have hnone := hflushed.pushesNothing
      rw [hsplit, pushedBytes_append] at hnone
      exact (List.append_eq_nil_iff.1 hnone).1
    rw [acceptedBytes_append, pushedBytes_append, hunpushed, List.append_nil, List.append_assoc,
      hflushed.offered before buf outcome after hsplit, h.bytes]
  · show finsAccepted (st.flush answer).conn ≤ 1
    rw [hconn, finsAccepted_append, hopen, Nat.zero_add]
    exact hflushed.accepted

theorem InStep.step {op : PendingOp} {st : PendingRun} (hadmits : Admits op st) (h : st.InStep) :
    (step op st).InStep := by
  cases op with
  | pushChunk chunk => exact h.pushChunk chunk
  | setFin => exact ⟨h.bytes, h.offered, h.accepted⟩
  | flush answer => exact h.flush hadmits.1 hadmits.2

/-- The accepted and the queued bytes of a buffered write are the pushed bytes in order,
FIN is offered behind the last of them and taken once, every flush gives back the units
that the entry no longer owes, and reports it as done when nothing is left of it. -/
theorem pending_write_in_step (remainder : Bytes) (fin : Bool) (st : PendingRun)
    (hreach : Runs.Reach step Admits (start remainder fin) st) :
    acceptedBytes st.acts ++ st.write.chunks.flatten = pushedBytes st.acts ∧
    (∀ before buf outcome after, st.acts = before ++ .sent buf true outcome :: after →
      acceptedBytes before ++ buf = pushedBytes before) ∧
    finsAccepted st.acts ≤ 1 ∧
    ∀ answer : StreamAnswer, answer.Lawful → finsAccepted st.acts = 0 →
      ∃ o, (st.flush answer).outcome = .ok o ∧
        o.releasedUnits + (if o.done then 0 else (st.flush answer).write.queuedUnits) =
          st.write.queuedUnits ∧
        (o.done = true ↔ (st.flush answer).write.queuedBytes = 0 ∧
          (st.write.fin = true → finsAccepted (st.flush answer).conn = 1)) := by
  have hinv : st.InStep :=
    hreach.invariant (inStep_start remainder fin) fun op st h hadmits => h.step hadmits
  refine ⟨hinv.bytes, hinv.offered, hinv.accepted, ?_⟩
  intro answer hanswer hopen
  obtain ⟨o, sends, ho, hconn, hflushed⟩ := st.flush_flushed hanswer
  have hunits := flushLoop_keepsUnits (fun buf f acts o acts' hsent => by
    cases hsent
    exact (hanswer acts buf f).keepsUnits) ho
  refine ⟨o, ho, ?_, ?_⟩
  · rw [Nat.zero_add] at hunits
    exact hunits
  · have hbytes : (st.flush answer).write.chunks.flatten = [] ↔
        (st.flush answer).write.queuedBytes = 0 := by
      rw [← List.length_eq_zero_iff, List.length_flatten, PendingWrite.queuedBytes]
    rw [hflushed.finished, hbytes, hconn, finsAccepted_append, hopen, Nat.zero_add]

/-- A stream that takes at most two bytes of a send, and FIN with the last of them. -/
def takesTwo : StreamAnswer := fun _ buf fin =>
  if buf.length ≤ 2 then ⟨buf.length, fin, none⟩ else ⟨2, false, some (buf.drop 2)⟩

theorem takesTwo_lawful : takesTwo.Lawful := by
  intro acts buf fin
  unfold takesTwo
  split_ifs with hshort
  · refine ⟨Nat.le_refl _, ?_, fun hfin => ⟨hfin, rfl⟩⟩
    cases fin <;> simp
  · have hlong : 2 < buf.length := by omega
    refine ⟨Nat.le_of_lt hlong, ?_, fun hfin => by cases hfin⟩
    exact (if_pos (.inl hlong)).symm

def twoFlushes : PendingRun :=
  Runs.run step [.flush takesTwo, .pushChunk [4], .setFin] (start [1, 2, 3] false)

theorem pending_write_in_step_two : acceptedBytes twoFlushes.acts = [1, 2] ∧
    twoFlushes.write.chunks = [[3], [4]] ∧
    ∃ o, (twoFlushes.flush takesTwo).outcome = .ok o ∧
      o.releasedUnits + (if o.done then 0 else (twoFlushes.flush takesTwo).write.queuedUnits) = 2 ∧
      (o.done = true ↔ (twoFlushes.flush takesTwo).write.queuedBytes = 0 ∧
        (twoFlushes.write.fin = true → finsAccepted (twoFlushes.flush takesTwo).conn = 1)) := by
  have hreach : Runs.Reach step Admits (start [1, 2, 3] false) twoFlushes :=
    Runs.Reach.start.run ⟨⟨takesTwo_lawful, rfl⟩, trivial, trivial, trivial⟩
  exact ⟨by decide, by decide,
    (pending_write_in_step [1, 2, 3] false twoFlushes hreach).2.2.2 takesTwo takesTwo_lawful
      (by decide)⟩

/-- An entry that is flushed again after its FIN was taken offers the FIN again. -/
theorem second_flush_sends_fin_again : takesTwo.Lawful ∧
    (Runs.run step [.flush takesTwo, .flush takesTwo] (start [1] true)).acts =
      [.pushed [1], .sent [1] true ⟨1, true, none⟩, .sent [] true ⟨0, true, none⟩] :=
  ⟨takesTwo_lawful, by decide⟩

end PendingRun

end Http3
