import Http3.EventSource
import Mathlib.Data.List.TakeWhile

/-! Reading the body of a connection: where it is cut into chunks does not matter, unless a
dispatch throws. -/

namespace Http3

open TextStream

namespace EventSource

variable {s : EventSource}

/-- The end of an event whose dispatch does not throw. -/
def endEvent (s : EventSource) : EventSource :=
  if s.currentData.length = 0 then { s with currentEvent := messageType }
  else
    { s with
      emitted := s.emitted ++ [s.message]
      currentData := []
      currentEvent := messageType }

/-- A line, if nothing throws. -/
def readLine (s : EventSource) (line : Text) : EventSource :=
  if line.length = 0 then s.endEvent else s.takeLine line

def readLines (s : EventSource) (lines : List Text) : EventSource := lines.foldl readLine s

/-- The line ends an event, and its dispatch throws. -/
def ThrowsAt (s : EventSource) (line : Text) : Prop :=
  line = [] ∧ s.currentData ≠ [] ∧ s.throws s.message = true

instance (s : EventSource) (line : Text) : Decidable (s.ThrowsAt line) :=
  inferInstanceAs (Decidable (_ ∧ _ ∧ _))

theorem processLine_eq (s : EventSource) (line : Text) :
    s.processLine line = if s.ThrowsAt line then (true, s) else (false, s.readLine line) := by
  unfold processLine readLine ThrowsAt
  by_cases hline : line = []
  · subst hline
    unfold dispatchMessage endEvent
    by_cases hdata : s.currentData = []
    · simp [hdata]
    · by_cases hthrows : s.throws s.message = true
      · simp [hdata, hthrows]
      · simp [hdata, hthrows]
  · have hlength : line.length ≠ 0 := fun h => hline (List.length_eq_zero_iff.1 h)
    simp [hline]

/-- What processing a line leaves alone. -/
structure SameStream (s s' : EventSource) : Prop where
  url : s'.url = s.url
  headers : s'.headers = s.headers
  throws : s'.throws = s.throws
  decoder : s'.decoder = s.decoder
  buffer : s'.buffer = s.buffer

def withStream (s : EventSource) (decoder : TextDecoder) (buffer : Text) : EventSource :=
  { s with decoder, buffer }

theorem readLine_withStream (decoder : TextDecoder) (buffer line : Text) :
    (s.withStream decoder buffer).readLine line =
      (s.readLine line).withStream decoder buffer := by
  unfold readLine withStream
  split_ifs
  · unfold endEvent
    dsimp only
    split_ifs <;> rfl
  · unfold takeLine
    dsimp only
    repeat' split
    all_goals rfl

theorem readLine_sameStream (s : EventSource) (line : Text) :
    SameStream s (s.readLine line) := by
  unfold readLine
  split_ifs
  · unfold endEvent
    split_ifs <;> exact ⟨rfl, rfl, rfl, rfl, rfl⟩
  · unfold takeLine
    dsimp only
    repeat' split
    all_goals exact ⟨rfl, rfl, rfl, rfl, rfl⟩

/-- Lines one after the other, also after one whose dispatch has thrown. -/
def processLines (s : EventSource) (lines : List Text) : EventSource :=
  lines.foldl (fun s line => (s.processLine line).2) s

theorem processLines_append (s : EventSource) (lines more : List Text) :
    s.processLines (lines ++ more) = (s.processLines lines).processLines more :=
  List.foldl_append

theorem processLine_withStream (decoder : TextDecoder) (buffer line : Text) :
    (s.withStream decoder buffer).processLine line =
      ((s.processLine line).1, (s.processLine line).2.withStream decoder buffer) := by
  have hthrows : (s.withStream decoder buffer).ThrowsAt line ↔ s.ThrowsAt line := Iff.rfl
  rw [processLine_eq, processLine_eq, readLine_withStream]
  by_cases h : s.ThrowsAt line
  · rw [if_pos (hthrows.2 h), if_pos h]
  · rw [if_neg (fun ht => h (hthrows.1 ht)), if_neg h]

theorem processLines_withStream (decoder : TextDecoder) (buffer : Text) (lines : List Text) :
    (s.withStream decoder buffer).processLines lines =
      (s.processLines lines).withStream decoder buffer := by
  induction lines generalizing s with
  | nil => rfl
  | cons line lines ih =>
    have hrest := ih (s := (s.processLine line).2)
    have hline := congrArg Prod.snd (processLine_withStream (s := s) decoder buffer line)
    dsimp only at hline
    rw [← hline] at hrest
    exact hrest

/-- No dispatch throws among these lines. -/
def Calm : EventSource → List Text → Prop
  | _, [] => True
  | s, line :: lines => ¬s.ThrowsAt line ∧ Calm (s.readLine line) lines

variable {lines : List Text}

theorem Calm.processLines (h : s.Calm lines) :
    s.processLines lines = s.readLines lines := by
  induction lines generalizing s with
  | nil => rfl
  | cons line lines ih =>
    have hline : (s.processLine line).2 = s.readLine line := by rw [processLine_eq, if_neg h.1]
    have hrest := ih h.2
    rw [← hline] at hrest
    exact hrest.trans (by rw [hline]; rfl)

theorem calm_append {lines more : List Text} :
    s.Calm (lines ++ more) ↔ s.Calm lines ∧ (s.readLines lines).Calm more := by
  induction lines generalizing s with
  | nil => exact (and_iff_right trivial).symm
  | cons line lines ih => exact (and_congr_right fun _ => ih).trans and_assoc.symm

theorem Calm.dropLast (h : s.Calm lines) : s.Calm lines.dropLast := by
  cases lines with
  | nil => exact h
  | cons line lines =>
    rw [← List.dropLast_concat_getLast (List.cons_ne_nil line lines), calm_append] at h
    exact h.1

theorem calm_withStream {decoder : TextDecoder} {buffer : Text} :
    (s.withStream decoder buffer).Calm lines ↔ s.Calm lines := by
  induction lines generalizing s with
  | nil => exact Iff.rfl
  | cons line lines ih =>
    unfold Calm
    rw [readLine_withStream, ih]
    exact Iff.rfl

/-- The messages that the lines announce: those an event source dispatches where nothing
throws. -/
def announced : EventSource → List Text → List EventSourceMessage
  | _, [] => []
  | s, line :: lines =>
    (if line = [] ∧ s.currentData ≠ [] then [s.message] else []) ++
      announced (s.readLine line) lines

theorem calm_iff :
    s.Calm lines ↔ ∀ m ∈ s.announced lines, s.throws m = false := by
  induction lines generalizing s with
  | nil => exact ⟨fun _ _ hm => absurd hm List.not_mem_nil, fun _ => trivial⟩
  | cons line lines ih =>
    unfold Calm announced ThrowsAt
    rw [ih, (readLine_sameStream s line).throws]
    by_cases hends : line = [] ∧ s.currentData ≠ []
    · simp [hends]
    · simp only [hends, if_false, List.nil_append, and_iff_right_iff_imp]
      rintro - ⟨hline, hdata, -⟩
      exact hends ⟨hline, hdata⟩

theorem readLine_emitted (s : EventSource) (line : Text) : (s.readLine line).emitted =
    s.emitted ++ if line = [] ∧ s.currentData ≠ [] then [s.message] else [] := by
  unfold readLine
  by_cases hline : line = []
  · subst hline
    unfold endEvent
    by_cases hdata : s.currentData = []
    · simp [hdata]
    · simp [hdata]
  · have hlength : line.length ≠ 0 := fun h => hline (List.length_eq_zero_iff.1 h)
    rw [if_neg hlength, if_neg (fun h => hline h.1), List.append_nil]
    unfold takeLine
    dsimp only
    repeat' split
    all_goals rfl

theorem readLines_emitted (s : EventSource) (lines : List Text) :
    (s.readLines lines).emitted = s.emitted ++ s.announced lines := by
  induction lines generalizing s with
  | nil => exact (List.append_nil _).symm
  | cons line lines ih =>
    have hrest := ih (s.readLine line)
    rw [readLine_emitted, List.append_assoc] at hrest
    exact hrest

def linesOf (text : Text) : List Text := (splitLines text).1.map stripCr

theorem linesOf_append (text more : Text) :
    linesOf (text ++ more) = linesOf text ++ linesOf ((splitLines text).2 ++ more) := by
  unfold linesOf
  rw [splitLines_append, List.map_append]

theorem linesOf_of_notMem {text : Text} (h : '\n' ∉ text) : linesOf text = [] := by
  unfold linesOf
  rw [splitLines_of_notMem h]
  rfl

theorem linesOf_line {line : Text} (h : '\n' ∉ line) (rest : Text) :
    linesOf (line ++ '\n' :: rest) = stripCr line :: linesOf rest := by
  unfold linesOf
  rw [splitLines_line h]
  rfl

/-- What a turn of the loop finds in the buffer. -/
theorem buffer_cases (text : Text) :
    text.dropWhile (· ≠ '\n') = [] ∧ '\n' ∉ text ∨
    ∃ rest, text.dropWhile (· ≠ '\n') = '\n' :: rest ∧
      text.takeWhile (· ≠ '\n') ++ '\n' :: rest = text ∧ '\n' ∉ text.takeWhile (· ≠ '\n') := by
  cases hdrop : text.dropWhile (· ≠ '\n') with
  | nil =>
    refine .inl ⟨rfl, fun hmem => ?_⟩
    have hall := List.dropWhile_eq_nil_iff.1 hdrop '\n' hmem
    simp at hall
  | cons c rest =>
    obtain rfl : c = '\n' := by
      have hhead := List.head?_dropWhile_not (· ≠ '\n') text
      rw [hdrop] at hhead
      simpa using hhead
    have hparts := List.takeWhile_append_dropWhile (p := (· ≠ '\n')) (l := text)
    rw [hdrop] at hparts
    refine .inr ⟨rest, rfl, hparts, fun hmem => ?_⟩
    have hne := List.mem_takeWhile_imp hmem
    simp at hne

theorem notMem_of_linesOf {text : Text} (h : linesOf text = []) : '\n' ∉ text := by
  obtain ⟨-, hnone⟩ | ⟨rest, -, hparts, hline⟩ := buffer_cases text
  · exact hnone
  · rw [← hparts, linesOf_line hline] at h
    cases h

/-- A turn of the loop. -/
theorem drainBuffer_line {fuel : ℕ} {line rest : Text} (hparts : s.buffer = line ++ '\n' :: rest)
    (hline : '\n' ∉ line) : s.drainBuffer (fuel + 1) =
      if s.ThrowsAt (stripCr line) then s.withStream s.decoder rest
      else ((s.readLine (stripCr line)).withStream s.decoder rest).drainBuffer fuel := by
  have hall : ∀ c ∈ line, decide (c ≠ '\n') = true := by
    intro c hc
    exact decide_eq_true fun heq => hline (heq ▸ hc)
  have htake : s.buffer.takeWhile (· ≠ '\n') = line := by
    rw [hparts, List.takeWhile_append_of_pos hall]
    simp
  have hdrop : s.buffer.dropWhile (· ≠ '\n') = '\n' :: rest := by
    rw [hparts, List.dropWhile_append_of_pos hall]
    simp
  have hprocess := processLine_withStream (s := s) s.decoder rest (stripCr line)
  rw [drainBuffer, hdrop, htake]
  dsimp only
  have hmoved : ({ s with buffer := rest } : EventSource) = s.withStream s.decoder rest := rfl
  rw [hmoved, hprocess, processLine_eq]
  by_cases hthrows : s.ThrowsAt (stripCr line)
  · rw [if_pos hthrows, if_pos hthrows]
  · rw [if_neg hthrows, if_neg hthrows]

theorem drainBuffer_stops {fuel : ℕ} (h : '\n' ∉ s.buffer) : s.drainBuffer fuel = s := by
  cases fuel with
  | zero => rfl
  | succ fuel =>
    unfold drainBuffer
    obtain ⟨hdrop, -⟩ | ⟨rest, -, hparts, -⟩ := buffer_cases s.buffer
    · rw [hdrop]
    · exact absurd (hparts ▸ List.mem_append_right _ List.mem_cons_self) h

/-- As long as only the last line may throw, the loop takes all of them. -/
theorem drainBuffer_eq {fuel : ℕ} (hfuel : s.buffer.length ≤ fuel)
    (hcalm : s.Calm (linesOf s.buffer).dropLast) :
    s.drainBuffer fuel = (s.processLines (linesOf s.buffer)).withStream s.decoder
      (splitLines s.buffer).2 := by
  induction fuel generalizing s with
  | zero =>
    have hempty : s.buffer = [] := List.length_eq_zero_iff.1 (Nat.le_zero.1 hfuel)
    have hsame : s = s.withStream s.decoder s.buffer := rfl
    rw [hempty] at hsame ⊢
    exact hsame
  | succ fuel ih =>
    obtain ⟨-, hnone⟩ | ⟨rest, -, hparts, hline⟩ := buffer_cases s.buffer
    · rw [drainBuffer_stops hnone, linesOf_of_notMem hnone, splitLines_of_notMem hnone]
      rfl
    · generalize s.buffer.takeWhile (· ≠ '\n') = line at hparts hline
      have hlines := linesOf_line hline rest
      have hleft : (splitLines s.buffer).2 = (splitLines rest).2 := by
        rw [← hparts, splitLines_line hline]
      rw [hparts] at hlines
      rw [hlines] at hcalm
      rw [drainBuffer_line hparts.symm hline, hlines, hleft]
      have hfirst : s.processLines (stripCr line :: linesOf rest) =
          ((s.processLine (stripCr line)).2).processLines (linesOf rest) := rfl
      by_cases hthrows : s.ThrowsAt (stripCr line)
      · -- the line that throws is the last one
        have hlast : linesOf rest = [] := by
          by_contra hmore
          obtain ⟨next, more, hnext⟩ := List.exists_cons_of_ne_nil hmore
          rw [hnext] at hcalm
          exact hcalm.1 hthrows
        rw [if_pos hthrows, hfirst, hlast, processLine_eq, if_pos hthrows,
          splitLines_of_notMem (notMem_of_linesOf hlast)]
        rfl
      · rw [if_neg hthrows, hfirst, processLine_eq, if_neg hthrows]
        have hlength : rest.length ≤ fuel := by
          rw [← hparts, List.length_append, List.length_cons] at hfuel
          omega
        have hlater : (s.readLine (stripCr line)).Calm (linesOf rest).dropLast := by
          cases hmore : linesOf rest with
          | nil => trivial
          | cons next more =>
            rw [hmore] at hcalm
            exact hcalm.2
        have hrest := ih (s := (s.readLine (stripCr line)).withStream s.decoder rest) hlength
          (calm_withStream.2 hlater)
        rw [processLines_withStream] at hrest
        exact hrest

/-- The loop leaves a line in the buffer only when a dispatch has thrown before the last one. -/
theorem calm_of_drainBuffer {fuel : ℕ} (hfuel : s.buffer.length ≤ fuel)
    (hdrained : '\n' ∉ (s.drainBuffer fuel).buffer) : s.Calm (linesOf s.buffer).dropLast := by
  induction fuel generalizing s with
  | zero =>
    have hempty : s.buffer = [] := List.length_eq_zero_iff.1 (Nat.le_zero.1 hfuel)
    rw [hempty]
    trivial
  | succ fuel ih =>
    obtain ⟨-, hnone⟩ | ⟨rest, -, hparts, hline⟩ := buffer_cases s.buffer
    · rw [linesOf_of_notMem hnone]
      trivial
    · generalize s.buffer.takeWhile (· ≠ '\n') = line at hparts hline
      have hlines := linesOf_line hline rest
      rw [hparts] at hlines
      rw [drainBuffer_line hparts.symm hline] at hdrained
      rw [hlines]
      cases hmore : linesOf rest with
      | nil => trivial
      | cons next more =>
        by_cases hthrows : s.ThrowsAt (stripCr line)
        · rw [if_pos hthrows] at hdrained
          cases (linesOf_of_notMem hdrained).symm.trans hmore
        · rw [if_neg hthrows] at hdrained
          have hlength : rest.length ≤ fuel := by
            rw [← hparts, List.length_append, List.length_cons] at hfuel
            omega
          have hlater := calm_withStream.1 (ih hlength hdrained)
          have hbuffer :
              ((s.readLine (stripCr line)).withStream s.decoder rest).buffer = rest := rfl
          rw [hbuffer, hmore] at hlater
          exact ⟨hthrows, hlater⟩

theorem length_drainBuffer_le (fuel : ℕ) :
    (s.drainBuffer fuel).buffer.length ≤ s.buffer.length := by
  induction fuel generalizing s with
  | zero => exact Nat.le_refl _
  | succ fuel ih =>
    obtain ⟨-, hnone⟩ | ⟨rest, -, hparts, hline⟩ := buffer_cases s.buffer
    · rw [drainBuffer_stops hnone]
    · have hshorter : rest.length ≤ s.buffer.length := by
        rw [← hparts, List.length_append, List.length_cons]
        omega
      rw [drainBuffer_line hparts.symm hline]
      split_ifs
      · exact hshorter
      · exact ih.trans hshorter

theorem length_drainBuffer_lt {fuel : ℕ} (hline : '\n' ∈ s.buffer) :
    (s.drainBuffer (fuel + 1)).buffer.length < s.buffer.length := by
  obtain ⟨-, hnone⟩ | ⟨rest, -, hparts, hfront⟩ := buffer_cases s.buffer
  · exact absurd hline hnone
  · have hshorter : rest.length < s.buffer.length := by
      rw [← hparts, List.length_append, List.length_cons]
      omega
    rw [drainBuffer_line hparts.symm hfront]
    split_ifs
    · exact hshorter
    · exact (length_drainBuffer_le fuel).trans_lt hshorter

def textWith (s : EventSource) (chunk : Bytes) : Text := s.buffer ++ (s.decoder.decode chunk).1

/-- The lines that a chunk completes. -/
def chunkLines (s : EventSource) (chunk : Bytes) : List Text := linesOf (s.textWith chunk)

theorem onChunk_eq {chunk : Bytes} (hcalm : s.Calm (s.chunkLines chunk).dropLast) :
    s.onChunk chunk = (s.processLines (s.chunkLines chunk)).withStream
      (s.decoder.decode chunk).2 (splitLines (s.textWith chunk)).2 := by
  have hdrained := drainBuffer_eq
    (s := s.withStream (s.decoder.decode chunk).2 (s.textWith chunk)) (Nat.le_refl _)
    (calm_withStream.2 hcalm)
  rw [processLines_withStream] at hdrained
  exact hdrained

theorem length_onChunk_nil (hline : '\n' ∈ s.buffer) :
    (s.onChunk []).buffer.length < s.buffer.length := by
  have hdecode : (s.decoder.decode []).1 = [] := by
    unfold TextDecoder.decode
    split_ifs <;> rfl
  obtain ⟨fuel, hfuel⟩ := Nat.exists_eq_add_one.2 (List.length_pos_of_mem hline)
  have hdrained : ((s.withStream (s.decoder.decode []).2 s.buffer).drainBuffer
      (fuel + 1)).buffer.length < s.buffer.length := length_drainBuffer_lt hline
  rw [← hfuel] at hdrained
  unfold onChunk
  dsimp only
  rw [hdecode, List.append_nil]
  exact hdrained

theorem chunkLines_append (s : EventSource) (chunk more : Bytes) :
    s.chunkLines (chunk ++ more) = s.chunkLines chunk ++
      linesOf ((splitLines (s.textWith chunk)).2 ++
        ((s.decoder.decode chunk).2.decode more).1) := by
  unfold chunkLines textWith
  rw [TextDecoder.decode_append, ← List.append_assoc, linesOf_append]

/-- A piece and the rest of a body, if no dispatch before the last line throws. -/
theorem onChunk_append {chunk more : Bytes}
    (hcalm : s.Calm (s.chunkLines (chunk ++ more)).dropLast) :
    (s.onChunk chunk).Calm ((s.onChunk chunk).chunkLines more).dropLast ∧
    (s.onChunk chunk).onChunk more = s.onChunk (chunk ++ more) := by
  have hlines := chunkLines_append s chunk more
  -- either the rest completes no line, or no dispatch of the piece throws
  have hparts : s.Calm (s.chunkLines chunk).dropLast ∧
      (s.processLines (s.chunkLines chunk)).Calm (linesOf ((splitLines (s.textWith chunk)).2 ++
        ((s.decoder.decode chunk).2.decode more).1)).dropLast := by
    rw [hlines] at hcalm
    cases hmore : linesOf ((splitLines (s.textWith chunk)).2 ++
        ((s.decoder.decode chunk).2.decode more).1) with
    | nil =>
      rw [hmore, List.append_nil] at hcalm
      exact ⟨hcalm, trivial⟩
    | cons next later =>
      rw [hmore, List.dropLast_append_of_ne_nil (List.cons_ne_nil next later), calm_append] at hcalm
      obtain ⟨hchunk, hlater⟩ := hcalm
      rw [hchunk.processLines]
      exact ⟨hchunk.dropLast, hlater⟩
  obtain ⟨hfront, hlater⟩ := hparts
  have hjoined : s.textWith (chunk ++ more) =
      s.textWith chunk ++ ((s.decoder.decode chunk).2.decode more).1 := by
    unfold textWith
    rw [TextDecoder.decode_append, List.append_assoc]
  have hwhole := onChunk_eq hcalm
  rw [hlines, hjoined, splitLines_append, TextDecoder.decode_append] at hwhole
  rw [onChunk_eq hfront, hwhole]
  have hagain : ((s.processLines (s.chunkLines chunk)).withStream (s.decoder.decode chunk).2
      (splitLines (s.textWith chunk)).2).Calm _ := calm_withStream.2 hlater
  refine ⟨hagain, (onChunk_eq hagain).trans ?_⟩
  rw [processLines_append, processLines_withStream]
  rfl

theorem connection_eq {chunks : List Bytes} (hne : chunks ≠ [])
    (hcalm : s.Calm (s.chunkLines chunks.flatten).dropLast) :
    s.connection chunks = s.onChunk chunks.flatten := by
  induction chunks generalizing s with
  | nil => exact absurd rfl hne
  | cons chunk chunks ih =>
    by_cases hlast : chunks = []
    · rw [hlast, List.flatten_singleton]
      rfl
    · rw [List.flatten_cons] at hcalm ⊢
      obtain ⟨hlater, happend⟩ := onChunk_append hcalm
      exact (ih hlast hlater).trans happend

/-- The body may be cut anywhere, also inside a line end or a character, with the same messages
and the same parser at the end, exactly when no message that it announces before its last line
makes the dispatch throw. -/
theorem chunking_irrelevant (s : EventSource) (bytes : Bytes) :
    (∀ chunks, chunks ≠ [] → chunks.flatten = bytes →
      chunks.foldl onChunk s = s.onChunk bytes) ↔
    ∀ m ∈ s.announced (s.chunkLines bytes).dropLast, s.throws m = false := by
  rw [← calm_iff]
  constructor
  · intro hsame
    -- handing in nothing more must not find a line
    have hagain : (s.onChunk bytes).onChunk [] = s.onChunk bytes :=
      hsame [bytes, []] (List.cons_ne_nil _ _) (by simp)
    have hdrained : '\n' ∉ (s.onChunk bytes).buffer := by
      intro hline
      have hshorter := length_onChunk_nil hline
      rw [hagain] at hshorter
      exact Nat.lt_irrefl _ hshorter
    have hcalm := calm_of_drainBuffer
      (s := s.withStream (s.decoder.decode bytes).2 (s.textWith bytes)) (Nat.le_refl _) hdrained
    exact calm_withStream.1 hcalm
  · rintro hcalm chunks hne rfl
    exact connection_eq hne hcalm

def ascii (text : String) : Bytes := text.toList.map fun c => UInt8.ofNat c.toNat

def sampleUrl : SourceUrl where
  pathname := "/events".toList
  search := []
  host := "localhost".toList
  scheme := "https".toList
  origin := "https://localhost".toList

def sampleSource (throws : EventSourceMessage → Bool) : EventSource :=
  new sampleUrl [] none none throws

/-- There is no listener for errors. -/
def unheardErrors (m : EventSourceMessage) : Bool := m.type = "error".toList

/-- An event named `error` and another event, in one chunk and in two: the line after the first
event waits in the buffer, or has been taken into its data. -/
theorem error_read_by_chunks :
    let s := sampleSource unheardErrors
    let failing := ascii "event: error\ndata: x\n\n"
    let later := ascii "data: y\n\n"
    (s.onChunk (failing ++ later)).buffer = "data: y\n\n".toList ∧
      (s.onChunk (failing ++ later)).currentData = ["x".toList] ∧
      ([failing, later].foldl onChunk s).buffer = [] ∧
      ([failing, later].foldl onChunk s).currentData = ["x".toList, "y".toList] := by
  decide +kernel

end EventSource

end Http3
