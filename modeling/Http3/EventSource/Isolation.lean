import Http3.EventSource.Chunking

/-! What a connection of an event source leaves behind for the next one: when nothing, and that
otherwise the next one shows it. -/

namespace Http3

open TextStream

/-- Field and value of a line, unless it ends an event or is a comment. -/
def fieldOf (line : Text) : Option (SseField × Text) :=
  if line = [] ∨ line.head? = some ':' then none
  else some (SseField.ofName (splitField line).1, (splitField line).2)

def eventOf (line : Text) : Option Text :=
  match fieldOf line with
  | some (.event, value) => some (if value = [] then messageType else value)
  | _ => none

def dataOf (line : Text) : Option Text :=
  match fieldOf line with
  | some (.data, value) => some value
  | _ => none

def idOf (line : Text) : Option Text :=
  match fieldOf line with
  | some (.id, value) => if '\x00' ∈ value then none else some value
  | _ => none

def eventAfter (lines : List Text) (event : Text) : Text :=
  lines.foldl (fun event line => (eventOf line).getD event) event

def idAfter (lines : List Text) (id : Text) : Text :=
  lines.foldl (fun id line => (idOf line).getD id) id

/-- The lines of complete events, and those of one that is not complete. -/
def closeEvents : List Text → List Text × List Text
  | [] => ([], [])
  | line :: lines =>
    let (closed, pending) := closeEvents lines
    if closed = [] ∧ line ≠ [] then ([], line :: pending) else (line :: closed, pending)

theorem closeEvents_append (lines : List Text) :
    (closeEvents lines).1 ++ (closeEvents lines).2 = lines := by
  induction lines with
  | nil => rfl
  | cons line lines ih =>
    unfold closeEvents
    dsimp only
    split_ifs with hopen
    · rw [hopen.1, List.nil_append] at ih
      rw [List.nil_append, ih]
    · rw [List.cons_append, ih]

theorem ne_nil_of_pending {lines : List Text} : ∀ line ∈ (closeEvents lines).2, line ≠ [] := by
  induction lines with
  | nil => exact fun line h => absurd h List.not_mem_nil
  | cons first lines ih =>
    unfold closeEvents
    dsimp only
    split_ifs with hopen
    · intro line hmem
      obtain rfl | hmem := List.mem_cons.1 hmem
      · exact hopen.2
      · exact ih line hmem
    · exact ih

theorem closed_ends (lines : List Text) :
    (closeEvents lines).1 = [] ∨ ∃ front, (closeEvents lines).1 = front ++ [[]] := by
  induction lines with
  | nil => exact .inl rfl
  | cons line lines ih =>
    unfold closeEvents
    dsimp only
    split_ifs with hopen
    · exact .inl rfl
    · right
      obtain hnil | ⟨front, hfront⟩ := ih
      · have hline : line = [] := by
          by_contra hne
          exact hopen ⟨hnil, hne⟩
        exact ⟨[], by rw [hnil, hline, List.nil_append]⟩
      · exact ⟨line :: front, by rw [hfront, List.cons_append]⟩

namespace EventSource

variable {s : EventSource}

/-- Between two events. -/
structure AtRest (s : EventSource) : Prop where
  decoder : s.decoder.utf8 = none
  buffer : s.buffer = []
  event : s.currentEvent = messageType
  data : s.currentData = []

theorem readLine_inside {line : Text} (hline : line ≠ []) :
    (s.readLine line).currentEvent = (eventOf line).getD s.currentEvent ∧
    (s.readLine line).currentData = s.currentData ++ (dataOf line).toList ∧
    (s.readLine line).lastEventId = (idOf line).getD s.lastEventId := by
  have hlength : line.length ≠ 0 := fun h => hline (List.length_eq_zero_iff.1 h)
  unfold readLine takeLine eventOf dataOf idOf fieldOf
  rw [if_neg hlength]
  by_cases hcomment : line.head? = some ':'
  · simp [hcomment]
  · simp only [hcomment, if_false, hline, or_self]
    generalize splitField line = split
    obtain ⟨field, value⟩ := split
    dsimp only
    cases SseField.ofName field with
    | event => simp
    | data => simp
    | id =>
      dsimp only
      split_ifs <;> simp
    | retry =>
      cases parseInt value with
      | none => simp
      | some retry =>
        dsimp only
        split_ifs <;> simp
    | unknown => simp

theorem readLines_inside {lines : List Text} (hlines : ∀ line ∈ lines, line ≠ []) :
    (s.readLines lines).currentEvent = eventAfter lines s.currentEvent ∧
    (s.readLines lines).currentData = s.currentData ++ lines.filterMap dataOf ∧
    (s.readLines lines).lastEventId = idAfter lines s.lastEventId := by
  induction lines generalizing s with
  | nil => exact ⟨rfl, (List.append_nil _).symm, rfl⟩
  | cons line lines ih =>
    obtain ⟨hevent, hdata, hid⟩ := readLine_inside (s := s) (hlines line List.mem_cons_self)
    obtain ⟨hevents, hdatas, hids⟩ := ih (s := s.readLine line)
      fun l hl => hlines l (List.mem_cons_of_mem line hl)
    refine ⟨?_, ?_, ?_⟩
    · rw [hevent] at hevents
      exact hevents
    · rw [hdata, List.append_assoc] at hdatas
      refine hdatas.trans ?_
      cases hvalue : dataOf line <;> simp [hvalue]
    · rw [hid] at hids
      exact hids

theorem endEvent_ends : s.endEvent.currentEvent = messageType ∧
    s.endEvent.currentData = [] ∧ s.endEvent.lastEventId = s.lastEventId := by
  unfold endEvent
  split_ifs with hempty
  · exact ⟨rfl, List.length_eq_zero_iff.1 hempty, rfl⟩
  · exact ⟨rfl, rfl, rfl⟩

theorem readLine_blank : s.readLine [] = s.endEvent := rfl

theorem readLines_id (lines : List Text) :
    (s.readLines lines).lastEventId = idAfter lines s.lastEventId := by
  induction lines generalizing s with
  | nil => rfl
  | cons line lines ih =>
    have hline : (s.readLine line).lastEventId = (idOf line).getD s.lastEventId := by
      by_cases hblank : line = []
      · subst hblank
        exact endEvent_ends.2.2
      · exact (readLine_inside hblank).2.2
    have hrest := ih (s := s.readLine line)
    rw [hline] at hrest
    exact hrest

theorem readLines_closed (hevent : s.currentEvent = messageType) (hdata : s.currentData = [])
    (lines : List Text) :
    (s.readLines (closeEvents lines).1).currentEvent = messageType ∧
    (s.readLines (closeEvents lines).1).currentData = [] := by
  obtain hnil | ⟨front, hfront⟩ := closed_ends lines
  · rw [hnil]
    exact ⟨hevent, hdata⟩
  · have hlast : s.readLines (front ++ [[]]) = (s.readLines front).endEvent := by
      unfold readLines
      rw [List.foldl_append]
      rfl
    rw [hfront, hlast]
    exact ⟨endEvent_ends.1, endEvent_ends.2.1⟩

/-- The id of the last complete event among the lines. -/
def completedId (lines : List Text) (id : Text) : Text := idAfter (closeEvents lines).1 id

theorem readLines_leaves (hevent : s.currentEvent = messageType) (hdata : s.currentData = [])
    (lines : List Text) :
    (s.readLines lines).currentEvent = eventAfter (closeEvents lines).2 messageType ∧
    (s.readLines lines).currentData = (closeEvents lines).2.filterMap dataOf ∧
    (s.readLines lines).lastEventId =
      idAfter (closeEvents lines).2 (completedId lines s.lastEventId) := by
  obtain ⟨hevent', hdata'⟩ := readLines_closed hevent hdata lines
  have hid := readLines_id (s := s) (closeEvents lines).1
  have hsplit : s.readLines lines =
      (s.readLines (closeEvents lines).1).readLines (closeEvents lines).2 := by
    unfold readLines
    rw [← List.foldl_append, closeEvents_append]
  obtain ⟨hevents, hdatas, hids⟩ :=
    readLines_inside (s := s.readLines (closeEvents lines).1) ne_nil_of_pending
  rw [hevent'] at hevents
  rw [hdata', List.nil_append] at hdatas
  rw [hid] at hids
  rw [hsplit]
  exact ⟨hevents, hdatas, hids⟩

def bodyText (s : EventSource) (chunks : List Bytes) : Text :=
  (s.decoder.decode chunks.flatten).1

def bodyLines (s : EventSource) (chunks : List Bytes) : List Text := linesOf (s.bodyText chunks)

/-- The id that the last complete event of a connection leaves. -/
def completed (s : EventSource) (chunks : List Bytes) : Text :=
  completedId (s.bodyLines chunks) s.lastEventId

/-- No dispatch throws, the body stops between two characters and between two lines, and the lines
after the last complete event say nothing: no data, no type, no other id. -/
structure EndsClean (s : EventSource) (chunks : List Bytes) : Prop where
  calm : ∀ m ∈ s.announced (s.bodyLines chunks), s.throws m = false
  character : (s.decoder.decode chunks.flatten).2.utf8 = none
  line : (splitLines (s.bodyText chunks)).2 = []
  data : (closeEvents (s.bodyLines chunks)).2.filterMap dataOf = []
  event : eventAfter (closeEvents (s.bodyLines chunks)).2 messageType = messageType
  id : idAfter (closeEvents (s.bodyLines chunks)).2 (s.completed chunks) = s.completed chunks

theorem onChunk_nil (hbuffer : '\n' ∉ s.buffer) : s.onChunk [] = s := by
  have hdecode : s.decoder.decode [] = ([], s.decoder) := by
    obtain ⟨utf8, _ | _⟩ := s.decoder <;> rfl
  unfold onChunk
  rw [hdecode]
  dsimp only
  rw [List.append_nil]
  exact drainBuffer_stops hbuffer

variable {chunks : List Bytes}

/-- What is read, when no dispatch throws. -/
theorem connection_calm (hbuffer : '\n' ∉ s.buffer) (hcalm : s.Calm (s.chunkLines chunks.flatten)) :
    s.connection chunks = (s.readLines (s.chunkLines chunks.flatten)).withStream
      (s.decoder.decode chunks.flatten).2 (splitLines (s.textWith chunks.flatten)).2 := by
  have hwhole : s.connection chunks = s.onChunk chunks.flatten := by
    cases chunks with
    | nil => exact (onChunk_nil hbuffer).symm
    | cons chunk chunks => exact connection_eq (List.cons_ne_nil _ _) hcalm.dropLast
  rw [hwhole, onChunk_eq hcalm.dropLast, hcalm.processLines]

theorem AtRest.notMem (h : s.AtRest) : '\n' ∉ s.buffer := by simp [h.buffer]

theorem AtRest.textWith (h : s.AtRest) (chunks : List Bytes) :
    s.textWith chunks.flatten = s.bodyText chunks := by
  unfold EventSource.textWith bodyText
  rw [h.buffer, List.nil_append]

theorem connection_leaves (h : s.AtRest) (hcalm : s.Calm (s.bodyLines chunks)) :
    (s.connection chunks).decoder = (s.decoder.decode chunks.flatten).2 ∧
    (s.connection chunks).buffer = (splitLines (s.bodyText chunks)).2 ∧
    (s.connection chunks).currentEvent =
      eventAfter (closeEvents (s.bodyLines chunks)).2 messageType ∧
    (s.connection chunks).currentData = (closeEvents (s.bodyLines chunks)).2.filterMap dataOf ∧
    (s.connection chunks).lastEventId =
      idAfter (closeEvents (s.bodyLines chunks)).2 (s.completed chunks) := by
  have hlines : s.chunkLines chunks.flatten = s.bodyLines chunks :=
    congrArg linesOf (h.textWith chunks)
  rw [connection_calm h.notMem (hlines.symm ▸ hcalm), hlines, h.textWith chunks]
  exact ⟨rfl, rfl, readLines_leaves h.event h.data _⟩

theorem endsClean_iff (h : s.AtRest) (hcalm : s.Calm (s.bodyLines chunks)) :
    s.EndsClean chunks ↔ (s.connection chunks).AtRest ∧
      (s.connection chunks).lastEventId = s.completed chunks := by
  obtain ⟨hdecoder, hbuffer, hevent, hdata, hid⟩ := connection_leaves h hcalm
  constructor
  · intro hclean
    refine ⟨⟨?_, ?_, ?_, ?_⟩, ?_⟩
    · rw [hdecoder, hclean.character]
    · rw [hbuffer, hclean.line]
    · rw [hevent, hclean.event]
    · rw [hdata, hclean.data]
    · rw [hid, hclean.id]
  · rintro ⟨hrest, hcompleted⟩
    exact ⟨calm_iff.1 hcalm, hdecoder ▸ hrest.decoder, hbuffer ▸ hrest.buffer, hdata ▸ hrest.data,
      hevent ▸ hrest.event, hid ▸ hcompleted⟩

theorem EndsClean.leaves (h : s.AtRest) (hclean : s.EndsClean chunks) :
    (s.connection chunks).AtRest ∧ (s.connection chunks).lastEventId = s.completed chunks :=
  (endsClean_iff h (calm_iff.2 hclean.calm)).1 hclean

/-- Alike for the messages to come. -/
structure Alike (s t : EventSource) : Prop where
  origin : s.url.origin = t.url.origin
  throws : s.throws = t.throws
  event : s.currentEvent = t.currentEvent
  data : s.currentData = t.currentData
  id : s.lastEventId = t.lastEventId

namespace Alike

variable {t : EventSource}

theorem message (h : Alike s t) : s.message = t.message := by
  unfold EventSource.message
  rw [h.event, h.data, h.id, h.origin]

theorem readLine (h : Alike s t) (line : Text) : Alike (s.readLine line) (t.readLine line) := by
  have hs := readLine_sameStream s line
  have ht := readLine_sameStream t line
  have hurl : (s.readLine line).url.origin = (t.readLine line).url.origin := by
    rw [hs.url, ht.url, h.origin]
  have hthrows : (s.readLine line).throws = (t.readLine line).throws := by
    rw [hs.throws, ht.throws, h.throws]
  by_cases hblank : line = []
  · subst hblank
    rw [readLine_blank, readLine_blank] at hurl hthrows ⊢
    refine ⟨hurl, hthrows, ?_, ?_, ?_⟩
    · rw [endEvent_ends.1, endEvent_ends.1]
    · rw [endEvent_ends.2.1, endEvent_ends.2.1]
    · rw [endEvent_ends.2.2, endEvent_ends.2.2, h.id]
  · obtain ⟨hevent, hdata, hid⟩ := readLine_inside (s := s) hblank
    obtain ⟨hevent', hdata', hid'⟩ := readLine_inside (s := t) hblank
    refine ⟨hurl, hthrows, ?_, ?_, ?_⟩
    · rw [hevent, hevent', h.event]
    · rw [hdata, hdata', h.data]
    · rw [hid, hid', h.id]

theorem announced (h : Alike s t) (lines : List Text) : s.announced lines = t.announced lines := by
  induction lines generalizing s t with
  | nil => rfl
  | cons line lines ih =>
    unfold EventSource.announced
    rw [h.message, h.data, ih (h.readLine line)]

theorem throwsAt (h : Alike s t) (line : Text) : s.ThrowsAt line ↔ t.ThrowsAt line := by
  unfold ThrowsAt
  rw [h.data, h.throws, h.message]

end Alike

/-- Alike, with the same text to read and the same messages so far. -/
structure Agree (s t : EventSource) : Prop extends Alike s t where
  emitted : s.emitted = t.emitted
  buffer : s.buffer = t.buffer

namespace Agree

variable {t : EventSource}

theorem withBuffer (h : Agree s t) (decoder decoder' : TextDecoder) (buffer : Text) :
    Agree (s.withStream decoder buffer) (t.withStream decoder' buffer) :=
  ⟨⟨h.origin, h.throws, h.event, h.data, h.id⟩, h.emitted, rfl⟩

theorem readLine (h : Agree s t) (line : Text) : Agree (s.readLine line) (t.readLine line) := by
  refine ⟨h.toAlike.readLine line, ?_, ?_⟩
  · rw [readLine_emitted, readLine_emitted, h.emitted, h.message, h.data]
  · rw [(readLine_sameStream s line).buffer, (readLine_sameStream t line).buffer, h.buffer]

theorem drainBuffer (h : Agree s t) (fuel : ℕ) :
    Agree (s.drainBuffer fuel) (t.drainBuffer fuel) := by
  induction fuel generalizing s t with
  | zero => exact h
  | succ fuel ih =>
    have hbuffer := h.buffer
    obtain ⟨-, hnone⟩ | ⟨rest, -, hparts, hline⟩ := buffer_cases s.buffer
    · rw [drainBuffer_stops hnone, drainBuffer_stops (hbuffer ▸ hnone)]
      exact h
    · rw [drainBuffer_line hparts.symm hline,
        drainBuffer_line (hbuffer.symm.trans hparts.symm) hline]
      by_cases hthrows : s.ThrowsAt (stripCr (s.buffer.takeWhile (· ≠ '\n')))
      · rw [if_pos hthrows, if_pos ((h.throwsAt _).1 hthrows)]
        exact h.withBuffer _ _ rest
      · rw [if_neg hthrows, if_neg fun ht => hthrows ((h.throwsAt _).2 ht)]
        exact ih ((h.readLine _).withBuffer _ _ rest)

theorem onChunk (h : Agree s t) {chunk : Bytes}
    (htext : (s.decoder.decode chunk).1 = (t.decoder.decode chunk).1) :
    Agree (s.onChunk chunk) (t.onChunk chunk) := by
  have hwith := (h.withBuffer (s.decoder.decode chunk).2 (t.decoder.decode chunk).2
    (s.buffer ++ (s.decoder.decode chunk).1)).drainBuffer
    (s.buffer ++ (s.decoder.decode chunk).1).length
  have hsame : t.buffer ++ (t.decoder.decode chunk).1 = s.buffer ++ (s.decoder.decode chunk).1 := by
    rw [h.buffer, htext]
  unfold EventSource.onChunk
  dsimp only
  rw [hsame]
  exact hwith

end Agree

theorem drainBuffer_sameStream (s : EventSource) (fuel : ℕ) :
    ∃ buffer, SameStream (s.withStream s.decoder buffer) (s.drainBuffer fuel) := by
  induction fuel generalizing s with
  | zero => exact ⟨s.buffer, rfl, rfl, rfl, rfl, rfl⟩
  | succ fuel ih =>
    obtain ⟨-, hnone⟩ | ⟨rest, -, hparts, hline⟩ := buffer_cases s.buffer
    · rw [drainBuffer_stops hnone]
      exact ⟨s.buffer, rfl, rfl, rfl, rfl, rfl⟩
    · rw [drainBuffer_line hparts.symm hline]
      split_ifs
      · exact ⟨rest, rfl, rfl, rfl, rfl, rfl⟩
      · generalize stripCr (s.buffer.takeWhile (· ≠ '\n')) = line
        obtain ⟨buffer, hsame⟩ := ih ((s.readLine line).withStream s.decoder rest)
        have hread := readLine_sameStream s line
        exact ⟨buffer, hsame.url.trans hread.url, hsame.headers.trans hread.headers,
          hsame.throws.trans hread.throws, hsame.decoder, hsame.buffer⟩

theorem onChunk_keeps (s : EventSource) (chunk : Bytes) :
    (s.onChunk chunk).url = s.url ∧ (s.onChunk chunk).headers = s.headers ∧
    (s.onChunk chunk).throws = s.throws ∧
    (s.onChunk chunk).decoder = (s.decoder.decode chunk).2 := by
  obtain ⟨buffer, hsame⟩ := drainBuffer_sameStream
    (s.withStream (s.decoder.decode chunk).2 (s.textWith chunk)) (s.textWith chunk).length
  exact ⟨hsame.url, hsame.headers, hsame.throws, hsame.decoder⟩

theorem connection_keeps (s : EventSource) (chunks : List Bytes) :
    (s.connection chunks).url = s.url ∧ (s.connection chunks).headers = s.headers ∧
    (s.connection chunks).throws = s.throws := by
  induction chunks generalizing s with
  | nil => exact ⟨rfl, rfl, rfl⟩
  | cons chunk chunks ih =>
    obtain ⟨hurl, hheaders, hthrows, -⟩ := onChunk_keeps s chunk
    obtain ⟨hurl', hheaders', hthrows'⟩ := ih (s.onChunk chunk)
    exact ⟨hurl'.trans hurl, hheaders'.trans hheaders, hthrows'.trans hthrows⟩

theorem Agree.connection {t : EventSource} (h : Agree s t)
    (htexts : TextDecoder.SameText s.decoder t.decoder chunks.flatten) :
    Agree (s.connection chunks) (t.connection chunks) := by
  induction chunks generalizing s t with
  | nil => exact h
  | cons chunk chunks ih =>
    obtain ⟨htext, hlater⟩ := htexts.decode
    obtain ⟨-, -, -, hs⟩ := onChunk_keeps s chunk
    obtain ⟨-, -, -, ht⟩ := onChunk_keeps t chunk
    rw [← hs, ← ht] at hlater
    exact ih (h.onChunk htext) hlater

theorem messages_calm (hbuffer : '\n' ∉ s.buffer) (hcalm : s.Calm (s.chunkLines chunks.flatten)) :
    s.messages chunks = s.announced (s.chunkLines chunks.flatten) := by
  have halike : Alike { s with emitted := [] } s := ⟨rfl, rfl, rfl, rfl, rfl⟩
  have hlines : ({ s with emitted := [] } : EventSource).chunkLines chunks.flatten =
      s.chunkLines chunks.flatten := rfl
  have hcalm' : ({ s with emitted := [] } : EventSource).Calm (s.chunkLines chunks.flatten) := by
    rw [calm_iff] at hcalm ⊢
    rwa [halike.announced]
  have hstart : '\n' ∉ ({ s with emitted := [] } : EventSource).buffer := hbuffer
  unfold messages
  rw [connection_calm hstart (by rwa [hlines]), hlines]
  exact (readLines_emitted _ _).trans (halike.announced _)

/-- A body that begins with a byte order mark, read by a decoder that takes it for text. -/
def BomLost (decoder : TextDecoder) (chunks : List Bytes) : Prop :=
  decoder.bomSeen = true ∧ (Utf8.decode none chunks.flatten).1.head? = some TextDecoder.bom

theorem AtRest.messages {t : EventSource} (h : s.AtRest) (ht : t.AtRest)
    (hdecoder : t.decoder = .new) (horigin : s.url.origin = t.url.origin)
    (hthrows : s.throws = t.throws) (hid : s.lastEventId = t.lastEventId)
    (hbom : ¬BomLost s.decoder chunks) : s.messages chunks = t.messages chunks := by
  have hagree : Agree { s with emitted := [] } { t with emitted := [] } :=
    ⟨⟨horigin, hthrows, h.event.trans ht.event.symm, h.data.trans ht.data.symm, hid⟩, rfl,
      h.buffer.trans ht.buffer.symm⟩
  have htexts : TextDecoder.SameText s.decoder t.decoder chunks.flatten := by
    rw [hdecoder]
    refine ⟨h.decoder, ?_⟩
    cases hseen : s.decoder.bomSeen with
    | false => exact .inl rfl
    | true =>
      refine .inr ⟨rfl, rfl, fun hhead => hbom ⟨hseen, ?_⟩⟩
      rwa [h.decoder] at hhead
  exact (hagree.connection htexts).emitted

theorem splitField_of_dataOf {line value : Text} (h : dataOf line = some value) :
    splitField line = (['d', 'a', 't', 'a'], value) := by
  unfold dataOf fieldOf at h
  split_ifs at h
  generalize splitField line = split at h ⊢
  obtain ⟨name, found⟩ := split
  dsimp only at h
  unfold SseField.ofName at h
  split_ifs at h with hevent hdata
  · obtain rfl := Option.some.inj h
    rw [hdata]

theorem eq_nil_of_dataOf {front : Text} (h : dataOf (front ++ ['d', 'a', 't', 'a']) = some []) :
    front = [] := by
  have hsplit := splitField_of_dataOf h
  have hlast : (front ++ ['d', 'a', 't', 'a']).getLast? = some 'a' := by simp
  unfold splitField at hsplit
  obtain ⟨hname, hvalue⟩ := Prod.mk.inj hsplit
  have hparts := List.takeWhile_append_dropWhile (p := (· ≠ ':'))
    (l := front ++ ['d', 'a', 't', 'a'])
  have hcolon := List.head?_dropWhile_not (· ≠ ':') (front ++ ['d', 'a', 't', 'a'])
  rw [hname] at hparts
  generalize (front ++ ['d', 'a', 't', 'a']).dropWhile (· ≠ ':') = after at hparts hcolon hvalue
  cases after with
  | nil => simpa using hparts.symm
  | cons c rest =>
    exfalso
    obtain rfl : c = ':' := by simpa using hcolon
    rw [← hparts] at hlast
    cases rest with
    | nil => simp at hlast
    | cons d rest =>
      simp only [List.drop_succ_cons, List.drop_zero, List.head?_cons] at hvalue
      split_ifs at hvalue with hspace
      · obtain rfl : d = ' ' := by simpa using hspace
        simp [hvalue] at hlast

/-- What is left of the last connection when ASCII text comes in. -/
def leftover (s : EventSource) : Text := s.buffer ++ Utf8.broken s.decoder.utf8

theorem notMem_leftover (hbuffer : '\n' ∉ s.buffer) : '\n' ∉ s.leftover := by
  unfold leftover Utf8.broken
  rw [List.mem_append, not_or]
  refine ⟨hbuffer, ?_⟩
  split_ifs
  · decide
  · exact List.not_mem_nil

theorem messages_line (hbuffer : '\n' ∉ s.buffer) (hnever : ∀ m, s.throws m = false) {b : UInt8}
    {bs : Bytes} (line : Text) (hascii : (b :: bs).all fun c => c ≤ 0x7F)
    (hbom : Char.ofNat b.toNat ≠ TextDecoder.bom)
    (htext : ((b :: bs).map fun c => Char.ofNat c.toNat) = line ++ ['\n', '\n'])
    (hline : '\n' ∉ line) :
    s.messages [b :: bs] = s.announced [stripCr (s.leftover ++ line), []] := by
  have hascii : ∀ c ∈ b :: bs, c ≤ 0x7F := by
    intro c hc
    simpa using List.all_eq_true.1 hascii c hc
  have hat : s.textWith [b :: bs].flatten = (s.leftover ++ line) ++ '\n' :: ['\n'] := by
    unfold textWith leftover
    rw [List.flatten_singleton, TextDecoder.decode_ascii _ hascii hbom, htext]
    simp only [List.append_assoc]
  have hfront : '\n' ∉ s.leftover ++ line := by
    rw [List.mem_append, not_or]
    exact ⟨notMem_leftover hbuffer, hline⟩
  have hlines : s.chunkLines [b :: bs].flatten = [stripCr (s.leftover ++ line), []] := by
    unfold chunkLines
    rw [hat, linesOf_line hfront]
    rfl
  rw [messages_calm hbuffer (calm_iff.2 fun m _ => hnever m), hlines]

theorem data_of_announced {line : Text} (h : s.announced [line, []] = []) : s.currentData = [] := by
  by_contra hdata
  unfold announced at h
  by_cases hblank : line = []
  · simp [hblank, hdata] at h
  · obtain ⟨-, hdatas, -⟩ := readLine_inside (s := s) hblank
    simp [announced, hblank, hdatas, hdata] at h

theorem atRest_of_announced (hdata : s.currentData = []) {id : Text}
    (h : s.announced [s.leftover ++ ['d', 'a', 't', 'a'], []] =
      [⟨messageType, [], id, s.url.origin⟩]) : s.AtRest ∧ s.lastEventId = id := by
  have hne : s.leftover ++ ['d', 'a', 't', 'a'] ≠ [] := by simp
  obtain ⟨hevent, hdatas, hid⟩ := readLine_inside (s := s) hne
  have hurl := (readLine_sameStream s (s.leftover ++ ['d', 'a', 't', 'a'])).url
  simp only [announced, message, hne, false_and, if_false, List.nil_append, hdatas, hdata, hevent,
    hid, hurl, true_and] at h
  cases hvalue : dataOf (s.leftover ++ ['d', 'a', 't', 'a']) with
  | none => simp [hvalue] at h
  | some value =>
    simp only [hvalue, Option.toList_some, ne_eq, List.cons_ne_nil, not_false_eq_true, if_true,
      List.append_nil, List.cons.injEq, and_true, EventSourceMessage.mk.injEq] at h
    obtain ⟨htype, hempty, hlast⟩ := h
    obtain rfl : value = [] := by simpa using hempty
    have hleft := eq_nil_of_dataOf hvalue
    rw [hleft] at htype hlast
    obtain ⟨hline, hcharacter⟩ := List.append_eq_nil_iff.1 hleft
    refine ⟨⟨?_, hline, htype, hdata⟩, hlast⟩
    unfold Utf8.broken at hcharacter
    split_ifs at hcharacter with hpartial
    · simpa using hpartial

def connections (s : EventSource) (bodies : List (List Bytes)) : EventSource :=
  bodies.foldl connection s

def EachEndsClean : EventSource → List (List Bytes) → Prop
  | _, [] => True
  | s, chunks :: later => s.EndsClean chunks ∧ EachEndsClean (s.connection chunks) later

instance (s : EventSource) (chunks : List Bytes) : Decidable (s.EndsClean chunks) :=
  decidable_of_iff ((∀ m ∈ s.announced (s.bodyLines chunks), s.throws m = false) ∧
    (s.decoder.decode chunks.flatten).2.utf8 = none ∧
    (splitLines (s.bodyText chunks)).2 = [] ∧
    (closeEvents (s.bodyLines chunks)).2.filterMap dataOf = [] ∧
    eventAfter (closeEvents (s.bodyLines chunks)).2 messageType = messageType ∧
    idAfter (closeEvents (s.bodyLines chunks)).2 (s.completed chunks) = s.completed chunks)
    ⟨fun h => ⟨h.1, h.2.1, h.2.2.1, h.2.2.2.1, h.2.2.2.2.1, h.2.2.2.2.2⟩,
      fun h => ⟨h.calm, h.character, h.line, h.data, h.event, h.id⟩⟩

instance EachEndsClean.decidable : (s : EventSource) → (bodies : List (List Bytes)) →
    Decidable (s.EachEndsClean bodies)
  | _, [] => .isTrue trivial
  | s, chunks :: later =>
    have := EachEndsClean.decidable (s.connection chunks) later
    inferInstanceAs (Decidable (s.EndsClean chunks ∧ EachEndsClean (s.connection chunks) later))

theorem connections_atRest (h : s.AtRest) {bodies : List (List Bytes)}
    (hclean : s.EachEndsClean bodies) :
    (s.connections bodies).AtRest ∧ (s.connections bodies).url = s.url ∧
      (s.connections bodies).headers = s.headers ∧ (s.connections bodies).throws = s.throws := by
  induction bodies generalizing s with
  | nil => exact ⟨h, rfl, rfl, rfl⟩
  | cons chunks later ih =>
    obtain ⟨hfirst, hlater⟩ := hclean
    obtain ⟨hrest, hurl, hheaders, hthrows⟩ := ih (hfirst.leaves h).1 hlater
    obtain ⟨hurl', hheaders', hthrows'⟩ := connection_keeps s chunks
    exact ⟨hrest, hurl.trans hurl', hheaders.trans hheaders', hthrows.trans hthrows'⟩

variable (url : SourceUrl) (headers : List (String × Text)) (initialRetryMs maxRetryMs : Option ℕ)
  (throws : EventSourceMessage → Bool)

/-- A parser that has read nothing, with an id to go on from. -/
def fresh (id : Text) : EventSource :=
  { new url headers initialRetryMs maxRetryMs throws with lastEventId := id }

theorem fresh_atRest (id : Text) : (fresh url headers initialRetryMs maxRetryMs throws id).AtRest :=
  ⟨rfl, rfl, rfl, rfl⟩

theorem fresh_messages_blank (id : Text) :
    (fresh url headers initialRetryMs maxRetryMs throws id).messages [[10, 10]] = [] := rfl

/-- A byte order mark and a data line: a message for a fresh parser only. -/
def markedBody : List Bytes := [[0xEF, 0xBB, 0xBF, 100, 97, 116, 97, 10, 10]]

section Never

variable (hnever : ∀ m, throws m = false)

include hnever

theorem fresh_messages_data (id : Text) :
    (fresh url headers initialRetryMs maxRetryMs throws id).messages [[100, 97, 116, 97, 10, 10]] =
      [⟨messageType, [], id, url.origin⟩] := by
  obtain rfl : throws = fun _ => false := funext hnever
  rfl

theorem fresh_messages_marked (id : Text) :
    (fresh url headers initialRetryMs maxRetryMs throws id).messages markedBody =
      [⟨messageType, [], id, url.origin⟩] := by
  obtain rfl : throws = fun _ => false := funext hnever
  rfl

end Never

theorem messages_marked (h : s.AtRest) (hseen : s.decoder.bomSeen = true) :
    s.messages markedBody = [] := by
  obtain ⟨url, headers, maxRetryMs, throws, ⟨utf8, bomSeen⟩, buffer, currentEvent, currentData,
    lastEventId, retryMs, emitted⟩ := s
  obtain ⟨rfl, rfl, rfl, rfl⟩ := h
  obtain rfl : bomSeen = true := hseen
  rfl

/-- The next connection is read as by a fresh parser with this id, and asks for what comes after
it. -/
def ReadsAfresh (s fresh : EventSource) : Prop :=
  (∀ second, ¬BomLost s.decoder second → s.messages second = fresh.messages second) ∧
    s.openStream = fresh.openStream

/-- A connection is read as by a fresh parser, with the id of the last complete event, when no
dispatch of the one before has thrown and it ended between two events. Where dispatches do not
throw, only then, and never when it begins with a byte order mark and text has been read
before. -/
theorem event_source_isolates {earlier : List (List Bytes)}
    (hearlier : (new url headers initialRetryMs maxRetryMs throws).EachEndsClean earlier)
    (first : List Bytes) :
    let s := (new url headers initialRetryMs maxRetryMs throws).connections earlier
    let fresh := fresh url headers initialRetryMs maxRetryMs throws (s.completed first)
    (s.EndsClean first → (s.connection first).ReadsAfresh fresh) ∧
    ((∀ m, throws m = false) →
      ((s.connection first).ReadsAfresh fresh → s.EndsClean first) ∧
      (s.EndsClean first → (s.connection first).decoder.bomSeen = true →
        (s.connection first).messages markedBody ≠ fresh.messages markedBody)) := by
  dsimp only
  have hnew : (new url headers initialRetryMs maxRetryMs throws).AtRest := ⟨rfl, rfl, rfl, rfl⟩
  obtain ⟨hrest, hurl, hheaders, hthrows⟩ := connections_atRest hnew hearlier
  obtain ⟨hurl', hheaders', hthrows'⟩ :=
    connection_keeps ((new url headers initialRetryMs maxRetryMs throws).connections earlier) first
  generalize (new url headers initialRetryMs maxRetryMs throws).connections earlier = s at *
  have hkept : (s.connection first).url = url := hurl'.trans hurl
  refine ⟨?_, fun hnever => ⟨?_, ?_⟩⟩
  · intro hclean
    obtain ⟨hleft, hid⟩ := hclean.leaves hrest
    constructor
    · intro second hbom
      have hfresh := fresh_atRest url headers initialRetryMs maxRetryMs throws (s.completed first)
      exact hleft.messages hfresh rfl (congrArg SourceUrl.origin hkept) (hthrows'.trans hthrows)
        hid hbom
    · unfold openStream fresh
      rw [hid, hkept, hheaders'.trans hheaders]
      rfl
  · rintro ⟨hmessages, -⟩
    have hcalm : s.Calm (s.bodyLines first) := by
      rw [calm_iff, hthrows]
      exact fun m _ => hnever m
    have hbuffer : '\n' ∉ (s.connection first).buffer := by
      rw [(connection_leaves hrest hcalm).2.1]
      exact splitLines_rest _
    have hsilent : ∀ m, (s.connection first).throws m = false := by
      rw [hthrows'.trans hthrows]
      exact hnever
    have hblank := hmessages [[10, 10]] (fun h => absurd h.2 (by decide))
    have hline := hmessages [[100, 97, 116, 97, 10, 10]] (fun h => absurd h.2 (by decide))
    rw [fresh_messages_blank, messages_line hbuffer hsilent [] (by decide) (by decide) rfl
      List.not_mem_nil] at hblank
    rw [fresh_messages_data url headers initialRetryMs maxRetryMs throws hnever, ← hkept,
      messages_line hbuffer hsilent ['d', 'a', 't', 'a'] (by decide) (by decide) (by decide)
        (by decide)] at hline
    have hstrip : stripCr ((s.connection first).leftover ++ ['d', 'a', 't', 'a']) =
        (s.connection first).leftover ++ ['d', 'a', 't', 'a'] := by
      simp [stripCr]
    rw [hstrip] at hline
    exact (endsClean_iff hrest hcalm).2 (atRest_of_announced (data_of_announced hblank) hline)
  · intro hclean hseen
    rw [messages_marked (hclean.leaves hrest).1 hseen, fresh_messages_marked _ _ _ _ _ hnever]
    simp

/-- After a message and a comment. -/
theorem event_source_isolates_commented :
    let s := (sampleSource fun _ => false).connections [[ascii "id: 1\ndata: a\n", ascii "\n"]]
    let first := [ascii ": ping\n"]
    let second := [ascii "data: b\n\n"]
    let fresh := fresh sampleUrl [] none none (fun _ => false) (s.completed first)
    s.EndsClean first ∧
      (s.connection first).messages second = [⟨messageType, ['b'], ['1'], sampleUrl.origin⟩] ∧
      (s.connection first).messages second = fresh.messages second ∧
      (s.connection first).messages markedBody ≠ fresh.messages markedBody := by
  have hclean : (sampleSource fun _ => false).EachEndsClean
      [[ascii "id: 1\ndata: a\n", ascii "\n"]] := by decide +kernel
  have hisolates := event_source_isolates sampleUrl [] none none _ hclean [ascii ": ping\n"]
  have hends : ((sampleSource fun _ => false).connections
      [[ascii "id: 1\ndata: a\n", ascii "\n"]]).EndsClean [ascii ": ping\n"] := by decide +kernel
  refine ⟨hends, by decide +kernel, ?_, ?_⟩
  · exact (hisolates.1 hends).1 _ fun h => absurd h.2 (by decide +kernel)
  · exact (hisolates.2 fun _ => rfl).2 hends (by decide +kernel)

/-- A connection cut off inside an event: the next connection's first message carries its data
and its id, and the id is sent when reconnecting though no event with it is complete. -/
theorem cut_event_carried_over :
    let s := sampleSource fun _ => false
    let first := [ascii "id: 7\ndata: old\n"]
    let second := [ascii "data: new\n\n"]
    s.completed first = [] ∧
      (s.connection first).messages second =
        [⟨messageType, "old\nnew".toList, ['7'], sampleUrl.origin⟩] ∧
      (fresh sampleUrl [] none none (fun _ => false) []).messages second =
        [⟨messageType, "new".toList, [], sampleUrl.origin⟩] ∧
      ("last-event-id", ['7']) ∈ (s.connection first).openStream := by
  decide +kernel

end EventSource

end Http3
