import Http3.Lib.TextStream
import Http3.Quiche

/-! The event source client: it reads messages off the response body and reconnects when the
body ends. -/

namespace Http3

open TextStream

/-- What a listener is handed. -/
structure EventSourceMessage where
  type : Text
  data : Text
  lastEventId : Text
  origin : Text
  deriving DecidableEq

/-- The address, in the parts that are used. -/
structure SourceUrl where
  pathname : Text
  search : Text
  host : Text
  scheme : Text
  origin : Text

/-- The fields that reading the body uses. `throws`: `emit` throws for the message, because a
listener does or because it is an `error` without a listener. Not part of the program is
`emitted`: the messages dispatched so far. -/
structure EventSource where
  url : SourceUrl
  headers : List (String × Text)
  maxRetryMs : ℕ
  throws : EventSourceMessage → Bool
  decoder : TextDecoder
  buffer : Text
  currentEvent : Text
  currentData : List Text
  lastEventId : Text
  retryMs : ℕ
  emitted : List EventSourceMessage

/-- Fields of the format. -/
inductive SseField
  | event
  | data
  | id
  | retry
  | unknown
  deriving DecidableEq

def SseField.ofName (name : Text) : SseField :=
  if name = ['e', 'v', 'e', 'n', 't'] then .event
  else if name = ['d', 'a', 't', 'a'] then .data
  else if name = ['i', 'd'] then .id
  else if name = ['r', 'e', 't', 'r', 'y'] then .retry
  else .unknown

/-- Field and value of a line; one space after the colon is not part of the value. -/
def splitField (line : Text) : Text × Text :=
  let value := (line.dropWhile (· ≠ ':')).drop 1
  (line.takeWhile (· ≠ ':'), if value.head? = some ' ' then value.drop 1 else value)

/-- White space that `Number.parseInt` skips. -/
def isJsSpace (c : Char) : Bool :=
  let n := c.toNat
  (9 ≤ n && n ≤ 13) || n == 32 || n == 160 || n == 5760 || (8192 ≤ n && n ≤ 8202) || n == 8232 ||
    n == 8233 || n == 8239 || n == 8287 || n == 12288 || n == 65279

/-- `Number.parseInt(text, 10)`: the digits at the beginning, if there are any. -/
def parseInt (text : Text) : Option ℤ :=
  let text := text.dropWhile isJsSpace
  let (negative, text) :=
    match text with
    | '-' :: text => (true, text)
    | '+' :: text => (false, text)
    | text => (false, text)
  let digits := text.takeWhile Char.isDigit
  if digits = [] then none
  else
    let n : ℤ := digits.foldl (fun n c => n * 10 + (c.toNat - 48)) 0
    some (if negative then -n else n)

/-- Integers from here on are infinite as JavaScript numbers. -/
def numberOverflow : ℤ := 2 ^ 1024 - 2 ^ 970

def messageType : Text := ['m', 'e', 's', 's', 'a', 'g', 'e']

/-- A line without the carriage return at its end. -/
def stripCr (rawLine : Text) : Text :=
  if rawLine.getLast? = some '\r' then rawLine.dropLast else rawLine

def setHeader (headers : List (String × Text)) (name : String) (value : Text) :
    List (String × Text) :=
  if headers.any fun h => h.1 = name then
    headers.map fun h => if h.1 = name then (name, value) else h
  else headers ++ [(name, value)]

namespace EventSource

def new (url : SourceUrl) (headers : List (String × Text)) (initialRetryMs maxRetryMs : Option ℕ)
    (throws : EventSourceMessage → Bool) : EventSource where
  url
  headers
  maxRetryMs := maxRetryMs.getD 30000
  throws
  decoder := .new
  buffer := []
  currentEvent := messageType
  currentData := []
  lastEventId := []
  retryMs := initialRetryMs.getD 1000
  emitted := []

/-- Headers of the request a connection starts with. -/
def openStream (s : EventSource) : List (String × Text) :=
  let headers : List (String × Text) := [(":method", "GET".toList),
    (":path", s.url.pathname ++ s.url.search), (":authority", s.url.host),
    (":scheme", s.url.scheme), ("accept", "text/event-stream".toList),
    ("cache-control", "no-cache".toList)]
  let headers := if 0 < s.lastEventId.length then setHeader headers "last-event-id" s.lastEventId
    else headers
  s.headers.foldl (fun headers h => setHeader headers h.1.toLower h.2) headers

/-- The message of the current event. -/
def message (s : EventSource) : EventSourceMessage :=
  ⟨s.currentEvent, ['\n'].intercalate s.currentData, s.lastEventId, s.url.origin⟩

/-- `true`: `emit` has thrown, and the event is not over. -/
def dispatchMessage (s : EventSource) : Bool × EventSource :=
  if s.currentData.length = 0 then (false, { s with currentEvent := messageType })
  else if s.throws s.message then (true, s)
  else
    (false, { s with
      emitted := s.emitted ++ [s.message]
      currentData := []
      currentEvent := messageType })

/-- A line that does not end an event: a comment or a field. -/
def takeLine (s : EventSource) (line : Text) : EventSource :=
  if line.head? = some ':' then s
  else
    let (field, value) := splitField line
    match SseField.ofName field with
    | .event => { s with currentEvent := if value = [] then messageType else value }
    | .data => { s with currentData := s.currentData ++ [value] }
    | .id => if '\x00' ∈ value then s else { s with lastEventId := value }
    | .retry =>
      match parseInt value with
      | some retry =>
        if retry < numberOverflow ∧ 0 ≤ retry then
          { s with retryMs := min retry.toNat s.maxRetryMs }
        else s
      | none => s
    | .unknown => s

def processLine (s : EventSource) (line : Text) : Bool × EventSource :=
  if line.length = 0 then s.dispatchMessage else (false, s.takeLine line)

/-- The loop of `_onChunk`: the text up to the first newline leaves the buffer and is processed
as a line, until a dispatch throws. A turn takes a character at least. -/
def drainBuffer : ℕ → EventSource → EventSource
  | 0, s => s
  | fuel + 1, s =>
    match s.buffer.dropWhile (· ≠ '\n') with
    | [] => s
    | _ :: buffer =>
      match { s with buffer }.processLine (stripCr (s.buffer.takeWhile (· ≠ '\n'))) with
      | (true, s) => s
      | (false, s) => drainBuffer fuel s

/-- Decode a piece of the body and process the lines that are complete. What a dispatch throws
goes on to whoever hands the piece in, and does not keep the next one from being read. -/
def onChunk (s : EventSource) (chunk : Bytes) : EventSource :=
  let (text, decoder) := s.decoder.decode chunk
  drainBuffer (s.buffer ++ text).length { s with decoder, buffer := s.buffer ++ text }

/-- The body of one connection. Closing it and opening the next one touch none of the fields. -/
def connection (s : EventSource) (chunks : List Bytes) : EventSource := chunks.foldl onChunk s

/-- The messages dispatched while the body of a connection is read. -/
def messages (s : EventSource) (chunks : List Bytes) : List EventSourceMessage :=
  ({ s with emitted := [] }.connection chunks).emitted

end EventSource

end Http3
