import Http3.Lib.BigEndian
import Http3.Quiche

/-! Retry tokens. A token is the tag of its payload followed by the payload, which names the
peer, the time it was minted at and the connection id the client had chosen. Source connection
ids are derived from tags under the same key. -/

namespace Http3

/-- Both addresses have the same family, address and port. -/
def Peer.SameEndpoint : Peer → Peer → Prop
  | .v4 octets port, .v4 octets' port' => octets = octets' ∧ port = port'
  | .v6 octets port _ _, .v6 octets' port' _ _ => octets = octets' ∧ port = port'
  | _, _ => False

instance (p q : Peer) : Decidable (p.SameEndpoint q) := by
  unfold Peer.SameEndpoint
  split <;> infer_instance

namespace RetryToken

def tagLen : ℕ := 32

def tokenLifetimeSecs : ℕ := 60

def absDiff (a b : ℕ) : ℕ := if a < b then b - a else a - b

def endpointBytes (octets : Bytes) (port : UInt16) : Bytes :=
  octets ++ BigEndian.encode 2 port.toNat

def buildTokenPayload (peer : Peer) (now : UInt64) (odcid : Bytes) : Bytes :=
  (match peer with
    | .v4 octets port => 4 :: endpointBytes octets.toList port
    | .v6 octets port _ _ => 6 :: endpointBytes octets.toList port) ++
  BigEndian.encode 8 now.toNat ++ UInt8.ofNat odcid.length :: odcid

/-- What follows the endpoint, if it is the one expected. -/
def parseEndpoint (octets : Bytes) (port : UInt16) (rest : Bytes) : Option Bytes :=
  if rest.length < octets.length + 2 then none
  else if rest.take octets.length ≠ octets then none
  else if (rest.drop octets.length).take 2 ≠ BigEndian.encode 2 port.toNat then none
  else some (rest.drop (octets.length + 2))

def parsePeer (peer : Peer) (family : UInt8) (rest : Bytes) : Option Bytes :=
  match peer with
  | .v4 octets port => if family = 4 then parseEndpoint octets.toList port rest else none
  | .v6 octets port _ _ => if family = 6 then parseEndpoint octets.toList port rest else none

/-- The connection id behind a timestamp that is near enough. -/
def parseOdcid (now lifetimeSecs : ℕ) (rest : Bytes) : Option Bytes :=
  if rest.length < 8 then none
  else if lifetimeSecs < absDiff now (BigEndian.decode (rest.take 8)) then none
  else
    match rest.drop 8 with
    | [] => none
    | odcidLen :: rest =>
      if rest.length < odcidLen.toNat then none else some (rest.take odcidLen.toNat)

def parseTokenPayload (payload : Bytes) (peer : Peer) (now : UInt64) (lifetimeSecs : ℕ) :
    Option Bytes :=
  match payload with
  | [] => none
  | family :: rest => (parsePeer peer family rest).bind (parseOdcid now.toNat lifetimeSecs)

section Map

-- HMAC-SHA256 under the key of the connection map
variable (hmac : Bytes → Vector UInt8 tagLen)

def hmacVerify (data tag : Bytes) : Bool :=
  if tag.length ≠ tagLen then false else (hmac data).toList == tag

def mintToken (peer : Peer) (now : UInt64) (odcid : Bytes) : Bytes :=
  let payload := buildTokenPayload peer now odcid
  (hmac payload).toList ++ payload

/-- The original connection id, if the token is valid. -/
def validateToken (token : Bytes) (peer : Peer) (now : UInt64) : Option Bytes :=
  if token.length < tagLen then none
  else
    let tagBytes := token.take tagLen
    let payload := token.drop tagLen
    if !hmacVerify hmac payload tagBytes then none
    else parseTokenPayload payload peer now tokenLifetimeSecs

end Map

def scidLen : ℕ := 20

/-- Source connection ids from tags of a counter. -/
structure DeterministicScidSource where
  counter : UInt64

namespace DeterministicScidSource

/-- The next message to be tagged: `scid:` and the counter. -/
def nextMessage (s : DeterministicScidSource) : Bytes :=
  [115, 99, 105, 100, 58] ++ BigEndian.encode 8 (s.counter + 1).toNat

/-- `generate` is the encoding of the identifiers. -/
def nextScid (hmac : Bytes → Vector UInt8 tagLen)
    (generate : Bytes → Except Http3NativeError Bytes) (s : DeterministicScidSource) :
    Except Http3NativeError Bytes × DeterministicScidSource :=
  let digest := (hmac s.nextMessage).toList
  (generate (digest.take scidLen), ⟨s.counter + 1⟩)

end DeterministicScidSource

theorem parseEndpoint_append (octets octets' : Bytes) (port port' : UInt16) (rest : Bytes)
    (hlen : octets'.length = octets.length) :
    parseEndpoint octets' port' (endpointBytes octets port ++ rest) =
      if octets = octets' ∧ port = port' then some rest else none := by
  have hport : BigEndian.encode 2 port.toNat = BigEndian.encode 2 port'.toNat ↔ port = port' := by
    rw [BigEndian.encode_inj port.toNat_lt port'.toNat_lt]
    exact UInt16.toNat_inj
  unfold parseEndpoint endpointBytes
  rw [hlen, if_neg (by simp only [List.length_append, BigEndian.length_encode]; omega),
    List.append_assoc, List.take_left, List.drop_left,
    List.take_left' (BigEndian.length_encode _ _)]
  by_cases hoctets : octets = octets'
  · by_cases hports : port = port'
    · rw [if_neg (not_not.2 hoctets), if_neg (not_not.2 (hport.2 hports)), if_pos ⟨hoctets, hports⟩,
        List.drop_append]
      simp
    · rw [if_neg (not_not.2 hoctets), if_pos (mt hport.1 hports), if_neg fun h => hports h.2]
  · rw [if_pos hoctets, if_neg fun h => hoctets h.1]

theorem parseOdcid_append (t : UInt64) (odcid : Bytes) (now lifetimeSecs : ℕ)
    (hlen : odcid.length ≤ 255) :
    parseOdcid now lifetimeSecs
        (BigEndian.encode 8 t.toNat ++ UInt8.ofNat odcid.length :: odcid) =
      if absDiff now t.toNat ≤ lifetimeSecs then some odcid else none := by
  have hodcid : (UInt8.ofNat odcid.length).toNat = odcid.length :=
    UInt8.toNat_ofNat_of_lt' (Nat.lt_succ_of_le hlen)
  unfold parseOdcid
  rw [if_neg (by simp), List.take_left' (BigEndian.length_encode _ _),
    List.drop_left' (BigEndian.length_encode _ _), BigEndian.decode_encode_of_lt t.toNat_lt]
  dsimp only
  rw [hodcid, List.take_length, if_neg (Nat.lt_irrefl _)]
  by_cases hnear : absDiff now t.toNat ≤ lifetimeSecs
  · rw [if_pos hnear, if_neg (Nat.not_lt.2 hnear)]
  · rw [if_neg hnear, if_pos (Nat.not_le.1 hnear)]

/-- A payload is parsed for the peer it was built for, near the time it was built at. -/
theorem parseTokenPayload_build (p q : Peer) (t t' : UInt64) (odcid : Bytes) (lifetimeSecs : ℕ)
    (hlen : odcid.length ≤ 255) :
    parseTokenPayload (buildTokenPayload p t odcid) q t' lifetimeSecs =
      if p.SameEndpoint q ∧ absDiff t'.toNat t.toNat ≤ lifetimeSecs then some odcid else none := by
  have hpeer : ∀ rest, (match p with
      | .v4 octets port => parsePeer q 4 (endpointBytes octets.toList port ++ rest)
      | .v6 octets port _ _ => parsePeer q 6 (endpointBytes octets.toList port ++ rest)) =
        if p.SameEndpoint q then some rest else none := by
    intro rest
    cases p with
    | v4 octets port =>
      cases q with
      | v4 octets' port' =>
        show parseEndpoint octets'.toList port' (endpointBytes octets.toList port ++ rest) = _
        rw [parseEndpoint_append _ _ _ _ _ (by simp)]
        exact if_congr (and_congr_left' Vector.toList_inj) rfl rfl
      | v6 => simp [parsePeer, Peer.SameEndpoint]
    | v6 octets port flowinfo scopeId =>
      cases q with
      | v4 => simp [parsePeer, Peer.SameEndpoint]
      | v6 octets' port' =>
        show parseEndpoint octets'.toList port' (endpointBytes octets.toList port ++ rest) = _
        rw [parseEndpoint_append _ _ _ _ _ (by simp)]
        exact if_congr (and_congr_left' Vector.toList_inj) rfl rfl
  have hrest := hpeer (BigEndian.encode 8 t.toNat ++ UInt8.ofNat odcid.length :: odcid)
  have hparse : parseTokenPayload (buildTokenPayload p t odcid) q t' lifetimeSecs =
      (if p.SameEndpoint q then
        some (BigEndian.encode 8 t.toNat ++ UInt8.ofNat odcid.length :: odcid) else none).bind
          (parseOdcid t'.toNat lifetimeSecs) := by
    rw [← hrest]
    cases p <;> simp [buildTokenPayload, parseTokenPayload]
  rw [hparse]
  by_cases hsame : p.SameEndpoint q
  · simp [hsame, parseOdcid_append, hlen]
  · simp [hsame]

theorem parsePeer_eq_none {q : Peer} {family : UInt8} (h4 : family ≠ 4) (h6 : family ≠ 6)
    (rest : Bytes) : parsePeer q family rest = none := by
  cases q with
  | v4 => exact if_neg h4
  | v6 => exact if_neg h6

theorem buildTokenPayload_head (p : Peer) (t : UInt64) (odcid : Bytes) :
    (buildTokenPayload p t odcid).head? = some 4 ∨
      (buildTokenPayload p t odcid).head? = some 6 := by
  cases p with
  | v4 => exact .inl rfl
  | v6 => exact .inr rfl

theorem validateToken_append (hmac : Bytes → Vector UInt8 tagLen) (payload : Bytes) (q : Peer)
    (now : UInt64) : validateToken hmac ((hmac payload).toList ++ payload) q now =
      parseTokenPayload payload q now tokenLifetimeSecs := by
  have htag : (hmac payload).toList.length = tagLen := Vector.length_toList
  unfold validateToken hmacVerify
  rw [List.take_left' htag, List.drop_left' htag]
  simp [htag]

theorem validateToken_tagged {hmac : Bytes → Vector UInt8 tagLen} {token odcid : Bytes} {q : Peer}
    {now : UInt64} (h : validateToken hmac token q now = some odcid) :
    token = (hmac (token.drop tagLen)).toList ++ token.drop tagLen := by
  unfold validateToken at h
  dsimp only at h
  split_ifs at h with hshort htag
  have hverified : hmacVerify hmac (token.drop tagLen) (token.take tagLen) = true := by
    simpa using htag
  unfold hmacVerify at hverified
  split_ifs at hverified
  rw [eq_of_beq hverified, List.take_append_drop]

/-- Tokens are accepted for the endpoint they were minted for and for a minute before and after,
and give back the connection id. Whatever is accepted carries the tag of its own payload, and the
message whose tag becomes the next connection id is no payload. -/
theorem retry_tokens_sound_and_complete (hmac : Bytes → Vector UInt8 tagLen) :
    (∀ (p q : Peer) (t t' : UInt64) (odcid : Bytes), odcid.length ≤ 255 →
      validateToken hmac (mintToken hmac p t odcid) q t' =
        if p.SameEndpoint q ∧ absDiff t'.toNat t.toNat ≤ 60 then some odcid else none) ∧
    (∀ (token odcid : Bytes) (q : Peer) (t' : UInt64), validateToken hmac token q t' = some odcid →
      token = (hmac (token.drop tagLen)).toList ++ token.drop tagLen) ∧
    ∀ (s : DeterministicScidSource) (generate : Bytes → Except Http3NativeError Bytes),
      (s.nextScid hmac generate).1 = generate ((hmac s.nextMessage).toList.take scidLen) ∧
      (∀ p t odcid, s.nextMessage ≠ buildTokenPayload p t odcid) ∧
      ∀ q now lifetimeSecs, parseTokenPayload s.nextMessage q now lifetimeSecs = none := by
  refine ⟨?_, ?_, ?_⟩
  · intro p q t t' odcid hlen
    show validateToken hmac ((hmac (buildTokenPayload p t odcid)).toList ++ _) q t' = _
    rw [validateToken_append]
    exact parseTokenPayload_build p q t t' odcid tokenLifetimeSecs hlen
  · intro token odcid q t' haccepted
    exact validateToken_tagged haccepted
  · intro s generate
    refine ⟨rfl, ?_, ?_⟩
    · intro p t odcid heq
      have hhead : s.nextMessage.head? = some 115 := rfl
      rw [heq] at hhead
      rcases buildTokenPayload_head p t odcid with hfamily | hfamily
      · rw [hfamily] at hhead
        exact absurd hhead (by decide)
      · rw [hfamily] at hhead
        exact absurd hhead (by decide)
    · intro q now lifetimeSecs
      show (parsePeer q 115 _).bind _ = none
      rw [parsePeer_eq_none (by decide) (by decide)]
      rfl

/-- A token a client brings back from the same address half a minute later. -/
theorem retry_tokens_sound_and_complete_brought_back :
    let hmac : Bytes → Vector UInt8 tagLen := fun payload =>
      Vector.replicate tagLen (UInt8.ofNat payload.length)
    let peer : Peer := .v4 #v[192, 0, 2, 1] 4433
    validateToken hmac (mintToken hmac peer 1000 [7, 7]) peer 1030 = some [7, 7] :=
  (retry_tokens_sound_and_complete _).1 _ _ _ _ _ (by decide)

end RetryToken

end Http3
