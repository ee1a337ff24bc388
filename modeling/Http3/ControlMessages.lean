import Http3.Lib.BigEndian
import Http3.PendingWrite

/-! Control messages of a received datagram: the walk stays inside the buffer and finds every
message. -/

namespace Http3

inductive Platform
  | linux
  | macos
  deriving DecidableEq

namespace Platform

/-- Size of `cmsg_len`; on both platforms this is the alignment too. -/
def alignment : Platform → ℕ
  | linux => 8
  | macos => 4

/-- `cmsghdr` is the length, the level and the type. -/
def hdrSize (p : Platform) : ℕ := p.alignment + 8

end Platform

def checkedAdd (a b : ℕ) : Option ℕ := if a + b < 2 ^ 64 then some (a + b) else none

/-- Round up to a power of two, by clearing the low bits. -/
def checkedCmsgAlign (len align : ℕ) : Option ℕ :=
  if align = 0 ∨ align &&& (align - 1) ≠ 0 then none
  else (checkedAdd len (align - 1)).map fun len => len - (len &&& (align - 1))

def cmsgHeaderFits (controlLen offset hdrSize : ℕ) : Bool :=
  (checkedAdd offset hdrSize).any (· ≤ controlLen)

structure CmsgStep where
  dataOffset : ℕ
  nextOffset : ℕ

def cmsgStep (controlLen offset hdrSize cmsgLen align : ℕ) : Option CmsgStep :=
  if cmsgLen = 0 ∨ !cmsgHeaderFits controlLen offset hdrSize then none
  else do
    let dataRelative ← checkedCmsgAlign hdrSize align
    if cmsgLen < dataRelative then none
    else
      let dataOffset ← checkedAdd offset dataRelative
      let alignedLen ← checkedCmsgAlign cmsgLen align
      let nextOffset ← checkedAdd offset alignedLen
      if nextOffset ≤ offset ∨ controlLen < nextOffset then none
      else some ⟨dataOffset, nextOffset⟩

/-- What the walk looks for. -/
inductive CmsgKind
  | ipv6PktInfo
  | ipv6Tclass
  | ipTos
  | ipPktInfo
  | ipRecvDstAddr
  | udpGro
  | other
  deriving DecidableEq

/-- Levels and types as the platform numbers them; 41 is `IPPROTO_IPV6`, 0 `IPPROTO_IP` and 17
`SOL_UDP`. -/
def CmsgKind.of : Platform → ℕ → ℕ → CmsgKind
  | .linux, 41, 50 => ipv6PktInfo
  | .linux, 41, 67 => ipv6Tclass
  | .linux, 0, 1 => ipTos
  | .linux, 0, 8 => ipPktInfo
  | .linux, 17, 104 => udpGro
  | .macos, 41, 46 => ipv6PktInfo
  | .macos, 41, 36 => ipv6Tclass
  | .macos, 0, 3 => ipTos
  | .macos, 0, 27 => ipTos
  | .macos, 0, 7 => ipRecvDstAddr
  | _, _, _ => other

def CmsgKind.size : CmsgKind → ℕ
  | ipv6PktInfo => 20
  | ipv6Tclass => 4
  | ipTos => 1
  | ipPktInfo => 12
  | ipRecvDstAddr => 4
  | udpGro => 2
  | other => 0

inductive IpAddr
  | v4 (octets : Bytes)
  | v6 (octets : Bytes)
  deriving DecidableEq

def littleEndian (bytes : Bytes) : ℕ := BigEndian.decode bytes.reverse

structure CmsgHdr where
  cmsgLen : ℕ
  cmsgLevel : ℕ
  cmsgType : ℕ
  deriving DecidableEq

/-- Not part of the program are `visited`, the headers of the messages looked at, and `reads`,
offset and size of every read of the buffer. -/
structure ParsedRecvCmsgs where
  localIp : Option IpAddr
  tos : Option UInt8
  segmentSize : Option ℕ
  visited : List CmsgHdr
  reads : List (ℕ × ℕ)
  deriving DecidableEq

def CmsgKind.localIp (data : Bytes) : CmsgKind → Option IpAddr
  | ipv6PktInfo => some (.v6 (data.take 16))
  | ipPktInfo => some (.v4 ((data.drop 4).take 4))
  | ipRecvDstAddr => some (.v4 data)
  | _ => none

def CmsgKind.tos (data : Bytes) : CmsgKind → Option UInt8
  | ipv6Tclass => some (UInt8.ofNat (littleEndian data))
  | ipTos => data.head?
  | _ => none

def CmsgKind.segmentSize (data : Bytes) : CmsgKind → Option ℕ
  | udpGro => some (littleEndian data)
  | _ => none

namespace ParsedRecvCmsgs

def default : ParsedRecvCmsgs := ⟨none, none, none, [], []⟩

def noteRead (out : ParsedRecvCmsgs) (offset size : ℕ) : ParsedRecvCmsgs :=
  { out with reads := out.reads ++ [(offset, size)] }

/-- Payload `data` of a message. -/
def note (out : ParsedRecvCmsgs) (hdr : CmsgHdr) (kind : CmsgKind) (data : Bytes) :
    ParsedRecvCmsgs :=
  { out with
    localIp := (kind.localIp data).or out.localIp
    tos := (kind.tos data).or out.tos
    segmentSize := (kind.segmentSize data).or out.segmentSize
    visited := out.visited ++ [hdr] }

end ParsedRecvCmsgs

variable (p : Platform)

def readHdr (control : Bytes) (offset : ℕ) : CmsgHdr :=
  let at' := control.drop offset
  ⟨littleEndian (at'.take p.alignment), littleEndian ((at'.drop p.alignment).take 4),
    littleEndian ((at'.drop (p.alignment + 4)).take 4)⟩

/-- Turns of the loop; the walk ends where it returns. -/
def parseFrom (control : Bytes) : ℕ → ℕ → ParsedRecvCmsgs → Option ParsedRecvCmsgs
  | 0, _, _ => none
  | fuel + 1, offset, out =>
    if cmsgHeaderFits control.length offset p.hdrSize then
      let hdr := readHdr p control offset
      let out := out.noteRead offset p.hdrSize
      if hdr.cmsgLen = 0 then some out
      else
        match cmsgStep control.length offset p.hdrSize hdr.cmsgLen p.alignment with
        | none => some out
        | some step =>
          let kind := CmsgKind.of p hdr.cmsgLevel hdr.cmsgType
          let out :=
            if kind ≠ .other ∧ step.dataOffset + kind.size ≤ control.length then
              (out.noteRead step.dataOffset kind.size).note hdr kind
                ((control.drop step.dataOffset).take kind.size)
            else out.note hdr .other []
          parseFrom control fuel step.nextOffset out
    else some out

def parseRecvCmsgs (control : Bytes) : Option ParsedRecvCmsgs :=
  parseFrom p control (control.length + 1) 0 .default

variable {p}

theorem checkedAdd_of_lt {a b : ℕ} (h : a + b < 2 ^ 64) : checkedAdd a b = some (a + b) := if_pos h

theorem cmsgHeaderFits_le {controlLen offset hdrSize : ℕ}
    (h : cmsgHeaderFits controlLen offset hdrSize = true) : offset + hdrSize ≤ controlLen := by
  unfold cmsgHeaderFits checkedAdd at h
  split_ifs at h
  · simpa using h
  · cases h

theorem cmsgStep_next {controlLen offset hdrSize cmsgLen align : ℕ} {step : CmsgStep}
    (h : cmsgStep controlLen offset hdrSize cmsgLen align = some step) :
    offset < step.nextOffset ∧ step.nextOffset ≤ controlLen := by
  unfold cmsgStep at h
  split_ifs at h
  obtain ⟨_, -, h⟩ := Option.bind_eq_some_iff.1 h
  split_ifs at h
  obtain ⟨_, -, h⟩ := Option.bind_eq_some_iff.1 h
  obtain ⟨_, -, h⟩ := Option.bind_eq_some_iff.1 h
  obtain ⟨_, -, h⟩ := Option.bind_eq_some_iff.1 h
  split_ifs at h
  cases h
  dsimp only
  omega

def ParsedRecvCmsgs.ReadsWithin (out : ParsedRecvCmsgs) (control : Bytes) : Prop :=
  ∀ r ∈ out.reads, r.1 + r.2 ≤ control.length

theorem ParsedRecvCmsgs.ReadsWithin.noteRead {out : ParsedRecvCmsgs} {control : Bytes}
    {offset size : ℕ} (h : out.ReadsWithin control) (hle : offset + size ≤ control.length) :
    (out.noteRead offset size).ReadsWithin control := by
  intro r hr
  obtain hr | hr := List.mem_append.1 hr
  · exact h r hr
  · rw [List.mem_singleton.1 hr]
    exact hle

theorem parseFrom_within {control : Bytes} {fuel offset : ℕ} {out : ParsedRecvCmsgs}
    (hfuel : control.length < offset + fuel) (hoffset : offset ≤ control.length)
    (hout : out.ReadsWithin control) :
    ∃ result, parseFrom p control fuel offset out = some result ∧ result.ReadsWithin control := by
  induction fuel generalizing offset out with
  | zero => omega
  | succ fuel ih =>
    unfold parseFrom
    by_cases hfits : cmsgHeaderFits control.length offset p.hdrSize = true
    · have hread := hout.noteRead (cmsgHeaderFits_le hfits)
      rw [if_pos hfits]
      dsimp only
      generalize readHdr p control offset = hdr
      by_cases hzero : hdr.cmsgLen = 0
      · rw [if_pos hzero]
        exact ⟨_, rfl, hread⟩
      · rw [if_neg hzero]
        cases hstep : cmsgStep control.length offset p.hdrSize hdr.cmsgLen p.alignment with
        | none => exact ⟨_, rfl, hread⟩
        | some step =>
          obtain ⟨hlt, hle⟩ := cmsgStep_next hstep
          apply ih (by omega) hle
          split_ifs with hdata
          · exact hread.noteRead hdata.2
          · exact hread
    · rw [if_neg hfits]
      exact ⟨out, rfl, hout⟩

def toLittleEndian (width value : ℕ) : Bytes := (BigEndian.encode width value).reverse

theorem littleEndian_toLittleEndian {width value : ℕ} (h : value < 256 ^ width) :
    littleEndian (toLittleEndian width value) = value := by
  unfold littleEndian toLittleEndian
  rw [List.reverse_reverse, BigEndian.decode_encode_of_lt h]

@[simp] theorem length_toLittleEndian (width value : ℕ) :
    (toLittleEndian width value).length = width := by
  simp [toLittleEndian]

variable (p) in
/-- A complete message, padded to the alignment. -/
structure Cmsg where
  level : ℕ
  type : ℕ
  payload : Bytes
  padding : Bytes
  level_lt : level < 256 ^ 4
  type_lt : type < 256 ^ 4
  len_lt : p.hdrSize + payload.length < 256 ^ p.alignment
  size_le : (CmsgKind.of p level type).size ≤ payload.length
  padding_lt : padding.length < p.alignment
  padded : (p.hdrSize + payload.length + padding.length) % p.alignment = 0

namespace Cmsg

variable (m : Cmsg p)

def hdr : CmsgHdr := ⟨p.hdrSize + m.payload.length, m.level, m.type⟩

def kind : CmsgKind := CmsgKind.of p m.level m.type

def data : Bytes := m.payload.take m.kind.size

def bytes : Bytes :=
  toLittleEndian p.alignment (p.hdrSize + m.payload.length) ++ (toLittleEndian 4 m.level ++
    (toLittleEndian 4 m.type ++ (m.payload ++ m.padding)))

theorem length_bytes :
    m.bytes.length = p.hdrSize + m.payload.length + m.padding.length := by
  simp only [bytes, length_toLittleEndian, List.length_append, Platform.hdrSize]
  omega

end Cmsg

section Messages

variable {before rest : Bytes} (m : Cmsg p)

theorem readHdr_message : readHdr p (before ++ (m.bytes ++ rest)) before.length = m.hdr := by
  unfold readHdr Cmsg.hdr Cmsg.bytes
  rw [List.drop_left]
  simp only [List.append_assoc, ← List.drop_drop, List.take_left' (length_toLittleEndian _ _),
    List.drop_left' (length_toLittleEndian _ _), littleEndian_toLittleEndian m.len_lt,
    littleEndian_toLittleEndian m.level_lt, littleEndian_toLittleEndian m.type_lt]

theorem data_message : ((before ++ (m.bytes ++ rest)).drop (before.length + p.hdrSize)).take
    m.kind.size = m.data := by
  have hhdr : p.hdrSize = p.alignment + (4 + 4) := rfl
  rw [← List.drop_drop, List.drop_left, hhdr]
  unfold Cmsg.bytes
  simp only [List.append_assoc, ← List.drop_drop, List.drop_left' (length_toLittleEndian _ _)]
  exact List.take_append_of_le_length m.size_le

theorem checkedCmsgAlign_eq {n k : ℕ} (hmod : (n + k) % p.alignment = 0) (hlt : k < p.alignment)
    (hbound : n + 8 < 2 ^ 64) : checkedCmsgAlign n p.alignment = some (n + k) := by
  have hpower : ¬(p.alignment = 0 ∨ p.alignment &&& (p.alignment - 1) ≠ 0) := by
    cases p <;> decide
  have hbits (n : ℕ) : n &&& (p.alignment - 1) = n % p.alignment := by
    cases p with
    | linux => exact Nat.and_two_pow_sub_one_eq_mod n 3
    | macos => exact Nat.and_two_pow_sub_one_eq_mod n 2
  have hle : p.alignment ≤ 8 := by cases p <;> decide
  have hround : n + (p.alignment - 1) - (n + (p.alignment - 1)) % p.alignment = n + k := by
    cases p <;> simp only [Platform.alignment] at hmod hlt ⊢ <;> omega
  unfold checkedCmsgAlign
  rw [if_neg hpower, checkedAdd_of_lt (by omega), Option.map_some, hbits, hround]

theorem cmsgStep_message (hbound : (before ++ (m.bytes ++ rest)).length < 2 ^ 63) :
    cmsgHeaderFits (before ++ (m.bytes ++ rest)).length before.length p.hdrSize = true ∧
    cmsgStep (before ++ (m.bytes ++ rest)).length before.length p.hdrSize m.hdr.cmsgLen
      p.alignment = some ⟨before.length + p.hdrSize, before.length + m.bytes.length⟩ := by
  have hlen := m.length_bytes
  simp only [List.length_append] at hbound ⊢
  have hhdr : checkedCmsgAlign p.hdrSize p.alignment = some p.hdrSize := by
    cases p <;> rfl
  have hfits : cmsgHeaderFits (before.length + (m.bytes.length + rest.length)) before.length
      p.hdrSize = true := by
    unfold cmsgHeaderFits
    rw [checkedAdd_of_lt (by omega)]
    simp only [Option.any_some, decide_eq_true_eq]
    omega
  have haligned := checkedCmsgAlign_eq m.padded m.padding_lt (by omega)
  have hpos : 0 < p.hdrSize := Nat.succ_pos _
  refine ⟨hfits, ?_⟩
  unfold cmsgStep Cmsg.hdr
  rw [if_neg (by simp only [hfits]; simp; omega)]
  simp only [hhdr, haligned, Option.bind_eq_bind, Option.bind_some]
  rw [if_neg (by omega), checkedAdd_of_lt (by omega), checkedAdd_of_lt (by omega)]
  simp only [Option.bind_some]
  rw [if_neg (by omega), hlen]

def ParsedRecvCmsgs.fields (out : ParsedRecvCmsgs) : ParsedRecvCmsgs := { out with reads := [] }

def ParsedRecvCmsgs.withMessage (out : ParsedRecvCmsgs) (m : Cmsg p) : ParsedRecvCmsgs :=
  out.note m.hdr m.kind m.data

theorem parseFrom_messages {messages : List (Cmsg p)} {fuel : ℕ} {out result : ParsedRecvCmsgs}
    (hbound : (before ++ messages.flatMap Cmsg.bytes).length < 2 ^ 63)
    (hresult : parseFrom p (before ++ messages.flatMap Cmsg.bytes) fuel before.length out =
      some result) : result.fields = messages.foldl ParsedRecvCmsgs.withMessage out.fields := by
  induction messages generalizing before fuel out with
  | nil =>
    cases fuel with
    | zero => cases hresult
    | succ fuel =>
      have hend : ¬cmsgHeaderFits (before ++ []).length before.length p.hdrSize = true := by
        intro hfits
        have hle := cmsgHeaderFits_le hfits
        have hpos : 0 < p.hdrSize := Nat.succ_pos _
        rw [List.append_nil] at hle
        omega
      unfold parseFrom at hresult
      rw [List.flatMap_nil, if_neg hend] at hresult
      cases hresult
      rfl
  | cons m messages ih =>
    cases fuel with
    | zero => cases hresult
    | succ fuel =>
      rw [List.flatMap_cons] at hbound hresult
      obtain ⟨hfits, hstep⟩ := cmsgStep_message m hbound
      have hlen : m.hdr.cmsgLen ≠ 0 := (Nat.add_pos_left (Nat.succ_pos _) _).ne'
      have hin : before.length + p.hdrSize + m.kind.size ≤
          (before ++ (m.bytes ++ messages.flatMap Cmsg.bytes)).length := by
        have hsize : m.kind.size ≤ m.payload.length := m.size_le
        have hbytes := m.length_bytes
        simp only [List.length_append]
        omega
      have hrest : before ++ (m.bytes ++ messages.flatMap Cmsg.bytes) =
          before ++ m.bytes ++ messages.flatMap Cmsg.bytes := (List.append_assoc _ _ _).symm
      unfold parseFrom at hresult
      rw [if_pos hfits] at hresult
      have hkind : CmsgKind.of p m.hdr.cmsgLevel m.hdr.cmsgType = m.kind := rfl
      simp only [readHdr_message, if_neg hlen, hstep, hkind, data_message, hin, and_true]
        at hresult
      rw [hrest] at hbound hresult
      rw [← List.length_append] at hresult
      refine (ih hbound hresult).trans ?_
      by_cases hother : m.kind = .other
      · have hdata : m.data = [] := by
          unfold Cmsg.data
          rw [hother]
          rfl
        rw [if_neg (not_not.2 hother), List.foldl_cons, ParsedRecvCmsgs.withMessage, hother, hdata]
        rfl
      · rw [if_pos hother]
        rfl

theorem foldl_or {α β : Type} (f : α → Option β) (messages : List α) (o : Option β) :
    messages.foldl (fun o m => (f m).or o) o = (messages.filterMap f).getLast?.or o := by
  induction messages generalizing o with
  | nil => rfl
  | cons m messages ih =>
    rw [List.foldl_cons, ih]
    cases hm : f m with
    | none => rw [List.filterMap_cons_none hm, Option.none_or]
    | some b =>
      rw [List.filterMap_cons_some hm, List.getLast?_cons]
      cases (messages.filterMap f).getLast? <;> rfl

/-- The messages of a buffer and nothing else, in their order. -/
structure ParsedRecvCmsgs.Reports (out : ParsedRecvCmsgs) (messages : List (Cmsg p)) : Prop where
  visited : out.visited = messages.map Cmsg.hdr
  localIp : out.localIp = (messages.filterMap fun m => m.kind.localIp m.data).getLast?
  tos : out.tos = (messages.filterMap fun m => m.kind.tos m.data).getLast?
  segmentSize : out.segmentSize = (messages.filterMap fun m => m.kind.segmentSize m.data).getLast?

theorem foldl_withMessage (messages : List (Cmsg p)) (out : ParsedRecvCmsgs) :
    messages.foldl ParsedRecvCmsgs.withMessage out =
      ⟨messages.foldl (fun o m => (m.kind.localIp m.data).or o) out.localIp,
        messages.foldl (fun o m => (m.kind.tos m.data).or o) out.tos,
        messages.foldl (fun o m => (m.kind.segmentSize m.data).or o) out.segmentSize,
        out.visited ++ messages.map Cmsg.hdr, out.reads⟩ := by
  induction messages generalizing out with
  | nil => simp
  | cons m messages ih =>
    rw [List.foldl_cons, ih]
    simp [ParsedRecvCmsgs.withMessage, ParsedRecvCmsgs.note]

variable (p) in
/-- The walk ends and reads nothing outside of the buffer; a buffer of complete messages, which
is shorter than `isize::MAX` as every slice is, is reported message by message. -/
theorem control_messages_parsed (control : Bytes) :
    ∃ out, parseRecvCmsgs p control = some out ∧ out.ReadsWithin control ∧
      ∀ messages : List (Cmsg p), control = messages.flatMap Cmsg.bytes →
        control.length < 2 ^ 63 → out.Reports messages := by
  have hnone : ParsedRecvCmsgs.default.ReadsWithin control :=
    fun r hr => absurd hr List.not_mem_nil
  have hfuel : control.length < 0 + (control.length + 1) := by omega
  obtain ⟨out, hout, hwithin⟩ := parseFrom_within (p := p) hfuel (Nat.zero_le _) hnone
  refine ⟨out, hout, hwithin, ?_⟩
  rintro messages rfl hbound
  have hnil : ([] ++ messages.flatMap Cmsg.bytes).length < 2 ^ 63 := hbound
  have hfields := parseFrom_messages hnil hout
  rw [foldl_withMessage, foldl_or, foldl_or, foldl_or] at hfields
  constructor
  · exact congrArg ParsedRecvCmsgs.visited hfields
  · exact (congrArg ParsedRecvCmsgs.localIp hfields).trans Option.or_none
  · exact (congrArg ParsedRecvCmsgs.tos hfields).trans Option.or_none
  · exact (congrArg ParsedRecvCmsgs.segmentSize hfields).trans Option.or_none

def tosThenTclass : List (Cmsg .linux) :=
  [⟨0, 1, [2], List.replicate 7 0, by decide, by decide, by decide, by decide, by decide,
      by decide⟩,
    ⟨41, 67, [1, 0, 0, 0], List.replicate 4 9, by decide, by decide, by decide, by decide,
      by decide, by decide⟩]

theorem control_messages_parsed_tosThenTclass :
    ∃ out, parseRecvCmsgs .linux (tosThenTclass.flatMap Cmsg.bytes) = some out ∧
      out.tos = some 1 := by
  obtain ⟨out, hout, -, hreports⟩ :=
    control_messages_parsed .linux (tosThenTclass.flatMap Cmsg.bytes)
  exact ⟨out, hout, (hreports tosThenTclass rfl (by decide)).tos.trans (by decide)⟩

end Messages

end Http3
