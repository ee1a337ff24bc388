import Mathlib.Data.List.Basic
import Mathlib.Algebra.GroupWithZero.Nat

/-! Text that arrives as bytes, in pieces: the streaming UTF-8 decoder of the Encoding
Standard, and the lines of a text. -/

namespace TextStream

abbrev Text := List Char

/-- A character of which bytes are still to come: its bits so far, how many bytes are needed,
and the range of the next one. Continuation bytes are never ASCII. -/
structure Utf8Partial where
  codePoint : ℕ
  needed : ℕ
  lower : UInt8
  upper : UInt8
  lower_ge : 0x80 ≤ lower
  deriving DecidableEq

namespace Utf8

def replacement : Char := '\uFFFD'

def lead (b : UInt8) : Text × Option Utf8Partial :=
  if b ≤ 0x7F then ([Char.ofNat b.toNat], none)
  else if 0xC2 ≤ b ∧ b ≤ 0xDF then ([], some ⟨b.toNat % 32, 1, 0x80, 0xBF, by decide⟩)
  else if 0xE0 ≤ b ∧ b ≤ 0xEF then
    ([], some ⟨b.toNat % 16, 2, if b = 0xE0 then 0xA0 else 0x80, if b = 0xED then 0x9F else 0xBF,
      by split_ifs <;> decide⟩)
  else if 0xF0 ≤ b ∧ b ≤ 0xF4 then
    ([], some ⟨b.toNat % 8, 3, if b = 0xF0 then 0x90 else 0x80, if b = 0xF4 then 0x8F else 0xBF,
      by split_ifs <;> decide⟩)
  else ([replacement], none)

/-- One byte. A byte that does not continue the character starts another. -/
def step (p : Option Utf8Partial) (b : UInt8) : Text × Option Utf8Partial :=
  match p with
  | none => lead b
  | some p =>
    if p.lower ≤ b ∧ b ≤ p.upper then
      let codePoint := p.codePoint * 64 + b.toNat % 64
      if p.needed = 1 then ([Char.ofNat codePoint], none)
      else ([], some ⟨codePoint, p.needed - 1, 0x80, 0xBF, by decide⟩)
    else
      let (text, p) := lead b
      (replacement :: text, p)

def decode : Option Utf8Partial → List UInt8 → Text × Option Utf8Partial
  | p, [] => ([], p)
  | p, b :: bs =>
    let (text, p) := step p b
    let (rest, p) := decode p bs
    (text ++ rest, p)

theorem decode_append (p : Option Utf8Partial) (bs cs : List UInt8) :
    decode p (bs ++ cs) =
      ((decode p bs).1 ++ (decode (decode p bs).2 cs).1, (decode (decode p bs).2 cs).2) := by
  induction bs generalizing p with
  | nil => rfl
  | cons b bs ih =>
    rw [List.cons_append, decode, decode]
    dsimp only
    rw [ih, List.append_assoc]

/-- What stands for a character that is broken off. -/
def broken (p : Option Utf8Partial) : Text := if p.isSome then [replacement] else []

theorem step_ascii (p : Option Utf8Partial) {b : UInt8} (hb : b ≤ 0x7F) :
    step p b = (broken p ++ [Char.ofNat b.toNat], none) := by
  have hlead : lead b = ([Char.ofNat b.toNat], none) := if_pos hb
  cases p with
  | none => exact hlead
  | some p =>
    have hout : ¬(p.lower ≤ b ∧ b ≤ p.upper) := by
      rintro ⟨hlower, -⟩
      have hge := p.lower_ge
      rw [UInt8.le_iff_toNat_le] at hb hge hlower
      have h80 : (0x80 : UInt8).toNat = 128 := rfl
      have h7F : (0x7F : UInt8).toNat = 127 := rfl
      omega
    rw [step, if_neg hout, hlead]
    rfl

theorem decode_ascii (p : Option Utf8Partial) {b : UInt8} {bs : List UInt8}
    (h : ∀ c ∈ b :: bs, c ≤ 0x7F) :
    decode p (b :: bs) = (broken p ++ (b :: bs).map fun c => Char.ofNat c.toNat, none) := by
  induction bs generalizing p b with
  | nil =>
    rw [decode, step_ascii p (h b List.mem_cons_self)]
    simp [decode]
  | cons c bs ih =>
    rw [decode, step_ascii p (h b List.mem_cons_self)]
    dsimp only
    rw [ih none fun d hd => h d (List.mem_cons_of_mem b hd)]
    simp [broken]

end Utf8

/-- A decoder that drops a byte order mark at the beginning. -/
structure TextDecoder where
  utf8 : Option Utf8Partial
  bomSeen : Bool
  deriving DecidableEq

namespace TextDecoder

def bom : Char := '\uFEFF'

def new : TextDecoder := ⟨none, false⟩

def decode (d : TextDecoder) (bytes : List UInt8) : Text × TextDecoder :=
  let (text, utf8) := Utf8.decode d.utf8 bytes
  if d.bomSeen then (text, ⟨utf8, true⟩)
  else
    match text with
    | [] => ([], ⟨utf8, false⟩)
    | c :: text => (if c = bom then text else c :: text, ⟨utf8, true⟩)

theorem decode_append (d : TextDecoder) (bs cs : List UInt8) :
    d.decode (bs ++ cs) =
      ((d.decode bs).1 ++ ((d.decode bs).2.decode cs).1, ((d.decode bs).2.decode cs).2) := by
  obtain ⟨utf8, bomSeen⟩ := d
  unfold decode
  dsimp only
  rw [Utf8.decode_append]
  generalize Utf8.decode utf8 bs = answer
  obtain ⟨text, utf8⟩ := answer
  cases bomSeen with
  | true => rfl
  | false =>
    cases text with
    | nil => rfl
    | cons c text =>
      by_cases hbom : c = bom
      · simp [hbom]
      · simp [hbom]

theorem decode_ascii (d : TextDecoder) {b : UInt8} {bs : List UInt8}
    (h : ∀ c ∈ b :: bs, c ≤ 0x7F) (hbom : Char.ofNat b.toNat ≠ bom) :
    (d.decode (b :: bs)).1 = Utf8.broken d.utf8 ++ (b :: bs).map fun c => Char.ofNat c.toNat := by
  obtain ⟨utf8, bomSeen⟩ := d
  unfold decode
  rw [Utf8.decode_ascii utf8 h]
  cases bomSeen with
  | true => rfl
  | false =>
    cases utf8 with
    | none => simp [Utf8.broken, hbom]
    | some p =>
      have hne : Utf8.replacement ≠ bom := by decide
      simp [Utf8.broken, hne]

/-- Two decoders that read the same text off the bytes: they are alike, or one has to watch for a
byte order mark and there is none. -/
def SameText (d d' : TextDecoder) (bytes : List UInt8) : Prop :=
  d.utf8 = d'.utf8 ∧ (d.bomSeen = d'.bomSeen ∨
    d.bomSeen = true ∧ d'.bomSeen = false ∧ (Utf8.decode d.utf8 bytes).1.head? ≠ some bom)

theorem SameText.decode {d d' : TextDecoder} {bs cs : List UInt8} (h : SameText d d' (bs ++ cs)) :
    (d.decode bs).1 = (d'.decode bs).1 ∧ SameText (d.decode bs).2 (d'.decode bs).2 cs := by
  obtain ⟨utf8, bomSeen⟩ := d
  obtain ⟨utf8', bomSeen'⟩ := d'
  obtain ⟨hutf8, hseen⟩ := h
  obtain rfl : utf8 = utf8' := hutf8
  rcases hseen with hseen | ⟨hseen, hfresh, hhead⟩
  · obtain rfl : bomSeen = bomSeen' := hseen
    exact ⟨rfl, rfl, .inl rfl⟩
  · obtain rfl : bomSeen = true := hseen
    obtain rfl : bomSeen' = false := hfresh
    rw [Utf8.decode_append] at hhead
    unfold TextDecoder.decode
    dsimp only at hhead ⊢
    generalize Utf8.decode utf8 bs = answer at hhead ⊢
    obtain ⟨text, utf8⟩ := answer
    cases text with
    | nil => exact ⟨rfl, rfl, .inr ⟨rfl, rfl, hhead⟩⟩
    | cons c text =>
      have hc : c ≠ bom := fun hc => hhead (by simp [hc])
      exact ⟨by simp [hc], rfl, .inl rfl⟩

end TextDecoder

/-- The complete lines of a text, without their ends, and what is left. -/
def splitLines : Text → List Text × Text
  | [] => ([], [])
  | c :: text =>
    if c = '\n' then ([] :: (splitLines text).1, (splitLines text).2)
    else
      match splitLines text with
      | ([], rest) => ([], c :: rest)
      | (line :: lines, rest) => ((c :: line) :: lines, rest)

theorem splitLines_append (text more : Text) :
    splitLines (text ++ more) =
      ((splitLines text).1 ++ (splitLines ((splitLines text).2 ++ more)).1,
        (splitLines ((splitLines text).2 ++ more)).2) := by
  induction text with
  | nil => rfl
  | cons c text ih =>
    rw [List.cons_append, splitLines, splitLines, ih]
    by_cases hc : c = '\n'
    · simp [hc]
    · simp only [hc, if_false]
      generalize splitLines text = split
      obtain ⟨lines, rest⟩ := split
      cases lines with
      | nil => simp [splitLines, hc]
      | cons line lines => simp

theorem splitLines_rest (text : Text) : '\n' ∉ (splitLines text).2 := by
  induction text with
  | nil => exact List.not_mem_nil
  | cons c text ih =>
    rw [splitLines]
    by_cases hc : c = '\n'
    · simpa [hc] using ih
    · simp only [hc, if_false]
      generalize splitLines text = split at ih ⊢
      obtain ⟨lines, rest⟩ := split
      cases lines with
      | nil => simpa [Ne.symm hc] using ih
      | cons line lines => exact ih

theorem splitLines_of_notMem {text : Text} (h : '\n' ∉ text) : splitLines text = ([], text) := by
  induction text with
  | nil => rfl
  | cons c text ih =>
    rw [List.mem_cons, not_or] at h
    rw [splitLines, if_neg (Ne.symm h.1), ih h.2]

theorem splitLines_line {line : Text} (h : '\n' ∉ line) (rest : Text) :
    splitLines (line ++ '\n' :: rest) = (line :: (splitLines rest).1, (splitLines rest).2) := by
  induction line with
  | nil => rw [List.nil_append, splitLines, if_pos rfl]
  | cons c line ih =>
    rw [List.mem_cons, not_or] at h
    rw [List.cons_append, splitLines, if_neg (Ne.symm h.1), ih h.2]

end TextStream
