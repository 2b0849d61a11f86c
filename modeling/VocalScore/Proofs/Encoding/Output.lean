import Mathlib.Data.List.Basic
import VocalScore.Encoding.Codec

/-!
# The encoding in which text is written

UTF-16 and `replacement` are read but never written: their text is written as UTF-8, where
reading it again in the encoding that was asked for gives other characters. In every other
encoding text of plain ASCII is its own bytes and comes back.

## Key results

- `encode_of_plain`: plain text has the same bytes in every encoding
- `decode_output_encode`: text is read back in the encoding in which it was written
- `le_of_mem_decode_encode`: text that was asked for in an encoding that is never written is read
  back without any character of ASCII
-/

namespace VocalScore

/-! ### Single encodings -/

/-- The code of an ASCII character fits in a byte. -/
theorem toNat_ofNat_ascii {c : Char} (h : c.toNat < 0x80) :
    (UInt8.ofNat c.toNat).toNat = c.toNat := by
  simp only [UInt8.toNat_ofNat']
  omega

namespace Utf8

/-- UTF-8 writes an ASCII character as its code. -/
theorem encodeChar_of_ascii {c : Char} (h : c.toNat < 0x80) :
    encodeChar c = [UInt8.ofNat c.toNat] := by
  simp [encodeChar, h]

/-- Only the null character has a null byte. -/
theorem ne_zero_of_mem_encodeChar {c : Char} (hc : c ≠ '\x00') {b : UInt8}
    (hb : b ∈ encodeChar c) : b ≠ 0 := by
  have hpos : c.toNat ≠ 0 := by
    intro h
    exact hc (by rw [← Char.ofNat_toNat c, h])
  have hmax : c.toNat < 0x110000 := by
    rcases c.valid with h | ⟨-, h⟩
    · exact Nat.lt_trans h (by decide)
    · exact h
  -- Every byte of a sequence has its top bit set, but for that of an ASCII character.
  have hbyte : ∀ m, 0 < m → m < 256 → UInt8.ofNat m ≠ 0 := by
    intro m h0 h256 h
    have hm : (UInt8.ofNat m).toNat = 0 := congrArg UInt8.toNat h
    rw [UInt8.toNat_ofNat'] at hm
    omega
  rw [encodeChar] at hb
  -- One case for each length.
  split at hb
  · rw [List.mem_singleton.1 hb]
    exact hbyte _ (by omega) (by omega)
  · split at hb
    · simp only [List.mem_cons, List.not_mem_nil, or_false] at hb
      rcases hb with rfl | rfl <;> exact hbyte _ (by omega) (by omega)
    · split at hb
      · simp only [List.mem_cons, List.not_mem_nil, or_false] at hb
        rcases hb with rfl | rfl | rfl <;> exact hbyte _ (by omega) (by omega)
      · simp only [List.mem_cons, List.not_mem_nil, or_false] at hb
        rcases hb with rfl | rfl | rfl | rfl <;> exact hbyte _ (by omega) (by omega)

end Utf8

namespace ShiftJis

/-- Shift_JIS reads ASCII bytes as themselves. -/
theorem decode_of_ascii {s : List Char} (h : ∀ c ∈ s, c.toNat < 0x80) :
    decode (s.map fun c => UInt8.ofNat c.toNat) = s := by
  induction s with
  | nil => rfl
  | cons c s ih =>
    have hc := h c List.mem_cons_self
    have ih := ih fun d hd => h d (List.mem_cons_of_mem c hd)
    have hstart : step none c.toNat = ([c], none) := by
      rw [step, start, if_pos (by omega), Char.ofNat_toNat]
    rw [List.map_cons, decode, decodeFrom, toNat_ofNat_ascii hc, hstart]
    exact congrArg (c :: ·) ih

end ShiftJis

namespace Iso2022Jp

/-- ISO-2022-JP reads ASCII bytes as themselves, but for the three that shift or escape. -/
theorem decode_of_ascii {s : List Char} (h : ∀ c ∈ s, c.toNat < 0x80 ∧ isShift c.toNat = false) :
    decode (s.map fun c => UInt8.ofNat c.toNat) = s := by
  induction s with
  | nil => rfl
  | cons c s ih =>
    obtain ⟨hc, hshift⟩ := h c List.mem_cons_self
    have ih := ih fun d hd => h d (List.mem_cons_of_mem c hd)
    -- The escape is one of the shifts, so no byte leaves the initial state.
    have hescape : c.toNat ≠ escape := by
      intro he
      rw [he] at hshift
      exact absurd hshift (by decide)
    have hstep : step {} c.toNat = ([c], {}) := by
      simp [step, readByte, hescape, single?, hc, hshift]
    rw [List.map_cons, decode, decodeFrom, toNat_ofNat_ascii hc, hstep]
    exact congrArg (c :: ·) ih

end Iso2022Jp

namespace Utf16

/-- A valid code is the code of its character. -/
theorem toNat_ofNat_of_valid {n : Nat} (h : n.isValidChar) : (Char.ofNat n).toNat = n := by
  rw [Char.ofNat, dif_pos h]
  rfl

/-- What a first unit leaves pending is a high surrogate. -/
theorem isHigh_start {u v : Nat} (h : (start u).2 = some v) : isHigh v = true := by
  rw [start] at h
  split at h
  next hu =>
    cases h
    exact hu
  · split at h <;> cases h

/-- A first unit from U+0100 on gives characters from U+0100 on. -/
theorem le_of_mem_start {u : Nat} (hlo : 0x100 ≤ u) (hhi : u < 0x10000) {c : Char}
    (hc : c ∈ (start u).1) : 0x100 ≤ c.toNat := by
  rw [start] at hc
  split at hc
  · cases hc
  next hhigh =>
    split at hc
    · rw [List.mem_singleton.1 hc]
      decide
    next hlow =>
      rw [List.mem_singleton.1 hc, toNat_ofNat_of_valid]
      · exact hlo
      · -- Neither half of a pair: the unit is the code of a character.
        simp [isHigh] at hhigh
        simp [isLow] at hlow
        rw [Nat.isValidChar]
        omega

/-- A unit beyond one byte is read as characters beyond one byte. -/
theorem le_of_mem_step {p : Option Nat} (hp : ∀ v, p = some v → isHigh v = true) {u : Nat}
    (hlo : 0x100 ≤ u) (hhi : u < 0x10000) {c : Char} (hc : c ∈ (step p u).1) :
    0x100 ≤ c.toNat := by
  cases p with
  | none => exact le_of_mem_start hlo hhi hc
  | some v =>
    have hv := hp v rfl
    rw [step] at hc
    split at hc
    -- A pair of surrogates stands for a code above U+FFFF.
    next hlow =>
      simp [isHigh] at hv
      simp [isLow] at hlow
      rw [List.mem_singleton.1 hc, toNat_ofNat_of_valid]
      · omega
      · rw [Nat.isValidChar]
        omega
    · rcases List.mem_cons.1 hc with rfl | hc
      · decide
      · exact le_of_mem_start hlo hhi hc

/-- What any unit leaves pending is a high surrogate. -/
theorem isHigh_step {p : Option Nat} {u v : Nat} (h : (step p u).2 = some v) :
    isHigh v = true := by
  cases p with
  | none => exact isHigh_start h
  | some w =>
    rw [step] at h
    split at h
    · cases h
    · exact isHigh_start h

/-- Two bytes that are not zero make a unit from U+0100 on, in either order. -/
theorem unit_bounds (order : Order) {a b : UInt8} (ha : a ≠ 0) (hb : b ≠ 0) :
    0x100 ≤ unit order a b ∧ unit order a b < 0x10000 := by
  have hpos : ∀ x : UInt8, x ≠ 0 → 0 < x.toNat := by
    intro x hx
    exact Nat.pos_of_ne_zero fun h => hx (UInt8.toNat_inj.1 h)
  have ha0 := hpos a ha
  have hb0 := hpos b hb
  have ha1 := a.toNat_lt
  have hb1 := b.toNat_lt
  cases order <;> simp only [unit] <;> omega

/-- Bytes without a null are read as characters beyond one byte. -/
theorem le_of_mem_decodeFrom (order : Order) {p : Option Nat} {bytes : List UInt8}
    (hp : ∀ v, p = some v → isHigh v = true) (h : ∀ b ∈ bytes, b ≠ 0) {c : Char}
    (hc : c ∈ decodeFrom order p bytes) : 0x100 ≤ c.toNat := by
  induction p, bytes using decodeFrom.induct order with
  | case1 => cases hc
  | case2 v =>
    rw [List.mem_singleton.1 hc]
    decide
  -- An odd byte at the end is replaced.
  | case3 p b =>
    have hone : decodeFrom order p [b] = [Utf8.replacement] := by cases p <;> rfl
    rw [hone, List.mem_singleton] at hc
    rw [hc]
    decide
  | case4 p a b r cs next hstep ih =>
    obtain ⟨hlo, hhi⟩ := unit_bounds order (h a (by simp)) (h b (by simp))
    have hcons : decodeFrom order p (a :: b :: r) = cs ++ decodeFrom order next r := by
      cases p <;> rw [decodeFrom, hstep]
    rw [hcons, List.mem_append] at hc
    rcases hc with hc | hc
    · exact le_of_mem_step hp hlo hhi (by rw [hstep]; exact hc)
    · refine ih (fun v hv => ?_) (fun d hd => h d (by simp [hd])) hc
      exact isHigh_step (p := p) (u := unit order a b) (by rw [hstep]; exact hv)

end Utf16

namespace Encoding

/-- The encoding in which text is written: UTF-8 for those that are only ever read. -/
def output : Encoding → Encoding
  | .utf16le | .utf16be | .replacement => .utf8
  | e => e

/-- A character of ASCII that no encoding takes for a switch of character sets. -/
def isPlain (c : Char) : Bool := c.toNat < 0x80 && !Iso2022Jp.isShift c.toNat

/-- A character that an encoding gives back. -/
def Carries (e : Encoding) (c : Char) : Prop := e.output = .utf8 ∨ isPlain c = true

/-- Every encoding but ISO-2022-JP writes an ASCII character as its code. -/
theorem encodeChar?_of_ascii {e : Encoding} (he : e ≠ .iso2022Jp) {c : Char}
    (hc : c.toNat < 0x80) : encodeChar? e c = some [UInt8.ofNat c.toNat] := by
  have hle : c.toNat ≤ 0x80 := Nat.le_of_lt hc
  cases e <;>
    simp_all [encodeChar?, Utf8.encodeChar_of_ascii, ShiftJis.encodeChar?, SingleByte.write1252?,
      SingleByte.writeUserDefined?, SingleByte.writeAscii?]

/-- Plain text has the same bytes in every encoding. -/
theorem encode_of_plain (e : Encoding) {s : List Char} (h : ∀ c ∈ s, isPlain c = true) :
    e.encode s = s.map fun c => UInt8.ofNat c.toNat := by
  have hplain : ∀ c ∈ s, c.toNat < 0x80 ∧ Iso2022Jp.isShift c.toNat = false := by
    simpa [isPlain] using h
  by_cases he : e = .iso2022Jp
  · rw [he]
    exact Iso2022Jp.encode_of_ascii hplain
  · -- All other encodings write characters one by one.
    have hencode : e.encode s = s.flatMap fun c => (encodeChar? e c).getD (substitute c) := by
      rw [encode]
      exact he
    rw [hencode, List.map_eq_flatMap]
    refine List.flatMap_congr fun c hc => ?_
    rw [encodeChar?_of_ascii he (hplain c hc).1]
    rfl

/-- An encoding whose output is UTF-8 writes UTF-8. -/
theorem encode_of_output_utf8 {e : Encoding} (he : e.output = .utf8) (s : List Char) :
    e.encode s = Utf8.encode s := by
  cases e <;> simp_all [output, encode, encodeChar?, Utf8.encode]

/-- Plain bytes are read back as they are in an encoding other than UTF-8 that is written. -/
theorem decode_of_plain {e : Encoding} (he : e.output ≠ .utf8) {s : List Char}
    (h : ∀ c ∈ s, isPlain c = true) : e.decode (s.map fun c => UInt8.ofNat c.toNat) = s := by
  have hplain : ∀ c ∈ s, c.toNat < 0x80 ∧ Iso2022Jp.isShift c.toNat = false := by
    simpa [isPlain] using h
  -- The encodings of single bytes only differ from `0x80` on.
  have hmap : ∀ read : UInt8 → Char, (∀ c, c.toNat < 0x80 → read (UInt8.ofNat c.toNat) = c) →
      (s.map fun c => UInt8.ofNat c.toNat).map read = s := by
    intro read hread
    calc (s.map fun c => UInt8.ofNat c.toNat).map read
        = s.map (read ∘ fun c => UInt8.ofNat c.toNat) := List.map_map
      _ = s.map id := List.map_congr_left fun c hc => hread c (hplain c hc).1
      _ = s := List.map_id s
  have h1252 := hmap SingleByte.read1252 fun c hc => by
    simp [SingleByte.read1252, toNat_ofNat_ascii hc, Nat.not_le.2 hc, Char.ofNat_toNat]
  have huser := hmap SingleByte.readUserDefined fun c hc => by
    simp [SingleByte.readUserDefined, toNat_ofNat_ascii hc, hc, Char.ofNat_toNat]
  have hascii := hmap SingleByte.readAscii fun c hc => by
    simp [SingleByte.readAscii, toNat_ofNat_ascii hc, hc, Char.ofNat_toNat]
  have hshift := ShiftJis.decode_of_ascii fun c hc => (hplain c hc).1
  have hiso := Iso2022Jp.decode_of_ascii hplain
  cases e with
  | utf8 | utf16le | utf16be | replacement => exact absurd rfl he
  | shiftJis => exact hshift
  | iso2022Jp => exact hiso
  | windows1252 => exact h1252
  | userDefined => exact huser
  | _ => exact hascii

/-- Text that does not start with a mark is written without one. -/
theorem dropBytes_encode {s : List Char} (hmark : s.head? ≠ some '\uFEFF') :
    dropBytes (mark .utf8) (Utf8.encode s) = Utf8.encode s := by
  rw [dropBytes, if_neg]
  intro hmem
  obtain ⟨r, hr⟩ := List.isPrefixOf_iff_prefix.1 hmem
  -- Bytes that start with the mark decode to a text that starts with it.
  have hs : s = '\uFEFF' :: Utf8.decode r := by
    rw [← Utf8.decode_encode s, ← hr]
    exact Utf8.decode_encode_append ['\uFEFF'] r
  rw [hs] at hmark
  exact hmark rfl

/-- Text is read back in the encoding in which it was written, if it does not start with a mark. -/
theorem decode_output_encode {e : Encoding} {s : List Char} (hmark : s.head? ≠ some '\uFEFF')
    (h : ∀ c ∈ s, e.Carries c) : e.output.decode (e.encode s) = s := by
  by_cases he : e.output = .utf8
  · rw [encode_of_output_utf8 he, he, decode, dropBytes_encode hmark]
    exact Utf8.decode_encode s
  · have hplain : ∀ c ∈ s, isPlain c = true := fun c hc => (h c hc).resolve_left he
    have houtput : e.output = e := by cases e <;> first | rfl | exact absurd rfl he
    rw [houtput, encode_of_plain e hplain, decode_of_plain he hplain]

/-- Bytes that are left without the mark were there with it. -/
theorem mem_of_mem_dropBytes {m bytes : List UInt8} {b : UInt8} (h : b ∈ dropBytes m bytes) :
    b ∈ bytes := by
  rw [dropBytes] at h
  split at h
  · exact List.mem_of_mem_drop h
  · exact h

/-- Text that was asked for in an encoding that is never written is read back without any
character of one byte. -/
theorem le_of_mem_decode_encode {e : Encoding} (he : e.output ≠ e) {s : List Char}
    (hnull : '\x00' ∉ s) {c : Char} (hc : c ∈ e.decode (e.encode s)) : 0x100 ≤ c.toNat := by
  have hoctet : e.output = .utf8 := by cases e <;> first | rfl | exact absurd rfl he
  have hbytes : ∀ b ∈ dropBytes e.mark (e.encode s), b ≠ 0 := by
    intro b hb
    rw [encode_of_output_utf8 hoctet] at hb
    obtain ⟨d, hd, hb⟩ := List.mem_flatMap.1 (mem_of_mem_dropBytes hb)
    exact Utf8.ne_zero_of_mem_encodeChar (fun h => hnull (h ▸ hd)) hb
  -- The three encodings whose output is another one read units, or nothing but a replacement.
  have hnone : ∀ v : Nat, none = some v → Utf16.isHigh v = true := by
    rintro v ⟨⟩
  cases e with
  | utf16le => exact Utf16.le_of_mem_decodeFrom .little hnone hbytes hc
  | utf16be => exact Utf16.le_of_mem_decodeFrom .big hnone hbytes hc
  | replacement =>
    rw [decode, decodeUnmarked] at hc
    split at hc
    · cases hc
    · rw [List.mem_singleton.1 hc]
      decide
  | _ => exact absurd rfl he

/-- Nothing is written as nothing, and read back in any encoding. -/
theorem decode_encode_nil (e : Encoding) : e.decode (e.encode []) = [] := by
  rw [encode_of_plain e fun c hc => absurd hc List.not_mem_nil]
  cases e <;> rfl

end Encoding

end VocalScore
