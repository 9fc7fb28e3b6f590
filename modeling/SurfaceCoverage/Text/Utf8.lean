import SurfaceCoverage.Text.Quoted

/-!
# UTF-8

Reading bytes as text either gives every character or stops at the first bytes that no character
has.  The refusal says which bytes these are: a byte that starts no character, a character that is
broken off by a byte which does not continue it, or one that the end of the data cuts short.

**Results.**
* `decodeFrom_encodeChar`: the bytes of a character are read as that character.
* `decode_encode`, `decodeIgnoring_encode`: a text is read back from its bytes.
-/

namespace SurfaceCoverage

namespace Text

/-- Why bytes are not UTF-8. -/
inductive Utf8Cause where
  | invalidStart
  | invalidContinuation
  | unexpectedEnd
  deriving Repr, DecidableEq

/-- The bytes that are refused: the first of them, its position, and how many there are. -/
structure Utf8Error where
  cause : Utf8Cause
  byte : UInt8
  position : Nat
  count : Nat
  deriving Repr, DecidableEq

/-- What is wrong with the bytes. -/
def Utf8Cause.message : Utf8Cause → String
  | .invalidStart => "invalid start byte"
  | .invalidContinuation => "invalid continuation byte"
  | .unexpectedEnd => "unexpected end of data"

/-- What is wrong with the bytes, and where. -/
def Utf8Error.message (e : Utf8Error) : String :=
  let place :=
    if e.count = 1 then
      s!"byte 0x{String.ofList (hexDigits 2 e.byte.toNat)} in position {e.position}"
    else
      s!"bytes in position {e.position}-{e.position + e.count - 1}"
  s!"'utf-8' codec can't decode {place}: {e.cause.message}"

/-- Whether a byte continues a character. -/
def isContinuation (b : UInt8) : Bool :=
  0x80 ≤ b && b < 0xC0

/-- Whether a byte may be the second one after `lead`. -/
def isSecond (lead b : UInt8) : Bool :=
  isContinuation b &&
    (if lead = 0xE0 then 0xA0 ≤ b
      else if lead = 0xED then b < 0xA0
      else if lead = 0xF0 then 0x90 ≤ b
      else if lead = 0xF4 then b < 0x90
      else true)

/-- The low bits of a byte. -/
def lowBits (b : UInt8) (bound : Nat) : Nat :=
  b.toNat % bound

/-- Reads bytes from position `pos` on, with the characters read so far, last one first. -/
def decodeFrom (pos : Nat) (acc : List Char) : List UInt8 → Except Utf8Error (List Char)
  | [] => .ok acc.reverse
  | a :: rest =>
      if a < 0x80 then decodeFrom (pos + 1) (Char.ofNat a.toNat :: acc) rest
      else if a < 0xC2 || 0xF4 < a then .error ⟨.invalidStart, a, pos, 1⟩
      else
        match rest with
        | [] => .error ⟨.unexpectedEnd, a, pos, 1⟩
        | b :: rest₂ =>
            if !isSecond a b then .error ⟨.invalidContinuation, a, pos, 1⟩
            else if a < 0xE0 then
              let n := lowBits a 32 * 64 + lowBits b 64
              decodeFrom (pos + 2) (Char.ofNat n :: acc) rest₂
            else
              match rest₂ with
              | [] => .error ⟨.unexpectedEnd, a, pos, 2⟩
              | c :: rest₃ =>
                  if !isContinuation c then .error ⟨.invalidContinuation, a, pos, 2⟩
                  else if a < 0xF0 then
                    let n := lowBits a 16 * 4096 + lowBits b 64 * 64 + lowBits c 64
                    decodeFrom (pos + 3) (Char.ofNat n :: acc) rest₃
                  else
                    match rest₃ with
                    | [] => .error ⟨.unexpectedEnd, a, pos, 3⟩
                    | d :: rest₄ =>
                        if !isContinuation d then .error ⟨.invalidContinuation, a, pos, 3⟩
                        else
                          let n := lowBits a 8 * 262144 + lowBits b 64 * 4096 +
                            lowBits c 64 * 64 + lowBits d 64
                          decodeFrom (pos + 4) (Char.ofNat n :: acc) rest₄

/-- Reads bytes as text. -/
def decode (bytes : List UInt8) : Except Utf8Error (List Char) :=
  decodeFrom 0 [] bytes

/-- The bytes of a text. -/
def encode (s : String) : List UInt8 :=
  s.toList.flatMap String.utf8EncodeChar

/-- Makes every line end with a line feed alone. -/
def unifyLineEnds : List Char → List Char
  | [] => []
  | '\r' :: '\n' :: rest => '\n' :: unifyLineEnds rest
  | '\r' :: rest => '\n' :: unifyLineEnds rest
  | c :: rest => c :: unifyLineEnds rest

/-- Reads bytes as text, with `bad` for every byte that is refused. -/
def decodeWith (bad : List Char) : Nat → List UInt8 → List Char
  | 0, _ => []
  | fuel + 1, bytes =>
      match decode bytes with
      | .ok cs => cs
      | .error e =>
          let good := bytes.take e.position
          let read :=
            match decode good with
            | .ok cs => cs
            | .error _ => []
          read ++ bad ++ decodeWith bad fuel (bytes.drop (e.position + 1))

/-- The text of bytes of which some may be no text; U+FFFD stands for these. -/
def decodeAny (bytes : List UInt8) : List Char :=
  decodeWith [Char.ofNat 0xFFFD] (bytes.length + 1) bytes

/-- The text of bytes without those that are no text. -/
def decodeIgnoring (bytes : List UInt8) : List Char :=
  decodeWith [] (bytes.length + 1) bytes

theorem decodeFrom_ascii (pos : Nat) (acc : List Char) (a : UInt8) (rest : List UInt8)
    (h : a < 0x80) :
    decodeFrom pos acc (a :: rest) =
      decodeFrom (pos + 1) (Char.ofNat a.toNat :: acc) rest := by
  rw [decodeFrom.eq_def]
  simp [h]

theorem isContinuation_iff {b : UInt8} :
    isContinuation b = true ↔ 0x80 ≤ b.toNat ∧ b.toNat < 0xC0 := by
  simp [isContinuation, UInt8.le_iff_toNat_le, UInt8.lt_iff_toNat_lt]

theorem isSecond_iff {a b : UInt8} :
    isSecond a b = true ↔ isContinuation b = true
      ∧ (a.toNat = 0xE0 → 0xA0 ≤ b.toNat) ∧ (a.toNat = 0xED → b.toNat < 0xA0)
      ∧ (a.toNat = 0xF0 → 0x90 ≤ b.toNat) ∧ (a.toNat = 0xF4 → b.toNat < 0x90) := by
  have hE0 : a = 0xE0 ↔ a.toNat = 0xE0 := UInt8.toNat_inj.symm
  have hED : a = 0xED ↔ a.toNat = 0xED := UInt8.toNat_inj.symm
  have hF0 : a = 0xF0 ↔ a.toNat = 0xF0 := UInt8.toNat_inj.symm
  have hF4 : a = 0xF4 ↔ a.toNat = 0xF4 := UInt8.toNat_inj.symm
  rw [isSecond, Bool.and_eq_true]
  refine and_congr_right fun _ => ?_
  simp only [hE0, hED, hF0, hF4]
  split
  · simp [UInt8.le_iff_toNat_le, *]
  split
  · simp [UInt8.lt_iff_toNat_lt, *]
  split
  · simp [UInt8.le_iff_toNat_le, *]
  split
  · simp [UInt8.lt_iff_toNat_lt, *]
  · simp [*]

/-- Two bytes that belong together are one character. -/
theorem decodeFrom_two (pos : Nat) (acc : List Char) {a b : UInt8} (rest : List UInt8)
    (ha : 0xC2 ≤ a.toNat ∧ a.toNat < 0xE0) (hb : isContinuation b = true) :
    decodeFrom pos acc (a :: b :: rest) =
      decodeFrom (pos + 2) (Char.ofNat (lowBits a 32 * 64 + lowBits b 64) :: acc) rest := by
  have hlow : ¬ a < 0x80 := by simp [UInt8.lt_iff_toNat_lt]; omega
  have hlead : (a < 0xC2 || 0xF4 < a) = false := by simp [UInt8.le_iff_toNat_le]; omega
  have hshort : a < 0xE0 := by simp [UInt8.lt_iff_toNat_lt]; omega
  have hsecond : isSecond a b = true := by
    rw [isSecond_iff]
    exact ⟨hb, by omega, by omega, by omega, by omega⟩
  rw [decodeFrom.eq_def]
  simp only [hlow, hlead, hsecond, hshort, if_true, if_false, Bool.not_true, Bool.false_eq_true]

/-- Three bytes that belong together are one character. -/
theorem decodeFrom_three (pos : Nat) (acc : List Char) {a b c : UInt8} (rest : List UInt8)
    (ha : 0xE0 ≤ a.toNat ∧ a.toNat < 0xF0) (hb : isSecond a b = true)
    (hc : isContinuation c = true) :
    decodeFrom pos acc (a :: b :: c :: rest) =
      decodeFrom (pos + 3)
        (Char.ofNat (lowBits a 16 * 4096 + lowBits b 64 * 64 + lowBits c 64) :: acc) rest := by
  have hlow : ¬ a < 0x80 := by simp [UInt8.lt_iff_toNat_lt]; omega
  have hlead : (a < 0xC2 || 0xF4 < a) = false := by simp [UInt8.le_iff_toNat_le]; omega
  have hlong : ¬ a < 0xE0 := by simp [UInt8.lt_iff_toNat_lt]; omega
  have hshort : a < 0xF0 := by simp [UInt8.lt_iff_toNat_lt]; omega
  rw [decodeFrom.eq_def]
  simp only [hlow, hlead, hb, hc, hlong, hshort, if_true, if_false, Bool.not_true,
    Bool.false_eq_true]

/-- Four bytes that belong together are one character. -/
theorem decodeFrom_four (pos : Nat) (acc : List Char) {a b c d : UInt8} (rest : List UInt8)
    (ha : 0xF0 ≤ a.toNat ∧ a.toNat ≤ 0xF4) (hb : isSecond a b = true)
    (hc : isContinuation c = true) (hd : isContinuation d = true) :
    decodeFrom pos acc (a :: b :: c :: d :: rest) =
      decodeFrom (pos + 4)
        (Char.ofNat (lowBits a 8 * 262144 + lowBits b 64 * 4096 + lowBits c 64 * 64 +
          lowBits d 64) :: acc) rest := by
  have hlow : ¬ a < 0x80 := by simp [UInt8.lt_iff_toNat_lt]; omega
  have hlead : (a < 0xC2 || 0xF4 < a) = false := by simp [UInt8.le_iff_toNat_le]; omega
  have hlong : ¬ a < 0xE0 := by simp [UInt8.lt_iff_toNat_lt]; omega
  have hlonger : ¬ a < 0xF0 := by simp [UInt8.lt_iff_toNat_lt]; omega
  rw [decodeFrom.eq_def]
  simp only [hlow, hlead, hb, hc, hd, hlong, hlonger, if_false, Bool.not_true, Bool.false_eq_true]

theorem toNat_ofNat_of_lt {n : Nat} (h : n < 256) :
    (UInt8.ofNat n).toNat = n := by
  rw [UInt8.toNat_ofNat']
  omega

/-- The byte for six bits of a code point belongs to the one in front of it. -/
theorem isContinuation_ofNat (k : Nat) :
    isContinuation (UInt8.ofNat (k % 64 + 128)) = true := by
  rw [isContinuation_iff, toNat_ofNat_of_lt (by omega)]
  omega

theorem lowBits_ofNat (k : Nat) :
    lowBits (UInt8.ofNat (k % 64 + 128)) 64 = k % 64 := by
  rw [lowBits, toNat_ofNat_of_lt (by omega)]
  omega

section CodePoint

variable (pos : Nat) (acc : List Char) {n : Nat} (rest : List UInt8)

/-- A code point in two bytes. -/
theorem decodeFrom_encode_two (h : 127 < n) (h' : n ≤ 2047) :
    decodeFrom pos acc
        (UInt8.ofNat (n / 64 % 32 + 192) :: UInt8.ofNat (n % 64 + 128) :: rest) =
      decodeFrom (pos + 2) (Char.ofNat n :: acc) rest := by
  have ha := toNat_ofNat_of_lt (n := n / 64 % 32 + 192) (by omega)
  have hn : lowBits (UInt8.ofNat (n / 64 % 32 + 192)) 32 * 64 + n % 64 = n := by
    rw [lowBits, ha]
    omega
  rw [decodeFrom_two pos acc rest (by omega) (isContinuation_ofNat n), lowBits_ofNat, hn]

/-- A code point in three bytes. -/
theorem decodeFrom_encode_three (h : 2047 < n) (h' : n ≤ 65535)
    (hvalid : n < 0xD800 ∨ 0xDFFF < n) :
    decodeFrom pos acc
        (UInt8.ofNat (n / 4096 % 16 + 224) :: UInt8.ofNat (n / 64 % 64 + 128) ::
          UInt8.ofNat (n % 64 + 128) :: rest) =
      decodeFrom (pos + 3) (Char.ofNat n :: acc) rest := by
  have ha := toNat_ofNat_of_lt (n := n / 4096 % 16 + 224) (by omega)
  have hb := toNat_ofNat_of_lt (n := n / 64 % 64 + 128) (by omega)
  have hn : lowBits (UInt8.ofNat (n / 4096 % 16 + 224)) 16 * 4096 + n / 64 % 64 * 64 + n % 64 =
      n := by
    rw [lowBits, ha]
    omega
  have hsecond : isSecond (UInt8.ofNat (n / 4096 % 16 + 224))
      (UInt8.ofNat (n / 64 % 64 + 128)) = true := by
    rw [isSecond_iff, ha, hb]
    exact ⟨isContinuation_ofNat _, by omega, by omega, by omega, by omega⟩
  rw [decodeFrom_three pos acc rest (by omega) hsecond (isContinuation_ofNat n), lowBits_ofNat,
    lowBits_ofNat, hn]

/-- A code point in four bytes. -/
theorem decodeFrom_encode_four (h : 65535 < n) (h' : n < 0x110000) :
    decodeFrom pos acc
        (UInt8.ofNat (n / 262144 % 8 + 240) :: UInt8.ofNat (n / 4096 % 64 + 128) ::
          UInt8.ofNat (n / 64 % 64 + 128) :: UInt8.ofNat (n % 64 + 128) :: rest) =
      decodeFrom (pos + 4) (Char.ofNat n :: acc) rest := by
  have ha := toNat_ofNat_of_lt (n := n / 262144 % 8 + 240) (by omega)
  have hb := toNat_ofNat_of_lt (n := n / 4096 % 64 + 128) (by omega)
  have hn : lowBits (UInt8.ofNat (n / 262144 % 8 + 240)) 8 * 262144 + n / 4096 % 64 * 4096 +
      n / 64 % 64 * 64 + n % 64 = n := by
    rw [lowBits, ha]
    omega
  have hsecond : isSecond (UInt8.ofNat (n / 262144 % 8 + 240))
      (UInt8.ofNat (n / 4096 % 64 + 128)) = true := by
    rw [isSecond_iff, ha, hb]
    exact ⟨isContinuation_ofNat _, by omega, by omega, by omega, by omega⟩
  rw [decodeFrom_four pos acc rest (by omega) hsecond (isContinuation_ofNat _)
    (isContinuation_ofNat n), lowBits_ofNat, lowBits_ofNat, lowBits_ofNat, hn]

end CodePoint

/-- The bytes of a character are read as that character. -/
theorem decodeFrom_encodeChar (pos : Nat) (acc : List Char) (c : Char) (rest : List UInt8) :
    decodeFrom pos acc (String.utf8EncodeChar c ++ rest) =
      decodeFrom (pos + (String.utf8EncodeChar c).length) (c :: acc) rest := by
  have hvalid : c.toNat < 0xD800 ∨ (0xDFFF < c.toNat ∧ c.toNat < 0x110000) := c.valid
  have hchar : Char.ofNat c.toNat = c := Char.ofNat_toNat c
  have hencode : String.utf8EncodeChar c =
      if c.toNat ≤ 127 then [UInt8.ofNat c.toNat]
      else if c.toNat ≤ 2047 then
        [UInt8.ofNat (c.toNat / 64 % 32 + 192), UInt8.ofNat (c.toNat % 64 + 128)]
      else if c.toNat ≤ 65535 then
        [UInt8.ofNat (c.toNat / 4096 % 16 + 224), UInt8.ofNat (c.toNat / 64 % 64 + 128),
          UInt8.ofNat (c.toNat % 64 + 128)]
      else
        [UInt8.ofNat (c.toNat / 262144 % 8 + 240), UInt8.ofNat (c.toNat / 4096 % 64 + 128),
          UInt8.ofNat (c.toNat / 64 % 64 + 128), UInt8.ofNat (c.toNat % 64 + 128)] := rfl
  rw [hencode]
  generalize c.toNat = n at *
  subst hchar
  split
  · next h =>
    have hn : (UInt8.ofNat n).toNat = n := toNat_ofNat_of_lt (by omega)
    have hlow : UInt8.ofNat n < 0x80 := by
      rw [UInt8.lt_iff_toNat_lt, hn]
      exact Nat.lt_succ_of_le h
    rw [List.singleton_append, decodeFrom_ascii pos acc _ rest hlow, hn]
    rfl
  split
  · exact decodeFrom_encode_two pos acc rest (by omega) (by omega)
  split
  · exact decodeFrom_encode_three pos acc rest (by omega) (by omega) (by omega)
  · exact decodeFrom_encode_four pos acc rest (by omega) (by omega)

/-- By induction on the characters: what is encoded is decoded. -/
theorem decodeFrom_encode (cs : List Char) (pos : Nat) (acc : List Char) :
    decodeFrom pos acc (cs.flatMap String.utf8EncodeChar) = .ok (acc.reverse ++ cs) := by
  induction cs generalizing pos acc with
  | nil => simp [decodeFrom]
  | cons c rest ih => rw [List.flatMap_cons, decodeFrom_encodeChar, ih]; simp

/-- A text is read back from its bytes. -/
theorem decode_encode (s : String) :
    decode (encode s) = .ok s.toList :=
  decodeFrom_encode s.toList 0 []

theorem decodeIgnoring_encode (s : String) :
    decodeIgnoring (encode s) = s.toList := by
  rw [decodeIgnoring, decodeWith, decode_encode]

end Text

end SurfaceCoverage
