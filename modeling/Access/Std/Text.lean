import Mathlib.Tactic.Common

/-! # Byte strings, UTF-8 and hexadecimal text

`String.asBytes` and `Bytes.toUtf8?` are the two directions between text and its UTF-8 bytes.
`Hex` is lower-case hexadecimal, written on bytes: a decoder that also reads upper case, refuses
an odd number of digits and refuses every byte that is not a digit. -/

abbrev Bytes := List UInt8

/-- `s.as_bytes().to_vec()` -/
def String.asBytes (s : String) : Bytes := s.toByteArray.data.toList

/-- `String::from_utf8(b).ok()` -/
def Bytes.toUtf8? (b : Bytes) : Option String := String.fromUTF8? ⟨b.toArray⟩

theorem String.toUtf8?_asBytes (s : String) : Bytes.toUtf8? s.asBytes = some s := by
  have h : (⟨s.asBytes.toArray⟩ : ByteArray) = s.toByteArray := rfl
  unfold Bytes.toUtf8? String.fromUTF8?
  rw [h, dif_pos s.isValidUTF8]
  rfl

namespace Hex

/-- Why a text is not hexadecimal. -/
inductive FromHexError where
  | invalidHexCharacter (c : UInt8) (index : Nat)
  | oddLength
  deriving DecidableEq, Repr

/-- A byte as the character it is in Latin-1, quoted and escaped. -/
def debugChar (c : UInt8) : String :=
  let n := c.toNat
  let escaped :=
    if n = 0 then "\\0" else if n = 9 then "\\t" else if n = 10 then "\\n"
    else if n = 13 then "\\r" else if n = 39 then "\\'" else if n = 92 then "\\\\"
    else if n < 32 ∨ (127 ≤ n ∧ n < 160) ∨ n = 173 then
      "\\u\x7b" ++ String.ofList (Nat.toDigits 16 n) ++ "\x7d"
    else String.singleton (Char.ofNat n)
  "'" ++ escaped ++ "'"

def FromHexError.display : FromHexError → String
  | invalidHexCharacter c index =>
    "Invalid character " ++ debugChar c ++ " at position " ++ toString index
  | oddLength => "Odd number of digits"

/-- The digit of a value below 16. -/
def digit (n : Nat) : UInt8 := UInt8.ofNat (if n < 10 then 48 + n else 87 + n)

/-- The value of a digit, in either case. -/
def val (c : UInt8) (index : Nat) : Except FromHexError Nat :=
  if 65 ≤ c.toNat ∧ c.toNat ≤ 70 then .ok (c.toNat - 55)
  else if 97 ≤ c.toNat ∧ c.toNat ≤ 102 then .ok (c.toNat - 87)
  else if 48 ≤ c.toNat ∧ c.toNat ≤ 57 then .ok (c.toNat - 48)
  else .error (.invalidHexCharacter c index)

/-- The digits of a byte string. -/
def digits : Bytes → Bytes
  | [] => []
  | b :: bs => digit (b.toNat / 16) :: digit (b.toNat % 16) :: digits bs

/-- `hex::encode(b)` -/
def encode (b : Bytes) : String := String.ofList ((digits b).map fun d => Char.ofNat d.toNat)

/-- Reads digits two at a time; `index` is the position of the first. -/
def decodePairs : Nat → Bytes → Except FromHexError Bytes
  | _, [] => .ok []
  | _, [_] => .error .oddLength
  | index, a :: b :: rest =>
    match val a index, val b (index + 1) with
    | .ok x, .ok y => (decodePairs (index + 2) rest).map (UInt8.ofNat (16 * x + y) :: ·)
    | .ok _, .error e => .error e
    | .error e, _ => .error e

/-- `hex::decode(text)` -/
def decode (text : Bytes) : Except FromHexError Bytes :=
  if text.length % 2 ≠ 0 then .error .oddLength else decodePairs 0 text

/-! ## Digits -/

theorem toNat_digit {n : Nat} (h : n < 16) :
    (digit n).toNat = if n < 10 then 48 + n else 87 + n := by
  unfold digit
  split <;> simp [UInt8.toNat_ofNat'] <;> omega

theorem val_digit {n : Nat} (h : n < 16) (index : Nat) : val (digit n) index = .ok n := by
  unfold val
  rw [toNat_digit h]
  by_cases h10 : n < 10
  · simp only [if_pos h10]
    rw [if_neg (by omega), if_neg (by omega), if_pos (by omega)]
    congr 1; omega
  · simp only [if_neg h10]
    rw [if_neg (by omega), if_pos (by omega)]
    congr 1; omega

@[simp] theorem digits_nil : digits [] = [] := rfl

@[simp] theorem length_digits (b : Bytes) : (digits b).length = 2 * b.length := by
  induction b with
  | nil => rfl
  | cons x b ih => simp only [digits, List.length_cons, ih]; omega

/-- Every digit is one of `0`-`9` and `a`-`f`. -/
theorem digits_range {b : Bytes} {d : UInt8} (h : d ∈ digits b) : 48 ≤ d.toNat ∧ d.toNat ≤ 102 := by
  induction b with
  | nil => simp at h
  | cons x b ih =>
    have hx := x.toNat_lt
    have h1 := toNat_digit (n := x.toNat / 16) (by omega)
    have h2 := toNat_digit (n := x.toNat % 16) (by omega)
    simp only [digits, List.mem_cons] at h
    rcases h with rfl | rfl | h
    · rw [h1]; split <;> omega
    · rw [h2]; split <;> omega
    · exact ih h

/-! ## Round trip -/

/-- The digits of `a` in front of any text read back as `a`, before what the text reads as. -/
theorem decodePairs_digits_append (a rest : Bytes) (index : Nat) :
    decodePairs index (digits a ++ rest) =
      (decodePairs (index + 2 * a.length) rest).map (a ++ ·) := by
  induction a generalizing index with
  | nil => cases h : decodePairs index rest <;> simp [h, Except.map]
  | cons x a ih =>
    have hx := x.toNat_lt
    have hb : UInt8.ofNat (16 * (x.toNat / 16) + x.toNat % 16) = x := by
      rw [show 16 * (x.toNat / 16) + x.toNat % 16 = x.toNat by omega, UInt8.ofNat_toNat]
    simp only [digits, List.cons_append, decodePairs, val_digit (show x.toNat / 16 < 16 by omega),
      val_digit (show x.toNat % 16 < 16 by omega), ih, hb, List.length_cons]
    rw [show index + 2 + 2 * a.length = index + 2 * (a.length + 1) by omega]
    cases decodePairs (index + 2 * (a.length + 1)) rest <;> rfl

theorem decode_digits (b : Bytes) : decode (digits b) = .ok b := by
  have h := decodePairs_digits_append b [] 0
  simp only [List.append_nil, decodePairs, Except.map] at h
  unfold decode
  rw [if_neg (by simp), h]

theorem decode_odd {text : Bytes} (h : text.length % 2 = 1) : decode text = .error .oddLength := by
  unfold decode
  rw [if_pos (by omega)]

theorem asBytes_encode (b : Bytes) : (encode b).asBytes = digits b := by
  have hchar : ∀ d ∈ digits b, String.utf8EncodeChar (Char.ofNat d.toNat) = [d] := by
    intro d hd
    obtain ⟨h1, h2⟩ := digits_range hd
    have hv : (Char.ofNat d.toNat).val.toNat = d.toNat := by
      unfold Char.ofNat
      rw [dif_pos (show d.toNat.isValidChar from .inl (by omega))]
      rfl
    unfold String.utf8EncodeChar
    simp only [hv, if_pos (show d.toNat ≤ 0x7f by omega), UInt8.ofNat_toNat]
  have h : ∀ l : Bytes, (∀ d ∈ l, String.utf8EncodeChar (Char.ofNat d.toNat) = [d]) →
      (l.map fun d => Char.ofNat d.toNat).flatMap String.utf8EncodeChar = l := by
    intro l hl
    induction l with
    | nil => rfl
    | cons d l ih =>
      rw [List.map_cons, List.flatMap_cons, hl d List.mem_cons_self,
        ih fun d' hd' => hl d' (List.mem_cons_of_mem _ hd')]
      rfl
  unfold encode String.asBytes
  rw [String.toByteArray_ofList, List.utf8Encode, h _ hchar]
  simp [List.data_toByteArray]

/-- `hex::decode(hex::encode(b))` is `b`. -/
theorem decode_encode (b : Bytes) : decode (encode b).asBytes = .ok b := by
  rw [asBytes_encode, decode_digits]

theorem encode_inj {a b : Bytes} (h : encode a = encode b) : a = b := by
  have ha := decode_encode a
  rw [h, decode_encode] at ha
  exact (Except.ok.inj ha).symm

end Hex
