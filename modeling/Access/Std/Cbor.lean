import Access.Std.Text
import Mathlib.Tactic.Ring

/-! # CBOR data items

The data items of RFC 8949 that a message format without floating-point numbers needs, their
shortest definite-length encoding, and a decoder that reads one item from the front of a byte
string. `decode_encode` is the round trip for every item whose numbers and lengths fit the
64-bit arguments of the format (`Item.fits`).

The decoder is structural in a fuel argument; `2 * length` is always enough for what the
encoder writes (`Item.size_le`). -/

namespace Cbor

inductive Item where
  | int (i : Int)
  | bytes (b : Bytes)
  | text (s : String)
  | array (items : List Item)
  | map (entries : List (Item × Item))
  | tag (n : Nat) (item : Item)
  | bool (b : Bool)
  | null

/-! ## Encoding -/

/-- The `k` low bytes of `n`, most significant first. -/
def bigEndian : Nat → Nat → Bytes
  | 0, _ => []
  | k + 1, n => UInt8.ofNat (n / 256 ^ k) :: bigEndian k n

/-- The additional information of an initial byte: a small argument itself, otherwise the code
of the argument's width. -/
def info (n : Nat) : Nat :=
  if n < 24 then n else if n < 2 ^ 8 then 24 else if n < 2 ^ 16 then 25
  else if n < 2 ^ 32 then 26 else 27

/-- The number of argument bytes that follow an initial byte. -/
def width : Nat → Nat
  | 24 => 1
  | 25 => 2
  | 26 => 4
  | 27 => 8
  | _ => 0

/-- The initial byte of an item of a major type, with its argument in the shortest form. -/
def head (major n : Nat) : Bytes :=
  UInt8.ofNat (32 * major + info n) :: bigEndian (width (info n)) n

mutual

def Item.encode : Item → Bytes
  | .int (.ofNat n) => head 0 n
  | .int (.negSucc n) => head 1 n
  | .bytes b => head 2 b.length ++ b
  | .text s => head 3 s.asBytes.length ++ s.asBytes
  | .array items => head 4 items.length ++ encodeItems items
  | .map entries => head 5 entries.length ++ encodeEntries entries
  | .tag n item => head 6 n ++ item.encode
  | .bool false => [0xf4]
  | .bool true => [0xf5]
  | .null => [0xf6]
termination_by structural i => i

def encodeItems : List Item → Bytes
  | [] => []
  | x :: xs => x.encode ++ encodeItems xs
termination_by structural xs => xs

def encodeEntries : List (Item × Item) → Bytes
  | [] => []
  | e :: es => encodeEntry e ++ encodeEntries es
termination_by structural es => es

def encodeEntry : Item × Item → Bytes
  | (k, v) => k.encode ++ v.encode
termination_by structural e => e

end

mutual

/-- Whether the numbers and lengths of the item fit the format. -/
def Item.fits : Item → Bool
  | .int (.ofNat n) | .int (.negSucc n) => decide (n < 2 ^ 64)
  | .bytes b => decide (b.length < 2 ^ 64)
  | .text s => decide (s.asBytes.length < 2 ^ 64)
  | .array items => decide (items.length < 2 ^ 64) && fitsItems items
  | .map entries => decide (entries.length < 2 ^ 64) && fitsEntries entries
  | .tag n item => decide (n < 2 ^ 64) && item.fits
  | .bool _ | .null => true
termination_by structural i => i

def fitsItems : List Item → Bool
  | [] => true
  | x :: xs => x.fits && fitsItems xs
termination_by structural xs => xs

def fitsEntries : List (Item × Item) → Bool
  | [] => true
  | e :: es => fitsEntry e && fitsEntries es
termination_by structural es => es

def fitsEntry : Item × Item → Bool
  | (k, v) => k.fits && v.fits
termination_by structural e => e

end

/-! ## Decoding -/

/-- The number written by `bigEndian`. -/
def ofBigEndian (b : Bytes) : Nat := b.foldl (fun n x => 256 * n + x.toNat) 0

/-- Reads a `k`-byte argument. -/
def readArgument (k : Nat) (b : Bytes) : Option (Nat × Bytes) :=
  if b.length < k then none else some (ofBigEndian (b.take k), b.drop k)

/-- Reads an initial byte and its argument: the major type, the argument and the rest. -/
def readHead : Bytes → Option (Nat × Nat × Bytes)
  | [] => none
  | x :: rest =>
    let i := x.toNat % 32
    if i < 24 then some (x.toNat / 32, i, rest)
    else if i < 28 then
      (readArgument (width i) rest).map fun (n, rest) => (x.toNat / 32, n, rest)
    else none

/-- Splits a byte string of a known length off. -/
def readBytes (n : Nat) (b : Bytes) : Option (Bytes × Bytes) :=
  if b.length < n then none else some (b.take n, b.drop n)

mutual

def decodeItem : Nat → Bytes → Option (Item × Bytes)
  | 0, _ => none
  | fuel + 1, b =>
    match readHead b with
    | none => none
    | some (0, n, rest) => some (.int n, rest)
    | some (1, n, rest) => some (.int (.negSucc n), rest)
    | some (2, n, rest) => (readBytes n rest).map fun (v, rest) => (.bytes v, rest)
    | some (3, n, rest) =>
      (readBytes n rest).bind fun (v, rest) => v.toUtf8?.map fun s => (.text s, rest)
    | some (4, n, rest) => (decodeItems fuel n rest).map fun (xs, rest) => (.array xs, rest)
    | some (5, n, rest) => (decodeEntries fuel n rest).map fun (es, rest) => (.map es, rest)
    | some (6, n, rest) => (decodeItem fuel rest).map fun (x, rest) => (.tag n x, rest)
    | some (_, 20, rest) => some (.bool false, rest)
    | some (_, 21, rest) => some (.bool true, rest)
    | some (_, 22, rest) => some (.null, rest)
    | some _ => none
termination_by structural fuel => fuel

def decodeItems : Nat → Nat → Bytes → Option (List Item × Bytes)
  | 0, n, b => if n = 0 then some ([], b) else none
  | fuel + 1, n, b =>
    if n = 0 then some ([], b)
    else (decodeItem fuel b).bind fun (x, b) =>
      (decodeItems fuel (n - 1) b).map fun (xs, b) => (x :: xs, b)
termination_by structural fuel => fuel

def decodeEntries : Nat → Nat → Bytes → Option (List (Item × Item) × Bytes)
  | 0, n, b => if n = 0 then some ([], b) else none
  | fuel + 1, n, b =>
    if n = 0 then some ([], b)
    else (decodeItem fuel b).bind fun (k, b) => (decodeItem fuel b).bind fun (v, b) =>
      (decodeEntries fuel (n - 1) b).map fun (es, b) => ((k, v) :: es, b)
termination_by structural fuel => fuel

end

/-- Reads one item from the front of a byte string; what follows it is ignored. -/
def decode (b : Bytes) : Option Item := (decodeItem (2 * b.length) b).map Prod.fst

/-! ## Numbers -/

@[simp] theorem length_bigEndian (k n : Nat) : (bigEndian k n).length = k := by
  induction k with
  | zero => rfl
  | succ k ih => simp [bigEndian, ih]

theorem foldl_bigEndian (k n a : Nat) :
    (bigEndian k n).foldl (fun n x => 256 * n + x.toNat) a = 256 ^ k * a + n % 256 ^ k := by
  induction k generalizing a with
  | zero => simp [bigEndian, Nat.mod_one]
  | succ k ih =>
    have hmod : n % 256 ^ (k + 1) = n % 256 ^ k + 256 ^ k * (n / 256 ^ k % 256) := by
      rw [Nat.pow_succ, Nat.mod_mul]
    simp only [bigEndian, List.foldl_cons, ih, UInt8.toNat_ofNat', hmod, Nat.reducePow]
    ring

theorem readArgument_bigEndian {k n : Nat} (h : n < 256 ^ k) (rest : Bytes) :
    readArgument k (bigEndian k n ++ rest) = some (n, rest) := by
  unfold readArgument
  rw [if_neg (by simp), List.take_left' (length_bigEndian k n), List.drop_left' (length_bigEndian k n)]
  simp [ofBigEndian, foldl_bigEndian, Nat.mod_eq_of_lt h]

theorem info_lt (n : Nat) : info n < 28 := by
  unfold info
  split_ifs <;> omega

theorem lt_width_info {n : Nat} (h : 24 ≤ n) (hn : n < 2 ^ 64) : n < 256 ^ width (info n) := by
  unfold info
  split_ifs <;> simp only [width] <;> omega

theorem readHead_head (major : Nat) {n : Nat} (hm : major < 8) (hn : n < 2 ^ 64) (rest : Bytes) :
    readHead (head major n ++ rest) = some (major, n, rest) := by
  have hi := info_lt n
  have hbyte : (UInt8.ofNat (32 * major + info n)).toNat = 32 * major + info n := by
    rw [UInt8.toNat_ofNat']
    omega
  have hmod : (32 * major + info n) % 32 = info n := by omega
  have hdiv : (32 * major + info n) / 32 = major := by omega
  simp only [head, List.cons_append, readHead, hbyte, hmod, hdiv]
  by_cases h : n < 24
  · have : info n = n := by simp [info, h]
    have hw : width n = 0 := by unfold width; split <;> omega
    simp [this, h, hw, bigEndian]
  · have : ¬ info n < 24 := by unfold info; split_ifs <;> omega
    rw [if_neg this, if_pos hi, readArgument_bigEndian (lt_width_info (by omega) hn)]
    rfl

theorem readBytes_append (a b : Bytes) : readBytes a.length (a ++ b) = some (a, b) := by
  simp [readBytes]

/-! ## Round trip -/

mutual

/-- The fuel an item needs. -/
def Item.size : Item → Nat
  | .array items => 1 + sizeItems items
  | .map entries => 1 + sizeEntries entries
  | .tag _ item => 1 + item.size
  | _ => 1
termination_by structural i => i

def sizeItems : List Item → Nat
  | [] => 0
  | x :: xs => 1 + x.size + sizeItems xs
termination_by structural xs => xs

def sizeEntries : List (Item × Item) → Nat
  | [] => 0
  | e :: es => 1 + sizeEntry e + sizeEntries es
termination_by structural es => es

def sizeEntry : Item × Item → Nat
  | (k, v) => k.size + v.size
termination_by structural e => e

end

@[simp] theorem length_head_pos (major n : Nat) : 1 ≤ (head major n).length := by simp [head]

mutual

theorem Item.size_le : (i : Item) → i.size + 1 ≤ 2 * i.encode.length
  | .int (.ofNat n) => by
    have := length_head_pos 0 n
    simp only [Item.size, Item.encode]; omega
  | .int (.negSucc n) => by
    have := length_head_pos 1 n
    simp only [Item.size, Item.encode]; omega
  | .bytes b => by
    have := length_head_pos 2 b.length
    simp only [Item.size, Item.encode, List.length_append]; omega
  | .text s => by
    have := length_head_pos 3 s.asBytes.length
    simp only [Item.size, Item.encode, List.length_append]; omega
  | .array items => by
    have := length_head_pos 4 items.length
    have := sizeItems_le items
    simp only [Item.size, Item.encode, List.length_append]; omega
  | .map entries => by
    have := length_head_pos 5 entries.length
    have := sizeEntries_le entries
    simp only [Item.size, Item.encode, List.length_append]; omega
  | .tag n item => by
    have := length_head_pos 6 n
    have := item.size_le
    simp only [Item.size, Item.encode, List.length_append]; omega
  | .bool false | .bool true | .null => by simp [Item.size, Item.encode]

theorem sizeItems_le : (xs : List Item) → sizeItems xs ≤ 2 * (encodeItems xs).length
  | [] => by simp [sizeItems]
  | x :: xs => by
    have := x.size_le
    have := sizeItems_le xs
    simp only [sizeItems, encodeItems, List.length_append]; omega

theorem sizeEntries_le : (es : List (Item × Item)) → sizeEntries es ≤ 2 * (encodeEntries es).length
  | [] => by simp [sizeEntries]
  | (k, v) :: es => by
    have := k.size_le
    have := v.size_le
    have := sizeEntries_le es
    simp only [sizeEntries, sizeEntry, encodeEntries, encodeEntry, List.length_append]; omega

end

mutual

theorem decodeItem_encode : (i : Item) → i.fits → ∀ {fuel : Nat}, i.size ≤ fuel →
    ∀ rest, decodeItem fuel (i.encode ++ rest) = some (i, rest)
  | i, _, 0, hs, rest => by cases i <;> simp [Item.size] at hs
  | .int (.ofNat n), hi, fuel + 1, _, rest => by
    simp only [Item.fits, decide_eq_true_eq] at hi
    simp [decodeItem, Item.encode, readHead_head 0 (by omega) hi]
  | .int (.negSucc n), hi, fuel + 1, _, rest => by
    simp only [Item.fits, decide_eq_true_eq] at hi
    simp [decodeItem, Item.encode, readHead_head 1 (by omega) hi]
  | .bytes b, hi, fuel + 1, _, rest => by
    simp only [Item.fits, decide_eq_true_eq] at hi
    simp [decodeItem, Item.encode, readHead_head 2 (by omega) hi, readBytes_append]
  | .text s, hi, fuel + 1, _, rest => by
    simp only [Item.fits, decide_eq_true_eq] at hi
    simp [decodeItem, Item.encode, readHead_head 3 (by omega) hi, readBytes_append,
      String.toUtf8?_asBytes]
  | .array items, hi, fuel + 1, hs, rest => by
    simp only [Item.fits, Bool.and_eq_true, decide_eq_true_eq] at hi
    simp only [Item.size] at hs
    simp [decodeItem, Item.encode, readHead_head 4 (by omega) hi.1,
      decodeItems_encode items hi.2 (by omega : sizeItems items ≤ fuel)]
  | .map entries, hi, fuel + 1, hs, rest => by
    simp only [Item.fits, Bool.and_eq_true, decide_eq_true_eq] at hi
    simp only [Item.size] at hs
    simp [decodeItem, Item.encode, readHead_head 5 (by omega) hi.1,
      decodeEntries_encode entries hi.2 (by omega : sizeEntries entries ≤ fuel)]
  | .tag n item, hi, fuel + 1, hs, rest => by
    simp only [Item.fits, Bool.and_eq_true, decide_eq_true_eq] at hi
    simp only [Item.size] at hs
    simp [decodeItem, Item.encode, readHead_head 6 (by omega) hi.1,
      decodeItem_encode item hi.2 (by omega : item.size ≤ fuel)]
  | .bool false, _, fuel + 1, _, rest => by simp [decodeItem, Item.encode, readHead]
  | .bool true, _, fuel + 1, _, rest => by simp [decodeItem, Item.encode, readHead]
  | .null, _, fuel + 1, _, rest => by simp [decodeItem, Item.encode, readHead]

theorem decodeItems_encode : (xs : List Item) → fitsItems xs → ∀ {fuel : Nat}, sizeItems xs ≤ fuel →
    ∀ rest, decodeItems fuel xs.length (encodeItems xs ++ rest) = some (xs, rest)
  | [], _, fuel, _, rest => by cases fuel <;> simp [decodeItems, encodeItems]
  | x :: xs, _, 0, hs, _ => by simp [sizeItems] at hs
  | x :: xs, hi, fuel + 1, hs, rest => by
    simp only [fitsItems, Bool.and_eq_true] at hi
    simp only [sizeItems] at hs
    simp [decodeItems, encodeItems, decodeItem_encode x hi.1 (by omega : x.size ≤ fuel),
      decodeItems_encode xs hi.2 (by omega : sizeItems xs ≤ fuel)]

theorem decodeEntries_encode : (es : List (Item × Item)) → fitsEntries es → ∀ {fuel : Nat},
    sizeEntries es ≤ fuel →
    ∀ rest, decodeEntries fuel es.length (encodeEntries es ++ rest) = some (es, rest)
  | [], _, fuel, _, rest => by cases fuel <;> simp [decodeEntries, encodeEntries]
  | e :: es, _, 0, hs, _ => by simp [sizeEntries] at hs
  | (k, v) :: es, hi, fuel + 1, hs, rest => by
    simp only [fitsEntries, fitsEntry, Bool.and_eq_true] at hi
    simp only [sizeEntries, sizeEntry] at hs
    simp [decodeEntries, encodeEntries, encodeEntry,
      decodeItem_encode k hi.1.1 (by omega : k.size ≤ fuel),
      decodeItem_encode v hi.1.2 (by omega : v.size ≤ fuel),
      decodeEntries_encode es hi.2 (by omega : sizeEntries es ≤ fuel)]

end

/-- Decoding reads back what was encoded, whatever follows it. -/
theorem decode_encode_append {i : Item} (hi : i.fits) (rest : Bytes) :
    decode (i.encode ++ rest) = some i := by
  have := i.size_le
  unfold decode
  rw [decodeItem_encode i hi (by rw [List.length_append]; omega)]
  rfl

theorem decode_encode {i : Item} (hi : i.fits) : decode i.encode = some i := by
  have := decode_encode_append hi []
  rwa [List.append_nil] at this

theorem encode_inj {i j : Item} (hi : i.fits) (hj : j.fits) (h : i.encode = j.encode) : i = j := by
  have := decode_encode hi
  rw [h, decode_encode hj] at this
  exact (Option.some.inj this).symm

end Cbor
