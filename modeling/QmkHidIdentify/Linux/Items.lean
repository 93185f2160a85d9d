import Mathlib.Data.Nat.Digits.Defs
import QmkHidIdentify.Linux.Tokens

/-!
# QmkHidIdentify.Linux.Items

Descriptors that are a concatenation of **complete items**: every item has all
the bytes its prefix announces. An `Item` carries that as a field, so an
incomplete one cannot be built.

`tokens_encode` reads the tokens off the items: on such descriptors an item is
one token, and the data of a short item is the little-endian number of its
bytes. Statements about descriptors of complete items are thereby statements
about the scanner over a list of tokens (`hidUsages_encode`, `initReports_encode`). `Key.item` at
the end writes an item the parser interprets, in a chosen width.
-/

namespace QmkHidIdentify

/-- The little-endian number of the data bytes of a short item. -/
def leValue (data : List UInt8) : UInt32 :=
  .ofNat (Nat.ofDigits 256 (data.map UInt8.toNat))

/-- A complete item of a report descriptor. -/
inductive Item
  | short (key : UInt8) (data : List UInt8) (notLong : key &&& 0xf0 ≠ 0xf0)
      (size : data.length = (shortItemSize key).dataLen)
  | long (key tag : UInt8) (data : List UInt8) (isLong : key &&& 0xf0 = 0xf0)
      (size : data.length < 256)

namespace Item

/-- The bytes of an item. -/
def bytes : Item → List UInt8
  | short key data _ _ => key :: data
  | long key tag data _ _ => key :: .ofNat data.length :: tag :: data

/-- The token of an item. -/
def token : Item → Token
  | short key data _ _ => .ofKey (key &&& 0xfc).toNat (leValue data)
  | long .. => .other

end Item

/-- A descriptor written item by item. -/
def encode (items : List Item) : List UInt8 := items.flatMap Item.bytes

@[simp] theorem encode_cons (i : Item) (items : List Item) :
    encode (i :: items) = i.bytes ++ encode items := rfl

theorem encode_append (xs ys : List Item) : encode (xs ++ ys) = encode xs ++ encode ys := by
  simp [encode]

theorem length_encode_delete_le (pre post : List Item) (i : Item) :
    (encode (pre ++ post)).length ≤ (encode (pre ++ i :: post)).length := by
  simp only [encode_append, encode_cons, List.length_append]
  omega

/-! ### Data bytes -/

theorem ofInt_natCast (n : Nat) : UInt32.ofInt (n : Int) = UInt32.ofNat n := by
  apply UInt32.toNat.inj
  simp only [UInt32.ofInt, UInt32.toNat_ofNat']
  omega

/-- The conversion to `uint32_t` undoes any wrap of the `int` before it. -/
theorem ofInt_toInt (z : Int) : UInt32.ofInt (toInt z) = UInt32.ofInt z := by
  simp only [UInt32.ofInt, toInt]
  rw [show (2 : Int) ^ 32 = ((2 ^ 32 : Nat) : Int) by norm_num, Int.bmod_emod]

/-- Reading the data of an item that has all its bytes gives their number. -/
theorem getHidReportBytes_complete (pre data post : List UInt8) (key : UInt8)
    (hlen : data.length = 0 ∨ data.length = 1 ∨ data.length = 2 ∨ data.length = 4) :
    getHidReportBytes (pre ++ key :: data ++ post) data.length pre.length =
      some (leValue data) := by
  unfold getHidReportBytes leValue
  rw [if_neg (by simp only [List.length_append, List.length_cons]; omega), ← ofInt_natCast]
  rcases hlen with h | h | h | h
  · obtain rfl := List.length_eq_zero_iff.mp h
    rfl
  · obtain ⟨a, rfl⟩ := List.length_eq_one_iff.mp h
    simp
  · obtain ⟨a, b, rfl⟩ := List.length_eq_two.mp h
    simp only [List.map, Nat.ofDigits_cons, Nat.ofDigits_nil]
    simp [ofInt_toInt]
    grind
  · match data, h with
    | [a, b, c, d], _ =>
        simp [ofInt_toInt, Nat.ofDigits]
        rw [show UInt32.ofInt 16777216 = .ofInt 256 * .ofInt 256 * .ofInt 256 by decide,
          show UInt32.ofInt 65536 = .ofInt 256 * .ofInt 256 by decide]
        generalize UInt32.ofInt 256 = k
        grind

/-! ### Tokens of complete items -/

theorem ofKey_of_long {key : UInt8} (h : key &&& 0xf0 = 0xf0) (v : UInt32) :
    Token.ofKey (key &&& 0xfc).toNat v = .other := by
  -- masking with 0xfc keeps the four bits that make the item a long one
  have hmask : (key &&& 0xfc) &&& 0xf0 = 0xf0 := by
    rw [UInt8.and_assoc]
    exact h
  generalize key &&& 0xfc = c at hmask
  have hne : ∀ n : Nat, n < 256 → UInt8.ofNat n &&& 0xf0 ≠ 0xf0 → c.toNat ≠ n := by
    intro n hn hbit hc
    subst hc
    exact hbit (by simpa using hmask)
  unfold Token.ofKey
  split <;> first | rfl | exact absurd ‹c.toNat = _› (hne _ (by decide) (by decide))

/-- At the boundary before a complete item the parser sees that item and its
length. -/
theorem itemAt_complete (pre post : List UInt8) (i : Item) :
    tokenAt (pre ++ i.bytes ++ post) pre.length = i.token ∧
      nextPos (pre ++ i.bytes ++ post) pre.length = pre.length + i.bytes.length := by
  cases i with
  | short key data notLong size =>
      have hkey : (pre ++ key :: data ++ post)[pre.length]? = some key := by simp
      have hlen : data.length = 0 ∨ data.length = 1 ∨ data.length = 2 ∨ data.length = 4 := by
        rw [size]
        exact shortItemSize_dataLen key
      have hbytes := getHidReportBytes_complete pre data post key hlen
      have hone : (shortItemSize key).keySize = 1 := by
        rcases shortItemSize_cases key with h | h | h | h <;> simp [h]
      simp only [Item.bytes, Item.token, List.length_cons]
      generalize pre ++ key :: data ++ post = rpt at hkey hbytes
      have hsize : itemSize rpt pre.length = shortItemSize key := by
        simp [itemSize, getHidItemSize, hkey, notLong]
      refine ⟨?_, ?_⟩
      · simp only [tokenAt, hkey, hsize, ← size, hbytes, Option.getD_some]
      · rw [nextPos, hsize, hone, size]
  | long key tag data isLong size =>
      have hkey : (pre ++ key :: .ofNat data.length :: tag :: data ++ post)[pre.length]? =
          some key := by simp
      have hlen : (pre ++ key :: .ofNat data.length :: tag :: data ++ post)[pre.length + 1]? =
          some (.ofNat data.length) := by simp
      simp only [Item.bytes, Item.token, List.length_cons]
      generalize pre ++ key :: .ofNat data.length :: tag :: data ++ post = rpt at hkey hlen
      have hin : pre.length + 1 < rpt.length := (List.getElem?_eq_some_iff.mp hlen).1
      refine ⟨?_, ?_⟩
      · simp only [tokenAt, hkey, ofKey_of_long isLong]
      · simp only [nextPos, itemSize, getHidItemSize, hkey, if_pos (And.intro isLong hin), hlen,
          Option.getD_some, UInt8.toNat_ofNat']
        omega

theorem tokensFrom_encode (pre : List UInt8) (items : List Item) :
    tokensFrom (pre ++ encode items) pre.length = items.map Item.token := by
  induction items generalizing pre with
  | nil =>
      rw [tokensFrom, if_neg (by simp [encode])]
      rfl
  | cons i items ih =>
      have hpos : 0 < i.bytes.length := by cases i <;> simp [Item.bytes]
      obtain ⟨htoken, hnext⟩ := itemAt_complete pre (encode items) i
      rw [encode_cons, ← List.append_assoc, tokensFrom, htoken, hnext,
        if_pos (by simp only [List.length_append]; omega), ← List.length_append, ih]
      rfl

/-- A descriptor of complete items has one token for each item. -/
theorem tokens_encode (items : List Item) (h : (encode items).length ≤ HID_MAX_DESCRIPTOR_SIZE) :
    HidrawDescriptor.tokens ⟨encode items, h⟩ = items.map Item.token :=
  tokensFrom_encode [] items

/-- What repeated calls collect from complete items. -/
theorem hidUsages_encode (items : List Item)
    (h : (encode items).length ≤ HID_MAX_DESCRIPTOR_SIZE) :
    hidUsages ⟨encode items, h⟩ = some (.finished, scanner.eval {} (items.map Item.token)) := by
  rw [hidUsages_eq, tokens_encode]

/-- What the loop of `init_reports` collects from complete items. -/
theorem initReports_encode (items : List Item)
    (h : (encode items).length ≤ HID_MAX_DESCRIPTOR_SIZE) (reports : List HIDReport)
    (result : Except Exception Unit × List HIDReport) :
    InitReports ⟨encode items, h⟩ reports result ↔
      ∃ r rs, scanner.eval {} (items.map Item.token) = r :: rs ∧
        result = (.ok (), reports ++ [r]) := by
  rw [initReports_iff, tokens_encode]

/-- The loop of `init_reports` sees the first report only. -/
theorem sameReports_encode (items items' : List Item)
    (h : (encode items).length ≤ HID_MAX_DESCRIPTOR_SIZE)
    (h' : (encode items').length ≤ HID_MAX_DESCRIPTOR_SIZE) :
    SameReports ⟨encode items, h⟩ ⟨encode items', h'⟩ ↔
      (scanner.eval {} (items.map Item.token)).head? =
        (scanner.eval {} (items'.map Item.token)).head? := by
  simp only [SameReports, initReports_encode, List.nil_append]
  generalize scanner.eval {} (items.map Item.token) = rs
  generalize scanner.eval {} (items'.map Item.token) = rs'
  refine ⟨?_, ?_⟩
  · intro hsame
    cases rs with
    | nil =>
        cases rs' with
        | nil => rfl
        | cons r' rs' =>
            obtain ⟨r, rs, hnil, -⟩ := (hsame (.ok (), [r'])).mpr ⟨r', rs', rfl, rfl⟩
            cases hnil
    | cons r rs =>
        obtain ⟨r', rs'', rfl, hr⟩ := (hsame (.ok (), [r])).mp ⟨r, rs, rfl, rfl⟩
        simpa using hr
  · intro hhead result
    cases rs <;> cases rs' <;> simp_all

/-! ### Short items by key and width -/

/-- The items the parser interprets. -/
inductive Key
  | usagePage
  | field (f : Field)
  | main (k : MainKind)
  | collection
  | endCollection
  deriving DecidableEq, Repr

/-- The tag and type bits of a key. -/
def Key.cmd : Key → UInt8
  | .usagePage => 0x04
  | .field .usage => 0x08
  | .field .minimum => 0x14
  | .field .maximum => 0x24
  | .field .size => 0x74
  | .field .count => 0x94
  | .main .input => 0x80
  | .main .output => 0x90
  | .main .feature => 0xb0
  | .collection => 0xa0
  | .endCollection => 0xc0

/-- The token of a key with a value. -/
def Key.token (v : UInt32) : Key → Token
  | .usagePage => .usagePage v
  | .field f => .field f v
  | .main k => .main k
  | .collection => .collection
  | .endCollection => .endCollection

/-- The number of data bytes of a short item. -/
inductive Width
  | zero
  | one
  | two
  | four
  deriving DecidableEq, Repr

def Width.bytes : Width → Nat
  | .zero => 0
  | .one => 1
  | .two => 2
  | .four => 4

/-- The size code in the low bits of the key. -/
def Width.code : Width → UInt8
  | .zero => 0
  | .one => 1
  | .two => 2
  | .four => 3

/-- A value with a width that holds it; no data bytes hold the value 0 only. -/
structure SizedValue where
  value : UInt32
  width : Width
  fits : value.toNat < 256 ^ width.bytes

/-- The little-endian data bytes. -/
def SizedValue.data (s : SizedValue) : List UInt8 :=
  (List.range s.width.bytes).map fun i => .ofNat (s.value.toNat / 256 ^ i)

theorem SizedValue.data_length (s : SizedValue) : s.data.length = s.width.bytes := by
  simp [data]

theorem SizedValue.leValue_data (s : SizedValue) : leValue s.data = s.value := by
  obtain ⟨v, w, h⟩ := s
  apply UInt32.toNat.inj
  cases w <;> simp [leValue, data, Width.bytes, List.range_succ, Nat.ofDigits] at h ⊢ <;> omega

/-- Every key with every size code is a short item of that size. -/
theorem Key.spec (k : Key) (w : Width) :
    (k.cmd ||| w.code) &&& 0xf0 ≠ 0xf0 ∧
      shortItemSize (k.cmd ||| w.code) = ⟨true, w.bytes, 1⟩ ∧
      (k.cmd ||| w.code) &&& 0xfc = k.cmd := by
  cases k with
  | field f => cases f <;> cases w <;> decide
  | main k => cases k <;> cases w <;> decide
  | _ => cases w <;> decide

theorem Key.ofKey_cmd (k : Key) (v : UInt32) : Token.ofKey k.cmd.toNat v = k.token v := by
  cases k with
  | field f => cases f <;> rfl
  | main k => cases k <;> rfl
  | _ => rfl

/-- The complete short item that writes a value under a key. -/
def Key.item (k : Key) (s : SizedValue) : Item :=
  .short (k.cmd ||| s.width.code) s.data (k.spec s.width).1
    (by rw [(k.spec s.width).2.1, s.data_length])

@[simp] theorem Key.item_token (k : Key) (s : SizedValue) :
    (k.item s).token = k.token s.value := by
  simp only [item, Item.token, (k.spec s.width).2.2, s.leValue_data, Key.ofKey_cmd]

/-- A value in one data byte. -/
def SizedValue.byte (v : UInt8) : SizedValue where
  value := v.toUInt32
  width := .one
  fits := by simpa [Width.bytes] using v.toNat_lt

/-- A short item with one data byte. -/
def Key.byte (k : Key) (v : UInt8) : Item :=
  k.item (.byte v)

/-- `RAW_USAGE_PAGE` in two data bytes. -/
def rawUsagePage : SizedValue := ⟨0xFF60, .two, by decide⟩

/-- `UINT8_MAX` in two data bytes. -/
def byteMaximum : SizedValue := ⟨0xFF, .two, by decide⟩

end QmkHidIdentify
