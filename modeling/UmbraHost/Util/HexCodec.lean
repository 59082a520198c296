import UmbraHost.Pairing.Sessions
import UmbraHost.Transition.Fallible

/-! # The hexadecimal codec

`util::hex`, `hex_vec`, `from_hex` and `from_hex_vec` of `utility.h` with their memory accesses
checked.  An object is the list of its bytes. -/

namespace UmbraHost.HexCodec

open UmbraHost.Pairing (Bytes isConvertable convert pairDigits hexDigit)
open UmbraHost.Transition (ok_of_bind)

/-! ## The code -/

inductive Fault where
  /-- A character in front of the text. -/
  | read
  /-- A byte behind the buffer. -/
  | write
deriving DecidableEq

/-- The digits of the bytes in the order of the output. -/
def digitsOf (bytes : Bytes) : Bytes := Pairing.hex bytes

def hex (elem : Bytes) (rev : Bool) : Bytes := digitsOf (if rev then elem else elem.reverse)

def hexVec (bytes : Bytes) (rev : Bool) : Bytes := digitsOf (if rev then bytes else bytes.reverse)

def write (buf : Bytes) (position : Nat) (value : UInt8) : Except Fault Bytes :=
  if position < buf.length then .ok (buf.set position value) else .error .write

/-- `std::fill_n`. -/
def fillN (buf : Bytes) (first : Nat) (value : UInt8) : Nat → Except Fault Bytes
  | 0 => .ok buf
  | count + 1 => do
    let buf ← write buf first value
    fillN buf (first + 1) value count

/-- Down to the next digit, `data` being what is left of the text from its end on. -/
def nextDigit : Bytes → Except Fault (UInt8 × Bytes)
  | [] => .error .read
  | ch :: data => if isConvertable ch then .ok (convert ch, data) else nextDigit data

/-- The loop over `count` bytes of the buffer. -/
def readPairs (buf : Bytes) (position : Nat) (data : Bytes) : Nat → Except Fault Bytes
  | 0 => .ok buf
  | count + 1 => do
    let (right, data) ← nextDigit data
    let (left, data) ← nextDigit data
    let buf ← write buf position (left <<< 4 ||| right)
    readPairs buf (position + 1) data count

def bufSize (hex : Bytes) : Nat := hex.countP isConvertable / 2

/-- `buf` has `sizeof(T)` bytes of any value. -/
def fromHex (buf hex : Bytes) (rev : Bool) : Except Fault Bytes := do
  let padding := UInt64.ofNat buf.length - UInt64.ofNat (bufSize hex)
  let buf ← fillN buf (bufSize hex) 0 padding.toNat
  let buf ← readPairs buf 0 hex.reverse (bufSize hex)
  return if rev then buf.reverse else buf

def fromHexVec (hex : Bytes) (rev : Bool) : Except Fault Bytes := do
  let buf ← readPairs (List.replicate (bufSize hex) 0) 0 hex.reverse (bufSize hex)
  return if rev then buf.reverse else buf

/-! ## Reading -/

/-- The values of the digits among the characters. -/
def digits (data : Bytes) : List UInt8 := (data.filter isConvertable).map convert

theorem length_digits (data : Bytes) : (digits data).length = data.countP isConvertable := by
  rw [digits, List.length_map, List.countP_eq_length_filter]

theorem nextDigit_of_digits {data : Bytes} {digit : UInt8} {later : List UInt8}
    (shape : digits data = digit :: later) :
    ∃ rest, nextDigit data = .ok (digit, rest) ∧ digits rest = later := by
  induction data with
  | nil => simp [digits] at shape
  | cons ch data ih =>
      rw [nextDigit]
      by_cases convertable : isConvertable ch
      · rw [digits, List.filter_cons_of_pos convertable, List.map_cons, List.cons.injEq] at shape
        obtain ⟨rfl, rfl⟩ := shape
        exact ⟨data, by rw [if_pos convertable], rfl⟩
      · rw [if_neg convertable]
        rw [digits, List.filter_cons_of_neg convertable] at shape
        exact ih shape

theorem write_append {front back : Bytes} {old value : UInt8} :
    write (front ++ old :: back) front.length value = .ok (front ++ value :: back) := by
  have inside : front.length < (front ++ old :: back).length := by
    rw [List.length_append, List.length_cons]
    omega
  rw [write, if_pos inside, List.set_append_right _ _ (Nat.le_refl _), Nat.sub_self,
    List.set_cons_zero]

/-- The pairs go where the bytes behind `front` were. -/
theorem readPairs_eq {count : Nat} {front old back data : Bytes} (room : old.length = count)
    (enough : 2 * count ≤ (digits data).length) :
    readPairs (front ++ old ++ back) front.length data count =
      .ok (front ++ pairDigits ((digits data).take (2 * count)) ++ back) := by
  induction count generalizing front old data with
  | zero =>
      rw [List.eq_nil_of_length_eq_zero room, readPairs, Nat.mul_zero, List.take_zero, pairDigits]
      exact fun _ _ _ => nofun
  | succ count ih =>
      obtain ⟨first, old, rfl⟩ := List.exists_cons_of_length_eq_add_one room
      match shape : digits data with
      | [] | [_] =>
          simp only [shape, List.length_nil, List.length_cons] at enough
          omega
      | right :: left :: later =>
          obtain ⟨middle, found_right, rest_right⟩ := nextDigit_of_digits shape
          obtain ⟨rest, found_left, rest_left⟩ := nextDigit_of_digits rest_right
          have remaining : 2 * count ≤ (digits rest).length := by
            rw [shape] at enough
            simp only [List.length_cons] at enough
            rw [rest_left]
            omega
          have step := @ih (front ++ [left <<< 4 ||| right]) old rest
            (Nat.succ.inj room) remaining
          have taken : (right :: left :: later).take (2 * (count + 1)) =
              right :: left :: later.take (2 * count) := rfl
          rw [readPairs, found_right, taken, pairDigits]
          change (nextDigit middle >>= _) = _
          rw [found_left]
          change (write _ _ _ >>= _) = _
          rw [List.append_assoc, List.cons_append, write_append]
          change readPairs _ _ _ _ = _
          rw [rest_left] at step
          simpa using step

/-! ## Writing -/

theorem write_ok {buf result : Bytes} {position : Nat} {value : UInt8}
    (written : write buf position value = .ok result) :
    position < buf.length ∧ result.length = buf.length := by
  rw [write] at written
  split at written
  · next inside =>
      obtain rfl := Except.ok.inj written
      exact ⟨inside, List.length_set⟩
  · cases written

theorem readPairs_ok {count : Nat} {buf data result : Bytes} {position : Nat}
    (done : readPairs buf position data count = .ok result) :
    count = 0 ∨ position + count ≤ buf.length := by
  induction count generalizing buf position data with
  | zero => exact .inl rfl
  | succ count ih =>
      refine .inr ?_
      rw [readPairs] at done
      obtain ⟨⟨right, middle⟩, -, done⟩ := ok_of_bind done
      obtain ⟨⟨left, rest⟩, -, done⟩ := ok_of_bind done
      obtain ⟨next, written, done⟩ := ok_of_bind done
      obtain ⟨inside, length⟩ := write_ok written
      have later := ih done
      omega

theorem fillN_length {count : Nat} {buf result : Bytes} {first : Nat} {value : UInt8}
    (done : fillN buf first value count = .ok result) : result.length = buf.length := by
  induction count generalizing buf first with
  | zero => rw [← Except.ok.inj done]
  | succ count ih =>
      obtain ⟨next, written, done⟩ := ok_of_bind done
      exact (ih done).trans (write_ok written).2

theorem fillN_eq {front old : Bytes} {value : UInt8} :
    fillN (front ++ old) front.length value old.length =
      .ok (front ++ List.replicate old.length value) := by
  induction old generalizing front with
  | nil => rfl
  | cons first old ih =>
      have step := @ih (front ++ [value])
      rw [List.length_cons, fillN, write_append]
      change fillN _ _ _ _ = _
      simpa [List.replicate_succ] using step

/-! ## Results -/

/-- The bytes of a text, from its end on. -/
def pairsOf (hex : Bytes) : Bytes := pairDigits (digits hex.reverse)

theorem length_digits_reverse (hex : Bytes) :
    (digits hex.reverse).length = hex.countP isConvertable := by
  rw [length_digits, List.countP_reverse]

theorem pairDigits_take (values : List UInt8) :
    pairDigits (values.take (2 * (values.length / 2))) = pairDigits values := by
  match values with
  | [] => rfl
  | [_] => simp [pairDigits]
  | right :: left :: rest =>
      have length : (right :: left :: rest).length / 2 = rest.length / 2 + 1 := by
        rw [List.length_cons, List.length_cons]
        omega
      have taken : (right :: left :: rest).take (2 * (rest.length / 2 + 1)) =
          right :: left :: rest.take (2 * (rest.length / 2)) := rfl
      rw [length, taken, pairDigits, pairDigits, pairDigits_take rest]

theorem readPairs_all {old back : Bytes} (hex : Bytes) (room : old.length = bufSize hex) :
    readPairs (old ++ back) 0 hex.reverse (bufSize hex) = .ok (pairsOf hex ++ back) := by
  have whole : bufSize hex = (digits hex.reverse).length / 2 := by
    rw [bufSize, length_digits_reverse]
  have enough : 2 * bufSize hex ≤ (digits hex.reverse).length := by omega
  have read := @readPairs_eq _ [] old back _ room enough
  rwa [List.nil_append, List.nil_append, whole, pairDigits_take, ← whole] at read

theorem fromHexVec_eq (hex : Bytes) (rev : Bool) :
    fromHexVec hex rev = .ok (if rev then (pairsOf hex).reverse else pairsOf hex) := by
  have read := @readPairs_all (List.replicate (bufSize hex) 0) [] hex List.length_replicate
  rw [List.append_nil, List.append_nil] at read
  rw [fromHexVec, read]
  rfl

theorem fromHex_eq {buf hex : Bytes} (small : buf.length < 2 ^ 64)
    (room : bufSize hex ≤ buf.length) (rev : Bool) :
    fromHex buf hex rev =
      let result := pairsOf hex ++ List.replicate (buf.length - bufSize hex) 0
      .ok (if rev then result.reverse else result) := by
  have padding : (UInt64.ofNat buf.length - UInt64.ofNat (bufSize hex)).toNat =
      (buf.drop (bufSize hex)).length := by
    rw [← UInt64.ofNat_sub room, UInt64.toNat_ofNat', List.length_drop]
    exact Nat.mod_eq_of_lt (by omega)
  have front : (buf.take (bufSize hex)).length = bufSize hex := by
    rw [List.length_take]
    omega
  have filled := @fillN_eq (buf.take (bufSize hex)) (buf.drop (bufSize hex)) 0
  rw [List.take_append_drop, front] at filled
  have read := @readPairs_all (buf.take (bufSize hex))
    (List.replicate (buf.drop (bufSize hex)).length 0) hex front
  rw [fromHex, padding, filled]
  change (readPairs _ _ _ _ >>= _) = _
  rw [read, List.length_drop]
  rfl

theorem fromHex_ok {buf hex result : Bytes} {rev : Bool}
    (done : fromHex buf hex rev = .ok result) : bufSize hex ≤ buf.length := by
  obtain ⟨filled, fill, done⟩ := ok_of_bind done
  obtain ⟨_, read, -⟩ := ok_of_bind done
  have length := fillN_length fill
  have bound := readPairs_ok read
  omega

/-! ## What was encoded -/

theorem halves (byte : UInt8) :
    isConvertable (hexDigit (byte / 16)) = true ∧ isConvertable (hexDigit (byte % 16)) = true ∧
      convert (hexDigit (byte / 16)) <<< 4 ||| convert (hexDigit (byte % 16)) = byte := by
  have all : ∀ value < 256, let byte := UInt8.ofNat value
      isConvertable (hexDigit (byte / 16)) = true ∧ isConvertable (hexDigit (byte % 16)) = true ∧
        convert (hexDigit (byte / 16)) <<< 4 ||| convert (hexDigit (byte % 16)) = byte := by
    decide +kernel
  have here := all byte.toNat byte.toNat_lt
  rwa [UInt8.ofNat_toNat] at here

theorem digitsOf_append (front back : Bytes) :
    digitsOf (front ++ back) = digitsOf front ++ digitsOf back :=
  List.flatMap_append

theorem pairsOf_digitsOf (bytes : Bytes) : pairsOf (digitsOf bytes) = bytes.reverse := by
  induction bytes using List.reverseRecOn with
  | nil => rfl
  | append_singleton front byte ih =>
      obtain ⟨high, low, value⟩ := halves byte
      have last : (digitsOf [byte]).reverse = [hexDigit (byte % 16), hexDigit (byte / 16)] := rfl
      rw [pairsOf, digitsOf_append, List.reverse_append, last, List.cons_append, List.cons_append,
        List.nil_append, digits, List.filter_cons_of_pos low, List.filter_cons_of_pos high,
        List.map_cons, List.map_cons, pairDigits, value, List.reverse_append]
      exact congrArg (byte :: ·) ih

theorem bufSize_digitsOf (bytes : Bytes) : bufSize (digitsOf bytes) = bytes.length := by
  have count : (digitsOf bytes).countP isConvertable = 2 * bytes.length := by
    induction bytes with
    | nil => rfl
    | cons byte rest ih =>
        obtain ⟨high, low, -⟩ := halves byte
        have first : digitsOf (byte :: rest) =
            hexDigit (byte / 16) :: hexDigit (byte % 16) :: digitsOf rest := rfl
        rw [first, List.countP_cons_of_pos high, List.countP_cons_of_pos low, ih, List.length_cons]
        omega
  rw [bufSize, count]
  omega

theorem fromHexVec_hexVec (bytes : Bytes) (rev : Bool) :
    fromHexVec (hexVec bytes rev) rev = .ok bytes := by
  rw [fromHexVec_eq, hexVec, pairsOf_digitsOf]
  cases rev <;> simp

theorem fromHex_hex {size : UInt64} (elem buf : Vector UInt8 size.toNat) (rev : Bool) :
    fromHex buf.toList (hex elem.toList rev) rev = .ok elem.toList := by
  have size_of : bufSize (hex elem.toList rev) = buf.toList.length := by
    rw [hex, bufSize_digitsOf]
    cases rev <;> simp
  have small : buf.toList.length < 2 ^ 64 := by simpa using size.toNat_lt
  rw [fromHex_eq small size_of.le, size_of, Nat.sub_self, hex, pairsOf_digitsOf]
  cases rev <;> simp

/-- The vector is decoded from any text within its buffer; the object from a text with at most
two digits or letters for each byte of it, and one odd. -/
theorem codec_bounded (size : UInt64) (buf : Vector UInt8 size.toNat) (text : Bytes)
    (rev : Bool) :
    (∀ elem : Vector UInt8 size.toNat,
      fromHex buf.toList (hex elem.toList rev) rev = .ok elem.toList) ∧
    fromHexVec (hexVec text rev) rev = .ok text ∧
    (∃ bytes, fromHexVec text rev = .ok bytes) ∧
    ((∃ bytes, fromHex buf.toList text rev = .ok bytes) ↔
      text.countP isConvertable < 2 * size.toNat + 2) := by
  refine ⟨fun elem => fromHex_hex elem buf rev, fromHexVec_hexVec text rev,
    ⟨_, fromHexVec_eq text rev⟩, ?_⟩
  have length : buf.toList.length = size.toNat := by simp
  have small : buf.toList.length < 2 ^ 64 := by simpa using size.toNat_lt
  have condition : bufSize text ≤ buf.toList.length ↔
      text.countP isConvertable < 2 * size.toNat + 2 := by
    rw [bufSize, length]
    omega
  rw [← condition]
  constructor
  · rintro ⟨bytes, done⟩
    exact fromHex_ok done
  · intro room
    exact ⟨_, fromHex_eq small room rev⟩

/-- Five bytes for a four-byte integer: `0102030405`. -/
theorem fromHex_overruns :
    digitsOf [1, 2, 3, 4, 5] = [48, 49, 48, 50, 48, 51, 48, 52, 48, 53] ∧
      fromHex (List.replicate 4 0) (digitsOf [1, 2, 3, 4, 5]) false = .error .write :=
  ⟨by decide, by decide⟩

/-! ## The arguments of a pairing -/

theorem pairsOf_eq (text : Bytes) :
    pairsOf text = pairDigits ((text.filter isConvertable).map convert).reverse := by
  rw [pairsOf, digits, List.filter_reverse, List.map_reverse]

theorem fromHexVec_pairing (text : Bytes) :
    fromHexVec text true = .ok (Pairing.fromHexVec text) := by
  rw [fromHexVec_eq, if_pos rfl, pairsOf_eq, Pairing.fromHexVec]

theorem length_pairDigits (values : List UInt8) :
    (pairDigits values).length = values.length / 2 := by
  match values with
  | [] | [_] => simp [pairDigits]
  | right :: left :: rest =>
      rw [pairDigits, List.length_cons, length_pairDigits rest, List.length_cons, List.length_cons]
      omega

/-- Sixteen bytes are cut from the salt, so its key is made within the buffer. -/
theorem fromHex_salt {buf : Bytes} (size : buf.length = 16) (salt : Bytes) :
    fromHex buf (salt.take 32) true = .ok (Pairing.fromHex16 (salt.take 32)) := by
  have few : (salt.take 32).countP isConvertable ≤ 32 :=
    List.countP_le_length.trans (List.length_take_le 32 salt)
  have room : bufSize (salt.take 32) ≤ buf.length := by
    rw [bufSize]
    omega
  have count : (pairsOf (salt.take 32)).length = bufSize (salt.take 32) := by
    rw [pairsOf, length_pairDigits, length_digits_reverse, bufSize]
  rw [fromHex_eq (by omega) room]
  change Except.ok (List.reverse _) = _
  rw [Pairing.fromHex16, ← pairsOf_eq, count, size]

end UmbraHost.HexCodec
