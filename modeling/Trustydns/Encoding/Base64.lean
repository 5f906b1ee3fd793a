import Mathlib.Data.Nat.Bitwise
import Mathlib.Data.List.Basic

/-! # Base64url as Go's `encoding/base64` does it

`URLEncoding` is RFC 4648's base64url alphabet with `=` padding; `RawURLEncoding` is the same
alphabet without padding, the form RFC 8484 prescribes for the `dns` query parameter. The
encoder turns each three bytes into four characters and a final one or two bytes into two or
three characters, padded or not. The decoder is `decodeQuantum` applied until the input is
used up: each call reads up to four characters, skips line breaks, checks the padding and
writes up to three bytes; its errors name the offending input offset. (Go's `Decode` also has
fast paths for eight and four characters of the alphabet at a time; they write what
`decodeQuantum` would write.)

The padded encoding decodes back to the bytes it encodes
(`Trustydns.Base64.URLEncoding_decode_encode`).
-/

namespace Trustydns.Base64

/-- `encodeURL`: the alphabet of RFC 4648 section 5. -/
def encodeURL : List Char :=
  "ABCDEFGHIJKLMNOPQRSTUVWXYZabcdefghijklmnopqrstuvwxyz0123456789-_".toList

/-- `base64.Encoding`: an alphabet and a padding character, `none` for `NoPadding`. -/
structure Encoding where
  encode : List Char
  padChar : Option Char

/-- `base64.URLEncoding`. -/
def URLEncoding : Encoding :=
  ⟨encodeURL, some '='⟩

/-- `base64.RawURLEncoding`: the encoding RFC 8484 prescribes. -/
def RawURLEncoding : Encoding :=
  ⟨encodeURL, none⟩

namespace Encoding

/-- `enc.encode[v]` for a six-bit value `v`. -/
def char (enc : Encoding) (v : Nat) : Char :=
  enc.encode.getD v 'A'

/-- The padding characters written after a short final block. -/
def padding (enc : Encoding) (count : Nat) : List Char :=
  match enc.padChar with
  | some p => List.replicate count p
  | none => []

/-- The loop of `Encode`, then its final short block. -/
def encodeBlocks (enc : Encoding) : List UInt8 → List Char
  | a :: b :: c :: rest =>
      let val := a.toNat <<< 16 ||| b.toNat <<< 8 ||| c.toNat
      [enc.char (val >>> 18 &&& 0x3F), enc.char (val >>> 12 &&& 0x3F),
        enc.char (val >>> 6 &&& 0x3F), enc.char (val &&& 0x3F)] ++ enc.encodeBlocks rest
  | [a, b] =>
      let val := a.toNat <<< 16 ||| b.toNat <<< 8
      [enc.char (val >>> 18 &&& 0x3F), enc.char (val >>> 12 &&& 0x3F),
        enc.char (val >>> 6 &&& 0x3F)] ++ enc.padding 1
  | [a] =>
      let val := a.toNat <<< 16
      [enc.char (val >>> 18 &&& 0x3F), enc.char (val >>> 12 &&& 0x3F)] ++ enc.padding 2
  | [] => []

/-- `EncodeToString`. -/
def EncodeToString (enc : Encoding) (src : List UInt8) : String :=
  String.mk (enc.encodeBlocks src)

/-- `decodeMap`: the value of a character of the alphabet. -/
def decodeChar (enc : Encoding) (c : Char) : Option Nat :=
  enc.encode.indexOf? c

end Encoding

/-- `CorruptInputError.Error()`. -/
def corruptInputError (offset : Nat) : String :=
  "illegal base64 data at input byte " ++ toString offset

/-- The bytes of a quantum of `dlen` characters of values `dbuf`, the missing ones zero. -/
def quantumBytes (dbuf : List Nat) (dlen : Nat) : List UInt8 :=
  let val := dbuf.getD 0 0 <<< 18 ||| dbuf.getD 1 0 <<< 12 ||| dbuf.getD 2 0 <<< 6 ||| dbuf.getD 3 0
  ([val >>> 16, val >>> 8, val].map Nat.toUInt8).take (dlen - 1)

/-- Line breaks skipped from position `si`. -/
def skipNewlines : List Char → Nat → List Char × Nat
  | c :: rest, si => if c = '\n' ∨ c = '\r' then skipNewlines rest (si + 1) else (c :: rest, si)
  | [], si => ([], si)

/-- How a `decodeQuantum` call ends: the rest of the input and its position, the bytes
written, and the error. -/
structure Quantum where
  rest : List Char
  si : Nat
  bytes : List UInt8
  err : Option String

/-- The padding check of `decodeQuantum` after a padding character at quantum position `j`
(2 or 3): a second padding character is needed after position 2; then only line breaks may
follow. -/
def afterPadding (enc : Encoding) (total j : Nat) (dbuf : List Nat) (rest : List Char)
    (si : Nat) : Quantum :=
  let second : Except String (List Char × Nat) :=
    if j = 2 then
      match skipNewlines rest si with
      | ([], _) => .error (corruptInputError total)
      | (c :: more, si) =>
          if some c ≠ enc.padChar then .error (corruptInputError (si - 1)) else .ok (more, si + 1)
    else .ok (rest, si)
  match second with
  | .error err => ⟨[], si, [], some err⟩
  | .ok (rest, si) =>
      let (rest, si) := skipNewlines rest si
      ⟨rest, si, quantumBytes dbuf j, if rest.isEmpty then none else some (corruptInputError si)⟩

/-- The loop of `decodeQuantum` with `j` characters read, of values `dbuf`, at position `si`
of an input of `total` characters. -/
def quantumLoop (enc : Encoding) (total : Nat) : Nat → List Nat → List Char → Nat → Quantum
  | j, dbuf, [], si =>
      if j = 0 then ⟨[], si, [], none⟩
      else if j = 1 ∨ enc.padChar.isSome then ⟨[], si, [], some (corruptInputError (si - j))⟩
      else ⟨[], si, quantumBytes dbuf j, none⟩
  | j, dbuf, c :: rest, si =>
      match enc.decodeChar c with
      | some v =>
          if j + 1 = 4 then ⟨rest, si + 1, quantumBytes (dbuf ++ [v]) 4, none⟩
          else quantumLoop enc total (j + 1) (dbuf ++ [v]) rest (si + 1)
      | none =>
          if c = '\n' ∨ c = '\r' then quantumLoop enc total j dbuf rest (si + 1)
          else if some c ≠ enc.padChar then ⟨[], si + 1, [], some (corruptInputError si)⟩
          else if j = 0 ∨ j = 1 then ⟨[], si + 1, [], some (corruptInputError si)⟩
          else afterPadding enc total j dbuf rest (si + 1)

/-- `Decode`'s loop of `decodeQuantum` calls; each call reads a character at least, so the
input length is fuel enough. -/
def decodeLoop (enc : Encoding) (total : Nat) : Nat → List Char → Nat → List UInt8 →
    List UInt8 × Option String
  | 0, _, _, written => (written, none)
  | fuel + 1, src, si, written =>
      if src.isEmpty then (written, none)
      else
        let q := quantumLoop enc total 0 [] src si
        match q.err with
        | some err => (written ++ q.bytes, some err)
        | none => decodeLoop enc total fuel q.rest q.si (written ++ q.bytes)

/-- `DecodeString`: the bytes, or the error. -/
def Encoding.DecodeString (enc : Encoding) (s : String) : Except String (List UInt8) :=
  match decodeLoop enc s.length s.length s.toList 0 [] with
  | (_, some err) => .error err
  | (bytes, none) => .ok bytes

example : URLEncoding.EncodeToString [0xfb, 0xff] = "-_8=" := by decide

example : RawURLEncoding.EncodeToString [0xfb, 0xff] = "-_8" := by decide

/-! ## The padded encoding decodes back -/

theorem or_eq_add_of_lt (x y k : Nat) (aligned : x % 2 ^ k = 0) (low : y < 2 ^ k) :
    x ||| y = x + y := by
  have split : x = 2 ^ k * (x / 2 ^ k) := by
    have := Nat.div_add_mod x (2 ^ k)
    omega
  rw [split, ← Nat.mul_add_lt_is_or low]

theorem lowBits_eq (x : Nat) : x &&& 0x3F = x % 64 := by
  rw [show (0x3F : Nat) = 2 ^ 6 - 1 from rfl, Nat.and_pow_two_sub_one_eq_mod]

theorem sixBits_eq (x k : Nat) : x >>> k &&& 0x3F = x / 2 ^ k % 64 := by
  rw [Nat.shiftRight_eq_div_pow, lowBits_eq]

/-- Three bytes as `Encode` assembles them. -/
theorem block_val (a b c : UInt8) :
    a.toNat <<< 16 ||| b.toNat <<< 8 ||| c.toNat = a.toNat * 65536 + b.toNat * 256 + c.toNat := by
  have ha := a.toNat_lt_size
  have hb := b.toNat_lt_size
  have hc := c.toNat_lt_size
  simp only [UInt8.size] at ha hb hc
  rw [Nat.shiftLeft_eq, Nat.shiftLeft_eq,
    or_eq_add_of_lt (a.toNat * 2 ^ 16) (b.toNat * 2 ^ 8) 16 (by omega) (by omega),
    or_eq_add_of_lt _ c.toNat 8 (by omega) (by omega)]

/-- Four six-bit values as `decodeQuantum` assembles them. -/
theorem quantum_val {d0 d1 d2 d3 : Nat} (h1 : d1 < 64) (h2 : d2 < 64) (h3 : d3 < 64) :
    d0 <<< 18 ||| d1 <<< 12 ||| d2 <<< 6 ||| d3 = d0 * 262144 + d1 * 4096 + d2 * 64 + d3 := by
  rw [Nat.shiftLeft_eq, Nat.shiftLeft_eq, Nat.shiftLeft_eq,
    or_eq_add_of_lt (d0 * 2 ^ 18) (d1 * 2 ^ 12) 18 (by omega) (by omega),
    or_eq_add_of_lt _ (d2 * 2 ^ 6) 12 (by omega) (by omega),
    or_eq_add_of_lt _ d3 6 (by omega) (by omega)]

theorem toNat_toUInt8 (n : Nat) : (Nat.toUInt8 n).toNat = n % 256 := rfl

theorem toUInt8_eq {n : Nat} {a : UInt8} (same : n % 256 = a.toNat) : Nat.toUInt8 n = a :=
  UInt8.toNat.inj (by rw [toNat_toUInt8, same])

/-- Every six-bit value's character decodes to it. -/
theorem decodeChar_char : ∀ v : Fin 64, URLEncoding.decodeChar (URLEncoding.char v) = some v.val := by
  decide

theorem decodeChar_sixBits (x k : Nat) :
    URLEncoding.decodeChar (URLEncoding.char (x >>> k &&& 0x3F)) = some (x >>> k &&& 0x3F) := by
  have small : x >>> k &&& 0x3F < 64 := by rw [sixBits_eq]; omega
  exact decodeChar_char ⟨_, small⟩

theorem decodeChar_pad : URLEncoding.decodeChar '=' = none := by decide

@[simp] theorem URLEncoding_padChar : URLEncoding.padChar = some '=' := rfl

theorem decodeChar_low (x : Nat) :
    URLEncoding.decodeChar (URLEncoding.char (x &&& 0x3F)) = some (x &&& 0x3F) := by
  simpa using decodeChar_sixBits x 0

/-- Four characters of the alphabet are one quantum. -/
theorem quantumLoop_four {enc : Encoding} {total : Nat} {c0 c1 c2 c3 : Char} {d0 d1 d2 d3 : Nat}
    (h0 : enc.decodeChar c0 = some d0) (h1 : enc.decodeChar c1 = some d1)
    (h2 : enc.decodeChar c2 = some d2) (h3 : enc.decodeChar c3 = some d3) (rest : List Char)
    (si : Nat) :
    quantumLoop enc total 0 [] (c0 :: c1 :: c2 :: c3 :: rest) si =
      ⟨rest, si + 4, quantumBytes [d0, d1, d2, d3] 4, none⟩ := by
  simp [quantumLoop, h0, h1, h2, h3]

/-- The quantum of a full block gives its three bytes back. -/
theorem quantumBytes_block (a b c : UInt8) :
    quantumBytes [(a.toNat <<< 16 ||| b.toNat <<< 8 ||| c.toNat) >>> 18 &&& 0x3F,
      (a.toNat <<< 16 ||| b.toNat <<< 8 ||| c.toNat) >>> 12 &&& 0x3F,
      (a.toNat <<< 16 ||| b.toNat <<< 8 ||| c.toNat) >>> 6 &&& 0x3F,
      (a.toNat <<< 16 ||| b.toNat <<< 8 ||| c.toNat) &&& 0x3F] 4 = [a, b, c] := by
  have ha := a.toNat_lt_size
  have hb := b.toNat_lt_size
  have hc := c.toNat_lt_size
  simp only [UInt8.size] at ha hb hc
  simp only [quantumBytes, List.getD_cons_zero, List.getD_cons_succ, sixBits_eq, lowBits_eq,
    block_val]
  rw [quantum_val (by omega) (by omega) (by omega)]
  simp only [Nat.shiftRight_eq_div_pow, List.map, List.take, Nat.add_one_sub_one]
  have reassembled : ∀ v < 2 ^ 24,
      v / 2 ^ 18 % 64 * 262144 + v / 2 ^ 12 % 64 * 4096 + v / 2 ^ 6 % 64 * 64 + v % 64 = v := by
    intro v small
    omega
  rw [reassembled _ (by omega)]
  simp only [List.cons.injEq, and_true]
  exact ⟨toUInt8_eq (by omega), toUInt8_eq (by omega), toUInt8_eq (by omega)⟩

/-- A final block of two bytes: three characters and one padding character. -/
theorem quantumLoop_three_pad {total : Nat} {c0 c1 c2 : Char} {d0 d1 d2 : Nat}
    (h0 : URLEncoding.decodeChar c0 = some d0) (h1 : URLEncoding.decodeChar c1 = some d1)
    (h2 : URLEncoding.decodeChar c2 = some d2) (si : Nat) :
    quantumLoop URLEncoding total 0 [] [c0, c1, c2, '='] si =
      ⟨[], si + 4, quantumBytes [d0, d1, d2] 3, none⟩ := by
  simp [quantumLoop, h0, h1, h2, decodeChar_pad, afterPadding, skipNewlines]

/-- A final block of one byte: two characters and two padding characters. -/
theorem quantumLoop_two_pad {total : Nat} {c0 c1 : Char} {d0 d1 : Nat}
    (h0 : URLEncoding.decodeChar c0 = some d0) (h1 : URLEncoding.decodeChar c1 = some d1)
    (si : Nat) :
    quantumLoop URLEncoding total 0 [] [c0, c1, '=', '='] si =
      ⟨[], si + 4, quantumBytes [d0, d1] 2, none⟩ := by
  simp [quantumLoop, h0, h1, decodeChar_pad, afterPadding, skipNewlines]

theorem quantumBytes_pair (a b : UInt8) :
    quantumBytes [(a.toNat <<< 16 ||| b.toNat <<< 8) >>> 18 &&& 0x3F,
      (a.toNat <<< 16 ||| b.toNat <<< 8) >>> 12 &&& 0x3F,
      (a.toNat <<< 16 ||| b.toNat <<< 8) >>> 6 &&& 0x3F] 3 = [a, b] := by
  have ha := a.toNat_lt_size
  have hb := b.toNat_lt_size
  simp only [UInt8.size] at ha hb
  have pair : a.toNat <<< 16 ||| b.toNat <<< 8 = a.toNat * 65536 + b.toNat * 256 := by
    rw [Nat.shiftLeft_eq, Nat.shiftLeft_eq,
      or_eq_add_of_lt (a.toNat * 2 ^ 16) (b.toNat * 2 ^ 8) 16 (by omega) (by omega)]
  simp only [quantumBytes, List.getD_cons_zero, List.getD_cons_succ, List.getD_nil, sixBits_eq,
    pair]
  rw [quantum_val (by omega) (by omega) (by omega)]
  simp only [Nat.shiftRight_eq_div_pow, List.map, List.take, Nat.add_one_sub_one]
  have reassembled : ∀ v < 2 ^ 24, v % 64 = 0 →
      v / 2 ^ 18 % 64 * 262144 + v / 2 ^ 12 % 64 * 4096 + v / 2 ^ 6 % 64 * 64 + 0 = v := by
    intro v small aligned
    omega
  rw [reassembled _ (by omega) (by omega)]
  simp only [List.cons.injEq, and_true]
  exact ⟨toUInt8_eq (by omega), toUInt8_eq (by omega)⟩

theorem quantumBytes_single (a : UInt8) :
    quantumBytes [a.toNat <<< 16 >>> 18 &&& 0x3F, a.toNat <<< 16 >>> 12 &&& 0x3F] 2 = [a] := by
  have ha := a.toNat_lt_size
  simp only [UInt8.size] at ha
  have single : a.toNat <<< 16 = a.toNat * 65536 := Nat.shiftLeft_eq _ _
  simp only [quantumBytes, List.getD_cons_zero, List.getD_cons_succ, List.getD_nil, sixBits_eq,
    single]
  rw [quantum_val (by omega) (by omega) (by omega)]
  simp only [Nat.shiftRight_eq_div_pow, List.map, List.take, Nat.add_one_sub_one]
  exact congrArg (· :: []) (toUInt8_eq (by omega))

theorem decodeLoop_nil (enc : Encoding) (total fuel si : Nat) (written : List UInt8) :
    decodeLoop enc total fuel [] si written = (written, none) := by
  cases fuel <;> rfl

/-- **The decoder undoes the padded encoder**, block by block, given a turn of the loop per
block and one more. -/
theorem decodeLoop_encodeBlocks (total : Nat) (src : List UInt8) :
    ∀ (fuel si : Nat) (written : List UInt8), (src.length + 2) / 3 < fuel →
      decodeLoop URLEncoding total fuel (URLEncoding.encodeBlocks src) si written =
        (written ++ src, none) := by
  induction src using Encoding.encodeBlocks.induct URLEncoding with
  | case1 a b c rest ih =>
      intro fuel si written enough
      obtain ⟨fuel, rfl⟩ : ∃ f, fuel = f + 1 := ⟨fuel - 1, by omega⟩
      simp only [Encoding.encodeBlocks, List.cons_append, List.nil_append, decodeLoop,
        List.isEmpty_cons, Bool.false_eq_true, ↓reduceIte]
      rw [quantumLoop_four (decodeChar_sixBits _ 18) (decodeChar_sixBits _ 12)
        (decodeChar_sixBits _ 6) (decodeChar_low _), quantumBytes_block]
      rw [ih fuel (si + 4) _ (by simp at enough; omega)]
      simp
  | case2 a b =>
      intro fuel si written enough
      obtain ⟨fuel, rfl⟩ : ∃ f, fuel = f + 1 := ⟨fuel - 1, by omega⟩
      simp only [Encoding.encodeBlocks, Encoding.padding, URLEncoding_padChar, List.replicate,
        List.cons_append, List.nil_append, decodeLoop, List.isEmpty_cons, Bool.false_eq_true,
        ↓reduceIte]
      rw [quantumLoop_three_pad (decodeChar_sixBits _ 18) (decodeChar_sixBits _ 12)
        (decodeChar_sixBits _ 6), quantumBytes_pair, decodeLoop_nil]
  | case3 a =>
      intro fuel si written enough
      obtain ⟨fuel, rfl⟩ : ∃ f, fuel = f + 1 := ⟨fuel - 1, by omega⟩
      simp only [Encoding.encodeBlocks, Encoding.padding, URLEncoding_padChar, List.replicate,
        List.cons_append, List.nil_append, decodeLoop, List.isEmpty_cons, Bool.false_eq_true,
        ↓reduceIte]
      rw [quantumLoop_two_pad (decodeChar_sixBits _ 18) (decodeChar_sixBits _ 12),
        quantumBytes_single, decodeLoop_nil]
  | case4 =>
      intro fuel si written _
      rw [List.append_nil]
      exact decodeLoop_nil _ _ _ _ _

theorem length_encodeBlocks (src : List UInt8) :
    (URLEncoding.encodeBlocks src).length = 4 * ((src.length + 2) / 3) := by
  induction src using Encoding.encodeBlocks.induct URLEncoding with
  | case1 a b c rest ih =>
      simp only [Encoding.encodeBlocks, List.length_append, ih, List.length_cons, List.length_nil]
      omega
  | case2 a b => simp [Encoding.encodeBlocks, Encoding.padding]
  | case3 a => simp [Encoding.encodeBlocks, Encoding.padding]
  | case4 => rfl

/-- **`URLEncoding` round trip**: decoding the padded encoding of any bytes gives them back. -/
theorem URLEncoding_decode_encode (src : List UInt8) :
    URLEncoding.DecodeString (URLEncoding.EncodeToString src) = .ok src := by
  unfold Encoding.DecodeString Encoding.EncodeToString
  have length : (String.mk (URLEncoding.encodeBlocks src)).length =
      4 * ((src.length + 2) / 3) := length_encodeBlocks src
  cases src with
  | nil => rfl
  | cons byte rest =>
      rw [length, String.toList, decodeLoop_encodeBlocks _ _ _ _ _ (by simp; omega)]
      rfl

/-! ## The unpadded encoding under the padded decoder -/

@[simp] theorem RawURLEncoding_char (v : Nat) : RawURLEncoding.char v = URLEncoding.char v := rfl

@[simp] theorem RawURLEncoding_padChar : RawURLEncoding.padChar = none := rfl

/-- The padded encoding is the unpadded one with an `=` for each byte its final block lacks. -/
theorem URLEncoding_encodeBlocks (src : List UInt8) :
    URLEncoding.encodeBlocks src =
      RawURLEncoding.encodeBlocks src ++ List.replicate ((3 - src.length % 3) % 3) '=' := by
  induction src using Encoding.encodeBlocks.induct URLEncoding with
  | case1 a b c rest ih =>
      have same : (3 - (rest.length + 1 + 1 + 1) % 3) % 3 = (3 - rest.length % 3) % 3 := by omega
      simp only [Encoding.encodeBlocks, ih, List.length_cons, same, RawURLEncoding_char,
        List.append_assoc]
  | case2 a b => simp [Encoding.encodeBlocks, Encoding.padding]
  | case3 a => simp [Encoding.encodeBlocks, Encoding.padding]
  | case4 => rfl

/-- The two encodings agree exactly on the byte strings of a length divisible by 3. -/
theorem EncodeToString_eq_raw_iff (src : List UInt8) :
    URLEncoding.EncodeToString src = RawURLEncoding.EncodeToString src ↔ src.length % 3 = 0 := by
  have injective : ∀ l₁ l₂ : List Char, String.mk l₁ = String.mk l₂ ↔ l₁ = l₂ :=
    fun _ _ => ⟨congrArg String.data, congrArg String.mk⟩
  rw [Encoding.EncodeToString, Encoding.EncodeToString, injective, URLEncoding_encodeBlocks,
    List.append_right_eq_self, List.replicate_eq_nil_iff]
  omega

/-- A final block of two bytes left unpadded: three characters, then the end of the input. -/
theorem quantumLoop_three_end {total : Nat} {c0 c1 c2 : Char} {d0 d1 d2 : Nat}
    (h0 : URLEncoding.decodeChar c0 = some d0) (h1 : URLEncoding.decodeChar c1 = some d1)
    (h2 : URLEncoding.decodeChar c2 = some d2) (si : Nat) :
    quantumLoop URLEncoding total 0 [] [c0, c1, c2] si =
      ⟨[], si + 3, [], some (corruptInputError si)⟩ := by
  simp [quantumLoop, h0, h1, h2]

/-- A final block of one byte left unpadded: two characters, then the end of the input. -/
theorem quantumLoop_two_end {total : Nat} {c0 c1 : Char} {d0 d1 : Nat}
    (h0 : URLEncoding.decodeChar c0 = some d0) (h1 : URLEncoding.decodeChar c1 = some d1)
    (si : Nat) :
    quantumLoop URLEncoding total 0 [] [c0, c1] si =
      ⟨[], si + 2, [], some (corruptInputError si)⟩ := by
  simp [quantumLoop, h0, h1]

/-- **The padded decoder stops at an unpadded final block**: the whole blocks of the unpadded
encoding decode, and a final block of two or three characters is an error at its first
character. -/
theorem decodeLoop_rawEncodeBlocks (total : Nat) (src : List UInt8) :
    ∀ (fuel si : Nat) (written : List UInt8), (src.length + 2) / 3 < fuel →
      (decodeLoop URLEncoding total fuel (RawURLEncoding.encodeBlocks src) si written).2 =
        if src.length % 3 = 0 then none else some (corruptInputError (si + 4 * (src.length / 3))) := by
  induction src using Encoding.encodeBlocks.induct RawURLEncoding with
  | case1 a b c rest ih =>
      intro fuel si written enough
      obtain ⟨fuel, rfl⟩ : ∃ f, fuel = f + 1 := ⟨fuel - 1, by omega⟩
      simp only [Encoding.encodeBlocks, RawURLEncoding_char, List.cons_append, List.nil_append,
        decodeLoop, List.isEmpty_cons, Bool.false_eq_true, ↓reduceIte,
        quantumLoop_four (decodeChar_sixBits _ 18) (decodeChar_sixBits _ 12)
          (decodeChar_sixBits _ 6) (decodeChar_low _)]
      rw [ih fuel (si + 4) _ (by simp at enough; omega)]
      have aligned : (rest.length + 1 + 1 + 1) % 3 = rest.length % 3 := by omega
      have offset : si + 4 + 4 * (rest.length / 3) = si + 4 * ((rest.length + 1 + 1 + 1) / 3) := by
        omega
      simp only [List.length_cons, aligned, offset]
  | case2 a b =>
      intro fuel si written enough
      obtain ⟨fuel, rfl⟩ : ∃ f, fuel = f + 1 := ⟨fuel - 1, by omega⟩
      simp only [Encoding.encodeBlocks, Encoding.padding, RawURLEncoding_padChar,
        RawURLEncoding_char, List.cons_append, List.nil_append, List.append_nil, decodeLoop,
        List.isEmpty_cons, Bool.false_eq_true, ↓reduceIte,
        quantumLoop_three_end (decodeChar_sixBits _ 18) (decodeChar_sixBits _ 12)
          (decodeChar_sixBits _ 6)]
      simp
  | case3 a =>
      intro fuel si written enough
      obtain ⟨fuel, rfl⟩ : ∃ f, fuel = f + 1 := ⟨fuel - 1, by omega⟩
      simp only [Encoding.encodeBlocks, Encoding.padding, RawURLEncoding_padChar,
        RawURLEncoding_char, List.cons_append, List.nil_append, List.append_nil, decodeLoop,
        List.isEmpty_cons, Bool.false_eq_true, ↓reduceIte,
        quantumLoop_two_end (decodeChar_sixBits _ 18) (decodeChar_sixBits _ 12)]
      simp
  | case4 =>
      intro fuel si written _
      simp [Encoding.encodeBlocks, decodeLoop_nil]

/-- **The padded decoder on the unpadded encoding**: it decodes the byte strings of a length
divisible by 3, for which the two encodings agree, and rejects every other one at the first
character of its final block. -/
theorem URLEncoding_decode_rawEncode (src : List UInt8) :
    URLEncoding.DecodeString (RawURLEncoding.EncodeToString src) =
      if src.length % 3 = 0 then .ok src else .error (corruptInputError (4 * (src.length / 3))) := by
  split_ifs with aligned
  · rw [← (EncodeToString_eq_raw_iff src).mpr aligned]
    exact URLEncoding_decode_encode src
  · have length : (RawURLEncoding.encodeBlocks src).length + (3 - src.length % 3) % 3 =
        4 * ((src.length + 2) / 3) := by
      rw [← length_encodeBlocks, URLEncoding_encodeBlocks, List.length_append,
        List.length_replicate]
    unfold Encoding.DecodeString Encoding.EncodeToString
    have stops := decodeLoop_rawEncodeBlocks (String.mk (RawURLEncoding.encodeBlocks src)).length
      src (String.mk (RawURLEncoding.encodeBlocks src)).length 0 []
      (by simp only [String.length_mk]; omega)
    rw [if_neg aligned, zero_add] at stops
    simp only [String.toList] at stops ⊢
    rw [Prod.snd_eq_iff] at stops
    rw [stops]

end Trustydns.Base64
