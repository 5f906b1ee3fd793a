import Trustydns.Foundation.Go
import Mathlib.Data.List.Basic

/-! # IP addresses as Go's `net` package handles them

`net.IP` is a byte slice: `ParseIP` always returns the sixteen-byte form, IPv4 addresses as
IPv4-mapped IPv6 addresses, and `To4`, `To16` convert between the forms. The parsers are those
of Go 1.19, the version the module file names: dotted decimal without leading zeros, and the
RFC 4291 text form with at most one `::` and an optional trailing dotted quad. Strings are read
as lists of characters, which agrees with Go's byte indexing on the ASCII text addresses are
written in.
-/

namespace Trustydns.Net

/-- `net.IP`: the bytes of an address. -/
abbrev IP := List UInt8

def IPv4len : Nat := 4

def IPv6len : Nat := 16

/-- The twelve bytes before an IPv4 address in its sixteen-byte form. -/
def v4InV6Prefix : IP := [0, 0, 0, 0, 0, 0, 0, 0, 0, 0, 0xff, 0xff]

/-- `net.IPv4`: the sixteen-byte form of an IPv4 address. -/
def IPv4 (a b c d : UInt8) : IP :=
  v4InV6Prefix ++ [a, b, c, d]

/-- `IP.To4`: the four-byte form of an IPv4 address, `none` (Go's `nil`) for any other. -/
def To4 (ip : IP) : Option IP :=
  if ip.length = IPv4len then some ip
  else if ip.length = IPv6len ∧ ip.take 12 = v4InV6Prefix then some (ip.drop 12)
  else none

/-- `IP.To16`: the sixteen-byte form of any address of a valid length. -/
def To16 (ip : IP) : Option IP :=
  if ip.length = IPv4len then some (v4InV6Prefix ++ ip)
  else if ip.length = IPv6len then some ip
  else none

/-- `big`: the bound past which `dtoi` and `xtoi` give up. -/
def big : Nat := 0xFFFFFF

/-- The loop of `dtoi` after `i` digits worth `n`: the value, the digits read, and success. -/
def dtoiLoop (n i : Nat) : List Char → Nat × Nat × Bool
  | c :: rest =>
      if c.isDigit then
        let n := n * 10 + (c.toNat - '0'.toNat)
        if n ≥ big then (big, i, false) else dtoiLoop n (i + 1) rest
      else if i = 0 then (0, 0, false) else (n, i, true)
  | [] => if i = 0 then (0, 0, false) else (n, i, true)

/-- `dtoi`: the decimal number at the start of a string. -/
def dtoi (s : List Char) : Nat × Nat × Bool :=
  dtoiLoop 0 0 s

/-- The value of a hexadecimal digit. -/
def hexDigit (c : Char) : Option Nat :=
  if c.isDigit then some (c.toNat - '0'.toNat)
  else if 'a' ≤ c ∧ c ≤ 'f' then some (c.toNat - 'a'.toNat + 10)
  else if 'A' ≤ c ∧ c ≤ 'F' then some (c.toNat - 'A'.toNat + 10)
  else none

/-- The loop of `xtoi` after `i` digits worth `n`. -/
def xtoiLoop (n i : Nat) : List Char → Nat × Nat × Bool
  | c :: rest =>
      match hexDigit c with
      | some d =>
          let n := n * 16 + d
          if n ≥ big then (0, i, false) else xtoiLoop n (i + 1) rest
      | none => if i = 0 then (0, i, false) else (n, i, true)
  | [] => if i = 0 then (0, i, false) else (n, i, true)

/-- `xtoi`: the hexadecimal number at the start of a string. -/
def xtoi (s : List Char) : Nat × Nat × Bool :=
  xtoiLoop 0 0 s

/-- The loop of `parseIPv4` over its `k` remaining octets, the octet index being `i`: the
octets and the unread rest, `none` where Go returns `nil`. -/
def parseIPv4Loop : Nat → Nat → List Char → Option (List UInt8 × List Char)
  | 0, _, s => some ([], s)
  | k + 1, i, s =>
      if s.isEmpty then none
      else
        let afterDot := if i > 0 then (if s.head? = some '.' then some s.tail else none)
          else some s
        match afterDot with
        | none => none
        | some s =>
            let (n, c, ok) := dtoi s
            if !ok || n > 0xFF then none
            else if c > 1 ∧ s.head? = some '0' then none
            else (parseIPv4Loop k (i + 1) (s.drop c)).map
              fun (octets, rest) => (n.toUInt8 :: octets, rest)

/-- `parseIPv4`: four decimal octets and nothing after them. -/
def parseIPv4 (s : List Char) : Option IP :=
  match parseIPv4Loop IPv4len 0 s with
  | some ([a, b, c, d], []) => some (IPv4 a b c d)
  | _ => none

/-- The loop of `parseIPv6`: the bytes parsed so far, the position of the `::` if one was
read, and the unread rest. The loop runs while fewer than sixteen bytes are parsed and every
turn adds two, so eight turns of `fuel` are exactly Go's loop condition. -/
def parseIPv6Loop : Nat → List UInt8 → Option Nat → List Char →
    Option (List UInt8 × Option Nat × List Char)
  | 0, ip, ellipsis, s => some (ip, ellipsis, s)
  | fuel + 1, ip, ellipsis, s =>
      let (n, c, ok) := xtoi s
      if !ok || n > 0xFFFF then none
      else if s[c]? = some '.' then
        if ellipsis.isNone ∧ ip.length ≠ IPv6len - IPv4len then none
        else if ip.length + IPv4len > IPv6len then none
        else (parseIPv4 s).map fun ip4 => (ip ++ ip4.drop 12, ellipsis, [])
      else
        let ip := ip ++ [(n / 256).toUInt8, n.toUInt8]
        let s := s.drop c
        if s.isEmpty then some (ip, ellipsis, s)
        else if s.head? ≠ some ':' ∨ s.length = 1 then none
        else if s.tail.head? = some ':' then
          if ellipsis.isSome then none
          else if s.tail.tail.isEmpty then some (ip, some ip.length, [])
          else parseIPv6Loop fuel ip (some ip.length) s.tail.tail
        else parseIPv6Loop fuel ip ellipsis s.tail

/-- `parseIPv6`: the groups, then the `::` expanded to the zero bytes that are missing. -/
def parseIPv6 (s : List Char) : Option IP :=
  let (ellipsis, s) := if s.take 2 = [':', ':'] then (some 0, s.drop 2) else (none, s)
  if ellipsis.isSome ∧ s.isEmpty then some (List.replicate IPv6len 0)
  else
    match parseIPv6Loop 8 [] ellipsis s with
    | none => none
    | some (ip, ellipsis, rest) =>
        if !rest.isEmpty then none
        else if ip.length < IPv6len then
          ellipsis.map fun e => ip.take e ++ List.replicate (IPv6len - ip.length) 0 ++ ip.drop e
        else if ellipsis.isSome then none
        else some ip

/-- `net.ParseIP`: the first `.` or `:` decides the family. -/
def ParseIP (s : String) : Option IP :=
  match s.toList.find? fun c => c = '.' ∨ c = ':' with
  | some '.' => parseIPv4 s.toList
  | some ':' => parseIPv6 s.toList
  | _ => none

/-! ## Masks and text forms -/

/-- `net.IPMask`: the bytes of a mask. -/
abbrev IPMask := List UInt8

/-- `net.IPNet`: an address and a mask. -/
structure IPNet where
  IP : IP
  Mask : IPMask

/-- The leading one bits of a byte, counted by shifting it left, and the byte left after them. -/
def leadingOnes : Nat → UInt8 → Nat × UInt8
  | 0, v => (0, v)
  | fuel + 1, v =>
      if v &&& 0x80 ≠ 0 then
        let (ones, rest) := leadingOnes fuel (v <<< 1)
        (ones + 1, rest)
      else (0, v)

/-- `simpleMaskLength`: the number of leading one bits of a canonical mask, `none` (Go's `-1`)
for any other. -/
def simpleMaskLength : IPMask → Option Nat
  | [] => some 0
  | v :: rest =>
      if v = 0xff then (simpleMaskLength rest).map (· + 8)
      else
        let (ones, left) := leadingOnes 8 v
        if left ≠ 0 then none else if rest.all (· = 0) then some ones else none

/-- `IPMask.Size`: the leading ones and the bits of a canonical mask, `(0, 0)` for any other. -/
def IPMask.Size (m : IPMask) : Nat × Nat :=
  match simpleMaskLength m with
  | some ones => (ones, m.length * 8)
  | none => (0, 0)

example : IPMask.Size [0xff, 0xff, 0xf0, 0] = (20, 32) := by decide

/-- `hexString`: two lower-case hexadecimal digits a byte. -/
def hexString (bytes : List UInt8) : String :=
  String.mk (bytes.flatMap fun b => [Nat.digitChar (b.toNat / 16), Nat.digitChar (b.toNat % 16)])

/-- The sixteen-bit groups of an address. -/
def groups : List UInt8 → List Nat
  | hi :: lo :: rest => (hi.toNat * 256 + lo.toNat) :: groups rest
  | _ => []

/-- The number of zero groups at the start of a list. -/
def zeroRun : List Nat → Nat
  | 0 :: rest => zeroRun rest + 1
  | _ => 0

/-- The first of the longest runs of zero groups, as start and length: the run `IP.String`
finds. -/
def longestZeroRun (gs : List Nat) : Nat × Nat :=
  (List.range gs.length).foldl
    (fun best k => if zeroRun (gs.drop k) > best.2 then (k, zeroRun (gs.drop k)) else best) (0, 0)

/-- The groups from position `k` on, colon-separated in hexadecimal, with `::` in place of the
groups `e0 ≤ k < e1` of the run. -/
def writeGroups (run : Option (Nat × Nat)) : Nat → List Nat → List Char
  | _, [] => []
  | k, g :: rest =>
      match run with
      | some (e0, e1) =>
          if k = e0 then [':', ':'] ++ writeGroups run (k + 1) rest
          else if e0 < k ∧ k < e1 then writeGroups run (k + 1) rest
          else (if k > 0 ∧ k ≠ e1 then [':'] else []) ++ Nat.toDigits 16 g ++
            writeGroups run (k + 1) rest
      | none => (if k > 0 then [':'] else []) ++ Nat.toDigits 16 g ++ writeGroups run (k + 1) rest

/-- `IP.String`: dotted decimal for an address with a four-byte form, the RFC 5952 form for
any other sixteen-byte one, where only a run of two zero groups or more becomes `::`. -/
def IP.String (ip : IP) : String :=
  if ip.isEmpty then "<nil>"
  else
    match To4 ip with
    | some [a, b, c, d] =>
        toString a.toNat ++ "." ++ toString b.toNat ++ "." ++ toString c.toNat ++ "." ++
          toString d.toNat
    | _ =>
        if ip.length ≠ IPv6len then "?" ++ hexString ip
        else
          let (e0, length) := longestZeroRun (groups ip)
          String.mk (writeGroups (if length ≥ 2 then some (e0, e0 + length) else none) 0
            (groups ip))

example : IP.String [0x20, 0x01, 0x0d, 0xb8, 0, 0, 0, 0, 0, 0, 0, 0, 0, 0, 0, 1] =
    "2001:db8::1" := by decide

/-- `IPMask.String`. -/
def IPMask.String (m : IPMask) : String :=
  if m.isEmpty then "<nil>" else hexString m

/-- `networkNumberAndMask`: the address in the length of its family and a mask of the same
length. -/
def networkNumberAndMask (n : IPNet) : Option (IP × IPMask) :=
  let ip := (To4 n.IP).getD n.IP
  if (To4 n.IP).isNone ∧ ip.length ≠ IPv6len then none
  else if n.Mask.length = IPv4len then
    if ip.length ≠ IPv4len then none else some (ip, n.Mask)
  else if n.Mask.length = IPv6len then
    some (ip, if ip.length = IPv4len then n.Mask.drop 12 else n.Mask)
  else none

/-- `IPNet.String`: the CIDR form, with the mask in hexadecimal when it is not canonical. -/
def IPNet.String (n : IPNet) : String :=
  match networkNumberAndMask n with
  | none => "<nil>"
  | some (nn, m) =>
      match simpleMaskLength m with
      | none => IP.String nn ++ "/" ++ IPMask.String m
      | some l => IP.String nn ++ "/" ++ toString l

example : IPNet.String ⟨[192, 0, 2, 0], [0xff, 0xff, 0xff, 0]⟩ = "192.0.2.0/24" := by decide

/-! ## Host and port -/

/-- `net.JoinHostPort`: a host with a colon in it is bracketed. -/
def JoinHostPort (host port : String) : String :=
  if ':' ∈ host.data then "[" ++ host ++ "]:" ++ port else host ++ ":" ++ port

/-- `net.TCPAddr`: an address, a port and the IPv6 zone, empty when there is none. -/
structure TCPAddr where
  IP : IP
  Port : Int
  Zone : String

/-- `ipEmptyString`: the empty text for an empty address. -/
def ipEmptyString (ip : IP) : String :=
  if ip.isEmpty then "" else IP.String ip

/-- `TCPAddr.String`: the text `net/http` stores in `Request.RemoteAddr` for a peer, with the
zone after a `%`. -/
def TCPAddr.String (a : TCPAddr) : String :=
  let ip := ipEmptyString a.IP
  if a.Zone ≠ "" then JoinHostPort (ip ++ "%" ++ a.Zone) (toString a.Port)
  else JoinHostPort ip (toString a.Port)

example : TCPAddr.String ⟨IPv4 192 0 2 1, 443, ""⟩ = "192.0.2.1:443" := by decide

/-! ## The forms `ParseIP` returns -/

theorem length_IPv4 (a b c d : UInt8) : (IPv4 a b c d).length = IPv6len := rfl

@[simp] theorem To4_IPv4 (a b c d : UInt8) : To4 (IPv4 a b c d) = some [a, b, c, d] := by
  simp [To4, IPv4, IPv4len, IPv6len, v4InV6Prefix]

@[simp] theorem To16_of_length_eq {ip : IP} (sixteen : ip.length = IPv6len) : To16 ip = some ip := by
  simp [To16, sixteen, IPv4len, IPv6len]

/-- Every address with a four-byte form has a sixteen-byte one. -/
theorem isSome_To16_of_isSome_To4 {ip : IP} (v4 : (To4 ip).isSome) : (To16 ip).isSome := by
  unfold To4 at v4
  unfold To16
  split_ifs at v4 ⊢ <;> simp_all

example : ParseIP "192.0.2.1" = some (IPv4 192 0 2 1) := by decide

example : ParseIP "2001:db8::1" =
    some [0x20, 0x01, 0x0d, 0xb8, 0, 0, 0, 0, 0, 0, 0, 0, 0, 0, 0, 1] := by decide

example : ParseIP "192.0.02.1" = none := by decide

/-! ## Dotted decimal read back

`IP.String` writes an IPv4 address as four decimal octets, and `ParseIP` reads that text back
to the same address (`Trustydns.Net.ParseIP_String_IPv4`). -/

/-- `dtoi` stops at the first character that is not a digit, as at the end of the text. -/
theorem dtoiLoop_append (n i : Nat) (digits : List Char) {rest : List Char}
    (stop : ∀ c ∈ rest.head?, c.isDigit = false) :
    dtoiLoop n i (digits ++ rest) = dtoiLoop n i digits := by
  induction digits generalizing n i with
  | nil =>
      cases rest with
      | nil => rfl
      | cons c rest => simp [dtoiLoop, stop c rfl]
  | cons c digits ih =>
      simp only [List.cons_append, dtoiLoop]
      split_ifs <;> first | rfl | exact ih _ _

/-- `dtoi`'s loop reads a whole text of digits whose value stays below `big`. -/
theorem dtoiLoop_digits (cs : List Char) (digits : ∀ c ∈ cs, c.isDigit) {n i : Nat}
    (small : n * 10 ^ cs.length + Go.decimalValue cs < big) (read : 0 < i + cs.length) :
    dtoiLoop n i cs = (n * 10 ^ cs.length + Go.decimalValue cs, i + cs.length, true) := by
  induction cs generalizing n i with
  | nil =>
      simp only [List.length_nil, Nat.add_zero] at read
      simp [dtoiLoop, Nat.pos_iff_ne_zero.mp read, Go.decimalValue]
  | cons c rest ih =>
      rw [Go.decimalValue_cons_shift] at small ⊢
      have grows := Go.le_mul_pow_add (n * 10 + (c.toNat - '0'.toNat)) rest.length
        (Go.decimalValue rest)
      rw [dtoiLoop, if_pos (digits c (List.mem_cons_self _ _))]
      dsimp only
      rw [if_neg (by omega), ih (fun c member => digits c (List.mem_cons_of_mem _ member)) small
        (by omega), List.length_cons, Nat.add_assoc, Nat.add_comm 1]

/-- The decimal text of an octet: digits without a leading zero, which `dtoi` reads back
whole. -/
theorem octet_text (n : Fin 256) :
    dtoi (Nat.toDigits 10 n) = ((n : Nat), (Nat.toDigits 10 n).length, true) ∧
      ¬((Nat.toDigits 10 n).length > 1 ∧ (Nat.toDigits 10 n).head? = some '0') ∧
      (Nat.toDigits 10 n).all Char.isDigit ∧ Nat.toDigits 10 n ≠ [] := by
  obtain ⟨⟨nonempty, digits⟩, value⟩ := Go.decimal_toDigits n
  refine ⟨?_, fun ⟨long, zero⟩ => ?_, List.all_eq_true.mpr digits, nonempty⟩
  · rw [dtoi, dtoiLoop_digits _ digits (by rw [value]; unfold big; omega)
      (by simpa using List.length_pos.mpr nonempty), value]
    simp
  · by_cases positive : 0 < (n : Nat)
    · exact Go.head_toDigitsCore _ [] positive (by omega) zero
    · rw [show (n : Nat) = 0 by omega] at long
      exact absurd long (by decide)

/-- A digit is neither a dot nor a colon. -/
theorem not_dot_of_isDigit {c : Char} (digit : c.isDigit = true) : ¬(c = '.' ∨ c = ':') := by
  rintro (rfl | rfl) <;> cases digit

/-- One turn of `parseIPv4`'s loop reads an octet written in decimal, once its dot, if it
needs one, is passed. -/
theorem parseIPv4Loop_octet (k i : Nat) (n : Fin 256) (rest : List Char)
    (stop : ∀ c ∈ rest.head?, c.isDigit = false) {s : List Char} (nonempty : s ≠ [])
    (afterDot : (if i > 0 then (if s.head? = some '.' then some s.tail else none) else some s) =
      some (Nat.toDigits 10 n ++ rest)) :
    parseIPv4Loop (k + 1) i s =
      (parseIPv4Loop k (i + 1) rest).map fun (octets, rest) => ((n : Nat).toUInt8 :: octets, rest) := by
  obtain ⟨read, noLeadingZero, -, digits⟩ := octet_text n
  obtain ⟨first, more, split⟩ := List.exists_cons_of_ne_nil digits
  have small : ¬(n : Nat) > 0xFF := by omega
  rw [parseIPv4Loop.eq_2, if_neg (by simpa using nonempty), afterDot]
  dsimp only
  unfold dtoi at read
  rw [dtoi, dtoiLoop_append _ _ _ stop, read, if_neg (by simp [small]),
    if_neg (by rw [split] at noLeadingZero ⊢; simpa using noLeadingZero), List.drop_left]

/-- The first octet needs no dot before it. -/
theorem parseIPv4Loop_first (k : Nat) (n : Fin 256) (rest : List Char)
    (stop : ∀ c ∈ rest.head?, c.isDigit = false) :
    parseIPv4Loop (k + 1) 0 (Nat.toDigits 10 n ++ rest) =
      (parseIPv4Loop k 1 rest).map fun (octets, rest) => ((n : Nat).toUInt8 :: octets, rest) :=
  parseIPv4Loop_octet k 0 n rest stop (by simp [(octet_text n).2.2.2]) (by simp)

/-- Every later octet follows a dot. -/
theorem parseIPv4Loop_next (k i : Nat) (n : Fin 256) (rest : List Char)
    (stop : ∀ c ∈ rest.head?, c.isDigit = false) :
    parseIPv4Loop (k + 1) (i + 1) ('.' :: (Nat.toDigits 10 n ++ rest)) =
      (parseIPv4Loop k (i + 2) rest).map fun (octets, rest) => ((n : Nat).toUInt8 :: octets, rest) :=
  parseIPv4Loop_octet k (i + 1) n rest stop (List.cons_ne_nil _ _) (by simp)

/-- `parseIPv4` reads the dotted decimal text of four octets back to their address. -/
theorem parseIPv4_dotted (a b c d : Fin 256) :
    parseIPv4 (Nat.toDigits 10 a ++ '.' :: (Nat.toDigits 10 b ++ '.' :: (Nat.toDigits 10 c ++
      '.' :: Nat.toDigits 10 d))) =
      some (IPv4 (a : Nat).toUInt8 (b : Nat).toUInt8 (c : Nat).toUInt8 (d : Nat).toUInt8) := by
  have dot : ∀ {rest : List Char}, ∀ x ∈ ('.' :: rest).head?, x.isDigit = false := by simp
  unfold parseIPv4
  rw [show IPv4len = 3 + 1 from rfl, parseIPv4Loop_first 3 a _ dot, parseIPv4Loop_next 2 0 b _ dot,
    parseIPv4Loop_next 1 1 c _ dot, ← List.append_nil (Nat.toDigits 10 d),
    parseIPv4Loop_next 0 2 d [] (by simp)]
  rfl

/-- A byte is read back from its number. -/
@[simp] theorem toUInt8_toNat (a : UInt8) : a.toNat.toUInt8 = a := by
  rcases a with ⟨⟨n, lt⟩⟩
  simp only [Nat.toUInt8, UInt8.ofNat, UInt8.toNat, BitVec.ofNat, BitVec.toNat]
  congr
  exact Fin.ext (Nat.mod_eq_of_lt lt)

/-- `toString` writes a negative number in decimal after a minus sign. -/
@[simp] theorem data_toString_negSucc (n : Nat) :
    (toString (Int.negSucc n)).data = '-' :: Nat.toDigits 10 (n + 1) := rfl

/-- The text `IP.String` writes for an IPv4 address: its four octets in decimal, between
dots. -/
theorem IP_String_IPv4 (a b c d : UInt8) :
    (IP.String (IPv4 a b c d)).toList = Nat.toDigits 10 a.toNat ++ '.' :: (Nat.toDigits 10 b.toNat ++
      '.' :: (Nat.toDigits 10 c.toNat ++ '.' :: Nat.toDigits 10 d.toNat)) := by
  rw [IP.String, if_neg (by simp [IPv4]), To4_IPv4]
  simp

/-- `ParseIP` reads the text of every IPv4 address back to the address. -/
theorem ParseIP_String_IPv4 (a b c d : UInt8) :
    ParseIP (IP.String (IPv4 a b c d)) = some (IPv4 a b c d) := by
  have noDot : (Nat.toDigits 10 a.toNat).find? (fun c => c = '.' ∨ c = ':') = none :=
    List.find?_eq_none.mpr fun c mem => by
      simpa using not_dot_of_isDigit
        (List.all_eq_true.mp (octet_text ⟨a.toNat, a.toNat_lt_size⟩).2.2.1 c mem)
  have read := parseIPv4_dotted ⟨a.toNat, a.toNat_lt_size⟩ ⟨b.toNat, b.toNat_lt_size⟩
    ⟨c.toNat, c.toNat_lt_size⟩ ⟨d.toNat, d.toNat_lt_size⟩
  simp only [toUInt8_toNat] at read
  rw [ParseIP, IP_String_IPv4, List.find?_append, noDot, Option.none_or,
    List.find?_cons_of_pos _ (by simp)]
  exact read

/-- The decimal text of a port has no colon: digits, after a minus sign for a negative one. -/
theorem colon_not_mem_toString (port : Int) : ':' ∉ (toString port).toList := by
  have noColon : ∀ n : Nat, ':' ∉ Nat.toDigits 10 n := fun n colon =>
    absurd (Go.isDigit_of_mem_toDigitsCore _ n (by simp) _ colon) (by decide)
  cases port with
  | ofNat n => exact noColon n
  | negSucc n => simpa using noColon (n + 1)

/-- The text of a peer with an IPv4 address and no zone: the address, a colon and the port,
with no brackets, as the address has no colon. -/
theorem TCPAddr_String_IPv4 (a b c d : UInt8) (port : Int) :
    (TCPAddr.String ⟨IPv4 a b c d, port, ""⟩).toList =
      (IP.String (IPv4 a b c d)).toList ++ ':' :: (toString port).toList := by
  have octet : ∀ x : UInt8, ':' ∉ Nat.toDigits 10 x.toNat := fun x colon =>
    not_dot_of_isDigit (List.all_eq_true.mp (octet_text ⟨x.toNat, x.toNat_lt_size⟩).2.2.1 ':' colon)
      (Or.inr rfl)
  have noColon : ':' ∉ (IP.String (IPv4 a b c d)).data := by
    rw [show (IP.String (IPv4 a b c d)).data = _ from IP_String_IPv4 a b c d]
    simp [octet]
  have nonempty : (IPv4 a b c d).isEmpty = false := rfl
  simp [TCPAddr.String, ipEmptyString, JoinHostPort, nonempty, noColon]

end Trustydns.Net
