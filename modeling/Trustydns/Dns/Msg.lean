import Trustydns.Net.IP
import Mathlib.Data.Nat.Bitwise

/-! # DNS messages

The parts of miekg/dns's `dns.Msg` that trustydns reads or writes: the header fields it
tests, the question, the three record sections, and the OPT pseudo-record with its EDNS0
options. A record is its header and its data; the data of a `*dns.OPT` is its option list,
that of any other record its uncompressed wire bytes.

On an OPT record the header's class is the UDP payload size, and its TTL holds the extended
RCODE (bits 24 to 31), the EDNS version (bits 16 to 23) and the DO flag (bit 15); the accessors
below are miekg/dns's, bit for bit. `Len` is the length of the uncompressed wire form, the
length miekg/dns computes for every message this program handles (none sets `Compress`).

The wire encoder that `Pack` runs after its RCODE checks, `Unpack` and `Truncate` are not
modelled: `Wire` names them, and every theorem that uses them holds for all of them.
-/

namespace Trustydns.Dns

open Trustydns.Net (IP)

def TypeOPT : Nat := 41

def TypeTSIG : Nat := 250

def ClassINET : Nat := 1

def OpcodeQuery : Nat := 0

def RcodeSuccess : Int := 0

def RcodeFormatError : Int := 1

def RcodeServerFailure : Int := 2

def RcodeNameError : Int := 3

def RcodeNotImplemented : Int := 4

def RcodeRefused : Int := 5

def EDNS0SUBNET : Nat := 8

def EDNS0PADDING : Nat := 12

/-- `dns.DefaultMsgSize`, the UDP payload size `NewOPT` advertises. -/
def DefaultMsgSize : Nat := 4096

def headerSize : Nat := 12

/-- `dns.MsgHdr`: the fields the program reads or writes. -/
structure MsgHdr where
  id : Nat
  opcode : Nat
  truncated : Bool
  rcode : Int
deriving DecidableEq, Repr

/-- `dns.Question`. -/
structure Question where
  name : String
  qtype : Nat
  qclass : Nat
deriving DecidableEq, Repr

/-- `dns.RR_Header`. -/
structure RRHeader where
  name : String
  rrtype : Nat
  rrclass : Nat
  ttl : Nat
deriving DecidableEq, Repr

/-- An EDNS0 option: `*dns.EDNS0_SUBNET`, `*dns.EDNS0_PADDING`, or any other option type,
by its code and packed data. -/
inductive EDNS0
  | subnet (family sourceNetmask sourceScope : Nat) (address : IP)
  | padding (padding : List UInt8)
  | other (code : Nat) (data : List UInt8)
deriving DecidableEq, Repr

/-- `EDNS0.Option()`: the option code. -/
def EDNS0.Option : EDNS0 → Nat
  | .subnet .. => EDNS0SUBNET
  | .padding _ => EDNS0PADDING
  | .other code _ => code

@[simp] theorem EDNS0.Option_subnet (family sourceNetmask sourceScope : Nat) (address : IP) :
    (EDNS0.subnet family sourceNetmask sourceScope address).Option = EDNS0SUBNET := rfl

@[simp] theorem EDNS0.Option_padding (bytes : List UInt8) :
    (EDNS0.padding bytes).Option = EDNS0PADDING := rfl

@[simp] theorem EDNS0.Option_other (code : Nat) (data : List UInt8) :
    (EDNS0.other code data).Option = code := rfl

/-- Whether an option is a `*dns.EDNS0_PADDING`. -/
def EDNS0.isPadding : EDNS0 → Bool
  | .padding _ => true
  | _ => false

/-- A padding option carries the padding code. -/
theorem EDNS0.Option_of_isPadding {o : EDNS0} (padding : o.isPadding = true) :
    o.Option = EDNS0PADDING := by
  cases o <;> simp_all [EDNS0.isPadding]

/-- The data of a record: the options of a `*dns.OPT`, the wire bytes of any other. -/
inductive RData
  | opt (options : List EDNS0)
  | other (rdata : List UInt8)
deriving DecidableEq, Repr

/-- `dns.RR`. -/
structure RR where
  hdr : RRHeader
  data : RData
deriving DecidableEq, Repr

/-- `dns.Msg`. -/
structure Msg where
  hdr : MsgHdr
  question : List Question
  answer : List RR
  ns : List RR
  extra : List RR
deriving DecidableEq, Repr

/-! ## The OPT record's header fields -/

namespace RRHeader

/-- `OPT.UDPSize`. -/
def UDPSize (h : RRHeader) : Nat :=
  h.rrclass

/-- `OPT.SetUDPSize`. -/
def SetUDPSize (h : RRHeader) (size : Nat) : RRHeader :=
  { h with rrclass := size }

/-- `OPT.ExtendedRcode`. -/
def ExtendedRcode (h : RRHeader) : Nat :=
  ((h.ttl &&& 0xFF000000) >>> 24) <<< 4

/-- `OPT.SetExtendedRcode`; the shift is of a `uint32`, hence the reduction. -/
def SetExtendedRcode (h : RRHeader) (v : Nat) : RRHeader :=
  { h with ttl := (h.ttl &&& 0x00FFFFFF) ||| (((v >>> 4) <<< 24) % 2 ^ 32) }

/-- `OPT.Version`. -/
def Version (h : RRHeader) : Nat :=
  (h.ttl &&& 0x00FF0000) >>> 16

/-- `OPT.SetVersion`. -/
def SetVersion (h : RRHeader) (v : Nat) : RRHeader :=
  { h with ttl := (h.ttl &&& 0xFF00FFFF) ||| (v <<< 16) }

/-- `OPT.Do`: the DNSSEC OK flag. -/
def Do (h : RRHeader) : Bool :=
  (h.ttl &&& 0x8000) = 0x8000

/-! ### `SetExtendedRcode` touches only the extended RCODE

`Pack` writes the message's RCODE into the OPT record with `SetExtendedRcode`; the bits it
writes are 24 and up, where neither the version nor the DO flag lies. -/

theorem testBit_SetExtendedRcode_low (h : RRHeader) (v : Nat) {i : Nat} (low : i < 24) :
    (h.SetExtendedRcode v).ttl.testBit i = h.ttl.testBit i := by
  simp only [SetExtendedRcode, Nat.testBit_or, Nat.testBit_and, Nat.testBit_mod_two_pow,
    Nat.testBit_shiftLeft]
  have mask : (0x00FFFFFF : Nat).testBit i = true := by
    rw [show (0x00FFFFFF : Nat) = 2 ^ 24 - 1 from rfl, Nat.testBit_two_pow_sub_one]
    simpa using low
  simp [mask, show ¬ i ≥ 24 by omega]

/-- A mask below bit 24 reads the same from two TTLs that agree below bit 24. -/
theorem land_eq_of_low_bits {a b mask : Nat} (small : mask < 2 ^ 24)
    (agree : ∀ i < 24, a.testBit i = b.testBit i) : a &&& mask = b &&& mask := by
  apply Nat.eq_of_testBit_eq
  intro i
  simp only [Nat.testBit_and]
  by_cases low : i < 24
  · rw [agree i low]
  · have above : mask.testBit i = false := Nat.testBit_eq_false_of_lt
      (lt_of_lt_of_le small (Nat.pow_le_pow_right (by decide) (by omega)))
    simp [above]

@[simp] theorem SetExtendedRcode_UDPSize (h : RRHeader) (v : Nat) :
    (h.SetExtendedRcode v).UDPSize = h.UDPSize := rfl

@[simp] theorem SetExtendedRcode_Version (h : RRHeader) (v : Nat) :
    (h.SetExtendedRcode v).Version = h.Version := by
  unfold Version
  rw [land_eq_of_low_bits (by decide) fun _ low => testBit_SetExtendedRcode_low h v low]

@[simp] theorem SetExtendedRcode_Do (h : RRHeader) (v : Nat) :
    (h.SetExtendedRcode v).Do = h.Do := by
  unfold Do
  rw [land_eq_of_low_bits (by decide) fun _ low => testBit_SetExtendedRcode_low h v low]

/-- The extended RCODE read back is the value's bits 4 to 11. -/
theorem SetExtendedRcode_ExtendedRcode (h : RRHeader) (v : Nat) :
    (h.SetExtendedRcode v).ExtendedRcode = ((v >>> 4) % 2 ^ 8) <<< 4 := by
  unfold ExtendedRcode SetExtendedRcode
  congr 1
  apply Nat.eq_of_testBit_eq
  intro i
  have low : (0x00FFFFFF : Nat).testBit (24 + i) = false := Nat.testBit_eq_false_of_lt
    (lt_of_lt_of_le (by decide) (Nat.pow_le_pow_right (by decide) (Nat.le_add_right 24 i)))
  have high : (0xFF000000 : Nat).testBit (24 + i) = decide (i < 8) := by
    rw [show (0xFF000000 : Nat) = (2 ^ 8 - 1) <<< 24 from rfl, Nat.testBit_shiftLeft,
      Nat.testBit_two_pow_sub_one]
    simp
  simp only [Nat.testBit_shiftRight, Nat.testBit_and, Nat.testBit_or, Nat.testBit_mod_two_pow,
    Nat.testBit_shiftLeft, low, high]
  by_cases small : i < 8
  · simp [small, show 24 + i < 32 by omega]
  · simp [small]

end RRHeader

/-- What an OPT record's header says about EDNS0: UDP payload size, extended RCODE, version
and DO flag. -/
structure EdnsHeader where
  udpSize : Nat
  extendedRcode : Nat
  version : Nat
  dnssecOk : Bool
deriving DecidableEq, Repr

/-- The EDNS0 fields of a record header. -/
def RRHeader.edns (h : RRHeader) : EdnsHeader :=
  ⟨h.UDPSize, h.ExtendedRcode, h.Version, h.Do⟩

/-! ## Finding the OPT and TSIG records -/

namespace Msg

/-- `Msg.IsEdns0`: the last record of Extra whose type is OPT. -/
def IsEdns0 (m : Msg) : Option RR :=
  m.extra.reverse.find? fun rr => rr.hdr.rrtype = TypeOPT

/-- `Msg.IsTsig() != nil`: the last record of Extra is a TSIG. -/
def IsTsig (m : Msg) : Bool :=
  match m.extra.getLast? with
  | some rr => rr.hdr.rrtype = TypeTSIG
  | none => false

/-- `b` is `a` with at most its Extra section changed, the section of the OPT and TSIG records:
the header, the question and the Answer and Authority records are `a`'s. -/
def ExtraOnly (a b : Msg) : Prop :=
  { a with extra := b.extra } = b

theorem ExtraOnly.refl (a : Msg) : a.ExtraOnly a := rfl

theorem ExtraOnly.trans {a b c : Msg} (ab : a.ExtraOnly b) (bc : b.ExtraOnly c) :
    a.ExtraOnly c := by
  unfold ExtraOnly at *
  calc { a with extra := c.extra } = { b with extra := c.extra } := by rw [← ab]
    _ = c := bc

theorem ExtraOnly.ite {a b c : Msg} (p : Prop) [Decidable p] (ab : a.ExtraOnly b)
    (ac : a.ExtraOnly c) : a.ExtraOnly (if p then b else c) := by
  split_ifs
  · exact ab
  · exact ac

/-- A header set on both sides keeps the change confined to Extra. -/
theorem ExtraOnly.withHdr {a b : Msg} (ab : a.ExtraOnly b) (hdr : MsgHdr) :
    ({ a with hdr := hdr } : Msg).ExtraOnly { b with hdr := hdr } := by
  unfold ExtraOnly at *
  rw [← ab]

end Msg

/-! ## Message length -/

/-- The bytes `escapedNameLen` subtracts: three for each `\DDD` escape, one for any other. -/
def escapeSavings : List Char → Nat
  | '\\' :: d1 :: rest@(d2 :: d3 :: more) =>
      if d1.isDigit && d2.isDigit && d3.isDigit then 3 + escapeSavings more
      else 1 + escapeSavings rest
  | '\\' :: _ :: rest => 1 + escapeSavings rest
  | ['\\'] => 1
  | _ :: rest => escapeSavings rest
  | [] => 0

/-- `escapedNameLen`. -/
def escapedNameLen (s : String) : Nat :=
  s.utf8ByteSize - escapeSavings s.toList

/-- `domainNameLen` without compression. -/
def domainNameLen (s : String) : Nat :=
  if s = "" ∨ s = "." then 1
  else if s.contains '\\' then escapedNameLen s + 1
  else s.utf8ByteSize + 1

/-- The length of an option's packed data, `len(lo)` for `lo, _ := o.pack()`: an ECS
option that does not pack counts nothing. -/
def EDNS0.packLen : EDNS0 → Nat
  | .subnet family sourceNetmask _ address =>
      if family = 0 then (if sourceNetmask ≠ 0 then 0 else 4)
      else if family = 1 then
        if sourceNetmask > 32 then 0
        else if ((Net.To4 address).map List.length) ≠ some Net.IPv4len then 0
        else 4 + (sourceNetmask + 8 - 1) / 8
      else if family = 2 then
        if sourceNetmask > 128 then 0
        else if address.length ≠ Net.IPv6len then 0
        else 4 + (sourceNetmask + 8 - 1) / 8
      else 0
  | .padding bytes => bytes.length
  | .other _ data => data.length

/-- The length of a record's data. -/
def RData.len : RData → Nat
  | .opt options => (options.map fun o => 4 + o.packLen).sum
  | .other rdata => rdata.length

/-- `RR.len` without compression. -/
def RR.len (rr : RR) : Nat :=
  domainNameLen rr.hdr.name + 10 + rr.data.len

/-- `Question.len` without compression. -/
def Question.len (q : Question) : Nat :=
  domainNameLen q.name + 4

/-- `Msg.Len` of an uncompressed message. -/
def Msg.Len (m : Msg) : Nat :=
  headerSize + (m.question.map Question.len).sum + (m.answer.map RR.len).sum +
    (m.ns.map RR.len).sum + (m.extra.map RR.len).sum

/-! ## Packing -/

/-- The parts of miekg/dns that are not modelled: the wire encoder `Pack` runs after its
RCODE checks, `Unpack`, and `Truncate`. -/
structure Wire where
  encode : Msg → Except String (List UInt8)
  unpack : List UInt8 → Except String Msg
  truncate : Msg → Int → Msg

/-- The first record of a list satisfying `p`, changed by `f`. -/
def modifyFirst (p : RR → Bool) (f : RRHeader → RRHeader) : List RR → List RR
  | [] => []
  | rr :: rest => if p rr then { rr with hdr := f rr.hdr } :: rest else rr :: modifyFirst p f rest

namespace Msg

/-- The message after a change to the header of the record `IsEdns0` returns. -/
def modifyEdns0 (m : Msg) (f : RRHeader → RRHeader) : Msg :=
  { m with extra := (modifyFirst (fun rr => rr.hdr.rrtype = TypeOPT) f m.extra.reverse).reverse }

/-- `Msg.Pack`: the RCODE checks, the extended RCODE copied into the OPT record, then the
encoder. The message is returned too, as Go's `Pack` changes it in place. -/
def Pack (wire : Wire) (m : Msg) : Msg × Except String (List UInt8) :=
  if m.hdr.rcode < 0 ∨ m.hdr.rcode > 0xFFF then (m, .error "dns: bad rcode")
  else
    match m.IsEdns0 with
    | some _ =>
        let m := m.modifyEdns0 fun h => h.SetExtendedRcode m.hdr.rcode.toNat
        (m, wire.encode m)
    | none =>
        if m.hdr.rcode > 0xF then (m, .error "dns: bad extended rcode") else (m, wire.encode m)

end Msg

end Trustydns.Dns
