import Trustydns.DnsUtil.Edns
import Trustydns.Foundation.Constants
import Mathlib.Algebra.BigOperators.Group.List

/-! # RFC 8467 padding

`PadAndPack` strips the padding a message carries, makes sure it has an OPT record, adds a
padding option sized so that the message length becomes a multiple of the modulo, and packs
the message. Packing writes the message's RCODE into the OPT record, so the OPT record that
leaves keeps the UDP payload size, version and DO flag of the one it was built from
(`Trustydns.DnsUtil.optRecords_PadAndPack`).

The records of a message are well typed when exactly its OPT records have type OPT, as for
every message `Unpack` and `NewOPT` build; `Msg.IsEdns0`, which searches by type, and
`FindOPT`, which searches by Go type, then see the same records.
-/

namespace Trustydns.DnsUtil

open Trustydns.Dns
open Trustydns.Constants

/-- The records whose type is OPT are the OPT records. -/
def WellTyped (rrs : List RR) : Prop :=
  ∀ rr ∈ rrs, rr.hdr.rrtype = TypeOPT ↔ isOPT rr = true

instance (rrs : List RR) : Decidable (WellTyped rrs) :=
  inferInstanceAs (Decidable (∀ rr ∈ rrs, _))

/-- The first step of `PadAndPack`: the padding of a message with records in Extra removed. -/
def stripPadding (msg : Msg) : Msg :=
  if msg.extra.length > 0 then (RemoveEDNS0FromOPT msg EDNS0PADDING).1 else msg

/-- The second step: `NewOPT` appended when no OPT record is left. -/
def ensureOPT (msg : Msg) : Msg :=
  if msg.extra.length > 0 ∧ (FindOPT msg).isSome then msg
  else { msg with extra := msg.extra ++ [NewOPT] }

/-- `PadAndPack`: the message is padded to a multiple of `moduloSize` as `Len` measures it
with an empty padding option, then packed, and the packed length is checked. The message is
returned too, as Go changes it in place. -/
def PadAndPack (wire : Wire) (msg : Msg) (moduloSize : Nat) : Msg × Except String (List UInt8) :=
  if moduloSize < 1 ∨ moduloSize > MaximumViableDNSMessage then
    (msg, .error ("PadAndPack: Modulo size " ++ toString moduloSize ++ " is not in range 1-" ++
      toString MaximumViableDNSMessage))
  else
    let msg := ensureOPT (stripPadding msg)
    let mLen := { msg with extra := appendToFirstOPT (.padding []) msg.extra }.Len
    let extraPadding := moduloSize - mLen % moduloSize
    let padding : List UInt8 := if extraPadding > 0 then List.replicate extraPadding 0 else []
    let packed := { msg with extra := appendToFirstOPT (.padding padding) msg.extra }.Pack wire
    match packed.2 with
    | .error err => (packed.1, .error ("PadAndPack dns.Pack() failed: " ++ err))
    | .ok bytes =>
        if bytes.length % moduloSize ≠ 0 then
          (packed.1, .error ("PadAndPack dns.Pack() created unexpected length of " ++
            toString bytes.length ++ " with mod " ++ toString moduloSize))
        else (packed.1, .ok bytes)

/-- The first OPT record's header changed by `f`. -/
def mapFirstHeader (f : RRHeader → RRHeader) :
    List (RRHeader × List EDNS0) → List (RRHeader × List EDNS0)
  | [] => []
  | (hdr, options) :: rest => (f hdr, options) :: rest

theorem isOPT_iff_optRecord {rr : RR} : isOPT rr = true ↔ ∃ record, optRecord rr = some record := by
  obtain ⟨hdr, data⟩ := rr
  cases data <;> simp [isOPT, optRecord]

/-- On well-typed records, changing the first record of type OPT changes the first OPT
record. -/
theorem optRecords_modifyFirst {rrs : List RR} (typed : WellTyped rrs) (f : RRHeader → RRHeader) :
    optRecords (modifyFirst (fun rr => rr.hdr.rrtype = TypeOPT) f rrs) =
      mapFirstHeader f (optRecords rrs) := by
  induction rrs with
  | nil => rfl
  | cons rr rest ih =>
      have restTyped : WellTyped rest := fun r member => typed r (List.mem_cons_of_mem _ member)
      obtain ⟨hdr, data⟩ := rr
      have own := typed _ (List.mem_cons_self _ _)
      cases data with
      | opt options =>
          have opt : hdr.rrtype = TypeOPT := own.mpr rfl
          simp [modifyFirst, opt, optRecords, optRecord, mapFirstHeader]
      | other rdata =>
          have notOpt : ¬ hdr.rrtype = TypeOPT := fun opt => by simpa [isOPT] using own.mp opt
          simpa [modifyFirst, notOpt, optRecords, optRecord] using ih restTyped

/-- **What `Pack` does to the OPT records** of a well-typed message with an RCODE in range:
the last one gets the RCODE's upper bits as its extended RCODE. -/
theorem optRecords_Pack (wire : Wire) {msg : Msg} (typed : WellTyped msg.extra)
    (rcodeRange : 0 ≤ msg.hdr.rcode ∧ msg.hdr.rcode ≤ 0xFFF) :
    optRecords (msg.Pack wire).1.extra =
      (mapFirstHeader (fun h => h.SetExtendedRcode msg.hdr.rcode.toNat)
        (optRecords msg.extra).reverse).reverse := by
  have reversed : WellTyped msg.extra.reverse := fun rr member => typed rr (List.mem_reverse.mp member)
  unfold Msg.Pack
  rw [if_neg (by omega)]
  split
  · rw [Msg.modifyEdns0, optRecords_reverse, optRecords_modifyFirst reversed, optRecords_reverse]
  · rename_i missing
    have noOPT : optRecords msg.extra = [] := by
      unfold Msg.IsEdns0 at missing
      rw [List.find?_eq_none] at missing
      unfold optRecords
      rw [List.filterMap_eq_nil_iff]
      intro rr member
      cases found : optRecord rr with
      | none => rfl
      | some record =>
          have := (typed rr member).mpr (isOPT_iff_optRecord.mpr ⟨record, found⟩)
          exact absurd (by simpa using this) (missing rr (List.mem_reverse.mpr member))
    split_ifs <;> simp [noOPT, mapFirstHeader]

/-! ## Well-typed records stay well typed -/

theorem WellTyped.append {left right : List RR} (typedLeft : WellTyped left)
    (typedRight : WellTyped right) : WellTyped (left ++ right) := fun rr member =>
  (List.mem_append.mp member).elim (typedLeft rr) (typedRight rr)

theorem wellTyped_NewOPT : WellTyped [NewOPT] := by
  intro rr member
  rw [List.mem_singleton.mp member]
  decide

theorem WellTyped.filterMap_removeFromRR {rrs : List RR} (typed : WellTyped rrs) (edns0Code : Nat) :
    WellTyped (rrs.filterMap fun rr => (removeFromRR edns0Code rr).1) := by
  intro kept member
  obtain ⟨rr, original, made⟩ := List.mem_filterMap.mp member
  have own := typed rr original
  obtain ⟨hdr, data⟩ := rr
  cases data with
  | other rdata =>
      simp only [removeFromRR, Option.some.injEq] at made
      exact made ▸ own
  | opt options =>
      simp only [removeFromRR] at made
      split_ifs at made
      cases made
      simpa [isOPT] using own

theorem WellTyped.removeEDNS0FromOPT {msg : Msg} (typed : WellTyped msg.extra) (edns0Code : Nat) :
    WellTyped (RemoveEDNS0FromOPT msg edns0Code).1.extra := by
  unfold RemoveEDNS0FromOPT
  dsimp only
  split_ifs
  · rw [List.filterMap_map]
    exact typed.filterMap_removeFromRR edns0Code
  · exact typed

theorem WellTyped.appendToFirstOPT {rrs : List RR} (typed : WellTyped rrs) (o : EDNS0) :
    WellTyped (appendToFirstOPT o rrs) := by
  induction rrs with
  | nil => exact typed
  | cons rr rest ih =>
      have restTyped : WellTyped rest := fun r member => typed r (List.mem_cons_of_mem _ member)
      have own := typed rr (List.mem_cons_self _ _)
      obtain ⟨hdr, data⟩ := rr
      cases data with
      | opt options =>
          intro r member
          rcases List.mem_cons.mp member with rfl | later
          · simpa [isOPT] using own
          · exact restTyped r later
      | other rdata =>
          intro r member
          rcases List.mem_cons.mp member with rfl | later
          · exact own
          · exact ih restTyped r later

theorem WellTyped.reverse {rrs : List RR} (typed : WellTyped rrs) : WellTyped rrs.reverse :=
  fun rr member => typed rr (List.mem_reverse.mp member)

theorem WellTyped.modifyFirst {rrs : List RR} (typed : WellTyped rrs) (p : RR → Bool)
    (f : RRHeader → RRHeader) (keeps : ∀ h, (f h).rrtype = h.rrtype) :
    WellTyped (modifyFirst p f rrs) := by
  induction rrs with
  | nil => exact typed
  | cons rr rest ih =>
      have restTyped : WellTyped rest := fun r member => typed r (List.mem_cons_of_mem _ member)
      have own := typed rr (List.mem_cons_self _ _)
      intro r member
      unfold Dns.modifyFirst at member
      split_ifs at member
      · rcases List.mem_cons.mp member with rfl | later
        · rw [keeps]
          exact own
        · exact restTyped r later
      · rcases List.mem_cons.mp member with rfl | later
        · exact own
        · exact ih restTyped r later

/-- `Pack` keeps the records well typed: it only sets the extended RCODE of one. -/
theorem WellTyped.pack {msg : Msg} (typed : WellTyped msg.extra) (wire : Wire) :
    WellTyped (msg.Pack wire).1.extra := by
  unfold Msg.Pack
  split
  · exact typed
  · split
    · exact (typed.reverse.modifyFirst _ (fun h => h.SetExtendedRcode msg.hdr.rcode.toNat)
        fun _ => rfl).reverse
    · split <;> exact typed

theorem WellTyped.createECS {msg : Msg} (typed : WellTyped msg.extra) (family prefixLength : Int)
    (ip : Net.IP) : WellTyped (CreateECS msg family prefixLength ip).1.extra := by
  unfold CreateECS
  dsimp only
  split_ifs
  · exact typed.appendToFirstOPT _
  · exact (typed.append wellTyped_NewOPT).appendToFirstOPT _

theorem stripPadding_eq (msg : Msg) :
    stripPadding msg = (RemoveEDNS0FromOPT msg EDNS0PADDING).1 := by
  unfold stripPadding
  split_ifs with present
  · rfl
  · have empty : msg.extra = [] := List.eq_nil_of_length_eq_zero (by omega)
    simp [RemoveEDNS0FromOPT, empty]

theorem WellTyped.ensureOPT {msg : Msg} (typed : WellTyped msg.extra) :
    WellTyped (ensureOPT msg).extra := by
  unfold DnsUtil.ensureOPT
  split_ifs
  · exact typed
  · exact typed.append wellTyped_NewOPT

/-! ## The OPT record `PadAndPack` packs -/

/-- The message `PadAndPack` leaves is the prepared message with a padding option, packed. -/
theorem PadAndPack_fst (wire : Wire) (msg : Msg) {moduloSize : Nat}
    (moduloRange : 1 ≤ moduloSize ∧ moduloSize ≤ MaximumViableDNSMessage) :
    ∃ padding, (PadAndPack wire msg moduloSize).1 =
      ({ ensureOPT (stripPadding msg) with
          extra := appendToFirstOPT (.padding padding) (ensureOPT (stripPadding msg)).extra }.Pack
        wire).1 := by
  unfold PadAndPack
  rw [if_neg (by omega)]
  dsimp only
  split
  · exact ⟨_, rfl⟩
  · rw [apply_ite Prod.fst, ite_self]
    exact ⟨_, rfl⟩

/-- `ensureOPT` leaves the OPT records alone, or adds `NewOPT`'s when there is none. -/
theorem optRecords_ensureOPT (msg : Msg) :
    optRecords (ensureOPT msg).extra =
      if optRecords msg.extra = [] then [(NewOPT.hdr, [])] else optRecords msg.extra := by
  unfold DnsUtil.ensureOPT
  by_cases found : msg.extra.length > 0 ∧ (FindOPT msg).isSome
  · have present : optRecords msg.extra ≠ [] := fun noOPT => by
      simp [(findOPT_eq_none_iff msg).mpr noOPT] at found
    simp [found, present]
  · have noOPT : optRecords msg.extra = [] := by
      by_cases length : msg.extra.length > 0
      · rw [← findOPT_eq_none_iff, ← Option.not_isSome_iff_eq_none]
        exact fun isSome => found ⟨length, isSome⟩
      · have empty : msg.extra = [] := List.eq_nil_of_length_eq_zero (by omega)
        rw [empty]
        rfl
    simp only [found, noOPT, ↓reduceIte, optRecords_append, List.nil_append]
    rfl

/-! ## The OPT header through the hop-by-hop manipulations -/

/-- Whether removing an option code empties a list of options: it holds options, and all have
that code. -/
def emptiedBy (edns0Code : Nat) (options : List EDNS0) : Bool :=
  !options.isEmpty && options.all fun o => o.Option = edns0Code

theorem isEmpty_filter_ne (edns0Code : Nat) (options : List EDNS0) :
    (options.filter fun o => o.Option ≠ edns0Code).isEmpty =
      options.all fun o => o.Option = edns0Code := by
  induction options with
  | nil => rfl
  | cons o rest ih => by_cases same : o.Option = edns0Code <;> simp_all [List.filter_cons]

theorem not_any_ne (edns0Code : Nat) (options : List EDNS0) :
    (!(options.any fun o => o.Option ≠ edns0Code)) = options.all fun o => o.Option = edns0Code := by
  induction options with
  | nil => rfl
  | cons o rest ih => by_cases same : o.Option = edns0Code <;> simp_all

theorem filter_ne_filter_ne (edns0Code : Nat) (options : List EDNS0) :
    (options.filter fun o => o.Option ≠ edns0Code).filter (fun o => o.Option ≠ edns0Code) =
      options.filter fun o => o.Option ≠ edns0Code := by
  rw [List.filter_filter]
  simp

theorem filter_ne_eq_self {edns0Code : Nat} {options : List EDNS0}
    (absent : ¬ (options.any fun o => o.Option = edns0Code) = true) :
    options.filter (fun o => o.Option ≠ edns0Code) = options := by
  rw [List.filter_eq_self]
  intro o member
  simpa using fun same => absent (List.any_eq_true.mpr ⟨o, member, by simpa using same⟩)

/-- **`RemoveEDNS0FromOPT` on a message with one OPT record** keeps it with its header and the
options of other codes, unless the code empties it. -/
theorem optRecords_RemoveEDNS0FromOPT_single {msg : Msg} {h : RRHeader} {options : List EDNS0}
    (single : optRecords msg.extra = [(h, options)]) (edns0Code : Nat) :
    optRecords (RemoveEDNS0FromOPT msg edns0Code).1.extra =
      if emptiedBy edns0Code options then []
      else [(h, options.filter fun o => o.Option ≠ edns0Code)] := by
  rw [optRecords_RemoveEDNS0FromOPT, RemoveEDNS0FromOPT_removed, single]
  simp only [List.any_cons, List.any_nil, Bool.or_false, List.filterMap_cons,
    List.filterMap_nil, stripOptions, isEmpty_filter_ne]
  by_cases removed : (options.any fun o => o.Option = edns0Code) = true
  · have nonempty : options.isEmpty = false := by
      cases options with
      | nil => simp at removed
      | cons => rfl
    simp only [removed, ↓reduceIte, emptiedBy, nonempty, Bool.not_false, Bool.true_and]
    split_ifs <;> rfl
  · have kept : emptiedBy edns0Code options = false := by
      cases options with
      | nil => rfl
      | cons o rest =>
          simp only [List.any_cons, Bool.or_eq_true, decide_eq_true_eq, not_or] at removed
          simp [emptiedBy, removed.1]
    simp only [removed, kept, Bool.false_eq_true, ↓reduceIte, filter_ne_eq_self removed]

/-- The message `PadAndPack` pads holds one OPT record: the stripped one, or `NewOPT`'s when
the strip empties it. -/
theorem optRecords_ensureOPT_stripPadding {msg : Msg} {h : RRHeader} {options : List EDNS0}
    (single : optRecords msg.extra = [(h, options)]) :
    optRecords (ensureOPT (stripPadding msg)).extra =
      [(if emptiedBy EDNS0PADDING options then NewOPT.hdr else h,
        options.filter fun o => o.Option ≠ EDNS0PADDING)] := by
  rw [optRecords_ensureOPT, stripPadding_eq, optRecords_RemoveEDNS0FromOPT_single single]
  by_cases emptied : emptiedBy EDNS0PADDING options
  · have dropped : options.filter (fun o => o.Option ≠ EDNS0PADDING) = [] := by
      rw [← List.isEmpty_iff, isEmpty_filter_ne]
      simp only [emptiedBy, Bool.and_eq_true] at emptied
      exact emptied.2
    rw [if_pos emptied, if_pos rfl, if_pos emptied, dropped]
  · simp [emptied]

theorem stripPadding_hdr (msg : Msg) : (stripPadding msg).hdr = msg.hdr := by
  rw [stripPadding_eq, RemoveEDNS0FromOPT_hdr]

theorem ensureOPT_hdr (msg : Msg) : (ensureOPT msg).hdr = msg.hdr := by
  unfold DnsUtil.ensureOPT
  split_ifs <;> rfl

theorem stripPadding_extraOnly (msg : Msg) : msg.ExtraOnly (stripPadding msg) := by
  rw [stripPadding_eq]
  exact RemoveEDNS0FromOPT_extraOnly msg EDNS0PADDING

theorem ensureOPT_extraOnly (msg : Msg) : msg.ExtraOnly (ensureOPT msg) := by
  unfold DnsUtil.ensureOPT
  split_ifs <;> rfl

/-! ## What is encoded -/

/-- `Pack` changes Extra only: the extended RCODE goes into the OPT record. -/
theorem Pack_extraOnly (wire : Wire) (m : Msg) : m.ExtraOnly (m.Pack wire).1 := by
  unfold Msg.Pack
  by_cases bad : m.hdr.rcode < 0 ∨ m.hdr.rcode > 0xFFF
  · rw [if_pos bad]
    rfl
  · rw [if_neg bad]
    cases m.IsEdns0 with
    | some _ => rfl
    | none => split_ifs <;> rfl

/-- `Pack` changes no header. -/
theorem Pack_fst_hdr (wire : Wire) (m : Msg) : (m.Pack wire).1.hdr = m.hdr :=
  (congrArg Msg.hdr (Pack_extraOnly wire m)).symm

/-- What `Pack` returns, when it succeeds, is the encoding of the message it returns. -/
theorem Pack_encodes {wire : Wire} {m : Msg} {bytes : List UInt8}
    (packed : (m.Pack wire).2 = .ok bytes) : wire.encode (m.Pack wire).1 = .ok bytes := by
  unfold Msg.Pack at packed ⊢
  by_cases bad : m.hdr.rcode < 0 ∨ m.hdr.rcode > 0xFFF
  · rw [if_pos bad] at packed
    cases packed
  · rw [if_neg bad] at packed ⊢
    revert packed
    cases m.IsEdns0 with
    | some _ => exact id
    | none =>
        by_cases extended : m.hdr.rcode > 0xF
        · rw [if_pos extended]
          exact fun failed => nomatch failed
        · rw [if_neg extended]
          exact id

/-- What `PadAndPack` returns, when it succeeds, is the encoding of the message it returns,
whose header is the one it was given. -/
theorem PadAndPack_encodes {wire : Wire} {msg : Msg} {moduloSize : Nat} {bytes : List UInt8}
    (packed : (PadAndPack wire msg moduloSize).2 = .ok bytes) :
    wire.encode (PadAndPack wire msg moduloSize).1 = .ok bytes ∧
      (PadAndPack wire msg moduloSize).1.hdr = msg.hdr := by
  revert packed
  unfold PadAndPack
  by_cases range : moduloSize < 1 ∨ moduloSize > MaximumViableDNSMessage
  · rw [if_pos range]
    exact fun failed => nomatch failed
  · rw [if_neg range]
    dsimp only
    split
    · exact fun failed => nomatch failed
    · rename_i encoded encodedEq
      by_cases misaligned : encoded.length % moduloSize ≠ 0
      · rw [if_pos misaligned]
        exact fun failed => nomatch failed
      · rw [if_neg misaligned]
        rintro ⟨⟩
        refine ⟨Pack_encodes encodedEq, ?_⟩
        rw [Pack_fst_hdr, ensureOPT_hdr, stripPadding_hdr]

/-- `PadAndPack` changes Extra only: the padding, the OPT record it may add, and the extended
RCODE. -/
theorem PadAndPack_extraOnly (wire : Wire) (msg : Msg) (moduloSize : Nat) :
    msg.ExtraOnly (PadAndPack wire msg moduloSize).1 := by
  by_cases range : moduloSize < 1 ∨ moduloSize > MaximumViableDNSMessage
  · unfold PadAndPack
    rw [if_pos range]
    rfl
  · obtain ⟨padding, padded⟩ := @PadAndPack_fst wire msg moduloSize (by omega)
    rw [padded]
    refine ((stripPadding_extraOnly msg).trans (ensureOPT_extraOnly _)).trans
      (.trans ?_ (Pack_extraOnly wire _))
    rfl

/-- A message without an OPT record is padded in `NewOPT`'s. -/
theorem optRecords_ensureOPT_stripPadding_nil {msg : Msg} (noOPT : optRecords msg.extra = []) :
    optRecords (ensureOPT (stripPadding msg)).extra = [(NewOPT.hdr, [])] := by
  rw [optRecords_ensureOPT, stripPadding_eq, optRecords_RemoveEDNS0FromOPT, noOPT]
  simp

/-- **The OPT record `PadAndPack` packs**: the one record of the prepared message, with a
padding option appended and the RCODE's upper bits as its extended RCODE. -/
theorem optRecords_PadAndPack (wire : Wire) {msg : Msg} {base : RRHeader} {kept : List EDNS0}
    (typed : WellTyped msg.extra) (rcodeRange : 0 ≤ msg.hdr.rcode ∧ msg.hdr.rcode ≤ 0xFFF)
    {moduloSize : Nat} (moduloRange : 1 ≤ moduloSize ∧ moduloSize ≤ MaximumViableDNSMessage)
    (prepared : optRecords (ensureOPT (stripPadding msg)).extra = [(base, kept)]) :
    ∃ padding, optRecords (PadAndPack wire msg moduloSize).1.extra =
      [(base.SetExtendedRcode msg.hdr.rcode.toNat, kept ++ [.padding padding])] := by
  obtain ⟨padding, padded⟩ := PadAndPack_fst wire msg moduloRange
  have preparedTyped := (typed.removeEDNS0FromOPT EDNS0PADDING).ensureOPT
  rw [← stripPadding_eq] at preparedTyped
  refine ⟨padding, ?_⟩
  rw [padded, optRecords_Pack wire (preparedTyped.appendToFirstOPT _)
    (by rw [ensureOPT_hdr, stripPadding_hdr]; exact rcodeRange),
    optRecords_appendToFirstOPT, prepared, ensureOPT_hdr, stripPadding_hdr]
  rfl

/-- `PadAndPack` keeps the records well typed. -/
theorem WellTyped.padAndPack {msg : Msg} (typed : WellTyped msg.extra) (wire : Wire)
    {moduloSize : Nat} (moduloRange : 1 ≤ moduloSize ∧ moduloSize ≤ MaximumViableDNSMessage) :
    WellTyped (PadAndPack wire msg moduloSize).1.extra := by
  obtain ⟨padding, padded⟩ := PadAndPack_fst wire msg moduloRange
  have preparedTyped := (typed.removeEDNS0FromOPT EDNS0PADDING).ensureOPT
  rw [← stripPadding_eq] at preparedTyped
  rw [padded]
  exact (preparedTyped.appendToFirstOPT _).pack wire

/-- `IsEdns0` of a well-typed message finds its last OPT record. -/
theorem IsEdns0_hdr {msg : Msg} (typed : WellTyped msg.extra) :
    msg.IsEdns0.map (·.hdr) = (optRecords msg.extra).getLast?.map Prod.fst := by
  have first : ∀ rrs : List RR, WellTyped rrs →
      (rrs.find? fun rr => rr.hdr.rrtype = TypeOPT).map (·.hdr) =
        (optRecords rrs).head?.map Prod.fst := by
    intro rrs
    induction rrs with
    | nil => intro _; rfl
    | cons rr rest ih =>
        intro typedAll
        have restTyped : WellTyped rest := fun r member => typedAll r (List.mem_cons_of_mem _ member)
        obtain ⟨hdr, data⟩ := rr
        have own := typedAll _ (List.mem_cons_self _ _)
        cases data <;> simp_all [optRecords, optRecord, isOPT]
  unfold Msg.IsEdns0
  rw [first _ (fun rr member => typed rr (List.mem_reverse.mp member)), optRecords_reverse,
    List.head?_reverse]

/-- The UDP payload size a well-typed message with one OPT record advertises is that record's. -/
theorem IsEdns0_udpSize {msg : Msg} (typed : WellTyped msg.extra) {h : RRHeader}
    {kept : List EDNS0} (single : optRecords msg.extra = [(h, kept)]) :
    msg.IsEdns0.map (·.hdr.UDPSize) = some h.UDPSize := by
  rw [show msg.IsEdns0.map (·.hdr.UDPSize) = (msg.IsEdns0.map (·.hdr)).map RRHeader.UDPSize from
    (Option.map_map _ _ _).symm, IsEdns0_hdr typed, single]
  rfl

/-- **`PadAndPack` of a message without an OPT record, or with `NewOPT`'s alone, advertises
`NewOPT`'s UDP payload size.** -/
theorem udpSize_PadAndPack_NewOPT (wire : Wire) {msg : Msg} (typed : WellTyped msg.extra)
    (rcodeRange : 0 ≤ msg.hdr.rcode ∧ msg.hdr.rcode ≤ 0xFFF) {moduloSize : Nat}
    (moduloRange : 1 ≤ moduloSize ∧ moduloSize ≤ MaximumViableDNSMessage)
    (fresh : optRecords msg.extra = [] ∨ ∃ kept, optRecords msg.extra = [(NewOPT.hdr, kept)]) :
    (PadAndPack wire msg moduloSize).1.IsEdns0.map (·.hdr.UDPSize) = some DefaultMsgSize := by
  have prepared : ∃ kept, optRecords (ensureOPT (stripPadding msg)).extra = [(NewOPT.hdr, kept)] := by
    rcases fresh with noOPT | ⟨kept, single⟩
    · exact ⟨_, optRecords_ensureOPT_stripPadding_nil noOPT⟩
    · rw [optRecords_ensureOPT_stripPadding single, ite_self]
      exact ⟨_, rfl⟩
  obtain ⟨kept, prepared⟩ := prepared
  obtain ⟨padding, padded⟩ := optRecords_PadAndPack wire typed rcodeRange moduloRange prepared
  rw [IsEdns0_udpSize (typed.padAndPack wire moduloRange) padded,
    RRHeader.SetExtendedRcode_UDPSize, NewOPT_UDPSize]

/-- **`Pack` of a message with `NewOPT`'s OPT record alone advertises its UDP payload size.** -/
theorem udpSize_Pack_NewOPT (wire : Wire) {msg : Msg} (typed : WellTyped msg.extra)
    (rcodeRange : 0 ≤ msg.hdr.rcode ∧ msg.hdr.rcode ≤ 0xFFF) {kept : List EDNS0}
    (single : optRecords msg.extra = [(NewOPT.hdr, kept)]) :
    (msg.Pack wire).1.IsEdns0.map (·.hdr.UDPSize) = some DefaultMsgSize := by
  have packed := optRecords_Pack wire typed rcodeRange
  rw [single] at packed
  rw [IsEdns0_udpSize (typed.pack wire) packed]
  simp only [RRHeader.SetExtendedRcode_UDPSize, NewOPT_UDPSize]

/-- **The OPT header through the hop-by-hop manipulations**, for a message with one OPT
record, of header `h`:
* `RemoveEDNS0FromOPT` keeps the record with header `h`, unless the code removed empties it,
  and then no OPT record is left;
* `CreateECS` keeps it with header `h`;
* `PadAndPack` packs one OPT record, with `h`'s UDP payload size, version and DO flag if the
  padding strip leaves the record and `NewOPT`'s otherwise, its extended RCODE taken from the
  message's RCODE by `Pack`;
* the server's padding strip of that message keeps this record iff the original record had an
  option that is not padding. -/
theorem opt_header_through_hop_by_hop (msg : Msg) (h : RRHeader) (options : List EDNS0)
    (single : optRecords msg.extra = [(h, options)]) (typed : WellTyped msg.extra)
    (rcodeRange : 0 ≤ msg.hdr.rcode ∧ msg.hdr.rcode ≤ 0xFFF) (wire : Wire) (moduloSize : Nat)
    (moduloRange : 1 ≤ moduloSize ∧ moduloSize ≤ MaximumViableDNSMessage)
    (edns0Code : Nat) (family prefixLength : Int) (ip : Net.IP) :
    (optRecords (RemoveEDNS0FromOPT msg edns0Code).1.extra).map Prod.fst =
        (if emptiedBy edns0Code options then [] else [h]) ∧
      (optRecords (CreateECS msg family prefixLength ip).1.extra).map Prod.fst = [h] ∧
      ∃ packed : RRHeader,
        (optRecords (PadAndPack wire msg moduloSize).1.extra).map Prod.fst = [packed] ∧
        packed.edns = { (if emptiedBy EDNS0PADDING options then NewOPT.hdr else h).edns with
          extendedRcode := ((msg.hdr.rcode.toNat >>> 4) % 2 ^ 8) <<< 4 } ∧
        (optRecords (RemoveEDNS0FromOPT (PadAndPack wire msg moduloSize).1
            EDNS0PADDING).1.extra).map Prod.fst =
          if options.any fun o => o.Option ≠ EDNS0PADDING then [packed] else [] := by
  refine ⟨?removal, ?creation, ?padding⟩
  case removal =>
    rw [optRecords_RemoveEDNS0FromOPT_single single]
    split_ifs <;> rfl
  case creation =>
    simp [optRecords_CreateECS, single, appendToFirst]
  case padding =>
    set base := if emptiedBy EDNS0PADDING options then NewOPT.hdr else h
    set kept := options.filter fun o => o.Option ≠ EDNS0PADDING
    obtain ⟨padding, packedRecords⟩ := optRecords_PadAndPack wire typed rcodeRange moduloRange
      (optRecords_ensureOPT_stripPadding single)
    refine ⟨base.SetExtendedRcode msg.hdr.rcode.toNat, by simp [packedRecords], ?_, ?_⟩
    · simp [RRHeader.edns, RRHeader.SetExtendedRcode_ExtendedRcode]
    · have emptied : emptiedBy EDNS0PADDING (kept ++ [.padding padding]) =
          !(options.any fun o => o.Option ≠ EDNS0PADDING) := calc
        _ = kept.all fun o => o.Option = EDNS0PADDING := by simp [emptiedBy]
        _ = (kept.filter fun o => o.Option ≠ EDNS0PADDING).isEmpty := (isEmpty_filter_ne _ _).symm
        _ = kept.isEmpty := by rw [filter_ne_filter_ne]
        _ = options.all fun o => o.Option = EDNS0PADDING := isEmpty_filter_ne _ _
        _ = _ := (not_any_ne _ _).symm
      have keptClean :
          (kept ++ [EDNS0.padding padding]).filter (fun o => o.Option ≠ EDNS0PADDING) = kept := by
        rw [List.filter_append, filter_ne_filter_ne, List.filter_cons_of_neg (by simp),
          List.filter_nil, List.append_nil]
      rw [optRecords_RemoveEDNS0FromOPT_single packedRecords, emptied, keptClean]
      cases options.any fun o => o.Option ≠ EDNS0PADDING <;> rfl

theorem opt_header_through_hop_by_hop_query :
    optRecords [⟨⟨".", TypeOPT, 1232, 0x8000⟩, .opt [.other 10 [1, 2, 3, 4, 5, 6, 7, 8]]⟩] =
        [(⟨".", TypeOPT, 1232, 0x8000⟩, [.other 10 [1, 2, 3, 4, 5, 6, 7, 8]])] ∧
      WellTyped [⟨⟨".", TypeOPT, 1232, 0x8000⟩, .opt [.other 10 [1, 2, 3, 4, 5, 6, 7, 8]]⟩] ∧
      (optRecords (CreateECS ⟨⟨1, OpcodeQuery, false, 0⟩, [⟨"example.net.", 1, ClassINET⟩], [], [],
          [⟨⟨".", TypeOPT, 1232, 0x8000⟩, .opt [.other 10 [1, 2, 3, 4, 5, 6, 7, 8]]⟩]⟩
          1 24 (Net.IPv4 192 0 2 0)).1.extra).map Prod.fst = [⟨".", TypeOPT, 1232, 0x8000⟩] :=
  ⟨rfl, by decide,
    (opt_header_through_hop_by_hop ⟨⟨1, OpcodeQuery, false, 0⟩, [⟨"example.net.", 1, ClassINET⟩],
      [], [], [⟨⟨".", TypeOPT, 1232, 0x8000⟩, .opt [.other 10 [1, 2, 3, 4, 5, 6, 7, 8]]⟩]⟩
      ⟨".", TypeOPT, 1232, 0x8000⟩ [.other 10 [1, 2, 3, 4, 5, 6, 7, 8]] rfl (by decide)
      (by decide) ⟨fun _ => .ok [], fun _ => .error "", fun m _ => m⟩ Rfc8467ClientPadModulo
      (by decide) EDNS0SUBNET 1 24 (Net.IPv4 192 0 2 0)).2.1⟩

/-- **An OPT record dropped by a strip**: a query whose OPT record, with the DO flag, holds
only an ECS option loses the record to the client ECS removal, and one whose OPT record holds
only padding, as `PadAndPack` leaves a record that had no other option, loses it to the
server's padding strip. -/
theorem optDroppedByStrip :
    optRecords (RemoveEDNS0FromOPT ⟨⟨1, OpcodeQuery, false, 0⟩, [⟨"example.net.", 1, ClassINET⟩],
        [], [], [⟨⟨".", TypeOPT, 1232, 0x8000⟩, .opt [.subnet 1 24 0 (Net.IPv4 192 0 2 0)]⟩]⟩
        EDNS0SUBNET).1.extra = [] ∧
      optRecords (RemoveEDNS0FromOPT ⟨⟨1, OpcodeQuery, false, 0⟩,
        [⟨"example.net.", 1, ClassINET⟩], [], [],
        [⟨⟨".", TypeOPT, 1232, 0x8000⟩, .opt [.padding (List.replicate 83 0)]⟩]⟩
        EDNS0PADDING).1.extra = [] := by
  decide


/-! ## The length `PadAndPack` packs to -/

/-- The length `PadAndPack` measures before padding: the prepared message with an empty padding
option. -/
def unpaddedLen (msg : Msg) : Nat :=
  { ensureOPT (stripPadding msg) with
    extra := appendToFirstOPT (.padding []) (ensureOPT (stripPadding msg)).extra }.Len

/-- An option added to the first OPT record lengthens the records by its packed size. -/
theorem len_appendToFirstOPT (o : EDNS0) {rrs : List RR} (present : optRecords rrs ≠ []) :
    ((appendToFirstOPT o rrs).map RR.len).sum = (rrs.map RR.len).sum + (4 + o.packLen) := by
  induction rrs with
  | nil => exact absurd rfl present
  | cons rr rest ih =>
      obtain ⟨hdr, data⟩ := rr
      cases data with
      | opt options =>
          simp only [appendToFirstOPT, List.map_cons, List.sum_cons, RR.len, RData.len,
            List.map_append, List.sum_append, List.map_nil, List.sum_nil]
          omega
      | other rdata =>
          have present' : optRecords rest ≠ [] := by simpa [optRecords, optRecord] using present
          simp only [appendToFirstOPT, List.map_cons, List.sum_cons, ih present']
          omega

/-- A change of record headers that keeps their names keeps the lengths. -/
theorem len_modifyFirst (p : RR → Bool) {f : RRHeader → RRHeader} (named : ∀ h, (f h).name = h.name)
    (rrs : List RR) : (modifyFirst p f rrs).map RR.len = rrs.map RR.len := by
  induction rrs with
  | nil => rfl
  | cons rr rest ih =>
      unfold modifyFirst
      split_ifs <;> simp [RR.len, named, ih]

theorem Len_modifyEdns0 (m : Msg) {f : RRHeader → RRHeader} (named : ∀ h, (f h).name = h.name) :
    (m.modifyEdns0 f).Len = m.Len := by
  simp only [Msg.modifyEdns0, Msg.Len, List.map_reverse, List.sum_reverse, len_modifyFirst _ named]

/-- Padding up from `length` to the next multiple of `modulo` past it lands on a multiple. -/
theorem add_sub_mod_mod (length : Nat) {modulo : Nat} (pos : 0 < modulo) :
    (length + (modulo - length % modulo)) % modulo = 0 := by
  have below := Nat.mod_lt length pos
  have split := Nat.mod_add_div length modulo
  rw [show length + (modulo - length % modulo) = modulo * (length / modulo + 1) by
    rw [Nat.mul_succ]; omega]
  exact Nat.mul_mod_right modulo _

/-- `IsEdns0` finds a record when well-typed records hold an OPT record. -/
theorem IsEdns0_isSome {msg : Msg} (typed : WellTyped msg.extra)
    (present : optRecords msg.extra ≠ []) : msg.IsEdns0.isSome := by
  have located := congrArg Option.isSome (IsEdns0_hdr typed)
  simp only [Option.isSome_map'] at located
  rw [located]
  exact List.getLast?_isSome.mpr present

/-- **The length `PadAndPack` packs to**, for a codec whose encoding of every message is `Len`
bytes long: the length measured with an empty padding option, raised to the next multiple of
the modulo strictly past it when it already is one. -/
theorem PadAndPack_length (wire : Wire) {msg : Msg} (typed : WellTyped msg.extra)
    (rcodeRange : 0 ≤ msg.hdr.rcode ∧ msg.hdr.rcode ≤ 0xFFF) {moduloSize : Nat}
    (moduloRange : 1 ≤ moduloSize ∧ moduloSize ≤ MaximumViableDNSMessage)
    (exact : ∀ m : Msg, ∃ bytes, wire.encode m = .ok bytes ∧ bytes.length = m.Len) :
    ∃ bytes, (PadAndPack wire msg moduloSize).2 = .ok bytes ∧
      bytes.length = unpaddedLen msg + (moduloSize - unpaddedLen msg % moduloSize) ∧
      bytes.length % moduloSize = 0 := by
  have baseTyped : WellTyped (ensureOPT (stripPadding msg)).extra := by
    rw [stripPadding_eq]
    exact (typed.removeEDNS0FromOPT _).ensureOPT
  have present : optRecords (ensureOPT (stripPadding msg)).extra ≠ [] := by
    rw [optRecords_ensureOPT]
    split_ifs <;> simp_all
  have hdrEq : (ensureOPT (stripPadding msg)).hdr = msg.hdr := by
    rw [ensureOPT_hdr, stripPadding_hdr]
  have positive : 0 < moduloSize - unpaddedLen msg % moduloSize := by
    have := Nat.mod_lt (unpaddedLen msg) (show 0 < moduloSize by omega)
    omega
  set padded : Msg := { ensureOPT (stripPadding msg) with
    extra := appendToFirstOPT (.padding (List.replicate (moduloSize - unpaddedLen msg % moduloSize) 0))
      (ensureOPT (stripPadding msg)).extra } with paddedEq
  have paddedLen : padded.Len = unpaddedLen msg + (moduloSize - unpaddedLen msg % moduloSize) := by
    simp only [paddedEq, unpaddedLen, Msg.Len, len_appendToFirstOPT _ present, EDNS0.packLen,
      List.length_replicate, List.length_nil]
    omega
  have found : padded.IsEdns0.isSome := by
    apply IsEdns0_isSome (baseTyped.appendToFirstOPT _)
    obtain ⟨record, rest, split⟩ := List.exists_cons_of_ne_nil present
    simp [optRecords_appendToFirstOPT, split, appendToFirst]
  obtain ⟨bytes, encoded, length⟩ :=
    exact (padded.modifyEdns0 fun h => h.SetExtendedRcode padded.hdr.rcode.toNat)
  rw [@Len_modifyEdns0 padded (fun h => h.SetExtendedRcode padded.hdr.rcode.toNat) fun _ => rfl,
    paddedLen] at length
  have divides : bytes.length % moduloSize = 0 := by
    rw [length]
    exact add_sub_mod_mod _ (by omega)
  refine ⟨bytes, ?_, length, divides⟩
  obtain ⟨rr, located⟩ := Option.isSome_iff_exists.mp found
  unfold PadAndPack
  rw [if_neg (by omega)]
  dsimp only
  rw [← unpaddedLen, if_pos (show moduloSize - unpaddedLen msg % moduloSize > 0 from positive)]
  have packed : (padded.Pack wire).2 = .ok bytes := by
    unfold Msg.Pack
    rw [if_neg (by rw [show padded.hdr = msg.hdr from hdrEq]; omega), located]
    exact encoded
  rw [← paddedEq, packed]
  simp [divides]

/-- A codec whose encoding of every message is `Len` bytes long, as `Len` promises. -/
def exactWire : Wire := ⟨fun m => .ok (List.replicate m.Len 0), fun _ => .error "", fun m _ => m⟩

theorem exactWire_encode (m : Msg) : ∃ bytes, exactWire.encode m = .ok bytes ∧ bytes.length = m.Len :=
  ⟨_, rfl, List.length_replicate _ _⟩

/-- A query for the root, 32 bytes long once it carries an empty padding option. -/
def rootQuery : Msg := ⟨⟨7, OpcodeQuery, false, 0⟩, [⟨".", 1, ClassINET⟩], [], [], []⟩

theorem PadAndPack_length_rootQuery :
    WellTyped rootQuery.extra ∧ ∃ bytes, (PadAndPack exactWire rootQuery 48).2 = .ok bytes ∧
      bytes.length = unpaddedLen rootQuery + (48 - unpaddedLen rootQuery % 48) ∧
      bytes.length % 48 = 0 :=
  ⟨by decide, PadAndPack_length exactWire (by decide) (by decide) (by decide) exactWire_encode⟩

/-- When the length with an empty padding option is already a multiple of the modulo, a whole
modulo of padding is added: the least multiple of 32 at or past 32 is 32, and 64 bytes are
packed. -/
theorem PadAndPack_pads_aligned_length :
    unpaddedLen rootQuery = 32 ∧ (PadAndPack exactWire rootQuery 32).2.map List.length = .ok 64 :=
  ⟨by decide, rfl⟩

end Trustydns.DnsUtil
