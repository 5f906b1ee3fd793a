import Trustydns.Dns.Msg

/-! # EDNS0 options and TTL reduction

`dnsutil` finds, adds and removes EDNS0 options in the Extra section of a message and lowers
the TTLs of its records. The functions change the message in place in Go; here each returns
the new message with its Go result.

`RemoveEDNS0FromOPT` rebuilds every OPT record from the options that survive, with the header
it had, and drops an OPT record that has none left
(`Trustydns.DnsUtil.optRecords_RemoveEDNS0FromOPT`). `CreateECS` adds its option to the first
OPT record, creating one with `NewOPT` when there is none
(`Trustydns.DnsUtil.optRecords_CreateECS`). `ReduceTTL` lowers the TTL field of every record,
the OPT record's included, and that field holds the OPT record's DO flag
(`Trustydns.DnsUtil.reduceTTLClearsDnssecOk`).
-/

namespace Trustydns.DnsUtil

open Trustydns.Dns
open Trustydns.Net (IP)

/-- Whether a record is a `*dns.OPT`. -/
def isOPT (rr : RR) : Bool :=
  match rr.data with
  | .opt _ => true
  | .other _ => false

/-- `NewOPT`: version 0, UDP payload size `dns.DefaultMsgSize`, root name, type OPT. -/
def NewOPT : RR :=
  let hdr : RRHeader := { name := "", rrtype := 0, rrclass := 0, ttl := 0 }
  let hdr := (hdr.SetVersion 0).SetUDPSize DefaultMsgSize
  ⟨{ hdr with name := ".", rrtype := TypeOPT }, .opt []⟩

@[simp] theorem NewOPT_UDPSize : NewOPT.hdr.UDPSize = DefaultMsgSize := rfl

/-- `FindOPT`: the first OPT record of Extra. -/
def FindOPT (q : Msg) : Option RR :=
  q.extra.find? isOPT

/-- The first ECS option of a list of options. -/
def firstECS : List EDNS0 → Option EDNS0
  | [] => none
  | o@(.subnet ..) :: _ => some o
  | _ :: rest => firstECS rest

/-- `FindECS`: the first ECS option of the first OPT record that has one, with that record. -/
def FindECS (q : Msg) : Option (RR × EDNS0) :=
  q.extra.findSome? fun rr =>
    match rr.data with
    | .opt options => (firstECS options).map fun ecs => (rr, ecs)
    | .other _ => none

/-- The length of the first padding option of a list of options. -/
def firstPadding : List EDNS0 → Option Nat
  | [] => none
  | .padding bytes :: _ => some bytes.length
  | _ :: rest => firstPadding rest

/-- The length of the first padding option of a record, if it is an OPT record with one. -/
def paddingOf (rr : RR) : Option Nat :=
  match rr.data with
  | .opt options => firstPadding options
  | .other _ => none

/-- `FindPadding`: the length of the first padding option of the first OPT record that has
one, `-1` when there is none. -/
def FindPadding (q : Msg) : Int :=
  match q.extra.findSome? paddingOf with
  | some length => length
  | none => -1

/-- What the loop of `RemoveEDNS0FromOPT` makes of one record: the record kept, if any, and
whether an option was removed from it. An OPT record is rebuilt with its header and the
options of other codes, and is kept only if one is left. -/
def removeFromRR (edns0Code : Nat) (rr : RR) : Option RR × Bool :=
  match rr.data with
  | .other _ => (some rr, false)
  | .opt options =>
      let survivors := options.filter fun o => o.Option ≠ edns0Code
      (if survivors.isEmpty then none else some ⟨rr.hdr, .opt survivors⟩,
        options.any fun o => o.Option = edns0Code)

/-- `RemoveEDNS0FromOPT`: Extra is replaced by the surviving records only if an option was
removed. -/
def RemoveEDNS0FromOPT (msg : Msg) (edns0Code : Nat) : Msg × Bool :=
  let results := msg.extra.map (removeFromRR edns0Code)
  let removed := results.any (·.2)
  (if removed then { msg with extra := results.filterMap (·.1) } else msg, removed)

/-- An option appended to the first OPT record of a list. -/
def appendToFirstOPT (o : EDNS0) : List RR → List RR
  | [] => []
  | rr :: rest =>
      match rr.data with
      | .opt options => ⟨rr.hdr, .opt (options ++ [o])⟩ :: rest
      | .other _ => rr :: appendToFirstOPT o rest

/-- `CreateECS`: an ECS option of the family, prefix length and address given, converted to
the option's `uint16` and `uint8` fields, appended to the first OPT record, which is created
by `NewOPT` if there is none. -/
def CreateECS (msg : Msg) (family prefixLength : Int) (ip : IP) : Msg × EDNS0 :=
  let ecs := EDNS0.subnet (family % 2 ^ 16).toNat (prefixLength % 2 ^ 8).toNat 0 ip
  let msg := if (FindOPT msg).isSome then msg else { msg with extra := msg.extra ++ [NewOPT] }
  ({ msg with extra := appendToFirstOPT ecs msg.extra }, ecs)

/-- One record in `reduceRRSet`'s loop, computed in `int64`: the record and whether its TTL
changed. -/
def reduceTTLOf (reduceBy minimum : Int) (rr : RR) : RR × Bool :=
  let ttl : Int := rr.hdr.ttl
  if ttl > minimum then
    let ttl := ttl - reduceBy
    let ttl := if ttl < minimum then minimum else ttl
    if (ttl % 2 ^ 32).toNat ≠ rr.hdr.ttl then
      ({ rr with hdr := { rr.hdr with ttl := (ttl % 2 ^ 32).toNat } }, true)
    else (rr, false)
  else (rr, false)

/-- `reduceRRSet`: the records and the number whose TTL changed. -/
def reduceRRSet (rrset : List RR) (reduceBy minimum : Int) : List RR × Nat :=
  let results := rrset.map (reduceTTLOf reduceBy minimum)
  (results.map (·.1), results.countP (·.2))

/-- `ReduceTTL`: every section reduced, and the number of TTLs changed. -/
def ReduceTTL (msg : Msg) (reduceBy minimum : Nat) : Msg × Nat :=
  let (answer, a) := if msg.answer.length > 0 then reduceRRSet msg.answer reduceBy minimum
    else (msg.answer, 0)
  let (ns, n) := if msg.ns.length > 0 then reduceRRSet msg.ns reduceBy minimum else (msg.ns, 0)
  let (extra, e) := if msg.extra.length > 0 then reduceRRSet msg.extra reduceBy minimum
    else (msg.extra, 0)
  ({ msg with answer, ns, extra }, a + n + e)

/-! ## The OPT records a message carries -/

/-- A record as an OPT record, header and options, if it is one. -/
def optRecord (rr : RR) : Option (RRHeader × List EDNS0) :=
  match rr.data with
  | .opt options => some (rr.hdr, options)
  | .other _ => none

/-- The OPT records of a list, in order. -/
def optRecords (rrs : List RR) : List (RRHeader × List EDNS0) :=
  rrs.filterMap optRecord

/-- What `RemoveEDNS0FromOPT` makes of an OPT record: its options of other codes under its
header, or nothing when none is left. -/
def stripOptions (edns0Code : Nat) (record : RRHeader × List EDNS0) :
    Option (RRHeader × List EDNS0) :=
  let survivors := record.2.filter fun o => o.Option ≠ edns0Code
  if survivors.isEmpty then none else some (record.1, survivors)

@[simp] theorem optRecords_nil : optRecords [] = [] := rfl

@[simp] theorem optRecords_append (left right : List RR) :
    optRecords (left ++ right) = optRecords left ++ optRecords right :=
  List.filterMap_append left right _

theorem optRecords_reverse (rrs : List RR) : optRecords rrs.reverse = (optRecords rrs).reverse :=
  List.filterMap_reverse _ _

theorem removeFromRR_bind_optRecord (edns0Code : Nat) (rr : RR) :
    (removeFromRR edns0Code rr).1.bind optRecord = (optRecord rr).bind (stripOptions edns0Code) := by
  obtain ⟨hdr, data⟩ := rr
  cases data <;> simp only [removeFromRR, optRecord, stripOptions, Option.some_bind]
  · split_ifs <;> rfl
  · rfl

theorem removeFromRR_snd (edns0Code : Nat) (rr : RR) :
    (removeFromRR edns0Code rr).2 =
      ((optRecord rr).map fun record => record.2.any fun o => o.Option = edns0Code).getD false := by
  obtain ⟨hdr, data⟩ := rr
  cases data <;> rfl

/-- The records the loop of `RemoveEDNS0FromOPT` keeps hold the stripped OPT records. -/
theorem optRecords_filterMap_removeFromRR (edns0Code : Nat) (rrs : List RR) :
    optRecords (rrs.filterMap fun rr => (removeFromRR edns0Code rr).1) =
      (optRecords rrs).filterMap (stripOptions edns0Code) := by
  simp only [optRecords, List.filterMap_filterMap, removeFromRR_bind_optRecord]

/-- `RemoveEDNS0FromOPT` reports a removal exactly when an OPT record has an option of the
code. -/
theorem RemoveEDNS0FromOPT_removed (msg : Msg) (edns0Code : Nat) :
    (RemoveEDNS0FromOPT msg edns0Code).2 =
      (optRecords msg.extra).any fun record => record.2.any fun o => o.Option = edns0Code := by
  unfold RemoveEDNS0FromOPT optRecords
  dsimp only
  induction msg.extra with
  | nil => rfl
  | cons rr rest ih =>
      rw [List.map_cons, List.any_cons, ih, removeFromRR_snd, List.filterMap_cons]
      cases optRecord rr <;> simp

/-- **What `RemoveEDNS0FromOPT` does to the OPT records**: when it removes an option, every
OPT record loses its options of the code and keeps its header, and one left without options
is dropped; otherwise nothing changes. -/
theorem optRecords_RemoveEDNS0FromOPT (msg : Msg) (edns0Code : Nat) :
    optRecords (RemoveEDNS0FromOPT msg edns0Code).1.extra =
      if (RemoveEDNS0FromOPT msg edns0Code).2 then
        (optRecords msg.extra).filterMap (stripOptions edns0Code)
      else optRecords msg.extra := by
  unfold RemoveEDNS0FromOPT
  dsimp only
  split_ifs
  · rw [List.filterMap_map]
    exact optRecords_filterMap_removeFromRR edns0Code msg.extra
  · rfl

/-- The first OPT record of a list gains the option. -/
def appendToFirst (o : EDNS0) : List (RRHeader × List EDNS0) → List (RRHeader × List EDNS0)
  | [] => []
  | (hdr, options) :: rest => (hdr, options ++ [o]) :: rest

theorem optRecords_appendToFirstOPT (o : EDNS0) (rrs : List RR) :
    optRecords (appendToFirstOPT o rrs) = appendToFirst o (optRecords rrs) := by
  induction rrs with
  | nil => rfl
  | cons rr rest ih =>
      obtain ⟨hdr, data⟩ := rr
      cases data
      · rfl
      · simpa only [appendToFirstOPT, optRecords, List.filterMap_cons, optRecord] using ih

theorem RemoveEDNS0FromOPT_hdr (msg : Msg) (edns0Code : Nat) :
    (RemoveEDNS0FromOPT msg edns0Code).1.hdr = msg.hdr := by
  unfold RemoveEDNS0FromOPT
  dsimp only
  split_ifs <;> rfl

/-- Removing options changes Extra only. -/
theorem RemoveEDNS0FromOPT_extraOnly (msg : Msg) (edns0Code : Nat) :
    msg.ExtraOnly (RemoveEDNS0FromOPT msg edns0Code).1 := by
  unfold RemoveEDNS0FromOPT
  dsimp only
  split_ifs <;> rfl

@[simp] theorem RemoveEDNS0FromOPT_question (msg : Msg) (edns0Code : Nat) :
    (RemoveEDNS0FromOPT msg edns0Code).1.question = msg.question :=
  (congrArg Msg.question (RemoveEDNS0FromOPT_extraOnly msg edns0Code)).symm

@[simp] theorem RemoveEDNS0FromOPT_answer (msg : Msg) (edns0Code : Nat) :
    (RemoveEDNS0FromOPT msg edns0Code).1.answer = msg.answer :=
  (congrArg Msg.answer (RemoveEDNS0FromOPT_extraOnly msg edns0Code)).symm

@[simp] theorem RemoveEDNS0FromOPT_ns (msg : Msg) (edns0Code : Nat) :
    (RemoveEDNS0FromOPT msg edns0Code).1.ns = msg.ns :=
  (congrArg Msg.ns (RemoveEDNS0FromOPT_extraOnly msg edns0Code)).symm

theorem CreateECS_hdr (msg : Msg) (family prefixLength : Int) (ip : IP) :
    (CreateECS msg family prefixLength ip).1.hdr = msg.hdr := by
  unfold CreateECS
  dsimp only
  split_ifs <;> rfl

/-- Adding an ECS option changes Extra only. -/
theorem CreateECS_extraOnly (msg : Msg) (family prefixLength : Int) (ip : IP) :
    msg.ExtraOnly (CreateECS msg family prefixLength ip).1 := by
  unfold CreateECS
  dsimp only
  split_ifs <;> rfl

theorem findOPT_eq_none_iff (msg : Msg) : FindOPT msg = none ↔ optRecords msg.extra = [] := by
  unfold FindOPT optRecords
  simp only [List.find?_eq_none, List.filterMap_eq_nil_iff]
  refine forall₂_congr fun rr _ => ?_
  obtain ⟨hdr, data⟩ := rr
  cases data <;> simp [isOPT, optRecord]

/-- **`CreateECS` adds its option to the first OPT record and keeps every header**; a
message without an OPT record gets `NewOPT`'s. -/
theorem optRecords_CreateECS (msg : Msg) (family prefixLength : Int) (ip : IP) :
    optRecords (CreateECS msg family prefixLength ip).1.extra =
      appendToFirst (CreateECS msg family prefixLength ip).2
        (if optRecords msg.extra = [] then [(NewOPT.hdr, [])] else optRecords msg.extra) := by
  unfold CreateECS
  dsimp only
  rw [optRecords_appendToFirstOPT]
  by_cases none : optRecords msg.extra = []
  · have missing := (findOPT_eq_none_iff msg).mpr none
    simp only [missing, Option.isSome_none, Bool.false_eq_true, ↓reduceIte, optRecords_append,
      none, List.nil_append]
    rfl
  · have found : (FindOPT msg).isSome := by
      rw [Option.isSome_iff_ne_none, ne_eq, findOPT_eq_none_iff]
      exact none
    simp [found, none]

/-! ## The options a message carries -/

/-- The options of a list of OPT records that satisfy `p`, in order. -/
def optionsIn (p : EDNS0 → Bool) (records : List (RRHeader × List EDNS0)) : List EDNS0 :=
  records.flatMap fun record => record.2.filter p

/-- The options of a message's OPT records that satisfy `p`. -/
def optionsOf (p : EDNS0 → Bool) (msg : Msg) : List EDNS0 :=
  optionsIn p (optRecords msg.extra)

section Selected

variable (p : EDNS0 → Bool) (edns0Code : Nat)

@[simp] theorem optionsIn_nil : optionsIn p [] = [] := rfl

@[simp] theorem optionsIn_cons (record : RRHeader × List EDNS0) (rest : List (RRHeader × List EDNS0)) :
    optionsIn p (record :: rest) = record.2.filter p ++ optionsIn p rest := rfl

theorem optionsIn_eq_nil_iff (records : List (RRHeader × List EDNS0)) :
    optionsIn p records = [] ↔ ∀ record ∈ records, ∀ o ∈ record.2, p o = false := by
  simp [optionsIn, List.flatMap_eq_nil_iff, List.filter_eq_nil_iff]

/-- Stripping the options of a code removes every selected option when each has that code. -/
theorem optionsIn_filterMap_stripOptions_of_code (coded : ∀ o, p o = true → o.Option = edns0Code)
    (records : List (RRHeader × List EDNS0)) :
    optionsIn p (records.filterMap (stripOptions edns0Code)) = [] := by
  rw [optionsIn_eq_nil_iff]
  intro record mem o kept
  obtain ⟨original, -, stripped⟩ := List.mem_filterMap.mp mem
  simp only [stripOptions] at stripped
  split_ifs at stripped
  cases stripped
  have other := (List.of_mem_filter kept)
  simp only [ne_eq, decide_not, Bool.not_eq_true', decide_eq_false_iff_not] at other
  exact Bool.eq_false_iff.mpr fun selected => other (coded o selected)

/-- Stripping the options of a code keeps every selected option when none has that code. -/
theorem optionsIn_filterMap_stripOptions_of_ne (uncoded : ∀ o, p o = true → o.Option ≠ edns0Code)
    (records : List (RRHeader × List EDNS0)) :
    optionsIn p (records.filterMap (stripOptions edns0Code)) = optionsIn p records := by
  have kept : ∀ options : List EDNS0,
      (options.filter fun o => o.Option ≠ edns0Code).filter p = options.filter p := by
    intro options
    rw [List.filter_filter]
    refine List.filter_congr fun o _ => ?_
    cases selected : p o <;> simp [uncoded o, selected]
  induction records with
  | nil => rfl
  | cons record rest ih =>
      rw [List.filterMap_cons, optionsIn_cons, ← ih]
      cases stripped : stripOptions edns0Code record with
      | none =>
          simp only [stripOptions, ite_eq_left_iff, reduceCtorEq, imp_false, not_not,
            List.isEmpty_iff] at stripped
          rw [← kept, stripped, List.filter_nil, List.nil_append]
      | some survivor =>
          simp only [stripOptions, Option.ite_none_left_eq_some, Option.some.injEq] at stripped
          rw [optionsIn_cons, ← stripped.2, kept]

/-- **What `RemoveEDNS0FromOPT` leaves of the selected options**: none when each has the
code removed. -/
theorem optionsOf_RemoveEDNS0FromOPT_of_code (coded : ∀ o, p o = true → o.Option = edns0Code)
    (msg : Msg) : optionsOf p (RemoveEDNS0FromOPT msg edns0Code).1 = [] := by
  unfold optionsOf
  rw [optRecords_RemoveEDNS0FromOPT]
  split_ifs with removed
  · exact optionsIn_filterMap_stripOptions_of_code p edns0Code coded _
  · rw [RemoveEDNS0FromOPT_removed, Bool.not_eq_true, List.any_eq_false] at removed
    rw [optionsIn_eq_nil_iff]
    intro record mem o kept
    refine Bool.eq_false_iff.mpr fun selected => removed record mem ?_
    exact List.any_eq_true.mpr ⟨o, kept, decide_eq_true (coded o selected)⟩

/-- ... and all of them when none has it. -/
theorem optionsOf_RemoveEDNS0FromOPT_of_ne (uncoded : ∀ o, p o = true → o.Option ≠ edns0Code)
    (msg : Msg) : optionsOf p (RemoveEDNS0FromOPT msg edns0Code).1 = optionsOf p msg := by
  unfold optionsOf
  rw [optRecords_RemoveEDNS0FromOPT]
  split_ifs
  · exact optionsIn_filterMap_stripOptions_of_ne p edns0Code uncoded _
  · rfl

theorem optionsIn_appendToFirst (o : EDNS0) (record : RRHeader × List EDNS0)
    (rest : List (RRHeader × List EDNS0)) :
    optionsIn p (appendToFirst o (record :: rest)) =
      record.2.filter p ++ [o].filter p ++ optionsIn p rest := by
  simp [appendToFirst, List.filter_append]

/-- **`CreateECS` adds its option and nothing else**: the options of a message that `p`
rejects for the new option are those it had. -/
theorem optionsOf_CreateECS_of_false (msg : Msg) (family prefixLength : Int) (ip : IP)
    (rejected : p (CreateECS msg family prefixLength ip).2 = false) :
    optionsOf p (CreateECS msg family prefixLength ip).1 = optionsOf p msg := by
  unfold optionsOf
  rw [optRecords_CreateECS]
  split_ifs with none
  · simp [appendToFirst, NewOPT, rejected, none]
  · obtain ⟨record, rest, split⟩ := List.exists_cons_of_ne_nil none
    rw [split, optionsIn_appendToFirst]
    simp [rejected]

/-- ... and a message without a selected option gets exactly the new one. -/
theorem optionsOf_CreateECS_of_true (msg : Msg) (family prefixLength : Int) (ip : IP)
    (selected : p (CreateECS msg family prefixLength ip).2 = true) (absent : optionsOf p msg = []) :
    optionsOf p (CreateECS msg family prefixLength ip).1 = [(CreateECS msg family prefixLength ip).2] := by
  unfold optionsOf at absent ⊢
  rw [optRecords_CreateECS]
  split_ifs with noOPT
  · simp [appendToFirst, NewOPT, selected]
  · obtain ⟨record, rest, split⟩ := List.exists_cons_of_ne_nil noOPT
    rw [split, optionsIn_cons, List.append_eq_nil] at absent
    rw [split, optionsIn_appendToFirst, absent.1, absent.2]
    simp [selected]

end Selected

theorem firstPadding_eq_none_iff (options : List EDNS0) :
    firstPadding options = none ↔ options.filter EDNS0.isPadding = [] := by
  induction options with
  | nil => simp [firstPadding]
  | cons o rest ih => cases o <;> simp [firstPadding, EDNS0.isPadding, ih]

theorem paddingOf_eq_none_iff (rr : RR) :
    paddingOf rr = none ↔ ∀ record ∈ optRecord rr, record.2.filter EDNS0.isPadding = [] := by
  obtain ⟨hdr, data⟩ := rr
  cases data <;> simp [paddingOf, optRecord, firstPadding_eq_none_iff]

/-- **`FindPadding` signals padding exactly when an OPT record carries a padding option.** -/
theorem FindPadding_nonneg_iff (msg : Msg) :
    0 ≤ FindPadding msg ↔ optionsOf EDNS0.isPadding msg ≠ [] := by
  have absent : msg.extra.findSome? paddingOf = none ↔
      optionsOf EDNS0.isPadding msg = [] := by
    simp only [List.findSome?_eq_none_iff, paddingOf_eq_none_iff, optionsOf, optionsIn,
      List.flatMap_eq_nil_iff, optRecords, List.mem_filterMap]
    constructor
    · rintro each record ⟨rr, mem, found⟩
      exact each rr mem record found
    · rintro each rr mem record found
      exact each record ⟨rr, mem, found⟩
  unfold FindPadding
  split
  · rename_i length found
    rw [ne_eq, ← absent, found]
    simp only [reduceCtorEq, not_false_eq_true, iff_true]
    omega
  · rename_i found
    rw [ne_eq, ← absent, found]
    simp

/-! ## What `RemoveEDNS0FromOPT` leaves -/

/-- The loop of `RemoveEDNS0FromOPT` keeps every record that is not an OPT record, in order. -/
theorem filter_not_isOPT_removeFromRR (edns0Code : Nat) (rrs : List RR) :
    (rrs.filterMap fun rr => (removeFromRR edns0Code rr).1).filter (fun rr => !isOPT rr) =
      rrs.filter fun rr => !isOPT rr := by
  induction rrs with
  | nil => rfl
  | cons rr rest ih =>
      obtain ⟨hdr, data⟩ := rr
      cases data with
      | opt options =>
          rw [List.filterMap_cons, List.filter_cons_of_neg (by simp [isOPT])]
          simp only [removeFromRR]
          split_ifs
          · exact ih
          · rw [List.filter_cons_of_neg (by simp [isOPT])]
            exact ih
      | other rdata =>
          have keep : (removeFromRR edns0Code ⟨hdr, .other rdata⟩).1 = some ⟨hdr, .other rdata⟩ := rfl
          simp only [List.filterMap_cons, keep]
          rw [List.filter_cons_of_pos (by simp [isOPT]), List.filter_cons_of_pos (by simp [isOPT]), ih]

/-- No OPT record left by `RemoveEDNS0FromOPT` has an option of the code. -/
theorem RemoveEDNS0FromOPT_no_code (msg : Msg) (edns0Code : Nat) :
    ∀ record ∈ optRecords (RemoveEDNS0FromOPT msg edns0Code).1.extra, ∀ o ∈ record.2,
      o.Option ≠ edns0Code := by
  rw [optRecords_RemoveEDNS0FromOPT]
  split_ifs with removed
  · intro record member o kept
    obtain ⟨original, -, stripped⟩ := List.mem_filterMap.mp member
    simp only [stripOptions] at stripped
    split_ifs at stripped
    cases stripped
    simpa using List.of_mem_filter kept
  · rw [RemoveEDNS0FromOPT_removed, Bool.not_eq_true, List.any_eq_false] at removed
    intro record member o kept same
    exact removed record member (List.any_eq_true.mpr ⟨o, kept, decide_eq_true same⟩)

/-- Stripping records that have no option of the code only drops the empty ones. -/
theorem filterMap_stripOptions_sublist {edns0Code : Nat} {records : List (RRHeader × List EDNS0)}
    (absent : ∀ record ∈ records, ∀ o ∈ record.2, o.Option ≠ edns0Code) :
    List.Sublist (records.filterMap (stripOptions edns0Code)) records := by
  induction records with
  | nil => exact List.Sublist.slnil
  | cons record rest ih =>
      have rest' := ih fun r member => absent r (List.mem_cons_of_mem _ member)
      have kept : record.2.filter (fun o => o.Option ≠ edns0Code) = record.2 :=
        List.filter_eq_self.mpr fun o member => by
          simpa using absent record (List.mem_cons_self _ _) o member
      rw [List.filterMap_cons]
      by_cases empty : record.2.isEmpty = true
      · simp only [stripOptions, kept, empty, if_true]
        exact rest'.cons _
      · simp only [stripOptions, kept, empty, if_false]
        exact rest'.cons₂ _

theorem RemoveEDNS0FromOPT_of_not_removed {msg : Msg} {edns0Code : Nat}
    (kept : (RemoveEDNS0FromOPT msg edns0Code).2 = false) :
    (RemoveEDNS0FromOPT msg edns0Code).1 = msg := by
  unfold RemoveEDNS0FromOPT at kept ⊢
  dsimp only at kept ⊢
  rw [if_neg (by simp [kept])]

theorem firstECS_eq_none {options : List EDNS0} (absent : ∀ o ∈ options, o.Option ≠ EDNS0SUBNET) :
    firstECS options = none := by
  induction options with
  | nil => rfl
  | cons o rest ih =>
      have rest' := ih fun o' member => absent o' (List.mem_cons_of_mem _ member)
      cases o with
      | subnet => exact absurd rfl (absent _ (List.mem_cons_self _ _))
      | padding => exact rest'
      | other => exact rest'

/-- `FindECS` finds nothing in a message whose OPT records have no option of the ECS code. -/
theorem FindECS_eq_none_of_absent {msg : Msg}
    (absent : ∀ record ∈ optRecords msg.extra, ∀ o ∈ record.2, o.Option ≠ EDNS0SUBNET) :
    FindECS msg = none := by
  rw [FindECS, List.findSome?_eq_none_iff]
  intro rr member
  obtain ⟨hdr, data⟩ := rr
  cases data with
  | other rdata => rfl
  | opt options =>
      have record : (hdr, options) ∈ optRecords msg.extra :=
        List.mem_filterMap.mpr ⟨_, member, rfl⟩
      simp [firstECS_eq_none (absent _ record)]

theorem FindPadding_eq_neg_one_iff (msg : Msg) :
    FindPadding msg = -1 ↔ optionsOf EDNS0.isPadding msg = [] := by
  have nonneg := FindPadding_nonneg_iff msg
  have either : FindPadding msg = -1 ∨ 0 ≤ FindPadding msg := by
    unfold FindPadding
    split <;> omega
  constructor
  · intro none
    by_contra present
    have := nonneg.mpr present
    omega
  · intro absent
    exact either.resolve_right fun found => nonneg.mp found absent

/-- **What `RemoveEDNS0FromOPT` leaves**: no OPT record has an option of the code; the records
that are not OPT records are those of the message, in order; every OPT record with an option of
another code is still there, with its header and exactly those options in their order; the
function reports a removal exactly when an option of the code was present, and otherwise leaves
the message as it was. So `FindECS` finds nothing after the ECS code is removed, and
`FindPadding` returns `-1` after the padding code is. -/
theorem RemoveEDNS0FromOPT_postcondition (msg : Msg) (edns0Code : Nat) :
    (∀ record ∈ optRecords (RemoveEDNS0FromOPT msg edns0Code).1.extra, ∀ o ∈ record.2,
      o.Option ≠ edns0Code) ∧
    (RemoveEDNS0FromOPT msg edns0Code).1.extra.filter (fun rr => !isOPT rr) =
      msg.extra.filter (fun rr => !isOPT rr) ∧
    List.Sublist ((optRecords msg.extra).filterMap (stripOptions edns0Code))
      (optRecords (RemoveEDNS0FromOPT msg edns0Code).1.extra) ∧
    ((RemoveEDNS0FromOPT msg edns0Code).2 = true ↔
      ∃ record ∈ optRecords msg.extra, ∃ o ∈ record.2, o.Option = edns0Code) ∧
    ((RemoveEDNS0FromOPT msg edns0Code).2 = false → (RemoveEDNS0FromOPT msg edns0Code).1 = msg) ∧
    FindECS (RemoveEDNS0FromOPT msg EDNS0SUBNET).1 = none ∧
    FindPadding (RemoveEDNS0FromOPT msg EDNS0PADDING).1 = -1 := by
  refine ⟨RemoveEDNS0FromOPT_no_code msg edns0Code, ?_, ?_, by simp [RemoveEDNS0FromOPT_removed],
    RemoveEDNS0FromOPT_of_not_removed, FindECS_eq_none_of_absent (RemoveEDNS0FromOPT_no_code _ _),
    (FindPadding_eq_neg_one_iff _).mpr (optionsOf_RemoveEDNS0FromOPT_of_code _ _
      (fun _ padding => EDNS0.Option_of_isPadding padding) msg)⟩
  · unfold RemoveEDNS0FromOPT
    dsimp only
    split_ifs
    · rw [List.filterMap_map]
      exact filter_not_isOPT_removeFromRR edns0Code msg.extra
    · rfl
  · rw [optRecords_RemoveEDNS0FromOPT]
    split_ifs with removed
    · exact List.Sublist.refl _
    · rw [RemoveEDNS0FromOPT_removed, Bool.not_eq_true, List.any_eq_false] at removed
      exact filterMap_stripOptions_sublist fun record member o kept same =>
        removed record member (List.any_eq_true.mpr ⟨o, kept, decide_eq_true same⟩)

/-! ## TTL reduction of an OPT record -/

/-- What `reduceTTLOf` does to a TTL: nothing at or below the minimum, otherwise a reduction
clamped at the minimum. -/
theorem reduceTTLOf_ttl (reduceBy minimum : Nat) (bound : minimum < 2 ^ 32) (rr : RR)
    (ttlBound : rr.hdr.ttl < 2 ^ 32) :
    ((reduceTTLOf reduceBy minimum rr).1.hdr.ttl : Int) =
      if rr.hdr.ttl ≤ minimum then (rr.hdr.ttl : Int)
      else max (minimum : Int) ((rr.hdr.ttl : Int) - reduceBy) := by
  unfold reduceTTLOf
  dsimp only
  split_ifs <;> dsimp only <;> omega

/-- **`ReduceTTL` rewrites an OPT record's TTL field and with it the DO flag**: a response
whose OPT record has only the DO flag set, reduced by an Age of 10 with minimum 1 as
`doh.Resolve` does, comes back with the DO flag clear. -/
theorem reduceTTLClearsDnssecOk :
    RRHeader.Do ⟨".", TypeOPT, 1232, 0x8000⟩ = true ∧
      ((ReduceTTL ⟨⟨7, OpcodeQuery, false, 0⟩, [], [], [],
          [⟨⟨".", TypeOPT, 1232, 0x8000⟩, .opt []⟩]⟩ 10 1).1.extra.map
        fun rr => rr.hdr.Do) = [false] := by
  decide

/-! ## `ReduceTTL` on every record -/

/-- The TTL `ReduceTTL` gives a record: unchanged at or below the minimum, otherwise lowered by
`reduceBy` but not below the minimum. -/
def reducedTTL (reduceBy minimum ttl : Nat) : Nat :=
  if ttl ≤ minimum then ttl else max minimum (ttl - reduceBy)

/-- A record with the TTL `reducedTTL` gives it. -/
def reduceRR (reduceBy minimum : Nat) (rr : RR) : RR :=
  { rr with hdr := { rr.hdr with ttl := reducedTTL reduceBy minimum rr.hdr.ttl } }

/-- Every TTL of the message is a `uint32`. -/
def TTLsFit (msg : Msg) : Prop :=
  ∀ rr ∈ msg.answer ++ msg.ns ++ msg.extra, rr.hdr.ttl < 2 ^ 32

instance (msg : Msg) : Decidable (TTLsFit msg) :=
  inferInstanceAs (Decidable (∀ rr ∈ msg.answer ++ msg.ns ++ msg.extra, _))

theorem reducedTTL_le (reduceBy minimum ttl : Nat) : reducedTTL reduceBy minimum ttl ≤ ttl := by
  unfold reducedTTL
  split_ifs <;> omega

/-- Two reductions are one by the sum. -/
theorem reducedTTL_reducedTTL (a b minimum ttl : Nat) :
    reducedTTL b minimum (reducedTTL a minimum ttl) = reducedTTL (a + b) minimum ttl := by
  unfold reducedTTL
  split_ifs <;> omega

theorem reducedTTL_zero (minimum ttl : Nat) : reducedTTL 0 minimum ttl = ttl := by
  unfold reducedTTL
  split_ifs <;> omega

theorem reduceRR_reduceRR (a b minimum : Nat) (rr : RR) :
    reduceRR b minimum (reduceRR a minimum rr) = reduceRR (a + b) minimum rr := by
  simp only [reduceRR, reducedTTL_reducedTTL]

theorem reduceRR_zero (minimum : Nat) : reduceRR 0 minimum = id :=
  funext fun rr => by simp only [reduceRR, reducedTTL_zero, id]

/-- `reduceTTLOf` computes `reducedTTL` without wrapping, and reports whether the TTL changed. -/
theorem reduceTTLOf_eq (reduceBy minimum : Nat) {rr : RR} (fits : rr.hdr.ttl < 2 ^ 32) :
    reduceTTLOf reduceBy minimum rr =
      (reduceRR reduceBy minimum rr, decide (reducedTTL reduceBy minimum rr.hdr.ttl ≠ rr.hdr.ttl)) := by
  obtain ⟨⟨name, rrtype, rrclass, ttl⟩, data⟩ := rr
  dsimp only at fits
  unfold reduceTTLOf reduceRR reducedTTL
  dsimp only
  by_cases low : ttl ≤ minimum
  · rw [if_neg (by omega), if_pos low]
    simp
  · have wrapped : ((if (ttl : Int) - reduceBy < minimum then (minimum : Int) else ttl - reduceBy) %
        2 ^ 32).toNat = max minimum (ttl - reduceBy) := by
      split_ifs <;> omega
    rw [if_pos (by omega), if_neg low, wrapped]
    by_cases same : max minimum (ttl - reduceBy) = ttl
    · simp [same]
    · simp [same]

theorem reduceRRSet_eq {rrset : List RR} (reduceBy minimum : Nat)
    (fits : ∀ rr ∈ rrset, rr.hdr.ttl < 2 ^ 32) :
    reduceRRSet rrset reduceBy minimum = (rrset.map (reduceRR reduceBy minimum),
      rrset.countP fun rr => reducedTTL reduceBy minimum rr.hdr.ttl ≠ rr.hdr.ttl) := by
  unfold reduceRRSet
  rw [List.map_congr_left fun rr member => reduceTTLOf_eq reduceBy minimum (fits rr member)]
  simp [List.countP_map, Function.comp_def]

/-- Skipping an empty section is reducing it. -/
theorem reduceRRSet_of_length (rrset : List RR) (reduceBy minimum : Nat) :
    (if rrset.length > 0 then reduceRRSet rrset reduceBy minimum else (rrset, 0)) =
      reduceRRSet rrset reduceBy minimum := by
  cases rrset with
  | nil => rfl
  | cons rr rest => exact if_pos (Nat.succ_pos _)

/-- `ReduceTTL` gives every record of the three sections its reduced TTL, and counts the
records whose TTL changed. -/
theorem ReduceTTL_eq (msg : Msg) (reduceBy minimum : Nat) (fits : TTLsFit msg) :
    ReduceTTL msg reduceBy minimum =
      ({ msg with answer := msg.answer.map (reduceRR reduceBy minimum),
                  ns := msg.ns.map (reduceRR reduceBy minimum),
                  extra := msg.extra.map (reduceRR reduceBy minimum) },
        (msg.answer ++ msg.ns ++ msg.extra).countP fun rr =>
          reducedTTL reduceBy minimum rr.hdr.ttl ≠ rr.hdr.ttl) := by
  unfold ReduceTTL
  simp only [reduceRRSet_of_length]
  rw [reduceRRSet_eq reduceBy minimum fun rr member => fits rr (by simp [member]),
    reduceRRSet_eq reduceBy minimum fun rr member => fits rr (by simp [member]),
    reduceRRSet_eq reduceBy minimum fun rr member => fits rr (by simp [member])]
  simp only [List.countP_append]

theorem TTLsFit.reduceTTL {msg : Msg} (fits : TTLsFit msg) (reduceBy minimum : Nat) :
    TTLsFit (ReduceTTL msg reduceBy minimum).1 := by
  rw [ReduceTTL_eq msg reduceBy minimum fits]
  intro rr member
  simp only [← List.map_append, List.mem_map] at member
  obtain ⟨original, kept, rfl⟩ := member
  exact lt_of_le_of_lt (reducedTTL_le _ _ _) (fits original kept)

/-- **What `ReduceTTL` does**: every record of Answer, Ns and Extra gets the TTL `reducedTTL`
computes, nothing else of the message changes, and the count returned is the number of records
whose TTL changed. Two reductions with one minimum are one reduction by the sum, and a
reduction by zero changes nothing. -/
theorem ReduceTTL_spec (msg : Msg) (reduceBy minimum : Nat) (fits : TTLsFit msg) :
    (ReduceTTL msg reduceBy minimum).1 =
      { msg with answer := msg.answer.map (reduceRR reduceBy minimum),
                 ns := msg.ns.map (reduceRR reduceBy minimum),
                 extra := msg.extra.map (reduceRR reduceBy minimum) } ∧
    (ReduceTTL msg reduceBy minimum).2 = (msg.answer ++ msg.ns ++ msg.extra).countP
      (fun rr => reducedTTL reduceBy minimum rr.hdr.ttl ≠ rr.hdr.ttl) ∧
    (∀ a b, (ReduceTTL (ReduceTTL msg a minimum).1 b minimum).1 =
      (ReduceTTL msg (a + b) minimum).1) ∧
    ReduceTTL msg 0 minimum = (msg, 0) := by
  refine ⟨by rw [ReduceTTL_eq msg reduceBy minimum fits], by rw [ReduceTTL_eq msg reduceBy minimum fits],
    fun a b => ?_, ?_⟩
  · rw [ReduceTTL_eq _ b minimum (fits.reduceTTL a minimum), ReduceTTL_eq msg a minimum fits,
      ReduceTTL_eq msg (a + b) minimum fits]
    simp only [List.map_map, Function.comp_def, reduceRR_reduceRR]
  · rw [ReduceTTL_eq msg 0 minimum fits]
    simp [reduceRR_zero, reducedTTL_zero]

/-- A response reduced by an Age of 10 with minimum 1, as `doh.Resolve` does: a TTL of 300
becomes 290 and one of 1 stays. -/
theorem ReduceTTL_spec_age :
    TTLsFit ⟨⟨7, OpcodeQuery, false, 0⟩, [], [⟨⟨"example.com.", 1, ClassINET, 300⟩, .other []⟩,
      ⟨⟨"example.com.", 1, ClassINET, 1⟩, .other []⟩], [], []⟩ ∧
    (ReduceTTL ⟨⟨7, OpcodeQuery, false, 0⟩, [], [⟨⟨"example.com.", 1, ClassINET, 300⟩, .other []⟩,
      ⟨⟨"example.com.", 1, ClassINET, 1⟩, .other []⟩], [], []⟩ 10 1).1.answer.map (·.hdr.ttl) =
      [290, 1] := by
  have fits : TTLsFit ⟨⟨7, OpcodeQuery, false, 0⟩, [], [⟨⟨"example.com.", 1, ClassINET, 300⟩,
      .other []⟩, ⟨⟨"example.com.", 1, ClassINET, 1⟩, .other []⟩], [], []⟩ := by decide
  exact ⟨fits, by rw [(ReduceTTL_spec _ 10 1 fits).1]; rfl⟩

end Trustydns.DnsUtil
