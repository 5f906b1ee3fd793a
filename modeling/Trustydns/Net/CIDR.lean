import Trustydns.Net.IP

/-! # CIDR networks as Go's `net` package reads them

`ParseCIDR` reads `address/prefix`: the address in dotted decimal or in the IPv6 text form,
the prefix in decimal within the family's bits. The network it returns is the address masked
by `CIDRMask` (`IP.Mask`): four bytes for an address written in dotted decimal, sixteen for
one written in the IPv6 form, IPv4-mapped or not. The mask has exactly the prefix's leading
ones (`IPMask_Size_CIDRMask`), and a sixteen-byte network that is IPv4-mapped keeps its
`ffff` bytes only under a prefix of 96 bits or more (`ParseCIDR_network`).
-/

namespace Trustydns.Net

/-- The bytes of `CIDRMask`'s loop: `l` bytes with `n` leading one bits. -/
def cidrMaskBytes : Nat → Nat → List UInt8
  | 0, _ => []
  | l + 1, n =>
      if n ≥ 8 then 0xff :: cidrMaskBytes l (n - 8)
      else ~~~((0xff : UInt8) >>> n.toUInt8) :: cidrMaskBytes l 0

/-- `CIDRMask`: `ones` leading one bits out of `bits`, `nil` for a bit count other than 32 or
128 and for too many ones. -/
def CIDRMask (ones bits : Nat) : IPMask :=
  if bits ≠ 8 * IPv4len ∧ bits ≠ 8 * IPv6len then []
  else if ones > bits then []
  else cidrMaskBytes (bits / 8) ones

/-- `IP.Mask`: the address masked byte by byte, an IPv4 address in four bytes when the mask
has four, `nil` when the lengths differ. -/
def IP.Mask (ip : IP) (mask : IPMask) : IP :=
  let mask :=
    if mask.length = IPv6len ∧ ip.length = IPv4len ∧ (mask.take 12).all (· = 0xff) then
      mask.drop 12
    else mask
  let ip :=
    if mask.length = IPv4len ∧ ip.length = IPv6len ∧ ip.take 12 = v4InV6Prefix then ip.drop 12
    else ip
  if ip.length ≠ mask.length then [] else List.zipWith (· &&& ·) ip mask

/-- `ParseCIDR`: the address and the network, or the `ParseError`'s text. -/
def ParseCIDR (s : String) : Except String (IP × IPNet) :=
  match s.toList.indexOf? '/' with
  | none => .error ("invalid CIDR address: " ++ s)
  | some i =>
      let addr := s.toList.take i
      let mask := s.toList.drop (i + 1)
      let (iplen, ip) :=
        match parseIPv4 addr with
        | some ip => (IPv4len, some ip)
        | none => (IPv6len, parseIPv6 addr)
      let (n, j, ok) := dtoi mask
      match ip with
      | none => .error ("invalid CIDR address: " ++ s)
      | some ip =>
          if !ok || j ≠ mask.length || n > 8 * iplen then .error ("invalid CIDR address: " ++ s)
          else
            let m := CIDRMask n (8 * iplen)
            .ok (ip, ⟨IP.Mask ip m, m⟩)

example : ParseCIDR "192.0.2.1/24" =
    .ok (IPv4 192 0 2 1, ⟨[192, 0, 2, 0], [0xff, 0xff, 0xff, 0]⟩) := rfl

/-! ## The addresses `parseIPv6` returns -/

theorem parseIPv4_eq {s : List Char} {ip : IP} (parsed : parseIPv4 s = some ip) :
    ∃ a b c d, ip = IPv4 a b c d := by
  unfold parseIPv4 at parsed
  split at parsed
  · cases parsed
    exact ⟨_, _, _, _, rfl⟩
  · cases parsed

/-- The loop never passes sixteen bytes, and the `::` it notes stands within what it read. -/
theorem parseIPv6Loop_length {fuel : Nat} {ip : List UInt8} {ellipsis : Option Nat}
    {s : List Char} {ip' : List UInt8} {ellipsis' : Option Nat} {rest : List Char}
    (loop : parseIPv6Loop fuel ip ellipsis s = some (ip', ellipsis', rest))
    (room : ip.length + 2 * fuel ≤ IPv6len) (within : ∀ e, ellipsis = some e → e ≤ ip.length) :
    ip'.length ≤ IPv6len ∧ ∀ e, ellipsis' = some e → e ≤ ip'.length := by
  induction fuel generalizing ip ellipsis s with
  | zero =>
      cases loop
      exact ⟨by omega, within⟩
  | succ fuel ih =>
      unfold parseIPv6Loop at loop
      generalize xtoi s = read at loop
      obtain ⟨n, c, ok⟩ := read
      dsimp only at loop
      by_cases bad : (!ok || decide (n > 0xFFFF)) = true
      · rw [if_pos bad] at loop
        cases loop
      rw [if_neg bad] at loop
      by_cases dotted : s[c]? = some '.'
      · -- a dotted quad ends the address, in the four bytes left for it
        rw [if_pos dotted] at loop
        by_cases misplaced : ellipsis.isNone = true ∧ ip.length ≠ IPv6len - IPv4len
        · rw [if_pos misplaced] at loop
          cases loop
        rw [if_neg misplaced] at loop
        by_cases over : ip.length + IPv4len > IPv6len
        · rw [if_pos over] at loop
          cases loop
        rw [if_neg over] at loop
        obtain ⟨ip4, parsed, same⟩ := Option.map_eq_some'.mp loop
        obtain ⟨a, b, c, d, rfl⟩ := parseIPv4_eq parsed
        simp only [Prod.mk.injEq] at same
        obtain ⟨rfl, rfl, -⟩ := same
        refine ⟨?_, fun e noted => (within e noted).trans (by simp)⟩
        simp only [List.length_append, show (List.drop 12 (IPv4 a b c d)).length = 4 from rfl]
        simp only [IPv4len, IPv6len] at over room ⊢
        omega
      rw [if_neg dotted] at loop
      -- the group just read, and where an existing or a new `::` then stands
      have grown : (ip ++ [(n / 256).toUInt8, n.toUInt8]).length ≤ IPv6len := by
        simp only [List.length_append, List.length_cons, List.length_nil]
        omega
      have kept : ∀ e, ellipsis = some e → e ≤ (ip ++ [(n / 256).toUInt8, n.toUInt8]).length :=
        fun e noted => (within e noted).trans (by simp)
      have noted : ∀ e, some (ip ++ [(n / 256).toUInt8, n.toUInt8]).length = some e →
          e ≤ (ip ++ [(n / 256).toUInt8, n.toUInt8]).length := by
        rintro e ⟨⟩
        exact le_refl _
      have left : (ip ++ [(n / 256).toUInt8, n.toUInt8]).length + 2 * fuel ≤ IPv6len := by
        simp only [List.length_append, List.length_cons, List.length_nil]
        omega
      by_cases ended : (s.drop c).isEmpty = true
      · rw [if_pos ended] at loop
        cases loop
        exact ⟨grown, kept⟩
      rw [if_neg ended] at loop
      by_cases stray : (s.drop c).head? ≠ some ':' ∨ (s.drop c).length = 1
      · rw [if_pos stray] at loop
        cases loop
      rw [if_neg stray] at loop
      by_cases double : (s.drop c).tail.head? = some ':'
      · rw [if_pos double] at loop
        by_cases again : ellipsis.isSome = true
        · rw [if_pos again] at loop
          cases loop
        rw [if_neg again] at loop
        by_cases last : (s.drop c).tail.tail.isEmpty = true
        · rw [if_pos last] at loop
          cases loop
          exact ⟨grown, noted⟩
        rw [if_neg last] at loop
        exact ih loop left noted
      rw [if_neg double] at loop
      exact ih loop left kept

/-- `parseIPv6` returns sixteen bytes: the `::` is expanded to the bytes that are missing. -/
theorem parseIPv6_length {s : List Char} {ip : IP} (parsed : parseIPv6 s = some ip) :
    ip.length = IPv6len := by
  unfold parseIPv6 at parsed
  generalize entry : (if s.take 2 = [':', ':'] then (some 0, s.drop 2) else (none, s)) =
    start at parsed
  obtain ⟨ellipsis, s⟩ := start
  have atStart : ∀ e, ellipsis = some e → e ≤ ([] : List UInt8).length := by
    intro e noted
    split_ifs at entry <;> simp only [Prod.mk.injEq] at entry <;> obtain ⟨rfl, rfl⟩ := entry
    · cases noted; rfl
    · cases noted
  dsimp only at parsed
  split_ifs at parsed
  · cases parsed
    simp
  split at parsed
  · cases parsed
  rename_i ip' ellipsis' rest loop
  obtain ⟨bound, within⟩ := parseIPv6Loop_length loop (by simp [IPv6len]) atStart
  split_ifs at parsed with short
  · obtain ⟨e, rfl, rfl⟩ := Option.map_eq_some'.mp parsed
    have := within e rfl
    simp only [List.length_append, List.length_take, List.length_replicate, List.length_drop]
    omega
  · cases parsed
    omega

/-! ## The mask -/

@[simp] theorem length_cidrMaskBytes (l n : Nat) : (cidrMaskBytes l n).length = l := by
  induction l generalizing n with
  | zero => rfl
  | succ l ih => unfold cidrMaskBytes; split_ifs <;> simp [ih]

theorem cidrMaskBytes_zero (l : Nat) : cidrMaskBytes l 0 = List.replicate l 0 := by
  induction l with
  | zero => rfl
  | succ l ih => rw [cidrMaskBytes, if_neg (by decide), ih]; rfl

/-- The byte of a mask that ends inside it: the top `n` bits. -/
theorem partialByte (n : Nat) (short : n < 8) :
    ~~~((0xff : UInt8) >>> n.toUInt8) ≠ 0xff ∧
      leadingOnes 8 (~~~((0xff : UInt8) >>> n.toUInt8)) = (n, 0) := by
  revert n
  decide

/-- A mask of `n` leading ones has the size `n`. -/
theorem simpleMaskLength_cidrMaskBytes (l n : Nat) (fits : n ≤ 8 * l) :
    simpleMaskLength (cidrMaskBytes l n) = some n := by
  induction l generalizing n with
  | zero => rw [show n = 0 by omega]; rfl
  | succ l ih =>
      rw [cidrMaskBytes]
      split_ifs with full
      · rw [simpleMaskLength, if_pos rfl, ih _ (by omega)]
        simp only [Option.map_some']
        congr 1
        omega
      · obtain ⟨notFull, ones⟩ := partialByte n (by omega)
        rw [simpleMaskLength, if_neg notFull, ones, cidrMaskBytes_zero]
        simp

theorem CIDRMask_eq {n bits : Nat} (family : bits = 32 ∨ bits = 128) (fits : n ≤ bits) :
    CIDRMask n bits = cidrMaskBytes (bits / 8) n := by
  rw [CIDRMask, if_neg (by rcases family with rfl | rfl <;> decide), if_neg (by omega)]

theorem IPMask_Size_CIDRMask {n bits : Nat} (family : bits = 32 ∨ bits = 128) (fits : n ≤ bits) :
    IPMask.Size (CIDRMask n bits) = (n, bits) := by
  rw [IPMask.Size, CIDRMask_eq family fits, simpleMaskLength_cidrMaskBytes _ _ (by omega),
    length_cidrMaskBytes]
  rcases family with rfl | rfl <;> rfl

/-- A byte of the mask is all ones only when the prefix covers it. -/
theorem cidrMaskBytes_full {l n i : Nat} (full : (cidrMaskBytes l n)[i]? = some 0xff) :
    8 * (i + 1) ≤ n := by
  induction l generalizing n i with
  | zero => cases full
  | succ l ih =>
      rw [cidrMaskBytes] at full
      split_ifs at full with enough
      · cases i with
        | zero => omega
        | succ i => have := ih (by simpa using full); omega
      · cases i with
        | zero => exact absurd (Option.some.inj (by simpa using full)) (partialByte n (by omega)).1
        | succ i => have := ih (by simpa using full); omega

/-! ## The network -/

/-- An IPv4 address under a four-byte mask is masked in four bytes. -/
theorem length_Mask_IPv4 (a b c d : UInt8) {m : IPMask} (four : m.length = IPv4len) :
    (IP.Mask (IPv4 a b c d) m).length = IPv4len := by
  simp [IP.Mask, four, IPv4, IPv4len, IPv6len, v4InV6Prefix]

/-- A sixteen-byte address under a sixteen-byte mask is masked byte by byte. -/
theorem Mask_sixteen {ip : IP} {m : IPMask} (ip16 : ip.length = IPv6len) (m16 : m.length = IPv6len) :
    IP.Mask ip m = List.zipWith (· &&& ·) ip m := by
  simp [IP.Mask, ip16, m16, IPv4len, IPv6len]

/-- A masked byte is all ones only where the mask is. -/
theorem mask_full {ip : IP} {m : IPMask} {i : Nat}
    (full : (List.zipWith (· &&& ·) ip m)[i]? = some 0xff) : m[i]? = some 0xff := by
  obtain ⟨x, y, -, maskByte, both⟩ := List.getElem?_zipWith_eq_some.mp full
  have bound : (x &&& y).toNat ≤ y.toNat := by
    rw [UInt8.and_toNat]
    exact Nat.and_le_right
  rw [both] at bound
  have small : y.toNat < 256 := y.toNat_lt_size
  rw [maskByte, UInt8.toNat.inj (show y.toNat = (0xff : UInt8).toNat by
    simp only [show (0xff : UInt8).toNat = 255 from rfl] at bound ⊢; omega)]

/-- **The network `ParseCIDR` returns**: four bytes under a prefix of at most 32, or sixteen
under a prefix of at most 128, with a mask of exactly the prefix's ones; a sixteen-byte network
that is IPv4-mapped has a prefix of 96 or more. -/
theorem ParseCIDR_network {s : String} {ip : IP} {net : IPNet}
    (parsed : ParseCIDR s = .ok (ip, net)) :
    ∃ n, IPMask.Size net.Mask = (n, 8 * net.IP.length) ∧ n ≤ 8 * net.IP.length ∧
      (net.IP.length = IPv4len ∨ net.IP.length = IPv6len ∧ ((To4 net.IP).isSome → 96 ≤ n)) := by
  unfold ParseCIDR at parsed
  split at parsed
  · cases parsed
  rename_i i slash
  dsimp only at parsed
  generalize dtoi (s.toList.drop (i + 1)) = read at parsed
  obtain ⟨n, j, ok⟩ := read
  cases v4 : parseIPv4 (s.toList.take i) with
  | some ip4 =>
      simp only [v4] at parsed
      split_ifs at parsed with bad
      cases parsed
      obtain ⟨a, b, c, d, rfl⟩ := parseIPv4_eq v4
      dsimp only
      have fits : n ≤ 32 := by simp only [IPv4len] at bad; simp at bad; omega
      have four : (CIDRMask n (8 * IPv4len)).length = IPv4len := by
        rw [@CIDRMask_eq n (8 * IPv4len) (.inl rfl) fits, length_cidrMaskBytes]
        rfl
      refine ⟨n, ?_, ?_, .inl (length_Mask_IPv4 a b c d four)⟩
      · rw [length_Mask_IPv4 a b c d four, @IPMask_Size_CIDRMask n (8 * IPv4len) (.inl rfl) fits]
      · rw [length_Mask_IPv4 a b c d four]
        exact fits
  | none =>
      simp only [v4] at parsed
      cases v6 : parseIPv6 (s.toList.take i) with
      | none => simp only [v6] at parsed; cases parsed
      | some ip6 =>
          simp only [v6] at parsed
          split_ifs at parsed with bad
          cases parsed
          dsimp only
          have ip16 := parseIPv6_length v6
          have fits : n ≤ 128 := by simp only [IPv6len] at bad; simp at bad; omega
          have m16 : (CIDRMask n (8 * IPv6len)).length = IPv6len := by
            rw [@CIDRMask_eq n (8 * IPv6len) (.inr rfl) fits, length_cidrMaskBytes]
            rfl
          have masked : (IP.Mask ip (CIDRMask n (8 * IPv6len))).length = IPv6len := by
            rw [Mask_sixteen ip16 m16, List.length_zipWith, ip16, m16, min_self]
          refine ⟨n, ?_, by rw [masked]; exact fits, .inr ⟨masked, fun mapped => ?_⟩⟩
          · rw [masked, @IPMask_Size_CIDRMask n (8 * IPv6len) (.inr rfl) fits]
          -- the `ffff` bytes survive the mask only where it is all ones
          have prefixed : (IP.Mask ip (CIDRMask n (8 * IPv6len))).take 12 = v4InV6Prefix := by
            unfold To4 at mapped
            rw [if_neg (by rw [masked]; decide)] at mapped
            split_ifs at mapped with sixteen
            · exact sixteen.2
            · cases mapped
          have ffff : (List.zipWith (· &&& ·) ip (CIDRMask n (8 * IPv6len)))[11]? = some 0xff := by
            rw [← Mask_sixteen ip16 m16, ← List.getElem?_take_of_lt (by decide : 11 < 12), prefixed]
            rfl
          have full := mask_full ffff
          rw [@CIDRMask_eq n (8 * IPv6len) (.inr rfl) fits] at full
          have := cidrMaskBytes_full full
          omega

end Trustydns.Net
