import Mathlib.Data.List.Basic

/-! # `unicode.ToLower`

`strings.ToLower` lowers a text rune by rune with `unicode.ToLower`, which takes the ASCII
letters by their own test and every other rune through the case ranges of the Unicode Character
Database: the simple lowercase mapping of `UnicodeData.txt`. `lowerCaseRanges` is that mapping,
of Unicode 14.0.0, as ranges of runes that lower by one offset. Unicode 15.0.0, which Go's
`unicode` tables carry from Go 1.21 on, adds no case pair to it; Go's Unicode 13.0.0 tables
lack the pairs of the letters 14.0.0 added (Vithkuqi, and a few Latin and Glagolitic letters).

Two runes that are not ASCII lower to ASCII letters, `İ` (U+0130) to `i` and the Kelvin sign
(U+212A) to `k`; no rune but `.` lowers to `.` (`ToLower_eq_dot`), so lowering a name keeps
its labels where they were.
-/

namespace Trustydns.Unicode

/-- One range of the lowercase mapping: the runes `lo`, `lo + stride`, … up to `hi` lower by one
offset, `lo` to `lowerLo`; the runes between them, when `stride` is two, are already lower
case. -/
structure CaseRange where
  lo : Nat
  hi : Nat
  stride : Nat
  lowerLo : Nat
deriving DecidableEq, Repr

/-- Whether the range lowers the rune `r`. -/
def CaseRange.covers (cr : CaseRange) (r : Nat) : Bool :=
  cr.lo ≤ r && r ≤ cr.hi && (r - cr.lo) % cr.stride == 0

/-- The simple lowercase mapping of every rune above `MaxASCII` that has one. -/
def lowerCaseRanges : List CaseRange := [
  CaseRange.mk 0xC0 0xD6 1 0xE0, CaseRange.mk 0xD8 0xDE 1 0xF8, CaseRange.mk 0x100 0x12E 2 0x101,
  CaseRange.mk 0x130 0x130 1 0x69, CaseRange.mk 0x132 0x136 2 0x133,
  CaseRange.mk 0x139 0x147 2 0x13A, CaseRange.mk 0x14A 0x176 2 0x14B,
  CaseRange.mk 0x178 0x178 1 0xFF, CaseRange.mk 0x179 0x17D 2 0x17A,
  CaseRange.mk 0x181 0x181 1 0x253, CaseRange.mk 0x182 0x184 2 0x183,
  CaseRange.mk 0x186 0x186 1 0x254, CaseRange.mk 0x187 0x187 1 0x188,
  CaseRange.mk 0x189 0x18A 1 0x256, CaseRange.mk 0x18B 0x18B 1 0x18C,
  CaseRange.mk 0x18E 0x18E 1 0x1DD, CaseRange.mk 0x18F 0x18F 1 0x259,
  CaseRange.mk 0x190 0x190 1 0x25B, CaseRange.mk 0x191 0x191 1 0x192,
  CaseRange.mk 0x193 0x193 1 0x260, CaseRange.mk 0x194 0x194 1 0x263,
  CaseRange.mk 0x196 0x196 1 0x269, CaseRange.mk 0x197 0x197 1 0x268,
  CaseRange.mk 0x198 0x198 1 0x199, CaseRange.mk 0x19C 0x19C 1 0x26F,
  CaseRange.mk 0x19D 0x19D 1 0x272, CaseRange.mk 0x19F 0x19F 1 0x275,
  CaseRange.mk 0x1A0 0x1A4 2 0x1A1, CaseRange.mk 0x1A6 0x1A6 1 0x280,
  CaseRange.mk 0x1A7 0x1A7 1 0x1A8, CaseRange.mk 0x1A9 0x1A9 1 0x283,
  CaseRange.mk 0x1AC 0x1AC 1 0x1AD, CaseRange.mk 0x1AE 0x1AE 1 0x288,
  CaseRange.mk 0x1AF 0x1AF 1 0x1B0, CaseRange.mk 0x1B1 0x1B2 1 0x28A,
  CaseRange.mk 0x1B3 0x1B5 2 0x1B4, CaseRange.mk 0x1B7 0x1B7 1 0x292,
  CaseRange.mk 0x1B8 0x1B8 1 0x1B9, CaseRange.mk 0x1BC 0x1BC 1 0x1BD,
  CaseRange.mk 0x1C4 0x1C4 1 0x1C6, CaseRange.mk 0x1C5 0x1C5 1 0x1C6,
  CaseRange.mk 0x1C7 0x1C7 1 0x1C9, CaseRange.mk 0x1C8 0x1C8 1 0x1C9,
  CaseRange.mk 0x1CA 0x1CA 1 0x1CC, CaseRange.mk 0x1CB 0x1DB 2 0x1CC,
  CaseRange.mk 0x1DE 0x1EE 2 0x1DF, CaseRange.mk 0x1F1 0x1F1 1 0x1F3,
  CaseRange.mk 0x1F2 0x1F4 2 0x1F3, CaseRange.mk 0x1F6 0x1F6 1 0x195,
  CaseRange.mk 0x1F7 0x1F7 1 0x1BF, CaseRange.mk 0x1F8 0x21E 2 0x1F9,
  CaseRange.mk 0x220 0x220 1 0x19E, CaseRange.mk 0x222 0x232 2 0x223,
  CaseRange.mk 0x23A 0x23A 1 0x2C65, CaseRange.mk 0x23B 0x23B 1 0x23C,
  CaseRange.mk 0x23D 0x23D 1 0x19A, CaseRange.mk 0x23E 0x23E 1 0x2C66,
  CaseRange.mk 0x241 0x241 1 0x242, CaseRange.mk 0x243 0x243 1 0x180,
  CaseRange.mk 0x244 0x244 1 0x289, CaseRange.mk 0x245 0x245 1 0x28C,
  CaseRange.mk 0x246 0x24E 2 0x247, CaseRange.mk 0x370 0x372 2 0x371,
  CaseRange.mk 0x376 0x376 1 0x377, CaseRange.mk 0x37F 0x37F 1 0x3F3,
  CaseRange.mk 0x386 0x386 1 0x3AC, CaseRange.mk 0x388 0x38A 1 0x3AD,
  CaseRange.mk 0x38C 0x38C 1 0x3CC, CaseRange.mk 0x38E 0x38F 1 0x3CD,
  CaseRange.mk 0x391 0x3A1 1 0x3B1, CaseRange.mk 0x3A3 0x3AB 1 0x3C3,
  CaseRange.mk 0x3CF 0x3CF 1 0x3D7, CaseRange.mk 0x3D8 0x3EE 2 0x3D9,
  CaseRange.mk 0x3F4 0x3F4 1 0x3B8, CaseRange.mk 0x3F7 0x3F7 1 0x3F8,
  CaseRange.mk 0x3F9 0x3F9 1 0x3F2, CaseRange.mk 0x3FA 0x3FA 1 0x3FB,
  CaseRange.mk 0x3FD 0x3FF 1 0x37B, CaseRange.mk 0x400 0x40F 1 0x450,
  CaseRange.mk 0x410 0x42F 1 0x430, CaseRange.mk 0x460 0x480 2 0x461,
  CaseRange.mk 0x48A 0x4BE 2 0x48B, CaseRange.mk 0x4C0 0x4C0 1 0x4CF,
  CaseRange.mk 0x4C1 0x4CD 2 0x4C2, CaseRange.mk 0x4D0 0x52E 2 0x4D1,
  CaseRange.mk 0x531 0x556 1 0x561, CaseRange.mk 0x10A0 0x10C5 1 0x2D00,
  CaseRange.mk 0x10C7 0x10C7 1 0x2D27, CaseRange.mk 0x10CD 0x10CD 1 0x2D2D,
  CaseRange.mk 0x13A0 0x13EF 1 0xAB70, CaseRange.mk 0x13F0 0x13F5 1 0x13F8,
  CaseRange.mk 0x1C90 0x1CBA 1 0x10D0, CaseRange.mk 0x1CBD 0x1CBF 1 0x10FD,
  CaseRange.mk 0x1E00 0x1E94 2 0x1E01, CaseRange.mk 0x1E9E 0x1E9E 1 0xDF,
  CaseRange.mk 0x1EA0 0x1EFE 2 0x1EA1, CaseRange.mk 0x1F08 0x1F0F 1 0x1F00,
  CaseRange.mk 0x1F18 0x1F1D 1 0x1F10, CaseRange.mk 0x1F28 0x1F2F 1 0x1F20,
  CaseRange.mk 0x1F38 0x1F3F 1 0x1F30, CaseRange.mk 0x1F48 0x1F4D 1 0x1F40,
  CaseRange.mk 0x1F59 0x1F5F 2 0x1F51, CaseRange.mk 0x1F68 0x1F6F 1 0x1F60,
  CaseRange.mk 0x1F88 0x1F8F 1 0x1F80, CaseRange.mk 0x1F98 0x1F9F 1 0x1F90,
  CaseRange.mk 0x1FA8 0x1FAF 1 0x1FA0, CaseRange.mk 0x1FB8 0x1FB9 1 0x1FB0,
  CaseRange.mk 0x1FBA 0x1FBB 1 0x1F70, CaseRange.mk 0x1FBC 0x1FBC 1 0x1FB3,
  CaseRange.mk 0x1FC8 0x1FCB 1 0x1F72, CaseRange.mk 0x1FCC 0x1FCC 1 0x1FC3,
  CaseRange.mk 0x1FD8 0x1FD9 1 0x1FD0, CaseRange.mk 0x1FDA 0x1FDB 1 0x1F76,
  CaseRange.mk 0x1FE8 0x1FE9 1 0x1FE0, CaseRange.mk 0x1FEA 0x1FEB 1 0x1F7A,
  CaseRange.mk 0x1FEC 0x1FEC 1 0x1FE5, CaseRange.mk 0x1FF8 0x1FF9 1 0x1F78,
  CaseRange.mk 0x1FFA 0x1FFB 1 0x1F7C, CaseRange.mk 0x1FFC 0x1FFC 1 0x1FF3,
  CaseRange.mk 0x2126 0x2126 1 0x3C9, CaseRange.mk 0x212A 0x212A 1 0x6B,
  CaseRange.mk 0x212B 0x212B 1 0xE5, CaseRange.mk 0x2132 0x2132 1 0x214E,
  CaseRange.mk 0x2160 0x216F 1 0x2170, CaseRange.mk 0x2183 0x2183 1 0x2184,
  CaseRange.mk 0x24B6 0x24CF 1 0x24D0, CaseRange.mk 0x2C00 0x2C2F 1 0x2C30,
  CaseRange.mk 0x2C60 0x2C60 1 0x2C61, CaseRange.mk 0x2C62 0x2C62 1 0x26B,
  CaseRange.mk 0x2C63 0x2C63 1 0x1D7D, CaseRange.mk 0x2C64 0x2C64 1 0x27D,
  CaseRange.mk 0x2C67 0x2C6B 2 0x2C68, CaseRange.mk 0x2C6D 0x2C6D 1 0x251,
  CaseRange.mk 0x2C6E 0x2C6E 1 0x271, CaseRange.mk 0x2C6F 0x2C6F 1 0x250,
  CaseRange.mk 0x2C70 0x2C70 1 0x252, CaseRange.mk 0x2C72 0x2C72 1 0x2C73,
  CaseRange.mk 0x2C75 0x2C75 1 0x2C76, CaseRange.mk 0x2C7E 0x2C7F 1 0x23F,
  CaseRange.mk 0x2C80 0x2CE2 2 0x2C81, CaseRange.mk 0x2CEB 0x2CED 2 0x2CEC,
  CaseRange.mk 0x2CF2 0x2CF2 1 0x2CF3, CaseRange.mk 0xA640 0xA66C 2 0xA641,
  CaseRange.mk 0xA680 0xA69A 2 0xA681, CaseRange.mk 0xA722 0xA72E 2 0xA723,
  CaseRange.mk 0xA732 0xA76E 2 0xA733, CaseRange.mk 0xA779 0xA77B 2 0xA77A,
  CaseRange.mk 0xA77D 0xA77D 1 0x1D79, CaseRange.mk 0xA77E 0xA786 2 0xA77F,
  CaseRange.mk 0xA78B 0xA78B 1 0xA78C, CaseRange.mk 0xA78D 0xA78D 1 0x265,
  CaseRange.mk 0xA790 0xA792 2 0xA791, CaseRange.mk 0xA796 0xA7A8 2 0xA797,
  CaseRange.mk 0xA7AA 0xA7AA 1 0x266, CaseRange.mk 0xA7AB 0xA7AB 1 0x25C,
  CaseRange.mk 0xA7AC 0xA7AC 1 0x261, CaseRange.mk 0xA7AD 0xA7AD 1 0x26C,
  CaseRange.mk 0xA7AE 0xA7AE 1 0x26A, CaseRange.mk 0xA7B0 0xA7B0 1 0x29E,
  CaseRange.mk 0xA7B1 0xA7B1 1 0x287, CaseRange.mk 0xA7B2 0xA7B2 1 0x29D,
  CaseRange.mk 0xA7B3 0xA7B3 1 0xAB53, CaseRange.mk 0xA7B4 0xA7C2 2 0xA7B5,
  CaseRange.mk 0xA7C4 0xA7C4 1 0xA794, CaseRange.mk 0xA7C5 0xA7C5 1 0x282,
  CaseRange.mk 0xA7C6 0xA7C6 1 0x1D8E, CaseRange.mk 0xA7C7 0xA7C9 2 0xA7C8,
  CaseRange.mk 0xA7D0 0xA7D0 1 0xA7D1, CaseRange.mk 0xA7D6 0xA7D8 2 0xA7D7,
  CaseRange.mk 0xA7F5 0xA7F5 1 0xA7F6, CaseRange.mk 0xFF21 0xFF3A 1 0xFF41,
  CaseRange.mk 0x10400 0x10427 1 0x10428, CaseRange.mk 0x104B0 0x104D3 1 0x104D8,
  CaseRange.mk 0x10570 0x1057A 1 0x10597, CaseRange.mk 0x1057C 0x1058A 1 0x105A3,
  CaseRange.mk 0x1058C 0x10592 1 0x105B3, CaseRange.mk 0x10594 0x10595 1 0x105BB,
  CaseRange.mk 0x10C80 0x10CB2 1 0x10CC0, CaseRange.mk 0x118A0 0x118BF 1 0x118C0,
  CaseRange.mk 0x16E40 0x16E5F 1 0x16E60, CaseRange.mk 0x1E900 0x1E921 1 0x1E922]

/-- `unicode.ToLower`: an ASCII rune by its own test, any other by the case ranges, and
unchanged when no range lowers it. -/
def ToLower (r : Char) : Char :=
  if r.toNat ≤ 0x7F then r.toLower
  else
    match lowerCaseRanges.find? (·.covers r.toNat) with
    | some cr => Char.ofNat (cr.lowerLo + (r.toNat - cr.lo))
    | none => r

example : ToLower 'İ' = 'i' := by decide

example : ToLower (Char.ofNat 0x212A) = 'k' := by decide

/-- Every range lowers to runes above `.`. -/
theorem lowerLo_above : ∀ cr ∈ lowerCaseRanges, '.'.toNat < cr.lowerLo := by
  have checked : (lowerCaseRanges.all fun cr => '.'.toNat < cr.lowerLo) = true := by decide
  simpa using checked

/-- The rune a number names is `.` only when the number is its code. -/
theorem ofNat_eq_dot {m : Nat} (dot : Char.ofNat m = '.') : m = '.'.toNat := by
  have named := congrArg Char.toNat dot
  revert named
  show (dite m.isValidChar _ _ : Char).toNat = _ → _
  split_ifs with valid
  · exact id
  · exact fun zero => absurd zero (by decide)

/-- `Char.toLower`, Go's test for ASCII runes, lowers only `.` to `.`. -/
theorem toLower_eq_dot {c : Char} (lowered : c.toLower = '.') : c = '.' := by
  revert lowered
  show (if c.toNat >= 65 ∧ c.toNat <= 90 then Char.ofNat (c.toNat + 32) else c) = '.' → c = '.'
  split_ifs with upper
  · intro shifted
    have := ofNat_eq_dot shifted
    rw [show '.'.toNat = 46 from rfl] at this
    omega
  · exact id

/-- **No rune but `.` lowers to `.`.** -/
theorem ToLower_eq_dot {c : Char} (lowered : ToLower c = '.') : c = '.' := by
  unfold ToLower at lowered
  split_ifs at lowered with ascii
  · exact toLower_eq_dot lowered
  split at lowered
  · rename_i cr found
    have above := lowerLo_above cr (List.mem_of_find?_eq_some found)
    have := ofNat_eq_dot lowered
    omega
  · exact lowered

end Trustydns.Unicode
