import Trustydns.Net.IP

/-! # The IPv6 text form read back

`IP.String` writes a sixteen-byte address that is not IPv4-mapped as its eight sixteen-bit
groups in lower-case hexadecimal, separated by colons, with the first of its longest runs of two
zero groups or more written `::` (`Trustydns.Net.writeGroups`). `ParseIP` reads that text back
to the address (`Trustydns.Net.ParseIP_String_IPv6`).

The text splits at the run into the groups before it and the groups after it
(`writeGroups_run`). `parseIPv6Loop` reads one group a turn (`parseIPv6Loop_group`,
`parseIPv6Loop_last`) and notes where the `::` stood (`parseIPv6Loop_ellipsis`); `parseIPv6`
then puts the run's zero bytes back at that position.
-/

namespace Trustydns.Net

/-! ## One group -/

/-- The two bytes `parseIPv6Loop` appends for a group. -/
def groupBytes (g : Nat) : List UInt8 :=
  [(g / 256).toUInt8, g.toUInt8]

/-- The groups after the first, each after a colon. -/
def colonGroups (gs : List Nat) : List Char :=
  gs.flatMap fun g => ':' :: Nat.toDigits 16 g

/-- Groups separated by colons. -/
def groupsText : List Nat → List Char
  | [] => []
  | g :: rest => Nat.toDigits 16 g ++ colonGroups rest

@[simp] theorem colonGroups_nil : colonGroups [] = [] := rfl

@[simp] theorem colonGroups_cons (g : Nat) (gs : List Nat) :
    colonGroups (g :: gs) = ':' :: (Nat.toDigits 16 g ++ colonGroups gs) := rfl

theorem hexDigit_digitChar : ∀ k < 16, hexDigit (Nat.digitChar k) = some k := by
  decide

theorem ne_colon_of_hexDigit {c : Char} (digit : (hexDigit c).isSome) : c ≠ ':' := by
  rintro rfl
  exact absurd digit (by decide)

/-- `Nat.toDigitsCore` only puts digits in front of what it is given. -/
theorem toDigitsCore_append (b fuel n : Nat) (ds : List Char) :
    Nat.toDigitsCore b fuel n ds = Nat.toDigitsCore b fuel n [] ++ ds := by
  induction fuel generalizing n ds with
  | zero => rfl
  | succ fuel ih =>
      show (if n / b = 0 then _ else Nat.toDigitsCore b fuel (n / b) _) =
        (if n / b = 0 then _ else Nat.toDigitsCore b fuel (n / b) _) ++ ds
      split
      · rfl
      · rw [ih _ (_ :: ds), ih _ [_], List.append_assoc, List.singleton_append]

/-- Every character of a hexadecimal text is a hexadecimal digit. -/
theorem hexDigit_of_mem_toDigits {g : Nat} {c : Char} (mem : c ∈ Nat.toDigits 16 g) :
    (hexDigit c).isSome := by
  suffices ∀ fuel n ds, (∀ c ∈ ds, (hexDigit c).isSome) →
      ∀ c ∈ Nat.toDigitsCore 16 fuel n ds, (hexDigit c).isSome from this _ _ [] (by simp) c mem
  intro fuel
  induction fuel with
  | zero => exact fun _ _ digits => digits
  | succ fuel ih =>
      intro n ds digits
      have step : ∀ c ∈ Nat.digitChar (n % 16) :: ds, (hexDigit c).isSome :=
        List.forall_mem_cons.mpr
          ⟨by rw [hexDigit_digitChar _ (Nat.mod_lt n (by decide))]; rfl, digits⟩
      show ∀ c ∈ (if n / 16 = 0 then _ else Nat.toDigitsCore 16 fuel (n / 16) _), _
      split
      · exact step
      · exact ih _ _ step

theorem toDigits_ne_nil (g : Nat) : Nat.toDigits 16 g ≠ [] := by
  show (if g / 16 = 0 then _ else Nat.toDigitsCore 16 g (g / 16) _) ≠ []
  split
  · exact List.cons_ne_nil _ _
  · rw [toDigitsCore_append]
    exact List.append_ne_nil_of_right_ne_nil _ (List.cons_ne_nil _ _)

/-- `xtoiLoop` reads the digits of a number and then stands after them, the number read. -/
theorem xtoiLoop_toDigitsCore (fuel : Nat) {g : Nat} (enough : g < fuel) (small : g < big)
    (i : Nat) (rest : List Char) :
    xtoiLoop 0 i (Nat.toDigitsCore 16 fuel g [] ++ rest) =
      xtoiLoop g (i + (Nat.toDigitsCore 16 fuel g []).length) rest := by
  induction fuel generalizing g i rest with
  | zero => omega
  | succ fuel ih =>
      have last := hexDigit_digitChar (g % 16) (Nat.mod_lt g (by decide))
      show xtoiLoop 0 i ((if g / 16 = 0 then _ else Nat.toDigitsCore 16 fuel (g / 16) _) ++ rest) =
        xtoiLoop g (i + (if g / 16 = 0 then _ else Nat.toDigitsCore 16 fuel (g / 16) _).length) rest
      split
      · simp only [List.singleton_append, xtoiLoop, last, List.length_singleton]
        rw [if_neg (by omega), show 0 * 16 + g % 16 = g by omega]
        rfl
      · rw [toDigitsCore_append, List.append_assoc, List.singleton_append,
          ih (by omega) (by omega), List.length_append, List.length_singleton, xtoiLoop, last]
        dsimp only
        rw [if_neg (by omega), show g / 16 * 16 + g % 16 = g by omega, Nat.add_assoc]

/-- `xtoi` reads a group's text up to the colon or the end that follows it. -/
theorem xtoi_toDigits {g : Nat} (small : g < big) {rest : List Char}
    (after : rest = [] ∨ ∃ more, rest = ':' :: more) :
    xtoi (Nat.toDigits 16 g ++ rest) = (g, (Nat.toDigits 16 g).length, true) := by
  have read := xtoiLoop_toDigitsCore (g + 1) (Nat.lt_succ_self g) small 0 rest
  rw [Nat.zero_add] at read
  have some : (Nat.toDigitsCore 16 (g + 1) g []).length ≠ 0 := fun zero =>
    toDigits_ne_nil g (List.eq_nil_of_length_eq_zero zero)
  rw [xtoi, Nat.toDigits, read]
  rcases after with rfl | ⟨more, rfl⟩
  · simp only [xtoiLoop, if_neg some]
  · simp only [xtoiLoop, show hexDigit ':' = none by decide, if_neg some]

/-- A group's text starts with a hexadecimal digit, not a colon. -/
theorem groupsText_cons (g : Nat) (gs : List Nat) :
    ∃ c more, groupsText (g :: gs) = c :: more ∧ c ≠ ':' := by
  obtain ⟨c, more, split⟩ := List.exists_cons_of_ne_nil (toDigits_ne_nil g)
  exact ⟨c, more ++ colonGroups gs, by rw [groupsText, split, List.cons_append],
    ne_colon_of_hexDigit (hexDigit_of_mem_toDigits (split ▸ List.mem_cons_self c more))⟩

/-! ## The text `IP.String` writes -/

theorem writeGroups_append (run : Option (Nat × Nat)) (as bs : List Nat) (k : Nat) :
    writeGroups run k (as ++ bs) = writeGroups run k as ++ writeGroups run (k + as.length) bs := by
  induction as generalizing k with
  | nil => rfl
  | cons g as ih =>
      rw [List.cons_append, List.length_cons, show k + (as.length + 1) = k + 1 + as.length by omega]
      rcases run with _ | ⟨e0, e1⟩ <;> simp only [writeGroups, ih] <;> split_ifs <;> simp

/-- Past the first position, groups without the run are written each after a colon. -/
theorem writeGroups_none {k : Nat} (later : 0 < k) (gs : List Nat) :
    writeGroups none k gs = colonGroups gs := by
  induction gs generalizing k with
  | nil => rfl
  | cons g gs ih => simp [writeGroups, later, ih]

/-- Groups wholly before the run or wholly after it are written each after a colon. -/
theorem writeGroups_outside {e0 e1 k : Nat} (run : e0 < e1) (later : 0 < k) (gs : List Nat)
    (outside : k + gs.length ≤ e0 ∨ e1 < k) :
    writeGroups (some (e0, e1)) k gs = colonGroups gs := by
  induction gs generalizing k with
  | nil => rfl
  | cons g gs ih =>
      rw [List.length_cons] at outside
      rw [writeGroups, if_neg (by omega), if_neg (by omega), if_pos (by omega),
        ih (by omega) (by omega)]
      rfl

/-- The groups strictly inside the run are not written. -/
theorem writeGroups_inside {e0 e1 k : Nat} (inside : e0 < k) (zs : List Nat)
    (within : k + zs.length ≤ e1) : writeGroups (some (e0, e1)) k zs = [] := by
  induction zs generalizing k with
  | nil => rfl
  | cons z zs ih =>
      rw [List.length_cons] at within
      rw [writeGroups, if_neg (by omega), if_pos (by omega), ih (by omega) (by omega)]

/-- A group at the start of the text or right after the run is written without a colon. -/
theorem writeGroups_first {e0 e1 k : Nat} (notRun : k ≠ e0 ∧ ¬(e0 < k ∧ k < e1))
    (first : k = 0 ∨ k = e1) (g : Nat) (gs : List Nat) :
    writeGroups (some (e0, e1)) k (g :: gs) =
      Nat.toDigits 16 g ++ writeGroups (some (e0, e1)) (k + 1) gs := by
  rw [writeGroups, if_neg notRun.1, if_neg notRun.2, if_neg (by omega)]
  rfl

/-- **The text splits at the run**: the groups before it, `::`, and the groups after it. -/
theorem writeGroups_run (pre zs post : List Nat) (long : 0 < zs.length) :
    writeGroups (some (pre.length, pre.length + zs.length)) 0 (pre ++ zs ++ post) =
      groupsText pre ++ ':' :: ':' :: groupsText post := by
  obtain ⟨z, zs, rfl⟩ := List.exists_cons_of_length_pos long
  have before : writeGroups (some (pre.length, pre.length + (z :: zs).length)) 0 pre =
      groupsText pre := by
    cases pre with
    | nil => rfl
    | cons g pre =>
        rw [writeGroups_first (by simp) (.inl rfl), writeGroups_outside (by simp) (by omega) _
          (.inl (by simp only [List.length_cons]; omega))]
        rfl
  have run : writeGroups (some (pre.length, pre.length + (z :: zs).length)) pre.length
      (z :: zs) = [':', ':'] := by
    rw [writeGroups, if_pos rfl, writeGroups_inside (by omega) _ (by simp; omega)]
    rfl
  have after : writeGroups (some (pre.length, pre.length + (z :: zs).length))
      (pre.length + (z :: zs).length) post = groupsText post := by
    cases post with
    | nil => rfl
    | cons g post =>
        rw [writeGroups_first (by simp) (.inr rfl), writeGroups_outside (by simp) (by omega) _
          (.inr (by omega))]
        rfl
  rw [writeGroups_append, writeGroups_append, List.length_append]
  simp only [Nat.zero_add] at before ⊢
  rw [before, run, after, List.append_assoc]
  rfl

/-! ## The groups of an address -/

theorem groupBytes_pair (hi lo : UInt8) : groupBytes (hi.toNat * 256 + lo.toNat) = [hi, lo] := by
  have small : lo.toNat < 256 := lo.toNat_lt_size
  have high : (hi.toNat * 256 + lo.toNat) / 256 = hi.toNat := by omega
  have low : (hi.toNat * 256 + lo.toNat).toUInt8 = lo :=
    UInt8.toNat.inj (show (hi.toNat * 256 + lo.toNat) % 256 = lo.toNat by omega)
  rw [groupBytes, high, toUInt8_toNat, low]

@[simp] theorem length_flatMap_groupBytes (gs : List Nat) :
    (gs.flatMap groupBytes).length = 2 * gs.length := by
  induction gs with
  | nil => rfl
  | cons g gs ih => simp only [List.flatMap_cons, List.length_append, ih]; simp [groupBytes]; omega

theorem flatMap_groupBytes_replicate (n : Nat) :
    (List.replicate n 0).flatMap groupBytes = List.replicate (2 * n) 0 := by
  induction n with
  | zero => rfl
  | succ n ih =>
      rw [List.replicate_succ, List.flatMap_cons, ih, show 2 * (n + 1) = 2 + 2 * n by omega,
        List.replicate_add]
      rfl

theorem length_groups : ∀ ip : IP, (groups ip).length = ip.length / 2
  | hi :: lo :: rest => by
      rw [groups, List.length_cons, length_groups rest, List.length_cons, List.length_cons]
      omega
  | [] => rfl
  | [_] => by simp [groups]

theorem groups_lt : ∀ ip : IP, ∀ g ∈ groups ip, g < 0x10000
  | hi :: lo :: rest => by
      rw [groups, List.forall_mem_cons]
      have high : hi.toNat < 256 := hi.toNat_lt_size
      have low : lo.toNat < 256 := lo.toNat_lt_size
      exact ⟨by omega, groups_lt rest⟩
  | [] => by simp [groups]
  | [_] => by simp [groups]

/-- The groups of an address of an even number of bytes give its bytes back. -/
theorem flatMap_groupBytes_groups : ∀ ip : IP, ip.length % 2 = 0 → (groups ip).flatMap groupBytes = ip
  | hi :: lo :: rest, even => by
      rw [groups, List.flatMap_cons, groupBytes_pair,
        flatMap_groupBytes_groups rest (by simp at even; omega)]
      rfl
  | [], _ => rfl
  | [_], odd => absurd odd (by simp)

/-- A list starts with its run of zero groups. -/
theorem zeroRun_spec : ∀ gs : List Nat,
    gs = List.replicate (zeroRun gs) 0 ++ gs.drop (zeroRun gs) ∧ zeroRun gs ≤ gs.length
  | [] => ⟨rfl, le_refl _⟩
  | 0 :: rest => by
      obtain ⟨split, bound⟩ := zeroRun_spec rest
      rw [zeroRun, List.replicate_succ, List.cons_append, List.drop_succ_cons, ← split]
      exact ⟨rfl, by simp [bound]⟩
  | (_ + 1) :: _ => ⟨rfl, Nat.zero_le _⟩

/-- The run `longestZeroRun` finds is a run of zero groups, or empty. -/
theorem longestZeroRun_zeroRun (gs : List Nat) :
    (longestZeroRun gs).2 = 0 ∨ (longestZeroRun gs).2 = zeroRun (gs.drop (longestZeroRun gs).1) := by
  unfold longestZeroRun
  suffices ∀ ks : List Nat, ∀ best : Nat × Nat,
      (best.2 = 0 ∨ best.2 = zeroRun (gs.drop best.1)) →
      let last := ks.foldl (fun best k => if zeroRun (gs.drop k) > best.2 then
        (k, zeroRun (gs.drop k)) else best) best
      last.2 = 0 ∨ last.2 = zeroRun (gs.drop last.1) from this _ _ (.inl rfl)
  intro ks
  induction ks with
  | nil => exact fun _ run => run
  | cons k ks ih =>
      intro best run
      apply ih
      dsimp only
      split
      · exact .inr rfl
      · exact run

/-- **The address around its longest run**: the groups before it, the run's zero groups, and
the groups after it. -/
theorem longestZeroRun_split (gs : List Nat) {e0 len : Nat} (found : longestZeroRun gs = (e0, len))
    (long : 0 < len) :
    gs = gs.take e0 ++ List.replicate len 0 ++ gs.drop (e0 + len) ∧ e0 + len ≤ gs.length := by
  have run : len = zeroRun (gs.drop e0) := by
    simpa [found] using (longestZeroRun_zeroRun gs).resolve_left (by rw [found]; omega)
  obtain ⟨split, bound⟩ := zeroRun_spec (gs.drop e0)
  rw [← run, List.drop_drop] at split
  rw [← run, List.length_drop] at bound
  refine ⟨?_, by omega⟩
  calc gs = gs.take e0 ++ gs.drop e0 := (List.take_append_drop e0 gs).symm
    _ = _ := by rw [split, List.append_assoc]

/-! ## The loop over the groups -/

section Loop

variable (fuel : Nat) (ip : List UInt8) (ellipsis : Option Nat) {g : Nat} (group : g < 0x10000)
include group

/-- One turn of `parseIPv6Loop` on a group and what follows it, past the checks on the group. -/
theorem parseIPv6Loop_toDigits {rest : List Char} (after : rest = [] ∨ ∃ more, rest = ':' :: more) :
    parseIPv6Loop (fuel + 1) ip ellipsis (Nat.toDigits 16 g ++ rest) =
      if rest.isEmpty then some (ip ++ groupBytes g, ellipsis, rest)
      else if rest.head? ≠ some ':' ∨ rest.length = 1 then none
      else if rest.tail.head? = some ':' then
        if ellipsis.isSome then none
        else if rest.tail.tail.isEmpty then some (ip ++ groupBytes g, some (ip ++ groupBytes g).length, [])
        else parseIPv6Loop fuel (ip ++ groupBytes g) (some (ip ++ groupBytes g).length) rest.tail.tail
      else parseIPv6Loop fuel (ip ++ groupBytes g) ellipsis rest.tail := by
  have noDot : (Nat.toDigits 16 g ++ rest)[(Nat.toDigits 16 g).length]? ≠ some '.' := by
    rw [List.getElem?_append_right (Nat.le_refl _), Nat.sub_self]
    rcases after with rfl | ⟨more, rfl⟩ <;> simp
  simp only [parseIPv6Loop, xtoi_toDigits (lt_trans group (by decide)) after, Bool.not_true,
    Bool.false_or, decide_eq_true_eq, if_neg (Nat.not_lt.mpr (Nat.le_of_lt_succ group)),
    if_neg noDot, List.drop_left, groupBytes]

end Loop

/-- Groups separated by single colons are read to the end, the ellipsis unchanged. -/
theorem parseIPv6Loop_groupsText (fuel : Nat) (g : Nat) (gs : List Nat)
    (small : ∀ x ∈ g :: gs, x < 0x10000) (ip : List UInt8) (ellipsis : Option Nat) :
    parseIPv6Loop (fuel + gs.length + 1) ip ellipsis (groupsText (g :: gs)) =
      some (ip ++ (g :: gs).flatMap groupBytes, ellipsis, []) := by
  induction gs generalizing g ip with
  | nil =>
      rw [groupsText, colonGroups_nil, parseIPv6Loop_toDigits _ _ _ (small g (by simp)) (.inl rfl)]
      simp
  | cons g' gs ih =>
      obtain ⟨c, more, split, notColon⟩ := groupsText_cons g' gs
      have text : groupsText (g :: g' :: gs) = Nat.toDigits 16 g ++ ':' :: c :: more := by
        rw [← split]
        rfl
      rw [List.length_cons, text, show fuel + (gs.length + 1) + 1 = fuel + gs.length + 1 + 1 by omega,
        parseIPv6Loop_toDigits _ _ _ (small g (by simp)) (.inr ⟨_, rfl⟩)]
      simp only [List.isEmpty_cons, List.head?_cons, List.length_cons, List.tail_cons,
        Option.some.injEq, notColon, if_false, not_true_eq_false, false_or, Bool.false_eq_true]
      rw [← split, ih g' (fun x mem => small x (List.mem_cons_of_mem _ mem))]
      simp

/-- Groups before a `::` are read up to it, and the ellipsis notes how many bytes they give. -/
theorem parseIPv6Loop_run (fuel : Nat) (g : Nat) (gs : List Nat)
    (small : ∀ x ∈ g :: gs, x < 0x10000) (ip : List UInt8) (after : List Char) :
    parseIPv6Loop (fuel + gs.length + 1) ip none (groupsText (g :: gs) ++ ':' :: ':' :: after) =
      if after.isEmpty then
        some (ip ++ (g :: gs).flatMap groupBytes, some (ip ++ (g :: gs).flatMap groupBytes).length, [])
      else parseIPv6Loop fuel (ip ++ (g :: gs).flatMap groupBytes)
        (some (ip ++ (g :: gs).flatMap groupBytes).length) after := by
  induction gs generalizing g ip with
  | nil =>
      rw [groupsText, colonGroups_nil, List.append_nil,
        parseIPv6Loop_toDigits _ _ _ (small g (by simp)) (.inr ⟨_, rfl⟩)]
      simp
  | cons g' gs ih =>
      obtain ⟨c, more, split, notColon⟩ := groupsText_cons g' gs
      have text : groupsText (g :: g' :: gs) ++ ':' :: ':' :: after =
          Nat.toDigits 16 g ++ ':' :: c :: (more ++ ':' :: ':' :: after) := by
        rw [← List.cons_append, ← split]
        simp [groupsText]
      rw [List.length_cons, text, show fuel + (gs.length + 1) + 1 = fuel + gs.length + 1 + 1 by omega,
        parseIPv6Loop_toDigits _ _ _ (small g (by simp)) (.inr ⟨_, rfl⟩)]
      simp only [List.isEmpty_cons, List.head?_cons, List.length_cons, List.tail_cons,
        Option.some.injEq, notColon, if_false, not_true_eq_false, false_or, Bool.false_eq_true]
      rw [← List.cons_append, ← split, ih g' (fun x mem => small x (List.mem_cons_of_mem _ mem))]
      simp

/-! ## Reading the text back -/

/-- A text that starts with a group has no leading `::`. -/
theorem take_two_ne {c : Char} (notColon : c ≠ ':') (more : List Char) :
    (c :: more).take 2 ≠ [':', ':'] := by
  rw [List.take_succ_cons]
  exact fun same => notColon (List.cons.inj same).1

/-- Eight groups without a `::` are read back to their bytes. -/
theorem parseIPv6_groupsText {gs : List Nat} (eight : gs.length = 8)
    (small : ∀ g ∈ gs, g < 0x10000) : parseIPv6 (groupsText gs) = some (gs.flatMap groupBytes) := by
  obtain ⟨g, rest, rfl⟩ := List.exists_cons_of_length_pos (by omega : 0 < gs.length)
  obtain ⟨c, more, text, notColon⟩ := groupsText_cons g rest
  have read := parseIPv6Loop_groupsText 0 g rest small [] none
  rw [List.length_cons] at eight
  rw [show 0 + rest.length + 1 = 8 by omega, text] at read
  unfold parseIPv6
  rw [text, if_neg (take_two_ne notColon more)]
  simp only [Option.isSome_none, Bool.false_eq_true, false_and, if_false]
  have bytes : ((g :: rest).flatMap groupBytes).length = IPv6len := by
    rw [length_flatMap_groupBytes, List.length_cons, eight]
    rfl
  rw [read]
  simp only [List.nil_append, List.isEmpty_nil, Bool.not_true, Bool.false_eq_true, ↓reduceIte,
    bytes, lt_self_iff_false, Option.isSome_none]

/-- The bytes of the groups around a run of zero groups: the run's zero bytes go back where the
`::` stood. -/
theorem flatMap_groupBytes_run (pre post : List Nat) (len : Nat) :
    (pre ++ List.replicate len 0 ++ post).flatMap groupBytes =
      (pre.flatMap groupBytes).take (2 * pre.length) ++ List.replicate (2 * len) 0 ++
        ((pre.flatMap groupBytes ++ post.flatMap groupBytes).drop (2 * pre.length)) := by
  rw [List.flatMap_append, List.flatMap_append, flatMap_groupBytes_replicate,
    List.take_of_length_le (le_of_eq (length_flatMap_groupBytes pre)),
    List.drop_left' (length_flatMap_groupBytes pre)]

/-- Groups around a `::` are read back to their bytes with the run's zero bytes between. -/
theorem parseIPv6_run {pre post : List Nat} {len : Nat} (eight : pre.length + len + post.length = 8)
    (long : 2 ≤ len) (small : ∀ g ∈ pre ++ post, g < 0x10000) :
    parseIPv6 (groupsText pre ++ ':' :: ':' :: groupsText post) =
      some ((pre ++ List.replicate len 0 ++ post).flatMap groupBytes) := by
  have smallPost : ∀ g ∈ post, g < 0x10000 := fun g mem => small g (List.mem_append_right _ mem)
  rw [flatMap_groupBytes_run]
  cases pre with
  | nil =>
      unfold parseIPv6
      cases post with
      | nil =>
          rw [show len = 8 by simpa using eight]
          rfl
      | cons h post =>
          have read := parseIPv6Loop_groupsText (8 - (post.length + 1)) h post smallPost [] (some 0)
          rw [show 8 - (post.length + 1) + post.length + 1 = 8 by simp at eight; omega] at read
          obtain ⟨c, more, text, -⟩ := groupsText_cons h post
          simp only [groupsText, List.nil_append, List.take_succ_cons, List.take_zero, ↓reduceIte,
            List.drop_succ_cons, List.drop_zero, Option.isSome_some, true_and]
          rw [← groupsText, text, List.isEmpty_cons, ← text, read]
          simp only [List.nil_append, List.isEmpty_nil, Bool.not_true, Bool.false_eq_true,
            ↓reduceIte, length_flatMap_groupBytes, Option.map_some', List.length_nil]
          simp only [List.length_cons, List.length_nil] at eight
          rw [List.length_cons, if_pos (show 2 * (post.length + 1) < IPv6len by simp only [IPv6len]; omega),
            show IPv6len - 2 * (post.length + 1) = 2 * len by simp only [IPv6len]; omega]
          rfl
  | cons g pre =>
      have smallPre : ∀ x ∈ g :: pre, x < 0x10000 := fun x mem => small x (List.mem_append_left _ mem)
      obtain ⟨c, more, text, notColon⟩ := groupsText_cons g pre
      have read := parseIPv6Loop_run (8 - (pre.length + 1)) g pre smallPre [] (groupsText post)
      simp only [List.length_cons] at eight
      rw [show 8 - (pre.length + 1) + pre.length + 1 = 8 by omega, text, List.cons_append] at read
      unfold parseIPv6
      rw [text, List.cons_append, if_neg (take_two_ne notColon _)]
      simp only [Option.isSome_none, Bool.false_eq_true, false_and, if_false]
      rw [read]
      cases post with
      | nil =>
          simp only [groupsText, List.isEmpty_nil, ↓reduceIte, List.nil_append, Bool.not_true,
            Bool.false_eq_true, length_flatMap_groupBytes, List.length_cons, Option.map_some',
            List.flatMap_nil, List.append_nil, List.length_nil] at eight ⊢
          rw [if_pos (by simp only [IPv6len]; omega),
            show IPv6len - 2 * (pre.length + 1) = 2 * len by simp only [IPv6len]; omega]
      | cons h post =>
          obtain ⟨c', more', text', -⟩ := groupsText_cons h post
          have nonempty : (groupsText (h :: post)).isEmpty = false := by rw [text']; rfl
          have read' := parseIPv6Loop_groupsText (8 - (pre.length + 1) - (post.length + 1)) h post
            smallPost ((g :: pre).flatMap groupBytes) (some (2 * (pre.length + 1)))
          simp only [List.length_cons] at eight
          rw [show 8 - (pre.length + 1) - (post.length + 1) + post.length + 1 =
            8 - (pre.length + 1) by omega] at read'
          simp only [nonempty, Bool.false_eq_true, ↓reduceIte, List.nil_append,
            length_flatMap_groupBytes, List.length_cons, read', List.isEmpty_nil, Bool.not_true,
            List.length_append, Option.map_some']
          rw [if_pos (by simp only [IPv6len]; omega),
            show IPv6len - (2 * (pre.length + 1) + 2 * (post.length + 1)) = 2 * len by
              simp only [IPv6len]; omega]
          have bytes : ((g :: pre).flatMap groupBytes).length = 2 * (pre.length + 1) := by
            rw [length_flatMap_groupBytes, List.length_cons]
          rw [List.take_left' bytes, List.take_of_length_le (le_of_eq bytes)]

/-- The first colon of a text with one: either the text starts with `::` or it follows the
first group. -/
theorem groupsText_append_colon (pre : List Nat) (rest : List Char) :
    ∃ ds more, groupsText pre ++ ':' :: rest = ds ++ ':' :: more ∧
      ∀ c ∈ ds, (hexDigit c).isSome := by
  cases pre with
  | nil => exact ⟨[], rest, rfl, by simp⟩
  | cons g pre =>
      refine ⟨Nat.toDigits 16 g, ?_, ?_, fun c mem => hexDigit_of_mem_toDigits mem⟩
      · cases pre with
        | nil => exact rest
        | cons g' pre => exact Nat.toDigits 16 g' ++ colonGroups pre ++ ':' :: rest
      · cases pre <;> simp [groupsText]

/-- `ParseIP` reads a text whose first dot or colon is a colon as an IPv6 address. -/
theorem ParseIP_of_colon {s : String} {ds more : List Char} (text : s.toList = ds ++ ':' :: more)
    (digits : ∀ c ∈ ds, (hexDigit c).isSome) : ParseIP s = parseIPv6 s.toList := by
  have none : ds.find? (fun c => c = '.' ∨ c = ':') = none :=
    List.find?_eq_none.mpr fun c mem => by
      have digit := digits c mem
      have notDot : c ≠ '.' := by rintro rfl; exact absurd digit (by decide)
      simpa [notDot] using ne_colon_of_hexDigit digit
  rw [ParseIP, text, List.find?_append, none, Option.none_or, List.find?_cons_of_pos _ (by simp)]
  rfl

/-- The text `IP.String` writes for a sixteen-byte address that is not IPv4-mapped: its groups,
with the longest run of two zero groups or more as `::`. -/
theorem String_IPv6 {ip : IP} (sixteen : ip.length = IPv6len) (unmapped : To4 ip = none) :
    (IP.String ip).toList =
      writeGroups (if (longestZeroRun (groups ip)).2 ≥ 2 then
        some ((longestZeroRun (groups ip)).1,
          (longestZeroRun (groups ip)).1 + (longestZeroRun (groups ip)).2) else none)
        0 (groups ip) := by
  have nonempty : ip.isEmpty = false := by
    cases ip with
    | nil => exact absurd sixteen (by decide)
    | cons => rfl
  simp only [IP.String, nonempty, unmapped, sixteen]
  rfl

/-- The text of an IPv6 address has a colon after its first group, or starts with `::`, and
`parseIPv6` reads it to the address. -/
theorem parseIPv6_String {ip : IP} (sixteen : ip.length = IPv6len) (unmapped : To4 ip = none) :
    ∃ ds more, (IP.String ip).toList = ds ++ ':' :: more ∧ (∀ c ∈ ds, (hexDigit c).isSome) ∧
      parseIPv6 (IP.String ip).toList = some ip := by
  have eight : (groups ip).length = 8 := by rw [length_groups, sixteen]; rfl
  have bytes := flatMap_groupBytes_groups ip (by rw [sixteen]; rfl)
  have text := String_IPv6 sixteen unmapped
  rcases found : longestZeroRun (groups ip) with ⟨e0, len⟩
  rw [found] at text
  dsimp only at text
  by_cases long : 2 ≤ len
  · -- the run is written `::` between the groups before it and the groups after it
    obtain ⟨split, bound⟩ := longestZeroRun_split (groups ip) found (by omega)
    have run := writeGroups_run (List.take e0 (groups ip)) (List.replicate len 0)
      (List.drop (e0 + len) (groups ip)) (by simp; omega)
    rw [List.length_take, List.length_replicate, min_eq_left (by omega), ← split] at run
    rw [if_pos long, run] at text
    obtain ⟨ds, more, colon, digits⟩ := groupsText_append_colon (List.take e0 (groups ip))
      (':' :: groupsText (List.drop (e0 + len) (groups ip)))
    refine ⟨ds, more, text.trans colon, digits, ?_⟩
    rw [text, parseIPv6_run (by simp; omega) long fun g mem => groups_lt ip g (by
        rcases List.mem_append.mp mem with taken | dropped
        · exact List.mem_of_mem_take taken
        · exact List.mem_of_mem_drop dropped),
      ← split, bytes]
  · -- no run: eight groups each after a colon but the first
    rw [if_neg long] at text
    obtain ⟨g, g', rest, groupsEq⟩ : ∃ g g' rest, groups ip = g :: g' :: rest := by
      match groups ip, eight with
      | g :: g' :: rest, _ => exact ⟨g, g', rest, rfl⟩
    have plain : (IP.String ip).toList = groupsText (groups ip) := by
      rw [text, groupsEq]
      simp [writeGroups, writeGroups_none, groupsText]
    refine ⟨Nat.toDigits 16 g, Nat.toDigits 16 g' ++ colonGroups rest, by rw [plain, groupsEq]; rfl,
      fun c mem => hexDigit_of_mem_toDigits mem, ?_⟩
    rw [plain, parseIPv6_groupsText eight (groups_lt ip), bytes]

/-- **`ParseIP` reads back the text of every IPv6 address**: `IP.String` of a sixteen-byte
address that is not IPv4-mapped, with its longest run of zero groups written `::`, is read to
the address. -/
theorem ParseIP_String_IPv6 {ip : IP} (sixteen : ip.length = IPv6len) (unmapped : To4 ip = none) :
    ParseIP (IP.String ip) = some ip := by
  obtain ⟨ds, more, text, digits, read⟩ := parseIPv6_String sixteen unmapped
  rw [ParseIP_of_colon text digits, read]

end Trustydns.Net
