import MessagingConsole.Proofs.Network.Ipv4

/-!
# Canonical forms are read back

The canonical form of an IPv6 address is read as this address.  Groups are never empty, so that
`::` is in a text only where a run of zeros was shortened, and since there are eight groups the
groups before and behind it tell how long the run was.

## Main Definitions

- `IsRun` - zeros in a list of groups, by their position and number.

## Main Results

- `isRun_longestRun` - what the canonical form leaves out are zeros.
- `Ipv6.ofText?_text` - the canonical form of an address is read back.
-/

namespace MessagingConsole.Ipv6

variable {ip : Ipv6} {groups : List UInt16}

/-! ## Groups -/

/-- The numeral of a group. -/
def numeral (group : UInt16) : List Char :=
  Nat.toDigits 16 group.toNat

theorem colon_notMem_numeral (group : UInt16) : ':' ∉ numeral group := by
  have other : ∀ d < 16, Nat.digitChar d ≠ ':' := by decide
  have digits : ∀ c ∈ numeral group, c ≠ ':' :=
    Text.forall_mem_toDigits (by decide) other group.toNat
  exact fun mem => digits ':' mem rfl

theorem length_numeral_le (group : UInt16) : (numeral group).length ≤ 4 :=
  (Nat.length_toDigits_le_iff (by decide) (by decide)).mpr group.toNat_lt

theorem group?_numeral (group : UInt16) : group? (numeral group) = some group := by
  rw [group?, if_pos (length_numeral_le group), numeral,
    Text.readDigits?_toDigits (by decide) (by decide), Option.map_eq_map, Option.map_some,
    UInt16.ofNat_toNat]

theorem mapM_group?_numeral (groups : List UInt16) :
    (groups.map numeral).mapM group? = some groups := by
  rw [List.mapM_map, show group? ∘ numeral = some from funext group?_numeral]
  exact (List.mapM_pure).trans (congrArg some (List.map_id' groups))

theorem groups?_numeral (groups : List UInt16) : groups? (groups.map numeral) = some groups := by
  induction groups with
  | nil => rfl
  | cons group rest ih =>
    cases rest with
    | nil => simp [groups?, lastGroups?, group?_numeral]
    | cons next rest =>
      rw [List.map_cons] at ih ⊢
      rw [List.map_cons, groups?, group?_numeral, ih]
      · rfl
      · exact nofun

/-! ## Groups between colons -/

theorem toList_groupsText (groups : List UInt16) :
    (groupsText groups).toList = [':'].intercalate (groups.map numeral) := by
  have numerals : String.toList ∘ (fun group : UInt16 => Text.hexadecimal group.toNat) =
      numeral :=
    funext fun group => String.toList_ofList
  rw [groupsText, String.toList_intercalate, List.map_map, numerals]
  rfl

theorem groupsText_cons_cons (group next : UInt16) (rest : List UInt16) :
    (groupsText (group :: next :: rest)).toList =
      numeral group ++ ':' :: (groupsText (next :: rest)).toList := by
  rw [toList_groupsText, toList_groupsText, List.map_cons, List.map_cons,
    List.intercalate_cons_cons, List.append_assoc, List.singleton_append]

theorem pieces_groupsText (some_group : groups ≠ []) :
    Text.pieces ':' (groupsText groups).toList = groups.map numeral := by
  rw [toList_groupsText]
  exact Text.pieces_intercalate (mt List.map_eq_nil_iff.mp some_group)
    (List.forall_mem_map.mpr fun group _ => colon_notMem_numeral group)

theorem head_groupsText (group : UInt16) (rest : List UInt16) :
    ∃ c cs, (groupsText (group :: rest)).toList = c :: cs ∧ c ≠ ':' := by
  obtain ⟨c, cs, digits⟩ := List.exists_cons_of_ne_nil
    (show numeral group ≠ [] from Nat.toDigits_ne_nil)
  have other : c ≠ ':' := by
    rintro rfl
    exact colon_notMem_numeral group (digits ▸ List.mem_cons_self)
  cases rest with
  | nil => exact ⟨c, cs, by simp [toList_groupsText, digits], other⟩
  | cons next rest => exact ⟨c, _, by rw [groupsText_cons_cons, digits, List.cons_append], other⟩

theorem side_groupsText (groups : List UInt16) :
    side (groupsText groups).toList = groups.map numeral := by
  cases groups with
  | nil => rfl
  | cons group rest =>
    obtain ⟨c, cs, text, -⟩ := head_groupsText group rest
    have filled : (groupsText (group :: rest)).toList.isEmpty = false := by
      rw [text]
      rfl
    rw [side, filled, ← pieces_groupsText (List.cons_ne_nil group rest)]
    rfl

/-! ## The gap -/

section Gap

variable {c : Char} {front rest : List Char}

/-- A cut with more characters in front of it. -/
def behind (front : List Char) (parts : List Char × List Char) : List Char × List Char :=
  (front ++ parts.1, parts.2)

@[simp] theorem behind_nil : behind [] = id := rfl

@[simp] theorem behind_comp_behind (front later : List Char) :
    behind front ∘ behind later = behind (front ++ later) := by
  funext parts
  simp [behind]

theorem splitAtGap?_cons (other : c ≠ ':') :
    splitAtGap? (c :: rest) = (splitAtGap? rest).map (behind [c]) := by
  rw [splitAtGap?]
  · rfl
  · exact fun _ same => absurd same other

theorem splitAtGap?_colon (other : c ≠ ':') :
    splitAtGap? (':' :: c :: rest) = (splitAtGap? (c :: rest)).map (behind [':']) := by
  rw [splitAtGap?.eq_3]
  · rfl
  · intro _ _ same
    exact other (List.cons.inj same).1

theorem splitAtGap?_append (free : ':' ∉ front) :
    splitAtGap? (front ++ rest) = (splitAtGap? rest).map (behind front) := by
  induction front with
  | nil => simp
  | cons c front ih =>
    obtain ⟨other, free⟩ := not_or.mp (mt List.mem_cons.mpr free)
    rw [List.cons_append, splitAtGap?_cons (Ne.symm other), ih free, Option.map_map,
      behind_comp_behind, List.singleton_append]

/-- Groups between colons have no gap, and a gap behind them is the first. -/
theorem splitAtGap?_groupsText (some_group : groups ≠ []) (rest : List Char) :
    splitAtGap? ((groupsText groups).toList ++ rest) =
      (splitAtGap? rest).map (behind (groupsText groups).toList) := by
  induction groups with
  | nil => exact absurd rfl some_group
  | cons group later ih =>
    cases later with
    | nil =>
      have single : (groupsText [group]).toList = numeral group := by simp [toList_groupsText]
      rw [single, splitAtGap?_append (colon_notMem_numeral group)]
    | cons next later =>
      have behind_next := ih (List.cons_ne_nil next later)
      obtain ⟨c, cs, text, other⟩ := head_groupsText next later
      rw [groupsText_cons_cons, List.append_assoc,
        splitAtGap?_append (colon_notMem_numeral group)]
      rw [text] at behind_next ⊢
      rw [List.cons_append, List.cons_append, splitAtGap?_colon other, ← List.cons_append,
        behind_next, Option.map_map, Option.map_map, behind_comp_behind, behind_comp_behind,
        List.append_assoc, List.singleton_append]

end Gap

/-! ## Runs of zeros -/

/-- So many groups from a position on are zero. -/
def IsRun (groups : List UInt16) (run : Nat × Nat) : Prop :=
  groups = groups.take run.1 ++ List.replicate run.2 0 ++ groups.drop (run.1 + run.2)

theorem leadingZeros_spec (groups : List UInt16) :
    groups = List.replicate (leadingZeros groups) 0 ++ groups.drop (leadingZeros groups) := by
  induction groups with
  | nil => rfl
  | cons group rest ih =>
    by_cases zero : group = 0
    · have one_more : leadingZeros (group :: rest) = leadingZeros rest + 1 := by
        simp [leadingZeros, zero]
      rw [one_more, List.replicate_succ, List.drop_succ_cons, List.cons_append, ← ih, zero]
    · have none : leadingZeros (group :: rest) = 0 := by simp [leadingZeros, zero]
      rw [none]
      rfl

theorem isRun_longestRun {before rest : List UInt16} {best : Nat × Nat}
    (run : IsRun (before ++ rest) best) :
    IsRun (before ++ rest) (longestRun before.length best rest) := by
  induction rest generalizing before best with
  | nil => exact run
  | cons group rest ih =>
    have next : before ++ group :: rest = (before ++ [group]) ++ rest := by simp
    have length : before.length + 1 = (before ++ [group]).length := by simp
    rw [longestRun, next, length]
    refine ih ?_
    rw [← next]
    split
    · have zeros := leadingZeros_spec (group :: rest)
      rw [IsRun, List.take_left, List.drop_append, List.append_assoc,
        List.drop_eq_nil_of_le (Nat.le_add_right _ _), Nat.add_sub_cancel_left, List.nil_append,
        ← zeros]
    · exact run

/-! ## Reading -/

theorem ofGroups?_groups (ip : Ipv6) : ofGroups? ip.groups.toList = some ip := by
  rw [ofGroups?, dif_pos ip.groups.length_toList]
  rfl

/-- Groups around a gap are read with zeros for it. -/
theorem ofText?_gap {high low : List UInt16} {zeros : Nat} {after : List Char}
    (read : groups? (side after) = some low)
    (groups : ip.groups.toList = high ++ List.replicate zeros 0 ++ low) (gap : 0 < zeros) :
    ofText? ((groupsText high).toList ++ ':' :: ':' :: after) = some ip := by
  have cut : splitAtGap? ((groupsText high).toList ++ ':' :: ':' :: after) =
      some ((groupsText high).toList, after) := by
    cases high with
    | nil => rfl
    | cons group rest =>
      rw [splitAtGap?_groupsText (List.cons_ne_nil group rest), splitAtGap?, Option.map_some,
        behind, List.append_nil]
  have all : high.length + zeros + low.length = 8 := by
    have length := congrArg List.length groups
    simpa [Nat.add_assoc] using length.symm
  have number : 8 - (high.length + low.length) = zeros := by omega
  have short : zeros ≠ 0 := Nat.ne_of_gt gap
  simp only [ofText?, cut, side_groupsText, mapM_group?_numeral, read, Option.bind_eq_bind,
    Option.bind_some, number, if_neg short, ← groups, ofGroups?_groups]

/-! ## Mapped addresses -/

/-- Two octets of a group write it. -/
theorem octets_eq (group : UInt16) :
    (group >>> 8).toUInt8.toUInt16 <<< 8 ||| group.toUInt8.toUInt16 = group := by
  have bound := group.toNat_lt
  have low : group.toNat % 256 < 2 ^ 8 := Nat.mod_lt _ (by decide)
  have high : group.toNat >>> 8 % 256 = group.toNat / 256 := by
    rw [Nat.shiftRight_eq_div_pow]
    omega
  have top : (group.toNat / 256) <<< 8 % 65536 = (group.toNat / 256) <<< 8 := by
    rw [Nat.shiftLeft_eq]
    omega
  rw [← UInt16.toNat_inj]
  simp only [UInt16.toNat_or, UInt16.toNat_shiftLeft, UInt8.toNat_toUInt16, UInt16.toNat_toUInt8,
    UInt16.toNat_shiftRight, UInt16.reduceToNat, Nat.reducePow, Nat.reduceMod, high, top]
  rw [← Nat.shiftLeft_add_eq_or_of_lt low, Nat.shiftLeft_eq]
  omega

/-- The groups that the octets of an IPv4 address write. -/
def pairs (mapped : Ipv4) : List UInt16 :=
  [mapped.a.toUInt16 <<< 8 ||| mapped.b.toUInt16, mapped.c.toUInt16 <<< 8 ||| mapped.d.toUInt16]

/-- An address that maps an IPv4 one ends in its octets. -/
theorem groups_of_mapped {mapped : Ipv4} (maps : ip.mapped? = some mapped) :
    ip.groups.toList = List.replicate 5 0 ++ 0xFFFF :: pairs mapped := by
  unfold mapped? at maps
  split at maps
  next high low groups =>
    obtain rfl := Option.some.inj maps
    rw [groups, pairs, octets_eq, octets_eq]
    rfl
  next => cases maps

/-- The dotted form of an address stands for two groups. -/
theorem lastGroups?_text (mapped : Ipv4) :
    lastGroups? mapped.text.toList = some (pairs mapped) := by
  have long := mapped.seven_le_length_text
  have no_group : group? mapped.text.toList = none := if_neg (by omega)
  rw [lastGroups?, no_group, mapped.ofText?_text]
  rfl

theorem groups?_mapped (mapped : Ipv4) :
    groups? (side (['f', 'f', 'f', 'f'] ++ ':' :: mapped.text.toList)) =
      some (0xFFFF :: pairs mapped) := by
  have pieces : side (['f', 'f', 'f', 'f'] ++ ':' :: mapped.text.toList) =
      [['f', 'f', 'f', 'f'], mapped.text.toList] := by
    have free : ':' ∉ ['f', 'f', 'f', 'f'] := by decide
    rw [side, if_neg (by simp), Text.pieces_append_separator free,
      Text.pieces_of_free mapped.colon_notMem_text]
  have group : group? ['f', 'f', 'f', 'f'] = some 0xFFFF := by decide
  rw [pieces, groups?, group, groups?, lastGroups?_text]
  · rfl
  · exact nofun

/-! ## Canonical forms -/

/-- The ways to write an address, each with the groups that it has. -/
theorem toList_text_cases (ip : Ipv6) :
    (∃ mapped : Ipv4,
      ip.text.toList = ':' :: ':' :: (['f', 'f', 'f', 'f'] ++ ':' :: mapped.text.toList) ∧
      ip.groups.toList = List.replicate 5 0 ++ 0xFFFF :: pairs mapped) ∨
    ip.text.toList = (groupsText ip.groups.toList).toList ∨
    ∃ high zeros low, 0 < zeros ∧
      ip.text.toList = (groupsText high).toList ++ ':' :: ':' :: (groupsText low).toList ∧
      ip.groups.toList = high ++ List.replicate zeros 0 ++ low := by
  unfold text
  cases maps : ip.mapped? with
  | some mapped =>
    exact .inl ⟨mapped, by rw [String.toList_append]; rfl, groups_of_mapped maps⟩
  | none =>
    have run : IsRun ip.groups.toList (longestRun 0 (0, 0) ip.groups.toList) :=
      isRun_longestRun (show IsRun ([] ++ ip.groups.toList) (0, 0) by simp [IsRun])
    dsimp only
    split
    · exact .inr (.inl rfl)
    next long =>
      refine .inr (.inr ⟨_, _, _, ?_, ?_, run⟩)
      · omega
      · rw [String.toList_append, String.toList_append, List.append_assoc]
        rfl

theorem groups_ne_nil (ip : Ipv6) : ip.groups.toList ≠ [] := by
  rw [← List.length_pos_iff, ip.groups.length_toList]
  decide

/-- **The canonical form of an address is read back.** -/
theorem ofText?_text (ip : Ipv6) : ofText? ip.text.toList = some ip := by
  rcases ip.toList_text_cases with
    ⟨mapped, text, groups⟩ | text | ⟨high, zeros, low, gap, text, groups⟩
  · have gap : 0 < 5 := by decide
    rw [← List.nil_append (List.replicate 5 _)] at groups
    have read := ofText?_gap (groups?_mapped mapped) groups gap
    rwa [toList_groupsText, List.map_nil, List.intercalate_nil, List.nil_append, ← text] at read
  · have whole : splitAtGap? (groupsText ip.groups.toList).toList = none := by
      have cut := splitAtGap?_groupsText ip.groups_ne_nil []
      rwa [List.append_nil] at cut
    rw [text, ofText?, whole]
    simp only [pieces_groupsText ip.groups_ne_nil, groups?_numeral, Option.bind_some,
      ofGroups?_groups]
  · rw [text]
    have read : groups? (side (groupsText low).toList) = some low := by
      rw [side_groupsText, groups?_numeral]
    exact ofText?_gap read groups gap

/-! ## Characters -/

theorem isAddressChar_of_mem_groupsText {c : Char} (mem : c ∈ (groupsText groups).toList) :
    IsAddressChar c := by
  by_cases colon : c = ':'
  · exact .inr (.inr colon)
  · cases groups with
    | nil => cases mem
    | cons group rest =>
      obtain ⟨piece, listed, inside⟩ := Text.exists_mem_pieces mem colon
      rw [pieces_groupsText (List.cons_ne_nil group rest)] at listed
      obtain ⟨group, -, rfl⟩ := List.mem_map.mp listed
      have digit : ∀ d < 16, IsAddressChar (Nat.digitChar d) := by decide
      exact Text.forall_mem_toDigits (by decide) digit group.toNat c inside

theorem isAddressChar_of_mem_text {c : Char} (mem : c ∈ ip.text.toList) : IsAddressChar c := by
  have colon : IsAddressChar ':' := by decide
  rcases ip.toList_text_cases with
    ⟨mapped, text, -⟩ | text | ⟨high, zeros, low, -, text, -⟩
  · have letter : IsAddressChar 'f' := by decide
    rw [text, List.mem_cons, List.mem_cons, List.mem_append] at mem
    rcases mem with rfl | rfl | mark | behind
    · exact colon
    · exact colon
    · have same : c = 'f' := List.eq_of_mem_replicate (n := 4) mark
      rwa [same]
    · rcases List.mem_cons.mp behind with rfl | inside
      · exact colon
      · exact Ipv4.isAddressChar_of_mem_text inside
  · rw [text] at mem
    exact isAddressChar_of_mem_groupsText mem
  · rw [text, List.mem_append, List.mem_cons, List.mem_cons] at mem
    rcases mem with before | rfl | rfl | after
    · exact isAddressChar_of_mem_groupsText before
    · exact colon
    · exact colon
    · exact isAddressChar_of_mem_groupsText after

/-- There is a colon in every canonical form. -/
theorem colon_mem_text (ip : Ipv6) : ':' ∈ ip.text.toList := by
  rcases ip.toList_text_cases with
    ⟨mapped, text, -⟩ | text | ⟨high, zeros, low, -, text, -⟩
  · rw [text]
    exact List.mem_cons_self
  · have length := ip.groups.length_toList
    rw [text]
    match ip.groups.toList, length with
    | group :: next :: rest, _ =>
      rw [groupsText_cons_cons]
      exact List.mem_append_right _ List.mem_cons_self
  · rw [text]
    exact List.mem_append_right _ List.mem_cons_self

end MessagingConsole.Ipv6
