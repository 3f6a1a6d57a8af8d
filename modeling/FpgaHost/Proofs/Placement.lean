import FpgaHost.Placement
import FpgaHost.Proofs.Text.Numeral

/-!
# The grammar of bank tags

Three shapes of tags name something: `bank` and a number, or `DDR` and the number in brackets, name
a DDR bank; `HBM` and a number in brackets names a channel. The number is written as it is printed,
so that a bank has its two spellings and a channel only one. The flag of a tag tells a bank from a
channel and holds the number.

Main statement: `placementFlag?_grammar`.
-/

namespace FpgaHost.Placement

open Text

variable {tag : String} {name digits cs : List Char} {flag : UInt32} {n : Nat}

theorem index?_eq_some_iff : index? digits = some n ↔ digits = (toString n).toList := by
  rw [index?]
  constructor
  · intro read
    split at read
    · cases read
    · rename_i plain
      refine toList_toString_of_digits? read fun zero => ?_
      rw [zero] at plain
      simpa using plain
  · rintro rfl
    have plain : (toString n).toList.head? = some '0' → (toString n).toList.length = 1 := by
      intro zero
      cases n with
      | zero => rfl
      | succ n =>
        rw [Nat.toString_eq_repr, Nat.toList_repr] at zero
        exact absurd zero (head?_toDigits_ne_zero n.succ_pos)
    rw [if_neg, digits?_toString]
    simpa using plain

theorem bracketed?_eq_some_iff :
    bracketed? name cs = some digits ↔ cs = name ++ '[' :: (digits ++ [']']) := by
  rw [bracketed?]
  constructor
  · intro read
    split at read
    · rename_i opened
      rw [List.isPrefixOf_iff_prefix] at opened
      obtain ⟨rest, rfl⟩ := opened
      rw [List.drop_left' (by simp)] at read
      dsimp only at read
      split at read
      · rename_i closed
        obtain ⟨inner, rfl⟩ := List.getLast?_eq_some_iff.1 closed
        rw [List.dropLast_concat, Option.some.injEq] at read
        rw [read, List.append_assoc, List.singleton_append]
      · cases read
    · cases read
  · rintro rfl
    have opened : name ++ '[' :: (digits ++ [']']) = (name ++ ['[']) ++ (digits ++ [']']) := by
      rw [List.append_assoc, List.singleton_append]
    rw [opened, if_pos (List.isPrefixOf_iff_prefix.2 (List.prefix_append _ _)),
      List.drop_left' (by simp)]
    dsimp only
    rw [List.getLast?_concat, if_pos rfl, List.dropLast_concat]

/-- The numbers below a bound are named by their numerals. -/
theorem map_filter_index?_eq_some_iff {bound : Nat} {f : Nat → UInt32} :
    ((index? digits).filter (· < bound)).map f = some flag ↔
      ∃ n < bound, digits = (toString n).toList ∧ f n = flag := by
  simp only [Option.map_eq_some_iff, Option.filter_eq_some_iff, index?_eq_some_iff,
    decide_eq_true_eq]
  constructor
  · rintro ⟨n, ⟨numeral, below⟩, value⟩
    exact ⟨n, below, numeral, value⟩
  · rintro ⟨n, below, numeral, value⟩
    exact ⟨n, ⟨numeral, below⟩, value⟩

/-! ### Tags -/

/-- The tags that name something, with their flags. -/
inductive Names : String → UInt32 → Prop
  /-- A DDR bank by its number. -/
  | bank {n : Nat} (below : n < ddrBanks) : Names ("bank" ++ toString n) (ddrFlag n)
  /-- A DDR bank by its number in brackets. -/
  | ddr {n : Nat} (below : n < ddrBanks) : Names ("DDR[" ++ toString n ++ "]") (ddrFlag n)
  /-- A channel by its number in brackets. -/
  | hbm {n : Nat} (below : n < hbmChannels) : Names ("HBM[" ++ toString n ++ "]") (hbmFlag n)

theorem toList_bank (numeral : String) :
    ("bank" ++ numeral).toList = ['b', 'a', 'n', 'k'] ++ numeral.toList :=
  String.toList_append

theorem toList_bracketed (opening numeral : String) :
    (opening ++ numeral ++ "]").toList = opening.toList ++ (numeral.toList ++ [']']) := by
  rw [String.toList_append, String.toList_append, List.append_assoc]
  rfl

theorem placementFlag?_of_names (names : Names tag flag) : placementFlag? tag = some flag := by
  cases names with
  | @bank n below =>
    rw [placementFlag?, toList_bank, if_pos (List.isPrefixOf_iff_prefix.2 (List.prefix_append _ _))]
    exact map_filter_index?_eq_some_iff.2 ⟨n, below, rfl, rfl⟩
  | @ddr n below =>
    have inside : bracketed? ['D', 'D', 'R'] ("DDR[" ++ toString n ++ "]").toList =
        some (toString n).toList :=
      bracketed?_eq_some_iff.2 (toList_bracketed _ _)
    have other : ¬ ['b', 'a', 'n', 'k'].isPrefixOf ("DDR[" ++ toString n ++ "]").toList = true := by
      rw [toList_bracketed]
      exact Bool.false_ne_true
    rw [placementFlag?, if_neg other, inside]
    exact map_filter_index?_eq_some_iff.2 ⟨n, below, rfl, rfl⟩
  | @hbm n below =>
    have inside : bracketed? ['H', 'B', 'M'] ("HBM[" ++ toString n ++ "]").toList =
        some (toString n).toList :=
      bracketed?_eq_some_iff.2 (toList_bracketed _ _)
    have other : ¬ ['b', 'a', 'n', 'k'].isPrefixOf ("HBM[" ++ toString n ++ "]").toList = true := by
      rw [toList_bracketed]
      exact Bool.false_ne_true
    have no : bracketed? ['D', 'D', 'R'] ("HBM[" ++ toString n ++ "]").toList = none := by
      rw [toList_bracketed]
      rfl
    rw [placementFlag?, if_neg other, no, inside]
    exact map_filter_index?_eq_some_iff.2 ⟨n, below, rfl, rfl⟩

theorem names_of_placementFlag? (recognised : placementFlag? tag = some flag) : Names tag flag := by
  rw [placementFlag?] at recognised
  split at recognised
  · rename_i bank
    obtain ⟨rest, chars⟩ := List.isPrefixOf_iff_prefix.1 bank
    rw [← chars] at recognised
    change ddrFlag? rest = some flag at recognised
    obtain ⟨n, below, rfl, rfl⟩ := map_filter_index?_eq_some_iff.1 recognised
    have spelled : tag = "bank" ++ toString n :=
      String.toList_inj.1 (chars.symm.trans (toList_bank _).symm)
    rw [spelled]
    exact .bank below
  · split at recognised
    · rename_i digits inside
      obtain ⟨n, below, rfl, rfl⟩ := map_filter_index?_eq_some_iff.1 recognised
      have spelled : tag = "DDR[" ++ toString n ++ "]" :=
        String.toList_inj.1
          ((bracketed?_eq_some_iff.1 inside).trans (toList_bracketed "DDR[" _).symm)
      rw [spelled]
      exact .ddr below
    · obtain ⟨digits, inside, recognised⟩ := Option.bind_eq_some_iff.1 recognised
      obtain ⟨n, below, rfl, rfl⟩ := map_filter_index?_eq_some_iff.1 recognised
      have spelled : tag = "HBM[" ++ toString n ++ "]" :=
        String.toList_inj.1
          ((bracketed?_eq_some_iff.1 inside).trans (toList_bracketed "HBM[" _).symm)
      rw [spelled]
      exact .hbm below

theorem placementFlag?_eq_some_iff : placementFlag? tag = some flag ↔ Names tag flag :=
  ⟨names_of_placementFlag?, placementFlag?_of_names⟩

/-! ### Flags -/

theorem hbmChannel?_ddrFlag : ∀ n < ddrBanks, hbmChannel? (ddrFlag n) = none := by
  decide

theorem hbmChannel?_hbmFlag : ∀ n < hbmChannels, hbmChannel? (hbmFlag n) = some (UInt32.ofNat n) := by
  decide

theorem ddrFlag_injective : ∀ n < ddrBanks, ∀ m < ddrBanks, ddrFlag n = ddrFlag m → n = m := by
  decide

theorem ddrFlag_eq_shift : ∀ n < ddrBanks, ddrFlag n = 1 <<< UInt32.ofNat n := by
  decide

theorem hbmFlag_injective {m : Nat} (below : n < hbmChannels) (below' : m < hbmChannels)
    (same : hbmFlag n = hbmFlag m) : n = m := by
  have channels := congrArg hbmChannel? same
  rw [hbmChannel?_hbmFlag n below, hbmChannel?_hbmFlag m below', Option.some.injEq] at channels
  have numbers := congrArg UInt32.toNat channels
  rw [UInt32.toNat_ofNat_of_lt' (Nat.lt_trans below (by decide)),
    UInt32.toNat_ofNat_of_lt' (Nat.lt_trans below' (by decide))] at numbers
  exact numbers

theorem ddrFlag_ne_hbmFlag {m : Nat} (below : n < ddrBanks) (below' : m < hbmChannels) :
    ddrFlag n ≠ hbmFlag m := by
  intro same
  have channels := congrArg hbmChannel? same
  rw [hbmChannel?_ddrFlag n below, hbmChannel?_hbmFlag m below'] at channels
  cases channels

theorem names_ddrFlag_iff (below : n < ddrBanks) :
    Names tag (ddrFlag n) ↔ tag = "bank" ++ toString n ∨ tag = "DDR[" ++ toString n ++ "]" := by
  constructor
  · generalize value : ddrFlag n = flag
    intro names
    cases names with
    | bank below' =>
      obtain rfl := ddrFlag_injective _ below _ below' value
      exact .inl rfl
    | ddr below' =>
      obtain rfl := ddrFlag_injective _ below _ below' value
      exact .inr rfl
    | hbm below' => exact absurd value (ddrFlag_ne_hbmFlag below below')
  · rintro (rfl | rfl)
    · exact .bank below
    · exact .ddr below

theorem names_hbmFlag_iff (below : n < hbmChannels) :
    Names tag (hbmFlag n) ↔ tag = "HBM[" ++ toString n ++ "]" := by
  constructor
  · generalize value : hbmFlag n = flag
    intro names
    cases names with
    | bank below' => exact absurd value.symm (ddrFlag_ne_hbmFlag below' below)
    | ddr below' => exact absurd value.symm (ddrFlag_ne_hbmFlag below' below)
    | hbm below' =>
      obtain rfl := hbmFlag_injective below below' value
      rfl
  · rintro rfl
    exact .hbm below

/-- Two tags with one flag are one tag, or the two spellings of one DDR bank. -/
theorem Names.eq_or_spellings {other : String} (first : Names tag flag) (second : Names other flag) :
    tag = other ∨ ∃ n < ddrBanks,
      tag = "bank" ++ toString n ∧ other = "DDR[" ++ toString n ++ "]" ∨
      tag = "DDR[" ++ toString n ++ "]" ∧ other = "bank" ++ toString n := by
  cases first with
  | @bank n below =>
    obtain rfl | rfl := (names_ddrFlag_iff below).1 second
    · exact .inl rfl
    · exact .inr ⟨n, below, .inl ⟨rfl, rfl⟩⟩
  | @ddr n below =>
    obtain rfl | rfl := (names_ddrFlag_iff below).1 second
    · exact .inr ⟨n, below, .inr ⟨rfl, rfl⟩⟩
    · exact .inl rfl
  | hbm below => exact .inl ((names_hbmFlag_iff below).1 second).symm

theorem Names.hbmChannel?_eq_some_iff {channel : UInt32} (names : Names tag flag) :
    hbmChannel? flag = some channel ↔
      ∃ n < hbmChannels, tag = "HBM[" ++ toString n ++ "]" ∧ channel = UInt32.ofNat n := by
  constructor
  · intro held
    cases names with
    | bank below =>
      rw [hbmChannel?_ddrFlag _ below] at held
      cases held
    | ddr below =>
      rw [hbmChannel?_ddrFlag _ below] at held
      cases held
    | @hbm n below =>
      rw [hbmChannel?_hbmFlag _ below, Option.some.injEq] at held
      exact ⟨n, below, rfl, held.symm⟩
  · rintro ⟨n, below, rfl, rfl⟩
    have value : hbmFlag n = flag :=
      Option.some.inj ((placementFlag?_of_names (.hbm below)).symm.trans
        (placementFlag?_of_names names))
    rw [← value, hbmChannel?_hbmFlag n below]

/-- The flag of a tag is `1 <<< n` exactly if the tag is `bank` and `n` or `DDR[` and `n` and `]`
with the decimal numeral of a number `n` below 4, and `n ||| 0x80000000` exactly if it is `HBM[` and
`n` and `]` with the numeral of a number below 32; any other string has none. Two tags that have the
same flag are equal or the two spellings of one bank, and the flag of a tag holds the channel `n`
exactly if the tag is `HBM[` and `n` and `]`. -/
theorem placementFlag?_grammar (tag : String) :
    (∀ n < 4, placementFlag? tag = some (1 <<< UInt32.ofNat n) ↔
      tag = "bank" ++ toString n ∨ tag = "DDR[" ++ toString n ++ "]") ∧
    (∀ n < 32, placementFlag? tag = some (UInt32.ofNat n ||| 0x80000000) ↔
      tag = "HBM[" ++ toString n ++ "]") ∧
    (placementFlag? tag = none ↔
      (∀ n < 4, tag ≠ "bank" ++ toString n ∧ tag ≠ "DDR[" ++ toString n ++ "]") ∧
      ∀ n < 32, tag ≠ "HBM[" ++ toString n ++ "]") ∧
    (∀ other flag, placementFlag? tag = some flag → placementFlag? other = some flag →
      tag = other ∨ ∃ n < 4,
        tag = "bank" ++ toString n ∧ other = "DDR[" ++ toString n ++ "]" ∨
        tag = "DDR[" ++ toString n ++ "]" ∧ other = "bank" ++ toString n) ∧
    ∀ flag channel, placementFlag? tag = some flag →
      (hbmChannel? flag = some channel ↔
        ∃ n < 32, tag = "HBM[" ++ toString n ++ "]" ∧ channel = UInt32.ofNat n) := by
  refine ⟨fun n below => ?_, fun n below => ?_, ?_, fun other flag first second => ?_,
    fun flag channel recognised => ?_⟩
  · rw [← ddrFlag_eq_shift n below, placementFlag?_eq_some_iff]
    exact names_ddrFlag_iff below
  · rw [placementFlag?_eq_some_iff]
    exact names_hbmFlag_iff below
  · rw [Option.eq_none_iff_forall_not_mem]
    constructor
    · intro unknown
      refine ⟨fun n below => ⟨?_, ?_⟩, fun n below => ?_⟩
      · rintro rfl
        exact unknown _ (placementFlag?_of_names (.bank below))
      · rintro rfl
        exact unknown _ (placementFlag?_of_names (.ddr below))
      · rintro rfl
        exact unknown _ (placementFlag?_of_names (.hbm below))
    · rintro ⟨noBank, noChannel⟩ flag recognised
      cases names_of_placementFlag? recognised with
      | bank below => exact (noBank _ below).1 rfl
      | ddr below => exact (noBank _ below).2 rfl
      | hbm below => exact noChannel _ below rfl
  · exact (names_of_placementFlag? first).eq_or_spellings (names_of_placementFlag? second)
  · exact (names_of_placementFlag? recognised).hbmChannel?_eq_some_iff

theorem placementFlag?_grammar_hbm : 17 < 32 ∧
    placementFlag? "HBM[17]" = some (UInt32.ofNat 17 ||| 0x80000000) :=
  have below : 17 < 32 := by decide
  ⟨below, ((placementFlag?_grammar "HBM[17]").2.1 17 below).2 (by decide)⟩

end FpgaHost.Placement
