import AudioRelay.Proofs.AddressGroup

/-!
# Addresses that are written out

A group of two numbers in plain digits is read back whatever text stands before it, other groups
and pieces of groups included, as long as the text behind it does not go on with a digit and holds
no mark. Different numbers give different ids, so such addresses name the same device exactly if
their numbers agree.
-/

namespace AudioRelay

namespace Address

/-- The group of a card and a device, in plain digits. -/
def group (card device : Nat) : String :=
  "CARD_" ++ toString card ++ "_DEV_" ++ toString device

/-- A text that can stand behind a group: it adds no digit to the device, and it does not contain
the mark of another group. -/
structure Trails (text : String) : Prop where
  noDigit : ∀ c ∈ text.toList.head?, c.isDigit = false
  noMark : ¬ "CARD_".toList <:+: text.toList

section

variable {mark body before after : List Char} {c : Char} {n card device : Nat}

/-! ### Digits -/

/-- What is no digit is not among the digits of a number. -/
theorem not_mem_toDigits (hc : c.isDigit = false) : c ∉ Nat.toDigits 10 n := by
  intro hmem
  have hdigit := Nat.isDigit_of_mem_toDigits (by decide) (by decide) hmem
  exact absurd hdigit (Bool.not_eq_true _ ▸ hc)

/-- A number that fits is written by its digits. -/
theorem writes_toDigits (h : n ≤ 0xffffffff) : Writes (Nat.toDigits 10 n) n where
  nonempty := Nat.toDigits_ne_nil
  isDigit _ hc := Nat.isDigit_of_mem_toDigits (by decide) (by decide) hc
  value := Nat.ofDigitChars_ten_toDigits
  fits := h

/-! ### The place of the group -/

/-- A text contains a mark that begins at a place of it. -/
theorem infix_iff_markAt {text : List Char} : mark <:+: text ↔ ∃ place, MarkAt mark text place := by
  constructor
  · rintro ⟨front, rest, rfl⟩
    refine ⟨front.length, rest, ?_⟩
    rw [List.append_assoc, List.drop_left]
  · rintro ⟨place, hat⟩
    exact hat.isInfix.trans (List.drop_suffix place text).isInfix

/-- A mark that begins between two texts is the last one if its first letter does not stand in the
rest of what it begins and no mark stands behind. -/
theorem lastAt_append (hbegins : c :: mark <+: c :: body) (hbody : c ∉ body)
    (hafter : ¬ c :: mark <:+: after) :
    LastAt (c :: mark) (before ++ (c :: body ++ after)) before.length := by
  constructor
  · rw [MarkAt, List.drop_left]
    exact hbegins.trans (List.prefix_append _ _)
  · intro later hlater
    refine Nat.le_of_not_lt fun hbehind => ?_
    obtain ⟨k, rfl⟩ := Nat.exists_eq_add_of_lt hbehind
    rw [MarkAt, Nat.add_assoc, List.drop_length_add_append, List.cons_append,
      List.drop_succ_cons] at hlater
    rcases Nat.lt_or_ge k body.length with hwithin | hpast
    · -- A mark inside the body would begin with its first letter.
      rw [List.drop_append_of_le_length (Nat.le_of_lt hwithin), List.drop_eq_getElem_cons hwithin,
        List.cons_append, List.cons_prefix_cons] at hlater
      exact hbody (hlater.1 ▸ List.getElem_mem hwithin)
    · rw [List.drop_append, List.drop_of_length_le hpast, List.nil_append] at hlater
      exact hafter (infix_iff_markAt.mpr ⟨_, hlater⟩)

/-- No letter of a group but the first begins a mark. -/
theorem not_mem_group_tail :
    'C' ∉ "ARD_".toList ++ (Nat.toDigits 10 card ++ "_DEV_".toList ++ Nat.toDigits 10 device) := by
  have hdigits : ∀ n, 'C' ∉ Nat.toDigits 10 n := fun n => not_mem_toDigits (by decide)
  simp [hdigits]

theorem toList_group (card device : Nat) :
    (group card device).toList = "CARD_".toList ++
      (Nat.toDigits 10 card ++ "_DEV_".toList ++ Nat.toDigits 10 device) := by
  simp only [group, String.toList_append, Nat.toString_eq_repr, Nat.toList_repr,
    List.append_assoc]

/-- A group that is written out stands at the last mark. -/
theorem cardAndDevice?_group (hcard : card ≤ 0xffffffff) (hdevice : device ≤ 0xffffffff)
    (before : String) {after : String} (trails : Trails after) :
    cardAndDevice? (before ++ group card device ++ after) = some (card, device) := by
  have htext : (before ++ group card device ++ after).toList = before.toList ++
      ("CARD_".toList ++ (Nat.toDigits 10 card ++ "_DEV_".toList ++ Nat.toDigits 10 device) ++
        after.toList) := by
    simp only [String.toList_append, toList_group, List.append_assoc]
  rw [cardAndDevice?_eq_some_iff, htext]
  refine ⟨before.toList.length, ?_, false, ?_⟩
  · exact lastAt_append (List.prefix_append _ _) not_mem_group_tail trails.noMark
  · refine ⟨Nat.toDigits 10 card, Nat.toDigits 10 device, after.toList, ?_,
      writes_toDigits hcard, writes_toDigits hdevice, trails.noDigit⟩
    rw [List.drop_left]
    simp only [sign, List.append_assoc]
    rfl

/-- Digits tell their number. -/
theorem toDigits_inj {n m : Nat} (h : Nat.toDigits 10 n = Nat.toDigits 10 m) : n = m := by
  have hvalue := congrArg (fun digits => Nat.ofDigitChars 10 digits 0) h
  simpa only [Nat.ofDigitChars_ten_toDigits] using hvalue

end

end Address

open Address in
/-- The id of a device tells its card and its number. -/
theorem DeviceId.ofAddress_inj {card device card' device' : Nat} :
    ofAddress card device = ofAddress card' device' ↔ card = card' ∧ device = device' := by
  constructor
  · intro h
    have hread : ∀ n m, splitFirst [','] ((ofAddress n m).toList.drop 3) =
        some (Nat.toDigits 10 n, Nat.toDigits 10 m) := by
      intro n m
      have htext : (ofAddress n m).toList.drop 3 =
          Nat.toDigits 10 n ++ [','] ++ Nat.toDigits 10 m := by
        simp [ofAddress, toString]
      rw [htext, splitFirst_append (not_mem_toDigits (by decide))]
    have hsame := hread card device
    rw [h, hread card' device'] at hsame
    obtain ⟨hcard, hdevice⟩ := Prod.mk.inj (Option.some.inj hsame)
    exact ⟨(toDigits_inj hcard).symm, (toDigits_inj hdevice).symm⟩
  · rintro ⟨rfl, rfl⟩
    rfl

namespace DeviceProfile

open Address in
/-- A profile of an address with a group that is written out last lies at its card and device and
has the id of an attached device there; and two such profiles have one id only if they lie at one
place. -/
theorem ofAddress_group (card device : UInt32) (before after : String) (direction : Direction)
    (isExternal : Bool) (trails : Trails after) :
    ofAddress (before ++ group card.toNat device.toNat ++ after) direction isExternal =
        { attached card.toNat device.toNat direction with isExternal := isExternal } ∧
      ∀ (card' device' : UInt32) before' after' direction' isExternal', Trails after' →
        ((ofAddress (before ++ group card.toNat device.toNat ++ after) direction isExternal).id =
            (ofAddress (before' ++ group card'.toNat device'.toNat ++ after') direction'
              isExternal').id ↔
          (card, device) = (card', device')) := by
  have reads : ∀ (card device : UInt32) before after direction isExternal, Trails after →
      ofAddress (before ++ group card.toNat device.toNat ++ after) direction isExternal =
        { attached card.toNat device.toNat direction with isExternal := isExternal } := by
    intro card device before after direction isExternal trails
    have hread := cardAndDevice?_group (Nat.le_of_lt_succ card.toNat_lt)
      (Nat.le_of_lt_succ device.toNat_lt) before trails
    rw [ofAddress, hread]
    rfl
  refine ⟨reads _ _ _ _ _ _ trails, fun card' device' before' after' direction' isExternal' h => ?_⟩
  rw [reads _ _ _ _ _ _ trails, reads _ _ _ _ _ _ h]
  calc DeviceId.ofAddress card.toNat device.toNat = DeviceId.ofAddress card'.toNat device'.toNat
    _ ↔ card.toNat = card'.toNat ∧ device.toNat = device'.toNat := DeviceId.ofAddress_inj
    _ ↔ (card, device) = (card', device') := by
      rw [UInt32.toNat_inj, UInt32.toNat_inj, Prod.mk.injEq]

open Address in
/-- The greatest card behind another group and pieces of one, with the mark of a device behind. -/
theorem ofAddress_group_amid_pieces :
    Trails "_DEV_9;CARD" ∧ Trails "" ∧
      ofAddress ("CARD_7_DEV_8CARD__DEV_" ++ group 4294967295 0 ++ "_DEV_9;CARD") .input true =
        external 4294967295 0 .input ∧
      (ofAddress ("CARD_7_DEV_8CARD__DEV_" ++ group 4294967295 0 ++ "_DEV_9;CARD") .input true).id =
        (ofAddress ("" ++ group 4294967295 0 ++ "") .output false).id := by
  have hwithin : ∀ place < 11, ¬ MarkAt "CARD_".toList "_DEV_9;CARD".toList place := by decide
  have trails : Trails "_DEV_9;CARD" := by
    constructor
    case noDigit =>
      rintro c ⟨⟩
      rfl
    case noMark =>
      intro hmark
      obtain ⟨place, hat⟩ := infix_iff_markAt.mp hmark
      exact hwithin place (hat.lt_length (by decide)) hat
  have ends : Trails "" := by
    refine ⟨?_, by decide⟩
    rintro c ⟨⟩
  obtain ⟨hreads, hsame⟩ := ofAddress_group 4294967295 0 "CARD_7_DEV_8CARD__DEV_" "_DEV_9;CARD"
    .input true trails
  exact ⟨trails, ends, hreads, (hsame 4294967295 0 "" "" .output false ends).mpr rfl⟩

end DeviceProfile

end AudioRelay
