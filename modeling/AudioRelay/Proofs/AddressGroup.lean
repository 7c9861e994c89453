import AudioRelay.Device.Profile

/-!
# Groups of an address

An address is read at its last `CARD_`. If a group of two numbers begins there, those are the card
and the device; the card may have a plus sign. If none does, the address is read as one that names
no device, even if groups stand before.
-/

namespace AudioRelay

namespace Address

/-- Digits, at least one, that write a number of 32 bits. -/
structure Writes (digits : List Char) (n : Nat) : Prop where
  nonempty : digits ≠ []
  isDigit : ∀ c ∈ digits, c.isDigit = true
  value : Nat.ofDigitChars 10 digits 0 = n
  fits : n ≤ 0xffffffff

instance (digits : List Char) (n : Nat) : Decidable (Writes digits n) :=
  decidable_of_iff (digits ≠ [] ∧ digits.all Char.isDigit = true ∧
      Nat.ofDigitChars 10 digits 0 = n ∧ n ≤ 0xffffffff)
    ⟨fun ⟨h₁, h₂, h₃, h₄⟩ => ⟨h₁, List.all_eq_true.mp h₂, h₃, h₄⟩,
      fun h => ⟨h.nonempty, List.all_eq_true.mpr h.isDigit, h.value, h.fits⟩⟩

/-- A mark begins at a place of a text. -/
def MarkAt (mark text : List Char) (place : Nat) : Prop := mark <+: text.drop place

instance (mark text : List Char) (place : Nat) : Decidable (MarkAt mark text place) :=
  inferInstanceAs (Decidable (mark <+: text.drop place))

/-- A mark begins at a place of a text and nowhere behind it. -/
def LastAt (mark text : List Char) (place : Nat) : Prop :=
  MarkAt mark text place ∧ ∀ later, MarkAt mark text later → later ≤ place

/-- What stands before the digits of a card. -/
def sign (hasPlus : Bool) : List Char := if hasPlus then ['+'] else []

/-- A group of a card and a device begins at a place of a text. All digits behind the second mark
belong to the device. -/
def GroupAt (hasPlus : Bool) (text : List Char) (place card device : Nat) : Prop :=
  ∃ cardDigits deviceDigits rest,
    text.drop place = "CARD_".toList ++
      ((sign hasPlus ++ cardDigits) ++ "_DEV_".toList ++ (deviceDigits ++ rest)) ∧
    Writes cardDigits card ∧ Writes deviceDigits device ∧ ∀ c ∈ rest.head?, c.isDigit = false

section

variable {mark text before after digits rest : List Char} {c : Char} {n place card device : Nat}
  {hasPlus : Bool}

/-! ### Places of a mark -/

/-- No mark begins behind the text. -/
theorem MarkAt.lt_length (hmark : mark ≠ []) (h : MarkAt mark text place) :
    place < text.length := by
  refine Nat.lt_of_not_le fun hbehind => ?_
  rw [MarkAt, List.drop_of_length_le hbehind, List.prefix_nil] at h
  exact hmark h

/-- A text without a last mark has none. -/
theorem not_markAt_of_afterLast (hmark : mark ≠ []) (h : afterLast mark text = none) (place : Nat) :
    ¬ MarkAt mark text place := by
  induction text generalizing place with
  | nil =>
    rw [MarkAt, List.drop_nil, List.prefix_nil]
    exact hmark
  | cons c tail ih =>
    unfold afterLast at h
    split at h
    · contradiction
    · rename_i htail
      split at h
      · contradiction
      · rename_i hfirst
        cases place with
        | zero => exact fun hat => hfirst (List.isPrefixOf_iff_prefix.mpr hat)
        | succ place => exact ih htail place

/-- The text behind the last mark is what follows its last place. -/
theorem lastAt_of_afterLast (hmark : mark ≠ []) (h : afterLast mark text = some after) :
    ∃ place, LastAt mark text place ∧ text.drop place = mark ++ after := by
  induction text with
  | nil => simp [afterLast, hmark] at h
  | cons c tail ih =>
    unfold afterLast at h
    split at h
    · rename_i found htail
      obtain rfl := Option.some.inj h
      obtain ⟨place, ⟨hat, hlast⟩, hdrop⟩ := ih htail
      refine ⟨place + 1, ⟨hat, fun later hlater => ?_⟩, hdrop⟩
      cases later with
      | zero => exact Nat.zero_le _
      | succ later => exact Nat.succ_le_succ (hlast later hlater)
    · rename_i htail
      split at h
      · rename_i hfirst
        obtain rfl := Option.some.inj h
        have hat : mark <+: c :: tail := List.isPrefixOf_iff_prefix.mp hfirst
        refine ⟨0, ⟨hat, fun later hlater => ?_⟩, (List.prefix_iff_eq_append.mp hat).symm⟩
        cases later with
        | zero => exact Nat.le_refl 0
        | succ later => exact absurd hlater (not_markAt_of_afterLast hmark htail later)
      · contradiction

/-- What follows the last place of a mark is the text behind the last mark. -/
theorem afterLast_of_lastAt (hmark : mark ≠ []) (h : LastAt mark text place)
    (hdrop : text.drop place = mark ++ after) : afterLast mark text = some after := by
  cases hfound : afterLast mark text with
  | none => exact absurd h.1 (not_markAt_of_afterLast hmark hfound place)
  | some found =>
    obtain ⟨place', hlast, hdrop'⟩ := lastAt_of_afterLast hmark hfound
    obtain rfl : place = place' := Nat.le_antisymm (hlast.2 place h.1) (h.2 place' hlast.1)
    rw [List.append_cancel_left (hdrop.symm.trans hdrop')]

/-- A text is split at a mark that begins nowhere before. -/
theorem splitFirst_append (hbefore : c ∉ before) :
    splitFirst (c :: mark) (before ++ (c :: mark) ++ after) = some (before, after) := by
  induction before with
  | nil => simp [splitFirst]
  | cons d before ih =>
    obtain ⟨hne, hrest⟩ := List.ne_and_not_mem_of_not_mem_cons hbefore
    have hother : (c == d) = false := beq_eq_false_iff_ne.mpr hne
    rw [List.cons_append, List.cons_append, splitFirst, ih hrest, List.isPrefixOf, hother]
    rfl

/-! ### Numbers -/

theorem number?_eq_some_iff :
    number? text = some n ↔
      text ≠ [] ∧ (∀ c ∈ text, c.isDigit = true) ∧ Nat.ofDigitChars 10 text 0 = n := by
  rw [number?, ← List.all_eq_true]
  by_cases hempty : text = []
  · simp [hempty]
  · cases text.all Char.isDigit <;> simp [hempty]

/-- A number is digits with at most a plus sign before them. -/
theorem unsigned?_eq_some_iff :
    unsigned? text = some n ↔
      ∃ hasPlus digits, text = sign hasPlus ++ digits ∧ Writes digits n := by
  have reads (digits : List Char) : (number? digits).bind (fun n =>
      if n ≤ 0xffffffff then some n else none) = some n ↔ Writes digits n := by
    constructor
    · intro h
      obtain ⟨m, hm, hfits⟩ := Option.bind_eq_some_iff.mp h
      obtain ⟨hnonempty, hdigits, hvalue⟩ := number?_eq_some_iff.mp hm
      split at hfits
      · rename_i hle
        obtain rfl := Option.some.inj hfits
        exact ⟨hnonempty, hdigits, hvalue, hle⟩
      · contradiction
    · intro h
      rw [number?_eq_some_iff.mpr ⟨h.nonempty, h.isDigit, h.value⟩, Option.bind_some,
        if_pos h.fits]
  constructor
  · intro h
    unfold unsigned? at h
    split at h
    · rename_i digits
      exact ⟨true, digits, rfl, (reads digits).mp h⟩
    · exact ⟨false, text, rfl, (reads text).mp h⟩
  · rintro ⟨hasPlus, digits, rfl, h⟩
    cases hasPlus with
    | true => exact (reads digits).mpr h
    | false =>
      unfold unsigned?
      split
      · -- No digit is a plus sign.
        rename_i tail hplus
        obtain rfl : digits = '+' :: tail := hplus
        have hdigit := h.isDigit '+' List.mem_cons_self
        contradiction
      · exact (reads digits).mpr h

/-- A digit is no mark and no sign. -/
theorem not_mem_signed (h : Writes digits n) : '_' ∉ sign hasPlus ++ digits := by
  intro hmem
  rcases List.mem_append.mp hmem with hsign | hdigit
  · cases hasPlus <;> simp [sign] at hsign
  · have := h.isDigit '_' hdigit
    contradiction

/-- The digits that a text begins with, when others do not follow. -/
theorem takeWhile_digits (hdigits : ∀ c ∈ digits, c.isDigit = true)
    (hrest : ∀ c ∈ rest.head?, c.isDigit = false) :
    (digits ++ rest).takeWhile Char.isDigit = digits := by
  rw [List.takeWhile_append_of_pos hdigits]
  cases rest with
  | nil => simp
  | cons c rest =>
    have hc : ¬ c.isDigit = true := by simpa using hrest c rfl
    rw [List.takeWhile_cons_of_neg hc, List.append_nil]

/-! ### The group at the last mark -/

/-- An address is read as a group exactly if that group begins at its last mark. -/
theorem cardAndDevice?_eq_some_iff {address : String} :
    cardAndDevice? address = some (card, device) ↔
      ∃ place, LastAt "CARD_".toList address.toList place ∧
        ∃ hasPlus, GroupAt hasPlus address.toList place card device := by
  have hmark : "CARD_".toList ≠ [] := by decide
  have hmark' : "_DEV_".toList = '_' :: ['D', 'E', 'V', '_'] := rfl
  constructor
  · intro h
    obtain ⟨group, hgroup, h⟩ := Option.bind_eq_some_iff.mp h
    obtain ⟨⟨cardText, rest⟩, hsplit, h⟩ := Option.bind_eq_some_iff.mp h
    obtain ⟨m, hcard, h⟩ := Option.bind_eq_some_iff.mp h
    obtain ⟨k, hdevice, h⟩ := Option.bind_eq_some_iff.mp h
    obtain ⟨rfl, rfl⟩ := Prod.mk.inj (Option.some.inj h)
    obtain ⟨place, hlast, hdrop⟩ := lastAt_of_afterLast hmark hgroup
    obtain ⟨hasPlus, cardDigits, rfl, writesCard⟩ := unsigned?_eq_some_iff.mp hcard
    obtain ⟨devicePlus, deviceDigits, htake, writesDevice⟩ := unsigned?_eq_some_iff.mp hdevice
    refine ⟨place, hlast, hasPlus, cardDigits, rest.takeWhile Char.isDigit,
      rest.dropWhile Char.isDigit, ?_, writesCard, ?_, ?_⟩
    · rw [List.takeWhile_append_dropWhile, hdrop, eq_append_of_splitFirst hsplit]
    · cases devicePlus with
      | true =>
        have hplus : '+' ∈ rest.takeWhile Char.isDigit := htake ▸ List.mem_cons_self
        have hdigit := List.all_eq_true.mp List.all_takeWhile '+' hplus
        contradiction
      | false => exact htake ▸ writesDevice
    · intro c hc
      have hhead := List.head?_dropWhile_not Char.isDigit rest
      rw [Option.mem_def.mp hc] at hhead
      exact hhead
  · rintro ⟨place, hlast, hasPlus, cardDigits, deviceDigits, rest, hdrop, writesCard, writesDevice,
      hrest⟩
    have hsplit : splitFirst "_DEV_".toList
        ((sign hasPlus ++ cardDigits) ++ "_DEV_".toList ++ (deviceDigits ++ rest)) =
          some (sign hasPlus ++ cardDigits, deviceDigits ++ rest) := by
      rw [hmark']
      exact splitFirst_append (not_mem_signed writesCard)
    have hcard : unsigned? (sign hasPlus ++ cardDigits) = some card :=
      unsigned?_eq_some_iff.mpr ⟨hasPlus, cardDigits, rfl, writesCard⟩
    have hdevice : unsigned? deviceDigits = some device :=
      unsigned?_eq_some_iff.mpr ⟨false, deviceDigits, rfl, writesDevice⟩
    simp only [cardAndDevice?, afterLast_of_lastAt hmark hlast hdrop, hsplit, hcard,
      takeWhile_digits writesDevice.isDigit hrest, hdevice, bind, Option.bind, pure]

/-- A group begins with its mark. -/
theorem GroupAt.markAt (h : GroupAt hasPlus text place card device) :
    MarkAt "CARD_".toList text place := by
  obtain ⟨cardDigits, deviceDigits, rest, hdrop, -⟩ := h
  rw [MarkAt, hdrop]
  exact List.prefix_append _ _

/-- Without a plus sign a digit follows. -/
theorem GroupAt.digit (h : GroupAt false text place card device) :
    (text.drop (place + 5)).head?.any Char.isDigit = true := by
  obtain ⟨cardDigits, deviceDigits, rest, hdrop, writesCard, -⟩ := h
  obtain ⟨c, digits, rfl⟩ := List.exists_cons_of_ne_nil writesCard.nonempty
  rw [← List.drop_drop, hdrop]
  exact writesCard.isDigit c List.mem_cons_self

end

end Address

open Address in
/-- A profile of an address lies where the group says that begins at the last `CARD_`, which then
is the last group, and at the default address if none begins there. -/
theorem DeviceProfile.ofAddress_reads_last_mark (address : String) (direction : Direction)
    (isExternal : Bool) :
    ∃ card device, ofAddress address direction isExternal =
        { attached card device direction with isExternal := isExternal } ∧
      (∀ place hasPlus c d, LastAt "CARD_".toList address.toList place →
        GroupAt hasPlus address.toList place c d →
          (∀ later hasPlus' c' d', GroupAt hasPlus' address.toList later c' d' → later ≤ place) ∧
            card = c ∧ device = d) ∧
      ((∀ place hasPlus c d, LastAt "CARD_".toList address.toList place →
          ¬ GroupAt hasPlus address.toList place c d) →
        (card, device) = defaultAddress) := by
  obtain ⟨read, hread⟩ : ∃ read, cardAndDevice? address = read := ⟨_, rfl⟩
  refine ⟨(read.getD defaultAddress).1, (read.getD defaultAddress).2, ?_, ?_, ?_⟩
  · rw [← hread]
    rfl
  · intro place hasPlus c d hlast hgroup
    obtain rfl : some (c, d) = read :=
      (cardAndDevice?_eq_some_iff.mpr ⟨place, hlast, hasPlus, hgroup⟩).symm.trans hread
    exact ⟨fun later _ _ _ hlater => hlast.2 later hlater.markAt, rfl, rfl⟩
  · intro none_begins
    cases read with
    | none => rfl
    | some numbers =>
      obtain ⟨place, hlast, hasPlus, hgroup⟩ := cardAndDevice?_eq_some_iff.mp hread
      exact absurd hgroup (none_begins place hasPlus _ _ hlast)

open Address in
/-- A group in front, incomplete ones, and then a group whose card has a plus sign and zeros. -/
theorem DeviceProfile.reads_signed_group :
    LastAt "CARD_".toList "CARD_1_DEV_2CARD_CARD_+07_DEV_3_DEV_4".toList 17 ∧
      GroupAt true "CARD_1_DEV_2CARD_CARD_+07_DEV_3_DEV_4".toList 17 7 3 ∧
      ofAddress "CARD_1_DEV_2CARD_CARD_+07_DEV_3_DEV_4" .output true = external 7 3 .output := by
  have hlast : LastAt "CARD_".toList "CARD_1_DEV_2CARD_CARD_+07_DEV_3_DEV_4".toList 17 := by
    have hwithin : ∀ later < 37, MarkAt "CARD_".toList
        "CARD_1_DEV_2CARD_CARD_+07_DEV_3_DEV_4".toList later → later ≤ 17 := by
      decide
    exact ⟨by decide, fun later hat => hwithin later (hat.lt_length (by decide)) hat⟩
  have hgroup : GroupAt true "CARD_1_DEV_2CARD_CARD_+07_DEV_3_DEV_4".toList 17 7 3 :=
    ⟨['0', '7'], ['3'], "_DEV_4".toList, by decide, by decide, by decide,
      fun _ hc => Option.some.inj hc ▸ rfl⟩
  obtain ⟨card, device, hprofile, hreads, -⟩ :=
    ofAddress_reads_last_mark "CARD_1_DEV_2CARD_CARD_+07_DEV_3_DEV_4" .output true
  obtain ⟨-, rfl, rfl⟩ := hreads 17 true 7 3 hlast hgroup
  exact ⟨hlast, hgroup, hprofile⟩

open Address in
/-- The last group is not read if a mark stands behind it that begins none, and what is read need
not be one: its card may have a plus sign. -/
theorem DeviceProfile.ofAddress_misses_last_group :
    (GroupAt false "CARD_1_DEV_2;CARD_".toList 0 1 2 ∧
      (∀ later card device, GroupAt false "CARD_1_DEV_2;CARD_".toList later card device →
        later ≤ 0) ∧
      ofAddress "CARD_1_DEV_2;CARD_" .output false = attached 0 0 .output) ∧
    (∀ place card device, ¬ GroupAt false "CARD_+1_DEV_2".toList place card device) ∧
      ofAddress "CARD_+1_DEV_2" .output false = attached 1 2 .output := by
  refine ⟨⟨?_, ?_, by decide⟩, ?_, by decide⟩
  · exact ⟨['1'], ['2'], ";CARD_".toList, by decide, by decide, by decide,
      fun _ hc => Option.some.inj hc ▸ rfl⟩
  · intro later card device hgroup
    have hwithin : ∀ place < 18, MarkAt "CARD_".toList "CARD_1_DEV_2;CARD_".toList place →
        ("CARD_1_DEV_2;CARD_".toList.drop (place + 5)).head?.any Char.isDigit = true →
          place ≤ 0 := by
      decide
    exact hwithin later (hgroup.markAt.lt_length (by decide)) hgroup.markAt hgroup.digit
  · intro place card device hgroup
    have hwithin : ∀ place < 13, MarkAt "CARD_".toList "CARD_+1_DEV_2".toList place →
        ¬ ("CARD_+1_DEV_2".toList.drop (place + 5)).head?.any Char.isDigit = true := by
      decide
    exact hwithin place (hgroup.markAt.lt_length (by decide)) hgroup.markAt hgroup.digit

end AudioRelay
