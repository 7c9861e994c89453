/-!
# Textual device addresses

The card and device numbers stand in a group `CARD_<card>_DEV_<device>`. Reading
starts at the last `CARD_` of the address: the card is the text up to the next
`_DEV_`, the device the digits after it.
-/

namespace AudioRelay.Address

/-- The text after the first occurrence of `mark`, and the text before it. -/
def splitFirst (mark : List Char) : List Char → Option (List Char × List Char)
  | [] => if mark.isEmpty then some ([], []) else none
  | c :: rest =>
    if mark.isPrefixOf (c :: rest) then some ([], (c :: rest).drop mark.length)
    else (splitFirst mark rest).map fun (before, after) => (c :: before, after)

/-- The two parts and the mark between them are the whole text. -/
theorem eq_append_of_splitFirst {mark text before after : List Char}
    (h : splitFirst mark text = some (before, after)) : text = before ++ mark ++ after := by
  induction text generalizing before with
  | nil =>
    unfold splitFirst at h
    split at h <;> simp_all
  | cons c rest ih =>
    unfold splitFirst at h
    split at h
    · next hp =>
      obtain ⟨tail, ht⟩ := List.isPrefixOf_iff_prefix.1 hp
      simp only [Option.some.injEq, Prod.mk.injEq] at h
      rw [← h.1, ← h.2, ← ht]
      simp
    · obtain ⟨⟨before', after'⟩, hs, he⟩ := Option.map_eq_some_iff.1 h
      simp only [Prod.mk.injEq] at he
      obtain ⟨rfl, rfl⟩ := he
      rw [ih hs]
      simp

/-- The text after the last occurrence of `mark`. -/
def afterLast (mark : List Char) : List Char → Option (List Char)
  | [] => if mark.isEmpty then some [] else none
  | c :: rest =>
    match afterLast mark rest with
    | some after => some after
    | none =>
      if mark.isPrefixOf (c :: rest) then some ((c :: rest).drop mark.length) else none

/-- A nonempty run of ASCII digits read in base ten. -/
def number? (text : List Char) : Option Nat :=
  if text.isEmpty || !text.all Char.isDigit then none else some (Nat.ofDigitChars 10 text 0)

/-- A number below 2^32, written in digits with at most one plus sign before them. -/
def unsigned? (text : List Char) : Option Nat := do
  let n ← number? (match text with
    | '+' :: digits => digits
    | digits => digits)
  if n ≤ 0xffffffff then some n else none

/-- Card and device of the group that starts at the last `CARD_`. -/
def cardAndDevice? (address : String) : Option (Nat × Nat) := do
  let group ← afterLast "CARD_".toList address.toList
  let (card, rest) ← splitFirst "_DEV_".toList group
  return (← unsigned? card, ← unsigned? (rest.takeWhile Char.isDigit))

end AudioRelay.Address
