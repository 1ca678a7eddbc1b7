import SignOn.Proofs.Ace.HostNames
import SignOn.Proofs.Ace.Preparation
import SignOn.Proofs.Ace.Punycode

/-!
# Host names with a port at the end

A name with a port behind a colon has the same labels as the name alone, except that the colon and
the port belong to the last one. Main statement: its form is that of the name with the port at the
end just if the last label needs no Punycode and has room for the port
(`labelwise_append_port_iff`).
-/

set_option autoImplicit false

namespace SignOn.Ace

/-- Only decimal digits and hyphens, as in the text of a number. -/
def IsNumeral (port : List Char) : Prop := ∀ c ∈ port, c.isDigit = true ∨ c = '-'

/-- The form of a label that needs no Punycode: the label itself if it is ASCII, or what it is
prepared to, if that is. -/
def plainForm? (label : List Char) : Option (List Char) :=
  if isAscii label then some label
  else
    match preparedLabel label with
    | .ok prepared => if isAscii prepared then some prepared else none
    | .error _ => none

/-- A label needs no Punycode and has room for an ending. -/
def HasRoomFor (ending label : List Char) : Prop :=
  ∃ form, plainForm? label = some form ∧ form.length + ending.length < 64

/-- The plain form is ASCII, and it is the label or what a label beyond ASCII is prepared to. -/
theorem plainForm?_eq_some_iff {label plain : List Char} :
    plainForm? label = some plain ↔ isAscii plain = true ∧
      (label = plain ∨ isAscii label = false ∧ preparedLabel label = .ok plain) := by
  unfold plainForm?
  cases ascii : isAscii label with
  | true =>
    simp only [if_true, Option.some.injEq, Bool.true_eq_false, false_and, or_false]
    constructor
    · rintro rfl
      exact ⟨ascii, rfl⟩
    · exact And.right
  | false =>
    have apart : isAscii plain = true → label ≠ plain := by
      rintro plain_ascii rfl
      rw [ascii] at plain_ascii
      cases plain_ascii
    cases preparedLabel label with
    | error error => simpa using apart
    | ok prepared =>
      simp only [Bool.false_eq_true, if_false, Option.ite_none_right_eq_some, Option.some.injEq,
        Except.ok.injEq, true_and]
      constructor
      · rintro ⟨plain_ascii, rfl⟩
        exact ⟨plain_ascii, .inr rfl⟩
      · rintro ⟨plain_ascii, same⟩
        obtain rfl := same.resolve_left (apart plain_ascii)
        exact ⟨plain_ascii, rfl⟩

/-- What a label without a plain form is prepared to is not ASCII either. -/
theorem of_plainForm?_eq_none {label : List Char} (punycoded : plainForm? label = none) :
    isAscii label = false ∧
      ∀ prepared, preparedLabel label = .ok prepared → isAscii prepared = false := by
  have no_plain : ∀ plain, plainForm? label ≠ some plain := by simp [punycoded]
  simp only [ne_eq, plainForm?_eq_some_iff, not_and, not_or] at no_plain
  have beyond : isAscii label = false := by
    rw [← Bool.not_eq_true]
    exact fun ascii => (no_plain label ascii).1 rfl
  refine ⟨beyond, fun prepared prepares => ?_⟩
  rw [← Bool.not_eq_true]
  exact fun ascii => (no_plain prepared ascii).2 beyond prepares

/-- A label passes the check of its length as it is, or not at all. -/
theorem sizedLabel_eq_ok_iff {label form : List Char} :
    sizedLabel label = .ok form ↔ form = label ∧ 0 < label.length ∧ label.length < 64 := by
  unfold sizedLabel
  split
  · rename_i sized
    rw [Except.ok.injEq]
    exact ⟨fun same => ⟨same.symm, sized⟩, fun same => same.1.symm⟩
  · rename_i not_sized
    refine ⟨fun impossible => ?_, fun sized => absurd sized.2 not_sized⟩
    cases impossible

/-- The form of a label that is not ASCII, once it is prepared. -/
theorem encodedLabel_of_preparedLabel {label prepared : List Char} (beyond : isAscii label = false)
    (prepares : preparedLabel label = .ok prepared) :
    encodedLabel label =
      if isAscii prepared then sizedLabel prepared
      else if encodedMark.isPrefixOf prepared then .error .reservedMark
      else sizedLabel (encodedMark ++ Punycode.encode (prepared.map Char.toNat)) := by
  rw [encodedLabel, beyond, prepares]
  rfl

/-- A label with a plain form is encoded as this form, if the length allows it. -/
theorem encodedLabel_of_plainForm? {label plain : List Char}
    (plain_form : plainForm? label = some plain) : encodedLabel label = sizedLabel plain := by
  obtain ⟨ascii, rfl | ⟨beyond, prepares⟩⟩ := plainForm?_eq_some_iff.mp plain_form
  · exact encodedLabel_of_isAscii ascii
  · rw [encodedLabel_of_preparedLabel beyond prepares, if_pos ascii]

section Port

variable {port : List Char} (numeral : IsNumeral port)

include numeral

/-- Behind a colon, a numeral leaves the colon, hyphens and digits only. -/
theorem IsNumeral.of_mem {c : Char} (member : c ∈ ':' :: port) :
    c = ':' ∨ c = '-' ∨ 48 ≤ c.toNat ∧ c.toNat ≤ 57 := by
  rcases List.mem_cons.mp member with colon | inside
  · exact .inl colon
  · rcases numeral c inside with digit | hyphen
    · simp only [Char.isDigit, Bool.and_eq_true, decide_eq_true_eq] at digit
      exact .inr (.inr ⟨digit.1, digit.2⟩)
    · exact .inr (.inl hyphen)

/-- Preparation does not change the characters of a port, nor the colon before it. -/
theorem IsNumeral.isInert : ∀ c ∈ ':' :: port, IsInert c := by
  intro c member
  unfold IsInert
  rcases numeral.of_mem member with rfl | rfl | digit
  · decide
  · decide
  · omega

/-- None of these characters separates labels. -/
theorem IsNumeral.isLabelSeparator_eq_false : ∀ c ∈ ':' :: port, isLabelSeparator c = false := by
  intro c member
  rw [← Bool.not_eq_true]
  intro separates
  have inert := (numeral.isInert c member).1
  have known := numeral.of_mem member
  simp only [isLabelSeparator, Bool.or_eq_true, beq_iff_eq] at separates
  rcases separates with ((rfl | rfl) | rfl) | rfl
  · revert known
    decide
  all_goals exact absurd inert (by decide)

/-- The only colon is the one before the port. -/
theorem IsNumeral.colon_not_mem : ':' ∉ port := by
  intro member
  rcases numeral ':' member with digit | hyphen
  · exact absurd digit (by decide)
  · cases hyphen

/-- A label that needs no Punycode needs none with a port either. -/
theorem plainForm?_append_port {label plain : List Char}
    (plain_form : plainForm? label = some plain) :
    plainForm? (label ++ ':' :: port) = some (plain ++ ':' :: port) := by
  have ascii_ending : isAscii (':' :: port) = true := by
    rw [isAscii, List.all_eq_true]
    exact fun c member => decide_eq_true (numeral.isInert c member).1
  rw [plainForm?_eq_some_iff] at plain_form ⊢
  obtain ⟨ascii, forms⟩ := plain_form
  refine ⟨by rw [isAscii_append, ascii, ascii_ending]; rfl, ?_⟩
  rcases forms with rfl | ⟨beyond, prepares⟩
  · exact .inl rfl
  · have longer := preparedLabel_append prepares numeral.isInert (List.cons_ne_nil ':' port)
    rw [not_rightToLeft_of_isAscii prepares ascii] at longer
    exact .inr ⟨by rw [isAscii_append, beyond]; rfl, longer⟩

/-- A label that needs Punycode is written in another way with a port: in its form a hyphen comes
behind the port. -/
theorem encodedLabel_append_port_ne {label form : List Char} (punycoded : plainForm? label = none)
    (forms : encodedLabel label = .ok form) :
    encodedLabel (label ++ ':' :: port) ≠ .ok (form ++ ':' :: port) := by
  obtain ⟨beyond, beyond_prepared⟩ := of_plainForm?_eq_none punycoded
  have beyond_longer : isAscii (label ++ ':' :: port) = false := by
    rw [isAscii_append, beyond]
    rfl
  cases prepares : preparedLabel label with
  | error error =>
    rw [encodedLabel, beyond, prepares] at forms
    cases forms
  | ok prepared =>
    have not_ascii := beyond_prepared prepared prepares
    rw [encodedLabel_of_preparedLabel beyond prepares, not_ascii,
      if_neg Bool.false_ne_true] at forms
    -- the longer label is refused for its direction, or it needs Punycode as well
    have longer := preparedLabel_append prepares numeral.isInert (List.cons_ne_nil ':' port)
    intro same
    split at forms
    · cases forms
    · rw [sizedLabel_eq_ok_iff] at forms
      split at longer
      · rw [encodedLabel, beyond_longer, longer] at same
        cases same
      · have not_ascii_longer : isAscii (prepared ++ ':' :: port) = false := by
          rw [isAscii_append, not_ascii]
          rfl
        rw [encodedLabel_of_preparedLabel beyond_longer longer, not_ascii_longer,
          if_neg Bool.false_ne_true] at same
        split at same
        · cases same
        · have written := (sizedLabel_eq_ok_iff.mp same).1
          rw [forms.1, List.append_assoc, List.append_cancel_left_eq, List.map_append] at written
          exact Punycode.encode_append_port_ne (prepared.map Char.toNat)
            (fun c member => (numeral.isInert c (List.mem_cons_of_mem _ member)).1)
            numeral.colon_not_mem written.symm

/-- Only where a label needs no Punycode the port stays apart from its form. -/
theorem lastForm_append_port_iff {label form : List Char} (forms : lastForm label = .ok form) :
    lastForm (label ++ ':' :: port) = .ok (form ++ ':' :: port) ↔
      HasRoomFor (':' :: port) label := by
  have full : label ++ ':' :: port ≠ [] :=
    List.append_ne_nil_of_right_ne_nil label (List.cons_ne_nil ':' port)
  rw [lastForm, if_neg full, HasRoomFor]
  rw [lastForm] at forms
  cases plain_form : plainForm? label with
  | none =>
    have nonempty : label ≠ [] := by
      rintro rfl
      cases plain_form
    rw [if_neg nonempty] at forms
    simpa using encodedLabel_append_port_ne numeral plain_form forms
  | some plain =>
    have form_eq : form = plain := by
      split at forms
      · rename_i empty
        rw [empty] at plain_form
        cases forms
        cases plain_form
        rfl
      · rw [encodedLabel_of_plainForm? plain_form, sizedLabel_eq_ok_iff] at forms
        exact forms.1
    rw [encodedLabel_of_plainForm? (plainForm?_append_port numeral plain_form), form_eq]
    simp only [sizedLabel_eq_ok_iff, List.length_append, List.length_cons, true_and,
      Option.some.injEq, exists_eq_left']
    omega

/-- A name with a port at its end has its form with the port just if the last label needs no
Punycode and has room for the port. -/
theorem labelwise_append_port_iff {name form : List Char} (forms : labelwise name = .ok form) :
    labelwise (name ++ ':' :: port) = .ok (form ++ ':' :: port) ↔
      HasRoomFor (':' :: port) (lastLabel name) := by
  have whole := numeral.isLabelSeparator_eq_false
  unfold labelwise at forms ⊢
  rw [earlierLabels_append whole, lastLabel_append whole]
  -- the earlier labels are the same with and without the port, so the last one decides
  cases encodes : (earlierLabels name).mapM encodedLabel with
  | error error =>
    rw [encodes] at forms
    cases forms
  | ok earlier =>
    rw [encodes] at forms
    cases last_forms : lastForm (lastLabel name) with
    | error error =>
      rw [last_forms] at forms
      cases forms
    | ok last =>
      rw [last_forms] at forms
      cases forms
      rw [← lastForm_append_port_iff numeral last_forms]
      cases lastForm (lastLabel name ++ ':' :: port) with
      | error error =>
        constructor <;> intro impossible <;> cases impossible
      | ok longer =>
        show Except.ok (earlier.flatMap (· ++ ['.']) ++ longer) =
          Except.ok (earlier.flatMap (· ++ ['.']) ++ last ++ ':' :: port) ↔ _
        rw [Except.ok.injEq, Except.ok.injEq, List.append_assoc, List.append_cancel_left_eq]

end Port

end SignOn.Ace
