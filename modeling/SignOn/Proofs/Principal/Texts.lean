import SignOn.Principal
import SignOn.Proofs.Text.Caseless

/-!
# The texts of principals

A text is read as a principal by cutting it at its last `@` (`CutsAtLast`): what stands before is
the name, which may hold further ones, and what stands behind names the realm. Upper-casing a realm
may make it longer, but neither adds nor removes an `@`, so the text of a principal is cut where its
realm begins. Main statement: a text with a name before its last `@` is read, is written with its
realm in upper case, and is then read as the same principal (`written_and_read_back`).
-/

set_option autoImplicit false

namespace SignOn.Principal

open Text

/-! ## Cutting a text at its last separator -/

/-- A text is cut at its last `@`, if it has one. -/
theorem splitAtLast_cases (text : List Char) :
    (splitAtLast text = none ∧ '@' ∉ text) ∨
      ∃ before after, splitAtLast text = some (before, after) ∧ text = before ++ '@' :: after ∧
        '@' ∉ after := by
  induction text with
  | nil => exact .inl ⟨rfl, List.not_mem_nil⟩
  | cons c rest ih =>
    rcases ih with ⟨uncut, absent⟩ | ⟨before, after, split, rest_eq, last⟩
    · by_cases separator : c = '@'
      · exact .inr ⟨[], rest, by simp [splitAtLast, uncut, separator], by simp [separator], absent⟩
      · exact .inl ⟨by simp [splitAtLast, uncut, separator], by simp [absent, Ne.symm separator]⟩
    · exact .inr ⟨c :: before, after, by simp [splitAtLast, split], by simp [rest_eq], last⟩

/-- A text without an `@` has no last one. -/
theorem splitAtLast_of_not_mem {text : List Char} (absent : '@' ∉ text) :
    splitAtLast text = none := by
  rcases splitAtLast_cases text with ⟨uncut, _⟩ | ⟨before, after, _, rfl, _⟩
  · exact uncut
  · simp at absent

/-- A text is cut at an `@` that has none behind it. -/
theorem splitAtLast_append {after : List Char} (last : '@' ∉ after) (before : List Char) :
    splitAtLast (before ++ '@' :: after) = some (before, after) := by
  induction before with
  | nil => simp [splitAtLast, splitAtLast_of_not_mem last]
  | cons c before ih => simp [splitAtLast, ih]

/-- What stands in a text before its last `@`, and what stands behind it. -/
structure CutsAtLast (text before after : String) : Prop where
  text_eq : text = before ++ "@" ++ after
  unseparated : '@' ∉ after.toList

namespace CutsAtLast

variable {text before after : String}

/-- The cut at the last `@` finds the two parts. -/
theorem splitAtLast_eq (cuts : CutsAtLast text before after) :
    splitAtLast text.toList = some (before.toList, after.toList) := by
  have chars : text.toList = before.toList ++ '@' :: after.toList := by
    rw [cuts.text_eq]
    simp
  rw [chars, splitAtLast_append cuts.unseparated]

/-- There is one way only to cut a text at its last `@`. -/
theorem unique {before' after' : String} (cuts : CutsAtLast text before after)
    (again : CutsAtLast text before' after') : before = before' ∧ after = after' := by
  have same := cuts.splitAtLast_eq.symm.trans again.splitAtLast_eq
  simpa [String.toList_inj] using same

end CutsAtLast

/-- The texts that can be cut are those with an `@`. -/
theorem exists_cutsAtLast {text : String} (separated : '@' ∈ text.toList) :
    ∃ before after, CutsAtLast text before after := by
  rcases splitAtLast_cases text.toList with ⟨_, absent⟩ | ⟨before, after, _, text_eq, last⟩
  · exact absurd separated absent
  · refine ⟨.ofList before, .ofList after, ?_, by rwa [String.toList_ofList]⟩
    rw [← String.toList_inj, text_eq]
    simp

/-- The last `@` of a text is its first character: the text is a realm with an `@` before it and
nothing else. -/
def IsBareRealm (text : String) : Prop := ∃ realm : String, '@' ∉ realm.toList ∧ text = "@" ++ realm

/-- A text is a bare realm if it is cut into nothing and something. -/
theorem isBareRealm_iff {text : String} : IsBareRealm text ↔ ∃ realm, CutsAtLast text "" realm := by
  constructor
  · rintro ⟨realm, last, rfl⟩
    exact ⟨realm, by simp, last⟩
  · rintro ⟨realm, text_eq, last⟩
    exact ⟨realm, last, by simpa using text_eq⟩

/-- Where it is known how a text is cut, it is a bare realm just if nothing stands before the
cut. -/
theorem CutsAtLast.isBareRealm_iff {text before after : String}
    (cuts : CutsAtLast text before after) : IsBareRealm text ↔ before = "" := by
  rw [Principal.isBareRealm_iff]
  constructor
  · rintro ⟨realm, again⟩
    exact (cuts.unique again).1
  · rintro rfl
    exact ⟨after, cuts⟩

/-! ## Reading -/

/-- Without an `@` there is no realm, and no principal is read. -/
theorem parse_of_not_mem {text : String} (absent : '@' ∉ text.toList) :
    parse text = .error (.principalWithoutRealm text) := by
  simp [parse, splitAtLast_of_not_mem absent]

namespace CutsAtLast

variable {text before after : String}

/-- What stands before the last `@` is the name, and what stands behind it names the realm. -/
theorem parse_eq_ok (cuts : CutsAtLast text before after) (named : before ≠ "") :
    parse text = .ok ⟨before, .ofText after, named⟩ := by
  simp [parse, cuts.splitAtLast_eq, named]

/-- A bare realm is not read as a principal, for want of a name. -/
theorem parse_eq_error (cuts : CutsAtLast text "" after) :
    parse text = .error .emptyPrincipalName := by
  simp [parse, cuts.splitAtLast_eq]

end CutsAtLast

/-- A text with an `@` is read as a principal, unless there is nothing before its realm. -/
theorem parse_cases {text : String} (separated : '@' ∈ text.toList) :
    (IsBareRealm text ∧ parse text = .error .emptyPrincipalName) ∨
      (¬ IsBareRealm text ∧ ∃ principal, parse text = .ok principal) := by
  obtain ⟨before, after, cuts⟩ := exists_cutsAtLast separated
  rw [cuts.isBareRealm_iff]
  by_cases named : before = ""
  · subst named
    exact .inl ⟨rfl, cuts.parse_eq_error⟩
  · exact .inr ⟨named, _, cuts.parse_eq_ok named⟩

/-- A principal is read in the texts that are cut at its name and in which its realm follows, in
whatever case. -/
theorem parse_eq_ok_iff {text : String} {principal : Principal} :
    parse text = .ok principal ↔
      ∃ realm, CutsAtLast text principal.name realm ∧ principal.realm = .ofText realm := by
  constructor
  · intro parsed
    by_cases separated : '@' ∈ text.toList
    · obtain ⟨before, after, cuts⟩ := exists_cutsAtLast separated
      by_cases named : before = ""
      · subst named
        rw [cuts.parse_eq_error] at parsed
        cases parsed
      · rw [cuts.parse_eq_ok named] at parsed
        cases parsed
        exact ⟨after, cuts, rfl⟩
    · rw [parse_of_not_mem separated] at parsed
      cases parsed
  · rintro ⟨realm, cuts, realm_eq⟩
    rw [cuts.parse_eq_ok principal.name_ne, ← realm_eq]

/-! ## Reading and writing -/

/-- A principal is written as it was read, with its realm in upper case. -/
theorem text_of_parse {text before after : String} {principal : Principal}
    (cuts : CutsAtLast text before after) (parsed : parse text = .ok principal) :
    principal.text = before ++ "@" ++ upper after := by
  obtain ⟨realm, again, realm_eq⟩ := parse_eq_ok_iff.mp parsed
  obtain ⟨rfl, rfl⟩ := cuts.unique again
  rw [Principal.text, realm_eq]
  rfl

/-- A principal that was read has no `@` in its realm. -/
theorem not_mem_realm_of_parse {text : String} {principal : Principal}
    (parsed : parse text = .ok principal) : '@' ∉ principal.realm.name.toList := by
  obtain ⟨realm, cuts, realm_eq⟩ := parse_eq_ok_iff.mp parsed
  rw [realm_eq, Realm.name_ofText, mem_upper_iff isCaseless_at]
  exact cuts.unseparated

/-- The principals that are read back from their texts are those with no `@` in their realm. -/
theorem parse_text_iff (principal : Principal) :
    parse principal.text = .ok principal ↔ '@' ∉ principal.realm.name.toList := by
  refine ⟨not_mem_realm_of_parse, fun absent => parse_eq_ok_iff.mpr ?_⟩
  exact ⟨principal.realm.name, ⟨rfl, absent⟩, (Realm.ofText_name _).symm⟩

/-- A text is read as a principal if it has an `@` and the last one is not its first character. The
principal is written as that text with everything behind the last `@` in upper case, and is read
back from there. Every principal with no `@` in its realm, and no other one, is read back from its
text, however many there are in its name. -/
theorem written_and_read_back :
    (∀ text, (∃ principal, parse text = .ok principal) ↔
      '@' ∈ text.toList ∧ ¬ IsBareRealm text) ∧
    (∀ text principal, parse text = .ok principal →
      ∃ before after, CutsAtLast text before after ∧
        principal.text = before ++ "@" ++ upper after ∧
        parse principal.text = .ok principal) ∧
    ∀ principal, parse principal.text = .ok principal ↔
      '@' ∉ principal.realm.name.toList := by
  refine ⟨fun text => ⟨?readable, ?reads⟩, ?written, parse_text_iff⟩
  case readable =>
    rintro ⟨principal, parsed⟩
    obtain ⟨realm, cuts, _⟩ := parse_eq_ok_iff.mp parsed
    rw [cuts.isBareRealm_iff]
    exact ⟨by simp [cuts.text_eq], principal.name_ne⟩
  case reads =>
    rintro ⟨separated, named⟩
    rcases parse_cases separated with ⟨bare, _⟩ | ⟨_, found⟩
    · exact absurd bare named
    · exact found
  case written =>
    intro text principal parsed
    obtain ⟨realm, cuts, _⟩ := parse_eq_ok_iff.mp parsed
    exact ⟨principal.name, realm, cuts, text_of_parse cuts parsed,
      (parse_text_iff principal).mpr (not_mem_realm_of_parse parsed)⟩

/-- A name with an `@` in it and a realm that becomes longer are written and read back. -/
theorem longer_realm_read_back :
    parse "svc@node@straße.de" = .ok ⟨"svc@node", .ofText "straße.de", by decide⟩ ∧
      parse "svc@node@STRASSE.DE" = .ok ⟨"svc@node", .ofText "straße.de", by decide⟩ := by
  have cuts : CutsAtLast "svc@node@straße.de" "svc@node" "straße.de" := ⟨by decide, by decide⟩
  have parsed := cuts.parse_eq_ok (by decide)
  obtain ⟨before, after, again, written, readBack⟩ := written_and_read_back.2.1 _ _ parsed
  obtain ⟨rfl, rfl⟩ := cuts.unique again
  have upper_realm : upper "straße.de" = "STRASSE.DE" := by decide +kernel
  rw [written, upper_realm] at readBack
  exact ⟨parsed, readBack⟩

end SignOn.Principal
