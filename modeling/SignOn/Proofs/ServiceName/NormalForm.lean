import SignOn.Proofs.ServiceName.Reading

/-!
# Names written and read again

A name is written with its realm in upper case, whatever the case that it was read in, and that may
make the realm longer. The text is still cut at the same colon, as letter case makes no new places
for a cut (`cut_upper`). Main statement: what was read is read back from its own text, so writing
what was read gives a normal form, and so is every name whose realm holds no colon
(`text_read_back`).
-/

set_option autoImplicit false

namespace SignOn.ServiceName

open Text

/-! ## Cuts and letter case -/

/-- A text is a port just if it is one in upper case. -/
theorem isPort_flatMap_upperChar_iff {port : List Char} :
    IsPort (port.flatMap upperChar) ↔ IsPort port := by
  simp only [isPort_iff, ne_eq, flatMap_upperChar_eq_nil_iff,
    mem_flatMap_upperChar_iff isCaseless_colon, mem_flatMap_upperChar_iff isCaseless_at]

/-- A text is that of a realm just if it is one in upper case. -/
theorem isRealmText_flatMap_upperChar_iff {name : List Char} :
    IsRealmText (name.flatMap upperChar) ↔ IsRealmText name := by
  simp only [IsRealmText, ne_eq, flatMap_upperChar_eq_nil_iff,
    mem_flatMap_upperChar_iff isCaseless_newline]

/-- What is a port and a realm in upper case was a port and a realm before. -/
theorem exists_realmPart_of_upper {chars port : List Char} {realm : Option (List Char)}
    (split : chars.flatMap upperChar = port ++ realmPart realm) (isPort : IsPort port)
    (isRealmText : ∀ name ∈ realm, IsRealmText name) :
    ∃ port' realm', chars = port' ++ realmPart realm' ∧ IsPort port' ∧
      ∀ name ∈ realm', IsRealmText name := by
  cases realm with
  | none =>
    refine ⟨chars, none, by simp [realmPart], ?_, nofun⟩
    rw [← isPort_flatMap_upperChar_iff, split]
    simpa [realmPart] using isPort
  | some name =>
    obtain ⟨port', name', rfl, rfl, rfl⟩ := exists_split_of_flatMap_upperChar isCaseless_at split
    refine ⟨port', some name', rfl, isPort_flatMap_upperChar_iff.mp isPort, ?_⟩
    rintro _ ⟨⟩
    exact isRealmText_flatMap_upperChar_iff.mp (isRealmText _ rfl)

/-- A cut in a realm in upper case is one in the realm as it was written. -/
theorem Cuts.exists_of_upper {first name middle port : List Char} {realm : Option (List Char)}
    (cuts : Cuts (first ++ name.flatMap upperChar) (first ++ middle) port realm) :
    ∃ middle' port' realm', Cuts (first ++ name) (first ++ middle') port' realm' := by
  have split := cuts.text_eq
  rw [List.append_assoc] at split
  obtain ⟨written, rest, rfl, rfl, parts⟩ :=
    exists_split_of_flatMap_upperChar isCaseless_colon (List.append_cancel_left split)
  obtain ⟨port', realm', rfl, isPort, isRealmText⟩ :=
    exists_realmPart_of_upper parts cuts.port cuts.realm
  have line := cuts.host
  rw [List.mem_append, mem_flatMap_upperChar_iff isCaseless_newline, ← List.mem_append] at line
  exact ⟨written, port', realm', by simp, line, isPort, isRealmText⟩

/-- No cut of a text has a longer host because the realm is put into upper case. -/
theorem Cuts.length_le_of_upper {host port name other otherPort : List Char}
    {otherRealm : Option (List Char)} (isPort : IsPort port)
    (longest : ∀ other otherPort otherRealm,
      Cuts (host ++ ':' :: (port ++ '@' :: name)) other otherPort otherRealm →
        other.length ≤ host.length)
    (others : Cuts (host ++ ':' :: (port ++ '@' :: name.flatMap upperChar)) other otherPort
      otherRealm) :
    other.length ≤ host.length := by
  have inRealm : ∀ middle, other ≠ (host ++ ':' :: (port ++ ['@'])) ++ middle := by
    rintro middle rfl
    have text_eq : host ++ ':' :: (port ++ '@' :: name.flatMap upperChar) =
        (host ++ ':' :: (port ++ ['@'])) ++ name.flatMap upperChar := by simp
    rw [text_eq] at others
    obtain ⟨middle', port', realm', again⟩ := others.exists_of_upper
    have shorter := longest _ port' realm' (by simpa using again)
    simp only [List.length_append, List.length_cons] at shorter
    omega
  have split : (host ++ ':' :: (port ++ ['@'])) ++ name.flatMap upperChar =
      other ++ ':' :: (otherPort ++ realmPart otherRealm) := by
    rw [← others.text_eq]
    simp
  rcases List.append_eq_append_iff.mp split with ⟨middle, other_eq, _⟩ | ⟨middle, first_eq, rest⟩
  · exact absurd other_eq (inRealm middle)
  · cases middle with
    | nil => exact absurd (by simpa using first_eq.symm) (inRealm [])
    | cons c middle =>
      obtain ⟨rfl, _⟩ := List.cons.inj rest
      have colonless : ':' ∉ port ++ ['@'] := by
        simp [(isPort_iff.mp isPort).2.1]
      exact length_le_of_last_colon first_eq.symm colonless

/-- A text is cut at the same colon if its realm is put into upper case. -/
theorem cut_upper {rest host port : List Char} {realm : Option (List Char)}
    (found : cut rest = some (host, port, realm)) :
    cut (host ++ ':' :: (port ++ realmPart (realm.map (List.flatMap upperChar)))) =
      some (host, port, realm.map (List.flatMap upperChar)) := by
  obtain ⟨cuts, longest⟩ := cut_eq_some_iff.mp found
  have texts : ∀ name ∈ realm.map (List.flatMap upperChar), IsRealmText name := by
    intro name member
    obtain ⟨written, given, rfl⟩ := Option.map_eq_some_iff.mp member
    exact isRealmText_flatMap_upperChar_iff.mpr (cuts.realm written given)
  refine cut_eq_some_iff.mpr ⟨⟨rfl, cuts.host, cuts.port, texts⟩, ?_⟩
  intro other otherPort otherRealm others
  rw [cuts.text_eq] at longest
  cases realm with
  | none => exact longest _ _ _ others
  | some name => exact others.length_le_of_upper cuts.port longest

/-- The realm that a text names is the one that its upper case form names. -/
theorem ofText_flatMap_upperChar (name : List Char) :
    Realm.ofText (String.ofList (name.flatMap upperChar)) = .ofText (String.ofList name) := by
  have form :
      String.ofList (name.flatMap upperChar) = (Realm.ofText (String.ofList name)).name := by
    simp [upper]
  rw [form, Realm.ofText_name]

/-- What is read from a text is read back from its own text. -/
theorem parse?_text_of_parse? {text : String} {name : ServiceName}
    (found : parse? text = some name) : parse? name.text = some name := by
  obtain ⟨rest, host, port, realm, _, cutting, rfl⟩ := parse?_eq_some_iff.mp found
  refine parse?_eq_some_iff.mpr ⟨_, _, _, _, ?_, cut_upper cutting, ?_⟩
  · rw [toList_text, afterService_databaseService]
    cases realm <;> simp [Realm.text, upper]
  · cases realm with
    | none => rfl
    | some name => simp [ofText_flatMap_upperChar]

/-- A name that keeps to the form of its parts, with no colon in its realm, is read back from its
text; and so is every name that was read, from whatever text. -/
theorem text_read_back (name : ServiceName) :
    (name.IsReadable → parse? name.text = some name) ∧
      ∀ text, parse? text = some name → parse? name.text = some name :=
  ⟨parse?_text, fun _ => parse?_text_of_parse?⟩

/-- A host with colons and at signs and a realm that becomes longer are read back; so is a realm
with colons behind a port with a line end, which keeps them from counting. -/
theorem long_realms_read_back :
    (IsReadable ⟨"a:b@c", "1\n3", some (.ofText "straße"), databaseService⟩ ∧
      parse? "MSSQLSvc/a:b@c:1\n3@STRASSE" =
        some ⟨"a:b@c", "1\n3", some (.ofText "straße"), databaseService⟩) ∧
    parse? "mſsqlsvc/a:1\n3@ß:x@y" =
        some ⟨"a", "1\n3", some (.ofText "ß:x@y"), databaseService⟩ ∧
      parse? "MSSQLSvc/a:1\n3@SS:X@Y" =
        some ⟨"a", "1\n3", some (.ofText "ß:x@y"), databaseService⟩ := by
  have readable : IsReadable ⟨"a:b@c", "1\n3", some (.ofText "straße"), databaseService⟩ := by
    refine ⟨rfl, by decide, isPort_iff.mpr (by decide), ?_⟩
    rintro _ ⟨⟩
    unfold IsRealmText
    decide +kernel
  have found : parse? "mſsqlsvc/a:1\n3@ß:x@y" =
      some ⟨"a", "1\n3", some (.ofText "ß:x@y"), databaseService⟩ := by
    decide +kernel
  have written : text ⟨"a:b@c", "1\n3", some (.ofText "straße"), databaseService⟩ =
      "MSSQLSvc/a:b@c:1\n3@STRASSE" := by
    decide +kernel
  have rewritten : text ⟨"a", "1\n3", some (.ofText "ß:x@y"), databaseService⟩ =
      "MSSQLSvc/a:1\n3@SS:X@Y" := by
    decide +kernel
  rw [← written, ← rewritten]
  exact ⟨⟨readable, (text_read_back _).1 readable⟩, found,
    (text_read_back _).2 _ found⟩

end SignOn.ServiceName
