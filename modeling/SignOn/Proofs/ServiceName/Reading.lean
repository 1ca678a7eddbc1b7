import SignOn.Proofs.Text.Caseless
import SignOn.ServiceName.Derived

/-!
# Reading service principal names

What follows the service part of a name is cut at a colon into a host and a port, with a realm
behind the port if there is one (`Cuts`). A text may have several such cuts, as hosts and realms may
hold colons; `cut` finds the one with the longest host (`cut_eq_some_iff`). A name whose realm holds
no colon is therefore read back from its own text (`parse?_text`), and a text that ends with an at
sign and something without a colon is never read as a name without a realm
(`realm_isSome_of_parse?`).
-/

set_option autoImplicit false

namespace SignOn.ServiceName

open Text

/-! ## Ports and realms -/

/-- What may stand for a port: at least one character, and neither a colon nor an at sign. -/
def IsPort (port : List Char) : Prop := port ≠ [] ∧ ∀ c ∈ port, isPortChar c = true

/-- What may stand for a realm: one line that is not empty. -/
def IsRealmText (name : List Char) : Prop := name ≠ [] ∧ '\n' ∉ name

/-- What follows the port: nothing, or an at sign and the text of a realm. -/
def realmPart : Option (List Char) → List Char
  | none => []
  | some name => '@' :: name

/-- A port has neither colons nor at signs. -/
theorem isPortChar_iff (c : Char) : isPortChar c = true ↔ c ≠ ':' ∧ c ≠ '@' := by
  simp only [isPortChar, Bool.and_eq_true, bne_iff_ne]

/-- A port ends at the end of the text or at an at sign. -/
theorem takeWhile_realmPart (realm : Option (List Char)) :
    (realmPart realm).takeWhile isPortChar = [] := by
  cases realm <;> rfl

/-- The part of the realm begins with a character that no port has. -/
theorem dropWhile_realmPart (realm : Option (List Char)) :
    (realmPart realm).dropWhile isPortChar = realmPart realm := by
  cases realm <;> rfl

/-- Port and realm are found exactly where the text is made of them. -/
theorem portAndRealm_eq_some_iff {text port : List Char} {realm : Option (List Char)} :
    portAndRealm text = some (port, realm) ↔
      text = port ++ realmPart realm ∧ IsPort port ∧ ∀ name ∈ realm, IsRealmText name := by
  constructor
  · intro found
    have whole := List.takeWhile_append_dropWhile (p := isPortChar) (l := text)
    have chars : ∀ c ∈ text.takeWhile isPortChar, isPortChar c = true :=
      List.all_eq_true.mp List.all_takeWhile
    simp only [portAndRealm] at found
    split at found
    · cases found
    · rename_i nonempty
      have isPort : IsPort (text.takeWhile isPortChar) := by
        refine ⟨?_, chars⟩
        simpa using nonempty
      split at found
      · rename_i rest
        cases found
        rw [rest] at whole
        exact ⟨whole.symm, isPort, fun name member => by cases member⟩
      · rename_i name rest
        split at found
        · cases found
        · rename_i line
          cases found
          rw [rest] at whole
          refine ⟨whole.symm, isPort, fun other member => ?_⟩
          cases member
          simpa [IsRealmText] using line
      · cases found
  · rintro ⟨rfl, ⟨port_ne, chars⟩, lines⟩
    have port_eq : (port ++ realmPart realm).takeWhile isPortChar = port := by
      rw [List.takeWhile_append_of_pos chars, takeWhile_realmPart, List.append_nil]
    have rest_eq : (port ++ realmPart realm).dropWhile isPortChar = realmPart realm := by
      rw [List.dropWhile_append_of_pos chars, dropWhile_realmPart]
    have nonempty : port.isEmpty = false := List.isEmpty_eq_false_iff.mpr port_ne
    simp only [portAndRealm, port_eq, rest_eq, nonempty]
    cases realm with
    | none => rfl
    | some name =>
      obtain ⟨name_ne, line⟩ := lines name rfl
      simp [realmPart, name_ne, line]

/-! ## Cuts -/

/-- A text is a host, a colon, a port, and a realm if there is one. -/
structure Cuts (text host port : List Char) (realm : Option (List Char)) : Prop where
  text_eq : text = host ++ ':' :: (port ++ realmPart realm)
  host : '\n' ∉ host
  port : IsPort port
  realm : ∀ name ∈ realm, IsRealmText name

/-- Behind the colon of a cut its port and its realm are read. -/
theorem Cuts.portAndRealm_eq {text host port rest : List Char} {realm : Option (List Char)}
    (cuts : Cuts text host port realm) (split : text = host ++ ':' :: rest) :
    portAndRealm rest = some (port, realm) := by
  rw [cuts.text_eq] at split
  have rest_eq : port ++ realmPart realm = rest :=
    (List.cons.inj (List.append_cancel_left split)).2
  exact portAndRealm_eq_some_iff.mpr ⟨rest_eq.symm, cuts.port, cuts.realm⟩

/-- Where a text is cut, it is made of the parts found. -/
theorem cuts_of_cut {text host port : List Char} {realm : Option (List Char)}
    (found : cut text = some (host, port, realm)) : Cuts text host port realm := by
  induction text generalizing host with
  | nil => cases found
  | cons c rest ih =>
    rw [cut] at found
    -- a cut further behind is preferred, so the colon here counts only if there is none
    split at found
    · rename_i later laterPort laterRealm inner
      cases found
      split at inner
      · cases inner
      · rename_i line
        have cuts := ih inner
        refine ⟨?_, ?_, cuts.port, cuts.realm⟩
        · rw [cuts.text_eq]
          rfl
        · rw [List.mem_cons, not_or]
          exact ⟨fun newline => line newline.symm, cuts.host⟩
    · split at found
      · rename_i colon
        obtain ⟨⟨port', realm'⟩, here, same⟩ := Option.map_eq_some_iff.mp found
        cases same
        obtain ⟨rest_eq, isPort, lines⟩ := portAndRealm_eq_some_iff.mp here
        refine ⟨?_, List.not_mem_nil, isPort, lines⟩
        rw [colon, ← rest_eq]
        rfl
      · cases found

/-- A text that can be cut is cut with a host that is at least as long. -/
theorem Cuts.exists_cut {text host port : List Char} {realm : Option (List Char)}
    (cuts : Cuts text host port realm) :
    ∃ found, cut text = some found ∧ host.length ≤ found.1.length := by
  induction text generalizing host with
  | nil =>
    have nothing := cuts.text_eq
    cases host <;> cases nothing
  | cons c rest ih =>
    cases host with
    | nil =>
      obtain ⟨colon, rest_eq⟩ := List.cons.inj cuts.text_eq
      have here := portAndRealm_eq_some_iff.mpr ⟨rest_eq, cuts.port, cuts.realm⟩
      rw [cut]
      split
      · exact ⟨_, rfl, Nat.zero_le _⟩
      · rw [if_pos colon, here]
        exact ⟨_, rfl, Nat.zero_le _⟩
    | cons first others =>
      obtain ⟨rfl, rest_eq⟩ := List.cons.inj cuts.text_eq
      obtain ⟨newline, line⟩ := not_or.mp (mt List.mem_cons.mpr cuts.host)
      obtain ⟨⟨later, found⟩, inner, longer⟩ := ih ⟨rest_eq, line, cuts.port, cuts.realm⟩
      rw [cut, if_neg (fun same => newline same.symm), inner]
      exact ⟨_, rfl, Nat.succ_le_succ longer⟩

/-- A cut is known by the length of its host. -/
theorem Cuts.unique {text host port other otherPort : List Char}
    {realm otherRealm : Option (List Char)} (cuts : Cuts text host port realm)
    (others : Cuts text other otherPort otherRealm) (same : host.length = other.length) :
    (host, port, realm) = (other, otherPort, otherRealm) := by
  have split := others.text_eq
  rw [cuts.text_eq] at split
  obtain ⟨rfl, _⟩ := List.append_inj split same
  have found := cuts.portAndRealm_eq others.text_eq
  rw [portAndRealm_eq_some_iff.mpr ⟨rfl, others.port, others.realm⟩] at found
  cases found
  rfl

/-- A text is cut where its host is as long as it can be. -/
theorem cut_eq_some_iff {text host port : List Char} {realm : Option (List Char)} :
    cut text = some (host, port, realm) ↔
      Cuts text host port realm ∧
        ∀ other otherPort otherRealm, Cuts text other otherPort otherRealm →
          other.length ≤ host.length := by
  constructor
  · intro found
    refine ⟨cuts_of_cut found, ?_⟩
    intro other otherPort otherRealm cuts
    obtain ⟨longest, found', longer⟩ := cuts.exists_cut
    rw [found] at found'
    cases found'
    exact longer
  · rintro ⟨cuts, longest⟩
    obtain ⟨⟨other, otherPort, otherRealm⟩, found, longer⟩ := cuts.exists_cut
    have others := cuts_of_cut found
    rw [found, cuts.unique others (Nat.le_antisymm longer (longest _ _ _ others))]

/-- No colon comes behind the last one. -/
theorem length_le_of_last_colon {host last other rest : List Char}
    (split : other ++ ':' :: rest = host ++ ':' :: last) (colonless : ':' ∉ last) :
    other.length ≤ host.length := by
  rcases List.append_eq_append_iff.mp split with ⟨middle, rfl, _⟩ | ⟨middle, rfl, rest_eq⟩
  · simp
  · cases middle with
    | nil => simp
    | cons c middle =>
      obtain ⟨_, last_eq⟩ := List.cons.inj rest_eq
      simp [last_eq] at colonless

/-- A port is not empty and has neither colons nor at signs. -/
theorem isPort_iff {port : List Char} : IsPort port ↔ port ≠ [] ∧ ':' ∉ port ∧ '@' ∉ port := by
  have chars : (∀ c ∈ port, isPortChar c = true) ↔ ':' ∉ port ∧ '@' ∉ port := by
    simp only [isPortChar_iff]
    grind
  rw [IsPort, chars]

/-- The decimal text of a number has digits only, but for the sign. -/
theorem isDigit_or_hyphen_of_mem_toString (number : Int) :
    ∀ c ∈ (toString number).toList, c.isDigit = true ∨ c = '-' := by
  have digits : ∀ n : Nat, ∀ c ∈ n.repr.toList, c.isDigit = true := by
    intro n c member
    rw [Nat.toList_repr] at member
    exact Nat.isDigit_of_mem_toDigits (by decide) (by decide) member
  intro c member
  rw [Int.toString_eq_repr, Int.repr_eq_if] at member
  split at member
  · exact .inl (digits _ c member)
  · rw [String.toList_append, List.mem_append] at member
    rcases member with sign | digit
    · exact .inr (List.mem_singleton.mp sign)
    · exact .inl (digits _ c digit)

/-- The text of a number is not empty. -/
theorem toString_ne_nil (number : Int) : (toString number).toList ≠ [] := by
  have digits : ∀ n : Nat, n.repr.toList ≠ [] := by
    intro n
    rw [Nat.toList_repr]
    exact Nat.toDigits_ne_nil
  rw [Int.toString_eq_repr, Int.repr_eq_if]
  split
  · exact digits _
  · simp

/-- A text whose last colon stands before the port is cut there. -/
theorem Cuts.cut_eq {text host port : List Char} {realm : Option (List Char)}
    (cuts : Cuts text host port realm) (last : ':' ∉ realmPart realm) :
    cut text = some (host, port, realm) := by
  refine cut_eq_some_iff.mpr ⟨cuts, ?_⟩
  intro other otherPort otherRealm others
  have split := cuts.text_eq
  rw [others.text_eq] at split
  have colonless : ':' ∉ port ++ realmPart realm := by
    simp [last, (isPort_iff.mp cuts.port).2.1]
  exact length_le_of_last_colon split colonless

/-! ## Names and their texts -/

/-- Nothing but the service part in some case stands before what follows it. -/
theorem eq_append_of_afterService {text rest : List Char} (found : afterService text = some rest) :
    ∃ service, text = service ++ rest := by
  have strips : ∀ {letters text rest}, afterService.strip letters text = some rest →
      ∃ service, text = service ++ rest := by
    intro letters
    induction letters with
    | nil =>
      intro text rest found
      rw [afterService.strip] at found
      cases found
      exact ⟨[], rfl⟩
    | cons letter letters ih =>
      intro text rest found
      cases text with
      | nil => cases found
      | cons c others =>
        rw [afterService.strip] at found
        split at found
        · obtain ⟨service, rfl⟩ := ih found
          exact ⟨c :: service, rfl⟩
        · cases found
  exact strips found

/-- The service part is found where it stands. -/
theorem afterService_databaseService (rest : List Char) :
    afterService (databaseService.toList ++ '/' :: rest) = some rest := by
  simp [afterService, afterService.strip, databaseService, foldsTo]

/-- The characters of the text of a name. -/
theorem toList_text (name : ServiceName) :
    name.text.toList = name.service.toList ++ '/' :: (name.host.toList ++ ':' ::
      (name.portOrInstance.toList ++ realmPart (name.realm.map (·.text.toList)))) := by
  unfold text
  cases name.realm <;> simp [String.toList_append, realmPart]

/-- How a text is read as a name. -/
theorem parse?_eq_some_iff {text : String} {name : ServiceName} :
    parse? text = some name ↔
      ∃ rest host port realm, afterService text.toList = some rest ∧
        cut rest = some (host, port, realm) ∧
        name = ⟨String.ofList host, String.ofList port,
          realm.map (fun name => .ofText (String.ofList name)), databaseService⟩ := by
  simp only [parse?, Option.bind_eq_bind, Option.bind_eq_some_iff, Prod.exists]
  constructor
  · rintro ⟨rest, service, host, port, realm, found, same⟩
    exact ⟨rest, host, port, realm, service, found, (Option.some.inj same).symm⟩
  · rintro ⟨rest, host, port, realm, service, found, rfl⟩
    exact ⟨rest, service, host, port, realm, found, rfl⟩

/-- What the parts of a name keep to if it is to be read back from its text. -/
structure IsReadable (name : ServiceName) : Prop where
  service : name.service = databaseService
  host : '\n' ∉ name.host.toList
  port : IsPort name.portOrInstance.toList
  realm : ∀ realm ∈ name.realm, IsRealmText realm.text.toList ∧ ':' ∉ realm.text.toList

/-- A name is read back from its own text. -/
theorem parse?_text {name : ServiceName} (readable : name.IsReadable) :
    parse? name.text = some name := by
  have cuts : Cuts (name.host.toList ++ ':' :: (name.portOrInstance.toList ++
      realmPart (name.realm.map (·.text.toList)))) name.host.toList name.portOrInstance.toList
      (name.realm.map (·.text.toList)) := by
    refine ⟨rfl, readable.host, readable.port, ?_⟩
    intro text member
    obtain ⟨realm, given, rfl⟩ := Option.map_eq_some_iff.mp member
    exact (readable.realm realm given).1
  have last : ':' ∉ realmPart (name.realm.map (·.text.toList)) := by
    cases given : name.realm with
    | none => exact List.not_mem_nil
    | some realm =>
      simpa [realmPart] using (readable.realm realm given).2
  refine parse?_eq_some_iff.mpr ⟨_, _, _, _, ?_, cuts.cut_eq last, ?_⟩
  · rw [toList_text, readable.service, afterService_databaseService]
  · obtain ⟨host, port, realm, service⟩ := name
    rw [ServiceName.mk.injEq]
    refine ⟨String.ofList_toList.symm, String.ofList_toList.symm, ?_, readable.service⟩
    cases realm with
    | none => rfl
    | some realm => simp [Realm.text]

/-- What is read from a text can be read back, unless its realm holds a colon. -/
theorem isReadable_of_parse? {text : String} {name : ServiceName} (found : parse? text = some name)
    (colonless : ∀ realm ∈ name.realm, ':' ∉ realm.text.toList) : name.IsReadable := by
  obtain ⟨rest, host, port, realm, _, cutting, rfl⟩ := parse?_eq_some_iff.mp found
  have cuts := cuts_of_cut cutting
  refine ⟨rfl, ?_, ?_, ?_⟩
  · rw [String.toList_ofList]
    exact cuts.host
  · rw [String.toList_ofList]
    exact cuts.port
  · intro realm' member
    refine ⟨?_, colonless realm' member⟩
    obtain ⟨name, given, rfl⟩ := Option.map_eq_some_iff.mp member
    obtain ⟨name_ne, line⟩ := cuts.realm name given
    constructor
    · intro empty
      have none := (upper_eq_empty_iff _).mp (String.toList_eq_nil_iff.mp empty)
      rw [← String.toList_eq_nil_iff, String.toList_ofList] at none
      exact name_ne none
    · intro newline
      have member := (mem_upper_iff isCaseless_newline _).mp newline
      rw [String.toList_ofList] at member
      exact line member

/-- A name that is given a realm and a host has them. -/
theorem withRealm_some {name : ServiceName} {realm : Realm} {host : String} (given : host ≠ "") :
    name.withRealm realm (some host) = { name with realm := some realm, host := host } := by
  unfold withRealm
  split
  · rename_i none
    cases none
  · rename_i empty
    exact absurd (Option.some.inj empty) given
  · rename_i other same
    rw [Option.some.inj same]

/-- An at sign before a colon and a port stands before the colon. -/
theorem at_before_colon {first last host port : List Char} (isPort : IsPort port)
    (split : first ++ '@' :: last = host ++ ':' :: port) :
    ∃ middle, host = first ++ '@' :: middle ∧ last = middle ++ ':' :: port := by
  rcases List.append_eq_append_iff.mp split with ⟨middle, host_eq, rest⟩ | ⟨middle, _, rest⟩
  · cases middle with
    | nil => simp at rest
    | cons sign middle =>
      obtain ⟨rfl, last_eq⟩ := List.cons.inj rest
      exact ⟨middle, host_eq, last_eq⟩
  · -- The at sign would stand in the port.
    have sign : '@' ∈ ':' :: port := by
      rw [rest]
      exact List.mem_append_right middle List.mem_cons_self
    have inPort : '@' ∈ port := by simpa using sign
    exact absurd rfl ((isPortChar_iff _).mp (isPort.2 _ inPort)).2

/-- A text that ends with an at sign and something without a colon is a name with a realm, if it is
a name at all. -/
theorem realm_isSome_of_parse? {text : String} {name : ServiceName} {first last : List Char}
    (split : text.toList = first ++ '@' :: last) (colonless : ':' ∉ last)
    (found : parse? text = some name) : name.realm.isSome = true := by
  obtain ⟨rest, host, port, realm, service, cutting, rfl⟩ := parse?_eq_some_iff.mp found
  obtain ⟨before, whole⟩ := eq_append_of_afterService service
  have cuts := cuts_of_cut cutting
  cases realm with
  | some name => rfl
  | none =>
    have ends : first ++ '@' :: last = (before ++ host) ++ ':' :: port := by
      rw [← split, whole, cuts.text_eq, List.append_assoc]
      simp [realmPart]
    obtain ⟨middle, _, last_eq⟩ := at_before_colon cuts.port ends
    simp [last_eq] at colonless

/-- What is read from the text of a name with a realm has a realm too. -/
theorem realm_isSome_of_parse?_text {name read : ServiceName} {realm : Realm}
    (qualified : name.realm = some realm) (colonless : ':' ∉ realm.text.toList)
    (found : parse? name.text = some read) : read.realm.isSome = true := by
  have split : name.text.toList = (name.service.toList ++ '/' :: (name.host.toList ++ ':' ::
      name.portOrInstance.toList)) ++ '@' :: realm.text.toList := by
    simp [toList_text, qualified, realmPart]
  exact realm_isSome_of_parse? split colonless found

end SignOn.ServiceName
