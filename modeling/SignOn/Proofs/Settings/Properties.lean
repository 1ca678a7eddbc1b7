import SignOn.Connection
import SignOn.Proofs.Text.Lines

/-!
# What settings depend on

Of all the properties of a connection the settings look at three, whose keys may be in whatever
case (`isOwn`), and of several with one key at the last (`IsLast`). Main statement: the settings, or
the error that there is, follow from the last values of these three; there is an error only where
one of them is no truth value; and no setting is blank that was given as a text
(`own_properties_decide`).
-/

set_option autoImplicit false

namespace SignOn

open Text

/-! ## Truth values -/

namespace PropertyValue

/-- A value is neither null nor a truth value, and its text is none of the words for one. -/
structure IsNoBoolean (value : PropertyValue) : Prop where
  not_null : value ≠ .common .null
  not_bool : ∀ flag, value ≠ .common (.bool flag)
  no_word : lower (trimText value.plain) ∉ trueWords ++ falseWords

/-- A value that is no truth value is refused unless its text is a word for one. -/
theorem parseBoolean_eq_error_iff {property : String} {value : PropertyValue} {error : Error} :
    value.parseBoolean property = .error error ↔
      (∀ flag, value ≠ .common (.bool flag)) ∧
        lower (trimText value.plain) ∉ trueWords ++ falseWords ∧
        error = .invalidBoolean property value.literal := by
  unfold parseBoolean
  split
  case h_1 flag => simp
  case h_2 _ not_bool =>
    have other : ∀ flag, value ≠ .common (.bool flag) := not_bool
    simp only [List.contains_iff_mem, List.mem_append, not_or]
    by_cases yes : lower (trimText value.plain) ∈ trueWords
    · simp [yes]
    · by_cases no : lower (trimText value.plain) ∈ falseWords
      · simp [yes, no]
      · rw [if_neg yes, if_neg no, Except.error.injEq]
        exact ⟨fun same => ⟨other, ⟨yes, no⟩, same.symm⟩, fun refused => refused.2.2.symm⟩

end PropertyValue

namespace Settings

/-! ## The properties that count -/

variable {properties others : List (String × PropertyValue)}

/-- The keys of the properties that settings are read from, in lower case. -/
def ownKeys : List String := ["serverspn", "servernameasace", "loginconfigurationname"]

/-- Settings are read from the property, its key being in whatever case. -/
def isOwn (property : String × PropertyValue) : Bool := ownKeys.contains (lower property.1)

/-- The value of the last property that has the key, in whatever case. -/
def IsLast (properties : List (String × PropertyValue)) (key : String) (value : PropertyValue) :
    Prop :=
  ∃ earlier name later, properties = earlier ++ (name, value) :: later ∧ lower name = key ∧
    ∀ other ∈ later, lower other.1 ≠ key

/-- A key is looked up to the value of its last property. -/
theorem property?_eq_some_iff {key : String} {value : PropertyValue} :
    property? properties key = some value ↔ IsLast properties key value := by
  simp only [property?, Option.map_eq_some_iff, List.find?_eq_some_iff_append, beq_iff_eq,
    Bool.not_eq_true', beq_eq_false_iff_ne]
  constructor
  · rintro ⟨⟨name, _⟩, ⟨same, later, earlier, split, apart⟩, rfl⟩
    refine ⟨earlier.reverse, name, later.reverse, ?_, same, ?_⟩
    · rw [← List.reverse_inj, split]
      simp
    · intro other member
      exact apart other (List.mem_reverse.mp member)
  · rintro ⟨earlier, name, later, rfl, same, apart⟩
    refine ⟨(name, value), ⟨same, later.reverse, earlier.reverse, by simp, ?_⟩, rfl⟩
    intro other member
    exact apart other (List.mem_reverse.mp member)

/-- Where the same values are the last ones of a key, the same value is found. -/
theorem property?_congr {key : String}
    (same : ∀ value, IsLast others key value ↔ IsLast properties key value) :
    property? others key = property? properties key := by
  apply Option.ext
  intro value
  rw [property?_eq_some_iff, property?_eq_some_iff, same]

/-- Leaving out all properties that settings are not read from changes nothing for the others. -/
theorem property?_filter_isOwn {key : String} (own : key ∈ ownKeys)
    (properties : List (String × PropertyValue)) :
    property? (properties.filter isOwn) key = property? properties key := by
  have alike : (fun entry => decide (isOwn entry = true ∧ (lower entry.1 == key) = true)) =
      fun entry => lower entry.1 == key := by
    funext entry
    by_cases here : lower entry.1 = key
    · simp [isOwn, here, own]
    · simp [here]
  rw [property?, ← List.filter_reverse, List.find?_filter, alike, property?]

/-- The settings follow from the values that are found under their own keys. -/
theorem ofProperties_congr
    (same : ∀ key ∈ ownKeys, property? others key = property? properties key) :
    ofProperties others = ofProperties properties := by
  have spn := same "serverspn" (by simp [ownKeys])
  have ace := same "servernameasace" (by simp [ownKeys])
  have login := same "loginconfigurationname" (by simp [ownKeys])
  rw [ofProperties, spn, ace, login, ofProperties]

/-! ## The single settings -/

/-- The only error about the mode is that its value is no boolean. -/
theorem serverNameAsAceOf_eq_error_iff {given : Option PropertyValue} {error : Error} :
    serverNameAsAceOf given = .error error ↔
      ∃ value, given = some value ∧ value.IsNoBoolean ∧
        error = .invalidBoolean "serverNameAsACE" value.literal := by
  unfold serverNameAsAceOf
  split
  case h_1 => simp
  case h_2 =>
    constructor
    · rintro ⟨⟩
    · rintro ⟨value, ⟨⟩, invalid, _⟩
      exact absurd rfl invalid.not_null
  case h_3 value not_null =>
    rw [PropertyValue.parseBoolean_eq_error_iff]
    constructor
    · rintro ⟨not_bool, no_word, rfl⟩
      exact ⟨value, rfl, ⟨not_null, not_bool, no_word⟩, rfl⟩
    · rintro ⟨_, ⟨⟩, invalid, rfl⟩
      exact ⟨invalid.not_bool, invalid.no_word, rfl⟩

/-- The settings are in error just if the mode is. -/
theorem ofProperties_eq_error_iff {error : Error} :
    ofProperties properties = .error error ↔
      serverNameAsAceOf (property? properties "servernameasace") = .error error := by
  unfold ofProperties
  cases serverNameAsAceOf (property? properties "servernameasace") with
  | ok flag => simp [bind, Except.bind, pure, Except.pure]
  | error other => simp [bind, Except.bind]

/-- Settings that are read hold the name and the login configuration that were found. -/
theorem of_ofProperties_eq_ok {settings : Settings}
    (read : ofProperties properties = .ok settings) :
    settings.serverSpn = serverSpnOf (property? properties "serverspn") ∧
      settings.login = loginOf (property? properties "loginconfigurationname") := by
  unfold ofProperties at read
  cases ace : serverNameAsAceOf (property? properties "servernameasace") with
  | ok flag =>
    rw [ace] at read
    obtain rfl := Except.ok.inj read
    exact ⟨rfl, rfl⟩
  | error other =>
    rw [ace] at read
    cases read

/-- A service principal name that is given is neither empty nor surrounded by blanks. -/
theorem of_serverSpnOf_eq_some {given : Option PropertyValue} {spn : String}
    (found : serverSpnOf given = some spn) : spn ≠ "" ∧ IsTrimmed spn.toList := by
  unfold serverSpnOf at found
  split at found
  case h_1 | h_2 => cases found
  case h_3 value _ =>
    split at found
    case h_1 => cases found
    case h_2 full =>
      obtain rfl := Option.some.inj found
      refine ⟨full, ?_⟩
      rw [trimText, String.toList_ofList]
      exact isTrimmed_trim value.plain.toList

/-- A text that is given never names an empty login configuration. -/
theorem loginOf_text_ne (text : String) : loginOf (some (.common (.text text))) ≠ "" := by
  rw [loginOf]
  split
  · decide
  · next full =>
    simpa [PropertyValue.isEmpty, PropertyValue.plain, Value.isEmpty, Value.plain] using full

/-- The settings of a connection, and whether they can be read, depend on nothing but the last value
of each of their own properties, so all other properties may be added, removed and moved. They
cannot be read exactly if the value for the encoding of host names is neither null nor a truth
value, nor its trimmed text a word for one in whatever case. The service principal name that is read
is not empty and has no blanks around it, and a text never names an empty login configuration. -/
theorem own_properties_decide (properties : List (String × PropertyValue)) :
    (∀ others,
      (∀ key ∈ ownKeys, ∀ value, IsLast others key value ↔ IsLast properties key value) →
        ofProperties others = ofProperties properties) ∧
    (∀ others, others.filter isOwn = properties.filter isOwn →
      ofProperties others = ofProperties properties) ∧
    (∀ error, ofProperties properties = .error error ↔
      ∃ value, IsLast properties "servernameasace" value ∧ value.IsNoBoolean ∧
        error = .invalidBoolean "serverNameAsACE" value.literal) ∧
    (∀ error, ofProperties properties = .error error → error.isA .configuration = true) ∧
    ∀ settings, ofProperties properties = .ok settings →
      (∀ spn, settings.serverSpn = some spn → spn ≠ "" ∧ IsTrimmed spn.toList) ∧
      ∀ text, IsLast properties "loginconfigurationname" (.common (.text text)) →
        settings.login ≠ "" := by
  have refused : ∀ error, ofProperties properties = .error error ↔
      ∃ value, IsLast properties "servernameasace" value ∧ value.IsNoBoolean ∧
        error = .invalidBoolean "serverNameAsACE" value.literal := by
    intro error
    simp only [ofProperties_eq_error_iff, serverNameAsAceOf_eq_error_iff, property?_eq_some_iff]
  refine ⟨?last, ?other, refused, ?kind, ?settings⟩
  case last =>
    intro others same
    exact ofProperties_congr fun key own => property?_congr (same key own)
  case other =>
    intro others same
    apply ofProperties_congr
    intro key own
    rw [← property?_filter_isOwn own, same, property?_filter_isOwn own]
  case kind =>
    intro error failed
    obtain ⟨value, _, _, rfl⟩ := (refused error).mp failed
    rfl
  case settings =>
    intro settings read
    obtain ⟨spn_eq, login_eq⟩ := of_ofProperties_eq_ok read
    constructor
    · intro spn given
      exact of_serverSpnOf_eq_some (spn_eq ▸ given)
    · intro text given
      rw [login_eq, property?_eq_some_iff.mpr given]
      exact loginOf_text_ne text

/-- Properties of which one is given twice, in other letters, and one is not looked at. -/
def repeatedProperties : List (String × PropertyValue) :=
  [("SERVERSpn", .common (.text "MSSQLSvc/old:1433")), ("ENCRYPT", .common (.bool true)),
    ("SERVERSPN", .common (.text " MSSQLSvc/db1:1433\n")),
    ("SERVERNAMEASACE", .object "YES " "<Choice.YES>" false),
    ("LOGINCONFIGURATIONNAME", .common (.text "app"))]

/-- Those of `repeatedProperties` that count, in another order. -/
def turnedProperties : List (String × PropertyValue) :=
  [("LOGINCONFIGURATIONNAME", .common (.text "app")),
    ("SERVERNAMEASACE", .object "YES " "<Choice.YES>" false),
    ("SERVERSPN", .common (.text " MSSQLSvc/db1:1433\n"))]

/-- The settings of `repeatedProperties` are the same without the properties that do not count, and
in another order. A word that says neither yes nor no is refused. -/
theorem turned_properties_alike :
    (ofProperties repeatedProperties = .ok ⟨some "MSSQLSvc/db1:1433", true, "app"⟩ ∧
      ("MSSQLSvc/db1:1433" ≠ "" ∧ IsTrimmed "MSSQLSvc/db1:1433".toList) ∧
      IsLast repeatedProperties "loginconfigurationname" (.common (.text "app")) ∧ "app" ≠ "") ∧
    ((∀ key ∈ ownKeys, ∀ value,
        IsLast turnedProperties key value ↔ IsLast repeatedProperties key value) ∧
      ofProperties turnedProperties = ofProperties repeatedProperties) ∧
    ofProperties (repeatedProperties.filter isOwn) = ofProperties repeatedProperties ∧
    ofProperties [("SERVERNAMEASACE", .object "PERHAPS" "<Choice.PERHAPS>" false)] =
      .error (.invalidBoolean "serverNameAsACE" "<Choice.PERHAPS>") ∧
    (Error.invalidBoolean "serverNameAsACE" "<Choice.PERHAPS>").isA .configuration = true := by
  have read : ofProperties repeatedProperties = .ok ⟨some "MSSQLSvc/db1:1433", true, "app"⟩ := rfl
  have named : IsLast repeatedProperties "loginconfigurationname" (.common (.text "app")) :=
    ⟨repeatedProperties.take 4, _, [], rfl, by decide +kernel, nofun⟩
  have same : ∀ key ∈ ownKeys, ∀ value,
      IsLast turnedProperties key value ↔ IsLast repeatedProperties key value := by
    have alike : ∀ key ∈ ownKeys,
        property? turnedProperties key = property? repeatedProperties key := by
      intro key own
      simp only [ownKeys, List.mem_cons, List.not_mem_nil, or_false] at own
      rcases own with rfl | rfl | rfl <;> rfl
    intro key own value
    rw [← property?_eq_some_iff, ← property?_eq_some_iff, alike key own]
  have refused : ofProperties [("SERVERNAMEASACE", .object "PERHAPS" "<Choice.PERHAPS>" false)] =
      .error (.invalidBoolean "serverNameAsACE" "<Choice.PERHAPS>") := rfl
  obtain ⟨last, filtered, _, _, settings⟩ := own_properties_decide repeatedProperties
  obtain ⟨trimmed, full⟩ := settings _ read
  exact ⟨⟨read, trimmed _ rfl, named, full _ named⟩, ⟨same, last _ same⟩, filtered _ (by simp),
    refused, (own_properties_decide _).2.2.2.1 _ refused⟩

end Settings

end SignOn
