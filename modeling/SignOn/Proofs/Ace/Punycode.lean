import Mathlib.Data.List.DropRight
import SignOn.Ace.Punycode

/-!
# What Punycode is written with

Behind the ASCII characters of a text its Punycode form has letters and decimal digits only
(`exists_encode_eq`). Main statement: a text with a port behind it, after a colon, is not written
like the text with the same port behind its Punycode form (`encode_append_port_ne`).
-/

set_option autoImplicit false

namespace SignOn.Ace.Punycode

/-- No threshold is above twenty-six. -/
theorem threshold_le (position bias : Nat) : threshold position bias ≤ 26 := by
  unfold threshold
  split
  · omega
  · split <;> omega

/-- The digit with a value below thirty-six is a letter or a digit. -/
theorem isAlphanum_digit {value : Nat} (small : value < 36) : (digit value).isAlphanum = true := by
  have all : ∀ value ∈ List.range 36, (digit value).isAlphanum = true := by decide
  exact all value (List.mem_range.mpr small)

/-- The digits of a difference are letters and digits. -/
theorem isAlphanum_of_mem_differenceDigits (bias position difference : Nat) :
    ∀ c ∈ differenceDigits bias position difference, c.isAlphanum = true := by
  fun_induction differenceDigits bias position difference with
  | case1 position difference limit below =>
    have limit_le := threshold_le position bias
    rw [List.forall_mem_singleton]
    exact isAlphanum_digit (by omega)
  | case2 position difference limit _ ih =>
    have limit_le := threshold_le position bias
    have rest_lt : (difference - limit) % (36 - limit) < 36 - limit := Nat.mod_lt _ (by omega)
    exact List.forall_mem_cons.mpr ⟨isAlphanum_digit (by omega), ih⟩

/-- Only letters and digits are written so far. -/
def Progress.IsAlphanum (progress : Progress) : Prop :=
  ∀ c ∈ progress.written, c.isAlphanum = true

/-- A pass over the text writes letters and digits only. -/
theorem isAlphanum_writeOccurrences {progress : Progress} (before : progress.IsAlphanum)
    (basicCount point current : Nat) :
    (writeOccurrences basicCount point progress current).IsAlphanum := by
  unfold writeOccurrences
  split
  · exact before
  · split
    · exact List.forall_mem_append.mpr ⟨before, isAlphanum_of_mem_differenceDigits _ _ _⟩
    · exact before

/-- So do all passes. -/
theorem isAlphanum_writePoints (text : List Nat) (basicCount : Nat) (points : List Nat) (next : Nat)
    {progress : Progress} (before : progress.IsAlphanum) :
    (writePoints text basicCount points next progress).IsAlphanum := by
  induction points generalizing next progress with
  | nil => exact before
  | cons point others ih =>
    rw [writePoints]
    refine ih _ ?_
    have passed := List.foldlRecOn (motive := Progress.IsAlphanum) text
      (writeOccurrences basicCount point)
      (b := { progress with
        difference := progress.difference + (point - next) * (progress.count + 1) }) before
      (fun _ before current _ => isAlphanum_writeOccurrences before basicCount point current)
    exact passed

/-- The Punycode form of a text with an ASCII character: these in order, a hyphen, and letters and
digits. -/
theorem exists_encode_eq {text : List Nat} (basic : text.filter (· < 0x80) ≠ []) :
    ∃ written, (∀ c ∈ written, c.isAlphanum = true) ∧
      encode text = (text.filter (· < 0x80)).map Char.ofNat ++ '-' :: written := by
  let count := (text.filter (· < 0x80)).length
  let others := (text.filter (0x80 ≤ ·)).foldr insertOnce []
  have nothing : Progress.IsAlphanum ⟨[], 0, 72, count⟩ := by simp [Progress.IsAlphanum]
  have full : (text.filter (· < 0x80)).isEmpty = false := by
    rwa [List.isEmpty_eq_false_iff]
  refine ⟨_, isAlphanum_writePoints text count others 0x80 nothing, ?_⟩
  simp only [encode, full, Bool.false_eq_true, if_false, List.append_assoc, List.singleton_append,
    count, others]

/-! ## Text behind the last colon -/

/-- The text behind the last occurrence of a character. -/
theorem rtakeWhile_append_cons {mark : Char} {after : List Char} (absent : mark ∉ after)
    (before : List Char) : (before ++ mark :: after).rtakeWhile (· != mark) = after := by
  have kept : ∀ c ∈ after.reverse, (c != mark) = true := by
    intro c member
    rw [bne_iff_ne]
    rintro rfl
    exact absent (List.mem_reverse.mp member)
  rw [List.rtakeWhile, List.reverse_append, List.reverse_cons, List.append_assoc,
    List.takeWhile_append_of_pos kept]
  simp

/-- Punycode of a text with a port behind it is not Punycode of the text with the port behind it: in
the former a hyphen comes after the port. -/
theorem encode_append_port_ne (text : List Nat) {port : List Char}
    (ascii : ∀ c ∈ port, c.toNat < 0x80) (colonless : ':' ∉ port) :
    encode (text ++ (':' :: port).map Char.toNat) ≠ encode text ++ ':' :: port := by
  have kept : ((':' :: port).map Char.toNat).filter (· < 0x80) = (':' :: port).map Char.toNat := by
    have all : ∀ c ∈ ':' :: port, c.toNat < 0x80 :=
      List.forall_mem_cons.mpr ⟨by decide, ascii⟩
    rw [List.filter_eq_self, List.forall_mem_map]
    exact fun c member => decide_eq_true (all c member)
  have basic : (text ++ (':' :: port).map Char.toNat).filter (· < 0x80) =
      text.filter (· < 0x80) ++ (':' :: port).map Char.toNat := by
    rw [List.filter_append, kept]
  have chars : ((':' :: port).map Char.toNat).map Char.ofNat = ':' :: port := by
    simp [Function.comp_def]
  have full : (text ++ (':' :: port).map Char.toNat).filter (· < 0x80) ≠ [] := by
    rw [basic]
    exact List.append_ne_nil_of_right_ne_nil _ (List.cons_ne_nil _ _)
  obtain ⟨written, alphanumeric, encode_eq⟩ := exists_encode_eq full
  intro same
  have absent : ':' ∉ port ++ '-' :: written := by
    simp only [List.mem_append, List.mem_cons, not_or]
    refine ⟨colonless, by decide, ?_⟩
    intro member
    exact absurd (alphanumeric ':' member) (by decide)
  -- behind the last colon stands the port alone on the right, and more on the left
  have behind := congrArg (List.rtakeWhile (· != ':')) same
  rw [encode_eq, basic, List.map_append, chars, List.append_assoc, List.cons_append,
    rtakeWhile_append_cons absent, rtakeWhile_append_cons colonless] at behind
  simp at behind

end SignOn.Ace.Punycode
