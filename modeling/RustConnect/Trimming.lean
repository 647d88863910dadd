import Mathlib
import RustConnect.Text

namespace RustConnect

def trimStart (chars : List Char) : List Char := chars.dropWhile isWhiteSpace

def trimEnd (chars : List Char) : List Char := (chars.reverse.dropWhile isWhiteSpace).reverse

theorem trimChars_eq (chars : List Char) : trimChars chars = trimEnd (trimStart chars) := rfl

theorem trimStart_append (first second : List Char) :
    trimStart (first ++ second) = if trimStart first = [] then trimStart second else trimStart first ++ second := by
  rw [trimStart, trimStart, trimStart, List.dropWhile_append]
  cases first.dropWhile isWhiteSpace with
  | nil => rfl
  | cons c rest => rfl

theorem trimStart_trimStart (chars : List Char) : trimStart (trimStart chars) = trimStart chars :=
  List.dropWhile_idempotent _ chars

theorem trimEnd_append (first second : List Char) :
    trimEnd (first ++ second) = if trimEnd second = [] then trimEnd first else first ++ trimEnd second := by
  rw [trimEnd, trimEnd, trimEnd, List.reverse_append, List.dropWhile_append]
  cases second.reverse.dropWhile isWhiteSpace with
  | nil => rfl
  | cons c rest => simp

theorem trimEnd_eq_nil {chars : List Char} : trimEnd chars = [] ↔ trimStart chars = [] := by
  rw [trimEnd, trimStart, List.reverse_eq_nil_iff, List.dropWhile_eq_nil_iff, List.dropWhile_eq_nil_iff]
  simp

theorem trimStart_decompose (chars : List Char) :
    ∃ blanks, chars = blanks ++ trimStart chars ∧ trimStart blanks = [] := by
  refine ⟨chars.takeWhile isWhiteSpace, List.takeWhile_append_dropWhile.symm, ?_⟩
  rw [trimStart, List.dropWhile_eq_nil_iff]
  exact fun c member => List.mem_takeWhile_imp member

/-- Trimming hides blanks at the beginning of `b` only when all before or after them is blank. -/
theorem trimChars_dropped (v b : List Char) :
    trimChars (v ++ trimStart b) = trimChars (v ++ b) ↔ trimStart b = b ∨ trimStart v = [] ∨ trimStart b = [] := by
  obtain ⟨blanks, whole, blank⟩ := trimStart_decompose b
  have beginning (t : List Char) : trimStart (v ++ t) = if trimStart v = [] then trimStart t else trimStart v ++ t :=
    trimStart_append v t
  rw [trimChars_eq, trimChars_eq, beginning, beginning]
  by_cases empty : trimStart v = []
  · rw [if_pos empty, if_pos empty, trimStart_trimStart]
    simp [empty]
  · rw [if_neg empty, if_neg empty, trimEnd_append, trimEnd_append]
    by_cases ended : trimStart b = []
    · have none_left : trimEnd b = [] := trimEnd_eq_nil.mpr ended
      have none_right : trimEnd ([] : List Char) = [] := rfl
      rw [if_pos none_left, ended, if_pos none_right]
      simp
    · have left : trimEnd b ≠ [] := fun gone => ended (trimEnd_eq_nil.mp gone)
      have left' : trimEnd (trimStart b) ≠ [] := fun gone => ended (by
        have twice := trimEnd_eq_nil.mp gone
        rwa [trimStart_trimStart] at twice)
      have split : trimEnd b = blanks ++ trimEnd (trimStart b) := by
        conv_lhs => rw [whole]
        rw [trimEnd_append, if_neg left']
      rw [if_neg left, if_neg left', split, List.append_cancel_left_eq]
      have exact : trimEnd (trimStart b) = blanks ++ trimEnd (trimStart b) ↔ trimStart b = b := by
        constructor
        · intro same
          have nothing : blanks = [] := List.eq_nil_of_length_eq_zero (by
            have lengths := congrArg List.length same
            rw [List.length_append] at lengths
            omega)
          rw [nothing, List.nil_append] at whole
          exact whole.symm
        · intro same
          have nothing : blanks = [] := by
            rw [same] at whole
            simpa using whole
          rw [nothing, List.nil_append]
      rw [exact]
      simp [empty, ended]

theorem trimChars_append_ne {v : List Char} (black : trimStart v ≠ []) (t : List Char) : trimChars (v ++ t) ≠ [] := by
  intro empty
  rw [trimChars_eq, trimEnd_eq_nil, trimStart_trimStart, trimStart_append, if_neg black] at empty
  exact black (List.append_eq_nil_iff.mp empty).1

theorem trimEnd_begins (chars : List Char) : trimEnd chars <+: chars := by
  have kept := List.reverse_prefix.mpr (List.dropWhile_suffix (l := chars.reverse) isWhiteSpace)
  rwa [List.reverse_reverse] at kept

theorem trimEnd_trimEnd (chars : List Char) : trimEnd (trimEnd chars) = trimEnd chars := by
  rw [trimEnd, trimEnd, List.reverse_reverse, List.dropWhile_idempotent]

/-- What begins a text that begins without blanks begins without them. -/
theorem trimStart_of_begins {first whole : List Char} (beginning : first <+: whole) (clean : trimStart whole = whole) :
    trimStart first = first := by
  obtain ⟨rest, rfl⟩ := beginning
  cases first with
  | nil => rfl
  | cons c more =>
    by_cases white : isWhiteSpace c = true
    · have shorter := List.length_dropWhile_le isWhiteSpace (more ++ rest)
      rw [List.cons_append, trimStart, List.dropWhile_cons_of_pos white] at clean
      rw [clean, List.length_cons] at shorter
      omega
    · exact List.dropWhile_cons_of_neg white

theorem trimEnd_eq_self {chars : List Char} :
    trimEnd chars = chars ↔ ∀ c, chars.getLast? = some c → isWhiteSpace c = false := by
  rw [trimEnd, List.reverse_eq_iff, ← List.head?_reverse]
  cases chars.reverse with
  | nil => simp
  | cons c rest =>
    by_cases white : isWhiteSpace c = true
    · have shorter := List.length_dropWhile_le isWhiteSpace rest
      rw [List.dropWhile_cons_of_pos white]
      refine ⟨fun same => ?_, fun dark => absurd white (by rw [dark c rfl]; exact Bool.false_ne_true)⟩
      rw [same, List.length_cons] at shorter
      omega
    · rw [List.dropWhile_cons_of_neg white]
      simpa using white

end RustConnect
