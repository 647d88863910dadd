import RustConnect.Types

namespace RustConnect

/-- The Unicode `White_Space` property, which `str::trim` and `char::is_whitespace` use. -/
def isWhiteSpace (c : Char) : Bool :=
  (0x09 ≤ c.toNat && c.toNat ≤ 0x0D) || c.toNat == 0x20 || c.toNat == 0x85 || c.toNat == 0xA0 ||
    c.toNat == 0x1680 || (0x2000 ≤ c.toNat && c.toNat ≤ 0x200A) || c.toNat == 0x2028 ||
    c.toNat == 0x2029 || c.toNat == 0x202F || c.toNat == 0x205F || c.toNat == 0x3000

def trimChars (chars : List Char) : List Char :=
  ((chars.dropWhile isWhiteSpace).reverse.dropWhile isWhiteSpace).reverse

/-- `str::trim`. -/
def trim (text : String) : String := String.ofList (trimChars text.toList)

/-- `hex::encode`: two lowercase digits for each byte. -/
def hexEncode (bytes : Bytes) : String :=
  String.ofList (bytes.flatMap fun b => [(b.toNat / 16).digitChar, (b.toNat % 16).digitChar])

theorem dropWhile_eq_self {chars : List Char} (clean : ∀ c ∈ chars, isWhiteSpace c = false) :
    chars.dropWhile isWhiteSpace = chars := by
  cases chars with
  | nil => rfl
  | cons c chars => exact List.dropWhile_cons_of_neg (by simp [clean c (List.mem_cons_self ..)])

theorem trim_eq_self {text : String} (clean : ∀ c ∈ text.toList, isWhiteSpace c = false) :
    trim text = text := by
  have backwards : ∀ c ∈ text.toList.reverse, isWhiteSpace c = false :=
    fun c member => clean c (List.mem_reverse.mp member)
  rw [trim, trimChars, dropWhile_eq_self clean, dropWhile_eq_self backwards, List.reverse_reverse,
    String.ofList_toList]

/-- Text between braces, as `serde_json` prints an object, has no blanks around it. -/
theorem trim_braces (inside : String) : trim ("\x7b" ++ inside ++ "\x7d") = "\x7b" ++ inside ++ "\x7d" := by
  have chars : ("\x7b" ++ inside ++ "\x7d").toList = '{' :: (inside.toList ++ ['}']) := by simp
  have front : ('{' :: (inside.toList ++ ['}'])).dropWhile isWhiteSpace = '{' :: (inside.toList ++ ['}']) := rfl
  have back : ('{' :: (inside.toList ++ ['}'])).reverse.dropWhile isWhiteSpace = ('{' :: (inside.toList ++ ['}'])).reverse := by
    rw [List.reverse_cons, List.reverse_append, List.reverse_singleton]
    rfl
  rw [trim, trimChars, chars, front, back, List.reverse_reverse, ← chars, String.ofList_toList]

theorem digitChar_not_whiteSpace (n : Nat) (digit : n < 16) : isWhiteSpace n.digitChar = false := by
  have all : ∀ k : Fin 16, isWhiteSpace k.val.digitChar = false := by decide
  exact all ⟨n, digit⟩

/-- No digest is changed by the trimming that reads it back. -/
theorem trim_hexEncode (bytes : Bytes) : trim (hexEncode bytes) = hexEncode bytes := by
  refine trim_eq_self fun c member => ?_
  rw [hexEncode, String.toList_ofList] at member
  obtain ⟨b, _, digit⟩ := List.mem_flatMap.mp member
  have bound := b.toNat_lt
  rcases List.mem_cons.mp digit with high | rest
  · rw [high]
    exact digitChar_not_whiteSpace _ (by omega)
  · rw [List.mem_singleton.mp rest]
    exact digitChar_not_whiteSpace _ (by omega)

end RustConnect
