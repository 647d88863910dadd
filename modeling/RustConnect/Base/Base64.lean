import Mathlib

namespace Base64

/-- The standard alphabet of RFC 4648. -/
def alphabet : List Char := "ABCDEFGHIJKLMNOPQRSTUVWXYZabcdefghijklmnopqrstuvwxyz0123456789+/".toList

def symbol (n : Nat) : Char := alphabet.getD n 'A'

def value (c : Char) : Option Nat := alphabet.idxOf? c

/-- Three bytes as one number of 24 bits. -/
def pack (a b c : UInt8) : Nat := a.toNat * 65536 + b.toNat * 256 + c.toNat

/-- Four symbols, each of six bits, as one number of 24 bits. -/
def join (w x y z : Nat) : Nat := w * 262144 + x * 4096 + y * 64 + z

/-- The standard encoding, with padding. -/
def encode : List UInt8 → List Char
  | [] => []
  | [a] => [symbol (pack a 0 0 / 262144), symbol (pack a 0 0 / 4096 % 64), '=', '=']
  | [a, b] =>
    [symbol (pack a b 0 / 262144), symbol (pack a b 0 / 4096 % 64), symbol (pack a b 0 / 64 % 64), '=']
  | a :: b :: c :: rest =>
    symbol (pack a b c / 262144) :: symbol (pack a b c / 4096 % 64) :: symbol (pack a b c / 64 % 64) ::
      symbol (pack a b c % 64) :: encode rest

def decodeGroup (w x y z : Char) : Option (List UInt8) := do
  let n := join (← value w) (← value x) (← value y) (← value z)
  return [UInt8.ofNat (n / 65536), UInt8.ofNat (n / 256 % 256), UInt8.ofNat (n % 256)]

/-- The last group may be padded, and the bits that the padding stands for must be zero. -/
def decodeLast (w x y z : Char) : Option (List UInt8) :=
  if z = '=' then
    if y = '=' then do
      let n := join (← value w) (← value x) 0 0
      if n % 65536 = 0 then return [UInt8.ofNat (n / 65536)] else none
    else do
      let n := join (← value w) (← value x) (← value y) 0
      if n % 256 = 0 then return [UInt8.ofNat (n / 65536), UInt8.ofNat (n / 256 % 256)] else none
  else decodeGroup w x y z

/-- The standard decoding: padding is required, and only one text stands for each sequence of bytes. -/
def decode : List Char → Option (List UInt8)
  | [] => some []
  | [w, x, y, z] => decodeLast w x y z
  | w :: x :: y :: z :: rest => do
    let bytes ← decodeGroup w x y z
    return bytes ++ (← decode rest)
  | _ => none

theorem value_symbol {n : Nat} (small : n < 64) : value (symbol n) = some n := by
  have all : ∀ k : Fin 64, value (symbol k.val) = some k.val := by decide +kernel
  exact all ⟨n, small⟩

theorem symbol_mem (n : Nat) : symbol n ∈ alphabet := by
  unfold symbol
  rcases Nat.lt_or_ge n alphabet.length with inside | beyond
  · rw [List.getD_eq_getElem _ _ inside]
    exact List.getElem_mem inside
  · rw [List.getD_eq_default _ _ beyond]
    decide +kernel

theorem symbol_ne_pad (n : Nat) : symbol n ≠ '=' := by
  intro same
  exact absurd (same ▸ symbol_mem n) (by decide +kernel)

variable (a b c : UInt8)

theorem pack_lt : pack a b c < 16777216 := by
  have first := a.toNat_lt
  have second := b.toNat_lt
  have third := c.toNat_lt
  unfold pack
  omega

theorem join_parts (n : Nat) : join (n / 262144) (n / 4096 % 64) (n / 64 % 64) (n % 64) = n := by
  unfold join
  omega

theorem first_pack : UInt8.ofNat (pack a b c / 65536) = a := by
  have second := b.toNat_lt
  have third := c.toNat_lt
  have part : pack a b c / 65536 = a.toNat := by
    unfold pack
    omega
  rw [part, UInt8.ofNat_toNat]

theorem second_pack : UInt8.ofNat (pack a b c / 256 % 256) = b := by
  have second := b.toNat_lt
  have third := c.toNat_lt
  have part : pack a b c / 256 % 256 = b.toNat := by
    unfold pack
    omega
  rw [part, UInt8.ofNat_toNat]

theorem third_pack : UInt8.ofNat (pack a b c % 256) = c := by
  have third := c.toNat_lt
  have part : pack a b c % 256 = c.toNat := by
    unfold pack
    omega
  rw [part, UInt8.ofNat_toNat]

theorem decodeGroup_symbols :
    decodeGroup (symbol (pack a b c / 262144)) (symbol (pack a b c / 4096 % 64)) (symbol (pack a b c / 64 % 64))
      (symbol (pack a b c % 64)) = some [a, b, c] := by
  have small := pack_lt a b c
  have first := value_symbol (n := pack a b c / 262144) (by omega)
  have second := value_symbol (n := pack a b c / 4096 % 64) (by omega)
  have third := value_symbol (n := pack a b c / 64 % 64) (by omega)
  have fourth := value_symbol (n := pack a b c % 64) (by omega)
  simp [decodeGroup, first, second, third, fourth, join_parts, first_pack, second_pack, third_pack]

theorem decodeLast_padded {w x : Char} {m n : Nat} (first : value w = some m) (second : value x = some n)
    (zeros : join m n 0 0 % 65536 = 0) : decodeLast w x '=' '=' = some [UInt8.ofNat (join m n 0 0 / 65536)] := by
  unfold decodeLast
  rw [if_pos rfl, if_pos rfl]
  exact Option.bind_eq_some_iff.mpr ⟨m, first, Option.bind_eq_some_iff.mpr ⟨n, second, if_pos zeros⟩⟩

theorem decodeLast_half_padded {w x y : Char} {m n k : Nat} (first : value w = some m) (second : value x = some n)
    (third : value y = some k) (visible : y ≠ '=') (zeros : join m n k 0 % 256 = 0) :
    decodeLast w x y '=' = some [UInt8.ofNat (join m n k 0 / 65536), UInt8.ofNat (join m n k 0 / 256 % 256)] := by
  unfold decodeLast
  rw [if_pos rfl, if_neg visible]
  exact Option.bind_eq_some_iff.mpr ⟨m, first, Option.bind_eq_some_iff.mpr ⟨n, second,
    Option.bind_eq_some_iff.mpr ⟨k, third, if_pos zeros⟩⟩⟩

theorem pack_one : pack a 0 0 = a.toNat * 65536 := by simp [pack]

theorem pack_two : pack a b 0 = a.toNat * 65536 + b.toNat * 256 := by simp [pack]

/-- What has no more than one byte in it leaves zeros where the padding stands. -/
theorem decodeLast_one :
    decodeLast (symbol (pack a 0 0 / 262144)) (symbol (pack a 0 0 / 4096 % 64)) '=' '=' = some [a] := by
  have same := pack_one a
  have back := first_pack a 0 0
  have small := pack_lt a 0 0
  generalize pack a 0 0 = n at *
  have whole : join (n / 262144) (n / 4096 % 64) 0 0 = n := by
    unfold join
    omega
  rw [decodeLast_padded (value_symbol (by omega)) (value_symbol (by omega)) (by rw [whole]; omega), whole, back]

theorem decodeLast_two :
    decodeLast (symbol (pack a b 0 / 262144)) (symbol (pack a b 0 / 4096 % 64)) (symbol (pack a b 0 / 64 % 64)) '=' =
      some [a, b] := by
  have same := pack_two a b
  have first := first_pack a b 0
  have second := second_pack a b 0
  have small := pack_lt a b 0
  generalize pack a b 0 = n at *
  have whole : join (n / 262144) (n / 4096 % 64) (n / 64 % 64) 0 = n := by
    unfold join
    omega
  rw [decodeLast_half_padded (value_symbol (by omega)) (value_symbol (by omega)) (value_symbol (by omega)) (symbol_ne_pad _)
    (by rw [whole]; omega), whole, first, second]

/-- Every sequence of bytes is read back from its encoding. -/
theorem decode_encode (bytes : List UInt8) : decode (encode bytes) = some bytes := by
  fun_induction encode bytes with
  | case1 => rfl
  | case2 a => exact decodeLast_one a
  | case3 a b => exact decodeLast_two a b
  | case4 a b c rest ih =>
    cases later : encode rest with
    | nil =>
      rw [later] at ih
      obtain rfl : [] = rest := Option.some.inj ih
      have plain : symbol (pack a b c % 64) ≠ '=' := symbol_ne_pad _
      simp only [decode, decodeLast, plain, if_false, decodeGroup_symbols]
    | cons next more =>
      rw [later] at ih
      simp [decode, decodeGroup_symbols, ih]

example : encode [82, 117, 115, 116] = ['U', 'n', 'V', 'z', 'd', 'A', '=', '='] ∧ decode ['U', 'n', '!', 'z'] = none := by
  decide +kernel

/-- What the encoding is made of. -/
theorem mem_encode {bytes : List UInt8} {c : Char} (member : c ∈ encode bytes) : c ∈ alphabet ∨ c = '=' := by
  fun_induction encode bytes with
  | case1 => cases member
  | case2 a =>
    simp only [List.mem_cons, List.not_mem_nil, or_false] at member
    rcases member with rfl | rfl | same | same
    · exact .inl (symbol_mem _)
    · exact .inl (symbol_mem _)
    · exact .inr same
    · exact .inr same
  | case3 a b =>
    simp only [List.mem_cons, List.not_mem_nil, or_false] at member
    rcases member with rfl | rfl | rfl | same
    · exact .inl (symbol_mem _)
    · exact .inl (symbol_mem _)
    · exact .inl (symbol_mem _)
    · exact .inr same
  | case4 a b c rest ih =>
    simp only [List.mem_cons] at member
    rcases member with rfl | rfl | rfl | rfl | later
    · exact .inl (symbol_mem _)
    · exact .inl (symbol_mem _)
    · exact .inl (symbol_mem _)
    · exact .inl (symbol_mem _)
    · exact ih later

end Base64
