import RustConnect.PacketRoundTrip

namespace RustConnect

namespace Json

def asStr : Json → Option String
  | str value => some value
  | _ => none

def asArray : Json → Option (List Json)
  | arr items => some items
  | _ => none

theorem asI64_ofInt (n : Int64) : (ofInt n.toInt).asI64 = some n.toInt := by
  have low := n.le_toInt
  have high := n.toInt_lt
  generalize n.toInt = value at *
  by_cases negative : 0 ≤ value
  · have small : value.toNat < 2 ^ 63 := by omega
    have stored : (UInt64.ofNat value.toNat).toNat = value.toNat :=
      UInt64.toNat_ofNat_of_lt' (by show value.toNat < 2 ^ 64; omega)
    simp only [ofInt, if_pos negative, asI64, JsonNumber.asI64, stored, if_pos small, Int.toNat_of_nonneg negative]
  · have stored : (Int64.ofInt value).toInt = value := Int64.toInt_ofInt_of_le (by omega) (by omega)
    simp only [ofInt, if_neg negative, asI64, JsonNumber.asI64, stored]

/-- `as_i64`, as the machine integer that it is. -/
def asInt64 (value : Json) : Option Int64 := value.asI64.map Int64.ofInt

@[simp] theorem asInt64_ofInt (n : Int64) : (ofInt n.toInt).asInt64 = some n := by
  rw [asInt64, asI64_ofInt, Option.map_some, Int64.ofInt_toInt]

/-- A field of type `Option` of a derived `Deserialize`: `none` when the value has another type. -/
def optional {α : Type} (read : Json → Option α) : Option Json → Option (Option α)
  | none => some none
  | some .null => some none
  | some value => (read value).map some

/-- An `Option` as a derived `Serialize` writes it. -/
def ofOption {α : Type} (write : α → Json) (value : Option α) : Json := (value.map write).getD .null

theorem optional_ofOption {α : Type} {read : Json → Option α} {write : α → Json} (back : ∀ value, read (write value) = some value)
    (visible : ∀ value, write value ≠ .null) (value : Option α) : optional read (some (ofOption write value)) = some value := by
  cases value with
  | none => rfl
  | some value =>
    have written : optional read (some (write value)) = (read (write value)).map some := by
      cases shape : write value with
      | null => exact absurd shape (visible value)
      | _ => rfl
    show optional read (some (write value)) = _
    rw [written, back, Option.map_some]

/-- A number as `f64`, which also takes the integers. -/
def asF64 : Json → Option Float
  | num (.posInt n) => some (Float.ofNat n.toNat)
  | num (.negInt n) => some (Float.ofInt n.toInt)
  | num (.float bits) => some (Float.ofBits bits)
  | _ => none

/-- The members that have a value. -/
def present (members : List (String × Option Json)) : Json :=
  .obj (members.filterMap fun member => member.2.map (member.1, ·))

theorem find_present (members : List (String × Option Json)) (key : String) (distinct : (members.map Prod.fst).Nodup) :
    ((members.filterMap fun member => member.2.map (member.1, ·)).reverse.find? (·.1 == key)).map Prod.snd =
      (members.find? (·.1 == key)).bind Prod.snd := by
  induction members with
  | nil => rfl
  | cons member rest ih =>
    obtain ⟨name, value⟩ := member
    obtain ⟨apart, distinctRest⟩ := List.nodup_cons.mp distinct
    have later := ih distinctRest
    by_cases here : name = key
    · subst here
      have missing : (rest.find? (·.1 == name)).bind Prod.snd = none := by
        have absent : rest.find? (·.1 == name) = none := by
          rw [List.find?_eq_none]
          intro other member same
          exact apart (List.mem_map.mpr ⟨other, member, beq_iff_eq.mp same⟩)
        rw [absent, Option.bind_none]
      rw [missing, Option.map_eq_none_iff] at later
      cases value with
      | none => simpa using later
      | some value => simp [later]
    · have skip (item : Json) : ((rest.filterMap fun member => member.2.map (member.1, ·)).reverse ++ [(name, item)]).find?
          (·.1 == key) = (rest.filterMap fun member => member.2.map (member.1, ·)).reverse.find? (·.1 == key) := by
        rw [List.find?_append, List.find?_cons_of_neg (by simpa using here), List.find?_nil, Option.or_none]
      cases value with
      | none => simpa [here] using later
      | some value =>
        rw [List.filterMap_cons_some (by rfl), List.reverse_cons, skip, later, List.find?_cons_of_neg (by simpa using here)]

theorem get_present {members : List (String × Option Json)} (distinct : (members.map Prod.fst).Nodup) (key : String) :
    (present members).get key = (members.find? (·.1 == key)).bind Prod.snd :=
  find_present members key distinct

end Json

end RustConnect
