import RustConnect.Trimming

namespace RustConnect

/-- What is read off a vCard. -/
structure VcardFields where
  name : Option String
  phones : List String
  emails : List String
  deriving DecidableEq

namespace VCard

def consHead (c : Char) : List (List Char) → List (List Char)
  | [] => [[c]]
  | first :: more => (c :: first) :: more

/-- `str::lines`: a carriage return ends a line only together with the newline after it. -/
def lines : List Char → List (List Char)
  | [] => []
  | c :: rest =>
    if c = '\n' then [] :: lines rest
    else if c = '\r' ∧ rest.head? = some '\n' then lines rest
    else consHead c (lines rest)

/-- `trim_end_matches('\r')` -/
def trimReturns (chars : List Char) : List Char := (chars.reverse.dropWhile (· = '\r')).reverse

def continues (raw : List Char) : Bool := raw.head? = some ' ' || raw.head? = some '\t'

/-- `last.push_str` on the last line. -/
def pushLast (more : List Char) : List (List Char) → List (List Char)
  | [] => []
  | [last] => [last ++ more]
  | first :: second :: rest => first :: pushLast more (second :: rest)

def unfoldLine (done : List (List Char)) (raw : List Char) : List (List Char) :=
  if continues raw ∧ done ≠ [] then pushLast (trimStart raw) done else done ++ [trimReturns raw]

def unfoldLines (raws : List (List Char)) : List (List Char) := raws.foldl unfoldLine []

/-- The text before and after the first separator. -/
def splitFirst (separator : Char) : List Char → Option (List Char × List Char)
  | [] => none
  | c :: rest =>
    if c = separator then some ([], rest) else (splitFirst separator rest).map fun parts => (c :: parts.1, parts.2)

/-- The name of a property in capitals, without the group before it. -/
def property (raw : List Char) : List Char :=
  match splitFirst '.' (raw.map Char.toUpper) with
  | some (group, rest) => if ';' ∈ group then raw.map Char.toUpper else rest
  | none => raw.map Char.toUpper

inductive Field
  | fn
  | tel
  | email
  deriving DecidableEq

def Field.text : Field → String
  | fn => "FN"
  | tel => "TEL"
  | email => "EMAIL"

/-- With or without parameters. -/
def Field.matches (field : Field) (prop : List Char) : Bool :=
  prop = field.text.toList || (field.text.toList ++ [';']).isPrefixOf prop

def fieldOf (raw : List Char) : Option Field := [Field.fn, .tel, .email].find? fun field => field.matches (property raw)

def readLine (fields : VcardFields) (line : List Char) : VcardFields :=
  match splitFirst ':' line with
  | none => fields
  | some (raw, rest) =>
    let value := trimChars rest
    if value = [] then fields
    else
      match fieldOf raw with
      | some .fn => if fields.name.isNone then { fields with name := some (String.ofList value) } else fields
      | some .tel => { fields with phones := fields.phones ++ [String.ofList value] }
      | some .email => { fields with emails := fields.emails ++ [String.ofList value] }
      | none => fields

def readLines (unfolded : List (List Char)) : VcardFields := unfolded.foldl readLine ⟨none, [], []⟩

def parseVcardFields (vcard : String) : VcardFields := readLines (unfoldLines (lines vcard.toList))

/-- What a line says about a field. -/
def valueOf (field : Field) (line : List Char) : Option (List Char) :=
  (splitFirst ':' line).bind fun parts =>
    if fieldOf parts.1 = some field ∧ trimChars parts.2 ≠ [] then some (trimChars parts.2) else none

def valuesOf (field : Field) (unfolded : List (List Char)) : List (List Char) := unfolded.filterMap (valueOf field)

theorem readLine_eq (fields : VcardFields) (line : List Char) :
    readLine fields line =
      ⟨fields.name.or ((valueOf .fn line).map String.ofList),
        fields.phones ++ ((valueOf .tel line).map String.ofList).toList,
        fields.emails ++ ((valueOf .email line).map String.ofList).toList⟩ := by
  rw [readLine]
  cases split : splitFirst ':' line with
  | none => simp [valueOf, split]
  | some parts =>
    obtain ⟨raw, rest⟩ := parts
    by_cases blank : trimChars rest = []
    · simp [valueOf, split, blank]
    · cases field : fieldOf raw with
      | none => simp [valueOf, split, field]
      | some read =>
        cases read with
        | fn =>
          cases name : fields.name with
          | none => simp [valueOf, split, field, blank]
          | some known => cases fields; simp_all [valueOf]
        | tel => simp [valueOf, split, field, blank]
        | email => simp [valueOf, split, field, blank]

/-- The loop keeps the first name and every number and address. -/
theorem foldl_readLine (fields : VcardFields) (unfolded : List (List Char)) :
    unfolded.foldl readLine fields =
      ⟨fields.name.or ((valuesOf .fn unfolded).head?.map String.ofList),
        fields.phones ++ (valuesOf .tel unfolded).map String.ofList,
        fields.emails ++ (valuesOf .email unfolded).map String.ofList⟩ := by
  induction unfolded generalizing fields with
  | nil => simp [valuesOf]
  | cons line rest ih =>
    rw [List.foldl_cons, ih, readLine_eq]
    simp only [valuesOf, List.filterMap_cons]
    refine VcardFields.mk.injEq .. |>.mpr ⟨?_, ?_, ?_⟩
    · cases valueOf .fn line <;> simp
    · cases valueOf .tel line <;> simp
    · cases valueOf .email line <;> simp

theorem readLines_eq (unfolded : List (List Char)) :
    readLines unfolded = ⟨(valuesOf .fn unfolded).head?.map String.ofList, (valuesOf .tel unfolded).map String.ofList,
      (valuesOf .email unfolded).map String.ofList⟩ := by
  rw [readLines, foldl_readLine]
  simp

theorem ofList_injective : Function.Injective String.ofList := fun first second same => by
  have chars := congrArg String.toList same
  rwa [String.toList_ofList, String.toList_ofList] at chars

theorem valuesOf_append (field : Field) (first second : List (List Char)) :
    valuesOf field (first ++ second) = valuesOf field first ++ valuesOf field second := List.filterMap_append

theorem valuesOf_cons (field : Field) (line : List Char) (rest : List (List Char)) :
    valuesOf field (line :: rest) = (valueOf field line).toList ++ valuesOf field rest := by
  rw [valuesOf, List.filterMap_cons]
  cases valueOf field line <;> rfl

theorem toList_inj {α : Type} {first second : Option α} : first.toList = second.toList ↔ first = second := by
  cases first <;> cases second <;> simp

/-- Two lines in the same place are read alike: the numbers and addresses in
them are the same, and so is the name, unless there was one already. -/
theorem readLines_middle (before : List (List Char)) (first second : List Char) (after : List (List Char)) :
    readLines (before ++ first :: after) = readLines (before ++ second :: after) ↔
      valueOf .tel first = valueOf .tel second ∧ valueOf .email first = valueOf .email second ∧
        (valuesOf .fn before ≠ [] ∨
          (valueOf .fn first).or (valuesOf .fn after).head? = (valueOf .fn second).or (valuesOf .fn after).head?) := by
  have many : Function.Injective (List.map String.ofList) := List.map_injective_iff.mpr ofList_injective
  have one : Function.Injective (Option.map String.ofList) := Option.map_injective ofList_injective
  have lists (field : Field) : valuesOf field (before ++ first :: after) = valuesOf field (before ++ second :: after) ↔
      valueOf field first = valueOf field second := by
    rw [valuesOf_append, valuesOf_append, valuesOf_cons, valuesOf_cons, List.append_cancel_left_eq,
      List.append_cancel_right_eq, toList_inj]
  have names (line : List Char) : (valuesOf .fn (before ++ line :: after)).head? =
      (valuesOf .fn before).head?.or ((valueOf .fn line).or (valuesOf .fn after).head?) := by
    rw [valuesOf_append, valuesOf_cons, List.head?_append, List.head?_append, Option.head?_toList]
  rw [readLines_eq, readLines_eq, VcardFields.mk.injEq, many.eq_iff, many.eq_iff, one.eq_iff, lists, lists, names, names]
  cases known : valuesOf .fn before with
  | nil =>
    simp only [List.head?_nil, Option.none_or, ne_eq, not_true_eq_false, false_or]
    exact ⟨fun ⟨name, tel, email⟩ => ⟨tel, email, name⟩, fun ⟨tel, email, name⟩ => ⟨name, tel, email⟩⟩
  | cons name more => simp

end VCard

end RustConnect
