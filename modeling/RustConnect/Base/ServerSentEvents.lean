import Mathlib

namespace ServerSentEvents

/-- What the lines of a block say. -/
structure Block where
  id : Option String := none
  event : Option String := none
  data : List String := []
  comments : List String := []
  deriving DecidableEq, Repr

/-- The lines of a text, each ended by a line feed, a carriage return or both. -/
def lines (line : List Char) : List Char → List (List Char)
  | [] => []
  | '\n' :: rest => line :: lines [] rest
  | '\r' :: '\n' :: rest => line :: lines [] rest
  | '\r' :: rest => line :: lines [] rest
  | c :: rest => lines (line ++ [c]) rest

/-- The value of a field, without the one space that may come before it. -/
def valueOf : List Char → List Char
  | ' ' :: value => value
  | value => value

def Block.field (block : Block) (name : String) (value : List Char) : Block :=
  if name = "id" then if '\x00' ∈ value then block else { block with id := some (String.ofList value) }
  else if name = "event" then { block with event := some (String.ofList value) }
  else if name = "data" then { block with data := block.data ++ [String.ofList value] }
  else block

/-- What a line adds to a block: a comment, or a field with what comes after its colon. -/
def Block.add (block : Block) : List Char → Block
  | ':' :: comment => { block with comments := block.comments ++ [String.ofList comment] }
  | line => block.field (String.ofList (line.takeWhile (· ≠ ':'))) (valueOf ((line.dropWhile (· ≠ ':')).drop 1))

/-- The blocks that are ended by an empty line. -/
def blocks (block : Block) : List (List Char) → List Block
  | [] => []
  | [] :: rest => block :: blocks {} rest
  | (c :: line) :: rest => blocks (block.add (c :: line)) rest

def byteOrderMark : Char := '\uFEFF'

/-- The blocks of a stream. -/
def parse (text : String) : List Block :=
  blocks {} (lines [] (if text.toList.head? = some byteOrderMark then text.toList.tail else text.toList))

/-- A line that is not empty and has no end of a line in it. -/
def Plain (line : List Char) : Prop := line ≠ [] ∧ ∀ c ∈ line, c ≠ '\n' ∧ c ≠ '\r'

/-- The text of some lines, and an empty one after them. -/
def written (block : List (List Char)) : List Char := (block.map (· ++ ['\n'])).flatten ++ ['\n']

theorem lines_plain {body : List Char} (plain : ∀ c ∈ body, c ≠ '\n' ∧ c ≠ '\r') (line rest : List Char) :
    lines line (body ++ '\n' :: rest) = (line ++ body) :: lines [] rest := by
  induction body generalizing line with
  | nil => simp [lines]
  | cons c body ih =>
    obtain ⟨feed, carriage⟩ := plain c List.mem_cons_self
    have later := ih (fun d member => plain d (List.mem_cons_of_mem c member)) (line ++ [c])
    rw [List.cons_append, lines, later, List.append_assoc, List.singleton_append]
    · exact fun same => feed same
    · exact fun _ same => absurd same carriage
    · exact carriage

theorem lines_written {block : List (List Char)} (plain : ∀ line ∈ block, Plain line) (rest : List Char) :
    lines [] (written block ++ rest) = block ++ [] :: lines [] rest := by
  unfold written
  induction block with
  | nil => simp [lines]
  | cons line block ih =>
    have later := ih fun other member => plain other (List.mem_cons_of_mem line member)
    simp only [List.map_cons, List.flatten_cons, List.append_assoc, List.cons_append, List.nil_append] at later ⊢
    rw [lines_plain (plain line List.mem_cons_self).2, List.nil_append, later]

theorem blocks_lines {block : List (List Char)} (plain : ∀ line ∈ block, Plain line) (start : Block)
    (rest : List (List Char)) : blocks start (block ++ [] :: rest) = block.foldl Block.add start :: blocks {} rest := by
  induction block generalizing start with
  | nil => rfl
  | cons line block ih =>
    have later := ih fun other member => plain other (List.mem_cons_of_mem line member)
    cases line with
    | nil => exact absurd rfl (plain [] List.mem_cons_self).1
    | cons c line => exact later (start.add (c :: line))

theorem blocks_written {stream : List (List (List Char))} (plain : ∀ block ∈ stream, ∀ line ∈ block, Plain line) :
    blocks {} (lines [] (stream.map written).flatten) = stream.map (·.foldl Block.add {}) := by
  induction stream with
  | nil => rfl
  | cons block stream ih =>
    have later := ih fun other member => plain other (List.mem_cons_of_mem block member)
    have here := plain block List.mem_cons_self
    rw [List.map_cons, List.flatten_cons, lines_written here, blocks_lines here, later, List.map_cons]

/-- Blocks that are written line by line are read back. -/
theorem parse_written {stream : List (List (List Char))} {text : String} (plain : ∀ block ∈ stream, ∀ line ∈ block, Plain line)
    (same : text.toList = (stream.map written).flatten) (unmarked : text.toList.head? ≠ some byteOrderMark) :
    parse text = stream.map (·.foldl Block.add {}) := by
  rw [parse, if_neg unmarked, same, blocks_written plain]

theorem Block.add_field (block : Block) {name : List Char} (named : name ≠ []) (plain : ':' ∉ name) (value : List Char) :
    block.add (name ++ ':' :: ' ' :: value) = block.field (String.ofList name) value := by
  have before (c : Char) (member : c ∈ name) : decide (c ≠ ':') = true := decide_eq_true fun same => plain (same ▸ member)
  obtain ⟨c, rest, rfl⟩ := List.exists_cons_of_ne_nil named
  have first : c ≠ ':' := fun same => plain (same ▸ List.mem_cons_self)
  have whole : block.add ((c :: rest) ++ ':' :: ' ' :: value) =
      block.field (String.ofList (((c :: rest) ++ ':' :: ' ' :: value).takeWhile (· ≠ ':')))
        (valueOf ((((c :: rest) ++ ':' :: ' ' :: value).dropWhile (· ≠ ':')).drop 1)) := by
    rw [List.cons_append, Block.add]
    exact fun _ same => first (List.cons.inj same).1
  rw [whole, List.takeWhile_append_of_pos before, List.dropWhile_append_of_pos before]
  simp [valueOf]

end ServerSentEvents
