import Mathlib

/-- What a path of a Unix system is made of; a path is compared and joined by its components. -/
inductive UnixPath.Component
  | rootDir
  | curDir
  | parentDir
  | normal (name : String)
  deriving DecidableEq

namespace UnixPath

abbrev Path := List Component

def isAbsolute (text : String) : Bool := text.toList.head? == some '/'

def pieces (text : String) : List String := (text.toList.splitOn '/').map String.ofList

/-- Repeated separators and dots within a path stand for nothing. -/
def ofPiece (piece : String) : Option Component :=
  if piece = "" ∨ piece = "." then none else if piece = ".." then some .parentDir else some (.normal piece)

/-- The dot at the very beginning of a relative path is kept. -/
def leading (text : String) : Path :=
  if isAbsolute text then [.rootDir] else if (pieces text).head? = some "." then [.curDir] else []

def components (text : String) : Path := leading text ++ (pieces text).filterMap ofPiece

/-- `join`; an absolute path takes the place of the one it is joined to. -/
def push (path : Path) (text : String) : Path :=
  if isAbsolute text ∨ path = [] then components text else path ++ (components text).filter (· ≠ .curDir)

def fileName (path : Path) : Option String :=
  match path.getLast? with
  | some (.normal name) => some name
  | _ => none

/-- The characters before and after the last dot. -/
def splitLastDot : List Char → Option (List Char × List Char)
  | [] => none
  | c :: rest =>
    match splitLastDot rest with
    | some (before, after) => some (c :: before, after)
    | none => if c = '.' then some ([], rest) else none

def rsplitFileAtDot (file : String) : Option String × Option String :=
  if file = ".." then (some file, none)
  else
    match splitLastDot file.toList with
    | none => (none, some file)
    | some ([], _) => (some file, none)
    | some (before, after) => (some (String.ofList before), some (String.ofList after))

def fileStem (path : Path) : Option String :=
  (fileName path).bind fun file => (rsplitFileAtDot file).1.or (rsplitFileAtDot file).2

def extension (path : Path) : Option String :=
  (fileName path).bind fun file => (rsplitFileAtDot file).1.bind fun _ => (rsplitFileAtDot file).2

/-- Nothing is taken off a root. -/
def pop (path : Path) : Path := if path.getLast? = some .rootDir then path else path.dropLast

def withFileName (path : Path) (name : String) : Path := push (if (fileName path).isSome then pop path else path) name

/-- A text that is a single normal component as it stands. -/
structure IsName (name : String) : Prop where
  nonempty : name ≠ ""
  notDot : name ≠ "."
  notDots : name ≠ ".."
  noSlash : '/' ∉ name.toList

theorem not_mem_of_mem_splitOn {chars piece : List Char} {separator : Char} (mem : piece ∈ chars.splitOn separator) :
    separator ∉ piece := by
  induction chars generalizing piece with
  | nil =>
    obtain rfl : piece = [] := by simpa using mem
    exact List.not_mem_nil
  | cons c rest ih =>
    rw [List.splitOn_cons_eq_if_modifyHead] at mem
    obtain ⟨first, more, whole⟩ := List.exists_cons_of_ne_nil (List.splitOn_ne_nil separator rest)
    split_ifs at mem with separates
    · rcases List.mem_cons.mp mem with rfl | later
      · exact List.not_mem_nil
      · exact ih later
    · rw [whole, List.modifyHead_cons] at mem
      rcases List.mem_cons.mp mem with rfl | later
      · have apart : separator ≠ c := fun same => separates (by simp [same])
        have clean : separator ∉ first := ih (by rw [whole]; exact List.mem_cons_self)
        rintro (_ | ⟨_, inside⟩)
        · exact apart rfl
        · exact clean inside
      · exact ih (by rw [whole]; exact List.mem_cons_of_mem first later)

theorem isName_of_mem_components {text name : String} (mem : .normal name ∈ components text) : IsName name := by
  rcases List.mem_append.mp mem with first | later
  · rw [leading] at first
    split_ifs at first
    · simp at first
    · simp at first
    · simp at first
  · obtain ⟨piece, within, stands⟩ := List.mem_filterMap.mp later
    rw [ofPiece] at stands
    split_ifs at stands with nothing dots
    · simp at stands
    · obtain rfl : piece = name := by simpa using stands
      obtain ⟨chars, split, rfl⟩ := List.mem_map.mp within
      refine ⟨fun empty => nothing (.inl empty), fun dot => nothing (.inr dot), dots, ?_⟩
      rw [String.toList_ofList]
      exact not_mem_of_mem_splitOn split

namespace IsName

variable {name : String} (plain : IsName name)

include plain

theorem pieces : pieces name = [name] := by
  rw [UnixPath.pieces, List.splitOn_eq_singleton plain.noSlash, List.map_singleton, String.ofList_toList]

theorem isAbsolute : isAbsolute name = false := by
  cases start : name.toList with
  | nil => rw [UnixPath.isAbsolute, start]; rfl
  | cons c rest =>
    have apart : c ≠ '/' := by
      rintro rfl
      exact plain.noSlash (by rw [start]; exact List.mem_cons_self)
    simp [UnixPath.isAbsolute, start, apart]

theorem components : components name = [.normal name] := by
  have stands : ofPiece name = some (.normal name) := by
    rw [ofPiece, if_neg (by rintro (empty | dot); exacts [plain.nonempty empty, plain.notDot dot]), if_neg plain.notDots]
  have starts : leading name = [] := by
    rw [leading, plain.isAbsolute, plain.pieces]
    simp [plain.notDot]
  rw [UnixPath.components, starts, plain.pieces, List.filterMap_cons_some stands]
  rfl

/-- Joined to any path, a name is one more component. -/
theorem push (path : Path) : push path name = path ++ [.normal name] := by
  rw [UnixPath.push, plain.components, plain.isAbsolute]
  cases path with
  | nil => rfl
  | cons first more => rfl

end IsName

theorem fileName_concat (path : Path) (name : String) : fileName (path ++ [.normal name]) = some name := by
  rw [fileName, List.getLast?_concat]

theorem withFileName_concat (path : Path) (name : String) {other : String} (plain : IsName other) :
    withFileName (path ++ [.normal name]) other = path ++ [.normal other] := by
  have popped : pop (path ++ [.normal name]) = path := by
    rw [pop, List.getLast?_concat, if_neg (by simp), List.dropLast_concat]
  rw [withFileName, fileName_concat, Option.isSome_some, if_pos rfl, popped, plain.push]

theorem splitLastDot_eq_some {chars before after : List Char} (found : splitLastDot chars = some (before, after)) :
    chars = before ++ '.' :: after := by
  induction chars generalizing before with
  | nil => cases found
  | cons c rest ih =>
    rw [splitLastDot] at found
    split at found
    · rename_i first last split
      cases found
      rw [ih split, List.cons_append]
    · split_ifs at found with dot
      cases found
      rw [dot]
      rfl

/-- A file name with the given stem and extension. -/
def joinedName (stem : String) : Option String → String
  | none => stem
  | some extension => stem ++ "." ++ extension

/-- A name is put together from its stem, which is not empty, and its extension. -/
theorem IsName.parts {name : String} (plain : IsName name) (path : Path) :
    ∃ stem last, fileStem (path ++ [.normal name]) = some stem ∧ extension (path ++ [.normal name]) = last ∧
      name = joinedName stem last ∧ stem ≠ "" := by
  rw [fileStem, extension, fileName_concat, Option.bind_some, Option.bind_some, rsplitFileAtDot, if_neg plain.notDots]
  cases found : splitLastDot name.toList with
  | none => exact ⟨name, none, rfl, rfl, rfl, plain.nonempty⟩
  | some both =>
    obtain ⟨before, after⟩ := both
    cases before with
    | nil => exact ⟨name, none, rfl, rfl, rfl, plain.nonempty⟩
    | cons c before =>
      have whole := splitLastDot_eq_some found
      refine ⟨String.ofList (c :: before), some (String.ofList after), rfl, rfl, ?_, by simp⟩
      apply String.toList_inj.mp
      simp [whole, joinedName]

end UnixPath
