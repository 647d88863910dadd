import Mathlib
import RustConnect.Base.UnixPath
import RustConnect.Types

namespace RustConnect

/-- What a path can lead to; an entry is there whatever it is. -/
inductive Entry
  | file (content : Bytes)
  | directory
  | symlink (target : String)
  deriving DecidableEq

abbrev Entries := UnixPath.Path → Option Entry

inductive OpenError
  | alreadyExists
  | other (message : String)
  deriving DecidableEq

namespace DownloadNames

open UnixPath

def sanitizeFilename (filename : String) : Option String :=
  if isAbsolute filename then none
  else if (components filename).contains .parentDir then none
  else
    (components filename).reverse.findSome? fun
      | .normal name => some name
      | _ => none

def numbered (stem : String) (copy : Nat) : Option String → String
  | some extension => s!"{stem} ({copy}).{extension}"
  | none => s!"{stem} ({copy})"

def collisionCandidate (path : UnixPath.Path) (copy : Nat) : UnixPath.Path :=
  if copy = 0 then path
  else withFileName path (numbered ((fileStem path).getD "shared_file") copy (extension path))

/-- An exclusive `open`; `refuses` is what else the system may have against a path. -/
def openNew (refuses : UnixPath.Path → Option String) (entries : Entries) (path : UnixPath.Path) :
    Except OpenError Entries :=
  match refuses path with
  | some message => .error (.other message)
  | none =>
    if (entries path).isSome then .error .alreadyExists
    else .ok (Function.update entries path (some (.file [])))

def createFrom (refuses : UnixPath.Path → Option String) (entries : Entries) (desired : UnixPath.Path) :
    List Nat → Except Error UnixPath.Path × Entries
  | [] => (.error (.io "Failed to choose a unique destination filename"), entries)
  | copy :: rest =>
    match openNew refuses entries (collisionCandidate desired copy) with
    | .ok entries => (.ok (collisionCandidate desired copy), entries)
    | .error .alreadyExists => createFrom refuses entries desired rest
    | .error (.other message) => (.error (.io s!"Failed to create destination file: {message}"), entries)

/-- `create_unique_destination`: the path whose file is open, and the entries afterwards. -/
def createUniqueDestination (refuses : UnixPath.Path → Option String) (entries : Entries) (desired : UnixPath.Path) :
    Except Error UnixPath.Path × Entries :=
  createFrom refuses entries desired (List.range 10000)

theorem sanitizeFilename_isName {filename name : String} (accepted : sanitizeFilename filename = some name) :
    IsName name := by
  rw [sanitizeFilename] at accepted
  split_ifs at accepted
  obtain ⟨component, within, stands⟩ := List.exists_of_findSome?_eq_some accepted
  split at stands
  · rename_i inner
    obtain rfl := Option.some.inj stands
    exact isName_of_mem_components (List.mem_reverse.mp within)
  · cases stands

theorem sanitizeFilename_name {name : String} (plain : IsName name) : sanitizeFilename name = some name := by
  rw [sanitizeFilename, plain.isAbsolute, plain.components]
  rfl

theorem toList_numbered (stem : String) (copy : Nat) (last : Option String) :
    (numbered stem copy last).toList =
      stem.toList ++ (' ' :: '(' :: Nat.toDigits 10 copy) ++ (')' :: last.elim [] fun extension => '.' :: extension.toList) := by
  have texts (text : String) : toString text = text := rfl
  cases last with
  | none => simp [numbered, texts]
  | some extension => simp [numbered, texts]

theorem toList_joinedName (stem : String) (last : Option String) :
    (joinedName stem last).toList = stem.toList ++ last.elim [] fun extension => '.' :: extension.toList := by
  cases last with
  | none => simp [joinedName]
  | some extension => simp [joinedName]

theorem numbered_inj {stem : String} {last : Option String} {first second : Nat}
    (same : numbered stem first last = numbered stem second last) : first = second := by
  have chars := congrArg String.toList same
  rw [toList_numbered, toList_numbered] at chars
  have spaced := List.append_cancel_left (List.append_cancel_right chars)
  have digits : Nat.toDigits 10 first = Nat.toDigits 10 second := by simpa using spaced
  exact Nat.repr_injective (by rw [Nat.repr_eq_ofList_toDigits, Nat.repr_eq_ofList_toDigits, digits])

theorem numbered_ne (stem : String) (copy : Nat) (last : Option String) : numbered stem copy last ≠ joinedName stem last := by
  intro same
  have lengths := congrArg (fun text => text.toList.length) same
  simp only [toList_numbered, toList_joinedName, List.length_append, List.length_cons] at lengths
  omega

theorem isName_numbered {stem : String} {last : Option String} (plain : IsName (joinedName stem last)) (copy : Nat) :
    IsName (numbered stem copy last) := by
  have spaced : ' ' ∈ (numbered stem copy last).toList := by
    rw [toList_numbered]
    simp
  have apart {other : String} (clean : ' ' ∉ other.toList) : numbered stem copy last ≠ other := by
    rintro rfl
    exact clean spaced
  have digits : '/' ∉ Nat.toDigits 10 copy := by
    intro inside
    have digit := Nat.isDigit_of_mem_toDigits (by decide) (by decide) inside
    exact absurd digit (by decide)
  have clean := plain.noSlash
  rw [toList_joinedName, List.mem_append, not_or] at clean
  refine ⟨apart (by decide), apart (by decide), apart (by decide), ?_⟩
  rw [toList_numbered]
  simp [clean.1, clean.2, digits]

/-- The candidates for a name lie beside each other in the directory. -/
structure Candidates (downloadDir : UnixPath.Path) (name : String) (named : Nat → String) : Prop where
  first : named 0 = name
  here : ∀ copy, collisionCandidate (push downloadDir name) copy = downloadDir ++ [.normal (named copy)]
  plain : ∀ copy, IsName (named copy)
  distinct : Function.Injective named

theorem candidates {name : String} (plain : IsName name) (downloadDir : UnixPath.Path) :
    ∃ named, Candidates downloadDir name named := by
  obtain ⟨stem, last, stemmed, extended, rfl, -⟩ := plain.parts downloadDir
  refine ⟨fun copy => if copy = 0 then joinedName stem last else numbered stem copy last, rfl, fun copy => ?_, fun copy => ?_,
    fun i j same => ?_⟩
  · rw [plain.push, collisionCandidate, stemmed, extended, Option.getD_some]
    split_ifs
    · rfl
    · exact withFileName_concat downloadDir _ (isName_numbered plain copy)
  · split_ifs
    · exact plain
    · exact isName_numbered plain copy
  · split_ifs at same with zero zero' zero'
    · omega
    · exact absurd same.symm (numbered_ne stem j last)
    · exact absurd same (numbered_ne stem i last)
    · exact numbered_inj same

/-- What the candidates with the numbers from `first` on, below `last`, come to. -/
structure Created (refuses : UnixPath.Path → Option String) (entries : Entries) (candidate : Nat → UnixPath.Path)
    (first last : Nat) (run : Except Error UnixPath.Path × Entries) : Prop where
  opened : ∀ path, run.1 = .ok path → ∃ k, first ≤ k ∧ k < last ∧ path = candidate k ∧
    (∀ j, first ≤ j → j < k → (entries (candidate j)).isSome) ∧ entries path = none ∧
    run.2 = Function.update entries path (some (.file []))
  failed : ∀ e, run.1 = .error e → run.2 = entries
  found : ∀ k, first ≤ k → k < last → (∀ j, first ≤ j → j < k → (entries (candidate j)).isSome) →
    entries (candidate k) = none → (∀ j, first ≤ j → j ≤ k → refuses (candidate j) = none) → run.1 = .ok (candidate k)
  refused : ∀ k message, first ≤ k → k < last → (∀ j, first ≤ j → j < k → (entries (candidate j)).isSome) →
    (∀ j, first ≤ j → j < k → refuses (candidate j) = none) → refuses (candidate k) = some message →
    run.1 = .error (.io s!"Failed to create destination file: {message}")

/-- A candidate that exists is passed over. -/
theorem Created.skip {refuses : UnixPath.Path → Option String} {entries : Entries} {candidate : Nat → UnixPath.Path}
    {first last : Nat} {run : Except Error UnixPath.Path × Entries} (present : (entries (candidate first)).isSome)
    (open_ : refuses (candidate first) = none) (later : Created refuses entries candidate (first + 1) last run) :
    Created refuses entries candidate first last run := by
  refine ⟨fun path returned => ?_, later.failed, fun k from_ below taken absent allowed => ?_,
    fun k message from_ below taken allowed against => ?_⟩
  · obtain ⟨k, after, below, same, taken, absent, updated⟩ := later.opened path returned
    refine ⟨k, by omega, below, same, fun j from_ before => ?_, absent, updated⟩
    rcases Nat.eq_or_lt_of_le from_ with rfl | after
    · exact present
    · exact taken j after before
  · have apart : first ≠ k := by
      rintro rfl
      rw [absent] at present
      cases present
    exact later.found k (by omega) below (fun j after => taken j (by omega)) absent fun j after => allowed j (by omega)
  · have apart : first ≠ k := by
      rintro rfl
      rw [open_] at against
      cases against
    exact later.refused k message (by omega) below (fun j after => taken j (by omega)) (fun j after => allowed j (by omega)) against

theorem createFrom_created (refuses : UnixPath.Path → Option String) (entries : Entries) (desired : UnixPath.Path)
    (first count : Nat) :
    Created refuses entries (collisionCandidate desired) first (first + count)
      (createFrom refuses entries desired (List.range' first count)) := by
  induction count generalizing first with
  | zero => exact ⟨nofun, fun _ _ => rfl, fun k from_ below => by omega, fun k _ from_ below => by omega⟩
  | succ count ih =>
    rw [List.range'_succ, createFrom, openNew]
    cases against : refuses (collisionCandidate desired first) with
    | some message =>
      refine ⟨nofun, fun _ _ => rfl, fun k from_ _ _ _ allowed => ?_, fun k other from_ _ _ allowed refused => ?_⟩
      · rw [allowed first (Nat.le_refl first) from_] at against
        cases against
      · rcases Nat.eq_or_lt_of_le from_ with rfl | after
        · obtain rfl := Option.some.inj (against.symm.trans refused)
          rfl
        · rw [allowed first (Nat.le_refl first) after] at against
          cases against
    | none =>
      cases present : entries (collisionCandidate desired first) with
      | none =>
        refine ⟨fun path returned => ?_, nofun, fun k from_ _ taken _ _ => ?_, fun k message from_ _ taken _ refused => ?_⟩
        · obtain rfl : collisionCandidate desired first = path := Except.ok.inj returned
          exact ⟨first, Nat.le_refl first, by omega, rfl, fun j from_ before => by omega, present, rfl⟩
        · rcases Nat.eq_or_lt_of_le from_ with rfl | after
          · rfl
          · have there := taken first (Nat.le_refl first) after
            rw [present] at there
            cases there
        · rcases Nat.eq_or_lt_of_le from_ with rfl | after
          · rw [against] at refused
            cases refused
          · have there := taken first (Nat.le_refl first) after
            rw [present] at there
            cases there
      | some entry =>
        have later := ih (first + 1)
        rw [show first + 1 + count = first + (count + 1) by omega] at later
        exact later.skip (by rw [present]; rfl) against

theorem createUniqueDestination_created (refuses : UnixPath.Path → Option String) (entries : Entries)
    (desired : UnixPath.Path) :
    Created refuses entries (collisionCandidate desired) 0 10000 (createUniqueDestination refuses entries desired) := by
  rw [createUniqueDestination, List.range_eq_range']
  exact createFrom_created refuses entries desired 0 10000

/-- No entry that was there is opened or changed. -/
theorem Created.kept {refuses : UnixPath.Path → Option String} {entries : Entries} {candidate : Nat → UnixPath.Path}
    {first last : Nat} {run : Except Error UnixPath.Path × Entries}
    (created : Created refuses entries candidate first last run) {path : UnixPath.Path} {entry : Entry}
    (present : entries path = some entry) : run.1 ≠ .ok path ∧ run.2 path = some entry := by
  rcases ran : run.1 with e | opened
  · refine ⟨nofun, ?_⟩
    rw [created.failed e ran, present]
  · obtain ⟨-, -, -, -, -, absent, updated⟩ := created.opened opened ran
    have apart : path ≠ opened := by
      rintro rfl
      rw [absent] at present
      cases present
    refine ⟨fun same => apart (Except.ok.inj same).symm, ?_⟩
    rw [updated, Function.update_of_ne apart, present]

/-- The name that a peer gave is refused, or it becomes one that stays as it is
and whose candidates are distinct files of the directory; of these the first
that does not exist is created, unless the system refuses one of them up to it,
which is the error then; and nothing that exists is touched. -/
theorem download_contained (filename : String) (downloadDir : UnixPath.Path)
    (refuses : UnixPath.Path → Option String) (entries : Entries) :
    ∀ name, sanitizeFilename filename = some name →
      components name = [.normal name] ∧ sanitizeFilename name = some name ∧
      (∃ named, Candidates downloadDir name named) ∧
      Created refuses entries (collisionCandidate (push downloadDir name)) 0 10000
        (createUniqueDestination refuses entries (push downloadDir name)) ∧
      ∀ path entry, entries path = some entry →
        (createUniqueDestination refuses entries (push downloadDir name)).1 ≠ .ok path ∧
        (createUniqueDestination refuses entries (push downloadDir name)).2 path = some entry := by
  intro name accepted
  have plain := sanitizeFilename_isName accepted
  have created := createUniqueDestination_created refuses entries (push downloadDir name)
  exact ⟨plain.components, sanitizeFilename_name plain, candidates plain downloadDir, created,
    fun _ _ present => created.kept present⟩

/-- A dot at the end is an extension that is empty. -/
example : sanitizeFilename "a//b/x." = some "x." ∧
    collisionCandidate (push [.normal "Downloads"] "x.") 2 = [.normal "Downloads", .normal "x (2)."] := by
  decide +kernel

/-- A symlink has the name that a peer sends. -/
def linked : Entries := Function.update (fun _ => none) [.normal "Downloads", .normal "x."] (some (.symlink "/etc/passwd"))

theorem download_beside_symlink :
    (createUniqueDestination (fun _ => none) linked (push [.normal "Downloads"] "x.")).1 =
      .ok [.normal "Downloads", .normal "x (1)."] := by
  have contained := download_contained "a//b/x." [.normal "Downloads"] (fun _ => none) linked "x." (by decide +kernel)
  have absent : linked (collisionCandidate (push [.normal "Downloads"] "x.") 1) = none := by decide +kernel
  have taken (j : Nat) (_ : 0 ≤ j) (before : j < 1) : (linked (collisionCandidate (push [.normal "Downloads"] "x.") j)).isSome := by
    obtain rfl : j = 0 := by omega
    decide +kernel
  rw [contained.2.2.2.1.found 1 (by omega) (by omega) taken absent fun _ _ _ => rfl]
  decide +kernel

/-- The file system's bound on the length of a name. -/
def refusesLong (path : UnixPath.Path) : Option String :=
  match path.getLast? with
  | some (.normal name) => if 255 < name.utf8ByteSize then some "File name too long (os error 36)" else none
  | _ => none

def longName : String := String.ofList (List.replicate 256 'a')

theorem isName_longName : IsName longName := by
  have letters : longName.toList = List.replicate 256 'a' := String.toList_ofList
  have apart {other : String} (short : other.toList.length ≠ 256) : longName ≠ other := by
    rintro rfl
    rw [letters, List.length_replicate] at short
    exact short rfl
  refine ⟨apart (by decide), apart (by decide), apart (by decide), fun slash => ?_⟩
  rw [letters] at slash
  exact absurd (List.eq_of_mem_replicate slash) (by decide)

theorem refusesLong_longName :
    refusesLong (collisionCandidate (push [.normal "Downloads"] longName) 0) = some "File name too long (os error 36)" := by
  have long : 255 < longName.utf8ByteSize := by decide +kernel
  rw [collisionCandidate, if_pos rfl, isName_longName.push, refusesLong, List.getLast?_concat]
  exact if_pos long

/-- A name of 256 letters is taken from the peer, but no file of that name can be created. -/
theorem long_name_refused :
    ¬∀ (filename name : String) (downloadDir : UnixPath.Path) (refuses : UnixPath.Path → Option String) (entries : Entries),
      sanitizeFilename filename = some name → ∀ k < 10000,
        (∀ j < k, (entries (collisionCandidate (push downloadDir name) j)).isSome) →
        entries (collisionCandidate (push downloadDir name) k) = none →
        (createUniqueDestination refuses entries (push downloadDir name)).1 = .ok (collisionCandidate (push downloadDir name) k) := by
  intro always
  have created := always longName longName [.normal "Downloads"] refusesLong (fun _ => none) (sanitizeFilename_name isName_longName)
    0 (by omega) (fun _ before => absurd before (Nat.not_lt_zero _)) rfl
  have refused := (createUniqueDestination_created refusesLong (fun _ => none) (push [.normal "Downloads"] longName)).refused
    0 _ (Nat.le_refl 0) (by omega) (fun _ _ before => absurd before (Nat.not_lt_zero _))
    (fun _ _ before => absurd before (Nat.not_lt_zero _)) refusesLong_longName
  rw [refused] at created
  cases created

end DownloadNames

end RustConnect
