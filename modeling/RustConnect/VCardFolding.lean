import RustConnect.VCard

namespace RustConnect

namespace VCard

/-- A character within a line. -/
abbrev Inside (c : Char) : Prop := c ≠ '\r' ∧ c ≠ '\n'

theorem consHead_append (c : Char) (init : List (List Char)) {last : List Char} (nonempty : last ≠ []) :
    ∃ init' last', last' ≠ [] ∧
      ∀ suffix rest, consHead c (init ++ (last ++ suffix) :: rest) = init' ++ (last' ++ suffix) :: rest := by
  cases init with
  | nil => exact ⟨[], c :: last, List.cons_ne_nil c last, fun _ _ => rfl⟩
  | cons first more => exact ⟨(c :: first) :: more, last, nonempty, fun _ _ => rfl⟩

theorem lines_cons {c : Char} (inside : Inside c) (rest : List Char) : lines (c :: rest) = consHead c (lines rest) := by
  rw [lines, if_neg inside.2, if_neg fun both => inside.1 both.1]

/-- What follows a character of a line is read as if the line began with it. -/
theorem lines_split (before : List Char) (c : Char) :
    ∃ init last, last ≠ [] ∧ ∀ rest first more, lines (c :: rest) = (c :: first) :: more →
      lines (before ++ c :: rest) = init ++ (last ++ first) :: more := by
  induction before with
  | nil => exact ⟨[], [c], List.cons_ne_nil c [], fun rest first more here => here⟩
  | cons x before ih =>
    obtain ⟨init, last, nonempty, splits⟩ := ih
    by_cases newline : x = '\n'
    · refine ⟨[] :: init, last, nonempty, fun rest first more here => ?_⟩
      rw [List.cons_append, lines, if_pos newline, splits rest first more here]
      rfl
    · by_cases terminator : x = '\r' ∧ (before ++ [c]).head? = some '\n'
      · refine ⟨init, last, nonempty, fun rest first more here => ?_⟩
        have same : (before ++ c :: rest).head? = (before ++ [c]).head? := by cases before <;> rfl
        rw [List.cons_append, lines, if_neg newline, same, if_pos terminator, splits rest first more here]
      · obtain ⟨init', last', nonempty', glued⟩ := consHead_append x init nonempty
        refine ⟨init', last', nonempty', fun rest first more here => ?_⟩
        have same : (before ++ c :: rest).head? = (before ++ [c]).head? := by cases before <;> rfl
        rw [List.cons_append, lines, if_neg newline, same, if_neg terminator, splits rest first more here, glued]

theorem pushLast_concat (more : List Char) (init : List (List Char)) (last : List Char) :
    pushLast more (init ++ [last]) = init ++ [last ++ more] := by
  induction init with
  | nil => rfl
  | cons first init ih =>
    cases init with
    | nil => rfl
    | cons second init =>
      show first :: pushLast more (second :: (init ++ [last])) = _
      exact congrArg (first :: ·) ih

theorem unfoldLine_concat (init : List (List Char)) (last raw : List Char) :
    unfoldLine (init ++ [last]) raw =
      if continues raw then init ++ [last ++ trimStart raw] else init ++ [last] ++ [trimReturns raw] := by
  rw [unfoldLine, pushLast_concat]
  simp

/-- The lines after it add the same to a line, whatever it holds. -/
theorem foldl_unfoldLine (raws : List (List Char)) :
    ∃ more after, trimStart more = more ∧
      ∀ init last, raws.foldl unfoldLine (init ++ [last]) = init ++ (last ++ more) :: after := by
  induction raws with
  | nil => exact ⟨[], [], rfl, fun init last => by rw [List.foldl_nil, List.append_nil]⟩
  | cons raw raws ih =>
    obtain ⟨more, after, clean, unfolds⟩ := ih
    by_cases continuation : continues raw
    · refine ⟨trimStart raw ++ more, after, ?_, fun init last => ?_⟩
      · rw [trimStart_append, trimStart_trimStart]
        split_ifs with blank
        · rw [blank, clean]
          rfl
        · rfl
      · rw [List.foldl_cons, unfoldLine_concat, if_pos continuation, unfolds, List.append_assoc]
    · refine ⟨[], (trimReturns raw ++ more) :: after, rfl, fun init last => ?_⟩
      rw [List.foldl_cons, unfoldLine_concat, if_neg continuation, unfolds, List.append_nil, List.append_assoc]
      rfl

/-- A place between two characters of a line, in a text whose lines are free of carriage returns. -/
structure FoldPoint where
  before : List Char
  left : Char
  right : Char
  after : List Char
  insideLeft : Inside left
  insideRight : Inside right
  clean : ∀ line ∈ lines (before ++ left :: right :: after), '\r' ∉ line

/-- The ways to fold: which end of line, and which blank after it. -/
structure FoldStyle where
  crlf : Bool
  tab : Bool

def FoldStyle.blank (style : FoldStyle) : Char := if style.tab then '\t' else ' '

def FoldStyle.chars (style : FoldStyle) : List Char :=
  if style.crlf then ['\r', '\n', style.blank] else ['\n', style.blank]

theorem FoldStyle.inside (style : FoldStyle) : Inside style.blank := by
  rw [FoldStyle.blank]
  split_ifs
  · decide
  · decide

theorem FoldStyle.white (style : FoldStyle) : isWhiteSpace style.blank = true := by
  obtain ⟨crlf, tab⟩ := style
  cases tab <;> rfl

theorem FoldStyle.continues_blank (style : FoldStyle) (rest : List Char) : continues (style.blank :: rest) = true := by
  obtain ⟨crlf, tab⟩ := style
  cases tab <;> simp [FoldStyle.blank, continues]

theorem lines_newline (rest : List Char) : lines ('\n' :: rest) = [] :: lines rest := by
  rw [lines, if_pos rfl]

theorem lines_style (style : FoldStyle) {rest first : List Char} {more : List (List Char)} (here : lines rest = first :: more) :
    lines (style.chars ++ rest) = [] :: (style.blank :: first) :: more := by
  have spaced : lines ('\n' :: style.blank :: rest) = [] :: (style.blank :: first) :: more := by
    rw [lines_newline, lines_cons style.inside, here]
    rfl
  rw [FoldStyle.chars]
  split_ifs
  · show lines ('\r' :: '\n' :: style.blank :: rest) = _
    rw [lines, if_neg (by decide), if_pos ⟨rfl, rfl⟩, spaced]
  · exact spaced

theorem lines_inside {c : Char} (inside : Inside c) (rest : List Char) :
    ∃ first more, lines (c :: rest) = (c :: first) :: more := by
  rw [lines_cons inside]
  cases lines rest with
  | nil => exact ⟨[], [], rfl⟩
  | cons first more => exact ⟨first, more, rfl⟩

namespace FoldPoint

variable (point : FoldPoint)

def text : String := String.ofList (point.before ++ point.left :: point.right :: point.after)

def folded (style : FoldStyle) : String :=
  String.ofList (point.before ++ point.left :: (style.chars ++ point.right :: point.after))

/-- The lines up to the place, and those from the place on, as they come in the text. -/
def rawBefore : List (List Char) := lines (point.before ++ [point.left])

def rawAfter : List (List Char) := lines (point.right :: point.after)

/-- The place is in or right after the blanks that a continuation line begins with. -/
def InIndent : Prop :=
  ∃ init last, point.rawBefore = init ++ [last] ∧ init ≠ [] ∧ continues last = true ∧ trimStart last = []

/-- The lines of the text and of the folded text, by those before the place and those after it. -/
theorem lines_eq : ∃ init last first more, last ≠ [] ∧
    point.rawBefore = init ++ [last] ∧ point.rawAfter = (point.right :: first) :: more ∧
    lines point.text.toList = init ++ (last ++ point.right :: first) :: more ∧
    ∀ style, lines (point.folded style).toList = init ++ last :: (style.blank :: point.right :: first) :: more := by
  obtain ⟨init, last, nonempty, splits⟩ := lines_split point.before point.left
  obtain ⟨first, more, after⟩ := lines_inside point.insideRight point.after
  have before : point.rawBefore = init ++ [last] := by
    have alone := splits [] [] [] (lines_cons point.insideLeft [])
    rwa [List.append_nil] at alone
  have whole := splits (point.right :: point.after) (point.right :: first) more (by
    rw [lines_cons point.insideLeft, after]
    rfl)
  refine ⟨init, last, first, more, nonempty, before, after, ?_, fun style => ?_⟩
  · rw [text, String.toList_ofList, whole]
  · have folds := splits (style.chars ++ point.right :: point.after) [] ((style.blank :: point.right :: first) :: more) (by
      rw [lines_cons point.insideLeft, lines_style style after]
      rfl)
    rw [folded, String.toList_ofList, folds, List.append_nil]

end FoldPoint

theorem trimReturns_eq {chars : List Char} (clean : '\r' ∉ chars) : trimReturns chars = chars := by
  have kept : chars.reverse.dropWhile (· = '\r') = chars.reverse := by
    cases reversed : chars.reverse with
    | nil => rfl
    | cons c rest =>
      have member : c ∈ chars := List.mem_reverse.mp (by rw [reversed]; exact List.mem_cons_self)
      have apart : c ≠ '\r' := fun same => clean (same ▸ member)
      exact List.dropWhile_cons_of_neg (by simpa using apart)
  rw [trimReturns, kept, List.reverse_reverse]

theorem continues_append {first : List Char} (nonempty : first ≠ []) (second : List Char) :
    continues (first ++ second) = continues first := by
  cases first with
  | nil => exact absurd rfl nonempty
  | cons c rest => rfl

/-- A line is added to, or a new one begins. -/
theorem unfoldLine_cases (done : List (List Char)) (raw : List Char) :
    (∃ init last, done = init ++ [last] ∧ continues raw = true ∧
      ∀ raw, continues raw = true → unfoldLine done raw = init ++ [last ++ trimStart raw]) ∨
    ((continues raw = false ∨ done = []) ∧
      ∀ later, continues later = continues raw → unfoldLine done later = done ++ [trimReturns later]) := by
  rcases List.eq_nil_or_concat done with rfl | ⟨init, last, rfl⟩
  · exact .inr ⟨.inr rfl, fun later _ => by rw [unfoldLine, if_neg fun both => both.2 rfl]⟩
  · rw [List.concat_eq_append]
    cases continuation : continues raw with
    | false =>
      refine .inr ⟨.inl rfl, fun later same => ?_⟩
      rw [unfoldLine_concat, same]
      rfl
    | true =>
      refine .inl ⟨init, last, rfl, rfl, fun later here => ?_⟩
      rw [unfoldLine_concat, here]
      rfl

theorem unfoldLines_concat (raws : List (List Char)) (raw : List Char) :
    unfoldLines (raws ++ [raw]) = unfoldLine (unfoldLines raws) raw := by
  rw [unfoldLines, List.foldl_append]
  rfl

theorem unfoldLines_eq_nil {raws : List (List Char)} : unfoldLines raws = [] ↔ raws = [] := by
  rcases List.eq_nil_or_concat raws with rfl | ⟨init, last, rfl⟩
  · exact ⟨fun _ => rfl, fun _ => rfl⟩
  · rw [List.concat_eq_append, unfoldLines_concat]
    rcases unfoldLine_cases (unfoldLines init) last with ⟨_, _, _, continuation, appended⟩ | ⟨_, added⟩
    · rw [appended last continuation]
      simp
    · rw [added last rfl]
      simp

namespace FoldPoint

variable (point : FoldPoint)

/-- The fold takes the blanks at the beginning of `b` out of the line `a ++ b`. -/
structure Unfolds (init : List (List Char)) (a b : List Char) (rest : List (List Char)) : Prop where
  before : unfoldLines point.rawBefore = init ++ [a]
  after : unfoldLines point.rawAfter = b :: rest
  folded : ∀ style, unfoldLines (lines (point.folded style).toList) = init ++ (a ++ trimStart b) :: rest
  indent : point.InIndent → unfoldLines (lines point.text.toList) = init ++ (a ++ trimStart b) :: rest
  plain : ¬ point.InIndent → unfoldLines (lines point.text.toList) = init ++ (a ++ b) :: rest

theorem unfolds : ∃ init a b rest, point.Unfolds init a b rest := by
  obtain ⟨init, last, first, more, nonempty, before, after, whole, folds⟩ := point.lines_eq
  obtain ⟨conts, rest, clean, continued⟩ := foldl_unfoldLine more
  have free : '\r' ∉ last ++ point.right :: first := by
    refine point.clean _ ?_
    rw [text, String.toList_ofList] at whole
    rw [whole]
    exact List.mem_append_right init List.mem_cons_self
  have freeLast : '\r' ∉ last := fun inside => free (List.mem_append_left _ inside)
  have freeFirst : '\r' ∉ point.right :: first := fun inside => free (List.mem_append_right _ inside)
  have run (raws : List (List Char)) (line : List Char) (others : List (List Char)) :
      unfoldLines (raws ++ line :: others) = others.foldl unfoldLine (unfoldLine (unfoldLines raws) line) := by
    rw [unfoldLines, List.foldl_append]
    rfl
  have tail : unfoldLines point.rawAfter = (point.right :: first ++ conts) :: rest := by
    have begins := continued [] (point.right :: first)
    rw [after, unfoldLines, List.foldl_cons, unfoldLine, if_neg fun both => both.2 rfl, trimReturns_eq freeFirst]
    exact begins
  have dropped : trimStart (point.right :: first ++ conts) = trimStart (point.right :: first) ++ conts := by
    rw [trimStart_append]
    split_ifs with blank
    · rw [blank, clean]
      rfl
    · rfl
  have spaced (style : FoldStyle) : trimStart (style.blank :: point.right :: first) = trimStart (point.right :: first) := by
    rw [trimStart, List.dropWhile_cons_of_pos style.white]
    rfl
  have folding (style : FoldStyle) {pre : List (List Char)} {a : List Char}
      (starts : unfoldLine (unfoldLines init) last = pre ++ [a]) :
      unfoldLines (lines (point.folded style).toList) = pre ++ (a ++ trimStart (point.right :: first ++ conts)) :: rest := by
    rw [folds, run, List.foldl_cons, starts, unfoldLine_concat, if_pos (style.continues_blank _), spaced, continued, dropped,
      List.append_assoc]
  have only {i : List (List Char)} {l : List Char} (same : point.rawBefore = i ++ [l]) : i = init ∧ l = last := by
    obtain ⟨front, back⟩ := List.append_inj' (same.symm.trans before) rfl
    exact ⟨front, List.singleton_inj.mp back⟩
  rcases unfoldLine_cases (unfoldLines init) last with ⟨pre, z, done, continuation, appended⟩ | ⟨fresh, added⟩
  · have starts := appended last continuation
    have begun : init ≠ [] := fun empty => by
      rw [unfoldLines_eq_nil.mpr empty] at done
      simp at done
    have joined := appended (last ++ point.right :: first) ((continues_append nonempty _).trans continuation)
    refine ⟨pre, z ++ trimStart last, point.right :: first ++ conts, rest, ⟨?_, tail, fun style => folding style starts,
      ?_, fun notIndent => ?_⟩⟩
    · rw [before, unfoldLines_concat, starts]
    · rintro ⟨i, l, same, -, -, blank⟩
      obtain ⟨-, rfl⟩ := only same
      rw [whole, run, joined, trimStart_append, if_pos blank, continued, dropped, blank, List.append_nil, List.append_assoc]
    · have shown : trimStart last ≠ [] := fun blank => notIndent ⟨init, last, before, begun, continuation, blank⟩
      rw [whole, run, joined, trimStart_append, if_neg shown, continued]
      simp only [List.append_assoc]
  · have starts : unfoldLine (unfoldLines init) last = unfoldLines init ++ [last] := by
      rw [added last rfl, trimReturns_eq freeLast]
    have joined : unfoldLine (unfoldLines init) (last ++ point.right :: first) =
        unfoldLines init ++ [last ++ point.right :: first] := by
      rw [added _ (continues_append nonempty _), trimReturns_eq free]
    refine ⟨unfoldLines init, last, point.right :: first ++ conts, rest, ⟨?_, tail, fun style => folding style starts,
      ?_, fun _ => ?_⟩⟩
    · rw [before, unfoldLines_concat, starts]
    · rintro ⟨i, l, same, begun, continuation, -⟩
      obtain ⟨rfl, rfl⟩ := only same
      rcases fresh with stops | empty
      · rw [stops] at continuation
        cases continuation
      · exact absurd (unfoldLines_eq_nil.mp empty) begun
    · rw [whole, run, joined, continued, List.append_assoc]

end FoldPoint

/-- A line about this says nothing or a name. -/
def MayName (field : Option Field) : Prop := field = none ∨ field = some .fn

/-- The blanks that begin `b` make no difference to what is read off the line
`a ++ b`: it has no colon, they are outside of the value or of the name of the
property, or the name in that line is not the one that is kept. -/
def Absorbed (init : List (List Char)) (a b : List Char) (rest : List (List Char)) : Prop :=
  match splitFirst ':' a with
  | some (prop, value) =>
    fieldOf prop = none ∨ fieldOf prop = some .fn ∧ valuesOf .fn init ≠ [] ∨ trimStart value = [] ∨ trimStart b = []
  | none =>
    match splitFirst ':' b with
    | none => True
    | some (prop, value) =>
      trimChars value = [] ∨ fieldOf (a ++ prop) = fieldOf (a ++ trimStart prop) ∨
        (MayName (fieldOf (a ++ prop)) ∧ MayName (fieldOf (a ++ trimStart prop))) ∧
          (valuesOf .fn init ≠ [] ∨ (valuesOf .fn rest).head? = some (trimChars value))

theorem splitFirst_append (separator : Char) (first second : List Char) :
    splitFirst separator (first ++ second) =
      match splitFirst separator first with
      | some (before, after) => some (before, after ++ second)
      | none => (splitFirst separator second).map fun parts => (first ++ parts.1, parts.2) := by
  induction first with
  | nil => simp [splitFirst]
  | cons c first ih =>
    rw [List.cons_append, splitFirst, splitFirst, ih]
    split_ifs with here
    · rfl
    · cases splitFirst separator first with
      | some parts => rfl
      | none => cases splitFirst separator second <;> rfl

theorem splitFirst_blank {blanks : List Char} (blank : trimStart blanks = []) : splitFirst ':' blanks = none := by
  induction blanks with
  | nil => rfl
  | cons c blanks ih =>
    rw [trimStart, List.dropWhile_eq_nil_iff] at blank
    have white := blank c List.mem_cons_self
    have apart : c ≠ ':' := by
      rintro rfl
      exact absurd white (by decide)
    have later : trimStart blanks = [] :=
      List.dropWhile_eq_nil_iff.mpr fun x member => blank x (List.mem_cons_of_mem c member)
    rw [splitFirst, if_neg apart, ih later]
    rfl

theorem splitFirst_trimStart (b : List Char) :
    splitFirst ':' (trimStart b) = (splitFirst ':' b).map fun parts => (trimStart parts.1, parts.2) := by
  obtain ⟨blanks, whole, blank⟩ := trimStart_decompose b
  have outer : splitFirst ':' b = (splitFirst ':' (trimStart b)).map fun parts => (blanks ++ parts.1, parts.2) := by
    conv_lhs => rw [whole]
    rw [splitFirst_append, splitFirst_blank blank]
  have idle (before after : List Char) (split : splitFirst ':' (trimStart b) = some (before, after)) :
      trimStart before = before := by
    cases before with
    | nil => rfl
    | cons c before =>
      have first : ∃ more, trimStart b = c :: more := by
        cases tail : trimStart b with
        | nil => rw [tail] at split; cases split
        | cons x more =>
          rw [tail, splitFirst] at split
          split_ifs at split with colon
          · simp at split
          · obtain ⟨parts, -, same⟩ := Option.map_eq_some_iff.mp split
            obtain ⟨rfl, -⟩ := List.cons.inj (Prod.mk.inj same).1
            exact ⟨more, rfl⟩
      obtain ⟨more, start⟩ := first
      have twice := trimStart_trimStart b
      rw [start] at twice
      have black : ¬ isWhiteSpace c = true := by
        intro white
        rw [trimStart, List.dropWhile_cons_of_pos white] at twice
        have shorter := (List.dropWhile_suffix isWhiteSpace (l := more)).length_le
        rw [twice, List.length_cons] at shorter
        omega
      rw [trimStart, List.dropWhile_cons_of_neg black]
  rw [outer]
  cases split : splitFirst ':' (trimStart b) with
  | none => rfl
  | some parts =>
    obtain ⟨before, after⟩ := parts
    have kept := idle before after split
    simp only [Option.map_some, trimStart_append, blank, if_true, kept]

def shown (chars : List Char) : Option (List Char) := if trimChars chars ≠ [] then some (trimChars chars) else none

theorem shown_inj {first second : List Char} : shown first = shown second ↔ trimChars first = trimChars second := by
  rw [shown, shown]
  split_ifs with one two two <;> simp_all

theorem valueOf_split {field : Field} {line prop value : List Char} (split : splitFirst ':' line = some (prop, value)) :
    valueOf field line = if fieldOf prop = some field then shown value else none := by
  rw [valueOf, split, Option.bind_some, shown]
  by_cases here : fieldOf prop = some field
  · simp [here]
  · simp [here]

theorem valueOf_none {field : Field} {line : List Char} (split : splitFirst ':' line = none) : valueOf field line = none := by
  rw [valueOf, split, Option.bind_none]

/-- Two lines about the same property are read alike when their values are. -/
theorem read_alike_value {prop first second x y : List Char} (splitX : splitFirst ':' x = some (prop, first))
    (splitY : splitFirst ':' y = some (prop, second)) (init rest : List (List Char)) :
    readLines (init ++ x :: rest) = readLines (init ++ y :: rest) ↔
      fieldOf prop = none ∨ fieldOf prop = some .fn ∧ valuesOf .fn init ≠ [] ∨
        (if fieldOf prop = some .fn then (shown first).or (valuesOf .fn rest).head? = (shown second).or (valuesOf .fn rest).head?
          else trimChars first = trimChars second) := by
  rw [readLines_middle, valueOf_split splitX, valueOf_split splitX, valueOf_split splitX, valueOf_split splitY,
    valueOf_split splitY, valueOf_split splitY]
  cases fieldOf prop with
  | none => simp
  | some field => cases field <;> simp [shown_inj]

/-- Two lines with the same value are read alike when they are about the same property. -/
theorem read_alike_property {first second value x y : List Char} (splitX : splitFirst ':' x = some (first, value))
    (splitY : splitFirst ':' y = some (second, value)) (init rest : List (List Char)) :
    readLines (init ++ x :: rest) = readLines (init ++ y :: rest) ↔
      trimChars value = [] ∨ fieldOf second = fieldOf first ∨
        (MayName (fieldOf second) ∧ MayName (fieldOf first)) ∧
          (valuesOf .fn init ≠ [] ∨ (valuesOf .fn rest).head? = some (trimChars value)) := by
  rw [readLines_middle, valueOf_split splitX, valueOf_split splitX, valueOf_split splitX, valueOf_split splitY,
    valueOf_split splitY, valueOf_split splitY]
  by_cases blank : trimChars value = []
  · simp [shown, blank]
  · have value_shown : shown value = some (trimChars value) := if_pos blank
    have turned (name : Option (List Char)) : some (trimChars value) = name ↔ name = some (trimChars value) := eq_comm
    rw [value_shown]
    cases fieldOf first with
    | none =>
      cases fieldOf second with
      | none => simp
      | some field => cases field <;> simp [blank, MayName]
    | some field =>
      cases fieldOf second with
      | none => cases field <;> simp [blank, MayName, turned]
      | some field' => cases field <;> cases field' <;> simp [blank, MayName]

/-- Whatever name comes later, one that is shown takes its place. -/
theorem or_shown_dropped (v b : List Char) (later : Option (List Char)) :
    (shown (v ++ trimStart b)).or later = (shown (v ++ b)).or later ↔
      trimStart b = b ∨ trimStart v = [] ∨ trimStart b = [] := by
  rw [← trimChars_dropped]
  by_cases blank : trimStart v = []
  · have same : trimChars (v ++ trimStart b) = trimChars (v ++ b) := (trimChars_dropped v b).mpr (.inr (.inl blank))
    rw [shown_inj.mpr same]
    exact ⟨fun _ => same, fun _ => rfl⟩
  · rw [shown, shown, if_pos (trimChars_append_ne blank _), if_pos (trimChars_append_ne blank _), Option.some_or,
      Option.some_or, Option.some_inj]

theorem absorbed_iff (init : List (List Char)) (a b : List Char) (rest : List (List Char)) :
    readLines (init ++ (a ++ trimStart b) :: rest) = readLines (init ++ (a ++ b) :: rest) ↔
      trimStart b = b ∨ Absorbed init a b rest := by
  rw [Absorbed]
  cases split : splitFirst ':' a with
  | some parts =>
    obtain ⟨prop, value⟩ := parts
    have folded : splitFirst ':' (a ++ trimStart b) = some (prop, value ++ trimStart b) := by rw [splitFirst_append, split]
    have plain : splitFirst ':' (a ++ b) = some (prop, value ++ b) := by rw [splitFirst_append, split]
    have dropped : (if fieldOf prop = some .fn then
        (shown (value ++ trimStart b)).or (valuesOf .fn rest).head? = (shown (value ++ b)).or (valuesOf .fn rest).head?
        else trimChars (value ++ trimStart b) = trimChars (value ++ b)) ↔
          trimStart b = b ∨ trimStart value = [] ∨ trimStart b = [] := by
      split_ifs
      · rw [or_shown_dropped]
      · exact trimChars_dropped value b
    rw [read_alike_value folded plain, dropped]
    constructor
    · rintro (other | hidden | unchanged | inner)
      · exact .inr (.inl other)
      · exact .inr (.inr (.inl hidden))
      · exact .inl unchanged
      · exact .inr (.inr (.inr inner))
    · rintro (unchanged | other | hidden | inner)
      · exact .inr (.inr (.inl unchanged))
      · exact .inl other
      · exact .inr (.inl hidden)
      · exact .inr (.inr (.inr inner))
  | none =>
    cases later : splitFirst ':' b with
    | none =>
      have folded : splitFirst ':' (a ++ trimStart b) = none := by
        rw [splitFirst_append, split, splitFirst_trimStart, later]
        rfl
      have plain : splitFirst ':' (a ++ b) = none := by
        rw [splitFirst_append, split, later]
        rfl
      rw [readLines_middle, valueOf_none folded, valueOf_none folded, valueOf_none folded, valueOf_none plain,
        valueOf_none plain, valueOf_none plain]
      simp
    | some parts =>
      obtain ⟨prop, value⟩ := parts
      have folded : splitFirst ':' (a ++ trimStart b) = some (a ++ trimStart prop, value) := by
        rw [splitFirst_append, split, splitFirst_trimStart, later]
        rfl
      have plain : splitFirst ':' (a ++ b) = some (a ++ prop, value) := by
        rw [splitFirst_append, split, later]
        rfl
      have same : trimStart b = b → fieldOf (a ++ prop) = fieldOf (a ++ trimStart prop) := by
        intro unchanged
        rw [unchanged, plain] at folded
        obtain ⟨props, -⟩ := Prod.mk.inj (Option.some.inj folded)
        rw [props]
      rw [read_alike_property folded plain]
      exact ⟨.inr, fun either => either.elim (fun unchanged => .inr (.inl (same unchanged))) id⟩

namespace FoldPoint

/-- The fold is in the indent of a continuation line, or no blank comes after
it, or the blanks after it make no difference. -/
def Transparent (point : FoldPoint) : Prop :=
  point.InIndent ∨ ∀ init a b rest, unfoldLines point.rawBefore = init ++ [a] → unfoldLines point.rawAfter = b :: rest →
    trimStart b = b ∨ Absorbed init a b rest

theorem fold_transparent_iff (point : FoldPoint) (style : FoldStyle) :
    parseVcardFields (point.folded style) = parseVcardFields point.text ↔ point.Transparent := by
  obtain ⟨init, a, b, rest, unfolds⟩ := point.unfolds
  rw [parseVcardFields, parseVcardFields, unfolds.folded]
  by_cases indent : point.InIndent
  · rw [unfolds.indent indent]
    exact ⟨fun _ => .inl indent, fun _ => rfl⟩
  · rw [unfolds.plain indent, absorbed_iff]
    constructor
    · intro absorbed
      refine .inr fun init' a' b' rest' before after => ?_
      obtain ⟨inits, lasts⟩ := List.append_inj' (unfolds.before.symm.trans before) rfl
      obtain ⟨rfl, rfl⟩ := List.cons.inj (unfolds.after.symm.trans after)
      obtain rfl := inits
      obtain rfl := List.singleton_inj.mp lasts
      exact absorbed
    · rintro (inside | all)
      · exact absurd inside indent
      · exact all init a b rest unfolds.before unfolds.after

/-- Between the first name and the blank after it. -/
def betweenNames : FoldPoint where
  before := "FN:Joh".toList
  left := 'n'
  right := ' '
  after := "Smith".toList
  insideLeft := by decide
  insideRight := by decide
  clean := by decide

/-- The blank between the two names goes with the fold. -/
theorem names_run_together :
    ¬ ∀ (point : FoldPoint) (style : FoldStyle), parseVcardFields (point.folded style) = parseVcardFields point.text := by
  intro transparent
  exact absurd (transparent betweenNames ⟨true, false⟩) (by decide +kernel)

end FoldPoint

end VCard

end RustConnect
