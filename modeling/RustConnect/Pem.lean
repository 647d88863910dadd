import Mathlib
import RustConnect.Base.Base64
import RustConnect.Base.Lines
import RustConnect.PacketCodec

namespace RustConnect

/-- The texts of a UTF-8 error and of a base64 error. -/
structure PemErrors where
  utf8 : Bytes → String
  base64 : String → String

namespace Pem

def beginMarker : String := "-----BEGIN CERTIFICATE-----"

def endMarker : String := "-----END CERTIFICATE-----"

/-- `str::lines`: a line ends at `\n` or `\r\n`, and what follows the last one is a line too. -/
def textLines (text : String) : List String :=
  let ended := (Lines.complete '\n' text.toList).map fun line =>
    let body := line.dropLast
    if body.getLast? = some '\r' then String.ofList body.dropLast else String.ofList body
  match Lines.unfinished '\n' text.toList with
  | [] => ended
  | rest => ended ++ [String.ofList rest]

def derToPemText (derBytes : Bytes) : String :=
  let b64 := Base64.encode derBytes
  let pem := beginMarker ++ "\n"
  let pem := (b64.toChunks 64).foldl (fun pem chunk => pem ++ String.ofList chunk ++ "\n") pem
  pem ++ (endMarker ++ "\n")

def derToPem (derBytes : Bytes) : Except Error Bytes := .ok (toUtf8 (derToPemText derBytes))

/-- The loop of `pem_to_der` over the lines that are left. -/
def collectBase64 (inCert : Bool) (b64 : String) : List String → String
  | [] => b64
  | line :: rest =>
    let trimmed := trim line
    if trimmed = beginMarker then collectBase64 true b64 rest
    else if trimmed = endMarker then b64
    else if inCert then collectBase64 inCert (b64 ++ trimmed) rest
    else collectBase64 inCert b64 rest

def pemTextToDer (errors : PemErrors) (pemStr : String) : Except Error Bytes :=
  let beginCount := (textLines pemStr).countP fun line => trim line = beginMarker
  if beginCount > 1 then
    .error (.certificateError s!"PEM holds {beginCount} certificates; exactly one is expected")
  else
    let b64 := collectBase64 false "" (textLines pemStr)
    match Base64.decode b64.toList with
    | some der => .ok der
    | none => .error (.certificateError s!"Failed to decode PEM base64: {errors.base64 b64}")

def pemToDer (errors : PemErrors) (pemBytes : Bytes) : Except Error Bytes :=
  match fromUtf8 pemBytes with
  | some pemStr => pemTextToDer errors pemStr
  | none => .error (.certificateError s!"Invalid UTF-8 in PEM: {errors.utf8 pemBytes}")

/-- A line that is read back as itself. -/
structure Plain (line : List Char) : Prop where
  unbroken : '\n' ∉ line
  noReturn : line.getLast? ≠ some '\r'
  trimmed : trim (String.ofList line) = String.ofList line

theorem plain_of_visible {line : List Char} (visible : ∀ c ∈ line, isWhiteSpace c = false) : Plain line where
  unbroken member := absurd (visible '\n' member) (by decide)
  noReturn last := absurd (visible '\r' (List.mem_of_getLast? last)) (by decide)
  trimmed := trim_eq_self (by rwa [String.toList_ofList])

theorem textLines_plain {bodies : List (List Char)} (plain : ∀ body ∈ bodies, Plain body) {text : String}
    (chars : text.toList = (bodies.map (· ++ ['\n'])).flatten) : textLines text = bodies.map String.ofList := by
  have closed : ∀ line ∈ bodies.map (· ++ ['\n']), Lines.Closed '\n' line := by
    intro line member
    obtain ⟨body, inside, rfl⟩ := List.mem_map.mp member
    exact ⟨body, rfl, (plain body inside).unbroken⟩
  have complete := Lines.complete_flatten closed []
  have unfinished := Lines.unfinished_flatten closed []
  rw [List.append_nil, ← chars] at complete unfinished
  simp only [textLines, complete, unfinished, Lines.complete, Lines.unfinished, List.append_nil, List.map_map]
  refine List.map_congr_left fun body member => ?_
  simp [(plain body member).noReturn]

theorem foldl_chunks (chunks : List (List Char)) (pem : String) :
    (chunks.foldl (fun pem chunk => pem ++ String.ofList chunk ++ "\n") pem).toList =
      pem.toList ++ (chunks.map (· ++ ['\n'])).flatten := by
  induction chunks generalizing pem with
  | nil => simp
  | cons chunk chunks ih => simp [ih]

theorem flatten_toChunks_go (n : Nat) (chars : List Char) (open' : Array Char) (full : Array (List Char)) :
    (List.toChunks.go n chars open' full).flatten = full.toList.flatten ++ open'.toList ++ chars := by
  induction chars generalizing open' full with
  | nil => simp [List.toChunks.go]
  | cons c chars ih =>
    unfold List.toChunks.go
    split
    · rw [ih]
      simp
    · rw [ih]
      simp

theorem flatten_toChunks (n : Nat) (chars : List Char) : (chars.toChunks n).flatten = chars := by
  cases chars with
  | nil => simp [List.toChunks]
  | cons c chars =>
    cases n with
    | zero => simp [List.toChunks]
    | succ n => simp [List.toChunks, flatten_toChunks_go]

/-- The lines of an encoded certificate. -/
def pemLines (derBytes : Bytes) : List (List Char) :=
  beginMarker.toList :: ((Base64.encode derBytes).toChunks 64 ++ [endMarker.toList])

theorem toList_derToPemText (derBytes : Bytes) :
    (derToPemText derBytes).toList = ((pemLines derBytes).map (· ++ ['\n'])).flatten := by
  simp [derToPemText, pemLines, foldl_chunks]

theorem chunk_chars {derBytes : Bytes} {chunk : List Char} (member : chunk ∈ (Base64.encode derBytes).toChunks 64) {c : Char}
    (inside : c ∈ chunk) : c ∈ Base64.alphabet ∨ c = '=' := by
  have whole : c ∈ ((Base64.encode derBytes).toChunks 64).flatten := List.mem_flatten_of_mem member inside
  rw [flatten_toChunks] at whole
  exact Base64.mem_encode whole

theorem chunk_plain {derBytes : Bytes} {chunk : List Char} (member : chunk ∈ (Base64.encode derBytes).toChunks 64) :
    Plain chunk := by
  have letters : Base64.alphabet.all (fun c => !isWhiteSpace c) = true := by decide +kernel
  refine plain_of_visible fun c inside => ?_
  rcases chunk_chars member inside with letter | rfl
  · simpa using List.all_eq_true.mp letters c letter
  · rfl

/-- Neither marker can stand among the lines of an encoding: both have hyphens. -/
theorem chunk_ne_marker {derBytes : Bytes} {chunk : List Char} (member : chunk ∈ (Base64.encode derBytes).toChunks 64)
    {marker : String} (hyphen : '-' ∈ marker.toList) : String.ofList chunk ≠ marker := by
  intro same
  have inside : '-' ∈ chunk := by rwa [← same, String.toList_ofList] at hyphen
  rcases chunk_chars member inside with letter | pad
  · exact absurd letter (by decide +kernel)
  · exact absurd pad (by decide)

theorem markers_plain : Plain beginMarker.toList ∧ Plain endMarker.toList := by
  constructor
  · exact ⟨by decide +kernel, by decide +kernel, by decide +kernel⟩
  · exact ⟨by decide +kernel, by decide +kernel, by decide +kernel⟩

theorem pemLines_plain (derBytes : Bytes) : ∀ line ∈ pemLines derBytes, Plain line := by
  intro line member
  rcases List.mem_cons.mp member with rfl | later
  · exact markers_plain.1
  · rcases List.mem_append.mp later with chunk | last
    · exact chunk_plain chunk
    · rw [List.mem_singleton.mp last]
      exact markers_plain.2

theorem trim_marker {marker : String} (plain : Plain marker.toList) : trim marker = marker := by
  simpa only [String.ofList_toList] using plain.trimmed

/-- The lines between the markers are put together again. -/
theorem collectBase64_chunks {chunks : List (List Char)} (plain : ∀ chunk ∈ chunks, Plain chunk)
    (body : ∀ chunk ∈ chunks, String.ofList chunk ≠ beginMarker ∧ String.ofList chunk ≠ endMarker) (b64 : String) :
    collectBase64 true b64 (chunks.map String.ofList ++ [endMarker]) = b64 ++ String.ofList chunks.flatten := by
  induction chunks generalizing b64 with
  | nil =>
    have other : endMarker ≠ beginMarker := by decide +kernel
    simp [collectBase64, trim_marker markers_plain.2, other]
  | cons chunk chunks ih =>
    have here := body chunk List.mem_cons_self
    have later := ih (fun chunk member => plain chunk (List.mem_cons_of_mem _ member))
      (fun chunk member => body chunk (List.mem_cons_of_mem _ member)) (b64 ++ String.ofList chunk)
    simp only [List.map_cons, List.cons_append, collectBase64, (plain chunk List.mem_cons_self).trimmed, here.1, here.2,
      if_false, if_true, later, List.flatten_cons, String.ofList_append, String.append_assoc]

/-- What is written for a certificate is read back as that certificate. -/
theorem pemTextToDer_derToPemText (errors : PemErrors) (derBytes : Bytes) :
    pemTextToDer errors (derToPemText derBytes) = .ok derBytes := by
  have lines : textLines (derToPemText derBytes) = (pemLines derBytes).map String.ofList :=
    textLines_plain (pemLines_plain derBytes) (toList_derToPemText derBytes)
  have body : ∀ chunk ∈ (Base64.encode derBytes).toChunks 64,
      String.ofList chunk ≠ beginMarker ∧ String.ofList chunk ≠ endMarker := fun chunk member =>
    ⟨chunk_ne_marker member (by decide +kernel), chunk_ne_marker member (by decide +kernel)⟩
  have once : ((pemLines derBytes).map String.ofList).countP (fun line => trim line = beginMarker) ≤ 1 := by
    have none : (((Base64.encode derBytes).toChunks 64).map String.ofList).countP (fun line => trim line = beginMarker) = 0 := by
      refine List.countP_eq_zero.mpr fun line member same => ?_
      obtain ⟨chunk, inside, rfl⟩ := List.mem_map.mp member
      rw [(chunk_plain inside).trimmed] at same
      exact (body chunk inside).1 (of_decide_eq_true same)
    have other : trim endMarker ≠ beginMarker := by decide +kernel
    simp [pemLines, List.countP_cons, none, other]
    split <;> omega
  have collected : collectBase64 false "" ((pemLines derBytes).map String.ofList) = String.ofList (Base64.encode derBytes) := by
    have between := collectBase64_chunks (fun chunk member => chunk_plain member) body ""
    rw [flatten_toChunks, String.empty_append] at between
    simpa [pemLines, collectBase64, trim_marker markers_plain.1] using between
  simp only [pemTextToDer, lines, Nat.not_lt.mpr once, if_false, collected, String.toList_ofList,
    Base64.decode_encode]

theorem pemToDer_derToPem (errors : PemErrors) (derBytes : Bytes) :
    (derToPem derBytes >>= pemToDer errors) = .ok derBytes := by
  change pemToDer errors (toUtf8 (derToPemText derBytes)) = .ok derBytes
  unfold pemToDer
  rw [fromUtf8_toUtf8]
  exact pemTextToDer_derToPemText errors derBytes

end Pem

end RustConnect
