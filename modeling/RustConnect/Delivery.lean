import RustConnect.PacketStream

namespace RustConnect

variable {codec : JsonCodec} {goesOn : List Packet → Bool}

/-- A line that is one packet: closed by its newline, within the cap, not
blank, and accepted by the codec. -/
structure PacketLine (codec : JsonCodec) (line : Bytes) : Prop where
  closed : Lines.Closed newline line
  fits : line.length ≤ maxSteadyPacketSize
  visible : isBlank line = false
  decodes : ∃ packet, PacketSerializer.deserialize codec line = .ok packet

theorem PacketLine.verdict {line : Bytes} (valid : PacketLine codec line) : ∃ packet, verdict codec line = .packet packet := by
  obtain ⟨packet, decoded⟩ := valid.decodes
  have kept : ¬(line.length > maxSteadyPacketSize ∨ isBlank line = true) := by
    simpa [valid.visible] using valid.fits
  exact ⟨packet, by simp [RustConnect.verdict, kept, decoded]⟩

theorem verdicts_of_lines {lines : List Bytes} (valid : ∀ line ∈ lines, PacketLine codec line) :
    ∃ packets : List Packet, lines.map (verdict codec) = packets.map .packet := by
  induction lines with
  | nil => exact ⟨[], rfl⟩
  | cons line lines ih =>
    obtain ⟨packet, first⟩ := (valid line List.mem_cons_self).verdict
    obtain ⟨packets, rest⟩ := ih fun line member => valid line (List.mem_cons_of_mem _ member)
    exact ⟨packet :: packets, by simp [first, rest]⟩

/-- An end of the stream right after a newline adds nothing. -/
theorem deliver_end (got : List Packet) (lines : List Bytes) :
    deliver codec goesOn got (lines ++ [[]]) = deliver codec goesOn got lines := by
  induction lines generalizing got with
  | nil => simp [deliver, verdict, isBlank]
  | cons line lines ih => simp only [List.cons_append, deliver, ih]

/-- What the loop delivers depends on the verdicts alone. -/
theorem deliver_congr {first second : List Bytes} (same : first.map (verdict codec) = second.map (verdict codec))
    (got : List Packet) : deliver codec goesOn got first = deliver codec goesOn got second := by
  induction first generalizing second got with
  | nil => rw [List.map_eq_nil_iff.mp same.symm]
  | cons line first ih =>
    cases second with
    | nil => cases same
    | cons other second =>
      obtain ⟨head, tail⟩ := List.cons.inj same
      simp only [deliver, head, ih tail]

theorem deliver_prefix (got : List Packet) (lines : List Bytes) : got <+: deliver codec goesOn got lines := by
  induction lines generalizing got with
  | nil => exact List.prefix_rfl
  | cons line lines ih =>
    rw [deliver]
    split
    · exact ih got
    · exact List.prefix_rfl
    · rename_i packet _
      split
      · exact (List.prefix_append got [packet]).trans (ih _)
      · exact List.prefix_append got [packet]

variable (codec goesOn) in
theorem deliver_length (got : List Packet) (lines : List Bytes) :
    (deliver codec goesOn got lines).length ≤ got.length + lines.length := by
  induction lines generalizing got with
  | nil => exact Nat.le.refl
  | cons line lines ih =>
    have shorter := ih got
    rw [deliver, List.length_cons]
    split
    · omega
    · omega
    · rename_i packet _
      have longer := ih (got ++ [packet])
      rw [List.length_append, List.length_singleton] at longer
      split
      · omega
      · rw [List.length_append, List.length_singleton]
        omega

/-- A packet for every line means that every line gave its packet. -/
theorem deliver_all {lines : List Bytes} {got packets : List Packet} (enough : packets.length = lines.length)
    (delivered : deliver codec (fun _ => true) got lines = got ++ packets) :
    lines.map (verdict codec) = packets.map .packet := by
  induction lines generalizing got packets with
  | nil =>
    rw [List.length_eq_zero_iff.mp enough]
    rfl
  | cons line lines ih =>
    obtain ⟨packet, packets, rfl⟩ := List.exists_cons_of_length_eq_add_one enough
    have bound := deliver_length codec (fun _ => true) got lines
    cases judged : verdict codec line with
    | skipped =>
      rw [deliver, judged] at delivered
      rw [show deliver codec (fun _ => true) got lines = got ++ packet :: packets from delivered] at bound
      simp at bound enough
      omega
    | fatal e =>
      rw [deliver, judged] at delivered
      simp at delivered
    | packet first =>
      have later : deliver codec (fun _ => true) (got ++ [first]) lines = got ++ packet :: packets := by
        simpa [deliver, judged] using delivered
      have begins : got ++ [first] <+: got ++ packet :: packets := later ▸ deliver_prefix _ _
      obtain ⟨rfl, -⟩ := List.cons_prefix_cons.mp ((List.prefix_append_right_inj got).mp begins)
      have rest := ih (Nat.succ.inj enough) (later.trans (List.append_cons got first packets))
      rw [List.map_cons, List.map_cons, judged, rest]

theorem deliver_packets {lines : List Bytes} {packets : List Packet} (judged : lines.map (verdict codec) = packets.map .packet)
    (got : List Packet) : deliver codec (fun _ => true) got lines = got ++ packets := by
  induction lines generalizing packets got with
  | nil =>
    rw [List.map_eq_nil_iff.mp judged.symm]
    simp [deliver]
  | cons line lines ih =>
    cases packets with
    | nil => cases judged
    | cons packet packets =>
      obtain ⟨head, tail⟩ := List.cons.inj judged
      have next := ih tail (got ++ [packet])
      simp [deliver, head, next]

/-- Packet lines are replaced without loss by as many lines or fewer exactly
when line by line the verdict is the same. -/
theorem deliver_same_iff {first second : List Bytes} (valid : ∀ line ∈ second, PacketLine codec line)
    (fewer : first.length ≤ second.length) :
    (∀ goesOn, deliver codec goesOn [] first = deliver codec goesOn [] second) ↔
      first.map (verdict codec) = second.map (verdict codec) := by
  refine ⟨fun same => ?_, fun same goesOn => deliver_congr same []⟩
  obtain ⟨packets, judged⟩ := verdicts_of_lines valid
  have all : deliver codec (fun _ => true) [] first = [] ++ packets := (same _).trans (deliver_packets judged [])
  have bound := deliver_length codec (fun _ => true) [] first
  have count : second.length = packets.length := by simpa using congrArg List.length judged
  rw [all] at bound
  have enough : packets.length = first.length := by
    simp at bound
    omega
  rw [deliver_all enough all, judged]

end RustConnect
