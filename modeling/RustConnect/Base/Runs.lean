import Mathlib

namespace RustConnect

/-- The state that some events lead to, where each of them is possible in the state it comes in. -/
inductive Runs {σ ε : Type} (move : σ → ε → Option σ) : σ → List ε → σ → Prop
  | nil (s : σ) : Runs move s [] s
  | cons {s t u : σ} {event : ε} {events : List ε} :
      move s event = some t → Runs move t events u → Runs move s (event :: events) u

namespace Runs

variable {σ ε : Type} {move : σ → ε → Option σ} {s t u : σ} {events : List ε}

theorem iff_foldlM : Runs move s events t ↔ events.foldlM move s = some t := by
  induction events generalizing s with
  | nil => exact ⟨fun run => by cases run; rfl, fun same => by cases Option.some.inj same; exact .nil _⟩
  | cons event events ih =>
    rw [List.foldlM_cons, Option.bind_eq_bind, Option.bind_eq_some_iff]
    constructor
    · rintro (_ | ⟨moved, rest⟩)
      exact ⟨_, moved, ih.mp rest⟩
    · rintro ⟨_, moved, rest⟩
      exact .cons moved (ih.mpr rest)

/-- What every event keeps is kept by every run. -/
theorem invariant {I : σ → Prop} (kept : ∀ {s event t}, I s → move s event = some t → I t) (run : Runs move s events t)
    (first : I s) : I t := by
  induction run with
  | nil _ => exact first
  | cons moved _ ih => exact ih (kept first moved)

/-- What the events of a kind keep is kept by a run in which every event is of the kind where it comes. -/
theorem invariant_when {I : σ → Prop} {Kind : σ → ε → Prop}
    (kept : ∀ {s event t}, I s → Kind s event → move s event = some t → I t) (run : Runs move s events t) (first : I s)
    (kinds : ∀ before event later u, events = before ++ event :: later → Runs move s before u → Kind u event) : I t := by
  induction run with
  | nil _ => exact first
  | @cons s t u event events moved _ ih =>
    refine ih (kept first (kinds [] event events s rfl (.nil s)) moved) fun before other later u same before' => ?_
    exact kinds (event :: before) other later u (by rw [same, List.cons_append]) (.cons moved before')

end Runs

/-- A property of every entry of a log, newest first, and of the log before it. -/
def Logged {α : Type} (P : α → List α → Prop) : List α → Prop
  | [] => True
  | entry :: older => P entry older ∧ Logged P older

theorem logged_iff {α : Type} {P : α → List α → Prop} {log : List α} :
    Logged P log ↔ ∀ later entry older, log = later ++ entry :: older → P entry older := by
  induction log with
  | nil => simp [Logged]
  | cons newest log ih =>
    constructor
    · rintro ⟨here, before⟩ later entry older same
      cases later with
      | nil =>
        obtain ⟨rfl, rfl⟩ := List.cons.inj same
        exact here
      | cons first later => exact ih.mp before later entry older (List.cons.inj same).2
    · exact fun always => ⟨always [] newest log rfl, ih.mpr fun later entry older same =>
        always (newest :: later) entry older (by rw [same, List.cons_append])⟩

end RustConnect
