import Mathlib
import RustConnect.Base.FirstLeast

namespace RustConnect

inductive Edge
  | left
  | right
  | top
  | bottom
  deriving DecidableEq, Repr

/-- A rectangle of the screen, with the place of its upper left corner. -/
structure Zone where
  x : Int32
  y : Int32
  width : UInt32
  height : UInt32
  deriving DecidableEq

namespace Zone

def inclusiveRight (zone : Zone) : Int32 := zone.x + zone.width.toInt32 - 1

def inclusiveBottom (zone : Zone) : Int32 := zone.y + zone.height.toInt32 - 1

def exclusiveRight (zone : Zone) : Int32 := zone.x + zone.width.toInt32

def exclusiveBottom (zone : Zone) : Int32 := zone.y + zone.height.toInt32

end Zone

structure Barrier where
  x1 : Int32
  y1 : Int32
  x2 : Int32
  y2 : Int32
  deriving DecidableEq

/-- What the sort for an edge puts first: both sorts are stable, and those for
the right and the bottom descend. -/
def Edge.before : Edge → Zone → Zone → Prop
  | .left, a, b => a.x ≤ b.x
  | .right, a, b => b.exclusiveRight ≤ a.exclusiveRight
  | .top, a, b => a.y ≤ b.y
  | .bottom, a, b => b.exclusiveBottom ≤ a.exclusiveBottom

instance (edge : Edge) : DecidableRel edge.before := fun a b =>
  match edge with
  | .left => inferInstanceAs (Decidable (a.x ≤ b.x))
  | .right => inferInstanceAs (Decidable (b.exclusiveRight ≤ a.exclusiveRight))
  | .top => inferInstanceAs (Decidable (a.y ≤ b.y))
  | .bottom => inferInstanceAs (Decidable (b.exclusiveBottom ≤ a.exclusiveBottom))

def edgeMostZone (zones : List Zone) (edge : Edge) : Option Zone :=
  let indexed := zones.zipIdx.insertionSort fun a b => edge.before a.1 b.1
  indexed.head?.map Prod.fst

/-- The boundary of a zone towards an edge, from its first pixel to its last. -/
def Zone.boundary (zone : Zone) : Edge → Barrier
  | .left => ⟨zone.x, zone.y, zone.x, zone.inclusiveBottom⟩
  | .right => ⟨zone.exclusiveRight, zone.y, zone.exclusiveRight, zone.inclusiveBottom⟩
  | .top => ⟨zone.x, zone.y, zone.inclusiveRight, zone.y⟩
  | .bottom => ⟨zone.x, zone.exclusiveBottom, zone.inclusiveRight, zone.exclusiveBottom⟩

/-- `plan_barrier`, which does not read the id. -/
def planBarrier (zones : List Zone) (edge : Edge) (_barrierId : UInt32) : Option Barrier :=
  if zones.isEmpty then none
  else (edgeMostZone zones edge).map fun zone => zone.boundary edge

/-- A zone with some extent whose right and bottom edges fit. -/
structure Zone.Fits (zone : Zone) : Prop where
  wide : 1 ≤ zone.width.toNat ∧ zone.width.toNat < 2 ^ 31
  high : 1 ≤ zone.height.toNat ∧ zone.height.toNat < 2 ^ 31
  right : zone.x.toInt + zone.width.toNat < 2 ^ 31
  bottom : zone.y.toInt + zone.height.toNat < 2 ^ 31

/-- Where a zone ends towards an edge. -/
def Edge.line : Edge → Zone → Int
  | .left, zone => zone.x.toInt
  | .right, zone => zone.x.toInt + zone.width.toNat
  | .top, zone => zone.y.toInt
  | .bottom, zone => zone.y.toInt + zone.height.toNat

/-- The first of two coordinates lies further towards an edge than the second. -/
def Edge.Beyond : Edge → Int → Int → Prop
  | .left, p, q | .top, p, q => p < q
  | .right, p, q | .bottom, p, q => q < p

/-- The barrier lies on the line of a zone towards an edge, along all of its pixels. -/
def Edge.Spans (edge : Edge) (zone : Zone) (barrier : Barrier) : Prop :=
  match edge with
  | .left | .right =>
    barrier.x1.toInt = edge.line zone ∧ barrier.x2.toInt = edge.line zone ∧ barrier.y1.toInt = zone.y.toInt ∧
      barrier.y2.toInt = zone.y.toInt + zone.height.toNat - 1
  | .top | .bottom =>
    barrier.y1.toInt = edge.line zone ∧ barrier.y2.toInt = edge.line zone ∧ barrier.x1.toInt = zone.x.toInt ∧
      barrier.x2.toInt = zone.x.toInt + zone.width.toNat - 1

/-- What the code computes of a zone is what it would be without bounds on the numbers. -/
structure Zone.Exact (zone : Zone) : Prop where
  width : zone.width.toInt32.toInt = zone.width.toNat
  height : zone.height.toInt32.toInt = zone.height.toNat
  exclusiveRight : zone.exclusiveRight.toInt = zone.x.toInt + zone.width.toNat
  exclusiveBottom : zone.exclusiveBottom.toInt = zone.y.toInt + zone.height.toNat
  inclusiveRight : zone.inclusiveRight.toInt = zone.x.toInt + zone.width.toNat - 1
  inclusiveBottom : zone.inclusiveBottom.toInt = zone.y.toInt + zone.height.toNat - 1

section Arithmetic

theorem toInt_toInt32 {n : UInt32} (small : n.toNat < 2 ^ 31) : n.toInt32.toInt = n.toNat := by
  show n.toBitVec.toInt = n.toNat
  rw [BitVec.toInt_eq_toNat_of_lt (by show 2 * n.toNat < 2 ^ 32; omega)]
  rfl

theorem toInt_add_exact {a b : Int32} (low : -2 ^ 31 ≤ a.toInt + b.toInt) (high : a.toInt + b.toInt < 2 ^ 31) :
    (a + b).toInt = a.toInt + b.toInt := by
  rw [Int32.toInt_add]
  exact Int.bmod_eq_of_le (by omega) (by omega)

theorem toInt_pred_exact {a : Int32} (low : -2 ^ 31 < a.toInt) : (a - 1).toInt = a.toInt - 1 := by
  have high := a.toInt_lt
  rw [Int32.toInt_sub]
  exact Int.bmod_eq_of_le (by show _ ≤ a.toInt - 1; omega) (by show a.toInt - 1 < _; omega)

end Arithmetic

/-- A start and a length that fit give an exact end. -/
theorem end_exact {start : Int32} {length : UInt32} (long : 1 ≤ length.toNat) (small : length.toNat < 2 ^ 31)
    (fits : start.toInt + length.toNat < 2 ^ 31) :
    (start + length.toInt32).toInt = start.toInt + length.toNat ∧
      (start + length.toInt32 - 1).toInt = start.toInt + length.toNat - 1 := by
  have low := start.le_toInt
  have cast := toInt_toInt32 small
  have outside : (start + length.toInt32).toInt = start.toInt + length.toNat := by
    rw [toInt_add_exact (by omega) (by omega), cast]
  refine ⟨outside, ?_⟩
  rw [toInt_pred_exact (by omega), outside]

theorem Zone.Fits.exactly {zone : Zone} (fits : zone.Fits) : zone.Exact where
  width := toInt_toInt32 fits.wide.2
  height := toInt_toInt32 fits.high.2
  exclusiveRight := (end_exact fits.wide.1 fits.wide.2 fits.right).1
  exclusiveBottom := (end_exact fits.high.1 fits.high.2 fits.bottom).1
  inclusiveRight := (end_exact fits.wide.1 fits.wide.2 fits.right).2
  inclusiveBottom := (end_exact fits.high.1 fits.high.2 fits.bottom).2

namespace Edge

variable (edge : Edge)

theorem before_total (a b : Zone) : edge.before a b ∨ edge.before b a := by
  cases edge with
  | left => exact Int32.le_total ..
  | right => exact Int32.le_total ..
  | top => exact Int32.le_total ..
  | bottom => exact Int32.le_total ..

theorem before_trans (a b c : Zone) (first : edge.before a b) (second : edge.before b c) : edge.before a c := by
  cases edge with
  | left => exact Int32.le_trans first second
  | right => exact Int32.le_trans second first
  | top => exact Int32.le_trans first second
  | bottom => exact Int32.le_trans second first

/-- The sorts compare the lines of the zones. -/
theorem before_iff {a b : Zone} (first : a.Exact) (second : b.Exact) : edge.before a b ↔ ¬edge.Beyond (edge.line b) (edge.line a) := by
  cases edge with
  | left => exact Int32.le_iff_toInt_le.trans Int.not_lt.symm
  | right =>
    refine Int32.le_iff_toInt_le.trans ?_
    rw [first.exclusiveRight, second.exclusiveRight]
    exact Int.not_lt.symm
  | top => exact Int32.le_iff_toInt_le.trans Int.not_lt.symm
  | bottom =>
    refine Int32.le_iff_toInt_le.trans ?_
    rw [first.exclusiveBottom, second.exclusiveBottom]
    exact Int.not_lt.symm

theorem edgeMostZone_first {zones : List Zone} (nonempty : zones ≠ []) :
    ∃ zone, edgeMostZone zones edge = some zone ∧ FirstLeast edge.before zones zone := by
  have indexed : zones.zipIdx ≠ [] := by
    simpa using nonempty
  obtain ⟨entry, front, least⟩ := FirstLeast.head_insertionSort (r := fun a b : Zone × Nat => edge.before a.1 b.1)
    (fun a b => edge.before_total a.1 b.1) (fun a b c => edge.before_trans a.1 b.1 c.1) indexed
  refine ⟨entry.1, ?_, ?_⟩
  · rw [edgeMostZone, front, Option.map_some]
  · have projected := least.map (r := edge.before) (f := Prod.fst)
    rwa [List.zipIdx_map_fst] at projected

end Edge

/-- The barrier spans, on the outermost line of all zones towards the edge, the
first of the zones that reach it; and nothing overflows on the way. -/
theorem barrier_on_outermost_zone {zones : List Zone} (nonempty : zones ≠ []) (fits : ∀ zone ∈ zones, zone.Fits) (edge : Edge)
    (barrierId : UInt32) :
    (∃ barrier zone before after, planBarrier zones edge barrierId = some barrier ∧ zones = before ++ zone :: after ∧
      (∀ other ∈ before, edge.Beyond (edge.line zone) (edge.line other)) ∧
      (∀ other ∈ after, ¬edge.Beyond (edge.line other) (edge.line zone)) ∧ edge.Spans zone barrier) ∧
    ∀ zone ∈ zones, zone.Exact := by
  have exacts (zone : Zone) (member : zone ∈ zones) : zone.Exact := (fits zone member).exactly
  obtain ⟨zone, chosen, least⟩ := edge.edgeMostZone_first nonempty
  have exactly := exacts zone least.mem
  obtain ⟨before, after, whole, earlier, later⟩ := least
  have planned : planBarrier zones edge barrierId = some (zone.boundary edge) := by
    rw [planBarrier, if_neg (mt List.isEmpty_iff.mp nonempty), chosen, Option.map_some]
  refine ⟨⟨_, zone, before, after, planned, whole, fun other member => ?_, fun other member => ?_, ?_⟩, exacts⟩
  · have inside : other ∈ zones := whole ▸ List.mem_append_left _ member
    have apart := earlier other member
    rwa [edge.before_iff (exacts other inside) exactly, not_not] at apart
  · have inside : other ∈ zones := whole ▸ List.mem_append_right before (List.mem_cons_of_mem zone member)
    exact (edge.before_iff exactly (exacts other inside)).mp (later other member)
  · cases edge with
    | left => exact ⟨rfl, rfl, rfl, exactly.inclusiveBottom⟩
    | right => exact ⟨exactly.exclusiveRight, exactly.exclusiveRight, rfl, exactly.inclusiveBottom⟩
    | top => exact ⟨rfl, rfl, rfl, exactly.inclusiveRight⟩
    | bottom => exact ⟨exactly.exclusiveBottom, exactly.exclusiveBottom, rfl, exactly.inclusiveRight⟩

/-- Two monitors of one height, the right one lower by 100 pixels. -/
def twoMonitors : List Zone := [⟨0, 0, 1920, 1080⟩, ⟨1920, 100, 1920, 1080⟩]

theorem fits_twoMonitors : ∀ zone ∈ twoMonitors, zone.Fits := by
  intro zone member
  rcases List.mem_cons.mp member with rfl | second
  · exact ⟨by decide, by decide, by decide, by decide⟩
  · obtain rfl := List.mem_singleton.mp second
    exact ⟨by decide, by decide, by decide, by decide⟩

theorem twoMonitors_barrier :
    ∃ barrier zone before after, planBarrier twoMonitors .bottom 1 = some barrier ∧ twoMonitors = before ++ zone :: after ∧
      (∀ other ∈ before, Edge.bottom.Beyond (Edge.bottom.line zone) (Edge.bottom.line other)) ∧
      (∀ other ∈ after, ¬Edge.bottom.Beyond (Edge.bottom.line other) (Edge.bottom.line zone)) ∧
      Edge.bottom.Spans zone barrier :=
  (barrier_on_outermost_zone (by decide) fits_twoMonitors .bottom 1).1

end RustConnect
