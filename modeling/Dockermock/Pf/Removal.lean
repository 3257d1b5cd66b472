import Dockermock.Library.Transition
import Dockermock.Pf.Anchor

/-!
What stop_jail leaves of an anchor. Removal goes by port and protocol alone, so
a container takes exactly its own rules with it only where no rule of another
owner has the same destination port and protocol as one of its ports: the
container's port in the translations, the host's port in the redirects.
-/

namespace Dockermock.Pf

open Library Database

def rdrHit (port : Port) : Rule → Bool := hits port.host (ipProto port)

def natHit (port : Port) : Rule → Bool := hits port.container (ipProto port)

section OnePort

theorem hits_apart (value other : Int) (proto proto' : Proto) :
    hits other proto' = hits value proto ∨
      ∀ rule, hits value proto rule = true → hits other proto' rule = false := by
  by_cases same : port16 other = port16 value ∧ proto' = proto
  · exact Or.inl (by simp [hits, same.1, same.2, funext_iff])
  · refine Or.inr fun rule hit => ?_
    simp only [hits, Bool.and_eq_true, decide_eq_true_eq] at hit
    simp only [hits, hit.1, hit.2, Bool.and_eq_false_iff, decide_eq_false_iff_not]
    rw [← not_and_or]
    exact fun both => same ⟨both.1.symm, both.2.symm⟩

theorem all_hit_iff (wanted : Rule → Bool) (rules : List Rule) :
    rules.length = rules.countP wanted ↔ (rules.filter fun rule => !wanted rule) = [] := by
  rw [eq_comm, List.countP_eq_length, List.filter_eq_nil_iff]
  simp

theorem removeRdrPortRule_eq (anchor : Anchor) (value : Int) (proto : Proto) :
    removeRdrPortRule anchor value proto =
      if 16 < anchor.rdr.countP (hits value proto) then none
      else
        let rdr := anchor.rdr.filter fun rule => !hits value proto rule
        some ⟨rdr, if rdr = [] then [] else anchor.nat⟩ := by
  unfold removeRdrPortRule
  simp only [positionsFrom_length, removePositions_eq_filter, all_hit_iff]
  split
  · rfl
  · split
    · rename_i cleared
      rw [cleared]
    · rfl

theorem removeNatPortRule_eq (anchor : Anchor) (value : Int) (proto : Proto) :
    removeNatPortRule anchor value proto =
      if 16 < anchor.nat.countP (hits value proto) then none
      else some { anchor with nat := anchor.nat.filter fun rule => !hits value proto rule } := by
  unfold removeNatPortRule
  simp only [positionsFrom_length, removePositions_eq_filter, all_hit_iff]
  split
  · rfl
  · split
    · rename_i cleared
      rw [cleared]
    · rfl

def leftRdr (anchor : Anchor) (ports : List Port) : List Rule :=
  anchor.rdr.filter fun rule => !ports.any fun port => rdrHit port rule

def left (anchor : Anchor) (ports : List Port) : Anchor where
  rdr := leftRdr anchor ports
  nat :=
    if leftRdr anchor ports = [] then []
    else anchor.nat.filter fun rule => !ports.any fun port => natHit port rule

theorem removePort_eq (anchor : Anchor) (port : Port) :
    removePort anchor port =
      if 16 < anchor.rdr.countP (rdrHit port) ∨
          leftRdr anchor [port] ≠ [] ∧ 16 < anchor.nat.countP (natHit port) then none
      else some (left anchor [port]) := by
  have single : leftRdr anchor [port] = anchor.rdr.filter fun rule =>
      !hits port.host (ipProto port) rule := by
    simp [leftRdr, rdrHit]
  rw [removePort, removeRdrPortRule_eq]
  simp only [left, single, rdrHit]
  by_cases overflow : 16 < anchor.rdr.countP (hits port.host (ipProto port))
  · simp [overflow]
  · simp only [overflow, if_false, false_or, Option.bind_some, removeNatPortRule_eq]
    by_cases cleared : (anchor.rdr.filter fun rule => !hits port.host (ipProto port) rule) = []
    · simp [cleared]
    · simp [cleared, natHit]

end OnePort

section AllPorts

/-- Some redirect is hit by none of the ports; else the translations are cleared with them. -/
def RdrRemains (anchor : Anchor) (ports : List Port) : Prop :=
  ∃ rule ∈ anchor.rdr, ∀ port ∈ ports, rdrHit port rule = false

/-- No call finds more than the 16 rules that `rule_positions` has room for. -/
structure Fits (anchor : Anchor) (ports : List Port) : Prop where
  rdr : ∀ port ∈ ports, anchor.rdr.countP (rdrHit port) ≤ 16
  nat : ∀ earlier port later, ports = earlier ++ port :: later →
    RdrRemains anchor (earlier ++ [port]) → anchor.nat.countP (natHit port) ≤ 16

theorem leftRdr_ne_nil_iff (anchor : Anchor) (ports : List Port) :
    leftRdr anchor ports ≠ [] ↔ RdrRemains anchor ports := by
  simp [leftRdr, RdrRemains, List.filter_eq_nil_iff]

theorem leftRdr_cons (anchor : Anchor) (port : Port) (rest : List Port) :
    leftRdr (left anchor [port]) rest = leftRdr anchor (port :: rest) := by
  simp only [left, leftRdr, List.filter_filter, List.any_cons, List.any_nil,
    Bool.or_false, Bool.not_or]
  exact List.filter_congr fun rule _ => Bool.and_comm _ _

theorem left_cons (anchor : Anchor) (port : Port) (rest : List Port) :
    left (left anchor [port]) rest = left anchor (port :: rest) := by
  rw [left, leftRdr_cons]
  conv => rhs; rw [left]
  congr 1
  by_cases cleared : leftRdr anchor (port :: rest) = []
  · simp [cleared]
  · have remains : leftRdr anchor [port] ≠ [] := by
      rcases (leftRdr_ne_nil_iff _ _).mp cleared with ⟨rule, member, missed⟩
      exact (leftRdr_ne_nil_iff _ _).mpr ⟨rule, member, fun one first =>
        missed one (by simp_all)⟩
    simp only [left, cleared, remains, if_false, List.filter_filter]
    refine List.filter_congr fun rule _ => ?_
    simp [Bool.and_comm]

theorem rdrRemains_cons (anchor : Anchor) (port : Port) (rest : List Port) :
    RdrRemains (left anchor [port]) rest ↔ RdrRemains anchor (port :: rest) := by
  rw [← leftRdr_ne_nil_iff, leftRdr_cons, leftRdr_ne_nil_iff]

theorem rdrCount_left (anchor : Anchor) (port other : Port)
    (few : anchor.rdr.countP (rdrHit port) ≤ 16) :
    (left anchor [port]).rdr.countP (rdrHit other) ≤ 16 ↔
        anchor.rdr.countP (rdrHit other) ≤ 16 := by
  have bound :=
    countP_filter_not_le_iff 16 (rdrHit port) (rdrHit other) anchor.rdr (hits_apart _ _ _ _) few
  simpa [left, leftRdr] using bound

theorem natCount_left (anchor : Anchor) (port other : Port) (remains : RdrRemains anchor [port])
    (few : anchor.nat.countP (natHit port) ≤ 16) :
    (left anchor [port]).nat.countP (natHit other) ≤ 16 ↔
        anchor.nat.countP (natHit other) ≤ 16 := by
  have bound :=
    countP_filter_not_le_iff 16 (natHit port) (natHit other) anchor.nat (hits_apart _ _ _ _) few
  have uncleared := (leftRdr_ne_nil_iff _ _).mpr remains
  simpa [left, uncleared] using bound

theorem RdrRemains.of_subset {anchor : Anchor} {ports fewer : List Port}
    (remains : RdrRemains anchor ports) (among : fewer ⊆ ports) : RdrRemains anchor fewer := by
  rcases remains with ⟨rule, member, missed⟩
  exact ⟨rule, member, fun port listed => missed port (among listed)⟩

theorem fits_cons_iff (anchor : Anchor) (port : Port) (rest : List Port) :
    Fits anchor (port :: rest) ↔
      ¬ (16 < anchor.rdr.countP (rdrHit port) ∨
          leftRdr anchor [port] ≠ [] ∧ 16 < anchor.nat.countP (natHit port)) ∧
        Fits (left anchor [port]) rest := by
  rw [leftRdr_ne_nil_iff, not_or, not_and, Nat.not_lt, Nat.not_lt]
  -- A later port of the same kind finds nothing any more, and any other port finds all it
  -- would have found before.
  constructor
  · intro fits
    have few := fits.rdr port List.mem_cons_self
    have natFew : RdrRemains anchor [port] → anchor.nat.countP (natHit port) ≤ 16 :=
      fits.nat [] port rest rfl
    refine ⟨⟨few, natFew⟩, ?_, ?_⟩
    · exact fun other member =>
        (rdrCount_left anchor port other few).mpr (fits.rdr other (by simp [member]))
    · rintro earlier other later rfl remains
      rw [rdrRemains_cons] at remains
      have first : RdrRemains anchor [port] := remains.of_subset (by simp)
      refine (natCount_left anchor port other first (natFew first)).mpr ?_
      exact fits.nat (port :: earlier) other later rfl remains
  · rintro ⟨⟨few, natFew⟩, fits⟩
    constructor
    · intro other member
      rcases List.mem_cons.mp member with rfl | later
      · exact few
      · exact (rdrCount_left anchor port other few).mp (fits.rdr other later)
    · intro earlier other later split remains
      cases earlier with
      | nil =>
          cases split
          exact natFew remains
      | cons head earlier =>
          cases split
          have first : RdrRemains anchor [port] := remains.of_subset (by simp)
          refine (natCount_left anchor port other first (natFew first)).mp ?_
          exact fits.nat earlier other later rfl ((rdrRemains_cons _ _ _).mpr remains)

/-- An anchor has no translations without redirects. -/
def Rooted (anchor : Anchor) : Prop := anchor.rdr = [] → anchor.nat = []

theorem left_rooted (anchor : Anchor) (ports : List Port) :
    Rooted (left anchor ports) := fun cleared =>
  if_pos cleared

theorem left_nil (anchor : Anchor) (rooted : Rooted anchor) : left anchor [] = anchor := by
  rcases anchor with ⟨rdr, nat⟩
  by_cases bare : rdr = []
  · subst bare
    have empty : nat = [] := rooted rfl
    simp [left, leftRdr, empty]
  · simp [left, leftRdr, bare]

theorem removePort_foldlM (ports : List Port) (anchor after : Anchor) (rooted : Rooted anchor) :
    ports.foldlM removePort anchor = some after ↔
        Fits anchor ports ∧ after = left anchor ports := by
  induction ports generalizing anchor with
  | nil =>
      have fits : Fits anchor [] := ⟨nofun, fun earlier _ _ split => by simp at split⟩
      simp [fits, left_nil anchor rooted, eq_comm]
  | cons port rest ih =>
      rw [List.foldlM_cons, removePort_eq, fits_cons_iff]
      split
      · rename_i overflow
        simp [overflow]
      · rename_i room
        have tail := ih (left anchor [port]) (left_rooted _ _)
        rw [left_cons] at tail
        rw [and_iff_right room, ← tail]
        rfl

end AllPorts

end Dockermock.Pf
