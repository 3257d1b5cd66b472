import Dockermock.Library.Lists
import Dockermock.PfUtil.Rules

/-!
What remove_nat_port_rule and remove_rdr_port_rule leave of an anchor. Both
collect the positions of the matching rules first, and remove them one after the
other; if all rules match, they clear instead, the one the translations and the
other the whole anchor. Every ioctl succeeds, but for a rule that is not there.
-/

namespace Dockermock.PfUtil

open Library

section Removing

/-- The three rulesets of an anchor that these functions touch. -/
structure Anchor where
  rdr : List Installed
  nat : List Installed
  filter : List Installed
  deriving DecidableEq, Repr

/-- clear_nat_ruleset: an empty transaction is committed. -/
def clearNatRuleset (anchor : Anchor) : Anchor := { anchor with nat := [] }

def clearRdrRuleset (anchor : Anchor) : Anchor := { anchor with rdr := [] }

def clearPassRuleset (anchor : Anchor) : Anchor := { anchor with filter := [] }

def clearRuleset (anchor : Anchor) : Anchor :=
  clearPassRuleset (clearRdrRuleset (clearNatRuleset anchor))

/-- The comparison in both loops: the port in the sixteen bits of htons, the protocol as an int. -/
def matchesPort (port proto : Int) (installed : Installed) : Bool :=
  installed.rule.dst.port = .ofInt 16 port ∧ (installed.rule.proto.toNat : Int) = proto

/-- The loop over all rules; nothing where the 17th position is written behind the end of
`rule_positions`. -/
def collect (wanted : Installed → Bool) : List Installed → Nat → List Nat → Option (List Nat)
  | [], _, positions => some positions
  | rule :: rest, i, positions =>
      if wanted rule then
        if positions.length < 16 then collect wanted rest (i + 1) (positions ++ [i]) else none
      else collect wanted rest (i + 1) positions

/-- remove_nth_rule; nothing where it returns -1. -/
def removeNthRule (rNum : Nat) (rules : List Installed) : Option (List Installed) :=
  if rNum < rules.length then some (rules.eraseIdx rNum) else none

/-- The second loop, with what is returned. -/
def removeCollected : List Nat → Nat → List Installed → Int × List Installed
  | [], _, rules => (0, rules)
  | position :: rest, i, rules =>
      match removeNthRule (position - i) rules with
      | none => (-1, rules)
      | some left => removeCollected rest (i + 1) left

/-- remove_nat_port_rule on an anchor that may not exist. -/
def removeNatPortRule (port proto : Int) : Option Anchor → Option (Int × Option Anchor)
  | none => some (0, none)
  | some anchor =>
      (collect (matchesPort port proto) anchor.nat 0 []).map fun positions =>
        if anchor.nat.length = positions.length then (0, some (clearNatRuleset anchor))
        else
          let left := removeCollected positions 0 anchor.nat
          (left.1, some { anchor with nat := left.2 })

/-- remove_rdr_port_rule, which clears the whole anchor. -/
def removeRdrPortRule (port proto : Int) : Option Anchor → Option (Int × Option Anchor)
  | none => some (0, none)
  | some anchor =>
      (collect (matchesPort port proto) anchor.rdr 0 []).map fun positions =>
        if anchor.rdr.length = positions.length then (0, some (clearRuleset anchor))
        else
          let left := removeCollected positions 0 anchor.rdr
          (left.1, some { anchor with rdr := left.2 })

end Removing

section Lists

variable (wanted : Installed → Bool)

theorem collect_eq (rules : List Installed) (i : Nat) (positions : List Nat)
    (fits : positions.length ≤ 16) : collect wanted rules i positions =
      if positions.length + rules.countP wanted ≤ 16 then
        some (positions ++ positionsFrom wanted i rules)
      else none := by
  induction rules generalizing i positions with
  | nil => simp [collect, positionsFrom, fits]
  | cons rule rest ih =>
      cases hit : wanted rule with
      | false =>
          have step : collect wanted (rule :: rest) i positions =
              collect wanted rest (i + 1) positions := by
            simp [collect, hit]
          rw [step, ih _ _ fits, List.countP_cons_of_neg (by simp [hit])]
          simp [positionsFrom, hit]
      | true =>
          rw [List.countP_cons_of_pos hit]
          by_cases room : positions.length < 16
          · have step : collect wanted (rule :: rest) i positions =
                collect wanted rest (i + 1) (positions ++ [i]) := by simp [collect, hit, room]
            have longer : (positions ++ [i]).length ≤ 16 := by simp; omega
            rw [step, ih _ _ longer]
            simp [positionsFrom, hit, Nat.add_assoc, Nat.add_comm 1]
          · have full : ¬ positions.length + (rest.countP wanted + 1) ≤ 16 := by omega
            simp [collect, hit, room, full]

theorem removeCollected_from (front rules : List Installed) (removed : Nat) :
    removeCollected (positionsFrom wanted (front.length + removed) rules) removed (front ++ rules) =
      (0, front ++ rules.filter fun rule => !wanted rule) := by
  induction rules generalizing front removed with
  | nil => simp [positionsFrom, removeCollected]
  | cons rule rest ih =>
      by_cases hit : wanted rule = true
      · have inside : front.length < (front ++ rule :: rest).length := by simp
        have erased : removeNthRule (front.length + removed - removed) (front ++ rule :: rest) =
            some (front ++ rest) := by
          rw [Nat.add_sub_cancel, removeNthRule, if_pos inside,
            List.eraseIdx_append_of_length_le (Nat.le_refl _),
            Nat.sub_self, List.eraseIdx_cons_zero]
        rw [positionsFrom, if_pos hit, removeCollected, erased, Nat.add_assoc]
        dsimp only
        rw [ih]
        simp [hit]
      · have kept := ih (front ++ [rule]) removed
        rw [positionsFrom, if_neg hit, List.filter_cons_of_pos (by simpa using hit)]
        simpa [Nat.add_right_comm] using kept

theorem removeCollected_eq (rules : List Installed) :
    removeCollected (positionsFrom wanted 0 rules) 0 rules =
        (0, rules.filter fun rule => !wanted rule) := by
  simpa using removeCollected_from wanted [] rules 0

theorem all_wanted_iff (rules : List Installed) :
    rules.length = (positionsFrom wanted 0 rules).length ↔ ∀ rule ∈ rules, wanted rule = true := by
  rw [positionsFrom_length, eq_comm, List.countP_eq_length]

end Lists

section Ports

theorem collect_start (wanted : Installed → Bool) (rules : List Installed) :
    collect wanted rules 0 [] = if rules.countP wanted ≤ 16 then some (positionsFrom wanted 0 rules)
        else none := by
  simpa using collect_eq wanted rules 0 [] (Nat.zero_le _)

theorem filter_all_wanted {wanted : Installed → Bool} {rules : List Installed}
    (all : ∀ rule ∈ rules, wanted rule = true) : (rules.filter fun rule => !wanted rule) = [] :=
  List.filter_eq_nil_iff.mpr fun rule member => by simp [all rule member]

/-- With at most sixteen matching rules, the others are left, whichever way is taken. -/
theorem removeNatPortRule_filter (port proto : Int) (anchor : Anchor)
    (few : anchor.nat.countP (matchesPort port proto) ≤ 16) :
    removeNatPortRule port proto (some anchor) =
      some (0,
          some { anchor with nat :=
            anchor.nat.filter fun rule => !matchesPort port proto rule }) := by
  rw [removeNatPortRule, collect_start, if_pos few, Option.map_some]
  by_cases all : ∀ rule ∈ anchor.nat, matchesPort port proto rule = true
  · rw [if_pos ((all_wanted_iff _ _).mpr all), filter_all_wanted all, clearNatRuleset]
  · rw [if_neg (mt (all_wanted_iff _ _).mp all), removeCollected_eq]

/-- Redirects go the same way, but where all of them match the anchor is emptied. -/
theorem removeRdrPortRule_eq (port proto : Int) (anchor : Anchor) :
    removeRdrPortRule port proto (some anchor) =
      if anchor.rdr.countP (matchesPort port proto) ≤ 16 then
        if ∀ rule ∈ anchor.rdr, matchesPort port proto rule = true then some (0, some ⟨[], [], []⟩)
        else some (0,
          some { anchor with rdr := anchor.rdr.filter fun rule => !matchesPort port proto rule })
      else none := by
  rw [removeRdrPortRule, collect_start]
  by_cases few : anchor.rdr.countP (matchesPort port proto) ≤ 16
  · rw [if_pos few, if_pos few, Option.map_some]
    by_cases all : ∀ rule ∈ anchor.rdr, matchesPort port proto rule = true
    · rw [if_pos ((all_wanted_iff _ _).mpr all), if_pos all]
      rfl
    · rw [if_neg (mt (all_wanted_iff _ _).mp all), if_neg all, removeCollected_eq]
  · rw [if_neg few, if_neg few, Option.map_none]

/-- Exactly the other redirects are left and nothing else is touched, unless there are too many
matches, or only matches and something else to lose. -/
theorem removeRdrPortRule_filter_iff (port proto : Int) (anchor : Anchor) :
    removeRdrPortRule port proto (some anchor) =
        some (0,
          some { anchor with rdr := anchor.rdr.filter fun rule => !matchesPort port proto rule }) ↔
      anchor.rdr.countP (matchesPort port proto) ≤ 16 ∧
        ((∃ rule ∈ anchor.rdr, matchesPort port proto rule = false) ∨
            (anchor.nat = [] ∧ anchor.filter = [])) := by
  rw [removeRdrPortRule_eq]
  by_cases few : anchor.rdr.countP (matchesPort port proto) ≤ 16
  · rw [if_pos few, and_iff_right few]
    by_cases all : ∀ rule ∈ anchor.rdr, matchesPort port proto rule = true
    · have none : ¬ ∃ rule ∈ anchor.rdr, matchesPort port proto rule = false :=
        fun ⟨rule, member, other⟩ => by
          rw [all rule member] at other
          cases other
      -- with every redirect gone clear_ruleset empties the other rulesets as well
      rw [if_pos all, filter_all_wanted all, or_iff_right none]
      constructor
      · intro same
        have fields := (Prod.mk.inj (Option.some.inj same)).2
        cases anchor
        cases fields
        exact ⟨rfl, rfl⟩
      · rintro ⟨nat, filter⟩
        cases anchor
        cases nat
        cases filter
        rfl
    · rw [if_neg all]
      refine iff_of_true rfl (.inl ?_)
      simpa using all
  · rw [if_neg few]
    exact iff_of_false (by simp) fun both => few both.1

section Instances

def portRule (port : BitVec 16) (proto : UInt8) : Installed :=
  ⟨{ PfRule.zero with proto := proto, dst := { PfRuleAddr.zero with port := port, portOp := .eq } },
    []⟩

theorem removeNatPortRule_two :
    removeNatPortRule 80 6 (some ⟨[], [portRule 80 6, portRule 53 17, portRule 80 6], []⟩) =
      some (0, some { (⟨[], [portRule 80 6, portRule 53 17, portRule 80 6], []⟩ : Anchor) with
        nat := [portRule 80 6, portRule 53 17, portRule 80 6].filter fun rule =>
            !matchesPort 80 6 rule }) :=
  removeNatPortRule_filter 80 6 ⟨[], [portRule 80 6, portRule 53 17, portRule 80 6], []⟩ (by decide)

/-- The translations go with the only redirect, and so they do where there is none; seventeen
matches are written behind the array. -/
theorem removeRdrPortRule_takes_more :
    removeRdrPortRule 80 6 (some ⟨[portRule 80 6], [portRule 53 17], [portRule 22 6]⟩) =
      some (0, some ⟨[], [], []⟩) ∧
      removeRdrPortRule 80 6 (some ⟨[], [portRule 53 17], []⟩) = some (0, some ⟨[], [], []⟩) ∧
      removeRdrPortRule 80 6 (some ⟨List.replicate 17 (portRule 80 6), [], []⟩) = none := by
  decide +kernel

end Instances

end Ports

end Dockermock.PfUtil
