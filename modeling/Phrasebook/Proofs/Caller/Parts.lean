import Mathlib.Data.List.Nodup
import Phrasebook.Caller.Tree

/-!
# The parts of a tree

A part of a tree is known by the steps that lead to it. The list of all parts holds what is found at
the end of steps and never two parts behind the same steps. What holds at some part of a tree holds
of the tree itself or at some part of what it is made of.
-/

namespace Phrasebook.Caller

/-- A step from a tree to one of its parts. -/
inductive Step
  | owner
  | first
  | second
  deriving DecidableEq, Repr

namespace Tree

/-- The part of a tree at the end of some steps. -/
def part? : List Step → Tree → Option Tree
  | [], tree => some tree
  | .owner :: steps, .attribute owner _ _ _ => owner.part? steps
  | .first :: steps, .join first _ => first.part? steps
  | .second :: steps, .join _ second => second.part? steps
  | _, _ => none

/-- A part behind one more step. -/
def behind (step : Step) (part : List Step × Tree) : List Step × Tree := (step :: part.1, part.2)

/-- All parts of a tree with the steps to them, a part before those inside it. -/
def parts : Tree → List (List Step × Tree)
  | .attribute owner attr line column =>
    ([], .attribute owner attr line column) :: owner.parts.map (behind .owner)
  | .join first second =>
    ([], .join first second) ::
      (first.parts.map (behind .first) ++ second.parts.map (behind .second))
  | tree => [([], tree)]

private theorem mem_map_behind {step step' : Step} {steps : List Step} {node : Tree}
    {parts : List (List Step × Tree)} :
    (step :: steps, node) ∈ parts.map (behind step') ↔ step = step' ∧ (steps, node) ∈ parts := by
  rw [List.mem_map]
  constructor
  · rintro ⟨⟨steps', node'⟩, hmem, heq⟩
    obtain ⟨hsteps, rfl⟩ := Prod.mk.inj heq
    obtain ⟨rfl, rfl⟩ := List.cons.inj hsteps
    exact ⟨rfl, hmem⟩
  · rintro ⟨rfl, hmem⟩
    exact ⟨(steps, node), hmem, rfl⟩

private theorem nil_not_mem_map_behind {step : Step} {node : Tree}
    {parts : List (List Step × Tree)} :
    ([], node) ∉ parts.map (behind step) := by
  simp [behind]

/-- The parts of a tree are what is found at the end of steps. -/
theorem mem_parts {tree node : Tree} {steps : List Step} :
    (steps, node) ∈ tree.parts ↔ tree.part? steps = some node := by
  induction tree generalizing steps with
  | «attribute» owner attr line column ih =>
      cases steps with
      | nil => simp [parts, part?, nil_not_mem_map_behind, eq_comm]
      | cons step steps =>
          cases step <;> simp [parts, part?, mem_map_behind, ih]
  | join first second ihFirst ihSecond =>
      cases steps with
      | nil => simp [parts, part?, nil_not_mem_map_behind, eq_comm]
      | cons step steps =>
          cases step <;> simp [parts, part?, mem_map_behind, ihFirst, ihSecond]
  | _ =>
      cases steps with
      | nil => simp [parts, part?, eq_comm]
      | cons step steps => simp [parts, part?]

/-- No two parts are at the end of the same steps. -/
theorem nodup_steps_parts (tree : Tree) : (tree.parts.map Prod.fst).Nodup := by
  have hbehind {step : Step} {parts : List (List Step × Tree)} :
      (parts.map (behind step)).map Prod.fst = (parts.map Prod.fst).map (step :: ·) := by
    simp [behind, Function.comp_def]
  have hcons (step : Step) : Function.Injective (step :: · : List Step → List Step) :=
    fun _ _ h => (List.cons.inj h).2
  induction tree with
  | «attribute» owner attr line column ih =>
      rw [parts, List.map_cons, hbehind, List.nodup_cons]
      exact ⟨by simp, ih.map (hcons _)⟩
  | join first second ihFirst ihSecond =>
      rw [parts, List.map_cons, List.map_append, hbehind, hbehind, List.nodup_cons,
        List.nodup_append]
      refine ⟨by simp, ihFirst.map (hcons _), ihSecond.map (hcons _), ?_⟩
      intro steps hfirst steps' hsecond heq
      obtain ⟨rest, -, rfl⟩ := List.mem_map.mp hfirst
      obtain ⟨rest', -, rfl⟩ := List.mem_map.mp hsecond
      cases (List.cons.inj heq).1
  | _ => simp [parts]

/-- Something holds at a part of a tree without inner parts if it holds of the tree. -/
theorem exists_part_leaf {p : Tree → Prop} {tree : Tree}
    (h : ∀ step steps, tree.part? (step :: steps) = none) :
    (∃ steps node, tree.part? steps = some node ∧ p node) ↔ p tree := by
  constructor
  · rintro ⟨steps, node, hpart, hp⟩
    cases steps with
    | nil =>
        obtain rfl := Option.some.inj hpart
        exact hp
    | cons step steps =>
        rw [h step steps] at hpart
        cases hpart
  · intro hp
    exact ⟨[], tree, rfl, hp⟩

/-- Something holds at a part of an access if it holds of the access or at a part of its owner. -/
theorem exists_part_attribute {p : Tree → Prop} {owner : Tree} {attr : String}
    {line column : Nat} :
    (∃ steps node, (Tree.attribute owner attr line column).part? steps = some node ∧ p node) ↔
      p (.attribute owner attr line column) ∨
        ∃ steps node, owner.part? steps = some node ∧ p node := by
  constructor
  · rintro ⟨steps, node, hpart, hp⟩
    match steps with
    | [] =>
        obtain rfl := Option.some.inj hpart
        exact .inl hp
    | .owner :: steps => exact .inr ⟨steps, node, hpart, hp⟩
  · rintro (hp | ⟨steps, node, hpart, hp⟩)
    · exact ⟨[], _, rfl, hp⟩
    · exact ⟨.owner :: steps, node, hpart, hp⟩

/-- Something holds at a part of two parts if it holds of both together or at a part of one. -/
theorem exists_part_join {p : Tree → Prop} {first second : Tree} :
    (∃ steps node, (Tree.join first second).part? steps = some node ∧ p node) ↔
      p (.join first second) ∨ (∃ steps node, first.part? steps = some node ∧ p node) ∨
        ∃ steps node, second.part? steps = some node ∧ p node := by
  constructor
  · rintro ⟨steps, node, hpart, hp⟩
    match steps with
    | [] =>
        obtain rfl := Option.some.inj hpart
        exact .inl hp
    | .first :: steps => exact .inr (.inl ⟨steps, node, hpart, hp⟩)
    | .second :: steps => exact .inr (.inr ⟨steps, node, hpart, hp⟩)
  · rintro (hp | ⟨steps, node, hpart, hp⟩ | ⟨steps, node, hpart, hp⟩)
    · exact ⟨[], _, rfl, hp⟩
    · exact ⟨.first :: steps, node, hpart, hp⟩
    · exact ⟨.second :: steps, node, hpart, hp⟩

end Tree

end Phrasebook.Caller
