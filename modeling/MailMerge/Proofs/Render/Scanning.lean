/-
# A condition is gone through from left to right

The markup of a condition is a chain: a comparison, and further ones with `and` or `or` in front
of each. It is read into a tree that leans to the right, and the truth of that tree is found by
recursion, in which a joint leaves its right side alone if its left side decides it. All the same
the outcome is the one of going through the chain from left to right (`Chain.evalCondition_scan`):

| a comparison comes out as | and after it stands | then the chain |
| --- | --- | --- |
| a fault | anything | is that fault |
| true or false | nothing | is that truth |
| false | `and` | is false |
| true | `or` | is true |
| true | `and` | goes on |
| false | `or` | goes on |

So one comparison decides (`Chain.scan_eq_iff`), and whatever stands behind it, faults included,
has no influence. There are no groups: a false comparison before `and` ends a chain in which a
true one follows after `or`.
-/

import MailMerge.Proofs.Markup.Chains
import MailMerge.Render.Evaluate

namespace MailMerge
namespace Render

open Markup (Comparison Condition Joint Joined Lexeme)

/-! ### Chains -/

/-- **A chain:** a comparison, and further ones with the joint in front of each. -/
structure Chain where
  first : Comparison
  rest : List (Joint × Comparison)

namespace Chain

/-- The comparisons of a chain, in order. -/
def comparisons (chain : Chain) : List Comparison := chain.first :: chain.rest.map (·.2)

/-- The joints of a chain: the one at a place stands behind the comparison there. -/
def joints (chain : Chain) : List Joint := chain.rest.map (·.1)

/-- **The lexemes of a chain,** in the order they are written. -/
def lexemes (chain : Chain) : List Lexeme :=
  chain.first.lexemes ++ chain.rest.flatMap fun entry => entry.1.lexeme :: entry.2.lexemes

/-- **A chain that is written as a markup.** -/
def WrittenAs (markup : String) (chain : Chain) : Prop :=
  ∃ placed, Markup.lex markup = .ok placed ∧ placed.map (·.lexeme) = chain.lexemes

/-- The condition that joins a comparison to what stands behind it. -/
def conditionFrom : Comparison → List (Joint × Comparison) → Condition
  | comparison, [] => .last comparison
  | comparison, (joint, next) :: rest => .join comparison joint (conditionFrom next rest)

/-- **The condition of a chain.** -/
def condition (chain : Chain) : Condition := conditionFrom chain.first chain.rest

/-- The scan from a comparison on. -/
def scanFrom (env : Env) : Comparison → List (Joint × Comparison) → Except Fault Bool
  | comparison, [] => evalComparison env comparison
  | comparison, (joint, next) :: rest =>
    match evalComparison env comparison, joint with
    | .error fault, _ => .error fault
    | .ok false, .and => .ok false
    | .ok true, .or => .ok true
    | .ok _, _ => scanFrom env next rest

/-- **The scan of a chain** from left to right. -/
def scan (env : Env) (chain : Chain) : Except Fault Bool := scanFrom env chain.first chain.rest

/-- **What comes out of a comparison settles a chain** if it is a fault, if nothing stands behind
the comparison, or if it is the truth that decides the joint there. -/
def Settles : Option Joint → Except Fault Bool → Prop
  | _, .error _ => True
  | none, .ok _ => True
  | some .and, .ok truth => truth = false
  | some .or, .ok truth => truth = true

/-- **The comparison that decides a chain:** the first one to settle it. -/
structure DecidedAt (env : Env) (chain : Chain) (place : Nat) (result : Except Fault Bool) : Prop where
  here : ∃ comparison, chain.comparisons[place]? = some comparison ∧ evalComparison env comparison = result
  settles : Settles chain.joints[place]? result
  passes : ∀ earlier < place, ∃ comparison, chain.comparisons[earlier]? = some comparison ∧
    ¬Settles chain.joints[earlier]? (evalComparison env comparison)

variable {env : Env} {chain other : Chain} {comparison next : Comparison} {joint : Joint}
  {rest : List (Joint × Comparison)} {place : Nat} {result : Except Fault Bool}

theorem lexemes_conditionFrom (comparison : Comparison) (rest : List (Joint × Comparison)) :
    (conditionFrom comparison rest).lexemes = (Chain.mk comparison rest).lexemes := by
  induction rest generalizing comparison with
  | nil => exact (List.append_nil _).symm
  | cons entry rest ih =>
    rw [conditionFrom, Condition.lexemes, ih, lexemes, lexemes, List.flatMap_cons]
    rfl

/-- The comparisons of a chain, paired with their joints, join to its condition behind those in `done`. -/
theorem ofChain_paired (comparison : Comparison) (rest : List (Joint × Comparison))
    (done : List (Comparison × Joint)) :
    let paired := rest.foldl (fun paired entry => (paired.1 ++ [(paired.2, entry.1)], entry.2))
      (done, comparison)
    Condition.ofChain paired.1 paired.2 =
      done.foldr (fun entry rest => .join entry.1 entry.2 rest) (conditionFrom comparison rest) := by
  induction rest generalizing comparison done with
  | nil => rfl
  | cons entry rest ih =>
    have later := ih entry.2 (done ++ [(comparison, entry.1)])
    rw [List.foldr_append] at later
    exact later

/-- **The tree of a chain's condition** joins its comparisons to the right. -/
theorem joined_condition (chain : Chain) :
    chain.condition.joined = .foldRight chain.first chain.rest := by
  have paired := ofChain_paired chain.first chain.rest []
  rw [Joined.foldRight, ← Condition.joined_ofChain, paired]
  rfl

/-- **Every condition is that of a chain.** -/
theorem exists_condition (condition : Condition) : ∃ chain : Chain, chain.condition = condition := by
  induction condition with
  | last comparison => exact ⟨⟨comparison, []⟩, rfl⟩
  | join comparison joint rest ih =>
    obtain ⟨⟨first, entries⟩, rfl⟩ := ih
    exact ⟨⟨comparison, (joint, first) :: entries⟩, rfl⟩

/-- **A chain is read into its condition** exactly from the markups it is written as. -/
theorem writtenAs_iff (markup : String) (offset : Nat) (chain : Chain) :
    chain.WrittenAs markup ↔ Markup.readCondition markup offset = .ok chain.condition := by
  rw [Markup.readCondition_ok_iff_writtenAs, Joined.WrittenAs, Condition.lexemes_joined, condition,
    lexemes_conditionFrom]
  rfl

/-! ### The scan -/

/-- **The recursion over the tree is the scan.** -/
theorem evalCondition_conditionFrom (env : Env) (comparison : Comparison)
    (rest : List (Joint × Comparison)) :
    evalCondition env (conditionFrom comparison rest) = scanFrom env comparison rest := by
  induction rest generalizing comparison with
  | nil => rfl
  | cons entry rest ih =>
    obtain ⟨joint, next⟩ := entry
    rw [conditionFrom]
    unfold evalCondition scanFrom
    rw [ih]
    rcases evalComparison env comparison with fault | _ | _ <;> cases joint <;> rfl

/-- A comparison that settles the chain is its outcome, and after any other the scan goes on. -/
theorem scanFrom_cons (env : Env) (comparison next : Comparison) (joint : Joint)
    (rest : List (Joint × Comparison)) :
    (Settles (some joint) (evalComparison env comparison) ∧
        scanFrom env comparison ((joint, next) :: rest) = evalComparison env comparison) ∨
      (¬Settles (some joint) (evalComparison env comparison) ∧
        scanFrom env comparison ((joint, next) :: rest) = scanFrom env next rest) := by
  rcases outcome : evalComparison env comparison with fault | _ | _ <;> cases joint <;>
    simp [scanFrom, outcome, Settles]

/-- **A later comparison decides** where the first one does not settle the chain. -/
theorem DecidedAt.later (goes : ¬Settles (some joint) (evalComparison env comparison))
    (h : DecidedAt env ⟨next, rest⟩ place result) :
    DecidedAt env ⟨comparison, (joint, next) :: rest⟩ (place + 1) result where
  here := h.here
  settles := h.settles
  passes
    | 0, _ => ⟨comparison, rfl, goes⟩
    | earlier + 1, less => h.passes earlier (Nat.lt_of_succ_lt_succ less)

/-- What settles no chain with a joint behind it leaves the decision to the rest. -/
theorem DecidedAt.passed (h : DecidedAt env ⟨comparison, (joint, next) :: rest⟩ (place + 1) result) :
    ¬Settles (some joint) (evalComparison env comparison) ∧
      DecidedAt env ⟨next, rest⟩ place result := by
  obtain ⟨_, same, goes⟩ := h.passes 0 (Nat.succ_pos _)
  obtain rfl := Option.some.inj same
  exact ⟨goes, h.here, h.settles, fun earlier less => h.passes (earlier + 1) (Nat.succ_lt_succ less)⟩

/-- **The scan ends at the comparison that decides.** -/
theorem exists_decidedAt (env : Env) (comparison : Comparison) (rest : List (Joint × Comparison)) :
    ∃ place, DecidedAt env ⟨comparison, rest⟩ place (scanFrom env comparison rest) := by
  induction rest generalizing comparison with
  | nil =>
    refine ⟨0, ⟨comparison, rfl, rfl⟩, ?_, fun _ less => absurd less (Nat.not_lt_zero _)⟩
    show Settles none (evalComparison env comparison)
    rcases evalComparison env comparison with fault | truth <;> trivial
  | cons entry rest ih =>
    obtain ⟨joint, next⟩ := entry
    rcases scanFrom_cons env comparison next joint rest with ⟨settles, same⟩ | ⟨goes, same⟩
    · rw [same]
      exact ⟨0, ⟨comparison, rfl, rfl⟩, settles, fun _ less => absurd less (Nat.not_lt_zero _)⟩
    · obtain ⟨place, decided⟩ := ih next
      rw [same]
      exact ⟨place + 1, decided.later goes⟩

theorem scanFrom_of_decidedAt (h : DecidedAt env ⟨comparison, rest⟩ place result) :
    scanFrom env comparison rest = result := by
  induction place generalizing comparison rest with
  | zero =>
    obtain ⟨_, same, rfl⟩ := h.here
    obtain rfl := Option.some.inj same
    cases rest with
    | nil => rfl
    | cons entry rest =>
      obtain ⟨joint, next⟩ := entry
      exact (scanFrom_cons env comparison next joint rest).elim (·.2) fun ⟨goes, _⟩ =>
        absurd h.settles goes
  | succ place ih =>
    cases rest with
    | nil =>
      obtain ⟨_, same, _⟩ := h.here
      cases same
    | cons entry rest =>
      obtain ⟨joint, next⟩ := entry
      obtain ⟨goes, decided⟩ := h.passed
      rw [← ih decided]
      exact (scanFrom_cons env comparison next joint rest).elim (fun ⟨settles, _⟩ =>
        absurd settles goes) (·.2)

/-- **The outcome of a scan** is that of the comparison that decides. -/
theorem scan_eq_iff : chain.scan env = result ↔ ∃ place, DecidedAt env chain place result := by
  constructor
  · rintro rfl
    exact exists_decidedAt env chain.first chain.rest
  · rintro ⟨place, decided⟩
    exact scanFrom_of_decidedAt decided

/-- **Chains that are the same up to a place,** the joint behind it included. -/
structure SameUpTo (place : Nat) (chain other : Chain) : Prop where
  comparisons : ∀ earlier ≤ place, chain.comparisons[earlier]? = other.comparisons[earlier]?
  joints : ∀ earlier ≤ place, chain.joints[earlier]? = other.joints[earlier]?

/-- **What stands behind the comparison that decides** has no influence. -/
theorem DecidedAt.of_same (h : DecidedAt env chain place result) (same : SameUpTo place chain other) :
    DecidedAt env other place result where
  here := same.comparisons place (Nat.le_refl _) ▸ h.here
  settles := same.joints place (Nat.le_refl _) ▸ h.settles
  passes earlier less := by
    rw [← same.comparisons earlier (Nat.le_of_lt less), ← same.joints earlier (Nat.le_of_lt less)]
    exact h.passes earlier less

/-- **A condition is a scan from left to right.** A markup is read into the condition of a chain
exactly if the chain is written as the markup, and every condition is that of a chain. Its tree
joins the comparisons to the right. In every environment the recursion over the tree, the
condition and the scan of the chain come to the same. One comparison decides, and all chains that
are the same up to there come to the same. -/
theorem evalCondition_scan (chain : Chain) :
    (∀ markup offset, chain.WrittenAs markup ↔
      Markup.readCondition markup offset = .ok chain.condition) ∧
    (∀ condition : Condition, ∃ chain : Chain, chain.condition = condition) ∧
    chain.condition.joined = .foldRight chain.first chain.rest ∧
    ∀ env, evalJoined env chain.condition.joined = evalCondition env chain.condition ∧
      evalCondition env chain.condition = chain.scan env ∧
      ∃ place, DecidedAt env chain place (chain.scan env) ∧
        ∀ other, SameUpTo place chain other →
          evalCondition env other.condition = evalCondition env chain.condition := by
  refine ⟨fun markup offset => writtenAs_iff markup offset chain, exists_condition,
    joined_condition chain, fun env => ?_⟩
  have scans : ∀ chain : Chain, evalCondition env chain.condition = chain.scan env :=
    fun chain => evalCondition_conditionFrom env chain.first chain.rest
  obtain ⟨place, decided⟩ := scan_eq_iff.1 (rfl : chain.scan env = chain.scan env)
  refine ⟨evalJoined_joined env _, scans chain, place, decided, fun other same => ?_⟩
  rw [scans, scans]
  exact scan_eq_iff.2 ⟨place, decided.of_same same⟩

/-- A false comparison before `and` decides, though a true one follows after `or`. -/
example (env : Env) (skipped : Comparison) :
    scan env ⟨⟨.literal .nil, none⟩, [(.and, skipped), (.or, ⟨.literal (.bool true), none⟩)]⟩ =
      .ok false := rfl

end Chain
end Render
end MailMerge
