import BlockAudit.Proofs.Evaluation.Node
import Mathlib.Data.List.Forall2
/-!
Laws of the combinators. They hold of whole evaluations, with the variables that are bound, the notices
and the faults, since every predicate is evaluated and none is passed over. Main statement:
`boolean_laws`.
-/

namespace BlockAudit.MatchSpec

open Evaluation

/-- From every trace both specs come to the same verdict or fault, and leave the same trace. -/
def Equivalent (p q : MatchSpec) : Prop :=
  ∀ (modules : List Module) (b : Block), p.evaluate modules b = q.evaluate modules b

def combine (a : Action) (ps : List MatchSpec) : MatchSpec := ⟨a, "", .null, ps, none, [], ""⟩

def conj (ps : List MatchSpec) : MatchSpec := combine .and ps

def disj (ps : List MatchSpec) : MatchSpec := combine .or ps

def neg (p : MatchSpec) : MatchSpec := combine .not [p]

variable (modules : List Module) {p : MatchSpec} {ps qs rs : List MatchSpec} (b : Block)

theorem evaluate_conj (ps : List MatchSpec) :
    (conj ps).evaluate modules b = return (← verdicts modules ps b).all id :=
  evaluate_of_no_preConditions modules rfl b

theorem evaluate_disj (ps : List MatchSpec) :
    (disj ps).evaluate modules b = return (← verdicts modules ps b).any id :=
  evaluate_of_no_preConditions modules rfl b

theorem evaluate_neg (p : MatchSpec) :
    (neg p).evaluate modules b = return !(← p.evaluate modules b) :=
  evaluate_of_no_preConditions modules rfl b

theorem verdicts_append (ps qs : List MatchSpec) : verdicts modules (ps ++ qs) b = do
    let vs ← verdicts modules ps b
    let ws ← verdicts modules qs b
    return vs ++ ws := by
  induction ps with
  | nil => simp [verdicts]
  | cons p ps ih => simp [verdicts, ih]

theorem verdicts_map_neg (ps : List MatchSpec) :
    verdicts modules (ps.map neg) b = return (← verdicts modules ps b).map (!·) := by
  induction ps with
  | nil => simp [verdicts]
  | cons p ps ih => simp [verdicts, ih, evaluate_neg]

theorem verdicts_congr (h : List.Forall₂ Equivalent ps qs) :
    verdicts modules ps b = verdicts modules qs b := by
  induction h with
  | nil => rfl
  | cons hpq _ ih => rw [verdicts, verdicts, hpq modules b, ih]

theorem firstVerdict_congr (h : List.Forall₂ Equivalent ps qs) :
    firstVerdict modules ps b = firstVerdict modules qs b := by
  cases h with
  | nil => rfl
  | cons hpq _ => exact hpq modules b

theorem equivalent_neg_conj (ps : List MatchSpec) :
    Equivalent (neg (conj ps)) (disj (ps.map neg)) := by
  intro modules b
  rw [evaluate_neg, evaluate_conj, evaluate_disj, verdicts_map_neg]
  simp only [bind_assoc, pure_bind, List.not_all_eq_any_not, List.any_map, Function.comp_def, id]

theorem equivalent_neg_disj (ps : List MatchSpec) :
    Equivalent (neg (disj ps)) (conj (ps.map neg)) := by
  intro modules b
  rw [evaluate_neg, evaluate_disj, evaluate_conj, verdicts_map_neg]
  simp only [bind_assoc, pure_bind, List.not_any_eq_all_not, List.all_map, Function.comp_def, id]

theorem equivalent_neg_neg (p : MatchSpec) : Equivalent (neg (neg p)) p := by
  intro modules b
  rw [evaluate_neg, evaluate_neg]
  simp only [bind_assoc, pure_bind, Bool.not_not, bind_pure]

theorem verdicts_flatten {f : List Bool → Bool}
    (hf : ∀ vs ws us, f (vs ++ [f ws] ++ us) = f (vs ++ ws ++ us))
    (hp : p.evaluate modules b = return f (← verdicts modules qs b)) :
    (do return f (← verdicts modules (ps ++ [p] ++ rs) b) : Evaluation Bool) =
      (do return f (← verdicts modules (ps ++ qs ++ rs) b)) := by
  have hsingle : verdicts modules [p] b = return [f (← verdicts modules qs b)] := by
    simp [verdicts, hp]
  simp only [verdicts_append, hsingle, bind_assoc, pure_bind, hf]

theorem equivalent_conj_flatten (ps qs rs : List MatchSpec) :
    Equivalent (conj (ps ++ [conj qs] ++ rs)) (conj (ps ++ qs ++ rs)) := by
  intro modules b
  rw [evaluate_conj, evaluate_conj]
  exact verdicts_flatten modules b (by simp) (evaluate_conj modules b qs)

theorem equivalent_disj_flatten (ps qs rs : List MatchSpec) :
    Equivalent (disj (ps ++ [disj qs] ++ rs)) (disj (ps ++ qs ++ rs)) := by
  intro modules b
  rw [evaluate_disj, evaluate_disj]
  exact verdicts_flatten modules b (by simp) (evaluate_disj modules b qs)

theorem equivalent_combine {n : MatchSpec} (haction : n.action.isCombinator = true)
    (hpreConditions : n.preConditions = []) (h : List.Forall₂ Equivalent n.predicates ps) :
    Equivalent n (combine n.action ps) := by
  intro modules b
  rw [evaluate_of_no_preConditions modules hpreConditions b,
    evaluate_of_no_preConditions modules rfl b, handle, handle]
  cases ha : n.action with
  | and => simp only [combine, verdicts_congr modules b h]
  | or => simp only [combine, verdicts_congr modules b h]
  | not => simp only [combine, firstVerdict_congr modules b h]
  | _ => simp [ha, Action.isCombinator] at haction

theorem boolean_laws (ps qs rs : List MatchSpec) (p : MatchSpec) :
    Equivalent (neg (conj ps)) (disj (ps.map neg)) ∧
      Equivalent (neg (disj ps)) (conj (ps.map neg)) ∧
      Equivalent (neg (neg p)) p ∧
      Equivalent (conj (ps ++ [conj qs] ++ rs)) (conj (ps ++ qs ++ rs)) ∧
      Equivalent (disj (ps ++ [disj qs] ++ rs)) (disj (ps ++ qs ++ rs)) ∧
      ∀ n : MatchSpec, n.action.isCombinator = true → n.preConditions = [] →
        List.Forall₂ Equivalent n.predicates ps → Equivalent n (combine n.action ps) :=
  ⟨equivalent_neg_conj ps, equivalent_neg_disj ps, equivalent_neg_neg p,
    equivalent_conj_flatten ps qs rs, equivalent_disj_flatten ps qs rs,
    fun _ haction hpreConditions h => equivalent_combine haction hpreConditions h⟩

end BlockAudit.MatchSpec
