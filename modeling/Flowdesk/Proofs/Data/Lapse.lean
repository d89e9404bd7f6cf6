import Mathlib.Data.List.Basic
import Mathlib.Data.List.Induction

/-!
# Lapses of a law

A law about a system may be broken by one move and restored by a later one. A lapse is
a move that broke it and that no later move made good. Where it is known of each move
that it breaks the law, that it restores the law, or that it leaves the law as it was,
the law holds at the end of a run exactly when the run has no lapse.
-/

namespace Flowdesk

variable {σ μ : Type}

/-- Some move of a run broke a law, and no move after it restored the law. -/
def Lapsed (act : σ → μ → σ) (breaks restores : σ → μ → Prop) (start : σ)
    (moves : List μ) : Prop :=
  ∃ earlier move later, moves = earlier ++ move :: later ∧
    breaks (earlier.foldl act start) move ∧
    ∀ between restorer rest, later = between ++ restorer :: rest →
      ¬restores ((earlier ++ move :: between).foldl act start) restorer

/-- What each move does to a law, in the states of an invariant. -/
structure Sways (act : σ → μ → σ) (invariant law : σ → Prop)
    (breaks restores : σ → μ → Prop) : Prop where
  kept : ∀ state move, invariant state → invariant (act state move)
  broken : ∀ state move, invariant state → breaks state move → ¬law (act state move)
  restored : ∀ state move, invariant state → restores state move → law (act state move)
  left : ∀ state move, invariant state → ¬breaks state move → ¬restores state move →
    (law (act state move) ↔ law state)

variable {act : σ → μ → σ} {breaks restores : σ → μ → Prop}

/-- A run without moves has no lapse. -/
theorem not_lapsed_nil (start : σ) : ¬Lapsed act breaks restores start [] := by
  rintro ⟨earlier, move, later, none, _⟩
  exact absurd none.symm (List.append_ne_nil_of_right_ne_nil earlier (List.cons_ne_nil move later))

/-- After one more move a run has a lapse if this move breaks the law, or if it had one
that this move does not make good. -/
theorem lapsed_append_singleton_iff (start : σ) (moves : List μ) (last : μ) :
    Lapsed act breaks restores start (moves ++ [last]) ↔
      breaks (moves.foldl act start) last ∨
        Lapsed act breaks restores start moves ∧ ¬restores (moves.foldl act start) last := by
  constructor
  · rintro ⟨earlier, move, later, whole, breaking, unrestored⟩
    rcases later.eq_nil_or_concat' with rfl | ⟨later, final, rfl⟩
    · obtain ⟨rfl, same⟩ := List.append_inj' whole rfl
      obtain rfl := List.singleton_inj.mp same
      exact .inl breaking
    · rw [← List.cons_append, ← List.append_assoc] at whole
      obtain ⟨rfl, same⟩ := List.append_inj' whole rfl
      obtain rfl := List.singleton_inj.mp same
      refine .inr ⟨⟨earlier, move, later, rfl, breaking, ?_⟩, unrestored later last [] rfl⟩
      intro between restorer rest split
      exact unrestored between restorer (rest ++ [last]) (by simp [split])
  · rintro (breaking | ⟨⟨earlier, move, later, rfl, breaking, unrestored⟩, unmended⟩)
    · refine ⟨moves, last, [], rfl, breaking, ?_⟩
      intro between restorer rest none
      exact absurd none.symm
        (List.append_ne_nil_of_right_ne_nil between (List.cons_ne_nil restorer rest))
    · refine ⟨earlier, move, later ++ [last], by simp, breaking, ?_⟩
      intro between restorer rest split
      rcases rest.eq_nil_or_concat' with rfl | ⟨rest, final, rfl⟩
      · obtain ⟨rfl, same⟩ := List.append_inj' split rfl
        obtain rfl := List.singleton_inj.mp same
        exact unmended
      · rw [← List.cons_append, ← List.append_assoc] at split
        exact unrestored between restorer rest (List.append_inj' split rfl).1

variable {invariant law : σ → Prop}

/-- An invariant that every move keeps holds after a run. -/
theorem Sways.invariant_foldl (sways : Sways act invariant law breaks restores) {start : σ}
    (holds : invariant start) (moves : List μ) : invariant (moves.foldl act start) := by
  induction moves generalizing start with
  | nil => exact holds
  | cons first moves inductionHypothesis =>
    exact inductionHypothesis (sways.kept start first holds)

/-- A law that holds at the start holds after a run exactly when the run has no lapse.
The induction is from the end of the run, since it is the last move that breaks the law
or makes good what broke it before. -/
theorem Sways.law_iff (sways : Sways act invariant law breaks restores) {start : σ}
    (holds : invariant start) (lawful : law start) (moves : List μ) :
    law (moves.foldl act start) ↔ ¬Lapsed act breaks restores start moves := by
  induction moves using List.reverseRecOn with
  | nil => exact iff_of_true lawful (not_lapsed_nil start)
  | append_singleton moves last inductionHypothesis =>
    have reached : invariant (moves.foldl act start) := sways.invariant_foldl holds moves
    rw [lapsed_append_singleton_iff, List.foldl_append, List.foldl_cons, List.foldl_nil]
    by_cases breaking : breaks (moves.foldl act start) last
    · exact iff_of_false (sways.broken _ last reached breaking) fun without =>
        without (.inl breaking)
    · by_cases restoring : restores (moves.foldl act start) last
      · refine iff_of_true (sways.restored _ last reached restoring) ?_
        rintro (broken | ⟨_, unmended⟩)
        · exact breaking broken
        · exact unmended restoring
      · rw [sways.left _ last reached breaking restoring, inductionHypothesis]
        simp only [breaking, restoring, not_false_eq_true, and_true, false_or]

end Flowdesk
