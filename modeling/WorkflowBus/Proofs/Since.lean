/-
What has held since a step.

Histories grow at their end.  A step is in force if it has been taken and no later step has
ended it, and whether it is in force after one more step is decided by that step alone.  What
the steps tell, one more step tells last.
-/

namespace WorkflowBus

variable {α : Type}

/-- The step has been taken, and no later one is among those that end it. -/
def Since (first : α) (ends : α → Prop) (past : List α) : Prop :=
  ∃ before after, past = before ++ first :: after ∧ ∀ step ∈ after, ¬ends step

theorem not_since_nil (first : α) (ends : α → Prop) : ¬Since first ends [] := by
  intro ⟨before, after, split, _lasting⟩
  exact List.append_ne_nil_of_right_ne_nil before (List.cons_ne_nil first after) split.symm

theorem since_concat {first : α} {ends : α → Prop} (past : List α) (step : α) :
    Since first ends (past ++ [step]) ↔ step = first ∨ Since first ends past ∧ ¬ends step := by
  constructor
  · intro ⟨before, after, split, lasting⟩
    -- The first step is either the last one or one of those before it.
    rcases List.eq_nil_or_concat after with nothing | ⟨init, last, longer⟩
    · subst nothing
      exact Or.inl (List.singleton_inj.mp (List.append_inj_right' split rfl))
    · rw [List.concat_eq_append] at longer
      subst longer
      rw [← List.cons_append, ← List.append_assoc] at split
      obtain ⟨earlier, same⟩ := List.append_inj' split rfl
      cases List.singleton_inj.mp same
      refine Or.inr ⟨⟨before, init, earlier, ?_⟩, ?_⟩
      · exact fun step member => lasting step (List.mem_append_left _ member)
      · exact lasting step (List.mem_append_right _ List.mem_cons_self)
  · intro either
    rcases either with same | ⟨⟨before, after, split, lasting⟩, goes⟩
    · exact ⟨past, [], by rw [same], fun _step member => absurd member List.not_mem_nil⟩
    · refine ⟨before, after ++ [step], by rw [split, List.append_assoc]; rfl, ?_⟩
      intro other member
      rcases List.mem_append.mp member with earlier | last
      · exact lasting other earlier
      · exact List.mem_singleton.mp last ▸ goes

theorem filterMap_concat {β : Type} (tells : α → Option β) (past : List α) (step : α) :
    (past ++ [step]).filterMap tells = past.filterMap tells ++ (tells step).toList := by
  rw [List.filterMap_append]
  cases told : tells step <;> simp [told]

end WorkflowBus
