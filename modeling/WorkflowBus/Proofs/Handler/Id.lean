/-
Identities of category handlers.

An identity belongs to a category exactly when its handler bears the category's
name, and each category's identities belong to it alone.
-/

import WorkflowBus.Handler.Id

namespace WorkflowBus
namespace HandlerId

def NamesCategory (id : HandlerId) : Prop :=
  ∃ category : Category, id.handler = category.name

theorem category?_eq_some_iff (id : HandlerId) (category : Category) :
    id.category? = some category ↔ id.handler = category.name := by
  constructor
  · intro found
    have same := List.find?_some found
    exact (of_decide_eq_true same).symm
  · intro named
    simp only [category?, named]
    cases category <;> decide

theorem category?_eq_none_iff (id : HandlerId) : id.category? = none ↔ ¬id.NamesCategory := by
  rw [Option.eq_none_iff_forall_ne_some]
  constructor
  · intro unnamed naming
    obtain ⟨category, named⟩ := naming
    exact unnamed category ((id.category?_eq_some_iff category).mpr named)
  · intro unnamed category found
    exact unnamed ⟨category, (id.category?_eq_some_iff category).mp found⟩

theorem category?_ofCategory (category : Category) (eventType : EventType) :
    (ofCategory category eventType).category? = some category :=
  (category?_eq_some_iff _ category).mpr rfl

theorem ofCategory_injective (eventType : EventType) {left right : Category}
    (same : ofCategory left eventType = ofCategory right eventType) : left = right := by
  have found := congrArg category? same
  rw [category?_ofCategory, category?_ofCategory] at found
  exact Option.some.inj found

theorem eq_ofCategory_iff (id : HandlerId) (category : Category) (eventType : EventType) :
    id = ofCategory category eventType ↔
      id.category? = some category ∧ id.method = eventType.handlerMethod := by
  rw [category?_eq_some_iff]
  cases id
  exact HandlerId.mk.injEq _ _ _ _ ▸ Iff.rfl

end HandlerId
end WorkflowBus
