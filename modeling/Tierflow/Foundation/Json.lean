import Mathlib.Tactic

/-! Values with their JSON texts. A value may have several texts; writing chooses one of them. -/
namespace Tierflow

/-- How values are written and read. -/
structure JsonCodec (J : Type*) where
  marshal : J → String
  unmarshal : String → Option J
  emptyObject : J
  unmarshal_marshal : ∀ j, unmarshal (marshal j) = some j
  unmarshal_empty : unmarshal "" = none

namespace JsonCodec
variable {J : Type*} (codec : JsonCodec J)

lemma marshal_ne_empty (j : J) : codec.marshal j≠"" := by
  intro h
  have hread := codec.unmarshal_marshal j
  rw [h,codec.unmarshal_empty] at hread
  cases hread

lemma marshal_injective : Function.Injective codec.marshal := by
  intro i j h
  have hi := codec.unmarshal_marshal i
  rw [h,codec.unmarshal_marshal j] at hi
  exact (Option.some.inj hi).symm

end JsonCodec
end Tierflow
