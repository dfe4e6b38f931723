import Lox.Operator
namespace Lox.Operator

inductive UnaryFault (op : Token) : Fault → Prop
  | notNumber (hk : op.kind = .minus) : UnaryFault op (.notNumber op)
  | unknown : UnaryFault op (.unknownOperator op)

inductive BinaryFault (op : Token) : Fault → Prop
  | notAddable (hk : op.kind = .plus) : BinaryFault op (.notAddable op lhs rhs)
  | notNumbers (hk : op.kind ∈ [.minus, .star, .slash, .greater, .greaterEqual, .less, .lessEqual]) :
      BinaryFault op (.notNumbers op lhs rhs)
  | divisionByZero (hk : op.kind = .slash) : BinaryFault op (.divisionByZero op)
  | unknown : BinaryFault op (.unknownOperator op)

theorem unaryFault_of_unary (h : unary op v = .error f) : UnaryFault op f := by
  unfold unary at h
  split at h
  · cases h
  · next hk =>
    split at h
    · cases h
    · cases h
      exact .notNumber hk
  · cases h
    exact .unknown

theorem notAddable_of_add (h : add op lhs rhs = .error f) : f = .notAddable op lhs rhs := by
  unfold add at h
  split at h
  all_goals cases h
  rfl

theorem divisionByZero_of_divide (h : divide op x y = .error f) : f = .divisionByZero op := by
  unfold divide at h
  split at h
  · cases h
    rfl
  · cases h

/-- Operands that are not numbers are refused before the operator is looked at. -/
theorem of_onNumbers {g : Float → Float → Except Fault Value} (h : onNumbers op lhs rhs g = .error f) :
    f = .notNumbers op lhs rhs ∨ ∃ x y, g x y = .error f := by
  unfold onNumbers at h
  split at h
  · exact .inr ⟨_, _, h⟩
  · cases h
    exact .inl rfl

theorem binaryFault_of_arithmetic
    (hk : op.kind ∈ [.minus, .star, .slash, .greater, .greaterEqual, .less, .lessEqual])
    (h : arithmetic op lhs rhs = .error f) : BinaryFault op f := by
  rcases of_onNumbers h with rfl | ⟨x, y, h⟩
  · exact .notNumbers hk
  · split at h
    · cases h
    · cases h
    · next hslash =>
      rw [divisionByZero_of_divide h]
      exact .divisionByZero hslash
    · cases h
      exact .unknown

theorem binaryFault_of_ordering
    (hk : op.kind ∈ [.minus, .star, .slash, .greater, .greaterEqual, .less, .lessEqual])
    (h : ordering op lhs rhs = .error f) : BinaryFault op f := by
  rcases of_onNumbers h with rfl | ⟨x, y, h⟩
  · exact .notNumbers hk
  · split at h
    all_goals cases h
    exact .unknown

/-- Whatever table an operator is looked up in, its fault is about itself. -/
theorem binaryFault_of_binary (h : binary op lhs rhs = .error f) : BinaryFault op f := by
  unfold binary at h
  split at h
  · next hk =>
    rw [notAddable_of_add h]
    exact .notAddable hk
  · next hk => exact binaryFault_of_arithmetic (by simp [hk]) h
  · next hk => exact binaryFault_of_arithmetic (by simp [hk]) h
  · next hk => exact binaryFault_of_arithmetic (by simp [hk]) h
  · next hk => exact binaryFault_of_ordering (by simp [hk]) h
  · next hk => exact binaryFault_of_ordering (by simp [hk]) h
  · next hk => exact binaryFault_of_ordering (by simp [hk]) h
  · next hk => exact binaryFault_of_ordering (by simp [hk]) h
  · cases h
  · cases h
  · cases h
    exact .unknown

end Lox.Operator
