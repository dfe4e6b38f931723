import Lox.Tree
namespace Lox

structure Store where
  bindings : List (String × Value)
deriving Repr

namespace Store

def empty : Store := ⟨[]⟩

def get? (s : Store) (name : String) : Option Value := s.bindings.lookup name

/-- A name keeps its place when it is bound again. -/
def bind (name : String) (v : Value) : List (String × Value) → List (String × Value)
  | [] => [(name, v)]
  | (other, old) :: rest =>
    if name == other then (other, v) :: rest else (other, old) :: bind name v rest

def define (s : Store) (name : String) (v : Value) : Store := ⟨bind name v s.bindings⟩

def assign? (s : Store) (name : String) (v : Value) : Option Store :=
  if (s.get? name).isSome then some (s.define name v) else none

theorem lookup_bind (name : String) (v : Value) (bindings : List (String × Value)) (x : String) :
    (bind name v bindings).lookup x = if x = name then some v else bindings.lookup x := by
  induction bindings with
  | nil => by_cases h : x = name <;> simp [bind, List.lookup_cons, h, beq_false_of_ne]
  | cons b rest ih =>
    obtain ⟨other, old⟩ := b
    by_cases ho : name = other
    · by_cases h : x = other <;> simp [bind, List.lookup_cons, ho, h, beq_false_of_ne]
    · by_cases h : x = other
      · have : ¬other = name := fun e => ho e.symm
        simp [bind, ho, h, this]
      · simp [bind, List.lookup_cons, ho, h, beq_false_of_ne, ih]

/-- A look-up sees the last value that a name was bound to. -/
theorem get?_define (s : Store) (name : String) (v : Value) (x : String) :
    (s.define name v).get? x = if x = name then some v else s.get? x :=
  lookup_bind name v s.bindings x

end Store

inductive WriteFailure where
  | brokenPipe
  | writeZero
  | other (text : String)
deriving DecidableEq, Repr

def WriteFailure.message : WriteFailure → String
  | brokenPipe => "broken pipe"
  | writeZero => "failed to write whole buffer"
  | other text => text

/-- Where printed text goes. A console with no `room` given takes any number of bytes. -/
structure Console where
  written : ByteArray
  room : Option Nat
  failure : WriteFailure

namespace Console

def unlimited : Console := ⟨.empty, none, .brokenPipe⟩

def write (c : Console) (bytes : ByteArray) : Console × Option WriteFailure :=
  match c.room with
  | none => ({ c with written := c.written ++ bytes }, none)
  | some n =>
    if bytes.size ≤ n then
      ({ c with written := c.written ++ bytes, room := some (n - bytes.size) }, none)
    else
      ({ c with written := c.written ++ bytes.extract 0 n, room := some 0 }, some c.failure)

end Console

end Lox
